import TeaVpn2.Lib.Prog
import TeaVpn2.Model.Packet

/-!
# The event loop of the client (client/linux/udp_epoll.c)

The handlers of a worker thread, as programs over the accesses they make to the shared
state and the system calls. The result of `recvfrom` and of `read` on the TUN device is
the input of a handler: a datagram or packet, or an `errno`. A handler takes the packet
buffer of its thread and returns the one it leaves, beside the value of the C function.
-/

set_option autoImplicit false

namespace TeaVpn2

open TeaVpn2.Lib

/-- The fields of `struct cli_udp_state` that the handlers use. -/
structure CliUdpState where
  stop : Bool := false
  loopC : UInt8 := 0
  lastT : Int := 0
deriving DecidableEq, Repr

/-! ## Operations -/

inductive EplOp where
  | write (data : List UInt8)
  | sendto (data : List UInt8)
  | updateLastT
  | incLoopC
  | storeStop
deriving DecidableEq, Repr

/-- `write` and `sendto` answer a length or `-errno`, `incLoopC` the value before the
increment. -/
def EplOp.Res : EplOp → Type
  | .write _ => Int
  | .sendto _ => Int
  | .updateLastT => Unit
  | .incLoopC => UInt8
  | .storeStop => Unit

/-- What can be observed of a worker thread. -/
inductive EplEvent where
  | tunWrite (data : List UInt8) (ret : Int)
  | send (data : List UInt8) (ret : Int)
deriving DecidableEq, Repr

/-- The results of the system calls to come; a list that has run out means success. -/
structure EplEnv where
  write : List Int := []
  sendto : List Int := []
  gettimeofday : List (Option Int) := []
  clock : Int := 0
deriving DecidableEq, Repr

structure EplWorld where
  st : CliUdpState := {}
  env : EplEnv := {}
  log : List EplEvent := []

/-- `get_unix_time(&state->last_t)`: a failing clock leaves the field as it was. -/
def EplWorld.updateLastT (w : EplWorld) : EplWorld :=
  match w.env.gettimeofday with
  | [] => { w with st := { w.st with lastT := w.env.clock } }
  | t :: ts =>
      { w with
        st := { w.st with lastT := t.getD w.st.lastT }
        env := { w.env with gettimeofday := ts } }

/-- The effect of an operation. -/
def eplExec : (o : EplOp) → EplWorld → o.Res × EplWorld
  | .write data, w =>
      let ret := w.env.write.headD data.length
      (ret, { w with
        env := { w.env with write := w.env.write.tail }
        log := w.log ++ [.tunWrite data ret] })
  | .sendto data, w =>
      let ret := w.env.sendto.headD data.length
      (ret, { w with
        env := { w.env with sendto := w.env.sendto.tail }
        log := w.log ++ [.send data ret] })
  | .updateLastT, w => ((), w.updateLastT)
  | .incLoopC, w => (w.st.loopC, { w with st := { w.st with loopC := w.st.loopC + 1 } })
  | .storeStop, w => ((), { w with st := { w.st with stop := true } })

/-- A piece of code of a worker thread. -/
abbrev Epl := Prog EplOp EplOp.Res

namespace Epl

/-- Issue one operation. -/
abbrev act (o : EplOp) : Epl o.Res := Prog.call o

abbrev write (data : List UInt8) : Epl Int := act (.write data)
abbrev doSendTo (data : List UInt8) : Epl Int := act (.sendto data)
abbrev updateLastT : Epl Unit := act .updateLastT
abbrev incLoopC : Epl UInt8 := act .incLoopC
abbrev storeStop : Epl Unit := act .storeStop

/-! ## Datagrams of the server (udp_epoll.c:225-321) -/

/-- udp_epoll.c:225-252. At most the 4096 bytes of `cli.__raw` are received, to the start
of the packet. -/
def recvFromServer (pkt : ScPkt) : Except Int (List UInt8) → Int × ScPkt
  | .error errno => (if errno = EAGAIN then 0 else -errno, pkt)
  | .ok data =>
      let data := data.take 4096
      let raw := pkt.raw.write 0 data
      if data.length = 0 then (-ENETDOWN, { pkt with raw := raw })
      else (data.length, { len := data.length, raw := raw })

/-- udp_epoll.c:255-268: the length comes from the header of the packet. -/
def handleTunData (pkt : ScPkt) : Epl Int := do
  let dataLen := pktLen pkt.raw
  let writeRet ← write (pkt.raw.read 4 dataLen.toNat)
  pure (if writeRet < 0 then writeRet else 0)

/-- udp_epoll.c:271-280. -/
def handleReqSync (pkt : ScPkt) : Epl (Int × ScPkt) := do
  let p := cliPprep pkt.raw TSRV_PKT_SYNC 0 0
  let sendRet ← doSendTo (sent p)
  pure (if sendRet < 0 then sendRet else 0, { pkt with raw := p.1 })

/-- udp_epoll.c:283-308. -/
def _handleEventUdp (pkt : ScPkt) : Epl (Int × ScPkt) := do
  let type := pktType pkt.raw
  if type = TSRV_PKT_HANDSHAKE ∨ type = TSRV_PKT_AUTH_OK then
    pure (0, pkt)
  else if type = TSRV_PKT_TUN_DATA then
    let ret ← handleTunData pkt
    pure (ret, pkt)
  else if type = TSRV_PKT_REQSYNC then
    let (ret, pkt) ← handleReqSync pkt
    updateLastT
    pure (ret, pkt)
  else if type = TSRV_PKT_SYNC then
    updateLastT
    pure (0, pkt)
  else if type = TSRV_PKT_CLOSE then
    storeStop
    pure (0, pkt)
  else
    pure (-EBADRQC, pkt)

/-- udp_epoll.c:311-321. -/
def handleEventUdp (pkt : ScPkt) (recv : Except Int (List UInt8)) : Epl (Int × ScPkt) :=
  let (recvRet, pkt) := recvFromServer pkt recv
  if recvRet ≤ 0 then pure (recvRet, pkt)
  else _handleEventUdp pkt

/-! ## Packets from the TUN device (udp_epoll.c:324-349) -/

def handleEventTun (pkt : ScPkt) : Except Int (List UInt8) → Epl (Int × ScPkt)
  | .error errno => pure (if errno = EAGAIN then 0 else -errno, pkt)
  | .ok data => do
      let raw := pkt.raw.write 4 (data.take 4096)
      let p := cliPprep raw TCLI_PKT_TUN_DATA (UInt16.ofNat (data.take 4096).length) 0
      let sendRet ← doSendTo (sent p)
      pure (if sendRet < 0 then sendRet else 0, { pkt with raw := p.1 })

/-! ## One event (udp_epoll.c:352-368) -/

/-- What `epoll_wait` reports: a readable socket or TUN queue, with what the read gives. -/
inductive Ready where
  | udp (recv : Except Int (List UInt8))
  | tun (read : Except Int (List UInt8))

def UDP_LOOP_C_DEADLINE : UInt8 := 64

def handleEvent (pkt : ScPkt) (event : Ready) : Epl (Int × ScPkt) := do
  let (ret, pkt) ← match event with
    | .udp recv => handleEventUdp pkt recv
    | .tun read => handleEventTun pkt read
  let loopC ← incLoopC
  if loopC % UDP_LOOP_C_DEADLINE = 0 then
    updateLastT
  pure (ret, pkt)

end Epl

end TeaVpn2
