import TeaVpn2.Lib.Prog
import TeaVpn2.Model.Session

/-!
# The atomic operations of the server threads

The handlers of udp_epoll.c are programs over the operations below. One operation is one
mutex-protected section (`create_udp_sess`, `lookup_udp_sess`, `delete_udp_session`), one
access to a field of a shared session, one access to the route map, or one call into the
system (a send, a write to the TUN device, the clock, `teavpn2_auth`). `exec` gives each
its effect on the world; the packet buffer of a thread is private and is passed as a value.

`sendToClient` and `writeTun` contain the retry loops on `EAGAIN`
(udp_epoll.c:231-320, 661-691), which wait for the descriptor to become writable.
-/

set_option autoImplicit false

namespace TeaVpn2

open TeaVpn2.Lib

/-! ## Sending and writing, with the emergency waits -/

/-- The flags and results an emergency wait uses. -/
structure IoFlags where
  stop : Bool
  inEmergency : Bool
  poll : List Int
deriving DecidableEq, Repr

/-- udp_epoll.c:112-136. -/
def waitForFdBeWritable : List Int → Int × List Int
  | [] => (0, [])
  | p :: ps => (if p = 0 then -ETIMEDOUT else if p < 0 then p else 0, ps)

/-- `emergency_wait_for_tun_fd_be_writable` and `emergency_wait_for_udp_fd_be_writable`
have the same body, on different descriptors. -/
def emergencyWait (f : IoFlags) : Int × IoFlags :=
  if f.stop then (-ENETDOWN, { f with inEmergency := true })
  else
    let (ret, ps) := waitForFdBeWritable f.poll
    if ret = 0 then (0, { f with inEmergency := true, poll := ps })
    else (-ENETDOWN, { stop := true, inEmergency := true, poll := ps })

def emergencyWaitForTunFdBeWritable (f : IoFlags) : Int × IoFlags := emergencyWait f

def emergencyWaitForUdpFdBeWritable (f : IoFlags) : Int × IoFlags := emergencyWait f

/-- The loop `send_again` of `send_to_client` on the results `sendto` will give. -/
def sendAgain (pktLen : Nat) : List Int → IoFlags → Int × List Int × IoFlags
  | [], f => (pktLen, [], { f with inEmergency := false })
  | r :: rs, f =>
      if r = -EAGAIN then
        let (ret, f) := emergencyWaitForUdpFdBeWritable f
        if ret = 0 then sendAgain pktLen rs f else (ret, rs, f)
      else if r < 0 then (r, rs, f)
      else if r = 0 then (-ENETDOWN, rs, f)
      else (r, rs, { f with inEmergency := false })

/-- The loop `write_again` of `handle_clpkt_tun_data` on the results `write` will give,
with the result of every attempt. -/
def writeAgain (dataLen : Nat) : List Int → IoFlags → Int × List Int × IoFlags × List Int
  | [], f => (0, [], f, [(dataLen : Int)])
  | r :: rs, f =>
      if r = -EAGAIN then
        let (ret, f) := emergencyWaitForTunFdBeWritable f
        if ret = 0 then
          let (ret, rs, f, tried) := writeAgain dataLen rs f
          (ret, rs, f, r :: tried)
        else (ret, rs, f, [r])
      else if r < 0 then (r, rs, f, [r])
      else if r = 0 then (-ENETDOWN, rs, f, [r])
      else (0, rs, f, [r])

namespace World

def ioFlags (w : World) : IoFlags := ⟨w.st.stop, w.st.inEmergency, w.env.poll⟩

def setIoFlags (w : World) (f : IoFlags) : World :=
  { w with
    st := { w.st with stop := f.stop, inEmergency := f.inEmergency }
    env := { w.env with poll := f.poll } }

/-- `send_to_client` (udp_epoll.c:206-228, 291-320) of a packet to a session. -/
def sendToClient (w : World) (sess : Nat) (data : List UInt8) : Int × World :=
  let s := w.sess sess
  if data.length = 0 then
    (0, (w.setIoFlags { w.ioFlags with inEmergency := false }).emit
      (.send sess s.addr s.isAuthenticated data 0))
  else
    let (ret, rs, f) := sendAgain data.length w.env.sendto w.ioFlags
    let w := w.setIoFlags f
    let w := { w with env := { w.env with sendto := rs } }
    (ret, w.emit (.send sess s.addr s.isAuthenticated data ret))

/-- The writes of one packet of a session to `tun_fds[0]`. -/
def writeTun (w : World) (sess : Nat) (data : List UInt8) : Int × World :=
  let s := w.sess sess
  let (ret, rs, f, tried) := writeAgain data.length w.env.write w.ioFlags
  let w := w.setIoFlags f
  let w := { w with env := { w.env with write := rs } }
  (ret, { w with log := w.log ++ tried.map fun r => .tunWrite s.key s.isAuthenticated data r })

end World

/-! ## Operations -/

inductive Op where
  | lookupUdpSess (addr : UInt32) (port : UInt16)
  | createUdpSess (addr : UInt32) (port : UInt16)
  | deleteUdpSession (sess : Nat)
  | loadIsConnected (sess : Nat)
  | loadIsAuthenticated (sess : Nat)
  | loadLastAct (sess : Nat)
  | loadIpv4Iff (sess : Nat)
  | loadIdx (sess : Nat)
  | loadWiu (sess : Nat)
  | storeAddr (sess : Nat) (saddr : Endpoint)
  | storeIpv4Iff (sess : Nat) (addr : UInt32)
  | storeIsAuthenticated (sess : Nat)
  | storeUsername (sess : Nat) (username : List UInt8)
  | updateLastAct (sess : Nat)
  | incLoopC (sess : Nat)
  | getUnixTime
  | loadNOnSess
  | addRoute (addr : UInt32) (idx : UInt16)
  | delRoute (addr : UInt32)
  | getRoute (addr : UInt32)
  | send (sess : Nat) (data : List UInt8)
  | writeTun (sess : Nat) (data : List UInt8)
  | auth (sess : Nat) (username password : List UInt8)
  | loadRejMsg

def Op.Res : Op → Type
  | .lookupUdpSess _ _ => Option Nat
  | .createUdpSess _ _ => Except Int Nat
  | .deleteUdpSession _ => Int
  | .loadIsConnected _ => Bool
  | .loadIsAuthenticated _ => Bool
  | .loadLastAct _ => Int
  | .loadIpv4Iff _ => UInt32
  | .loadIdx _ => UInt16
  | .loadWiu _ => List UInt8
  | .storeAddr _ _ => Unit
  | .storeIpv4Iff _ _ => Unit
  | .storeIsAuthenticated _ => Unit
  | .storeUsername _ _ => Unit
  | .updateLastAct _ => Unit
  | .incLoopC _ => UInt8
  | .getUnixTime => Option Int
  | .loadNOnSess => UInt16
  | .addRoute _ _ => Unit
  | .delRoute _ => Unit
  | .getRoute _ => Option UInt16
  | .send _ _ => Int
  | .writeTun _ _ => Int
  | .auth _ _ _ => Option IfInfo
  | .loadRejMsg => List UInt8

/-- The effect of an operation. -/
def exec : (o : Op) → World → o.Res × World
  | .lookupUdpSess addr port, w => (lookupUdpSess w.st addr port, w)
  | .createUdpSess addr port, w => createUdpSess w addr port
  | .deleteUdpSession i, w => deleteUdpSession w i
  | .loadIsConnected i, w => ((w.sess i).isConnected, w)
  | .loadIsAuthenticated i, w => ((w.sess i).isAuthenticated, w)
  | .loadLastAct i, w => ((w.sess i).lastAct, w)
  | .loadIpv4Iff i, w => ((w.sess i).ipv4Iff, w)
  | .loadIdx i, w => ((w.sess i).idx, w)
  | .loadWiu i, w => ((w.sess i).wiu, w)
  | .storeAddr i saddr, w => ((), w.setSess i fun s => { s with addr := saddr })
  | .storeIpv4Iff i addr, w => ((), w.setSess i fun s => { s with ipv4Iff := addr })
  | .storeIsAuthenticated i, w => ((), w.setSess i fun s => { s with isAuthenticated := true })
  | .storeUsername i u, w => ((), w.setSess i fun s => { s with username := strncpy2 u 256 })
  | .updateLastAct i, w => ((), w.udpSessUpdateLastAct i)
  | .incLoopC i, w =>
      ((w.sess i).loopC + 1, w.setSess i fun s => { s with loopC := s.loopC + 1 })
  | .getUnixTime, w => w.getUnixTime
  | .loadNOnSess, w => (w.st.nOnSess, w)
  | .addRoute addr idx, w =>
      ((), { w with st := { w.st with ipv4Map := addIpv4RouteMap w.st.ipv4Map addr idx } })
  | .delRoute addr, w =>
      ((), { w with st := { w.st with ipv4Map := delIpv4RouteMap w.st.ipv4Map addr } })
  | .getRoute addr, w => (getIpv4RouteMap w.st.ipv4Map addr, w)
  | .send i data, w => w.sendToClient i data
  | .writeTun i data, w => w.writeTun i data
  | .auth i username password, w =>
      let r := teavpn2Auth w.st.dataDir w.env.fopen username password
      (r, w.emit (.auth i (w.sess i).key r.isSome))
  | .loadRejMsg, w => (cstr (w.env.rejMsg.read 0 512), w)

/-- A piece of server code. -/
abbrev Srv := Prog Op Op.Res

namespace Srv

/-- Issue one operation. -/
abbrev act (o : Op) : Srv o.Res := Prog.call o

abbrev lookupUdpSess (addr : UInt32) (port : UInt16) : Srv (Option Nat) :=
  act (.lookupUdpSess addr port)
abbrev createUdpSess (addr : UInt32) (port : UInt16) : Srv (Except Int Nat) :=
  act (.createUdpSess addr port)
abbrev deleteUdpSession (sess : Nat) : Srv Int := act (.deleteUdpSession sess)
abbrev loadIsConnected (sess : Nat) : Srv Bool := act (.loadIsConnected sess)
abbrev loadIsAuthenticated (sess : Nat) : Srv Bool := act (.loadIsAuthenticated sess)
abbrev loadLastAct (sess : Nat) : Srv Int := act (.loadLastAct sess)
abbrev loadIpv4Iff (sess : Nat) : Srv UInt32 := act (.loadIpv4Iff sess)
abbrev loadIdx (sess : Nat) : Srv UInt16 := act (.loadIdx sess)
abbrev loadWiu (sess : Nat) : Srv (List UInt8) := act (.loadWiu sess)
abbrev storeAddr (sess : Nat) (saddr : Endpoint) : Srv Unit := act (.storeAddr sess saddr)
abbrev storeIpv4Iff (sess : Nat) (addr : UInt32) : Srv Unit :=
  act (.storeIpv4Iff sess addr)
abbrev storeIsAuthenticated (sess : Nat) : Srv Unit := act (.storeIsAuthenticated sess)
abbrev storeUsername (sess : Nat) (username : List UInt8) : Srv Unit :=
  act (.storeUsername sess username)
abbrev udpSessUpdateLastAct (sess : Nat) : Srv Unit := act (.updateLastAct sess)
abbrev incLoopC (sess : Nat) : Srv UInt8 := act (.incLoopC sess)
abbrev getUnixTime : Srv (Option Int) := act .getUnixTime
abbrev loadNOnSess : Srv UInt16 := act .loadNOnSess
abbrev addIpv4RouteMap (addr : UInt32) (idx : UInt16) : Srv Unit :=
  act (.addRoute addr idx)
abbrev delIpv4RouteMap (addr : UInt32) : Srv Unit := act (.delRoute addr)
abbrev getIpv4RouteMap (addr : UInt32) : Srv (Option UInt16) := act (.getRoute addr)
abbrev sendToClient (sess : Nat) (data : List UInt8) : Srv Int := act (.send sess data)
abbrev writeTun (sess : Nat) (data : List UInt8) : Srv Int := act (.writeTun sess data)
abbrev teavpn2Auth (sess : Nat) (username password : List UInt8) : Srv (Option IfInfo) :=
  act (.auth sess username password)
abbrev loadRejMsg : Srv (List UInt8) := act .loadRejMsg

end Srv

end TeaVpn2
