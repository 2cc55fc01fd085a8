import TeaVpn2.Program.Client
import TeaVpn2.Program.ClientTimer
import TeaVpn2.Program.System

/-!
# The whole network

One server, any number of client machines and the datagrams between them. A machine is known by
its endpoint; on it the client program runs, ends or is killed, and is started again with any
configuration. The network may lose, repeat and delay a datagram: it delivers what was sent to
somebody at some time, so the logs of the two sides are all that has to be kept of it. Nobody else
sends under the endpoint of an `honest` machine, and a client hears its server only, since its
socket is connected (client/linux/udp.c:235); from every other endpoint the server can be sent
anything.

A move is one system call of a client that connects, one event of a worker thread of a client, one
tick of its timer, or one input of the server.
-/

set_option autoImplicit false

namespace TeaVpn2

open TeaVpn2.Lib

/-! ## A client machine -/

/-- Where the program of a machine is. While it connects, the rest of `Cli.connect` is kept. -/
inductive PeerStage where
  | off
  | connecting (prog : Cli Cli.Outcome)
  | online (c : Client)

/-- A machine with the history of all its runs: the datagrams that were handed to the socket and the
packets that were written to the TUN device, the packets read from the TUN device, and the `if_info`s
given to `teavpn_iface_up`. -/
structure Peer where
  stage : PeerStage := .off
  log : List EplEvent := []
  tunRead : List (List UInt8) := []
  ups : List (List UInt8) := []

/-- What the system answers a client that connects, to whichever call it makes. -/
structure CallAnswer where
  sendRet : Int := 0
  polled : List (Int × Bool) := []
  recv : Except Int (List UInt8) := .error EAGAIN
  up : Bool := true

/-- The packet that an event takes from the TUN device. -/
def Epl.Ready.tunPackets : Epl.Ready → List (List UInt8)
  | .tun (.ok data) => [data]
  | _ => []

/-- The datagram that an event takes from the socket. -/
def Epl.Ready.recv : Epl.Ready → Except Int (List UInt8)
  | .udp recv => recv
  | .tun _ => .error EAGAIN

namespace Peer

/-- The next system call of a client that connects. -/
def call (p : Peer) (a : CallAnswer) : Option Peer :=
  match p.stage with
  | .connecting (.op (.sendto d) f) =>
      some { p with stage := .connecting (f a.sendRet), log := p.log ++ [.send d a.sendRet] }
  | .connecting (.op .poll f) => some { p with stage := .connecting (f a.polled) }
  | .connecting (.op .recvfrom f) => some { p with stage := .connecting (f a.recv) }
  | .connecting (.op (.teavpnIfaceUp iff) f) =>
      some { p with stage := .connecting (f a.up), ups := p.ups ++ [iff] }
  | _ => none

/-- `do_handshake` and `do_auth` have returned zero, and the event loop begins
(udp.c:708-717, udp_epoll.c:754-768). -/
def enter (p : Peer) (pkt : Nat → ScPkt) (env : EplEnv) : Option Peer :=
  match p.stage with
  | .connecting (.pure out) =>
      if out = ⟨0, some 0⟩ then some { p with stage := .online (Client.start pkt env) } else none
  | _ => none

/-- The client has gone from `c` to `c'` in its event loop. -/
def goOn (p : Peer) (c c' : Client) : Peer :=
  { p with stage := .online c', log := p.log ++ c'.log.drop c.log.length }

/-- A worker thread handles one event. -/
def event (p : Peer) (thread : Nat) (env : EplEnv) (event : Epl.Ready) : Option Peer :=
  match p.stage with
  | .online c => some { p.goOn c (c.handleEvent thread env event).2 with
      tunRead := p.tunRead ++ event.tunPackets }
  | _ => none

def tick (p : Peer) (env : EplEnv) : Option Peer :=
  match p.stage with
  | .online c => some (p.goOn c (c._runTimerThread env))
  | _ => none

/-- The label `out` of `teavpn2_client_udp_run` (udp.c:718-733): a close packet goes out, and the
program ends. -/
def quit (p : Peer) (sendRet : Int) : Option Peer :=
  match p.stage with
  | .off => none
  | .connecting (.op _ _) => none
  | _ => some { p with
      stage := .off
      log := p.log ++ [.send (sent (cliPprep (fun _ => 0) TCLI_PKT_CLOSE 0 0)) sendRet] }

end Peer

/-! ## The network -/

structure Vpn where
  srv : Server
  peer : Endpoint → Peer := fun _ => {}
  /-- The packets the server has read from its TUN device. -/
  tunRead : List (List UInt8) := []

inductive VpnMove where
  | launch (k : Endpoint) (o : ByteOrder) (cfg : CliCfg) (b : Buf)
  | call (k : Endpoint) (a : CallAnswer)
  | enter (k : Endpoint) (pkt : Nat → ScPkt) (env : EplEnv)
  | event (k : Endpoint) (thread : Nat) (env : EplEnv) (event : Epl.Ready)
  | tick (k : Endpoint) (env : EplEnv)
  | quit (k : Endpoint) (sendRet : Int)
  | crash (k : Endpoint)
  | server (env : Env) (inp : Input)

/-- The server has sent the datagram to the endpoint. -/
def Server.hasSent (s : Server) (k : Endpoint) (d : List UInt8) : Bool :=
  s.log.any fun
    | .send _ dst _ data _ => dst == k && data == d
    | _ => false

/-- The machine has sent the datagram. -/
def Peer.hasSent (p : Peer) (d : List UInt8) : Bool :=
  p.log.any fun
    | .send data _ => data == d
    | _ => false

/-- The packets that an input takes from the TUN device. -/
def Input.tunPackets : Input → List (List UInt8)
  | .tun data => [data]
  | _ => []

namespace Vpn

/-- The server has been started, and no client yet. -/
def boot (maxConn : UInt16) (dataDir : List UInt8) (order : ByteOrder) (pkt zrPkt : ScPkt) : Vpn where
  srv := Server.boot maxConn dataDir order pkt zrPkt

/-- The network can give this to the machine `k`; a call that fails has an `errno`. -/
def toPeer (v : Vpn) (k : Endpoint) : Except Int (List UInt8) → Bool
  | .ok d => v.srv.hasSent k d
  | .error errno => 0 < errno

/-- The network can give this to the server. -/
def toServer (honest : Endpoint → Bool) (v : Vpn) : Input → Bool
  | .udp k d => !honest k || (v.peer k).hasSent d
  | _ => true

def setPeer (v : Vpn) (k : Endpoint) (p : Peer) : Vpn :=
  { v with peer := Function.update v.peer k p }

/-- One move; `none` where it cannot be made. -/
def step (honest : Endpoint → Bool) : VpnMove → Vpn → Option Vpn
  | .launch k o cfg b, v =>
      match (v.peer k).stage with
      | .off => some (v.setPeer k { v.peer k with stage := .connecting (Cli.connect o cfg b) })
      | _ => none
  | .call k a, v => if v.toPeer k a.recv then ((v.peer k).call a).map (v.setPeer k) else none
  | .enter k pkt env, v => ((v.peer k).enter pkt env).map (v.setPeer k)
  | .event k thread env event, v =>
      if v.toPeer k event.recv then ((v.peer k).event thread env event).map (v.setPeer k) else none
  | .tick k env, v => ((v.peer k).tick env).map (v.setPeer k)
  | .quit k sendRet, v => ((v.peer k).quit sendRet).map (v.setPeer k)
  | .crash k, v => some (v.setPeer k { v.peer k with stage := .off })
  | .server env inp, v =>
      if v.toServer honest inp then
        some { v with srv := v.srv.step env inp, tunRead := v.tunRead ++ inp.tunPackets }
      else none

end Vpn

end TeaVpn2
