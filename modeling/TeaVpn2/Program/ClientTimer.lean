import TeaVpn2.Program.ClientLoop

/-!
# The timer of the client (client/linux/udp_epoll.c:515-591, 754-768)

The client between two steps of its threads. A step is one event of a worker thread, each
thread with its own packet buffer, or one tick of the timer thread.
-/

set_option autoImplicit false

namespace TeaVpn2

open TeaVpn2.Lib

def UDP_SESS_TIMEOUT : Int := 180

/-- `get_unix_time(tm)`: a failing clock leaves `*tm` as it was. -/
def EplEnv.getUnixTime (env : EplEnv) (tm : Int) : Int × EplEnv :=
  match env.gettimeofday with
  | [] => (env.clock, env)
  | t :: ts => (t.getD tm, { env with gettimeofday := ts })

structure Client where
  st : CliUdpState := {}
  timeoutDisconnect : Bool := false
  pkt : Nat → ScPkt
  log : List EplEvent := []

namespace Client

/-- udp_epoll.c:754-768: what `teavpn2_udp_client_epoll` sets before it runs the event loop. -/
def start (pkt : Nat → ScPkt) (env : EplEnv) : Client where
  st := { lastT := (env.getUnixTime 0).1 }
  pkt := pkt

/-- The world the code of a thread runs in. -/
def world (c : Client) (env : EplEnv) : EplWorld := ⟨c.st, env, c.log⟩

/-- The worker thread `i` handles one event. -/
def handleEvent (c : Client) (i : Nat) (env : EplEnv) (event : Epl.Ready) : Int × Client :=
  let (r, w) := (Epl.handleEvent (c.pkt i) event).run eplExec (c.world env)
  (r.1, { c with st := w.st, pkt := Function.update c.pkt i r.2, log := w.log })

/-! ## Ticks -/

/-- udp_epoll.c:515-525: the packet is prepared on the stack and only its header is sent. -/
def ttSendReqsync (w : EplWorld) : EplWorld :=
  (eplExec (.sendto (sent (cliPprep (fun _ => 0) TCLI_PKT_REQSYNC 0 0))) w).2

/-- The loop `while (i-- > 0) tt_send_reqsync(state)`. -/
def sendReqsyncs : Nat → EplWorld → EplWorld
  | 0, w => w
  | i + 1, w => sendReqsyncs i (ttSendReqsync w)

/-- How many packets a tick sends when the server has been silent for `timeDiff` seconds. -/
def reqsyncs (timeDiff : Int) : Nat :=
  if timeDiff > UDP_SESS_TIMEOUT * 4 / 5 then 7
  else if timeDiff > UDP_SESS_TIMEOUT * 3 / 5 then 5
  else if timeDiff > UDP_SESS_TIMEOUT * 2 / 5 then 3
  else if timeDiff > UDP_SESS_TIMEOUT * 1 / 5 then 1
  else 0

/-- udp_epoll.c:528-571. -/
def _runTimerThread (c : Client) (env : EplEnv) : Client :=
  let (now, env) := env.getUnixTime 0
  let timeDiff := now - c.st.lastT
  if timeDiff > UDP_SESS_TIMEOUT then
    { c with timeoutDisconnect := true, st := { c.st with stop := true } }
  else
    let w := sendReqsyncs (reqsyncs timeDiff) (c.world env)
    { c with st := w.st, log := w.log }

end Client

end TeaVpn2
