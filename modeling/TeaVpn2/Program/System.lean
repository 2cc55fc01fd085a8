import TeaVpn2.Program.Server

/-!
# Runs of the server

A `Server` is the shared state with the packet buffers of the receiver thread and of the
zombie reaper. One step handles one input completely: a datagram, a packet of the TUN
device, a scan of the reaper, or the shutdown. Every step has an environment of its own,
so the system calls of a run may answer anything at any time. `Server.Reach Cond s₀ s`
says that `s` is reached from `s₀` by steps that all meet `Cond`.
-/

set_option autoImplicit false

namespace TeaVpn2

/-- What the server can be given to do. -/
inductive Input where
  | udp (saddr : Endpoint) (data : List UInt8)
  | tun (data : List UInt8)
  | reap
  | shutdown
deriving DecidableEq, Repr

/-- The server between two inputs, and everything it has done. -/
structure Server where
  st : SrvUdpState
  pkt : ScPkt
  zrPkt : ScPkt
  log : List Event := []

namespace Server

def boot (maxConn : UInt16) (dataDir : List UInt8) (order : ByteOrder) (pkt zrPkt : ScPkt) :
    Server where
  st := initState maxConn dataDir order
  pkt := pkt
  zrPkt := zrPkt

/-- A packet buffer as `calloc` returns it. -/
def zeroPkt : ScPkt := ⟨0, fun _ => 0⟩

/-- The world the handlers run in. -/
def world (s : Server) (env : Env) : World := ⟨s.st, env, s.log⟩

/-- Handle one input, in the environment `env`. -/
def step (s : Server) (env : Env) : Input → Server
  | .udp saddr data =>
      let (r, w) := (Srv.handleEventFromUdp s.st.order s.pkt saddr data).run exec
        ((s.world env).emit (.recv saddr data))
      { s with st := w.st, pkt := r.2, log := w.log }
  | .tun data =>
      let (r, w) := (Srv.handleEventFromTun s.st.maxConn s.pkt data).run exec (s.world env)
      { s with st := w.st, pkt := r.2, log := w.log }
  | .reap =>
      let (zrPkt, w) := (Srv.zombieReaperDoScan s.st.maxConn s.zrPkt).run exec (s.world env)
      { s with st := w.st, zrPkt := zrPkt, log := w.log }
  | .shutdown =>
      let (pkt, w) := (Srv.closeClientSess s.st.maxConn s.pkt).run exec (s.world env)
      { s with st := w.st, pkt := pkt, log := w.log }

/-- The states reached from `s₀` by steps that meet `Cond`. -/
inductive Reach (Cond : Server → Env → Input → Prop) (s₀ : Server) : Server → Prop where
  | init : Reach Cond s₀ s₀
  | step {s : Server} (env : Env) (i : Input) : Reach Cond s₀ s → Cond s env i →
      Reach Cond s₀ (s.step env i)

/-- INTERNAL: the invariant rule for runs. -/
theorem Reach.inv {Cond : Server → Env → Input → Prop} {s₀ s : Server} (I : Server → Prop)
    (hinit : I s₀) (hstep : ∀ s env i, I s → Cond s env i → I (s.step env i))
    (h : Reach Cond s₀ s) : I s := by
  induction h with
  | init => exact hinit
  | step env i _ hc ih => exact hstep _ env i ih hc

/-- Handle a list of inputs, each in its environment. -/
def run (s : Server) : List (Env × Input) → Server
  | [] => s
  | (env, i) :: l => (s.step env i).run l

/-- Every step of a run meets `P`, stated about the server before the step. -/
def Along (P : Server → Env → Input → Prop) : Server → List (Env × Input) → Prop
  | _, [] => True
  | s, (env, i) :: l => P s env i ∧ Along P (s.step env i) l

/-- INTERNAL: a run whose steps meet `Cond` ends in a reachable state. -/
theorem Reach.run {Cond : Server → Env → Input → Prop} {s₀ s : Server} (h : Reach Cond s₀ s)
    (l : List (Env × Input)) (hl : Along Cond s l) : Reach Cond s₀ (s.run l) := by
  induction l generalizing s with
  | nil => exact h
  | cons x l ih => exact ih (h.step x.1 x.2 hl.1) hl.2

end Server

/-- What is assumed of the kernel: `sendto` never fails with `EBADMSG`. -/
def Env.NoEbadmsg (env : Env) : Prop := ∀ r ∈ env.sendto, r ≠ -EBADMSG

end TeaVpn2
