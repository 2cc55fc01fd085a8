import TeaVpn2.Lib.Schedule
import TeaVpn2.Program.ClientTimer

/-!
# A server that has gone silent

The timer of the client looks at `last_t`. The handlers of SYNC and REQSYNC packets refresh
it, and so does every 64th event, whatever the event is: a packet from the local TUN device
counts as a sign of life of the server.

A step happens at one moment of the clock, which does not go back. Beside the client, a run
keeps the time of the last step and the time of the last datagram (`Watched`). The timer
detects the silence in a state exactly when `last_t` is no later than the last datagram, or
old enough anyway (`detected_iff`).
-/

set_option autoImplicit false

namespace TeaVpn2.Analysis

open TeaVpn2 TeaVpn2.Lib TeaVpn2.Lib.Schedule

/-! ## Runs -/

/-- A step at the time `now`: the worker `i` handles an event, or the timer ticks; with the
results of `write` and `sendto` during it. -/
inductive ClientMove where
  | event (i : Nat) (now : Int) (write sendto : List Int) (ready : Epl.Ready)
  | tick (now : Int) (sendto : List Int)

/-- The event brings a datagram of the server. -/
def brings : Epl.Ready → Bool
  | .udp (.ok _) => true
  | _ => false

/-- The `errno` of a read that has failed; 1 for a read that has not. -/
def errnoOf : Epl.Ready → Int
  | .udp (.error errno) => errno
  | .tun (.error errno) => errno
  | _ => 1

namespace ClientMove

def time : ClientMove → Int
  | .event _ now _ _ _ => now
  | .tick now _ => now

/-- When the step receives a datagram of the server, if it does. -/
def received : ClientMove → Option Int
  | .event _ now _ _ ready => if brings ready then some now else none
  | .tick _ _ => none

theorem eq_time_of_received {m : ClientMove} {t : Int} (h : m.received = some t) : t = m.time := by
  cases m with
  | event i now write sendto ready =>
    change (if brings ready then some now else none) = some t at h
    rw [Option.ite_none_right_eq_some] at h
    exact (Option.some.inj h.2).symm
  | tick now sendto => cases h

theorem received_le {m : ClientMove} {seen now : Int} (hseen : seen ≤ now) (hm : now ≤ m.time) :
    m.received.getD seen ≤ m.time := by
  cases h : m.received with
  | none => exact Int.le_trans hseen hm
  | some t => exact Int.le_of_eq (eq_time_of_received h)

/-- An `errno` is positive. -/
def Real : ClientMove → Prop
  | .event _ _ _ _ ready => 0 < errnoOf ready
  | .tick _ _ => True

instance : DecidablePred Real
  | .event _ _ _ _ ready => inferInstanceAs (Decidable (0 < errnoOf ready))
  | .tick _ _ => inferInstanceAs (Decidable True)

end ClientMove

/-- The client, the time of the last step and the time of the last datagram; before the
first datagram of the run that is the time at which the event loop was started. -/
structure Watched where
  client : Client
  now : Int
  seen : Int
  seen_le : seen ≤ now

namespace Watched

/-- The client starts its event loop at the time `t₀`. -/
def start (pkt : Nat → ScPkt) (t₀ : Int) : Watched where
  client := Client.start pkt { clock := t₀ }
  now := t₀
  seen := t₀
  seen_le := Int.le_refl t₀

/-- The client after a step. -/
def after (c : Client) : ClientMove → Client
  | .event i now write sendto ready =>
      (c.handleEvent i { write := write, sendto := sendto, clock := now } ready).2
  | .tick now sendto => c._runTimerThread { sendto := sendto, clock := now }

/-- One step; the clock does not go back. -/
def step (m : ClientMove) (w : Watched) : Option Watched :=
  if h : w.now ≤ m.time ∧ m.Real then
    some ⟨after w.client m, m.time, m.received.getD w.seen, ClientMove.received_le w.seen_le h.1⟩
  else none

theorem step_eq_some {m : ClientMove} {w w' : Watched} (h : step m w = some w') :
    (w.now ≤ m.time ∧ m.Real) ∧ w'.client = after w.client m ∧ w'.now = m.time ∧
      w'.seen = m.received.getD w.seen := by
  unfold step at h
  split at h
  · next hle =>
    cases h
    exact ⟨hle, rfl, rfl, rfl⟩
  · cases h

end Watched

/-! ## What a step does to `last_t` and to `stop` -/

/-- A program that is to stop stays so. -/
theorem stop_eplExec (o : EplOp) (w : EplWorld) (h : w.st.stop = true) :
    (eplExec o w).2.st.stop = true := by
  cases o with
  | updateLastT =>
    simp only [eplExec, EplWorld.updateLastT]
    split <;> exact h
  | storeStop => rfl
  | _ => exact h

/-- INTERNAL: with a clock that stands at `t`, `last_t` is never set to more than `t`. -/
theorem lastT_eplExec (t : Int) (o : EplOp) (w : EplWorld)
    (h : (w.env.gettimeofday = [] ∧ w.env.clock = t) ∧ w.st.lastT ≤ t) :
    ((eplExec o w).2.env.gettimeofday = [] ∧ (eplExec o w).2.env.clock = t) ∧
      (eplExec o w).2.st.lastT ≤ t := by
  obtain ⟨⟨hclock, ht⟩, hlast⟩ := h
  cases o with
  | updateLastT =>
    simp only [eplExec, EplWorld.updateLastT, hclock]
    exact ⟨⟨trivial, ht⟩, Int.le_of_eq ht⟩
  | _ => exact ⟨⟨hclock, ht⟩, hlast⟩

theorem stop_handleEvent_client {c : Client} (h : c.st.stop = true) (i : Nat) (env : EplEnv)
    (ready : Epl.Ready) : (c.handleEvent i env ready).2.st.stop = true :=
  Prog.run_keeps (fun w : EplWorld => w.st.stop = true) stop_eplExec
    (Epl.handleEvent (c.pkt i) ready) h

theorem lastT_handleEvent {c : Client} {t : Int} (h : c.st.lastT ≤ t) (i : Nat)
    (write sendto : List Int) (ready : Epl.Ready) :
    (c.handleEvent i { write := write, sendto := sendto, clock := t } ready).2.st.lastT ≤ t :=
  (Prog.run_keeps (fun w : EplWorld =>
      (w.env.gettimeofday = [] ∧ w.env.clock = t) ∧ w.st.lastT ≤ t) (lastT_eplExec t)
    (Epl.handleEvent (c.pkt i) ready) ⟨⟨rfl, rfl⟩, h⟩).2

/-- INTERNAL: after the handler of an event: the event is counted, and every 64th sets
`last_t`.
SOURCE: client/linux/udp_epoll.c:364-365 -/
theorem run_counted (p : Epl (Int × ScPkt)) {w : EplWorld} {t : Int}
    (hst : (p.run eplExec w).2.st = w.st)
    (henv : (p.run eplExec w).2.env.gettimeofday = [] ∧ (p.run eplExec w).2.env.clock = t) :
    ((do
      let (ret, pkt) ← p
      let loopC ← Epl.incLoopC
      if loopC % Epl.UDP_LOOP_C_DEADLINE = 0 then
        Epl.updateLastT
      pure (ret, pkt) : Epl (Int × ScPkt)).run eplExec w).2.st =
      { w.st with
        loopC := w.st.loopC + 1
        lastT := if w.st.loopC % Epl.UDP_LOOP_C_DEADLINE = 0 then t else w.st.lastT } := by
  obtain ⟨hclock, ht⟩ := henv
  have hinc (w : EplWorld) : Epl.incLoopC.run eplExec w =
      (w.st.loopC, { w with st := { w.st with loopC := w.st.loopC + 1 } }) := rfl
  have hlast (w : EplWorld) : Epl.updateLastT.run eplExec w = ((), w.updateLastT) := rfl
  simp only [Prog.run_bind, hinc, hst]
  split
  · simp only [Prog.run_bind, Prog.run_pure, hlast, EplWorld.updateLastT, hclock, ht]
  · rfl

/-- INTERNAL: what an event without a datagram does to the shared fields.
SOURCE: client/linux/udp_epoll.c:225-252, 311-368 -/
theorem st_handleEvent_silent {ready : Epl.Ready} (h : brings ready = false)
    (hreal : 0 < errnoOf ready) (c : Client) (i : Nat) (write sendto : List Int) (t : Int) :
    (c.handleEvent i { write := write, sendto := sendto, clock := t } ready).2.st =
      { c.st with
        loopC := c.st.loopC + 1
        lastT := if c.st.loopC % Epl.UDP_LOOP_C_DEADLINE = 0 then t else c.st.lastT } := by
  cases ready with
  | udp recv =>
    cases recv with
    | ok data => cases h
    | error errno =>
      have hret : (if errno = EAGAIN then 0 else -errno) ≤ 0 := by
        change 0 < errno at hreal
        split <;> omega
      have hread : Epl.handleEventUdp (c.pkt i) (.error errno) =
          pure (if errno = EAGAIN then 0 else -errno, c.pkt i) := by
        simp only [Epl.handleEventUdp, Epl.recvFromServer]
        exact if_pos hret
      apply run_counted (Epl.handleEventUdp (c.pkt i) (.error errno))
      · rw [hread]
        rfl
      · rw [hread]
        exact ⟨rfl, rfl⟩
  | tun read =>
    apply run_counted (Epl.handleEventTun (c.pkt i) read)
    · cases read <;> rfl
    · cases read <;> exact ⟨rfl, rfl⟩

theorem st_sendReqsyncs (n : Nat) (w : EplWorld) : (Client.sendReqsyncs n w).st = w.st := by
  induction n generalizing w with
  | zero => rfl
  | succ n ih => exact ih (Client.ttSendReqsync w)

/-- INTERNAL: what a tick does to the shared fields.
SOURCE: client/linux/udp_epoll.c:528-571 -/
theorem st_runTimerThread (c : Client) (sendto : List Int) (t : Int) :
    (c._runTimerThread { sendto := sendto, clock := t }).st =
      if t - c.st.lastT > UDP_SESS_TIMEOUT then { c.st with stop := true } else c.st := by
  show (if t - c.st.lastT > UDP_SESS_TIMEOUT then _ else _ : Client).st = _
  split
  · rfl
  · exact st_sendReqsyncs _ _

/-! ## Detecting the silence -/

/-- The tick leaves `state->stop` set, and if it was not set before, the tick has set it
because the session timed out. -/
structure TimesOut (c : Client) (t : Int) (sendto : List Int) : Prop where
  stop : (c._runTimerThread { sendto := sendto, clock := t }).st.stop = true
  timeout : c.st.stop = false →
    (c._runTimerThread { sendto := sendto, clock := t }).timeoutDisconnect = true

theorem timesOut_iff (c : Client) (t : Int) (sendto : List Int) :
    TimesOut c t sendto ↔ c.st.stop = true ∨ c.st.lastT + UDP_SESS_TIMEOUT < t := by
  have hst := st_runTimerThread c sendto t
  by_cases hlate : t - c.st.lastT > UDP_SESS_TIMEOUT
  · rw [if_pos hlate] at hst
    refine ⟨fun _ => .inr (by omega), fun _ => ⟨by rw [hst], fun _ => ?_⟩⟩
    show (if t - c.st.lastT > UDP_SESS_TIMEOUT then _ else _ : Client).timeoutDisconnect = true
    rw [if_pos hlate]
  · rw [if_neg hlate] at hst
    constructor
    · intro hout
      have hstop := hout.stop
      rw [hst] at hstop
      exact .inl hstop
    · intro hcases
      have hstop : c.st.stop = true := hcases.resolve_right (by omega)
      refine ⟨by rw [hst, hstop], fun hgoes => ?_⟩
      rw [hstop] at hgoes
      cases hgoes

/-- If there was no datagram after the time `s`, every tick that may come now, later than
`s + UDP_SESS_TIMEOUT`, times out. -/
def Detected (w : Watched) : Prop :=
  ∀ s t sendto, w.seen ≤ s → w.now ≤ t → s + UDP_SESS_TIMEOUT < t → TimesOut w.client t sendto

theorem detected_iff (w : Watched) :
    Detected w ↔ w.client.st.stop = true ∨ w.client.st.lastT ≤ w.seen ∨
      w.client.st.lastT + UDP_SESS_TIMEOUT < w.now := by
  constructor
  · intro hdet
    by_contra hnot
    push Not at hnot
    obtain ⟨hstop, hseen, hnow⟩ := hnot
    -- the last moment at which the timer still accepts `last_t`
    have htick := hdet w.seen (w.client.st.lastT + UDP_SESS_TIMEOUT) [] (Int.le_refl _)
      (by omega) (by omega)
    rw [timesOut_iff] at htick
    rcases htick with htick | htick
    · exact hstop htick
    · omega
  · intro hcases s t sendto hs ht hlate
    rw [timesOut_iff]
    rcases hcases with hstop | hseen | hnow
    · exact .inl hstop
    · exact .inr (by omega)
    · exact .inr (by omega)

/-- The step does not take an event without a datagram for a sign of life of the server:
such an event is not counted as a 64th, or it falls into the second of the last datagram, or
the program stops anyway. -/
def NotMistaken (w : Watched) : ClientMove → Prop
  | .event _ now _ _ ready => brings ready = true ∨
      w.client.st.loopC % Epl.UDP_LOOP_C_DEADLINE ≠ 0 ∨ now ≤ w.seen ∨ w.client.st.stop = true
  | .tick _ _ => True

/-- INTERNAL: one step.
SOURCE: client/linux/udp_epoll.c:283-368, 528-571 -/
theorem detected_step {w w' : Watched} {m : ClientMove} (h : Detected w)
    (hstep : Watched.step m w = some w') : Detected w' ↔ NotMistaken w m := by
  obtain ⟨⟨hle, hreal⟩, hclient, hnow, hseen⟩ := Watched.step_eq_some hstep
  have hsn := w.seen_le
  have hlast : w.client.st.stop = true ∨ w.client.st.lastT ≤ m.time := by
    rcases (detected_iff w).mp h with hstop | hseen | hnow
    · exact .inl hstop
    · exact .inr (by omega)
    · refine .inr ?_
      unfold UDP_SESS_TIMEOUT at hnow
      omega
  rw [detected_iff] at h ⊢
  rw [hclient, hnow, hseen]
  cases m with
  | event i t write sendto ready =>
    simp only [Watched.after, ClientMove.time, ClientMove.received, NotMistaken] at *
    cases hb : brings ready with
    | true =>
      refine ⟨fun _ => .inl rfl, fun _ => ?_⟩
      rcases hlast with hstop | hlast
      · exact .inl (stop_handleEvent_client hstop _ _ _)
      · exact .inr (.inl (lastT_handleEvent hlast i write sendto ready))
    | false =>
      rw [st_handleEvent_silent hb hreal]
      by_cases hstop : w.client.st.stop = true
      · simp only [hstop, true_or, or_true]
      · replace h := h.resolve_left hstop
        by_cases hcount : w.client.st.loopC % Epl.UDP_LOOP_C_DEADLINE = 0
        · simp only [hcount, hstop, if_true, UDP_SESS_TIMEOUT, Bool.false_eq_true, if_false,
            Option.getD_none, false_or, or_false, not_true_eq_false, ne_eq]
          omega
        · simp only [hcount, hstop, if_false, Bool.false_eq_true, Option.getD_none, false_or,
            not_false_eq_true, ne_eq, true_or, iff_true]
          omega
  | tick t sendto =>
    refine ⟨fun _ => trivial, fun _ => ?_⟩
    simp only [Watched.after, ClientMove.time, ClientMove.received, st_runTimerThread,
      Option.getD_none] at *
    split
    · exact .inl rfl
    · rcases h with hstop | hseen | hnow
      · exact .inl hstop
      · exact .inr (.inl hseen)
      · exact .inr (.inr (by omega))

theorem detected_start (pkt : Nat → ScPkt) (t₀ : Int) : Detected (Watched.start pkt t₀) :=
  (detected_iff _).mpr (.inr (.inl (Int.le_refl t₀)))

/-- INTERNAL: `seen` is the time of the last datagram. -/
theorem seen_le_iff {moves : List ClientMove} {w w' : Watched}
    (hplay : play Watched.step moves w = some w') (s : Int) :
    w'.seen ≤ s ↔ w.seen ≤ s ∧ ∀ m ∈ moves, ∀ t ∈ m.received, t ≤ s := by
  induction moves generalizing w with
  | nil =>
    cases hplay
    simp
  | cons m moves ih =>
    obtain ⟨a, ha, hrest⟩ := play_cons.mp hplay
    obtain ⟨⟨hle, -⟩, -, -, hseen⟩ := Watched.step_eq_some ha
    have hsn := w.seen_le
    rw [ih hrest, hseen, List.forall_mem_cons]
    cases hm : m.received with
    | none => simp
    | some t =>
      -- the new datagram is no older than the last one
      have ht := ClientMove.eq_time_of_received hm
      simp only [Option.getD_some, Option.mem_some_iff, forall_eq']
      constructor
      · rintro ⟨hts, hall⟩
        exact ⟨by omega, hts, hall⟩
      · rintro ⟨-, hts, hall⟩
        exact ⟨hts, hall⟩

/-- INTERNAL: **when a silent server is detected.** In every run of the events of any number
of workers and of the ticks, at a clock that does not go back, and in every state of it: if no
datagram was received after `s`, every tick later than `s + 180` that may come next times
out and sets `state->stop`, exactly when no event without a datagram is taken for a sign of life.
SOURCE: client/linux/udp_epoll.c:283-368, 528-591, 754-768 -/
theorem silent_server_detected_iff (pkt : Nat → ScPkt) (t₀ : Int) (moves : List ClientMove)
    (w : Watched) (hrun : play Watched.step moves (Watched.start pkt t₀) = some w) :
    (Always Watched.step Detected moves (Watched.start pkt t₀) ↔
      Along Watched.step NotMistaken moves (Watched.start pkt t₀)) ∧
    ∀ s, w.seen ≤ s ↔ t₀ ≤ s ∧ ∀ m ∈ moves, ∀ t ∈ m.received, t ≤ s :=
  ⟨always_iff_along (fun _ _ _ h hstep => detected_step h hstep) (detected_start pkt t₀) hrun,
    seen_le_iff hrun⟩

/-- At the time 100 a worker reads a packet from the TUN device; there was no datagram since
the start at the time 0. -/
def tunTraffic : List ClientMove := [.event 0 100 [] [] (.tun (.ok [0x45]))]

/-- A SYNC packet at the time 100. -/
def syncTraffic : List ClientMove := [.event 0 100 [] [] (.udp (.ok [TSRV_PKT_SYNC, 0, 0, 0]))]

/-- A run without mistaken events. -/
theorem silent_server_detected_iff_sync :
    Always Watched.step Detected syncTraffic (Watched.start (fun _ => ⟨0, fun _ => 0⟩) 0) := by
  apply (silent_server_detected_iff (fun _ => ⟨0, fun _ => 0⟩) 0 syncTraffic _ rfl).1.mpr
  exact ⟨.inl rfl, fun _ _ => trivial⟩

/-- The packet refreshes `last_t`, and the tick at the time 280 finds nothing wrong. -/
theorem silent_server_missed_tun :
    ¬∀ pkt t₀ moves w, play Watched.step moves (Watched.start pkt t₀) = some w → Detected w := by
  intro hall
  have hdet := hall (fun _ => ⟨0, fun _ => 0⟩) 0 tunTraffic _ rfl
  have htick := hdet 0 280 [] (by decide) (by decide) (by decide)
  have hstop := htick.stop
  revert hstop
  decide

end TeaVpn2.Analysis
