import Mathlib.Data.List.Induction
import TeaVpn2.Analysis.SlotConservation
import TeaVpn2.Program.EventLoop

/-!
# The emergency flag

A descriptor that is not writable raises `in_emergency`: `send_to_client` and
`handle_clpkt_tun_data` both wait in an emergency and try again. Only a `sendto` that
succeeds lowers the flag; the loop around `write` never does.

What the flag is after an event is a fold over the answers the kernel gave during it
(`inEmergency_run`). So the flag is down after an event that began with it down exactly
when each `EAGAIN` was followed by a successful `sendto` in the same event
(`emergency_taken_back_iff`, for whole runs).
-/

set_option autoImplicit false

namespace TeaVpn2.Analysis

open TeaVpn2 TeaVpn2.Lib

/-! ## The answers of the kernel -/

/-- An answer to `sendto` or to a write to the TUN device, as far as the flag is concerned:
`EAGAIN` to either, a `sendto` that succeeds, anything else. -/
inductive Answer where
  | again
  | sent
  | other
deriving DecidableEq, Repr

/-- The answers that `send_to_client` takes. -/
def sendAnswers : List Int → IoFlags → List Answer
  | [], _ => [.sent]
  | r :: rs, f =>
      if r = -EAGAIN then
        .again :: (if (emergencyWaitForUdpFdBeWritable f).1 = 0 then
          sendAnswers rs (emergencyWaitForUdpFdBeWritable f).2 else [])
      else if 0 < r then [.sent]
      else [.other]

/-- The answers that `handle_clpkt_tun_data` takes. -/
def writeAnswers : List Int → IoFlags → List Answer
  | [], _ => [.other]
  | r :: rs, f =>
      if r = -EAGAIN then
        .again :: (if (emergencyWaitForTunFdBeWritable f).1 = 0 then
          writeAnswers rs (emergencyWaitForTunFdBeWritable f).2 else [])
      else [.other]

/-- The answers an operation takes. A packet without a byte counts as sent. -/
def answers : Op → World → List Answer
  | .send _ data, w => if data.length = 0 then [.sent] else sendAnswers w.env.sendto w.ioFlags
  | .writeTun _ _, w => writeAnswers w.env.write w.ioFlags
  | _, _ => []

/-- What an answer does to the flag. -/
def flagStep (flag : Bool) : Answer → Bool
  | .again => true
  | .sent => false
  | .other => flag

/-! ## The flag -/

theorem inEmergency_emergencyWait (f : IoFlags) : (emergencyWait f).2.inEmergency = true := by
  unfold emergencyWait
  split
  · rfl
  · dsimp only
    split <;> rfl

/-- INTERNAL: the flag after a send.
SOURCE: udp_epoll.c:267-320 -/
theorem inEmergency_sendAgain (len : Nat) (rs : List Int) (f : IoFlags) :
    (sendAgain len rs f).2.2.inEmergency = (sendAnswers rs f).foldl flagStep f.inEmergency := by
  induction rs generalizing f with
  | nil => rfl
  | cons r rs ih =>
    unfold sendAgain sendAnswers
    by_cases hr : r = -EAGAIN
    · have hwait : (emergencyWaitForUdpFdBeWritable f).2.inEmergency = true :=
        inEmergency_emergencyWait f
      simp only [if_pos hr, List.foldl_cons, flagStep]
      split
      · rw [ih, hwait]
      · exact hwait
    · simp only [if_neg hr]
      by_cases hpos : 0 < r
      · rw [if_neg (by omega), if_neg (by omega), if_pos hpos]
        rfl
      · rw [if_neg hpos]
        split
        · rfl
        · rw [if_pos (by omega)]
          rfl

/-- INTERNAL: the flag after the writes of a packet.
SOURCE: udp_epoll.c:231-259, 661-691 -/
theorem inEmergency_writeAgain (len : Nat) (rs : List Int) (f : IoFlags) :
    (writeAgain len rs f).2.2.1.inEmergency = (writeAnswers rs f).foldl flagStep f.inEmergency := by
  induction rs generalizing f with
  | nil => rfl
  | cons r rs ih =>
    unfold writeAgain writeAnswers
    by_cases hr : r = -EAGAIN
    · have hwait : (emergencyWaitForTunFdBeWritable f).2.inEmergency = true :=
        inEmergency_emergencyWait f
      simp only [if_pos hr, List.foldl_cons, flagStep]
      split
      · exact (ih _).trans (by rw [hwait])
      · exact hwait
    · simp only [if_neg hr]
      split
      · rfl
      · split <;> rfl

/-- INTERNAL: the flag after one operation. -/
theorem inEmergency_exec (o : Op) (w : World) :
    (exec o w).2.st.inEmergency = (answers o w).foldl flagStep w.st.inEmergency := by
  have hquiet : isIo o = false → (exec o w).2.st.inEmergency = w.st.inEmergency := by
    intro ho
    have hflags := congrArg (fun x => x.2.1.inEmergency) (outside_exec ho w)
    exact hflags
  cases o with
  | send i data =>
    show (w.sendToClient i data).2.st.inEmergency = _
    unfold World.sendToClient answers
    dsimp only
    split
    · rfl
    · exact inEmergency_sendAgain data.length w.env.sendto w.ioFlags
  | writeTun i data => exact inEmergency_writeAgain data.length w.env.write w.ioFlags
  | _ => exact hquiet rfl

/-- INTERNAL: the flag after a piece of server code. -/
theorem inEmergency_run {α : Type} (p : Srv α) (w : World) :
    (p.run exec w).2.st.inEmergency =
      (p.observed exec answers w).foldl flagStep w.st.inEmergency :=
  Prog.run_foldl (fun w => w.st.inEmergency) flagStep inEmergency_exec p w

/-! ## Events -/

/-- Every `EAGAIN` is followed by a `sendto` that succeeds. -/
def TakenBack (tr : List Answer) : Prop := ∀ a b, tr = a ++ .again :: b → .sent ∈ b

/-- INTERNAL: from a lowered flag, the fold ends with the flag down exactly when every raise
was taken back. -/
theorem takenBack_iff (tr : List Answer) : tr.foldl flagStep false = false ↔ TakenBack tr := by
  induction tr using List.reverseRecOn with
  | nil => exact ⟨fun _ a b h => by simp at h, fun _ => rfl⟩
  | append_singleton tr x ih =>
    rw [List.foldl_append, List.foldl_cons, List.foldl_nil]
    cases x with
    | again =>
      refine ⟨fun h => by simp [flagStep] at h, fun h => ?_⟩
      have hno := h tr [] rfl
      simp at hno
    | sent =>
      refine ⟨fun _ a b h => ?_, fun _ => rfl⟩
      -- the success is the last answer, and no `EAGAIN` is
      cases b using List.reverseRecOn with
      | nil =>
        have hlast := congrArg List.getLast? h
        simp at hlast
      | append_singleton b y =>
        have hlast := congrArg List.getLast? h
        simp only [← List.cons_append, ← List.append_assoc, List.getLast?_concat] at hlast
        cases hlast
        simp
    | other =>
      rw [flagStep, ih]
      constructor
      · intro htaken a b h
        cases b using List.reverseRecOn with
        | nil =>
          have hlast := congrArg List.getLast? h
          simp at hlast
        | append_singleton b y =>
          rw [← List.cons_append, ← List.append_assoc] at h
          have hsplit := (List.append_inj' h rfl).1
          exact List.mem_append_left _ (htaken a b hsplit)
      · intro htaken a b h
        have hmem := htaken a (b ++ [.other]) (by rw [h]; simp)
        simpa using hmem

/-- The answers the kernel gives while an event is handled. -/
def eventAnswers (s : Server) (env : Env) (event : EpollEvent) : List Answer :=
  (Srv.handleEvent s.st.order s.st.maxConn s.pkt event).observed exec answers
    (s.eventWorld env event)

/-- INTERNAL: the flag after one event that begins with the flag down.
SOURCE: udp_epoll.c:908-921 -/
theorem inEmergency_handleEvent {s : Server} (h : s.st.inEmergency = false) (env : Env)
    (event : EpollEvent) :
    (s.handleEvent env event).2.st.inEmergency = false ↔ TakenBack (eventAnswers s env event) := by
  have hworld : (s.eventWorld env event).st.inEmergency = false := by
    rcases event with (_ | ⟨_, _⟩) | _ | _ <;> exact h
  have hrun := inEmergency_run (Srv.handleEvent s.st.order s.st.maxConn s.pkt event)
    (s.eventWorld env event)
  rw [hworld] at hrun
  rw [← takenBack_iff]
  show ((Srv.handleEvent s.st.order s.st.maxConn s.pkt event).run exec
    (s.eventWorld env event)).2.st.inEmergency = false ↔ _
  rw [hrun]
  rfl

/-! ## Runs of one thread -/

/-- The flag is down after every event whose handler returns zero. The first handler that
returns something else ends the loop. -/
def FlagDown : Server → List (Env × EpollEvent) → Prop
  | _, [] => True
  | s, (env, event) :: l =>
      (s.handleEvent env event).1 = 0 →
        (s.handleEvent env event).2.st.inEmergency = false ∧
          FlagDown (s.handleEvent env event).2 l

/-- In every event whose handler returns zero each `EAGAIN` is followed by a `sendto` that
succeeds. -/
def TakesBack : Server → List (Env × EpollEvent) → Prop
  | _, [] => True
  | s, (env, event) :: l =>
      (s.handleEvent env event).1 = 0 →
        TakenBack (eventAnswers s env event) ∧ TakesBack (s.handleEvent env event).2 l

/-- INTERNAL: from a lowered flag, the run keeps it down exactly when every event takes its
emergencies back. -/
theorem flagDown_iff (l : List (Env × EpollEvent)) {s : Server} (h : s.st.inEmergency = false) :
    FlagDown s l ↔ TakesBack s l := by
  induction l generalizing s with
  | nil => exact Iff.rfl
  | cons x l ih =>
    obtain ⟨env, event⟩ := x
    have hevent := inEmergency_handleEvent h env event
    unfold FlagDown TakesBack
    constructor
    · intro hdown hret
      obtain ⟨hflag, hrest⟩ := hdown hret
      exact ⟨hevent.mp hflag, (ih hflag).mp hrest⟩
    · intro htakes hret
      obtain ⟨htaken, hrest⟩ := htakes hret
      exact ⟨hevent.mpr htaken, (ih (hevent.mpr htaken)).mpr hrest⟩

/-- INTERNAL: **when the emergency flag is taken back.** In every run of the events of one
thread the flag is down after every event whose handler returns zero exactly when, in each of
these events, every `EAGAIN`, to a `sendto` or to a write to the TUN device, is followed by a
`sendto` that succeeds; that the write succeeds in the end is not enough.
SOURCE: udp_epoll.c:231-320, 661-691, 908-921 -/
theorem emergency_taken_back_iff (maxConn : UInt16) (dataDir : List UInt8) (o : ByteOrder)
    (pkt zrPkt : ScPkt) (l : List (Env × EpollEvent)) :
    FlagDown (Server.boot maxConn dataDir o pkt zrPkt) l ↔
      TakesBack (Server.boot maxConn dataDir o pkt zrPkt) l :=
  flagDown_iff l rfl

/-- A client shakes hands and sends one byte of TUN data; the device is not writable at
first. -/
def busyTunEvents : List (Env × EpollEvent) :=
  [({}, .udp (.ok (⟨0x0a000001, 1000⟩, handshakeDatagram))),
    ({ write := [-EAGAIN], poll := [1] },
      .udp (.ok (⟨0x0a000001, 1000⟩, [TCLI_PKT_TUN_DATA, 0, 0, 1, 0])))]

/-- The byte is written after the wait and both handlers return zero, but the flag stays
up. -/
theorem emergency_left_by_write :
    ¬FlagDown (Server.boot 1 [] .little Server.zeroPkt Server.zeroPkt) busyTunEvents := by
  intro h
  obtain ⟨-, hrest⟩ := h (by decide)
  obtain ⟨hflag, -⟩ := hrest (by decide)
  revert hflag
  decide

end TeaVpn2.Analysis
