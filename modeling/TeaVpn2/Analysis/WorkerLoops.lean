import TeaVpn2.Analysis.SlotConservation
import TeaVpn2.Lib.Schedule
import TeaVpn2.Program.EventLoop
import TeaVpn2.Program.Workers

/-!
# Workers that leave their loops

A TUN queue is registered with one thread. When that thread leaves its loop nobody reads
the queue any more, so the program has to stop. In the client whoever leaves has seen
`state->stop` or sets it; in the server a handler or an `epoll_wait` that fails ends the loop
of its thread alone, and the other threads go on (`tun_queues_served_iff`).

`loop_simulated` connects the positions to the code: the loop of a thread over the events of
`Server.serverUdpEpollRunEventLoop` is a schedule of moves of that thread.
-/

set_option autoImplicit false

namespace TeaVpn2.Analysis

open TeaVpn2 TeaVpn2.Lib TeaVpn2.Lib.Schedule

/-! ## Leaving means stopping -/

/-- Whoever has left its loop has left it because the program stops. -/
def LeftStopped (w : Workers) : Prop := ∀ i ret, w.pos i = .left ret → w.stop = true

/-- The move is no failure, or the program stops anyway. -/
def Kept (w : Workers) : WorkerMove → Prop
  | .polled _ ret => 0 ≤ ret ∨ ret = -EINTR ∨ w.stop = true
  | .handled _ ret raised => ret = 0 ∨ raised = true ∨ w.stop = true
  | _ => True

/-- A thread goes to a place inside its loop. -/
theorem leftStopped_setPos {w : Workers} (h : LeftStopped w) (i : Nat) {p : WorkerPos}
    (hp : ∀ ret, p ≠ .left ret) : LeftStopped (w.setPos i p) := by
  intro j ret hj
  by_cases hji : j = i
  · subst hji
    rw [Workers.setPos_pos_self] at hj
    exact absurd hj (hp ret)
  · rw [Workers.setPos_pos_of_ne w hji] at hj
    exact h j ret hj

theorem leftStopped_leave_iff (w : Workers) (i : Nat) (ret : Int) :
    LeftStopped (w.leave i ret) ↔ w.stop = true := by
  constructor
  · intro hleft
    exact hleft i ret (w.leave_pos_self i ret)
  · intro hstop j r _
    exact hstop

theorem leftStopped_of_stop {w : Workers} (hstop : w.stop = true) : LeftStopped w := by
  intro i ret _
  exact hstop

theorem afterEvents_ne_left (n : Nat) (ret : Int) : Workers.afterEvents n ≠ .left ret := by
  cases n <;> exact WorkerPos.noConfusion

/-- INTERNAL: a failure is harmless in the client, and when the program stops anyway. -/
theorem leftStopped_fail_iff {w : Workers} (h : LeftStopped w) (side : Side) (i : Nat) (ret : Int) :
    LeftStopped (w.fail side i ret) ↔ side = .client ∨ w.stop = true := by
  cases side with
  | server =>
    rw [Workers.fail, leftStopped_leave_iff]
    simp
  | client =>
    have hkept : LeftStopped (w.setPos i (.failed ret)) :=
      leftStopped_setPos h i fun _ => WorkerPos.noConfusion
    exact ⟨fun _ => .inl rfl, fun _ => hkept⟩

/-- Nobody leaves its loop in `thread_wait`. -/
theorem leftStopped_threadWait {threadNum i : Nat} {w w' : Workers} (h : LeftStopped w)
    (hwait : w.threadWait threadNum i = some w') : LeftStopped w' := by
  have hhead : LeftStopped (w.setPos i .head) :=
    leftStopped_setPos h i fun _ => WorkerPos.noConfusion
  unfold Workers.threadWait at hwait
  split at hwait
  · split at hwait
    · cases hwait
      exact hhead
    · split at hwait
      · cases hwait
        exact hhead
      · cases hwait
  · split at hwait
    · cases hwait
      exact hhead
    · cases hwait

/-- INTERNAL: one move. In the client every move keeps the invariant, in the server the
moves that are no failures.
SOURCE: server/linux/udp_epoll.c:1010-1032, client/linux/udp_epoll.c:464-490 -/
theorem leftStopped_step {side : Side} {threadNum : Nat} {m : WorkerMove} {w w' : Workers}
    (h : LeftStopped w) (hstep : Workers.step side threadNum m w = some w') :
    LeftStopped w' ↔ side = .client ∨ Kept w m := by
  -- the moves that cannot fail keep the invariant on both sides
  have hkeeps (hm : Kept w m) (hw : LeftStopped w') : LeftStopped w' ↔ side = .client ∨ Kept w m :=
    ⟨fun _ => .inr hm, fun _ => hw⟩
  cases m with
  | start i =>
    simp only [Workers.step, Option.ite_none_right_eq_some, Option.some.injEq] at hstep
    obtain ⟨-, rfl⟩ := hstep
    exact hkeeps trivial (leftStopped_setPos h i fun _ => WorkerPos.noConfusion)
  | released i =>
    simp only [Workers.step, Option.ite_none_right_eq_some] at hstep
    exact hkeeps trivial (leftStopped_threadWait h hstep.2)
  | check i =>
    simp only [Workers.step, Option.ite_none_right_eq_some, Option.some.injEq] at hstep
    obtain ⟨-, rfl⟩ := hstep
    apply hkeeps trivial
    split
    · next hstop => exact leftStopped_of_stop hstop
    · exact leftStopped_setPos h i fun _ => WorkerPos.noConfusion
  | polled i ret =>
    simp only [Workers.step, Option.ite_none_right_eq_some, Option.some.injEq] at hstep
    obtain ⟨-, rfl⟩ := hstep
    by_cases hok : 0 ≤ ret
    · apply hkeeps (.inl hok)
      rw [if_pos hok]
      exact leftStopped_setPos h i (afterEvents_ne_left _)
    · by_cases hintr : ret = -EINTR
      · apply hkeeps (.inr (.inl hintr))
        rw [if_neg hok, if_pos hintr]
        exact leftStopped_setPos h i fun _ => WorkerPos.noConfusion
      · rw [if_neg hok, if_neg hintr, leftStopped_fail_iff h]
        simp only [Kept, hok, hintr, false_or]
  | handled i ret raised =>
    simp only [Workers.step] at hstep
    split at hstep
    · cases hstep
      have hraised : LeftStopped { w with stop := w.stop || raised } := by
        intro j r hj
        show (w.stop || raised) = true
        rw [h j r hj, Bool.true_or]
      by_cases hret : ret = 0
      · apply hkeeps (.inl hret)
        rw [if_neg (not_not.mpr hret)]
        exact leftStopped_setPos hraised i (afterEvents_ne_left _)
      · rw [if_pos hret, leftStopped_fail_iff hraised]
        simp only [Kept, hret, false_or, Bool.or_eq_true, Or.comm]
    · cases hstep
  | giveUp i =>
    simp only [Workers.step] at hstep
    split at hstep
    · cases hstep
      exact hkeeps trivial (leftStopped_of_stop rfl)
    · cases hstep
  | stop =>
    cases hstep
    exact hkeeps trivial (leftStopped_of_stop rfl)

/-! ## Descriptors that nobody reads -/

/-- All threads that have registered the descriptor have left their loops. -/
def Abandoned (threadNum : Nat) (w : Workers) (fd : Fd) : Prop :=
  (∃ i < threadNum, fd ∈ initEpollFdAdd threadNum i) ∧
    ∀ i < threadNum, fd ∈ initEpollFdAdd threadNum i → ∃ ret, w.pos i = .left ret

/-- When a thread has left its loop the program is to stop: every other thread leaves when it
next looks at `state->stop`, and no descriptor is abandoned by a program that goes on. -/
structure Served (side : Side) (threadNum : Nat) (w : Workers) : Prop where
  stopped : LeftStopped w
  followed : ∀ i ret j w', w.pos i = .left ret →
    Workers.step side threadNum (.check j) w = some w' → w'.pos j = .left 0
  manned : ∀ fd, Abandoned threadNum w fd → w.stop = true

theorem served_iff_leftStopped (side : Side) (threadNum : Nat) (w : Workers) :
    Served side threadNum w ↔ LeftStopped w := by
  constructor
  · exact Served.stopped
  · intro hleft
    refine ⟨hleft, ?_, ?_⟩
    · intro i ret j w' hi hcheck
      simp only [Workers.step, Option.ite_none_right_eq_some, Option.some.injEq] at hcheck
      obtain ⟨-, rfl⟩ := hcheck
      rw [if_pos (hleft i ret hi)]
      exact w.leave_pos_self j 0
    · rintro fd ⟨⟨i, hi, hmem⟩, hall⟩
      obtain ⟨ret, hret⟩ := hall i hi hmem
      exact hleft i ret hret

theorem leftStopped_init : LeftStopped {} := fun _ _ => WorkerPos.noConfusion

/-- INTERNAL: in every run of the client's threads whoever has left its loop has seen or set
`state->stop`.
SOURCE: client/linux/udp_epoll.c:464-490 -/
theorem client_served {threadNum : Nat} {moves : List WorkerMove} {w : Workers}
    (hrun : play (Workers.step .client threadNum) moves {} = some w) :
    Served .client threadNum w := by
  rw [served_iff_leftStopped]
  refine play_inv (P := fun _ _ => True) LeftStopped ?_ leftStopped_init
    (along_of_forall (fun _ _ _ => trivial) _) hrun
  intro w m w' hw _ hstep
  exact (leftStopped_step hw hstep).mpr (.inl rfl)

/-- INTERNAL: **when no TUN queue is abandoned.** In every run of the server's threads, and in
every state of it, a thread that has left its loop has left a program that is to stop, exactly
when no handler and no `epoll_wait` of the run fails in a program that is not to
stop. The client's threads need no such condition.
SOURCE: server/linux/udp_epoll.c:58-109, 946-1032, client/linux/udp_epoll.c:464-490 -/
theorem tun_queues_served_iff (threadNum : Nat) (moves : List WorkerMove) (w : Workers)
    (hrun : play (Workers.step .server threadNum) moves {} = some w) :
    (Always (Workers.step .server threadNum) (Served .server threadNum) moves {} ↔
      Along (Workers.step .server threadNum) Kept moves {}) ∧
    ∀ moves' w', play (Workers.step .client threadNum) moves' {} = some w' →
      Served .client threadNum w' := by
  refine ⟨always_iff_along ?_ ((served_iff_leftStopped _ _ _).mpr leftStopped_init) hrun,
    fun _ _ => client_served⟩
  intro w m w' hw hstep
  rw [served_iff_leftStopped] at hw ⊢
  rw [leftStopped_step hw hstep]
  simp

/-- Both threads are started and released; the second one has a readable TUN queue. -/
def twoWorkers : List WorkerMove :=
  [.start 1, .start 0, .released 0, .released 1, .check 1, .polled 1 1]

/-- As long as no handler has failed the queues are served. -/
theorem tun_queues_served_iff_twoWorkers :
    Always (Workers.step .server 2) (Served .server 2) twoWorkers {} := by
  apply (tun_queues_served_iff 2 twoWorkers _ rfl).1.mpr
  simp [twoWorkers, Along, Kept]

/-- What the handler of the second thread returns when reading the queue fails with `EIO`. -/
def tunReadEio : Int :=
  ((Server.boot 1 [] .little Server.zeroPkt Server.zeroPkt).handleEvent {} (.tun (.error 5))).1

/-- The second thread leaves its loop and the server goes on without its queues. -/
theorem tun_queue_abandoned_twoWorkers :
    ¬∀ threadNum moves w, play (Workers.step .server threadNum) moves {} = some w →
      Served .server threadNum w := by
  intro hall
  have hserved := hall 2 (twoWorkers ++ [.handled 1 tunReadEio false]) _ rfl
  exact Bool.noConfusion (hserved.stopped 1 (-5) rfl)

/-! ## The loop of the code -/

/-- A program that is to stop stays so. -/
theorem stop_emergencyWait {f : IoFlags} (h : f.stop = true) : (emergencyWait f).2.stop = true := by
  unfold emergencyWait
  rw [if_pos h]
  exact h

theorem stop_sendAgain (len : Nat) (rs : List Int) {f : IoFlags} (h : f.stop = true) :
    (sendAgain len rs f).2.2.stop = true := by
  induction rs generalizing f with
  | nil => exact h
  | cons r rs ih =>
    have hwait : (emergencyWaitForUdpFdBeWritable f).2.stop = true := stop_emergencyWait h
    unfold sendAgain
    split
    · dsimp only
      split
      · exact ih hwait
      · exact hwait
    · split
      · exact h
      · split <;> exact h

theorem stop_writeAgain (len : Nat) (rs : List Int) {f : IoFlags} (h : f.stop = true) :
    (writeAgain len rs f).2.2.1.stop = true := by
  induction rs generalizing f with
  | nil => exact h
  | cons r rs ih =>
    have hwait : (emergencyWaitForTunFdBeWritable f).2.stop = true := stop_emergencyWait h
    unfold writeAgain
    split
    · dsimp only
      split
      · exact ih hwait
      · exact hwait
    · split
      · exact h
      · split <;> exact h

theorem stop_exec (o : Op) {w : World} (h : w.st.stop = true) : (exec o w).2.st.stop = true := by
  have hquiet : isIo o = false → (exec o w).2.st.stop = true := by
    intro ho
    have hflags := congrArg (fun x => x.2.1.stop) (outside_exec ho w)
    exact Eq.trans hflags h
  cases o with
  | send i data =>
    show (w.sendToClient i data).2.st.stop = true
    unfold World.sendToClient
    dsimp only
    split
    · exact h
    · exact stop_sendAgain data.length w.env.sendto h
  | writeTun i data => exact stop_writeAgain data.length w.env.write h
  | _ => exact hquiet rfl

theorem stop_handleEvent {s : Server} (h : s.st.stop = true) (env : Env) (event : EpollEvent) :
    (s.handleEvent env event).2.st.stop = true := by
  have hworld : (s.eventWorld env event).st.stop = true := by
    rcases event with (_ | ⟨_, _⟩) | _ | _ <;> exact h
  exact Prog.run_keeps (fun w : World => w.st.stop = true) (fun o _ => stop_exec o)
    (Srv.handleEvent s.st.order s.st.maxConn s.pkt event) hworld

/-- Where a thread is after a result of the loop body. -/
def posAfter (ret : Int) : WorkerPos := if ret = 0 then .head else .left ret

/-- INTERNAL: the loop over the events of one `epoll_wait` is a schedule of the thread.
SOURCE: server/linux/udp_epoll.c:946-963 -/
theorem handleEvents_simulated (threadNum i : Nat) (events : List (Env × EpollEvent)) {s : Server}
    {w : Workers} (hpos : w.pos i = Workers.afterEvents events.length)
    (hstop : w.stop = s.st.stop) :
    ∃ moves w', play (Workers.step .server threadNum) moves w = some w' ∧
      w'.stop = (s.handleEvents events).2.st.stop ∧
      w'.pos i = posAfter (s.handleEvents events).1 := by
  induction events generalizing s w with
  | nil => exact ⟨[], w, rfl, hstop, hpos⟩
  | cons x events ih =>
    obtain ⟨env, event⟩ := x
    have hmono : (w.stop || (s.handleEvent env event).2.st.stop) =
        (s.handleEvent env event).2.st.stop := by
      cases hs : w.stop with
      | false => rfl
      | true =>
        rw [stop_handleEvent (hstop.symm.trans hs)]
        rfl
    have hmove : Workers.step .server threadNum
        (.handled i (s.handleEvent env event).1 (s.handleEvent env event).2.st.stop) w =
        some (if (s.handleEvent env event).1 ≠ 0 then
          { w with stop := (s.handleEvent env event).2.st.stop }.leave i
            (s.handleEvent env event).1
          else { w with stop := (s.handleEvent env event).2.st.stop }.setPos i
            (Workers.afterEvents events.length)) := by
      simp only [Workers.step, hpos, List.length_cons, Workers.afterEvents, hmono, Workers.fail]
    unfold Server.handleEvents
    dsimp only
    by_cases hret : (s.handleEvent env event).1 = 0
    · rw [if_neg (not_not.mpr hret)] at hmove ⊢
      obtain ⟨moves, w', hplay, hstop', hpos'⟩ := ih (s := (s.handleEvent env event).2)
        (Workers.setPos_pos_self { w with stop := (s.handleEvent env event).2.st.stop } i _) rfl
      exact ⟨_ :: moves, w', play_cons.mpr ⟨_, hmove, hplay⟩, hstop', hpos'⟩
    · rw [if_pos hret] at hmove ⊢
      refine ⟨[_], _, play_cons.mpr ⟨_, hmove, rfl⟩, rfl, ?_⟩
      rw [posAfter, if_neg hret, Workers.leave_pos_self]

/-- INTERNAL: **the loop of a thread is a schedule of its moves**, with the same flag and the
same place at the end.
SOURCE: server/linux/udp_epoll.c:924-963, 1010-1032 -/
theorem loop_simulated (threadNum i : Nat) (waits : List (Except Int (List (Env × EpollEvent))))
    (herr : ∀ errno, .error errno ∈ waits → 0 < errno) {s : Server} {w : Workers}
    (hpos : w.pos i = .head) (hstop : w.stop = s.st.stop) :
    ∃ moves w', play (Workers.step .server threadNum) moves w = some w' ∧
      w'.stop = (s.serverUdpEpollRunEventLoop waits).2.st.stop ∧
      w'.pos i = match (s.serverUdpEpollRunEventLoop waits).1 with
        | .running => .head
        | .left ret => .left ret := by
  induction waits generalizing s w with
  | nil => exact ⟨[], w, rfl, hstop, hpos⟩
  | cons wait waits ih =>
    unfold Server.serverUdpEpollRunEventLoop
    by_cases hs : s.st.stop = true
    · have hmove : Workers.step .server threadNum (.check i) w = some (w.leave i 0) := by
        simp only [Workers.step, hpos, hstop, hs, if_true]
      rw [if_pos hs]
      exact ⟨[.check i], _, play_cons.mpr ⟨_, hmove, rfl⟩, hstop, w.leave_pos_self i 0⟩
    · have hmove : Workers.step .server threadNum (.check i) w = some (w.setPos i .polling) := by
        simp only [Workers.step, hpos, hstop, hs, if_true]
        simp
      rw [if_neg hs]
      -- what the loop body does to the flag and to the place of the thread
      have hbody : ∃ moves w', play (Workers.step .server threadNum) moves w = some w' ∧
          w'.stop = (s.__runEventLoop wait).2.st.stop ∧
          w'.pos i = posAfter (s.__runEventLoop wait).1 := by
        cases wait with
        | error errno =>
          have hpos := herr errno (List.mem_cons_self ..)
          have hpolled : Workers.step .server threadNum (.polled i (-errno))
              (w.setPos i .polling) = some (if -errno = -EINTR then
                (w.setPos i .polling).setPos i .head
                else (w.setPos i .polling).leave i (-errno)) := by
            simp only [Workers.step, Workers.setPos_pos_self, if_true, Workers.fail]
            rw [if_neg (by omega)]
          refine ⟨[.check i, .polled i (-errno)], _,
            play_cons.mpr ⟨_, hmove, play_cons.mpr ⟨_, hpolled, rfl⟩⟩, ?_⟩
          show _ ∧ _ = posAfter (if errno = EINTR then 0 else -errno)
          by_cases hintr : errno = EINTR
          · rw [if_pos (show -errno = -EINTR by omega), if_pos hintr]
            exact ⟨hstop, Workers.setPos_pos_self _ i _⟩
          · rw [if_neg (show -errno ≠ -EINTR by omega), if_neg hintr, posAfter,
              if_neg (show -errno ≠ 0 by omega)]
            exact ⟨hstop, Workers.leave_pos_self _ i _⟩
        | ok events =>
          obtain ⟨moves, w', hplay, hstop', hpos'⟩ := handleEvents_simulated threadNum i events
            (w := (w.setPos i .polling).setPos i (Workers.afterEvents events.length))
            (Workers.setPos_pos_self _ i _) hstop
          refine ⟨.check i :: .polled i events.length :: moves, w', ?_, hstop', hpos'⟩
          refine play_cons.mpr ⟨_, hmove, play_cons.mpr ⟨_, ?_, hplay⟩⟩
          simp only [Workers.step, Workers.setPos_pos_self, if_true]
          rw [if_pos (Int.natCast_nonneg _), Int.toNat_natCast]
      obtain ⟨moves, w', hplay, hstop', hpos'⟩ := hbody
      dsimp only
      by_cases hret : (s.__runEventLoop wait).1 = 0
      · rw [posAfter, if_pos hret] at hpos'
        rw [if_neg (not_not.mpr hret)]
        obtain ⟨moves', w'', hplay', hend⟩ :=
          ih (fun errno h => herr errno (List.mem_cons_of_mem _ h)) hpos' hstop'
        exact ⟨moves ++ moves', w'', play_append hplay hplay', hend⟩
      · rw [posAfter, if_neg hret] at hpos'
        rw [if_pos hret]
        exact ⟨moves, w', hplay, hstop', hpos'⟩

end TeaVpn2.Analysis
