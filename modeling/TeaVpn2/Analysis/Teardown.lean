import TeaVpn2.Lib.Schedule
import TeaVpn2.Program.Teardown

/-!
# The main thread frees nothing that a thread still uses

The threads are detached; the main thread counts them. The invariant `Tracked` says what the two
counters stand for: `n_on_threads` is the number of workers between their first move and their last
one, and `is_online` of the helper is set exactly while it is in its loop. A thread that has been
created and has not made its first move is in neither, and the main thread does not see it.

`no_use_after_release` says that this is the only gap. On the ordinary way there are no such
workers, since a worker leaves `thread_wait` only after all of them are counted (`Tracked.release`);
the helper is not waited for.
-/

set_option autoImplicit false

namespace TeaVpn2.Analysis

open TeaVpn2 TeaVpn2.Lib TeaVpn2.Lib.Schedule

/-! ## Counting the workers -/

/-- The worker has been counted and has not left. -/
def inBody : WorkerPos → Bool
  | .spawned => false
  | .left _ => false
  | _ => true

/-- The number of workers in their bodies. -/
def bodies (threadNum : Nat) (pos : Nat → WorkerPos) : Nat :=
  (List.range threadNum).countP fun i => inBody (pos i)

/-- INTERNAL: one worker has gone from one place to another. -/
theorem bodies_update (threadNum : Nat) (pos : Nat → WorkerPos) {i : Nat} (hi : i < threadNum)
    (p : WorkerPos) :
    bodies threadNum (Function.update pos i p) + (inBody (pos i)).toNat =
      bodies threadNum pos + (inBody p).toNat := by
  have hrange : ∀ n, (List.range n).countP (fun j => inBody (Function.update pos i p j)) +
      (if i < n then (inBody (pos i)).toNat else 0) =
      (List.range n).countP (fun j => inBody (pos j)) + (if i < n then (inBody p).toNat else 0) := by
    intro n
    induction n with
    | zero => simp
    | succ n ih =>
      rw [List.range_succ, List.countP_append, List.countP_append, List.countP_singleton,
        List.countP_singleton]
      by_cases hin : i = n
      · subst hin
        simp only [Function.update_self, Nat.lt_succ_self, if_true, Nat.lt_irrefl, if_false] at ih ⊢
        cases inBody (pos i) <;> cases inBody p <;> simp at ih ⊢ <;> omega
      · have hne : n ≠ i := Ne.symm hin
        have hlt : i < n + 1 ↔ i < n := by omega
        simp only [Function.update_of_ne hne, hlt]
        omega
  have hall := hrange threadNum
  rw [if_pos hi, if_pos hi] at hall
  exact hall

theorem bodies_eq_zero {threadNum : Nat} {pos : Nat → WorkerPos} (h : bodies threadNum pos = 0) {i : Nat}
    (hi : i < threadNum) : inBody (pos i) = false := by
  have hall := List.countP_eq_zero.mp h i (List.mem_range.mpr hi)
  exact Bool.eq_false_iff.mpr hall

theorem bodies_eq_all {threadNum : Nat} {pos : Nat → WorkerPos} (h : bodies threadNum pos = threadNum)
    {i : Nat} (hi : i < threadNum) : inBody (pos i) = true := by
  have hlen : (List.range threadNum).countP (fun i => inBody (pos i)) =
      (List.range threadNum).length := by
    rw [List.length_range]
    exact h
  exact List.countP_eq_length.mp hlen i (List.mem_range.mpr hi)

/-! ## One step of a worker -/

/-- What a step of a worker does: it begins, it goes on, or it leaves. -/
structure Walked (threadNum : Nat) (m : WorkerMove) (w w' : Workers) (i : Nat) (p : WorkerPos) : Prop where
  pos : w'.pos = Function.update w.pos i p
  count :
    (m = .start i ∧ w.pos i = .spawned ∧ i < threadNum ∧ inBody p = true ∧
      w'.nOnThreads = w.nOnThreads + 1) ∨
    inBody (w.pos i) = true ∧ inBody p = true ∧ w'.nOnThreads = w.nOnThreads ∨
    inBody (w.pos i) = true ∧ (∃ ret, p = .left ret) ∧ w'.nOnThreads = w.nOnThreads - 1
  release : w'.releaseSubThread = true →
    w.releaseSubThread = true ∨ w.nOnThreads = threadNum ∧ w.pos i = .waiting

theorem inBody_afterEvents (n : Nat) : inBody (Workers.afterEvents n) = true := by
  cases n <;> rfl

theorem walked_setPos {threadNum : Nat} {m : WorkerMove} {w : Workers} {i : Nat} {p : WorkerPos}
    (hin : inBody (w.pos i) = true) (hp : inBody p = true) : Walked threadNum m w (w.setPos i p) i p :=
  ⟨rfl, .inr (.inl ⟨hin, hp, rfl⟩), fun h => .inl h⟩

theorem walked_leave {threadNum : Nat} {m : WorkerMove} {w : Workers} {i : Nat} {ret : Int}
    (hin : inBody (w.pos i) = true) :
    Walked threadNum m w (w.leave i ret) i (.left ret) :=
  ⟨rfl, .inr (.inr ⟨hin, ⟨ret, rfl⟩, rfl⟩), fun h => .inl h⟩

theorem walked_fail (threadNum : Nat) (m : WorkerMove) {w : Workers} {i : Nat} (side : Side)
    (ret : Int) (hin : inBody (w.pos i) = true) : ∃ p, Walked threadNum m w (w.fail side i ret) i p := by
  cases side with
  | server => exact ⟨_, walked_leave hin⟩
  | client => exact ⟨_, walked_setPos hin rfl⟩

/-- The stop flag does not matter here. -/
theorem Walked.of_stop {threadNum : Nat} {m : WorkerMove} {w w' : Workers} {i : Nat} {p : WorkerPos}
    {b : Bool} (h : Walked threadNum m { w with stop := b } w' i p) : Walked threadNum m w w' i p :=
  ⟨h.pos, h.count, h.release⟩

/-- INTERNAL: a step of a worker.
SOURCE: server/linux/udp_epoll.c:966-1032, client/linux/udp_epoll.c:396-490 -/
theorem walked_step {side : Side} {threadNum : Nat} {m : WorkerMove} {w w' : Workers}
    (hstop : m ≠ .stop) (hstep : Workers.step side threadNum m w = some w') :
    ∃ i p, Walked threadNum m w w' i p := by
  cases m with
  | start i =>
    simp only [Workers.step, Option.ite_none_right_eq_some, Option.some.injEq] at hstep
    obtain ⟨⟨hpos, hi⟩, rfl⟩ := hstep
    exact ⟨i, .waiting, rfl, .inl ⟨rfl, hpos, hi, rfl, rfl⟩, fun h => .inl h⟩
  | released i =>
    simp only [Workers.step, Option.ite_none_right_eq_some] at hstep
    obtain ⟨hpos, hwait⟩ := hstep
    have hin : inBody (w.pos i) = true := by rw [hpos]; rfl
    refine ⟨i, .head, ?_⟩
    unfold Workers.threadWait at hwait
    split_ifs at hwait with _ hall
    · cases hwait
      exact ⟨rfl, .inr (.inl ⟨hin, rfl, rfl⟩), fun _ => .inr ⟨hall, hpos⟩⟩
    · cases hwait
      exact walked_setPos hin rfl
    · cases hwait
      exact walked_setPos hin rfl
  | check i =>
    simp only [Workers.step, Option.ite_none_right_eq_some, Option.some.injEq] at hstep
    obtain ⟨hpos, rfl⟩ := hstep
    have hin : inBody (w.pos i) = true := by rw [hpos]; rfl
    split
    · exact ⟨i, _, walked_leave hin⟩
    · exact ⟨i, _, walked_setPos hin rfl⟩
  | polled i ret =>
    simp only [Workers.step, Option.ite_none_right_eq_some, Option.some.injEq] at hstep
    obtain ⟨hpos, rfl⟩ := hstep
    have hin : inBody (w.pos i) = true := by rw [hpos]; rfl
    split_ifs
    · exact ⟨i, _, walked_setPos hin (inBody_afterEvents _)⟩
    · exact ⟨i, _, walked_setPos hin rfl⟩
    · exact ⟨i, walked_fail threadNum _ side ret hin⟩
  | handled i ret raised =>
    simp only [Workers.step] at hstep
    split at hstep
    · next n hpos =>
      cases hstep
      have hin : inBody (w.pos i) = true := by rw [hpos]; rfl
      split_ifs
      · obtain ⟨p, hp⟩ := walked_fail threadNum (.handled i ret raised)
          (w := { w with stop := w.stop || raised }) side ret hin
        exact ⟨i, p, hp.of_stop⟩
      · exact ⟨i, _, (walked_setPos (w := { w with stop := w.stop || raised }) hin
          (inBody_afterEvents _)).of_stop⟩
    · cases hstep
  | giveUp i =>
    simp only [Workers.step] at hstep
    split at hstep
    · next ret hpos =>
      cases hstep
      have hin : inBody (w.pos i) = true := by rw [hpos]; rfl
      exact ⟨i, .left ret, rfl, .inr (.inr ⟨hin, ⟨ret, rfl⟩, rfl⟩), fun h => .inl h⟩
    · cases hstep
  | stop => exact absurd rfl hstop

/-! ## What the counters stand for -/

/-- The main thread has seen that the helper is not online. -/
def helperSeen : MainPos → Bool
  | .countThreads | .waitThreads _ | .released => true
  | _ => false

structure Tracked (threadNum : Nat) (s : Teardown) : Prop where
  count : s.workers.nOnThreads = bodies threadNum s.workers.pos
  online : s.helperOnline = true ↔ s.helper = .head ∨ s.helper = .working
  outside : ∀ i, threadNum ≤ i → s.workers.pos i = .spawned
  release : s.workers.releaseSubThread = true → ∀ i < threadNum, s.workers.pos i ≠ .spawned
  absent : s.main = .spawnHelper → s.helper = .absent
  waited : ∀ c, s.main = .waitHelper c → s.helper ≠ .created
  helper : helperSeen s.main = true → s.helper = .absent ∨ s.helper = .gone
  workers : s.main = .released → ∀ i < threadNum,
    inBody (s.workers.pos i) = false ∧ (s.created i = true → s.workers.pos i ≠ .spawned)

/-- No thread is late: the helper is online before the main thread looks at it, and the workers are
when it counts them, unless it has waited for them before its loop. -/
def Punctual (s : Teardown) : TeardownMove → Prop
  | .lookHelper => s.helper ≠ .created
  | .countThreads | .waitThreads =>
      s.workers.nOnThreads = 0 → s.workers.releaseSubThread = true ∨
        ∀ i, s.created i = true → s.workers.pos i ≠ .spawned
  | _ => True

theorem tracked_init (threadNum : Nat) : Tracked threadNum {} := by
  refine ⟨?_, by simp, fun _ _ => rfl, by simp, fun _ => rfl, by simp, by simp [helperSeen], by simp⟩
  simp [bodies, inBody]

/-- INTERNAL: a worker that can make a move is in its body, or begins. -/
theorem Walked.started {threadNum : Nat} {m : WorkerMove} {w w' : Workers} {i : Nat} {p : WorkerPos}
    (h : Walked threadNum m w w' i p) :
    inBody (w.pos i) = true ∨ m = .start i ∧ w.pos i = .spawned ∧ i < threadNum := by
  rcases h.count with ⟨hm, hpos, hi, -⟩ | ⟨hin, -⟩ | ⟨hin, -⟩
  · exact .inr ⟨hm, hpos, hi⟩
  · exact .inl hin
  · exact .inl hin

theorem Tracked.lt {threadNum : Nat} {s : Teardown} (h : Tracked threadNum s) {i : Nat}
    (hin : inBody (s.workers.pos i) = true) : i < threadNum := by
  by_contra hge
  rw [h.outside i (by omega)] at hin
  cases hin

/-- INTERNAL: where the memory has been freed, no thread can make a move. -/
theorem Tracked.quiet {side : Side} {threadNum : Nat} {s : Teardown} (h : Tracked threadNum s)
    (hmain : s.main = .released) {m : TeardownMove} (hm : m.byThread = true) :
    Teardown.step side threadNum m s = none := by
  have hhelper := h.helper (by rw [hmain]; rfl)
  cases m with
  | worker m =>
    by_cases hmay : s.mayMove m = true
    · cases hstep : Workers.step side threadNum m s.workers with
      | none => simp [Teardown.step, hstep]
      | some w =>
        have hne : m ≠ .stop := by
          rintro rfl
          cases hmay
        obtain ⟨i, p, hwalk⟩ := walked_step hne hstep
        rcases hwalk.started with hin | ⟨rfl, hpos, hi⟩
        · have hout := (h.workers hmain i (h.lt hin)).1
          rw [hin] at hout
          cases hout
        · simp only [Teardown.mayMove, hmain] at hmay
          split at hmay
          · cases hmay
          · exact absurd hpos ((h.workers hmain i hi).2 hmay)
    · exact if_neg hmay
  | helperStart raised =>
    apply if_neg
    rintro ⟨hc, -⟩
    rcases hhelper with hh | hh <;> rw [hh] at hc <;> cases hc
  | helperCheck =>
    apply if_neg
    intro hc
    rcases hhelper with hh | hh <;> rw [hh] at hc <;> cases hc
  | helperWork raised =>
    apply if_neg
    intro hc
    rcases hhelper with hh | hh <;> rw [hh] at hc <;> cases hc
  | _ => cases hm

/-- INTERNAL: a move of a worker. -/
theorem Tracked.worker {side : Side} {threadNum : Nat} {s s' : Teardown} (h : Tracked threadNum s)
    {m : WorkerMove} (hstep : Teardown.step side threadNum (.worker m) s = some s') :
    Tracked threadNum s' := by
  have hnot : s.main ≠ .released := by
    intro hmain
    rw [h.quiet hmain rfl] at hstep
    cases hstep
  simp only [Teardown.step, Option.ite_none_right_eq_some, Option.map_eq_some_iff] at hstep
  obtain ⟨hmay, w', hw, rfl⟩ := hstep
  have hne : m ≠ .stop := by
    rintro rfl
    cases hmay
  obtain ⟨i, p, hwalk⟩ := walked_step hne hw
  have hi : i < threadNum := by
    rcases hwalk.started with hin | ⟨-, -, hi⟩
    · exact h.lt hin
    · exact hi
  have hmoved := bodies_update threadNum s.workers.pos hi p
  have hstay : ∀ j, j ≠ i → w'.pos j = s.workers.pos j := by
    intro j hj
    rw [hwalk.pos, Function.update_of_ne hj]
  have hself : w'.pos i = p := by rw [hwalk.pos, Function.update_self]
  have hp : p ≠ .spawned := by
    rintro rfl
    rcases hwalk.count with ⟨-, -, -, hp, -⟩ | ⟨-, hp, -⟩ | ⟨-, ⟨ret, hp⟩, -⟩ <;> cases hp
  refine ⟨?_, h.online, ?_, ?_, h.absent, h.waited, h.helper, fun hmain => absurd hmain hnot⟩
  · show w'.nOnThreads = bodies threadNum w'.pos
    rw [hwalk.pos]
    rcases hwalk.count with ⟨-, hpos, -, hin, hn⟩ | ⟨hold, hin, hn⟩ | ⟨hold, ⟨ret, rfl⟩, hn⟩
    · rw [hpos, hin] at hmoved
      simp only [inBody, Bool.toNat_false, Bool.toNat_true] at hmoved
      rw [hn, h.count]
      omega
    · rw [hold, hin] at hmoved
      rw [hn, h.count]
      omega
    · rw [hold] at hmoved
      simp only [inBody, Bool.toNat_false, Bool.toNat_true] at hmoved
      rw [hn, h.count]
      omega
  · intro j hj
    rw [hstay j (by omega)]
    exact h.outside j hj
  · intro hrel j hj
    by_cases hji : j = i
    · subst hji
      rw [hself]
      exact hp
    · rw [hstay j hji]
      rcases hwalk.release hrel with hrel | ⟨hall, -⟩
      · exact h.release hrel j hj
      · have hin := bodies_eq_all (h.count.symm.trans hall) hj
        intro hspawned
        rw [hspawned] at hin
        cases hin

/-- INTERNAL: the main thread goes on. -/
theorem Tracked.of_main {threadNum : Nat} {s : Teardown} (h : Tracked threadNum s) {main : MainPos}
    (hmain : main ≠ .spawnHelper)
    (hwaited : ∀ c, main = .waitHelper c → s.helper ≠ .created)
    (hhelper : helperSeen main = true → s.helper = .absent ∨ s.helper = .gone)
    (hworkers : main = .released → ∀ i < threadNum,
      inBody (s.workers.pos i) = false ∧ (s.created i = true → s.workers.pos i ≠ .spawned)) :
    Tracked threadNum { s with main := main } :=
  ⟨h.count, h.online, h.outside, h.release, fun he => absurd he hmain, hwaited, hhelper, hworkers⟩

/-- INTERNAL: the main thread goes on to a place where it has not looked yet. -/
theorem Tracked.of_main_early {threadNum : Nat} {s : Teardown} (h : Tracked threadNum s)
    {main : MainPos} (hmain : main ≠ .spawnHelper) (hwaited : ∀ c, main ≠ .waitHelper c)
    (hseen : helperSeen main = false) : Tracked threadNum { s with main := main } := by
  refine h.of_main hmain (fun c hc => absurd hc (hwaited c)) ?_ ?_
  · rw [hseen]
    intro hc
    cases hc
  · rintro rfl
    cases hseen

/-- INTERNAL: the helper goes on in its loop, or ends. -/
theorem Tracked.of_helper {threadNum : Nat} {s : Teardown} (h : Tracked threadNum s)
    (hs : s.helper ≠ .absent ∧ s.helper ≠ .gone) {helper : HelperPos} {online stop : Bool}
    (hhelper : helper ≠ .created)
    (honline : online = true ↔ helper = .head ∨ helper = .working) :
    Tracked threadNum { s with
      workers := { s.workers with stop := stop }, helper := helper, helperOnline := online } := by
  have hnot : helperSeen s.main ≠ true := by
    intro hseen
    rcases h.helper hseen with hh | hh
    · exact hs.1 hh
    · exact hs.2 hh
  exact ⟨h.count, honline, h.outside, h.release, fun hm => absurd (h.absent hm) hs.1,
    fun _ _ => hhelper, fun hseen => absurd hseen hnot, h.workers⟩

/-- INTERNAL: the main thread has counted nobody. -/
theorem Tracked.counted {threadNum : Nat} {s : Teardown} (h : Tracked threadNum s)
    (hzero : s.workers.nOnThreads = 0)
    (hlate : s.workers.releaseSubThread = true ∨
      ∀ i, s.created i = true → s.workers.pos i ≠ .spawned) :
    ∀ i < threadNum,
      inBody (s.workers.pos i) = false ∧ (s.created i = true → s.workers.pos i ≠ .spawned) := by
  intro i hi
  refine ⟨bodies_eq_zero (h.count.symm.trans hzero) hi, fun hc => ?_⟩
  rcases hlate with hrel | hall
  · exact h.release hrel i hi
  · exact hall i hc

theorem spawnFrom_early (threadNum i : Nat) :
    Teardown.spawnFrom threadNum i ≠ .spawnHelper ∧
      (∀ c, Teardown.spawnFrom threadNum i ≠ .waitHelper c) ∧
      helperSeen (Teardown.spawnFrom threadNum i) = false := by
  unfold Teardown.spawnFrom
  split <;> exact ⟨by simp, by simp, rfl⟩

/-- INTERNAL: a thread is created. -/
theorem Tracked.of_spawn {threadNum : Nat} {s : Teardown} (h : Tracked threadNum s) {i : Nat}
    (hmain : s.main = .spawn i) : Tracked threadNum { s with created := Function.update s.created i true } := by
  refine ⟨h.count, h.online, h.outside, h.release, h.absent, h.waited, h.helper, fun he => ?_⟩
  rw [show s.main = .released from he] at hmain
  cases hmain

/-- INTERNAL: a move, with a case for each of them. -/
theorem tracked_step {side : Side} {threadNum : Nat} {s s' : Teardown} {m : TeardownMove}
    (h : Tracked threadNum s) (hm : Punctual s m)
    (hstep : Teardown.step side threadNum m s = some s') : Tracked threadNum s' := by
  cases m with
  | worker m => exact h.worker hstep
  | helperStart raised =>
    simp only [Teardown.step, Option.ite_none_right_eq_some, Option.some.injEq] at hstep
    obtain ⟨⟨hc, -⟩, rfl⟩ := hstep
    exact h.of_helper (by simp [hc]) (by simp) (by simp)
  | helperCheck =>
    simp only [Teardown.step, Option.ite_none_right_eq_some, Option.some.injEq] at hstep
    obtain ⟨hc, rfl⟩ := hstep
    have honline := h.online.mpr (.inl hc)
    split
    · exact h.of_helper (by simp [hc]) (by simp) (by simp)
    · exact h.of_helper (by simp [hc]) (by simp) (by simp [honline])
  | helperWork raised =>
    simp only [Teardown.step, Option.ite_none_right_eq_some, Option.some.injEq] at hstep
    obtain ⟨hc, rfl⟩ := hstep
    have honline := h.online.mpr (.inr hc)
    exact h.of_helper (by simp [hc]) (by simp) (by simp [Teardown.raise, honline])
  | signal =>
    cases hstep
    split
    · exact h
    · exact ⟨h.count, h.online, h.outside, h.release, h.absent, h.waited, h.helper, h.workers⟩
  | spawnHelper res =>
    simp only [Teardown.step, Option.ite_none_right_eq_some] at hstep
    obtain ⟨hmain, hres⟩ := hstep
    have hoffline : s.helperOnline = false := by
      rw [← Bool.not_eq_true, h.online, h.absent hmain]
      simp
    -- the counters do not see a helper that is only created
    have hcreated : ∀ main, main ≠ .spawnHelper → (∀ c, main ≠ .waitHelper c) →
        helperSeen main = false → Tracked threadNum { s with helper := .created, main := main } := by
      intro main hne hwait hseen
      refine ⟨h.count, by simp [hoffline], h.outside, h.release, fun he => absurd he hne,
        fun c hc => absurd hc (hwait c), fun hs => ?_, ?_⟩
      · rw [show helperSeen main = true from hs] at hseen
        cases hseen
      · rintro rfl
        cases hseen
    obtain ⟨hne, hwait, hseen⟩ := spawnFrom_early threadNum 1
    cases res with
    | ok =>
      cases hres
      exact hcreated _ hne hwait hseen
    | notDetached =>
      cases hres
      exact hcreated _ (by simp) (by simp) rfl
    | notCreated =>
      cases hres
      exact h.of_main_early (by simp) (by simp) rfl
  | spawn res =>
    simp only [Teardown.step] at hstep
    split at hstep
    · next i hmain =>
      obtain ⟨hne, hwait, hseen⟩ := spawnFrom_early threadNum (i + 1)
      cases res with
      | ok =>
        cases hstep
        exact (h.of_spawn hmain).of_main_early hne hwait hseen
      | notDetached =>
        cases hstep
        exact (h.of_spawn hmain).of_main_early (by simp) (by simp) rfl
      | notCreated =>
        cases hstep
        exact h.of_main_early (by simp) (by simp) rfl
    · cases hstep
  | returned =>
    simp only [Teardown.step] at hstep
    split at hstep
    · cases hstep
      exact h.of_main_early (by simp) (by simp) rfl
    · cases hstep
  | lookHelper =>
    simp only [Teardown.step, Option.ite_none_right_eq_some, Option.some.injEq] at hstep
    obtain ⟨-, rfl⟩ := hstep
    refine h.of_main ?_ (fun _ _ => hm) ?_ ?_
    · split <;> simp
    · intro hseen
      have hoffline : ¬(s.helper = .head ∨ s.helper = .working) := by
        rw [← h.online]
        intro hon
        rw [if_pos hon] at hseen
        cases hseen
      have hcreated : s.helper ≠ .created := hm
      cases hpos : s.helper <;> simp [hpos] at hoffline hcreated ⊢
    · intro he
      split at he <;> cases he
  | waitHelper =>
    simp only [Teardown.step] at hstep
    split at hstep
    · next c hmain =>
      cases hstep
      have hcreated := h.waited c hmain
      refine h.of_main ?_ (fun _ _ => hcreated) ?_ ?_
      · split_ifs <;> simp
      · intro hseen
        have hoffline : ¬(s.helper = .head ∨ s.helper = .working) := by
          rw [← h.online]
          intro hon
          rw [if_pos hon] at hseen
          split at hseen <;> cases hseen
        cases hpos : s.helper <;> simp [hpos] at hoffline hcreated ⊢
      · intro he
        split_ifs at he
    · cases hstep
  | countThreads =>
    simp only [Teardown.step, Option.ite_none_right_eq_some, Option.some.injEq] at hstep
    obtain ⟨hmain, rfl⟩ := hstep
    have hhelper := h.helper (by rw [hmain]; rfl)
    refine h.of_main ?_ ?_ (fun _ => hhelper) ?_
    · split <;> simp
    · intro c hc
      split at hc <;> cases hc
    · intro he
      by_cases hzero : s.workers.nOnThreads = 0
      · exact h.counted hzero (hm hzero)
      · rw [if_neg hzero] at he
        cases he
  | waitThreads =>
    simp only [Teardown.step] at hstep
    split at hstep
    · next c hmain =>
      cases hstep
      have hhelper := h.helper (by rw [hmain]; rfl)
      refine h.of_main ?_ ?_ (fun _ => hhelper) ?_
      · split_ifs <;> simp
      · intro d hd
        split_ifs at hd
      · intro he
        by_cases hzero : s.workers.nOnThreads = 0
        · exact h.counted hzero (hm hzero)
        · rw [if_neg hzero] at he
          split at he <;> cases he
    · cases hstep

/-- INTERNAL: **nothing is used after it has been freed.** In every interleaving of the threads in
which no thread is late, once `destroy_epoll` has freed the thread array, the packet buffers and the
sessions, no thread makes a move: the workers that were started and the reaper, or the timer, have
made their last one. On the ordinary way no worker is late.
SOURCE: server/linux/udp_epoll.c:1142-1417, client/linux/udp_epoll.c:464-768 -/
theorem no_use_after_release (side : Side) (threadNum : Nat) (moves : List TeardownMove)
    (s : Teardown) (hrun : play (Teardown.step side threadNum) moves {} = some s)
    (hpunctual : Along (Teardown.step side threadNum) Punctual moves {})
    (hreleased : s.main = .released) (m : TeardownMove) (hm : m.byThread = true) :
    Teardown.step side threadNum m s = none :=
  (play_inv (Tracked threadNum) (fun _ _ _ h hm hstep => tracked_step h hm hstep)
    (tracked_init threadNum) hpunctual hrun).quiet hreleased hm

/-- Two workers and a reaper, stopped by a signal. -/
def stoppedBySignal : List TeardownMove :=
  [.spawnHelper .ok, .spawn .ok, .worker (.start 0), .helperStart false, .worker (.start 1),
    .worker (.released 0), .helperCheck, .worker (.released 1), .worker (.check 0),
    .worker (.polled 0 1), .signal, .worker (.handled 0 0 false), .worker (.check 0), .returned,
    .lookHelper, .helperWork false, .waitHelper, .helperCheck, .waitHelper, .countThreads,
    .worker (.check 1), .waitThreads]

/-- `Punctual`, as it is met on the ordinary way. -/
def punctualWay (s : Teardown) : TeardownMove → Bool
  | .lookHelper => s.helper != .created
  | .countThreads | .waitThreads => s.workers.releaseSubThread
  | _ => true

theorem punctual_of_way {s : Teardown} {m : TeardownMove} (h : punctualWay s m = true) :
    Punctual s m := by
  cases m with
  | lookHelper =>
    intro hc
    rw [punctualWay, hc] at h
    cases h
  | countThreads => exact fun _ => .inl h
  | waitThreads => exact fun _ => .inl h
  | _ => trivial

theorem no_use_after_release_signal :
    ∃ s, play (Teardown.step .server 2) stoppedBySignal {} = some s ∧ s.main = .released ∧
      ∀ m, m.byThread = true → Teardown.step .server 2 m s = none := by
  have hmain : (play (Teardown.step .server 2) stoppedBySignal {}).map (fun s => s.main) =
      some .released := by decide
  have hway : checkAlong (Teardown.step .server 2) punctualWay stoppedBySignal {} = true := by
    decide
  obtain ⟨s, hs, hreleased⟩ := Option.map_eq_some_iff.mp hmain
  exact ⟨s, hs, hreleased, fun m hm => no_use_after_release .server 2 stoppedBySignal s hs
    (along_of_checkAlong (fun _ _ => punctual_of_way) hway) hreleased m hm⟩

/-- The reaper of a server with one thread is still to start when the memory has been freed. -/
def lateReaper : List TeardownMove :=
  [.spawnHelper .ok, .worker (.start 0), .worker (.released 0), .signal, .worker (.check 0),
    .returned, .lookHelper, .countThreads]

example : ((play (Teardown.step .server 1) lateReaper {}).map fun s => s.main) = some .released ∧
    ((play (Teardown.step .server 1) lateReaper {}).bind
      (Teardown.step .server 1 (.helperStart false))).isSome = true := by decide

end TeaVpn2.Analysis
