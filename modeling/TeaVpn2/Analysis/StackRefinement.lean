import TeaVpn2.Analysis.SessionTable

/-!
# The stack of free slots is a bounded list

`Lifo` is what the stack is for: a list that holds at most `capacity` values, with the last
one pushed in front. `btStackRun` is compared with it call by call: the results are the same,
the part of the array above the stack pointer is the list, and no call reads or writes outside
of the array or moves the 16-bit pointer past its ends.
-/

set_option autoImplicit false

namespace TeaVpn2.Analysis

/-! ## The bounded list -/

/-- A bounded list, its last pushed value first: the result of a call and the list after it. -/
def lifoStep (capacity : Nat) (l : List UInt16) : StackOp → Int × List UInt16
  | .pop =>
      match l with
      | [] => (-1, [])
      | n :: l => (n.toNat, l)
  | .push n => if l.length = capacity then (-1, l) else (n.toNat, n :: l)

def lifoRun (capacity : Nat) (l : List UInt16) : List StackOp → List Int × List UInt16
  | [] => ([], l)
  | op :: ops =>
      let (ret, l₁) := lifoStep capacity l op
      let (rets, l₂) := lifoRun capacity l₁ ops
      (ret :: rets, l₂)

/-- What a call may not do: leave `0 .. max_sp`, touch a cell that is not there, wrap the
stack pointer around, or change a stack on which it fails. -/
structure StackSafe (capacity : UInt16) (stk : BtStack) (op : StackOp) : Prop where
  maxSp_eq : stk.maxSp = capacity
  length_arr : stk.arr.length = capacity.toNat
  sp_le : stk.sp.toNat ≤ capacity.toNat
  index_lt : ∀ i, btStackIndex stk op = some i → i.toNat < capacity.toNat
  pop_sp : op = .pop → (btStackStep stk op).1 ≠ -1 →
    (btStackStep stk op).2.sp.toNat = stk.sp.toNat + 1
  push_sp : op ≠ .pop → (btStackStep stk op).1 ≠ -1 →
    (btStackStep stk op).2.sp.toNat + 1 = stk.sp.toNat
  failed : (btStackStep stk op).1 = -1 → (btStackStep stk op).2 = stk

/-! ## One call -/

section Step

variable {stk : BtStack}

/-- INTERNAL: **one call is one call of the bounded list.** -/
theorem btStackStep_spec (h : stk.Wf) (op : StackOp) :
    (btStackStep stk op).1 = (lifoStep stk.maxSp.toNat stk.contents op).1 ∧
      (btStackStep stk op).2.contents = (lifoStep stk.maxSp.toNat stk.contents op).2 ∧
      (btStackStep stk op).2.Wf ∧ (btStackStep stk op).2.maxSp = stk.maxSp := by
  cases op with
  | pop =>
    rcases BtStack.pop_spec h with ⟨hnil, hpop⟩ | ⟨n, stk', hpop, hcont, hwf, hmax⟩
    · simp only [btStackStep, hpop, lifoStep, hnil]
      exact ⟨trivial, trivial, h, trivial⟩
    · simp only [btStackStep, hpop, lifoStep, hcont]
      exact ⟨trivial, trivial, hwf, hmax⟩
  | push n =>
    rcases BtStack.push_spec h n with ⟨hfull, hpush⟩ | ⟨stk', hpush, hcont, hwf, hmax⟩
    · simp only [btStackStep, hpush, lifoStep, if_pos hfull]
      exact ⟨trivial, trivial, h, trivial⟩
    · have hroom : stk.contents.length ≠ stk.maxSp.toNat := by
        intro hfull
        have hlen := BtStack.length_contents hwf
        rw [hcont, List.length_cons, hmax] at hlen
        omega
      simp only [btStackStep, hpush, lifoStep, if_neg hroom, hcont]
      exact ⟨trivial, trivial, hwf, hmax⟩

theorem btStackStep_safe {capacity : UInt16} (h : stk.Wf) (hmax : stk.maxSp = capacity)
    (op : StackOp) : StackSafe capacity stk op := by
  subst hmax
  have hle : stk.sp.toNat ≤ stk.maxSp.toNat := UInt16.le_iff_toNat_le.mp h.sp_le
  have hlt : stk.sp ≠ stk.maxSp → stk.sp.toNat < stk.maxSp.toNat := by
    intro hne
    have hne' : stk.sp.toNat ≠ stk.maxSp.toNat := fun e => hne (UInt16.toNat_inj.mp e)
    omega
  have hpred : stk.sp ≠ 0 → (stk.sp - 1).toNat + 1 = stk.sp.toNat := by
    intro hne
    apply toNat_pred
    have hne' : stk.sp.toNat ≠ 0 := fun e => hne (UInt16.toNat_inj.mp e)
    omega
  refine ⟨rfl, h.length_arr, hle, ?_, ?_, ?_, ?_⟩
  · intro i hi
    cases op with
    | pop =>
      simp only [btStackIndex, Option.ite_none_left_eq_some, Option.some.injEq] at hi
      rw [← hi.2]
      exact hlt hi.1
    | push n =>
      simp only [btStackIndex, Option.ite_none_left_eq_some, Option.some.injEq] at hi
      have := hpred hi.1
      rw [← hi.2]
      omega
  · rintro rfl hret
    by_cases hsp : stk.sp = stk.maxSp
    · simp [btStackStep, btStackPop, hsp] at hret
    · simp only [btStackStep, btStackPop, if_neg hsp]
      exact toNat_succ (hlt hsp)
  · intro hop hret
    cases op with
    | pop => exact absurd rfl hop
    | push n =>
      by_cases hsp : stk.sp = 0
      · simp [btStackStep, btStackPush, hsp] at hret
      · simp only [btStackStep, btStackPush, if_neg hsp]
        exact hpred hsp
  · intro hret
    cases op with
    | pop =>
      by_cases hsp : stk.sp = stk.maxSp
      · simp [btStackStep, btStackPop, hsp]
      · simp only [btStackStep, btStackPop, if_neg hsp] at hret
        omega
    | push n =>
      by_cases hsp : stk.sp = 0
      · simp [btStackStep, btStackPush, hsp]
      · simp only [btStackStep, btStackPush, if_neg hsp] at hret
        omega

end Step

/-! ## A run of calls -/

/-- INTERNAL: **a run of calls is a run of the bounded list.** -/
theorem btStackRun_spec (ops : List StackOp) {stk : BtStack} (h : stk.Wf) :
    (btStackRun stk ops).1 = (lifoRun stk.maxSp.toNat stk.contents ops).1 ∧
      (btStackRun stk ops).2.contents = (lifoRun stk.maxSp.toNat stk.contents ops).2 ∧
      (btStackRun stk ops).2.Wf ∧ (btStackRun stk ops).2.maxSp = stk.maxSp := by
  induction ops generalizing stk with
  | nil => exact ⟨rfl, rfl, h, rfl⟩
  | cons op ops ih =>
    obtain ⟨hret, hcont, hwf, hmax⟩ := btStackStep_spec h op
    obtain ⟨hrets, hcont', hwf', hmax'⟩ := ih hwf
    rw [hmax, hcont] at hrets hcont'
    simp only [btStackRun, lifoRun]
    exact ⟨by rw [hret, hrets], hcont', hwf', hmax'.trans hmax⟩

/-- INTERNAL: popping a bounded list empty gives its values. -/
theorem lifoRun_drain (capacity : Nat) (l : List UInt16) :
    lifoRun capacity l (List.replicate l.length .pop) = (l.map fun n => (n.toNat : Int), []) := by
  induction l with
  | nil => rfl
  | cons n l ih => simp [lifoRun, lifoStep, List.replicate_succ, ih]

/-! ## The loops of the test -/

/-- INTERNAL: the invariant rule of `forUpTo`. -/
theorem forUpTo_spec {σ : Type} {capacity : UInt16} {body : UInt16 → σ → Option σ}
    (I : Nat → σ → Prop)
    (hbody : ∀ (i : UInt16) s, i.toNat < capacity.toNat → I i.toNat s →
      ∃ s', body i s = some s' ∧ I (i.toNat + 1) s') (i : UInt16) (s : σ)
    (hi : i.toNat ≤ capacity.toNat) (hs : I i.toNat s) :
    ∃ s', forUpTo capacity body i s = some s' ∧ I capacity.toNat s' := by
  induction i, s using forUpTo.induct capacity with
  | case1 i s hlt ih =>
    have hlt' : i.toNat < capacity.toNat := UInt16.lt_iff_toNat_lt.mp hlt
    have hsucc := toNat_succ hlt'
    obtain ⟨s₁, hstep, hs₁⟩ := hbody i s hlt' hs
    rw [← hsucc] at hs₁
    obtain ⟨s', hrun, hs'⟩ := ih s₁ (by omega) hs₁
    refine ⟨s', ?_, hs'⟩
    rw [forUpTo, if_pos hlt, hstep]
    exact hrun
  | case2 i s hge =>
    have heq : i.toNat = capacity.toNat := by
      have : ¬i.toNat < capacity.toNat := fun h => hge (UInt16.lt_iff_toNat_lt.mpr h)
      omega
    rw [heq] at hs
    exact ⟨s, by rw [forUpTo, if_neg hge], hs⟩

/-- The stack of capacity `capacity` holds the list `l`. -/
structure Holds (capacity : UInt16) (l : List UInt16) (stk : BtStack) : Prop where
  wf : stk.Wf
  maxSp_eq : stk.maxSp = capacity
  contents_eq : stk.contents = l

/-- INTERNAL: an assertion holds if the bounded list gives the value wanted. -/
theorem assertStep_spec {capacity : UInt16} {l : List UInt16} {stk : BtStack} (op : StackOp)
    (h : Holds capacity l stk) : ∃ stk',
      assertStep op (lifoStep capacity.toNat l op).1 stk = some stk' ∧
        Holds capacity (lifoStep capacity.toNat l op).2 stk' := by
  obtain ⟨hret, hcont, hwf, hmax⟩ := btStackStep_spec h.wf op
  rw [h.maxSp_eq, h.contents_eq] at hret hcont
  refine ⟨_, ?_, hwf, hmax.trans h.maxSp_eq, hcont⟩
  rw [assertStep, if_pos hret]

/-- The values `i - 1, ..., 0`. -/
def countdown : Nat → List UInt16
  | 0 => []
  | i + 1 => UInt16.ofNat i :: countdown i

@[simp] theorem length_countdown (i : Nat) : (countdown i).length = i := by
  induction i with
  | zero => rfl
  | succ i ih => simp [countdown, ih]

section Loops

variable {capacity : UInt16} {stk : BtStack}

/-- INTERNAL: the empty stack stays empty while it is popped. -/
theorem emptyLoop (h : Holds capacity [] stk) :
    ∃ stk', forUpTo capacity (fun _ => assertStep .pop (-1)) 0 stk = some stk' ∧
      Holds capacity [] stk' :=
  forUpTo_spec (fun _ => Holds capacity []) (fun _ _ _ hs => assertStep_spec .pop hs) 0 stk
    (Nat.zero_le _) h

theorem fillLoop (h : Holds capacity [] stk) :
    ∃ stk', forUpTo capacity (fun i => assertStep (.push i) i.toNat) 0 stk = some stk' ∧
      Holds capacity (countdown capacity.toNat) stk' := by
  apply forUpTo_spec (fun i => Holds capacity (countdown i)) _ 0 stk (Nat.zero_le _) h
  intro i s hi hs
  obtain ⟨s', hrun, hs'⟩ := assertStep_spec (.push i) hs
  have hroom : (countdown i.toNat).length ≠ capacity.toNat := by
    rw [length_countdown]
    omega
  rw [lifoStep, if_neg hroom] at hrun hs'
  refine ⟨s', hrun, ?_⟩
  rw [countdown, UInt16.ofNat_toNat]
  exact hs'

theorem fullLoop (h : Holds capacity (countdown capacity.toNat) stk) :
    ∃ stk', forUpTo capacity (fun i => assertStep (.push i) (-1)) 0 stk = some stk' ∧
      Holds capacity (countdown capacity.toNat) stk' := by
  apply forUpTo_spec (fun _ => Holds capacity (countdown capacity.toNat)) _ 0 stk (Nat.zero_le _) h
  intro i s _ hs
  obtain ⟨s', hrun, hs'⟩ := assertStep_spec (.push i) hs
  rw [lifoStep, if_pos (length_countdown _)] at hrun hs'
  exact ⟨s', hrun, hs'⟩

/-- INTERNAL: the values come back in reverse order; `j` is the value on top as long as there
is one. -/
theorem drainLoop (hpos : 0 < capacity.toNat) (h : Holds capacity (countdown capacity.toNat) stk) :
    ∃ x, forUpTo capacity (fun _ (x : BtStack × UInt16) =>
        (assertStep .pop (UInt16.toNat x.2) x.1).map fun stk => (stk, x.2 - 1)) 0
        (stk, capacity - 1) = some x ∧ Holds capacity [] x.1 := by
  have hstart := toNat_pred hpos
  obtain ⟨x, hrun, hx, -⟩ := @forUpTo_spec _ capacity (fun _ x =>
      (assertStep .pop (UInt16.toNat x.2) x.1).map fun stk => (stk, x.2 - 1))
    (fun i x => Holds capacity (countdown (capacity.toNat - i)) x.1 ∧
      (i < capacity.toNat → x.2.toNat + 1 + i = capacity.toNat))
    (fun i x hi hx => by
      obtain ⟨hx, hj⟩ := hx
      have hj := hj hi
      have hcount : countdown (capacity.toNat - i.toNat) = x.2 :: countdown x.2.toNat := by
        rw [show capacity.toNat - i.toNat = x.2.toNat + 1 by omega, countdown, UInt16.ofNat_toNat]
      rw [hcount] at hx
      obtain ⟨s', hrun, hs'⟩ := assertStep_spec .pop hx
      simp only [lifoStep] at hrun hs'
      refine ⟨(s', x.2 - 1), by simp only [hrun, Option.map_some], ?_, fun hlt => ?_⟩
      · rwa [show capacity.toNat - (i.toNat + 1) = x.2.toNat by omega]
      · have := toNat_pred (i := x.2) (by omega)
        show (x.2 - 1).toNat + 1 + (i.toNat + 1) = capacity.toNat
        omega) 0 (stk, capacity - 1) (Nat.zero_le _) ⟨h, fun _ => hstart⟩
  rw [Nat.sub_self] at hx
  exact ⟨x, hrun, hx⟩

/-- INTERNAL: **the test passes on an empty stack** and leaves it empty.
SOURCE: stack.h:73-122 -/
theorem btStackTest_spec (hpos : 0 < capacity.toNat) (h : Holds capacity [] stk) :
    ∃ stk', btStackTest stk = some stk' ∧ Holds capacity [] stk' := by
  obtain ⟨stk₁, hrun₁, h₁⟩ := emptyLoop h
  obtain ⟨stk₂, hrun₂, h₂⟩ := fillLoop h₁
  obtain ⟨stk₃, hrun₃, h₃⟩ := fullLoop h₂
  obtain ⟨⟨stk₄, j⟩, hrun₄, h₄⟩ := drainLoop hpos h₃
  obtain ⟨stk₅, hrun₅, h₅⟩ := emptyLoop h₄
  refine ⟨stk₅, ?_, h₅⟩
  have hne : capacity ≠ 0 := by
    rintro rfl
    exact absurd hpos (by decide)
  simp only [btStackTest, h.maxSp_eq, if_neg hne, Option.bind_eq_bind, hrun₁, hrun₂, hrun₃, hrun₄,
    hrun₅, Option.bind_some]

end Loops

/-! ## The result -/

/-- INTERNAL: **the stack is a bounded list.** For every capacity: after any sequence of calls
the results and the contents are those of a list of at most `capacity` values, and the next call
stays inside the array; the test of a debug build passes on every empty stack and leaves it
empty; and after the fill loop of `init_udp_session_stack` the stack yields `0, 1, ...`
in order, and then is empty.
SOURCE: stack.h:12-122, server/linux/udp.c:342-369 -/
theorem btStack_bounded_lifo (capacity : UInt16) :
    (∀ ops : List StackOp,
      (btStackRun (btStackInit capacity) ops).1 = (lifoRun capacity.toNat [] ops).1 ∧
      (btStackRun (btStackInit capacity) ops).2.contents = (lifoRun capacity.toNat [] ops).2 ∧
      ∀ op, StackSafe capacity (btStackRun (btStackInit capacity) ops).2 op) ∧
    (1 ≤ capacity → ∀ stk, Holds capacity [] stk →
      ∃ stk', btStackTest stk = some stk' ∧ Holds capacity [] stk') ∧
    ∀ stk, Holds capacity [] stk →
      ∃ stk', fillSessionStack capacity.toNat stk = some stk' ∧
        (btStackRun stk' (List.replicate capacity.toNat .pop)).1 =
          (List.range capacity.toNat).map (fun i : Nat => (i : Int)) ∧
        (btStackRun stk' (List.replicate capacity.toNat .pop)).2.contents = [] := by
  refine ⟨?_, ?_, ?_⟩
  · intro ops
    obtain ⟨hrets, hcont, hwf, hmax⟩ := btStackRun_spec ops (BtStack.init_wf capacity)
    rw [BtStack.contents_init] at hrets hcont
    exact ⟨hrets, hcont, fun op => btStackStep_safe hwf hmax op⟩
  · intro hpos stk h
    exact btStackTest_spec (UInt16.le_iff_toNat_le.mp hpos) h
  · intro stk h
    obtain ⟨stk', hfill, hwf, hmax, hcont⟩ := fillSessionStack_spec (i := capacity.toNat) h.wf
      (by rw [h.contents_eq, h.maxSp_eq]; exact Nat.le_refl _)
    rw [h.contents_eq, List.map_nil, List.append_nil] at hcont
    have hlen : stk'.contents.length = capacity.toNat := by
      rw [← List.length_map UInt16.toNat, hcont, List.length_range]
    obtain ⟨hrets, hcont', -, -⟩ := btStackRun_spec (List.replicate capacity.toNat .pop) hwf
    rw [← hlen, lifoRun_drain] at hrets hcont'
    rw [← hlen]
    refine ⟨stk', hlen ▸ hfill, ?_, hcont'⟩
    rw [hrets, hlen, ← hcont, List.map_map]
    rfl

/-- The test on a new stack of three values, and the fill loop after it. -/
theorem btStack_bounded_lifo_three :
    (∃ stk, btStackTest (btStackInit 3) = some stk) ∧
      ∃ stk, fillSessionStack 3 (btStackInit 3) = some stk ∧
        (btStackRun stk [.pop, .pop, .pop]).1 = [0, 1, 2] := by
  have hnew : Holds 3 [] (btStackInit 3) :=
    ⟨BtStack.init_wf 3, rfl, BtStack.contents_init 3⟩
  obtain ⟨-, htest, hfill⟩ := btStack_bounded_lifo 3
  obtain ⟨stk, hrun, -⟩ := htest (by decide) _ hnew
  obtain ⟨stk', hrun', hrets, -⟩ := hfill _ hnew
  exact ⟨⟨stk, hrun⟩, stk', hrun', hrets⟩

end TeaVpn2.Analysis
