import Mathlib.Data.List.Basic
import Mathlib.Tactic.Common

/-!
# The stack of free session slots (stack.h)

The stack grows downwards in an array of `max_sp` cells: `sp` is the index of the top,
`sp = max_sp` is empty and `sp = 0` is full. `BtStack.Wf` is what `bt_stack_init`
establishes and every operation keeps; under it the stack is the list
`contents = arr[sp ..]`, on which `pop` and `push` are `head` and `cons`.
-/

set_option autoImplicit false

namespace TeaVpn2

/-- `struct bt_stack`. -/
structure BtStack where
  sp : UInt16
  maxSp : UInt16
  arr : List UInt16
deriving DecidableEq, Repr

/-- stack.h:19-31; `none` is `-1`. -/
def btStackPop (stk : BtStack) : Option (UInt16 × BtStack) :=
  if stk.sp = stk.maxSp then none
  else some (stk.arr.getD stk.sp.toNat 0, { stk with sp := stk.sp + 1 })

/-- stack.h:34-45; `none` is `-1`, the stack is full. -/
def btStackPush (stk : BtStack) (n : UInt16) : Option BtStack :=
  if stk.sp = 0 then none
  else some { stk with sp := stk.sp - 1, arr := stk.arr.set (stk.sp - 1).toNat n }

/-- stack.h:48-63. -/
def btStackInit (capacity : UInt16) : BtStack where
  sp := capacity
  maxSp := capacity
  arr := List.replicate capacity.toNat 0

/-! ## Sequences of operations -/

/-- One call of the two functions. -/
inductive StackOp where
  | pop
  | push (n : UInt16)
deriving DecidableEq, Repr

/-- The `int32_t` that the call returns, and the stack after it. -/
def btStackStep (stk : BtStack) : StackOp → Int × BtStack
  | .pop =>
      match btStackPop stk with
      | none => (-1, stk)
      | some (n, stk') => (n.toNat, stk')
  | .push n =>
      match btStackPush stk n with
      | none => (-1, stk)
      | some stk' => (n.toNat, stk')

/-- The index of `arr` that the call reads or writes, as the code computes it. -/
def btStackIndex (stk : BtStack) : StackOp → Option UInt16
  | .pop => if stk.sp = stk.maxSp then none else some stk.sp
  | .push _ => if stk.sp = 0 then none else some (stk.sp - 1)

/-- The results of a sequence of calls, in order, and the stack after them. -/
def btStackRun (stk : BtStack) : List StackOp → List Int × BtStack
  | [] => ([], stk)
  | op :: ops =>
      let (ret, stk₁) := btStackStep stk op
      let (rets, stk₂) := btStackRun stk₁ ops
      (ret :: rets, stk₂)

/-! ## The test of a debug build (stack.h:73-122) -/

theorem toNat_succ {i n : UInt16} (h : i.toNat < n.toNat) : (i + 1).toNat = i.toNat + 1 := by
  have hlt := n.toNat_lt
  rw [UInt16.toNat_add]
  simp only [UInt16.reduceToNat]
  omega

theorem toNat_pred {i : UInt16} (h : 0 < i.toNat) : (i - 1).toNat + 1 = i.toNat := by
  have hone : (1 : UInt16) ≤ i := UInt16.le_iff_toNat_le.mpr h
  rw [UInt16.toNat_sub_of_le _ _ hone]
  simp only [UInt16.reduceToNat]
  omega

/-- `for (; i < capacity; i++)` with a 16-bit counter; `none` is a failed assertion. -/
def forUpTo {σ : Type} (capacity : UInt16) (body : UInt16 → σ → Option σ) (i : UInt16) (s : σ) :
    Option σ :=
  if i < capacity then (body i s).bind fun s' => forUpTo capacity body (i + 1) s' else some s
termination_by capacity.toNat - i.toNat
decreasing_by
  have hlt : i.toNat < capacity.toNat := by rwa [← UInt16.lt_iff_toNat_lt]
  have hsucc := toNat_succ hlt
  omega

/-- `assert(call == want)`. -/
def assertStep (op : StackOp) (want : Int) (stk : BtStack) : Option BtStack :=
  if (btStackStep stk op).1 = want then some (btStackStep stk op).2 else none

/-- `bt_stack_test`; `none` is a failed assertion. -/
def btStackTest (stk : BtStack) : Option BtStack := do
  let capacity := stk.maxSp
  if capacity = 0 then none
  else
    let stk ← forUpTo capacity (fun _ => assertStep .pop (-1)) 0 stk
    let stk ← forUpTo capacity (fun i => assertStep (.push i) i.toNat) 0 stk
    let stk ← forUpTo capacity (fun i => assertStep (.push i) (-1)) 0 stk
    -- the values come back in reverse order, with `j` running down
    let (stk, _) ← forUpTo capacity
      (fun _ (stk, j) => (assertStep .pop (UInt16.toNat j) stk).map fun stk => (stk, j - 1)) 0
      (stk, capacity - 1)
    forUpTo capacity (fun _ => assertStep .pop (-1)) 0 stk

namespace BtStack

/-- The stack pointer is inside the array and the array has `max_sp` cells. -/
structure Wf (stk : BtStack) : Prop where
  sp_le : stk.sp ≤ stk.maxSp
  length_arr : stk.arr.length = stk.maxSp.toNat

/-- The values on the stack, top first. -/
def contents (stk : BtStack) : List UInt16 := stk.arr.drop stk.sp.toNat

theorem length_contents {stk : BtStack} (h : stk.Wf) :
    stk.contents.length = stk.maxSp.toNat - stk.sp.toNat := by
  simp [contents, h.length_arr]

theorem init_wf (capacity : UInt16) : (btStackInit capacity).Wf where
  sp_le := UInt16.le_refl _
  length_arr := by simp [btStackInit]

@[simp] theorem contents_init (capacity : UInt16) : (btStackInit capacity).contents = [] := by
  simp [contents, btStackInit]

/-- INTERNAL: `pop` fails exactly on the empty stack and otherwise removes the top. -/
theorem pop_spec {stk : BtStack} (h : stk.Wf) :
    (stk.contents = [] ∧ btStackPop stk = none) ∨
    ∃ n stk', btStackPop stk = some (n, stk') ∧ stk.contents = n :: stk'.contents ∧
      stk'.Wf ∧ stk'.maxSp = stk.maxSp := by
  have hle : stk.sp.toNat ≤ stk.maxSp.toNat := UInt16.le_iff_toNat_le.mp h.sp_le
  by_cases hsp : stk.sp = stk.maxSp
  · left
    refine ⟨?_, by simp [btStackPop, hsp]⟩
    apply List.eq_nil_of_length_eq_zero
    rw [length_contents h, hsp]
    omega
  · right
    have hlt : stk.sp.toNat < stk.maxSp.toNat := by
      have hne : stk.sp.toNat ≠ stk.maxSp.toNat := fun e => hsp (UInt16.toNat_inj.mp e)
      omega
    have hsucc := toNat_succ hlt
    have hidx : stk.sp.toNat < stk.arr.length := by rw [h.length_arr]; exact hlt
    refine ⟨stk.arr.getD stk.sp.toNat 0, { stk with sp := stk.sp + 1 },
      by rw [btStackPop, if_neg hsp], ?_, ⟨?_, h.length_arr⟩, rfl⟩
    · simp only [contents, hsucc]
      rw [List.drop_eq_getElem_cons hidx]
      simp [hidx]
    · rw [UInt16.le_iff_toNat_le]
      show (stk.sp + 1).toNat ≤ stk.maxSp.toNat
      omega

/-- INTERNAL: `push` fails exactly on the full stack and otherwise puts the value on
top. -/
theorem push_spec {stk : BtStack} (h : stk.Wf) (n : UInt16) :
    (stk.contents.length = stk.maxSp.toNat ∧ btStackPush stk n = none) ∨
    ∃ stk', btStackPush stk n = some stk' ∧ stk'.contents = n :: stk.contents ∧
      stk'.Wf ∧ stk'.maxSp = stk.maxSp := by
  have hle : stk.sp.toNat ≤ stk.maxSp.toNat := UInt16.le_iff_toNat_le.mp h.sp_le
  by_cases hsp : stk.sp = 0
  · left
    refine ⟨?_, by simp [btStackPush, hsp]⟩
    rw [length_contents h, hsp]
    simp
  · right
    have hpos : 0 < stk.sp.toNat := by
      have hne : stk.sp.toNat ≠ 0 := fun e => hsp (UInt16.toNat_inj.mp e)
      omega
    have hpred : (stk.sp - 1).toNat = stk.sp.toNat - 1 := by
      have := toNat_pred hpos
      omega
    have hidx : stk.sp.toNat - 1 < stk.arr.length := by rw [h.length_arr]; omega
    refine ⟨{ stk with sp := stk.sp - 1, arr := stk.arr.set (stk.sp - 1).toNat n },
      by rw [btStackPush, if_neg hsp], ?_, ⟨?_, by simpa using h.length_arr⟩, rfl⟩
    · simp only [contents, hpred]
      rw [List.drop_eq_getElem_cons (by simpa using hidx)]
      have hs : stk.sp.toNat - 1 + 1 = stk.sp.toNat := by omega
      simp only [List.getElem_set_self, hs]
      rw [List.drop_set_of_lt (by omega)]
    · rw [UInt16.le_iff_toNat_le]
      show (stk.sp - 1).toNat ≤ stk.maxSp.toNat
      omega

end BtStack

end TeaVpn2
