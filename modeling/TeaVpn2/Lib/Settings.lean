import Mathlib.Data.List.Basic
import Mathlib.Tactic.Common

/-!
# Settings processed in order

A configuration `c : C` is changed by a list of items, each of which may refuse. `Writes` says
what the items do to one field: an item with a value for it stores the value, every other item
leaves the field as it is. A field then holds the last value written to it, or its default
(`Writes.last`).
-/

set_option autoImplicit false

namespace TeaVpn2.Lib

variable {C ι V : Type}

/-- The last value that the items have for a field. -/
def lastOf (sets : ι → Option V) (items : List ι) : Option V := (items.filterMap sets).getLast?

theorem lastOf_append (sets : ι → Option V) (l r : List ι) :
    lastOf sets (l ++ r) = (lastOf sets r).or (lastOf sets l) := by
  simp [lastOf, List.filterMap_append, List.getLast?_append]

theorem lastOf_singleton (sets : ι → Option V) (i : ι) : lastOf sets [i] = sets i := by
  cases h : sets i <;> simp [lastOf, h]

theorem lastOf_map {κ : Type} (sets : ι → Option V) (f : κ → ι) (l : List κ) :
    lastOf sets (l.map f) = lastOf (fun k => sets (f k)) l := by
  simp [lastOf, List.filterMap_map]

theorem lastOf_eq_none {sets : ι → Option V} {l : List ι} :
    lastOf sets l = none ↔ ∀ i ∈ l, sets i = none := by
  rw [lastOf, List.getLast?_eq_none_iff, List.filterMap_eq_nil_iff]

theorem lastOf_isSome {sets : ι → Option V} {l : List ι} :
    (lastOf sets l).isSome ↔ ∃ i ∈ l, (sets i).isSome := by
  rw [← Option.ne_none_iff_isSome, Ne, lastOf_eq_none]
  simp [Option.isSome_iff_ne_none]

theorem exists_of_lastOf {sets : ι → Option V} {l : List ι} {v : V} (h : lastOf sets l = some v) :
    ∃ i ∈ l, sets i = some v :=
  List.mem_filterMap.mp (List.mem_of_getLast? h)

theorem lastOf_none (l : List ι) : lastOf (fun _ : ι => (none : Option V)) l = none :=
  lastOf_eq_none.mpr fun _ _ => rfl

theorem lastOf_comp {W : Type} (f : V → W) (sets : ι → Option V) (l : List ι) :
    lastOf (fun i => (sets i).map f) l = (lastOf sets l).map f := by
  rw [lastOf, ← List.map_filterMap, lastOf, List.getLast?_map]

/-- The items write the values `sets` to the field `get`, and nothing else to it. -/
def Writes (step : C → ι → Option C) (get : C → V) (sets : ι → Option V) : Prop :=
  ∀ c i c', step c i = some c' → get c' = (sets i).getD (get c)

/-- INTERNAL: the field seen through `f`. -/
theorem Writes.comp {W : Type} {step : C → ι → Option C} {get : C → V} {sets : ι → Option V}
    {sets' : ι → Option W} (h : Writes step get sets) (f : V → W)
    (hsets : ∀ i, (sets i).map f = sets' i) : Writes step (fun c => f (get c)) sets' := by
  intro c i c' hstep
  show f (get c') = (sets' i).getD (f (get c))
  rw [← hsets i, h c i c' hstep, Option.getD_map]

/-- INTERNAL: **the last value written stays.** -/
theorem Writes.last {step : C → ι → Option C} {get : C → V} {sets : ι → Option V}
    (h : Writes step get sets) {items : List ι} {c c' : C} (hrun : items.foldlM step c = some c') :
    get c' = (lastOf sets items).getD (get c) := by
  induction items generalizing c with
  | nil =>
    cases hrun
    rfl
  | cons i items ih =>
    rw [List.foldlM_cons] at hrun
    obtain ⟨c₁, hstep, hrest⟩ := Option.bind_eq_some_iff.mp hrun
    rw [ih hrest, h c i c₁ hstep, ← List.singleton_append, lastOf_append, lastOf_singleton]
    cases lastOf sets items <;> rfl

/-- INTERNAL: a run that succeeds succeeds up to every point. -/
theorem foldlM_append_some {step : C → ι → Option C} {l r : List ι} {c c' : C}
    (h : (l ++ r).foldlM step c = some c') :
    ∃ c₁, l.foldlM step c = some c₁ ∧ r.foldlM step c₁ = some c' := by
  rw [List.foldlM_append] at h
  exact Option.bind_eq_some_iff.mp h

end TeaVpn2.Lib
