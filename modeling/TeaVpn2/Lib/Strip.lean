import Mathlib.Data.List.DropRight
import Mathlib.Tactic.Common

/-!
# Stripping a list at both ends

`strip p l` is `l` without the longest run of elements that satisfy `p` at its beginning and at
its end. `eq_strip` splits the list into the three parts, and `strip_ends` says that what is
left begins and ends with elements that do not satisfy `p`.
-/

set_option autoImplicit false

namespace TeaVpn2.Lib

variable {α : Type} (p : α → Bool)

/-- The list without the elements that satisfy `p` at its two ends. -/
def strip (l : List α) : List α := (l.dropWhile p).rdropWhile p

/-- INTERNAL: what is cut off satisfies `p`. -/
theorem eq_strip (l : List α) : ∃ a b, l = a ++ strip p l ++ b ∧ (∀ x ∈ a, p x = true) ∧
    ∀ x ∈ b, p x = true := by
  refine ⟨l.takeWhile p, (l.dropWhile p).rtakeWhile p, ?_, ?_, ?_⟩
  · rw [strip, List.append_assoc, List.rdropWhile_append_rtakeWhile,
      List.takeWhile_append_dropWhile]
  · intro x hx
    exact List.mem_takeWhile_imp hx
  · intro x hx
    exact List.mem_rtakeWhile_imp hx

theorem mem_of_mem_strip {l : List α} {x : α} (h : x ∈ strip p l) : x ∈ l := by
  obtain ⟨a, b, hl, -, -⟩ := eq_strip p l
  rw [hl]
  simp [h]

theorem head?_dropWhile {l : List α} {x : α} (h : (l.dropWhile p).head? = some x) :
    p x = false := by
  have hnot := List.head?_dropWhile_not p l
  rw [h] at hnot
  simpa using hnot

/-- INTERNAL: what is left begins and ends with an element that does not satisfy `p`. -/
theorem strip_ends {l : List α} (h : strip p l ≠ []) :
    (∃ x t, strip p l = x :: t ∧ p x = false) ∧ ∃ t x, strip p l = t ++ [x] ∧ p x = false := by
  constructor
  · obtain ⟨x, t, hx⟩ := List.exists_cons_of_ne_nil h
    refine ⟨x, t, hx, ?_⟩
    have hpre : strip p l <+: l.dropWhile p := List.rdropWhile_prefix p (l.dropWhile p)
    rw [hx] at hpre
    obtain ⟨r, hr⟩ := hpre
    apply head?_dropWhile p (l := l)
    rw [← hr]
    rfl
  · refine ⟨(strip p l).dropLast, (strip p l).getLast h, (List.dropLast_append_getLast h).symm, ?_⟩
    exact Bool.eq_false_iff.mpr (List.rdropWhile_last_not p (l.dropWhile p) h)

/-- INTERNAL: a list that begins and ends with elements that do not satisfy `p` is left as it
is. -/
theorem strip_eq_self {l : List α} (hhead : ∀ x t, l = x :: t → p x = false)
    (hlast : ∀ t x, l = t ++ [x] → p x = false) : strip p l = l := by
  have hdrop : l.dropWhile p = l := by
    cases l with
    | nil => rfl
    | cons x t => simp [hhead x t rfl]
  rw [strip, hdrop, List.rdropWhile_eq_self_iff]
  intro hne
  rw [hlast l.dropLast (l.getLast hne) (List.dropLast_append_getLast hne).symm]
  simp

theorem strip_strip (l : List α) : strip p (strip p l) = strip p l := by
  by_cases h : strip p l = []
  · rw [h]
    rfl
  · obtain ⟨⟨x, t, hx, hpx⟩, t', y, hy, hpy⟩ := strip_ends p h
    apply strip_eq_self
    · intro x' t'' hx'
      rw [hx] at hx'
      cases hx'
      exact hpx
    · intro t'' y' hy'
      rw [hy] at hy'
      obtain ⟨-, hyy⟩ := List.append_inj' hy' rfl
      cases hyy
      exact hpy

/-! ## Padding -/

theorem rdropWhile_append_of_pos {l r : List α} (hr : ∀ x ∈ r, p x = true) :
    (l ++ r).rdropWhile p = l.rdropWhile p := by
  unfold List.rdropWhile
  rw [List.reverse_append, List.dropWhile_append_of_pos fun x hx => hr x (List.mem_reverse.mp hx)]

/-- INTERNAL: only what stands behind an element that does not satisfy `p` is cut off. -/
theorem rdropWhile_append_cons {x : α} (hx : p x = false) (l r : List α) :
    (l ++ x :: r).rdropWhile p = l ++ x :: r.rdropWhile p := by
  induction r using List.reverseRecOn with
  | nil =>
    rw [List.rdropWhile_concat_neg p l x (by simp [hx])]
    rfl
  | append_singleton r y ih =>
    have hassoc : l ++ x :: (r ++ [y]) = (l ++ x :: r) ++ [y] := by simp
    by_cases hy : p y = true
    · rw [hassoc, List.rdropWhile_concat_pos p _ y hy, List.rdropWhile_concat_pos p r y hy, ih]
    · rw [hassoc, List.rdropWhile_concat_neg p _ y hy, List.rdropWhile_concat_neg p r y hy, hassoc]

theorem strip_append_left {a : List α} (ha : ∀ x ∈ a, p x = true) (l : List α) :
    strip p (a ++ l) = strip p l := by
  rw [strip, List.dropWhile_append_of_pos ha, strip]

theorem strip_append_right {b : List α} (hb : ∀ x ∈ b, p x = true) (l : List α) :
    strip p (l ++ b) = strip p l := by
  rw [strip, strip, List.dropWhile_append]
  split
  · next hnil =>
    rw [List.isEmpty_iff.mp hnil, List.dropWhile_eq_nil_iff.mpr hb]
  · exact rdropWhile_append_of_pos p hb

/-- INTERNAL: what is put around a list is cut off again. -/
theorem strip_padded {a l b : List α} (ha : ∀ x ∈ a, p x = true) (hl : strip p l = l)
    (hb : ∀ x ∈ b, p x = true) : strip p (a ++ l ++ b) = l := by
  rw [strip_append_right p hb, strip_append_left p ha, hl]

theorem strip_rdropWhile (l : List α) : strip p (l.rdropWhile p) = strip p l := by
  have happ : l.rdropWhile p ++ l.rtakeWhile p = l := List.rdropWhile_append_rtakeWhile
  have hright := strip_append_right p (b := l.rtakeWhile p)
    (fun x hx => List.mem_rtakeWhile_imp hx) (l.rdropWhile p)
  rw [happ] at hright
  exact hright.symm

end TeaVpn2.Lib
