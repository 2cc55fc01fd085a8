import Mathlib.Data.List.Basic
import Mathlib.Tactic.Common

/-!
# Reading a stream line by line

A reader with room for `n` elements takes elements up to and including the first separator, and
stops when its room is used up: a long line comes in several pieces. `pieces n s` is what it
delivers for the whole stream.

No piece is empty or too long (`mem_pieces`), and a stream that is made of lines is read as these
lines (`pieces_flatten`).
-/

set_option autoImplicit false

namespace TeaVpn2.Lib

variable {α : Type} (sep : α → Bool)

/-! ## One piece -/

/-- The next piece, and what is left of the stream. -/
def piece : Nat → List α → List α × List α
  | 0, s => ([], s)
  | _ + 1, [] => ([], [])
  | n + 1, c :: s =>
      if sep c then ([c], s) else (c :: (piece n s).1, (piece n s).2)

theorem piece_append (n : Nat) (s : List α) : (piece sep n s).1 ++ (piece sep n s).2 = s := by
  fun_induction piece sep n s with
  | case1 s => rfl
  | case2 n => rfl
  | case3 n c s h => rfl
  | case4 n c s h ih => rw [List.cons_append, ih]

theorem length_piece_le (n : Nat) (s : List α) : (piece sep n s).1.length ≤ n := by
  fun_induction piece sep n s with
  | case1 s => exact Nat.le_refl 0
  | case2 n => exact Nat.zero_le _
  | case3 n c s h => exact Nat.le_add_left 1 n
  | case4 n c s h ih => exact Nat.succ_le_succ ih

/-- INTERNAL: a separator is the last element of its piece. -/
theorem piece_sep (n : Nat) (s : List α) {a b : List α} {c : α}
    (h : (piece sep n s).1 = a ++ c :: b) (hc : sep c = true) : b = [] := by
  induction n generalizing s a with
  | zero => simp [piece] at h
  | succ n ih =>
    cases s with
    | nil => simp [piece] at h
    | cons d s =>
      unfold piece at h
      by_cases hd : sep d = true
      · rw [if_pos hd] at h
        cases a with
        | nil =>
          rw [List.nil_append] at h
          cases h
          rfl
        | cons e a =>
          have hlen := congrArg List.length h
          simp at hlen
      · rw [if_neg hd] at h
        cases a with
        | nil =>
          simp only [List.nil_append, List.cons.injEq] at h
          exact absurd (h.1 ▸ hc) hd
        | cons e a =>
          simp only [List.cons_append, List.cons.injEq] at h
          exact ih s h.2

/-- INTERNAL: a reader with room makes progress. -/
theorem length_rest_lt (n : Nat) {s : List α} (h : s ≠ []) :
    (piece sep (n + 1) s).2.length < s.length := by
  cases s with
  | nil => exact absurd rfl h
  | cons c s =>
    have happ := congrArg List.length (piece_append sep n s)
    rw [List.length_append] at happ
    unfold piece
    split
    · exact Nat.lt_succ_self _
    · simp only [List.length_cons]
      omega

/-- INTERNAL: a line that fits is the next piece. -/
theorem piece_line {n : Nat} {l : List α} {c : α} (s : List α) (hl : ∀ x ∈ l, sep x = false)
    (hc : sep c = true) (hn : l.length < n) : piece sep n (l ++ c :: s) = (l ++ [c], s) := by
  induction l generalizing n with
  | nil =>
    obtain ⟨n, rfl⟩ := Nat.exists_eq_succ_of_ne_zero (Nat.ne_of_gt hn)
    simp [piece, hc]
  | cons x l ih =>
    obtain ⟨n, rfl⟩ := Nat.exists_eq_succ_of_ne_zero (Nat.ne_of_gt (Nat.zero_lt_of_lt hn))
    have hx : sep x = false := hl x (by simp)
    have hrest := ih (n := n) (fun y hy => hl y (by simp [hy])) (Nat.lt_of_succ_lt_succ hn)
    simp only [List.cons_append]
    unfold piece
    rw [if_neg (by simp [hx]), hrest]

/-! ## All pieces -/

/-- The pieces of a stream, with the length of the stream as fuel. -/
def piecesLoop (n : Nat) : Nat → List α → List (List α)
  | 0, _ => []
  | fuel + 1, s =>
      if s.isEmpty then []
      else (piece sep n s).1 :: piecesLoop n fuel (piece sep n s).2

def pieces (n : Nat) (s : List α) : List (List α) := piecesLoop sep n s.length s

@[simp] theorem pieces_nil (n : Nat) : pieces sep n ([] : List α) = [] := rfl

/-- INTERNAL: the fuel does not run out. -/
theorem piecesLoop_fuel (n : Nat) {fuel fuel' : Nat} {s : List α} (h : s.length ≤ fuel)
    (h' : s.length ≤ fuel') :
    piecesLoop sep (n + 1) fuel s = piecesLoop sep (n + 1) fuel' s := by
  induction fuel generalizing fuel' s with
  | zero =>
    have hs : s = [] := List.length_eq_zero_iff.mp (Nat.le_zero.mp h)
    subst hs
    cases fuel' <;> rfl
  | succ fuel ih =>
    cases s with
    | nil => cases fuel' <;> rfl
    | cons c s =>
      have hlt := length_rest_lt sep n (List.cons_ne_nil c s)
      simp only [List.length_cons] at h h' hlt
      obtain ⟨fuel', rfl⟩ : ∃ k, fuel' = k + 1 := ⟨fuel' - 1, by omega⟩
      have hrest : (piece sep (n + 1) (c :: s)).2.length ≤ fuel' := by omega
      unfold piecesLoop
      rw [ih (s := (piece sep (n + 1) (c :: s)).2) (by omega) hrest]

theorem pieces_of_ne_nil (n : Nat) {s : List α} (h : s ≠ []) :
    pieces sep (n + 1) s =
      (piece sep (n + 1) s).1 :: pieces sep (n + 1) (piece sep (n + 1) s).2 := by
  have hlt := length_rest_lt sep n h
  obtain ⟨c, t, rfl⟩ := List.exists_cons_of_ne_nil h
  simp only [List.length_cons] at hlt
  rw [pieces, List.length_cons]
  unfold piecesLoop
  rw [if_neg (by simp), pieces, piecesLoop_fuel sep n (by omega) (Nat.le_refl _)]

/-- INTERNAL: the induction that follows the reader. -/
theorem pieces_induction (n : Nat) {P : List α → Prop} (hnil : P [])
    (hcons : ∀ s, s ≠ [] → P (piece sep (n + 1) s).2 → P s) (s : List α) : P s := by
  induction hlen : s.length using Nat.strongRecOn generalizing s with
  | _ k ih =>
    by_cases hs : s = []
    · rw [hs]
      exact hnil
    · have hlt := length_rest_lt sep n hs
      exact hcons s hs (ih _ (by omega) _ rfl)

/-- INTERNAL: what a piece looks like. -/
theorem mem_pieces (n : Nat) {s l : List α} (h : l ∈ pieces sep (n + 1) s) :
    l ≠ [] ∧ l.length ≤ n + 1 ∧ ∀ a c b, l = a ++ c :: b → sep c = true → b = [] := by
  induction s using pieces_induction sep n with
  | hnil => cases h
  | hcons s hs ih =>
    rw [pieces_of_ne_nil sep n hs] at h
    rcases List.mem_cons.mp h with rfl | h
    · refine ⟨?_, length_piece_le sep _ s, fun a c b => piece_sep sep _ s⟩
      intro hnil
      have hlt := length_rest_lt sep n hs
      have happ := piece_append sep (n + 1) s
      rw [hnil, List.nil_append] at happ
      rw [happ] at hlt
      exact Nat.lt_irrefl _ hlt
    · exact ih h

/-- A line: elements that are no separators, and a separator. -/
def IsLine (l : List α) : Prop := ∃ t c, l = t ++ [c] ∧ (∀ x ∈ t, sep x = false) ∧ sep c = true

/-- INTERNAL: lines that fit are read one by one, whatever comes behind them. -/
theorem pieces_flatten_append (n : Nat) (ls : List (List α)) (s : List α)
    (h : ∀ l ∈ ls, IsLine sep l ∧ l.length ≤ n + 1) :
    pieces sep (n + 1) (ls.flatten ++ s) = ls ++ pieces sep (n + 1) s := by
  induction ls with
  | nil => rfl
  | cons l ls ih =>
    obtain ⟨⟨t, c, rfl, ht, hc⟩, hlen⟩ := h l (by simp)
    rw [List.length_append, List.length_singleton] at hlen
    have hsplit : ((t ++ [c]) :: ls).flatten ++ s = t ++ c :: (ls.flatten ++ s) := by simp
    have hpiece := piece_line sep (ls.flatten ++ s) ht hc (by omega : t.length < n + 1)
    rw [hsplit, pieces_of_ne_nil sep n (by simp), hpiece, ih fun l hl => h l (by simp [hl])]
    rfl

/-- INTERNAL: a stream that is made of lines is read as these lines. -/
theorem pieces_flatten (n : Nat) (ls : List (List α))
    (h : ∀ l ∈ ls, IsLine sep l ∧ l.length ≤ n + 1) :
    pieces sep (n + 1) ls.flatten = ls := by
  have happ := pieces_flatten_append sep n ls [] h
  simpa using happ

end TeaVpn2.Lib
