import Mathlib.Data.List.Basic
import Mathlib.Tactic.Common

/-!
# How a POSIX shell reads a command line

The token recognition and the quoting rules of the shell as an automaton over bytes. A
word is kept with the knowledge of how each of its characters was read: a *quoted*
character stands for itself, whatever it is; a character that was not quoted is open to
every later stage of the shell (expansions, field splitting, pathname expansion, reserved
words). The text of a substitution behind an unquoted `$` or backquote is not followed.

The automaton reads from left to right, so a command line is understood piece by piece:
`run_append` cuts it anywhere, and `step_single` and `run_reopened` are the facts about
single quotes.
-/

set_option autoImplicit false

namespace TeaVpn2.Lib.Shell

/-! ## The characters with a meaning -/

def squote : UInt8 := 39
def dquote : UInt8 := 34
def backslash : UInt8 := 92
def dollar : UInt8 := 36
def backquote : UInt8 := 96
def hash : UInt8 := 35
def newline : UInt8 := 10
def space : UInt8 := 32

/-- The characters that separate words. -/
def isBlank (c : UInt8) : Bool := c == space || c == 9

/-- The characters that begin an operator: `&`, `(`, `)`, `;`, `<`, `>` and `|`. -/
def isOperator (c : UInt8) : Bool :=
  c == 38 || c == 40 || c == 41 || c == 59 || c == 60 || c == 62 || c == 124

/-! ## The automaton -/

/-- A word: its characters, each with whether it was quoted. -/
abbrev Word := List (UInt8 × Bool)

/-- The word whose characters are all quoted. -/
def Word.literal (s : List UInt8) : Word := s.map fun c => (c, true)

/-- What the shell recognises. An operator of two characters is recognised as two. -/
inductive Token where
  | word (w : Word)
  | operator (c : UInt8)
  | newline
deriving DecidableEq, Repr

/-- Where the reader stands with respect to quotes. -/
inductive Mode where
  | plain
  | escaped
  | single
  | double
  | doubleEscaped
  | comment
deriving DecidableEq, Repr

/-- The reader: its mode, the word it is in (`none` between words, `some []` in a word that
has no character yet) and the tokens it has completed. -/
structure Reader where
  mode : Mode := .plain
  word : Option Word := none
  tokens : List Token := []
deriving DecidableEq, Repr

namespace Reader

/-- Add a character to the word, or begin one with it. -/
def put (s : Reader) (c : UInt8) (quoted : Bool) : Reader :=
  { s with word := some (s.word.getD [] ++ [(c, quoted)]) }

/-- A quote begins a word even when nothing is in it. -/
def enter (s : Reader) (m : Mode) : Reader := { s with mode := m, word := some (s.word.getD []) }

/-- The word, if the reader is in one, is complete. -/
def delimit (s : Reader) : Reader :=
  match s.word with
  | none => s
  | some w => { s with word := none, tokens := s.tokens ++ [.word w] }

def emit (s : Reader) (t : Token) : Reader := { s with tokens := s.tokens ++ [t] }

/-- Read one character. -/
def step (s : Reader) (c : UInt8) : Reader :=
  match s.mode with
  | .plain =>
      if c = backslash then { s with mode := .escaped }
      else if c = squote then s.enter .single
      else if c = dquote then s.enter .double
      else if isBlank c then s.delimit
      else if c = newline then s.delimit.emit .newline
      else if isOperator c then s.delimit.emit (.operator c)
      else if c = hash ∧ s.word = none then { s with mode := .comment }
      else s.put c false
  | .escaped =>
      -- a backslash before a newline continues the line
      if c = newline then { s with mode := .plain } else { s.put c true with mode := .plain }
  | .single => if c = squote then { s with mode := .plain } else s.put c true
  | .double =>
      if c = dquote then { s with mode := .plain }
      else if c = backslash then { s with mode := .doubleEscaped }
      else s.put c (!(c == dollar || c == backquote))
  | .doubleEscaped =>
      if c = newline then { s with mode := .double }
      else if c = dollar ∨ c = backquote ∨ c = dquote ∨ c = backslash then
        { s.put c true with mode := .double }
      else { (s.put backslash true).put c true with mode := .double }
  | .comment => if c = newline then { s with mode := .plain }.emit .newline else s

/-- Read a piece of the command line. -/
def run (s : Reader) (text : List UInt8) : Reader := text.foldl step s

/-- The end of the input: the tokens, unless a quote is left open. -/
def finish (s : Reader) : Option (List Token) :=
  match s.mode with
  | .plain | .comment => some s.delimit.tokens
  | _ => none

/-- The reader stands where an argument may begin. -/
def AtArgument (s : Reader) : Prop := s.mode = .plain ∧ s.word = none

instance (s : Reader) : Decidable s.AtArgument := inferInstanceAs (Decidable (_ ∧ _))

theorem run_append (s : Reader) (a b : List UInt8) : s.run (a ++ b) = (s.run a).run b :=
  List.foldl_append

theorem run_cons (s : Reader) (c : UInt8) (b : List UInt8) : s.run (c :: b) = (s.step c).run b :=
  rfl

/-- INTERNAL: between single quotes every character but the quote stands for itself. -/
theorem step_single (w : Word) (tokens : List Token) {c : UInt8} (hc : c ≠ squote) :
    step ⟨.single, some w, tokens⟩ c = ⟨.single, some (w ++ [(c, true)]), tokens⟩ := by
  simp [step, hc, put]

/-- INTERNAL: inside single quotes, closing them, an escaped quote and opening them again
put one quote into the word. -/
theorem run_reopened (w : Word) (tokens : List Token) :
    run ⟨.single, some w, tokens⟩ [squote, backslash, squote, squote] =
      ⟨.single, some (w ++ [(squote, true)]), tokens⟩ := by
  simp [run, step, enter, put, squote, backslash, newline]

/-! ## Ordinary characters -/

/-- Digits, small letters and `.`, `/`, `_`: unquoted they stand for themselves at every stage of
the shell. -/
def isOrdinary (c : UInt8) : Bool :=
  (48 ≤ c && c ≤ 57) || (97 ≤ c && c ≤ 122) || c == 46 || c == 47 || c == 95

/-- The word whose characters are all unquoted. -/
def unquoted (s : List UInt8) : Word := s.map fun c => (c, false)

/-- INTERNAL: an ordinary character goes into the word. -/
theorem step_ordinary (w : Option Word) (tokens : List Token) {c : UInt8}
    (hc : isOrdinary c = true) :
    step ⟨.plain, w, tokens⟩ c = ⟨.plain, some (w.getD [] ++ [(c, false)]), tokens⟩ := by
  have hne : ∀ d : UInt8, isOrdinary d = false → c ≠ d := by
    rintro d hd rfl
    rw [hd] at hc
    cases hc
  have hblank : isBlank c = false := by
    simp [isBlank, space, hne 32 (by decide), hne 9 (by decide)]
  have hop : isOperator c = false := by
    simp [isOperator, hne 38 (by decide), hne 40 (by decide), hne 41 (by decide),
      hne 59 (by decide), hne 60 (by decide), hne 62 (by decide), hne 124 (by decide)]
  have hhash : c ≠ hash := hne hash (by decide)
  simp [step, put, hblank, hop, hhash, hne backslash (by decide), hne squote (by decide),
    hne dquote (by decide), hne newline (by decide)]

/-- INTERNAL: inside a word, ordinary characters go on with it. -/
theorem run_ordinary (w : Word) (tokens : List Token) {s : List UInt8}
    (hs : ∀ c ∈ s, isOrdinary c = true) :
    run ⟨.plain, some w, tokens⟩ s = ⟨.plain, some (w ++ unquoted s), tokens⟩ := by
  induction s generalizing w with
  | nil => simp [run, unquoted]
  | cons c s ih =>
    rw [run_cons, step_ordinary _ _ (hs c (by simp)), Option.getD_some,
      ih _ fun d hd => hs d (by simp [hd])]
    simp [unquoted]

/-- INTERNAL: where an argument may begin, they are a word. -/
theorem run_ordinary_word (tokens : List Token) {s : List UInt8} (hne : s ≠ [])
    (hs : ∀ c ∈ s, isOrdinary c = true) :
    run ⟨.plain, none, tokens⟩ s = ⟨.plain, some (unquoted s), tokens⟩ := by
  obtain ⟨c, s, rfl⟩ := List.exists_cons_of_ne_nil hne
  rw [run_cons, step_ordinary _ _ (hs c (by simp)),
    run_ordinary _ _ fun d hd => hs d (by simp [hd])]
  rfl

theorem step_space (w : Option Word) (tokens : List Token) :
    step ⟨.plain, w, tokens⟩ space = (⟨.plain, w, tokens⟩ : Reader).delimit := by
  simp [step, space, backslash, squote, dquote, isBlank]

/-! ## Nothing is taken back -/

theorem tokens_delimit (s : Reader) : s.tokens <+: s.delimit.tokens := by
  unfold delimit
  split
  · exact List.prefix_refl _
  · exact List.prefix_append _ _

/-- INTERNAL: a token that has been recognised stays. -/
theorem tokens_step (s : Reader) (c : UInt8) : s.tokens <+: (s.step c).tokens := by
  unfold step
  split
  · split_ifs
    all_goals first
      | exact List.prefix_refl _
      | exact tokens_delimit s
      | exact (tokens_delimit s).trans (List.prefix_append _ _)
  all_goals
    split_ifs
    all_goals first
      | exact List.prefix_refl _
      | exact List.prefix_append _ _

theorem tokens_run (s : Reader) (text : List UInt8) : s.tokens <+: (s.run text).tokens := by
  induction text generalizing s with
  | nil => exact List.prefix_refl _
  | cons c text ih => exact (tokens_step s c).trans (ih (s.step c))

/-- The reader when other tokens have been recognised before. -/
def behind (pre : List Token) (s : Reader) : Reader := { s with tokens := pre ++ s.tokens }

theorem step_behind (pre : List Token) (s : Reader) (c : UInt8) :
    (s.behind pre).step c = (s.step c).behind pre := by
  obtain ⟨mode, word, tokens⟩ := s
  have hdelimit : (behind pre ⟨mode, word, tokens⟩).delimit =
      (delimit ⟨mode, word, tokens⟩).behind pre := by
    cases word <;> simp [behind, delimit]
  cases mode
  case plain =>
    have hword : (behind pre ⟨.plain, word, tokens⟩).word = word := rfl
    show ite _ _ _ = behind pre (ite _ _ _)
    simp only [hword]
    split_ifs
    · rfl
    · rfl
    · rfl
    · exact hdelimit
    · rw [hdelimit]
      simp [behind, emit]
    · rw [hdelimit]
      simp [behind, emit]
    · rfl
    · rfl
  case comment =>
    show ite _ _ _ = behind pre (ite _ _ _)
    split_ifs
    · simp [behind, emit]
    · rfl
  all_goals
    simp only [step, behind]
    split_ifs
    all_goals rfl

/-- INTERNAL: the tokens of a text do not depend on the ones before it. -/
theorem run_behind (pre : List Token) (s : Reader) (text : List UInt8) :
    (s.behind pre).run text = (s.run text).behind pre := by
  induction text generalizing s with
  | nil => rfl
  | cons c text ih => rw [run_cons, step_behind, ih, ← run_cons]

theorem finish_behind (pre : List Token) (s : Reader) :
    (s.behind pre).finish = s.finish.map (pre ++ ·) := by
  obtain ⟨mode, word, tokens⟩ := s
  cases mode <;> cases word <;> simp [behind, finish, delimit]

/-! ## Inert text -/

/-- Only words, and every character in them is quoted or ordinary: nothing for a later stage of the
shell to work on. -/
structure Inert (s : Reader) : Prop where
  mode : s.mode = .plain ∨ s.mode = .escaped ∨ s.mode = .single
  word : ∀ w, s.word = some w → ∀ x ∈ w, x.2 = true ∨ isOrdinary x.1 = true
  tokens : ∀ t ∈ s.tokens, ∃ w, t = .word w ∧ ∀ x ∈ w, x.2 = true ∨ isOrdinary x.1 = true

theorem inert_start : Inert {} := ⟨.inl rfl, by simp, by simp⟩

theorem Inert.put {s : Reader} (h : s.Inert) {c : UInt8} {quoted : Bool}
    (hc : quoted = true ∨ isOrdinary c = true) : (s.put c quoted).Inert := by
  refine ⟨h.mode, ?_, h.tokens⟩
  intro w hw x hx
  cases hw
  rcases List.mem_append.mp hx with hx | hx
  · cases hsw : s.word with
    | none => simp [hsw] at hx
    | some w =>
      rw [hsw] at hx
      exact h.word w hsw x hx
  · rw [List.mem_singleton.mp hx]
    exact hc

theorem Inert.delimit {s : Reader} (h : s.Inert) : s.delimit.Inert := by
  unfold Reader.delimit
  split
  · exact h
  · next w hw =>
    refine ⟨h.mode, by simp, fun t ht => ?_⟩
    rcases List.mem_append.mp ht with ht | ht
    · exact h.tokens t ht
    · exact ⟨w, List.mem_singleton.mp ht, h.word w hw⟩

theorem Inert.enter {s : Reader} (h : s.Inert) : (s.enter .single).Inert := by
  refine ⟨.inr (.inr rfl), ?_, h.tokens⟩
  intro w hw x hx
  cases hw
  cases hsw : s.word with
  | none => simp [hsw] at hx
  | some w =>
    rw [hsw] at hx
    exact h.word w hsw x hx

theorem Inert.withMode {s : Reader} (h : s.Inert) {m : Mode}
    (hm : m = .plain ∨ m = .escaped ∨ m = .single) : Inert { s with mode := m } :=
  ⟨hm, h.word, h.tokens⟩

/-- INTERNAL: a character that keeps the reader inert, whatever it is reading. -/
theorem Inert.step {s : Reader} (h : s.Inert) {c : UInt8}
    (hplain : s.mode = .plain → isOrdinary c = true ∨ c = space ∨ c = squote ∨ c = backslash)
    (hesc : s.mode = .escaped → c ≠ newline) : (s.step c).Inert := by
  rcases h.mode with hm | hm | hm
  · obtain ⟨mode, word, tokens⟩ := s
    cases hm
    rcases hplain rfl with hc | rfl | rfl | rfl
    · rw [step_ordinary _ _ hc]
      exact h.put (.inr hc)
    · rw [step_space]
      exact h.delimit
    · exact h.enter
    · exact h.withMode (.inr (.inl rfl))
  · unfold Reader.step
    rw [hm]
    simp only [hesc hm, if_false]
    exact (h.put (.inl rfl)).withMode (.inl rfl)
  · unfold Reader.step
    rw [hm]
    simp only
    split
    · exact h.withMode (.inl rfl)
    · exact h.put (.inl rfl)

/-- The reader is inert wherever the text is cut. -/
def InertText (s : Reader) (text : List UInt8) : Prop := ∀ n, (s.run (text.take n)).Inert

theorem InertText.nil {s : Reader} (h : s.Inert) : InertText s [] := by
  intro n
  rw [List.take_nil]
  exact h

theorem InertText.cons {s : Reader} {c : UInt8} {text : List UInt8} (h : s.Inert)
    (hrest : InertText (s.step c) text) : InertText s (c :: text) := by
  intro n
  cases n with
  | zero => exact h
  | succ n => exact hrest n

theorem InertText.append {s : Reader} {a b : List UInt8} (ha : InertText s a)
    (hb : InertText (s.run a) b) : InertText s (a ++ b) := by
  intro n
  rw [List.take_append, run_append]
  by_cases hn : n ≤ a.length
  · rw [Nat.sub_eq_zero_of_le hn, List.take_zero]
    exact ha n
  · rw [List.take_of_length_le (by omega)]
    exact hb _

theorem InertText.inert {s : Reader} {text : List UInt8} (h : InertText s text) :
    (s.run text).Inert := by
  have hall := h text.length
  rwa [List.take_length] at hall

theorem InertText.ordinary {s : Reader} (h : s.Inert) (hm : s.mode = .plain) {text : List UInt8}
    (ht : ∀ c ∈ text, isOrdinary c = true) : InertText s text := by
  induction text generalizing s with
  | nil => exact .nil h
  | cons c text ih =>
    have hc := ht c (by simp)
    have hstep := h.step (c := c) (fun _ => .inl hc) (fun he => by rw [hm] at he; cases he)
    refine .cons h (ih hstep ?_ fun d hd => ht d (by simp [hd]))
    obtain ⟨mode, word, tokens⟩ := s
    cases hm
    rw [step_ordinary _ _ hc]

end Reader

end TeaVpn2.Lib.Shell
