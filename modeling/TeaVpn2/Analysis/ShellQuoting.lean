import TeaVpn2.Lib.Shell
import TeaVpn2.Program.Iface

/-!
# The shell reads back what `escapeshellarg` was given

The arguments of the `ip` commands go through a shell. `escapeshellarg` puts a string
between single quotes and replaces each single quote in it by `'\''`; read by the automaton
of `Lib.Shell` where an argument may begin, the result is one word, its characters are the
ones of the string, and every one of them is quoted.

The loop of the function only appends (`escapeLoop_eq_append`), so its length and its
reading are inductions over the string.
-/

set_option autoImplicit false

namespace TeaVpn2.Analysis

open TeaVpn2.Lib TeaVpn2.Lib.Shell TeaVpn2.Iface

/-! ## The loop -/

/-- INTERNAL: the loop appends to what is in the buffer. -/
theorem escapeLoop_eq_append (s cmd : List UInt8) :
    escapeLoop s cmd = cmd ++ escapeLoop s [] := by
  induction s generalizing cmd with
  | nil => simp [escapeLoop]
  | cons c s ih =>
    unfold escapeLoop
    by_cases hc : c = 39
    · rw [if_pos hc, if_pos hc, ih (cmd ++ _ ++ _), ih ([] ++ _ ++ _)]
      simp
    · rw [if_neg hc, if_neg hc, ih (cmd ++ _), ih ([] ++ _)]
      simp

/-- INTERNAL: three bytes more for every quote. -/
theorem length_escapeLoop (s cmd : List UInt8) :
    (escapeLoop s cmd).length = cmd.length + s.length + 3 * s.count 39 := by
  induction s generalizing cmd with
  | nil => simp [escapeLoop]
  | cons c s ih =>
    unfold escapeLoop
    by_cases hc : c = 39
    · subst hc
      rw [if_pos rfl, ih, List.count_cons_self]
      simp only [List.length_append, List.length_cons, List.length_nil]
      omega
    · rw [if_neg hc, ih, List.count_cons_of_ne hc]
      simp only [List.length_append, List.length_cons, List.length_nil]
      omega

theorem take_strlen (s : List UInt8) : s.take (strlen s) = cstr s :=
  (List.prefix_iff_eq_take.mp (List.takeWhile_prefix _)).symm

/-- INTERNAL: called with the length of the string, the function quotes the whole string. -/
theorem cmd_escapeshellarg (alloc : Option Nat) (s : List UInt8) :
    (escapeshellarg alloc s (strlen s)).cmd = 39 :: escapeLoop (cstr s) [] ++ [39] := by
  unfold escapeshellarg
  simp only [ite_self, take_strlen]
  rw [escapeLoop_eq_append]
  rfl

/-- INTERNAL: what `*res_len` is set to. -/
theorem resLen_escapeshellarg (alloc : Option Nat) (s : List UInt8) :
    (escapeshellarg alloc s (strlen s)).resLen =
      (cstr s).length + 3 * (cstr s).count 39 + 2 := by
  have hlen : (escapeshellarg alloc s (strlen s)).resLen =
      (escapeshellarg alloc s (strlen s)).cmd.length := rfl
  rw [hlen, cmd_escapeshellarg alloc s]
  simp only [List.cons_append, List.length_cons, List.length_append, List.length_nil,
    length_escapeLoop]
  omega

/-! ## The reader -/

/-- INTERNAL: inside single quotes, the output of the loop puts the string into the word. -/
theorem run_escapeLoop (s : List UInt8) (w : Word) (tokens : List Token) :
    Reader.run ⟨.single, some w, tokens⟩ (escapeLoop s []) =
      ⟨.single, some (w ++ Word.literal s), tokens⟩ := by
  induction s generalizing w with
  | nil => simp [escapeLoop, Reader.run, Word.literal]
  | cons c s ih =>
    unfold escapeLoop
    by_cases hc : c = 39
    · -- the four bytes leave the quotes and come back into them
      subst hc
      have hfour : Reader.run ⟨.single, some w, tokens⟩ ([] ++ [39, 92, 39] ++ [39]) =
          ⟨.single, some (w ++ [(39, true)]), tokens⟩ := Reader.run_reopened w tokens
      rw [if_pos rfl, escapeLoop_eq_append, Reader.run_append, hfour, ih]
      simp [Word.literal]
    · have hone : Reader.run ⟨.single, some w, tokens⟩ ([] ++ [c]) =
          ⟨.single, some (w ++ [(c, true)]), tokens⟩ := Reader.step_single w tokens hc
      rw [if_neg hc, escapeLoop_eq_append, Reader.run_append, hone, ih]
      simp [Word.literal]

/-- INTERNAL: where an argument may begin, the quoted string is a word. -/
theorem run_escapeshellarg (alloc : Option Nat) (s : List UInt8) {r : Reader}
    (hr : r.AtArgument) :
    r.run (escapeshellarg alloc s (strlen s)).cmd =
      { r with word := some (Word.literal (cstr s)) } := by
  obtain ⟨mode, word, tokens⟩ := r
  obtain ⟨hmode, hword⟩ := hr
  cases hmode
  cases hword
  have hopen : (⟨.plain, none, tokens⟩ : Reader).step 39 = ⟨.single, some [], tokens⟩ := by
    simp [Reader.step, Reader.enter, squote, backslash]
  have hclose : (⟨.single, some (Word.literal (cstr s)), tokens⟩ : Reader).run [39] =
      ⟨.plain, some (Word.literal (cstr s)), tokens⟩ := by
    simp [Reader.run, Reader.step, squote]
  rw [cmd_escapeshellarg alloc s, List.cons_append, Reader.run_cons, hopen, Reader.run_append,
    run_escapeLoop (cstr s) [] tokens, List.nil_append, hclose]

/-- INTERNAL: **shell quoting is exact.** Where an argument may begin, the output of
`escapeshellarg` and a space or newline behind it, or the end of the input, are read as one
word, which is the string, with every character quoted; `*res_len` counts three bytes more
for each quote and the two delimiters.
SOURCE: net/linux/iface.c:102-161, net/linux/iface.c:296-314 -/
theorem escapeshellarg_exact (alloc : Option Nat) (s : List UInt8) (h : (0 : UInt8) ∉ s)
    (r : Reader) (hr : r.AtArgument) :
    r.run ((escapeshellarg alloc s (strlen s)).cmd ++ [space]) =
        r.emit (.word (Word.literal s)) ∧
      r.run ((escapeshellarg alloc s (strlen s)).cmd ++ [newline]) =
        (r.emit (.word (Word.literal s))).emit .newline ∧
      (r.run (escapeshellarg alloc s (strlen s)).cmd).finish =
        some (r.tokens ++ [.word (Word.literal s)]) ∧
      (escapeshellarg alloc s (strlen s)).resLen = s.length + 3 * s.count 39 + 2 := by
  have hrun := run_escapeshellarg alloc s hr
  have hlen := resLen_escapeshellarg alloc s
  rw [cstr_eq_self h] at hrun hlen
  obtain ⟨mode, word, tokens⟩ := r
  obtain ⟨hmode, hword⟩ := hr
  cases hmode
  cases hword
  refine ⟨?_, ?_, ?_, hlen⟩
  · rw [Reader.run_append, hrun]
    rfl
  · rw [Reader.run_append, hrun]
    rfl
  · rw [hrun]
    rfl

/-- The string `it's; rm -rf $HOME`, as an argument behind the name of a program. -/
theorem escapeshellarg_exact_injection :
    ((0 : UInt8) ∉ ascii "it's; rm -rf $HOME") ∧
      (Reader.run {} (ascii "ip " ++
          (escapeshellarg none (ascii "it's; rm -rf $HOME") 18).cmd)).finish =
        some [.word ((ascii "ip").map fun c => (c, false)),
          .word (Word.literal (ascii "it's; rm -rf $HOME"))] := by
  have h0 : (0 : UInt8) ∉ ascii "it's; rm -rf $HOME" := by decide
  have hlen : strlen (ascii "it's; rm -rf $HOME") = 18 := by decide
  have hat : (Reader.run {} (ascii "ip ")).AtArgument := by decide
  have hread := (escapeshellarg_exact none _ h0 _ hat).2.2.1
  rw [hlen] at hread
  refine ⟨h0, ?_⟩
  rw [Reader.run_append, hread]
  decide

end TeaVpn2.Analysis
