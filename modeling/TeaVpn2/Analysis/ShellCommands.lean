import TeaVpn2.Analysis.IfaceBuffers

/-!
# What the shell makes of the commands

`teavpn_iface_toggle` hands every command to a shell as a line of text, with texts in it that came
from the server, from the configuration and from `ip route show`. `shell_runs_ip_only` says how
such a line is read: as words of which each is a fixed text or one of these texts, taken literally.
The lines are built in arrays, so a line can be cut anywhere; a line that is cut is still read as a
beginning of these words.

A line is a list of arguments (`Arg`), and the reader goes over it argument by argument.
-/

set_option autoImplicit false

namespace TeaVpn2.Analysis

open TeaVpn2.Lib TeaVpn2.Lib.Shell TeaVpn2.Iface

/-! ## Arguments -/

/-- A fixed text, or a text that is quoted, with a fixed text behind it. -/
inductive Arg where
  | fixed (s : List UInt8)
  | quoted (s tail : List UInt8)
deriving DecidableEq, Repr

namespace Arg

/-- How the argument is written. -/
def text : Arg → List UInt8
  | .fixed s => s
  | .quoted s tail => esc s ++ tail

/-- The word it is meant to be. -/
def word : Arg → Word
  | .fixed s => Reader.unquoted s
  | .quoted s tail => Word.literal (cstr s) ++ Reader.unquoted tail

/-- The fixed texts are ordinary. -/
def Ok : Arg → Prop
  | .fixed s => s ≠ [] ∧ ∀ c ∈ s, Reader.isOrdinary c = true
  | .quoted _ tail => ∀ c ∈ tail, Reader.isOrdinary c = true

instance (a : Arg) : Decidable a.Ok :=
  match a with
  | .fixed _ => inferInstanceAs (Decidable (_ ∧ _))
  | .quoted _ tail => inferInstanceAs (Decidable (∀ c ∈ tail, _))

end Arg

/-- The arguments with spaces between them. -/
def argsText : List Arg → List UInt8
  | [] => []
  | [a] => a.text
  | a :: b :: as => a.text ++ space :: argsText (b :: as)

def argsWords (args : List Arg) : List Token := args.map fun a => .word a.word

/-! ## Reading them -/

theorem esc_eq (s : List UInt8) : esc s = 39 :: escapeLoop (cstr s) [] ++ [39] :=
  cmd_escapeshellarg none s

theorem run_esc (s : List UInt8) (tokens : List Token) :
    Reader.run ⟨.plain, none, tokens⟩ (esc s) =
      ⟨.plain, some (Word.literal (cstr s)), tokens⟩ :=
  run_escapeshellarg none s ⟨rfl, rfl⟩

/-- INTERNAL: where an argument may begin, an argument is its word. -/
theorem run_arg {a : Arg} (h : a.Ok) (tokens : List Token) :
    Reader.run ⟨.plain, none, tokens⟩ a.text = ⟨.plain, some a.word, tokens⟩ := by
  cases a with
  | fixed s => exact Reader.run_ordinary_word tokens h.1 h.2
  | quoted s tail =>
    show Reader.run _ (esc s ++ tail) = _
    rw [Reader.run_append, run_esc, Reader.run_ordinary _ _ h]
    rfl

/-- INTERNAL: quoted text keeps the reader inert, also where it is cut between the four bytes of a
quote. -/
theorem inertText_escapeLoop {w : Word} {tokens : List Token} (s : List UInt8)
    (h : Reader.Inert ⟨.single, some w, tokens⟩) :
    Reader.InertText ⟨.single, some w, tokens⟩ (escapeLoop s []) := by
  induction s generalizing w with
  | nil => exact .nil h
  | cons c s ih =>
    unfold escapeLoop
    by_cases hc : c = 39
    · subst hc
      have hone : Reader.Inert ⟨.plain, some w, tokens⟩ := h.withMode (.inl rfl)
      have htwo : Reader.Inert ⟨.escaped, some w, tokens⟩ := h.withMode (.inr (.inl rfl))
      have hthree : Reader.Inert ⟨.plain, some (w ++ [(39, true)]), tokens⟩ :=
        (htwo.put (c := 39) (.inl rfl)).withMode (.inl rfl)
      have hfour : Reader.Inert ⟨.single, some (w ++ [(39, true)]), tokens⟩ :=
        hthree.withMode (.inr (.inr rfl))
      have hcut : ([] ++ [39, 92, 39] ++ [39] : List UInt8) = [39, 92, 39, 39] := rfl
      rw [if_pos rfl, escapeLoop_eq_append, hcut]
      refine .cons h (.cons hone (.cons htwo (.cons hthree ?_)))
      exact ih hfour
    · have hnext : Reader.Inert ⟨.single, some (w ++ [(c, true)]), tokens⟩ := by
        rw [← Reader.step_single w tokens hc]
        exact h.step (fun he => by cases he) (fun he => by cases he)
      rw [if_neg hc, escapeLoop_eq_append]
      refine .cons h ?_
      rw [Reader.step_single w tokens hc]
      exact ih hnext

theorem inertText_esc {tokens : List Token} (s : List UInt8)
    (h : Reader.Inert ⟨.plain, none, tokens⟩) : Reader.InertText ⟨.plain, none, tokens⟩ (esc s) := by
  have hopen : (⟨.plain, none, tokens⟩ : Reader).step 39 = ⟨.single, some [], tokens⟩ := by
    simp [Reader.step, Reader.enter, squote, backslash]
  have hsingle : Reader.Inert ⟨.single, some [], tokens⟩ := h.enter
  have hloop := inertText_escapeLoop (cstr s) hsingle
  rw [esc_eq, List.cons_append]
  refine .cons h ?_
  rw [hopen]
  refine hloop.append (.cons hloop.inert (.nil ?_))
  rw [run_escapeLoop]
  have hin := hloop.inert
  rw [run_escapeLoop] at hin
  exact hin.step (fun he => by cases he) (fun he => by cases he)

theorem inertText_arg {a : Arg} (ha : a.Ok) {tokens : List Token}
    (h : Reader.Inert ⟨.plain, none, tokens⟩) : Reader.InertText ⟨.plain, none, tokens⟩ a.text := by
  cases a with
  | fixed s => exact .ordinary h rfl ha.2
  | quoted s tail =>
    have hesc := inertText_esc s h
    refine hesc.append (.ordinary hesc.inert ?_ ha)
    rw [run_esc]

/-- INTERNAL: a line of arguments is read as their words, and wherever it is cut the reader has
seen nothing else. -/
theorem run_args {args : List Arg} (hne : args ≠ []) (hok : ∀ a ∈ args, a.Ok) {tokens : List Token}
    (h : Reader.Inert ⟨.plain, none, tokens⟩) :
    (Reader.run ⟨.plain, none, tokens⟩ (argsText args)).mode = .plain ∧
      (Reader.run ⟨.plain, none, tokens⟩ (argsText args)).delimit =
        ⟨.plain, none, tokens ++ argsWords args⟩ ∧
      Reader.InertText ⟨.plain, none, tokens⟩ (argsText args) := by
  induction args generalizing tokens with
  | nil => exact absurd rfl hne
  | cons a args ih =>
    have ha := hok a (by simp)
    have hword := inertText_arg ha h
    cases args with
    | nil =>
      show (Reader.run _ a.text).mode = _ ∧ (Reader.run _ a.text).delimit = _ ∧ _
      rw [run_arg ha]
      exact ⟨rfl, rfl, hword⟩
    | cons b args =>
      have hnext : Reader.Inert ⟨.plain, none, tokens ++ [.word a.word]⟩ := by
        have hdel := hword.inert.delimit
        rw [run_arg ha] at hdel
        exact hdel
      have hstep : (⟨.plain, some a.word, tokens⟩ : Reader).step space =
          ⟨.plain, none, tokens ++ [.word a.word]⟩ := Reader.step_space _ _
      obtain ⟨hmode, hdel, hinert⟩ := ih (by simp) (fun x hx => hok x (by simp [hx])) hnext
      have hrun : Reader.run ⟨.plain, none, tokens⟩ (argsText (a :: b :: args)) =
          Reader.run ⟨.plain, none, tokens ++ [.word a.word]⟩ (argsText (b :: args)) := by
        show Reader.run _ (a.text ++ space :: argsText (b :: args)) = _
        rw [Reader.run_append, run_arg ha, Reader.run_cons, hstep]
      rw [hrun]
      refine ⟨hmode, ?_, ?_⟩
      · rw [hdel, List.append_assoc]
        rfl
      · refine hword.append (.cons hword.inert ?_)
        rw [run_arg ha, hstep]
        exact hinert

/-- INTERNAL: a line that has been cut. -/
theorem run_args_take {args : List Arg} (hne : args ≠ []) (hok : ∀ a ∈ args, a.Ok) (n : Nat) :
    (Reader.run {} ((argsText args).take n)).Inert ∧
      (Reader.run {} ((argsText args).take n)).tokens <+: argsWords args := by
  obtain ⟨-, hdel, hinert⟩ := run_args hne hok Reader.inert_start
  refine ⟨hinert n, ?_⟩
  have hgrow := Reader.tokens_run (Reader.run {} ((argsText args).take n)) ((argsText args).drop n)
  rw [← Reader.run_append, List.take_append_drop] at hgrow
  have hall := hgrow.trans (Reader.tokens_delimit _)
  rw [hdel] at hall
  exact hall

/-- INTERNAL: a whole line, with a beginning of the redirection behind it. -/
theorem finish_args {args : List Arg} (hne : args ≠ []) (hok : ∀ a ∈ args, a.Ok) {tail : List UInt8}
    (htail : tail <+: devNull) :
    (Reader.run {} (argsText args ++ tail)).finish =
      (Reader.run {} tail).finish.map (argsWords args ++ ·) := by
  obtain ⟨hmode, hdel, -⟩ := run_args hne hok Reader.inert_start
  have hnull : devNull = space :: ascii ">> /dev/null 2>&1" := by decide
  cases tail with
  | nil =>
    rw [List.append_nil, Reader.finish, hmode]
    simp only [hdel]
    simp [Reader.run, Reader.finish, Reader.delimit]
  | cons c tail =>
    rw [hnull] at htail
    obtain ⟨r, hr⟩ := htail
    obtain ⟨rfl, -⟩ := List.cons.inj hr
    have hstep : (Reader.run {} (argsText args)).step space =
        Reader.behind (argsWords args) {} := by
      generalize Reader.run {} (argsText args) = r at hmode hdel
      obtain ⟨mode, word, tokens⟩ := r
      cases hmode
      rw [Reader.step_space, hdel, Reader.behind, List.append_nil]
      rfl
    have hfirst : (({} : Reader).step space) = {} := by decide
    rw [Reader.run_append, Reader.run_cons, hstep, Reader.run_behind, Reader.finish_behind,
      Reader.run_cons, hfirst]

/-! ## The commands -/

/-- The commands of the function, with the gateway that `ip route show` has named. -/
inductive Call where
  | link
  | addr
  | pub (rdgw : List UInt8)
  | low
  | high
deriving DecidableEq, Repr

/-- What the command is meant to be, behind the name of the program. -/
def Call.args (iface : IfInfo) (t : IfaceTexts) (up : Bool) : Call → List Arg
  | .link => [.fixed (ascii "link"), .fixed (ascii "set"), .fixed (ascii "dev"),
      .quoted iface.dev [], .fixed (if up then ascii "up" else ascii "down"), .fixed (ascii "mtu"),
      .fixed (decimal iface.ipv4Mtu.toNat)]
  | .addr => [.fixed (ascii "addr"), .fixed (addOrDelete up), .fixed (ascii "dev"),
      .quoted iface.dev [], .quoted t.uipv4 [], .fixed (ascii "broadcast"), .quoted t.uipv4Bc []]
  | .pub rdgw => [.fixed (ascii "route"), .fixed (addOrDelete up),
      .quoted iface.ipv4Pub (ascii "/32"), .fixed (ascii "via"), .quoted rdgw []]
  | .low => [.fixed (ascii "route"), .fixed (addOrDelete up), .fixed (ascii "0.0.0.0/1"),
      .fixed (ascii "via"), .quoted iface.ipv4Dgateway []]
  | .high => [.fixed (ascii "route"), .fixed (addOrDelete up), .fixed (ascii "128.0.0.0/1"),
      .fixed (ascii "via"), .quoted iface.ipv4Dgateway []]

def Call.cmd (iface : IfInfo) (t : IfaceTexts) (up : Bool) : Call → IpCmd
  | .link => linkCmd iface up
  | .addr => addrCmd iface t up
  | .pub rdgw => pubCmd iface rdgw up
  | .low => lowCmd iface up
  | .high => highCmd iface up

theorem ordinary_decimal (n : Nat) : ∀ c ∈ decimal n, Reader.isOrdinary c = true := by
  intro c hc
  have hdigit := (isdigit_iff c).mp (isdigit_of_mem_decimal hc)
  simp only [Reader.isOrdinary, Bool.or_eq_true, Bool.and_eq_true, decide_eq_true_eq,
    UInt8.le_iff_toNat_le]
  exact .inl (.inl (.inl (.inl (by simpa using hdigit))))

theorem ok_quoted (s : List UInt8) : (Arg.quoted s []).Ok := by
  intro c hc
  cases hc

/-- The words of the commands that are written in the source. -/
theorem ok_words : ∀ s ∈ [ascii "link", ascii "set", ascii "dev", ascii "up", ascii "down",
    ascii "mtu", ascii "addr", ascii "add", ascii "delete", ascii "broadcast", ascii "route",
    ascii "via", ascii "show", ascii "0.0.0.0/1", ascii "128.0.0.0/1"], (Arg.fixed s).Ok := by
  simp [Arg.Ok, ascii, Reader.isOrdinary]

theorem ok_addOrDelete (up : Bool) : (Arg.fixed (addOrDelete up)).Ok := by
  cases up with
  | false => exact ok_words (ascii "delete") (by simp)
  | true => exact ok_words (ascii "add") (by simp)

theorem ok_upOrDown (up : Bool) : (Arg.fixed (if up then ascii "up" else ascii "down")).Ok := by
  cases up with
  | false => exact ok_words (ascii "down") (by simp)
  | true => exact ok_words (ascii "up") (by simp)

theorem Call.args_ok (iface : IfInfo) (t : IfaceTexts) (up : Bool) (c : Call) :
    ∀ a ∈ c.args iface t up, a.Ok := by
  have hvia : (Arg.fixed (ascii "via")).Ok := ok_words _ (by simp)
  have hroute : (Arg.fixed (ascii "route")).Ok := ok_words _ (by simp)
  have hdev : (Arg.fixed (ascii "dev")).Ok := ok_words _ (by simp)
  cases c with
  | link =>
    have hmtu : (Arg.fixed (decimal iface.ipv4Mtu.toNat)).Ok :=
      ⟨List.length_pos_iff.mp (length_decimal_pos _), ordinary_decimal _⟩
    simp only [Call.args, List.forall_mem_cons]
    exact ⟨ok_words _ (by simp), ok_words _ (by simp), hdev, ok_quoted _, ok_upOrDown up,
      ok_words _ (by simp), hmtu, List.forall_mem_nil _⟩
  | addr =>
    simp only [Call.args, List.forall_mem_cons]
    exact ⟨ok_words _ (by simp), ok_addOrDelete up, hdev, ok_quoted _, ok_quoted _,
      ok_words _ (by simp), ok_quoted _, List.forall_mem_nil _⟩
  | pub rdgw =>
    have hpub : (Arg.quoted iface.ipv4Pub (ascii "/32")).Ok := by
      simp [Arg.Ok, ascii, Reader.isOrdinary]
    simp only [Call.args, List.forall_mem_cons]
    exact ⟨hroute, ok_addOrDelete up, hpub, hvia, ok_quoted _, List.forall_mem_nil _⟩
  | low =>
    simp only [Call.args, List.forall_mem_cons]
    exact ⟨hroute, ok_addOrDelete up, ok_words _ (by simp), hvia, ok_quoted _,
      List.forall_mem_nil _⟩
  | high =>
    simp only [Call.args, List.forall_mem_cons]
    exact ⟨hroute, ok_addOrDelete up, ok_words _ (by simp), hvia, ok_quoted _,
      List.forall_mem_nil _⟩

/-- INTERNAL: the text of a command is its arguments. -/
theorem text_eq (ip : List UInt8) (iface : IfInfo) (t : IfaceTexts) (up : Bool) (c : Call) :
    ip ++ ascii " " ++ (c.cmd iface t up).text = argsText (.fixed ip :: c.args iface t up) := by
  have hlink : ascii "link set dev " =
      ascii "link" ++ space :: (ascii "set" ++ space :: (ascii "dev" ++ [space])) := by decide
  have haddr : ascii "addr " = ascii "addr" ++ [space] := by decide
  have hroute : ascii "route " = ascii "route" ++ [space] := by decide
  have hmtu : ascii " mtu " = space :: (ascii "mtu" ++ [space]) := by decide
  have hdev : ascii " dev " = space :: (ascii "dev" ++ [space]) := by decide
  have hbroadcast : ascii " broadcast " = space :: (ascii "broadcast" ++ [space]) := by decide
  have hvia : ascii " via " = space :: (ascii "via" ++ [space]) := by decide
  have hspace : ascii " " = [space] := by decide
  cases c <;>
    simp only [Call.cmd, Call.args, linkCmd, addrCmd, pubCmd, lowCmd, highCmd, IpCmd.text, argsText,
      Arg.text, hlink, haddr, hroute, hmtu, hdev, hbroadcast, hvia, hspace, List.append_assoc,
      List.cons_append, List.nil_append, List.append_nil]

/-! ## The lines -/

/-- The line is a beginning of the arguments and then of the redirection, and what is read of the
arguments are their words, with nothing in them that the shell would work on. -/
def Understood (args : List Arg) (line : List UInt8) : Prop :=
  ∃ body tail, line = body ++ tail ∧ tail <+: devNull ∧ (Reader.run {} body).Inert ∧
    (Reader.run {} body).tokens <+: argsWords args

/-- The line is read as the words of the arguments, and then as the text `tail`. -/
def ReadExactly (args : List Arg) (tail line : List UInt8) : Prop :=
  (Reader.run {} line).finish = (Reader.run {} tail).finish.map (argsWords args ++ ·)

/-- The escape of a quoted text fits an array of 33 bytes. -/
def Arg.Fits : Arg → Prop
  | .fixed _ => True
  | .quoted s _ => escapedSize s ≤ IPV4_ELI

theorem length_esc_le {s : List UInt8} (h : (Arg.quoted s []).Fits) : (esc s).length ≤ 32 := by
  have hlen : (esc s).length + 1 = escapedSize s := length_cmd_escapeshellarg none s
  have hroom : escapedSize s ≤ 33 := h
  omega

/-- INTERNAL: a command whose texts fit their arrays is short. -/
theorem Call.length_text_le {iface : IfInfo} {t : IfaceTexts} {up : Bool} {c : Call}
    (h : ∀ a ∈ c.args iface t up, a.Fits) :
    ((c.cmd iface t up).text).length ≤ 124 ∧
      (∀ rdgw, c = .pub rdgw → ((c.cmd iface t up).text).length ≤ 85) := by
  have hadd : (addOrDelete up).length ≤ 6 := by cases up <;> decide
  cases c with
  | link =>
    have hdev := length_esc_le (h (.quoted iface.dev []) (by simp [Call.args]))
    have hup : (if up then ascii "up" else ascii "down").length ≤ 4 := by cases up <;> decide
    have hmtu : (decimal iface.ipv4Mtu.toNat).length ≤ 5 :=
      (length_decimal_le_iff (by decide)).mpr (by have := iface.ipv4Mtu.toNat_lt; omega)
    refine ⟨?_, fun _ he => by cases he⟩
    simp only [Call.cmd, linkCmd, IpCmd.text, List.length_append,
      show (ascii "link set dev ").length = 13 from by decide,
      show (ascii " mtu ").length = 5 from by decide, show (ascii " ").length = 1 from by decide]
    omega
  | addr =>
    have hdev := length_esc_le (h (.quoted iface.dev []) (by simp [Call.args]))
    have hip := length_esc_le (h (.quoted t.uipv4 []) (by simp [Call.args]))
    have hbc := length_esc_le (h (.quoted t.uipv4Bc []) (by simp [Call.args]))
    refine ⟨?_, fun _ he => by cases he⟩
    simp only [Call.cmd, addrCmd, IpCmd.text, List.length_append,
      show (ascii "addr ").length = 5 from by decide, show (ascii " dev ").length = 5 from by decide,
      show (ascii " broadcast ").length = 11 from by decide,
      show (ascii " ").length = 1 from by decide]
    omega
  | pub rdgw =>
    have hpub : (esc iface.ipv4Pub).length ≤ 32 :=
      length_esc_le (h (.quoted iface.ipv4Pub (ascii "/32")) (by simp [Call.args]))
    have hgw := length_esc_le (h (.quoted rdgw []) (by simp [Call.args]))
    have hlen : ((Call.pub rdgw).cmd iface t up).text.length ≤ 85 := by
      simp only [Call.cmd, pubCmd, IpCmd.text, List.length_append,
        show (ascii "route ").length = 6 from by decide,
        show (ascii " via ").length = 5 from by decide,
        show (ascii "/32").length = 3 from by decide, show (ascii " ").length = 1 from by decide]
      omega
    exact ⟨by omega, fun _ _ => hlen⟩
  | low =>
    have hgw := length_esc_le (h (.quoted iface.ipv4Dgateway []) (by simp [Call.args]))
    refine ⟨?_, fun _ he => by cases he⟩
    simp only [Call.cmd, lowCmd, IpCmd.text, List.length_append,
      show (ascii "route ").length = 6 from by decide,
      show (ascii " via ").length = 5 from by decide,
      show (ascii "0.0.0.0/1").length = 9 from by decide,
      show (ascii " ").length = 1 from by decide]
    omega
  | high =>
    have hgw := length_esc_le (h (.quoted iface.ipv4Dgateway []) (by simp [Call.args]))
    refine ⟨?_, fun _ he => by cases he⟩
    simp only [Call.cmd, highCmd, IpCmd.text, List.length_append,
      show (ascii "route ").length = 6 from by decide,
      show (ascii " via ").length = 5 from by decide,
      show (ascii "128.0.0.0/1").length = 11 from by decide,
      show (ascii " ").length = 1 from by decide]
    omega

theorem ipBin_ok : ∀ ip ∈ ipBin, (Arg.fixed ip).Ok ∧ ip.length ≤ 38 := by
  simp [ipBin, Arg.Ok, ascii, Reader.isOrdinary]

section Lines

variable {ip : List UInt8} {iface : IfInfo} {t : IfaceTexts} {b : Bool} {c : Call}

theorem line_args_ok (hip : ip ∈ ipBin) : ∀ a ∈ Arg.fixed ip :: c.args iface t b, a.Ok := by
  intro a ha
  rcases List.mem_cons.mp ha with rfl | ha
  · exact (ipBin_ok ip hip).1
  · exact Call.args_ok iface t b c a ha

/-- INTERNAL: the line of `EXEC_CMD`.
SOURCE: net/linux/iface.c:296-308 -/
theorem cmdLine_read (hip : ip ∈ ipBin) (s : Bool) :
    Understood (.fixed ip :: c.args iface t b) (cmdLine ip s (c.cmd iface t b)) ∧
      ((∀ a ∈ c.args iface t b, a.Fits) →
        ReadExactly (.fixed ip :: c.args iface t b) (if s then devNull else [])
          (cmdLine ip s (c.cmd iface t b))) := by
  have hok : ∀ a ∈ Arg.fixed ip :: c.args iface t b, a.Ok := line_args_ok hip
  have hlen := (ipBin_ok ip hip).2
  have htext := text_eq ip iface t b c
  have hspace : (ascii " ").length = 1 := by decide
  have hnull : devNull.length = 18 := by decide
  -- the command in `cbuf`, behind the name of the program
  have hfull : ip ++ ascii " " ++ cbufText (c.cmd iface t b) =
      (argsText (.fixed ip :: c.args iface t b)).take (ip.length + 1 + 255) := by
    rw [← htext, List.take_append, List.take_of_length_le (by simp [hspace]), List.length_append,
      hspace, Nat.add_sub_cancel_left]
    rfl
  have hshort : (ip ++ ascii " " ++ cbufText (c.cmd iface t b)).length ≤ 294 := by
    rw [hfull, List.length_take]
    omega
  have hline : cmdLine ip s (c.cmd iface t b) =
      (argsText (.fixed ip :: c.args iface t b)).take (ip.length + 1 + 255) ++
        (if s then devNull else []) := by
    unfold cmdLine snprintf
    dsimp only
    rw [List.take_of_length_le (by omega), hfull]
    cases s with
    | false => rfl
    | true =>
      rw [hfull] at hshort
      have hquiet : devNull.take (768 - ((argsText (.fixed ip :: c.args iface t b)).take
          (ip.length + 1 + 255)).length - 1) = devNull := List.take_of_length_le (by omega)
      rw [if_pos rfl, if_pos rfl, hquiet]
  have htail : (if s then devNull else []) <+: devNull := by
    cases s with
    | false => exact List.nil_prefix
    | true => exact List.prefix_refl _
  rw [hline]
  refine ⟨⟨_, _, rfl, htail, (run_args_take (by simp) hok _).1, (run_args_take (by simp) hok _).2⟩,
    fun hfits => ?_⟩
  have hcmd := (Call.length_text_le hfits).1
  rw [List.take_of_length_le (by
    rw [← htext, List.length_append, List.length_append, hspace]
    omega)]
  exact finish_args (by simp) hok htail

/-- INTERNAL: the line that removes a route of an earlier run, in an array of 128 bytes.
SOURCE: net/linux/iface.c:512-520 -/
theorem leftoverLine_read (hip : ip ∈ ipBin) (rdgw : List UInt8) :
    ∃ tail, tail <+: devNull ∧
      Understood (.fixed ip :: (Call.pub rdgw).args iface t false)
        (snprintf 128 (ip ++ ascii " route delete " ++ (esc iface.ipv4Pub ++ ascii "/32") ++
          ascii " via " ++ esc rdgw ++ devNull)) ∧
      ((∀ a ∈ (Call.pub rdgw).args iface t false, a.Fits) →
        ReadExactly (.fixed ip :: (Call.pub rdgw).args iface t false) tail
          (snprintf 128 (ip ++ ascii " route delete " ++ (esc iface.ipv4Pub ++ ascii "/32") ++
            ascii " via " ++ esc rdgw ++ devNull))) := by
  have hok : ∀ a ∈ Arg.fixed ip :: (Call.pub rdgw).args iface t false, a.Ok := line_args_ok hip
  have hlen := (ipBin_ok ip hip).2
  have htext := text_eq ip iface t false (.pub rdgw)
  have hdelete : ascii " route delete " =
      ascii " " ++ (ascii "route " ++ ascii "delete" ++ ascii " ") := by decide
  have hsame : ip ++ ascii " route delete " ++ (esc iface.ipv4Pub ++ ascii "/32") ++
      ascii " via " ++ esc rdgw = argsText (.fixed ip :: (Call.pub rdgw).args iface t false) := by
    rw [← htext, hdelete]
    simp only [Call.cmd, pubCmd, IpCmd.text, addOrDelete, List.append_assoc, Bool.false_eq_true,
      if_false]
  have hline : (argsText (.fixed ip :: (Call.pub rdgw).args iface t false) ++ devNull).take 127 = _ :=
    List.take_append
  have htail := List.take_prefix
    (127 - (argsText (.fixed ip :: (Call.pub rdgw).args iface t false)).length) devNull
  unfold snprintf
  rw [hsame, show 128 - 1 = 127 from rfl, hline]
  refine ⟨_, htail, ⟨_, _, rfl, htail, (run_args_take (by simp) hok _).1,
    (run_args_take (by simp) hok _).2⟩, fun hfits => ?_⟩
  have hcmd := (Call.length_text_le hfits).2 rdgw rfl
  have hspace : (ascii " ").length = 1 := by decide
  have hwhole : (argsText (.fixed ip :: (Call.pub rdgw).args iface t false)).take 127 =
      argsText (.fixed ip :: (Call.pub rdgw).args iface t false) := by
    apply List.take_of_length_le
    rw [← htext, List.length_append, List.length_append, hspace]
    omega
  rw [hwhole]
  exact finish_args (by simp) hok htail

/-- INTERNAL: the line of `ip route show`.
SOURCE: net/linux/iface.c:485-490 -/
theorem showLine_read (hip : ip ∈ ipBin) :
    ReadExactly [.fixed ip, .fixed (ascii "route"), .fixed (ascii "show")] []
      (snprintf 128 (ip ++ ascii " route show")) := by
  obtain ⟨hok, hlen⟩ := ipBin_ok ip hip
  have hargs : ∀ a ∈ [Arg.fixed ip, .fixed (ascii "route"), .fixed (ascii "show")], a.Ok := by
    simp only [List.forall_mem_cons]
    exact ⟨hok, ok_words _ (by simp), ok_words _ (by simp), List.forall_mem_nil _⟩
  have htext : ip ++ ascii " route show" =
      argsText [.fixed ip, .fixed (ascii "route"), .fixed (ascii "show")] := by
    rw [show ascii " route show" = space :: (ascii "route" ++ space :: ascii "show") from by decide]
    rfl
  have hwhole : snprintf 128 (ip ++ ascii " route show") = ip ++ ascii " route show" := by
    apply List.take_of_length_le
    rw [List.length_append, show (ascii " route show").length = 11 from by decide]
    omega
  rw [hwhole, htext, ← List.append_nil (argsText _)]
  exact finish_args (by simp) hargs List.nil_prefix

end Lines

/-! ## The function -/

/-- What is said of an event: a line for the shell is one of the commands, and its words are the
ones of the command. -/
def Spoken (o : ByteOrder) (iface : IfInfo) (up s : Bool) : IfaceEvent → Prop
  | .system _ line _ =>
      ∃ t, ifaceTexts o iface = some t ∧ ∃ ip ∈ ipBin, ∃ (c : Call) (b : Bool) (tail : List UInt8),
        (b = up ∧ tail = (if s then devNull else []) ∨
          up = true ∧ b = false ∧ tail <+: devNull ∧ ∃ rdgw, c = .pub rdgw) ∧
        Understood (.fixed ip :: c.args iface t b) line ∧
        ((∀ a ∈ c.args iface t b, a.Fits) →
          ReadExactly (.fixed ip :: c.args iface t b) tail line)
  | .popen line _ =>
      ∃ ip ∈ ipBin, ReadExactly [.fixed ip, .fixed (ascii "route"), .fixed (ascii "show")] [] line
  | _ => True

section Events

variable {α β : Type} {k : Results} {P : IfaceEvent → Prop}

theorem forall_trace_bind {p : IfaceProg α} {f : α → IfaceProg β} (hp : ∀ e ∈ trace k p, P e)
    (hf : ∀ e ∈ trace k (f (result k p)), P e) : ∀ e ∈ trace k (p >>= f), P e := by
  rw [trace_bind]
  intro e he
  rcases List.mem_append.mp he with he | he
  · exact hp e he
  · exact hf e he

variable {o : ByteOrder} {iface : IfInfo} {t : IfaceTexts} {up s : Bool} {ip : List UInt8}

theorem spoken_pure (a : α) : ∀ e ∈ trace k (pure a : IfaceProg α), Spoken o iface up s e := by
  simp

theorem spoken_simpleEscArg (room : Nat) (str : List UInt8) :
    ∀ e ∈ trace k (simpleEscArg room str), Spoken o iface up s e := by
  intro e he
  rw [show trace k (simpleEscArg room str) =
    [.stored (escapeshellarg (some room) str (strlen str))] from rfl, List.mem_singleton] at he
  rw [he]
  trivial

theorem spoken_findIpIn (paths : List (List UInt8)) :
    ∀ e ∈ trace k (findIpIn paths), Spoken o iface up s e := by
  induction paths with
  | nil => exact spoken_pure none
  | cons path rest ih =>
    unfold findIpIn
    apply forall_trace_bind
    · simp [Spoken]
    · split
      · exact spoken_pure _
      · exact ih

theorem spoken_execCmd (ht : ifaceTexts o iface = some t) (hip : ip ∈ ipBin) (c : Call) :
    ∀ e ∈ trace k (execCmd ip s (c.cmd iface t up)), Spoken o iface up s e := by
  intro e he
  rw [execCmd, trace_system, List.mem_singleton] at he
  rw [he]
  obtain ⟨hunderstood, hexact⟩ := @cmdLine_read ip iface t up c hip s
  exact ⟨t, ht, ip, hip, c, up, _, .inl ⟨rfl, rfl⟩, hunderstood, hexact⟩

theorem spoken_toggleDgateway (ht : ifaceTexts o iface = some t) (hip : ip ∈ ipBin) :
    ∀ e ∈ trace k (toggleDgateway iface up s ip), Spoken o iface up s e := by
  unfold toggleDgateway
  apply forall_trace_bind (spoken_simpleEscArg _ _)
  apply forall_trace_bind (spoken_execCmd ht hip .low)
  split
  · exact spoken_pure _
  apply forall_trace_bind (spoken_execCmd ht hip .high)
  split <;> exact spoken_pure _

theorem spoken_toggleRoutes (ht : ifaceTexts o iface = some t) (hip : ip ∈ ipBin)
    (cbuf : List UInt8) : ∀ e ∈ trace k (toggleRoutes iface up s ip cbuf), Spoken o iface up s e := by
  unfold toggleRoutes
  apply forall_trace_bind
  · intro e he
    rw [trace_popen, List.mem_singleton] at he
    rw [he]
    exact ⟨ip, hip, showLine_read hip⟩
  split
  · exact spoken_pure _
  next rdgw _ =>
  apply forall_trace_bind (spoken_simpleEscArg _ _)
  apply forall_trace_bind (spoken_simpleEscArg _ _)
  have hrest : ∀ e ∈ trace k (do
      let ret ← execCmd ip s ((Call.pub rdgw).cmd iface t up)
      if ret ≠ 0 then pure false
      else if nonEmpty iface.ipv4Dgateway then toggleDgateway iface up s ip
      else pure true), Spoken o iface up s e := by
    apply forall_trace_bind (spoken_execCmd ht hip (.pub rdgw))
    split
    · exact spoken_pure _
    split
    · exact spoken_toggleDgateway ht hip
    · exact spoken_pure _
  cases up with
  | false => exact hrest
  | true =>
    have hleft : ∀ e ∈ trace k (removeLeftover ip (esc iface.ipv4Pub ++ ascii "/32") (esc rdgw)),
        Spoken o iface true s e := by
      intro e he
      obtain ⟨tail, htail, hunderstood, hexact⟩ :=
        @leftoverLine_read ip iface t hip rdgw
      rw [removeLeftover, trace_bind, trace_system, trace_pure, List.append_nil,
        List.mem_singleton] at he
      rw [he]
      exact ⟨t, ht, ip, hip, .pub rdgw, false, tail, .inr ⟨rfl, rfl, htail, rdgw, rfl⟩, hunderstood,
        hexact⟩
    exact forall_trace_bind hleft hrest

theorem spoken_toggle : ∀ e ∈ trace k (teavpnIfaceToggle o iface up s), Spoken o iface up s e := by
  unfold teavpnIfaceToggle
  split
  · exact spoken_pure _
  next t ht =>
  apply forall_trace_bind (spoken_simpleEscArg _ _)
  apply forall_trace_bind (spoken_simpleEscArg _ _)
  apply forall_trace_bind (spoken_simpleEscArg _ _)
  apply forall_trace_bind (spoken_simpleEscArg _ _)
  apply forall_trace_bind (spoken_findIpIn ipBin)
  rw [show result k (findIpIn ipBin) = ipFound k from result_findIpCmd k]
  cases hfound : ipFound k with
  | none => exact spoken_pure _
  | some ip =>
    have hip : ip ∈ ipBin := List.mem_of_find?_eq_some hfound
    apply forall_trace_bind (spoken_execCmd ht hip .link)
    split
    · exact spoken_pure _
    apply forall_trace_bind (spoken_execCmd ht hip .addr)
    split
    · exact spoken_pure _
    split
    · exact spoken_toggleRoutes ht hip _
    · exact spoken_pure _

end Events

/-- The redirection, as the shell reads it. -/
example : (Reader.run {} devNull).finish = some [.operator 62, .operator 62,
    .word (Reader.unquoted (ascii "/dev/null")), .word (Reader.unquoted (ascii "2")), .operator 62,
    .operator 38, .word (Reader.unquoted (ascii "1"))] := by decide +kernel

end TeaVpn2.Analysis
