import TeaVpn2.Lib.Strip
import TeaVpn2.Program.Files

/-!
# What the INI parser delivers

Two facts about every file. The callback does not steer the parser: with any callback the run is a
replay of the entries that a recorder gets (`iniParseFile_replay`), so the program on the bytes of
its files is the program on the entries in them (`files_read_as_entries`). And what is delivered is
well formed, whatever the bytes are (`entryOk_of_mem`): the texts are bounded by the line buffer and
hold no separator of the format.

Both are invariants of `parse_line`, one case for each kind of line.
-/

set_option autoImplicit false

namespace TeaVpn2.Analysis

open TeaVpn2.Lib TeaVpn2.Inih

/-! ## The callback does not steer the parser -/

section Replay

variable {C : Type} {handler : C → Entry → Option C} {user : C}

theorem iniEntries_concat (handler : C → Entry → Option C) (user : C) (es : List Entry) (e : Entry) :
    iniEntries handler user (es ++ [e]) =
      match handler (iniEntries handler user es).1 e with
      | some user' => (user', (iniEntries handler user es).2)
      | none => ((iniEntries handler user es).1, true) := by
  induction es generalizing user with
  | nil => cases hd : handler user e <;> simp [iniEntries, hd]
  | cons d es ih =>
    simp only [List.cons_append, iniEntries]
    cases handler user d with
    | some user' => exact ih user'
    | none =>
      simp only [ih user]
      cases handler (iniEntries handler user es).1 e <;> rfl

/-- A run with a callback beside the run of the recorder. -/
structure Replays (handler : C → Entry → Option C) (u : C) (st : State C)
    (rec : State (List Entry)) : Prop where
  sect : st.sect = rec.sect
  prevName : st.prevName = rec.prevName
  lineno : st.lineno = rec.lineno
  user : st.user = (iniEntries handler u rec.user).1
  error : st.error = 0 ↔ rec.error = 0 ∧ (iniEntries handler u rec.user).2 = false

variable {st : State C} {rec : State (List Entry)}

theorem fail_error_ne_zero {st : State C} (h : st.lineno ≠ 0) : st.fail.error ≠ 0 := by
  unfold State.fail
  split <;> assumption

/-- INTERNAL: a malformed line. -/
theorem Replays.fail (h : Replays handler user st rec) (hpos : st.lineno ≠ 0) :
    Replays handler user st.fail rec.fail := by
  refine ⟨h.sect, h.prevName, h.lineno, h.user, ?_⟩
  have hst := fail_error_ne_zero hpos
  have hrec := fail_error_ne_zero (h.lineno ▸ hpos : rec.lineno ≠ 0)
  simp [hst, hrec]

/-- INTERNAL: a call of the callback. -/
theorem Replays.call (h : Replays handler user st rec) (hpos : st.lineno ≠ 0)
    (name value : List UInt8) :
    Replays handler user (st.call handler name value) (rec.call record name value) := by
  have hrec : rec.call record name value =
      { rec with user := rec.user ++ [(rec.sect, name, value)] } := rfl
  have hcat := iniEntries_concat handler user rec.user (rec.sect, name, value)
  rw [← h.user, ← h.sect] at hcat
  rw [hrec, ← h.sect]
  cases hres : handler st.user (st.sect, name, value) with
  | some user' =>
    have hcall : st.call handler name value = { st with user := user' } := by
      rw [State.call, hres]
    rw [hres] at hcat
    rw [hcall]
    refine ⟨rfl, h.prevName, h.lineno, ?_, ?_⟩
    · rw [hcat]
    · rw [hcat]
      exact h.error
  | none =>
    have hcall : st.call handler name value = st.fail := by
      rw [State.call, hres]
    have hst := fail_error_ne_zero hpos
    rw [hres] at hcat
    rw [hcall]
    refine ⟨rfl, h.prevName, h.lineno, ?_, ?_⟩
    · rw [hcat]
      rfl
    · rw [hcat]
      simp [hst]

/-- INTERNAL: one line, with a case for each kind of line. -/
theorem Replays.parseLine (h : Replays handler user st rec) (line : List UInt8) :
    Replays handler user (parseLine handler st line) (parseLine record rec line) := by
  have hnext : Replays handler user { st with lineno := st.lineno + 1 }
      { rec with lineno := rec.lineno + 1 } :=
    ⟨h.sect, h.prevName, congrArg (· + 1) h.lineno, h.user, h.error⟩
  have hpos : st.lineno + 1 ≠ 0 := Nat.succ_ne_zero _
  unfold Inih.parseLine
  simp only [← h.lineno, ← h.prevName] at hnext ⊢
  split
  · exact hnext
  next c start _ =>
  by_cases hcomment : isStartComment c = true
  · rw [if_pos hcomment, if_pos hcomment]
    exact hnext
  rw [if_neg hcomment, if_neg hcomment]
  by_cases hcont : st.prevName ≠ [] ∧ moved (st.lineno + 1) line = true
  · rw [if_pos hcont, if_pos hcont]
    exact hnext.call hpos _ _
  rw [if_neg hcont, if_neg hcont]
  by_cases hsect : c = 91
  · rw [if_pos hsect, if_pos hsect]
    unfold sectionLine
    split
    · exact ⟨rfl, rfl, hnext.lineno, hnext.user, hnext.error⟩
    · exact hnext.fail hpos
  rw [if_neg hsect, if_neg hsect]
  unfold pairLine
  split
  · split
    · refine Replays.call ?_ hpos _ _
      exact ⟨hnext.sect, rfl, hnext.lineno, hnext.user, hnext.error⟩
    · exact hnext.fail hpos
  · exact hnext.fail hpos

/-- INTERNAL: a run. -/
theorem Replays.foldl (h : Replays handler user st rec) (lines : List (List UInt8)) :
    Replays handler user (lines.foldl (Inih.parseLine handler) st)
      (lines.foldl (Inih.parseLine record) rec) := by
  induction lines generalizing st rec with
  | nil => exact h
  | cons line lines ih => exact ih (h.parseLine line)

/-! ## The number of the first bad line -/

/-- INTERNAL: a line keeps an error that is there, and reports itself otherwise. -/
theorem parseLine_error (handler : C → Entry → Option C) (st : State C) (line : List UInt8) :
    (Inih.parseLine handler st line).lineno = st.lineno + 1 ∧
      ((Inih.parseLine handler st line).error = st.error ∨
        st.error = 0 ∧ (Inih.parseLine handler st line).error = st.lineno + 1) := by
  have hfail : ∀ st : State C, st.fail.lineno = st.lineno ∧
      (st.fail.error = st.error ∨ st.error = 0 ∧ st.fail.error = st.lineno) := by
    intro st
    refine ⟨rfl, ?_⟩
    unfold State.fail
    by_cases h : st.error = 0
    · exact .inr ⟨h, if_pos h⟩
    · exact .inl (if_neg h)
  have hcall : ∀ (st : State C) name value, (st.call handler name value).lineno = st.lineno ∧
      ((st.call handler name value).error = st.error ∨
        st.error = 0 ∧ (st.call handler name value).error = st.lineno) := by
    intro st name value
    unfold State.call
    split
    · exact ⟨rfl, .inl rfl⟩
    · exact hfail st
  unfold Inih.parseLine
  dsimp only
  split
  · exact ⟨rfl, .inl rfl⟩
  split
  · exact ⟨rfl, .inl rfl⟩
  split
  · exact hcall _ _ _
  split
  · unfold sectionLine
    split
    · exact ⟨rfl, .inl rfl⟩
    · exact hfail _
  · unfold pairLine
    split
    · split
      · exact hcall _ _ _
      · exact hfail _
    · exact hfail _

/-- INTERNAL: an error of a run is an earlier one, or the number of one of its lines. -/
theorem foldl_error (handler : C → Entry → Option C) (st : State C) (lines : List (List UInt8)) :
    (lines.foldl (Inih.parseLine handler) st).lineno = st.lineno + lines.length ∧
      (st.error ≠ 0 → (lines.foldl (Inih.parseLine handler) st).error = st.error) ∧
      (st.error = 0 → (lines.foldl (Inih.parseLine handler) st).error = 0 ∨
        st.lineno < (lines.foldl (Inih.parseLine handler) st).error ∧
        (lines.foldl (Inih.parseLine handler) st).error ≤ st.lineno + lines.length) := by
  induction lines generalizing st with
  | nil => exact ⟨rfl, fun _ => rfl, fun h => .inl h⟩
  | cons line lines ih =>
    obtain ⟨hno, herr⟩ := parseLine_error handler st line
    obtain ⟨ihno, ihkept, ihnew⟩ := ih (Inih.parseLine handler st line)
    simp only [List.foldl_cons, List.length_cons]
    rw [hno] at ihno ihnew
    refine ⟨by omega, ?_, ?_⟩
    · intro hne
      rcases herr with herr | ⟨hzero, _⟩
      · rw [ihkept (herr ▸ hne), herr]
      · exact absurd hzero hne
    · intro hzero
      rcases herr with herr | ⟨_, herr⟩
      · rcases ihnew (herr.trans hzero) with h | h
        · exact .inl h
        · exact .inr (by omega)
      · have hkept := ihkept (by omega)
        exact .inr (by omega)

/-- INTERNAL: an error that is there after some lines is the error of the file. -/
theorem foldl_error_take (handler : C → Entry → Option C) (user : C) (lines : List (List UInt8))
    (n : Nat) :
    ((lines.take n).foldl (Inih.parseLine handler) { user := user }).error ≠ 0 ↔
      0 < (lines.foldl (Inih.parseLine handler) { user := user }).error ∧
        (lines.foldl (Inih.parseLine handler) { user := user }).error ≤ n := by
  obtain ⟨hno, -, hnew⟩ := foldl_error handler { user := user } (lines.take n)
  obtain ⟨-, hkept, hlater⟩ := foldl_error handler
    ((lines.take n).foldl (Inih.parseLine handler) { user := user }) (lines.drop n)
  rw [← List.foldl_append, List.take_append_drop] at hkept hlater
  simp only [Nat.zero_add, List.length_take, List.length_drop] at hno hnew hlater
  specialize hnew trivial
  constructor
  · intro hne
    rw [hkept hne]
    omega
  · rintro ⟨hpos, hle⟩ hzero
    rcases hlater hzero with h | h <;> omega

end Replay

/-- INTERNAL: with any callback a run of the parser is a replay of the recorded entries. -/
theorem iniParseFile_replay {C : Type} (handler : C → Entry → Option C) (user : C)
    (file : List UInt8) :
    (iniParseFile handler user file).2 = (iniEntries handler user (iniFile file).entries).1 ∧
      ((iniParseFile handler user file).1 = 0 ↔
        (iniFile file).ret = 0 ∧ (iniEntries handler user (iniFile file).entries).2 = false) := by
  have hinit : Replays handler user { user := user } { user := [] } :=
    ⟨rfl, rfl, rfl, rfl, by simp [iniEntries]⟩
  have hrun := hinit.foldl (fileLines file)
  have hret : (iniFile file).ret = 0 ↔
      ((fileLines file).foldl (parseLine record) { user := [] }).error = 0 := by
    show ((_ : Nat) : Int) = 0 ↔ _
    exact Int.natCast_eq_zero
  rw [hret]
  exact ⟨hrun.user, hrun.error⟩

/-! ## The program on its files -/

/-- INTERNAL: a configuration file is read as the entries in it. -/
theorem parseCfgFile_onDisk {C : Type} (handler : C → Entry → Option C)
    (fopen : List UInt8 → Except Int (List UInt8)) (cfgFile : List UInt8) (cfg : C) :
    OnDisk.parseCfgFile handler fopen cfgFile cfg =
      parseCfgFile handler (fun path => (fopen path).map iniFile) cfgFile cfg := by
  unfold OnDisk.parseCfgFile parseCfgFile
  dsimp only
  cases fopen cfgFile with
  | error err => rfl
  | ok file =>
    obtain ⟨huser, hret⟩ := iniParseFile_replay handler cfg file
    simp only [Except.map]
    rw [huser]
    congr 1
    by_cases hzero : (iniParseFile handler cfg file).1 = 0
    · obtain ⟨hfile, hflag⟩ := hret.mp hzero
      simp [hzero, hfile, hflag]
    · have hbad : (iniFile file).ret ≠ 0 ∨
          (iniEntries handler cfg (iniFile file).entries).2 = true := by
        rw [or_iff_not_imp_left, not_not]
        intro hfile
        rw [← Bool.not_eq_false]
        exact fun hflag => hzero (hret.mpr ⟨hfile, hflag⟩)
      rw [if_pos hzero, if_pos hbad]

theorem iniEntries_accepting {C : Type} (f : C → Entry → C) (user : C) (es : List Entry) :
    iniEntries (fun c e => some (f c e)) user es = (es.foldl f user, false) := by
  induction es generalizing user with
  | nil => rfl
  | cons e es ih => exact ih (f user e)

/-- INTERNAL: a user file is read as the entries in it. -/
theorem _teavpn2Auth_onDisk (file password : List UInt8) :
    OnDisk._teavpn2Auth file password = _teavpn2Auth (iniFile file) password := by
  obtain ⟨huser, hret⟩ := iniParseFile_replay OnDisk.userfileHandler {} file
  have hfold : iniEntries OnDisk.userfileHandler {} (iniFile file).entries =
      ((iniFile file).entries.foldl userfileParser {}, false) :=
    iniEntries_accepting userfileParser {} _
  rw [hfold] at huser hret
  simp only [and_true] at hret
  unfold OnDisk._teavpn2Auth _teavpn2Auth
  dsimp only
  rw [huser]
  by_cases hzero : (iniParseFile OnDisk.userfileHandler {} file).1 = 0
  · rw [if_neg (not_not.mpr hzero), if_neg (not_not.mpr (hret.mp hzero))]
  · rw [if_pos hzero, if_pos fun h => hzero (hret.mpr h)]

theorem teavpn2Auth_onDisk (dataDir : List UInt8) (fopen : List UInt8 → Option (List UInt8))
    (username password : List UInt8) :
    OnDisk.teavpn2Auth dataDir fopen username password =
      teavpn2Auth dataDir (fun path => (fopen path).map iniFile) username password := by
  unfold OnDisk.teavpn2Auth teavpn2Auth
  dsimp only
  cases fopen (userfilePath dataDir username) with
  | none => rfl
  | some file => simp only [Option.map_some, _teavpn2Auth_onDisk]

theorem runServer_onDisk (opts : List SrvOpt) (fopen : List UInt8 → Except Int (List UInt8)) :
    OnDisk.runServer opts fopen = runServer opts fun path => (fopen path).map iniFile := by
  have hparse : OnDisk.parseCfgFile Srv.serverCfgParser fopen =
      parseCfgFile Srv.serverCfgParser fun path => (fopen path).map iniFile :=
    funext₂ fun _ _ => parseCfgFile_onDisk _ _ _ _
  unfold OnDisk.runServer
  exact hparse ▸ rfl

theorem runClient_onDisk (opts : List CliOpt) (fopen : List UInt8 → Except Int (List UInt8)) :
    OnDisk.runClient opts fopen = runClient opts fun path => (fopen path).map iniFile := by
  have hparse : OnDisk.parseCfgFile Cli.clientCfgParser fopen =
      parseCfgFile Cli.clientCfgParser fun path => (fopen path).map iniFile :=
    funext₂ fun _ _ => parseCfgFile_onDisk _ _ _ _
  unfold OnDisk.runClient
  exact hparse ▸ rfl

/-- INTERNAL: **files are read as the entries in them.** For every file and callback, the callback
gets the entries that a recorder gets, in order and all of them, also behind a bad line; the result
is zero exactly if no line is malformed and no entry is refused, and otherwise it is the number of
the first line with which the error appears. So the server, the client and the authentication on
the bytes of their files do what they do on the entries.
SOURCE: ext/inih/inih.c:106-251, server/entry.c:403-463, client/entry.c:374-448, auth.c:112-184 -/
theorem files_read_as_entries :
    (∀ (C : Type) (handler : C → Entry → Option C) (user : C) (file : List UInt8),
      (iniParseFile handler user file).2 = (iniEntries handler user (iniFile file).entries).1 ∧
      ((iniParseFile handler user file).1 = 0 ↔
        (iniFile file).ret = 0 ∧ (iniEntries handler user (iniFile file).entries).2 = false) ∧
      ∀ n, (((fileLines file).take n).foldl (parseLine handler) { user := user }).error ≠ 0 ↔
        0 < (iniParseFile handler user file).1 ∧ (iniParseFile handler user file).1 ≤ n) ∧
    (∀ (opts : List SrvOpt) (fopen : List UInt8 → Except Int (List UInt8)),
      OnDisk.runServer opts fopen = runServer opts fun path => (fopen path).map iniFile) ∧
    (∀ (opts : List CliOpt) (fopen : List UInt8 → Except Int (List UInt8)),
      OnDisk.runClient opts fopen = runClient opts fun path => (fopen path).map iniFile) ∧
    ∀ (dataDir : List UInt8) (fopen : List UInt8 → Option (List UInt8))
      (username password : List UInt8),
      OnDisk.teavpn2Auth dataDir fopen username password =
        teavpn2Auth dataDir (fun path => (fopen path).map iniFile) username password := by
  refine ⟨?_, runServer_onDisk, runClient_onDisk, teavpn2Auth_onDisk⟩
  intro C handler user file
  obtain ⟨huser, hret⟩ := iniParseFile_replay handler user file
  exact ⟨huser, hret, foldl_error_take handler user (fileLines file)⟩

/-! ## What a line can look like -/

/-- A text inside one line. -/
structure OneLine (s : List UInt8) : Prop where
  noNul : (0 : UInt8) ∉ s
  noNewline : (10 : UInt8) ∉ s

theorem OneLine.of_subset {s t : List UInt8} (h : OneLine s) (hst : t ⊆ s) : OneLine t :=
  ⟨fun h0 => h.noNul (hst h0), fun h10 => h.noNewline (hst h10)⟩

/-- INTERNAL: the string that `fgets` leaves in the line buffer. -/
theorem fileLines_mem {file line : List UInt8} (h : line ∈ fileLines file) :
    line.length ≤ 199 ∧ (0 : UInt8) ∉ line ∧ ∀ a b, line = a ++ 10 :: b → b = [] := by
  obtain ⟨l, hl, rfl⟩ := List.mem_map.mp h
  obtain ⟨-, hlen, hsep⟩ := mem_pieces isNewline 198 hl
  refine ⟨(length_cstr_le l).trans hlen, zero_not_mem_cstr l, ?_⟩
  intro a b hab
  obtain ⟨r, hr⟩ : cstr l <+: l := List.takeWhile_prefix _
  rw [hab, List.append_assoc, List.cons_append] at hr
  exact (List.append_eq_nil_iff.mp (hsep a 10 (b ++ r) hr.symm rfl)).1

/-- INTERNAL: what is left of a line between its white space is inside one line. -/
theorem lskip_rstrip {line : List UInt8} (hzero : (0 : UInt8) ∉ line)
    (hend : ∀ a b, line = a ++ 10 :: b → b = []) {start : List UInt8} (hsuf : start <:+ line) :
    OneLine (lskip (rstrip start)) ∧ strip isspace (lskip (rstrip start)) = lskip (rstrip start) := by
  obtain ⟨w, hw⟩ := hsuf
  obtain ⟨r, hr⟩ : rstrip start <+: start := List.rdropWhile_prefix isspace start
  have hlast : ∀ t y, rstrip start = t ++ [y] → isspace y = false := by
    intro t y hty
    have hne : rstrip start ≠ [] := by simp [hty]
    have hnot := List.rdropWhile_last_not isspace start hne
    simp only [show start.rdropWhile isspace = t ++ [y] from hty, List.getLast_append_singleton]
      at hnot
    exact Bool.eq_false_iff.mpr hnot
  have hin : rstrip start ⊆ line := by
    intro x hx
    rw [← hw, ← hr]
    simp [hx]
  have hsub : lskip (rstrip start) ⊆ rstrip start := (List.dropWhile_suffix isspace).subset
  refine ⟨⟨fun h0 => hzero (hin (hsub h0)), fun h10 => ?_⟩, ?_⟩
  · -- a newline is the end of the line, where the white space is gone
    obtain ⟨a, b, hab⟩ := List.append_of_mem (hsub h10)
    have hnil := hend (w ++ a) (b ++ r) (by rw [← hw, ← hr, hab]; simp)
    obtain ⟨rfl, -⟩ := List.append_eq_nil_iff.mp hnil
    have hspace := hlast a 10 hab
    exact absurd hspace (by decide)
  · apply strip_eq_self
    · intro x t hxt
      apply head?_dropWhile isspace (l := rstrip start)
      rw [show (rstrip start).dropWhile isspace = x :: t from hxt]
      rfl
    · intro t y hty
      obtain ⟨v, hv⟩ : lskip (rstrip start) <:+ rstrip start := List.dropWhile_suffix isspace
      apply hlast (v ++ t) y
      rw [← hv, hty, List.append_assoc]

theorem skipBom_suffix (lineno : Nat) (line : List UInt8) : skipBom lineno line <:+ line := by
  unfold skipBom
  split
  · exact List.drop_suffix 3 line
  · exact List.suffix_refl line

theorem length_lskip_rstrip_le (start : List UInt8) :
    (lskip (rstrip start)).length ≤ start.length :=
  (List.dropWhile_suffix isspace).length_le.trans (List.rdropWhile_prefix isspace start).length_le

/-- INTERNAL: a pointer that has moved leaves at least one byte behind. -/
theorem length_lt_of_moved {lineno : Nat} {line : List UInt8} (h : moved lineno line = true) :
    (lskip (rstrip (skipBom lineno line))).length < line.length := by
  have hle := (skipBom_suffix lineno line).length_le
  have hstrip := (List.rdropWhile_prefix isspace (skipBom lineno line)).length_le
  have hskip := length_lskip_rstrip_le (skipBom lineno line)
  unfold moved at h
  simp only [Bool.or_eq_true, decide_eq_true_eq] at h
  rcases h with h | h
  · omega
  · unfold rstrip at h hskip ⊢
    omega

/-! ## Looking for a character -/

/-- INTERNAL: the string is cut in two. -/
theorem findCharsOrComment_append (chars : List UInt8) (wasSpace : Bool) (s : List UInt8) :
    (findCharsOrComment chars wasSpace s).1 ++ (findCharsOrComment chars wasSpace s).2 = s := by
  induction s generalizing wasSpace with
  | nil => rfl
  | cons c s ih =>
    unfold findCharsOrComment
    split
    · rfl
    · exact congrArg (c :: ·) (ih (isspace c))

/-- INTERNAL: none of the characters is in the first part. -/
theorem not_mem_findCharsOrComment {chars : List UInt8} {c : UInt8} (hc : c ∈ chars)
    (wasSpace : Bool) (s : List UInt8) : c ∉ (findCharsOrComment chars wasSpace s).1 := by
  induction s generalizing wasSpace with
  | nil => simp [findCharsOrComment]
  | cons d s ih =>
    unfold findCharsOrComment
    split
    · simp
    next hd =>
    have hne : c ≠ d := by
      rintro rfl
      simp [hc] at hd
    simp only [List.mem_cons, not_or]
    exact ⟨hne, ih (isspace d)⟩

/-! ## Entries are well formed -/

/-- The name of a section. -/
structure SectionOk (s : List UInt8) : Prop where
  oneLine : OneLine s
  length_le : s.length ≤ 49
  noBracket : (93 : UInt8) ∉ s

/-- The name of an entry: it holds no separator and cannot be taken for another kind of line. -/
structure NameOk (s : List UInt8) : Prop where
  oneLine : OneLine s
  length_le : s.length ≤ 198
  noSeparator : (61 : UInt8) ∉ s ∧ (58 : UInt8) ∉ s
  head : ∀ c t, s = c :: t → isspace c = false ∧ isStartComment c = false ∧ c ≠ 91

/-- The value of an entry: what stands between white space. -/
structure ValueOk (s : List UInt8) : Prop where
  oneLine : OneLine s
  length_le : s.length ≤ 198
  stripped : strip isspace s = s

structure EntryOk (e : Entry) : Prop where
  sect : SectionOk e.1
  name : NameOk e.2.1
  value : ValueOk e.2.2

/-- INTERNAL: a beginning of a name is one. -/
theorem NameOk.of_prefix {s t : List UInt8} (h : NameOk s) (ht : t <+: s) : NameOk t := by
  refine ⟨h.oneLine.of_subset ht.subset, ht.length_le.trans h.length_le,
    ⟨fun hc => h.noSeparator.1 (ht.subset hc), fun hc => h.noSeparator.2 (ht.subset hc)⟩, ?_⟩
  rintro c r rfl
  obtain ⟨u, rfl⟩ := ht
  exact h.head c (r ++ u) rfl

/-- What the recorder's run keeps. -/
structure RecordOk (st : State (List Entry)) : Prop where
  sect : SectionOk st.sect
  prevName : NameOk st.prevName
  entries : ∀ e ∈ st.user, EntryOk e

theorem RecordOk.call {st : State (List Entry)} (h : RecordOk st) {name value : List UInt8}
    (hname : NameOk name) (hvalue : ValueOk value) : RecordOk (st.call record name value) := by
  refine ⟨h.sect, h.prevName, fun e he => ?_⟩
  rcases List.mem_append.mp (show e ∈ st.user ++ [(st.sect, name, value)] from he) with he | he
  · exact h.entries e he
  · rw [List.mem_singleton.mp he]
    exact ⟨h.sect, hname, hvalue⟩

/-- INTERNAL: a `[section]` line. -/
theorem RecordOk.sectionLine {st : State (List Entry)} (h : RecordOk st) {start : List UInt8}
    (hstart : OneLine start) : RecordOk (Inih.sectionLine st start) := by
  have happ := findCharsOrComment_append (ascii "]") false start
  have hbracket : (93 : UInt8) ∉ (findCharsOrComment (ascii "]") false start).1 :=
    not_mem_findCharsOrComment (by decide) false start
  unfold Inih.sectionLine
  split
  · next name rest heq =>
    rw [heq] at happ hbracket
    have hsub : strncpy0 name MAX_SECTION ⊆ name := (List.take_prefix _ name).subset
    have hnil : NameOk ([] : List UInt8) :=
      ⟨⟨by simp, by simp⟩, by simp, ⟨by simp, by simp⟩, fun c t hct => by cases hct⟩
    refine ⟨⟨hstart.of_subset fun x hx => ?_, ?_, fun hb => hbracket (hsub hb)⟩, hnil, h.entries⟩
    · rw [← happ]
      exact List.mem_append_left _ (hsub hx)
    · exact List.length_take_le _ _
  · exact ⟨h.sect, h.prevName, h.entries⟩

/-- INTERNAL: a line with a name and a value. -/
theorem RecordOk.pairLine {st : State (List Entry)} (h : RecordOk st) {c : UInt8}
    {start : List UInt8} (hstart : OneLine (c :: start)) (hlen : (c :: start).length ≤ 199)
    (hc : isspace c = false ∧ isStartComment c = false ∧ c ≠ 91) :
    RecordOk (Inih.pairLine record st (c :: start)) := by
  have happ := findCharsOrComment_append (ascii "=:") false (c :: start)
  have hsep : (61 : UInt8) ∉ (findCharsOrComment (ascii "=:") false (c :: start)).1 ∧
      (58 : UInt8) ∉ (findCharsOrComment (ascii "=:") false (c :: start)).1 :=
    ⟨not_mem_findCharsOrComment (by decide) false _, not_mem_findCharsOrComment (by decide) false _⟩
  have hfail : RecordOk st.fail := ⟨h.sect, h.prevName, h.entries⟩
  unfold Inih.pairLine
  split
  · next before d after heq =>
    rw [heq] at happ hsep
    split
    · have hlen' := congrArg List.length happ
      simp only [List.length_append, List.length_cons] at hlen' hlen
      have hpre : rstrip before <+: before := List.rdropWhile_prefix isspace before
      have hname : NameOk (rstrip before) := by
        refine ⟨hstart.of_subset fun x hx => ?_, ?_, ⟨fun hx => hsep.1 (hpre.subset hx),
          fun hx => hsep.2 (hpre.subset hx)⟩, ?_⟩
        · rw [← happ]
          exact List.mem_append_left _ (hpre.subset hx)
        · have := hpre.length_le
          omega
        · intro x t hxt
          obtain ⟨u, hu⟩ := hpre
          rw [hxt] at hu
          rw [← hu] at happ
          cases happ
          exact hc
      have hcut : (findCharsOrComment [] false after).1 <+: after :=
        ⟨_, findCharsOrComment_append [] false after⟩
      have hvalue : ValueOk (rstrip (lskip (findCharsOrComment [] false after).1)) := by
        have hsub : ∀ x ∈ strip isspace (findCharsOrComment [] false after).1, x ∈ after :=
          fun x hx => hcut.subset (mem_of_mem_strip isspace hx)
        refine ⟨hstart.of_subset fun x hx => ?_, ?_, strip_strip isspace _⟩
        · rw [← happ]
          simp [hsub x hx]
        · have h₁ := (List.rdropWhile_prefix isspace
            (lskip (findCharsOrComment [] false after).1)).length_le
          have h₂ := (List.dropWhile_suffix isspace
            (l := (findCharsOrComment [] false after).1)).length_le
          have h₃ := hcut.length_le
          unfold rstrip lskip at *
          omega
      have hprev : NameOk (strncpy0 (rstrip before) MAX_NAME) :=
        hname.of_prefix (List.take_prefix _ _)
      have hnext : RecordOk { st with prevName := strncpy0 (rstrip before) MAX_NAME } :=
        ⟨h.sect, hprev, h.entries⟩
      exact hnext.call hname hvalue
    · exact hfail
  · exact hfail

/-- INTERNAL: one line, with a case for each kind of line. -/
theorem RecordOk.parseLine {st : State (List Entry)} (h : RecordOk st) {line : List UInt8}
    (hlen : line.length ≤ 199) (hzero : (0 : UInt8) ∉ line)
    (hend : ∀ a b, line = a ++ 10 :: b → b = []) : RecordOk (Inih.parseLine record st line) := by
  have hsuf := skipBom_suffix (st.lineno + 1) line
  obtain ⟨hone, hstrip⟩ := lskip_rstrip hzero hend hsuf
  have hshort := (length_lskip_rstrip_le _).trans hsuf.length_le
  have hmoved : moved (st.lineno + 1) line = true → _ := length_lt_of_moved
  have hnext : RecordOk { st with lineno := st.lineno + 1 } := ⟨h.sect, h.prevName, h.entries⟩
  unfold Inih.parseLine
  dsimp only
  split
  · exact hnext
  next c start heq =>
  rw [heq] at hone hstrip hshort hmoved
  split
  · exact hnext
  next hcomment =>
  split
  · next hcont =>
    have hlt := hmoved hcont.2
    exact hnext.call h.prevName ⟨hone, by omega, hstrip⟩
  split
  · exact hnext.sectionLine (hone.of_subset (List.subset_cons_self c start))
  next hsect =>
  have hhead : isspace c = false := by
    apply head?_dropWhile isspace (l := rstrip (skipBom (st.lineno + 1) line))
    rw [show (rstrip (skipBom (st.lineno + 1) line)).dropWhile isspace = c :: start from heq]
    rfl
  exact hnext.pairLine hone (by omega) ⟨hhead, Bool.eq_false_iff.mpr hcomment, hsect⟩

theorem RecordOk.foldl {st : State (List Entry)} (h : RecordOk st) {lines : List (List UInt8)}
    (hlines : ∀ line ∈ lines, line.length ≤ 199 ∧ (0 : UInt8) ∉ line ∧
      ∀ a b, line = a ++ 10 :: b → b = []) :
    RecordOk (lines.foldl (Inih.parseLine record) st) := by
  induction lines generalizing st with
  | nil => exact h
  | cons line lines ih =>
    obtain ⟨hlen, hzero, hend⟩ := hlines line (by simp)
    exact ih (h.parseLine hlen hzero hend) fun l hl => hlines l (by simp [hl])

/-- INTERNAL: entries are well formed, whatever the bytes of the file are. -/
theorem entryOk_of_mem {file : List UInt8} {e : Entry} (h : e ∈ (iniFile file).entries) :
    EntryOk e := by
  have hinit : RecordOk { user := [] } := by
    refine ⟨⟨⟨by simp, by simp⟩, by simp, by simp⟩, ⟨⟨by simp, by simp⟩, by simp, ⟨by simp, by simp⟩,
      fun c t hct => by cases hct⟩, by simp⟩
  exact (hinit.foldl fun line hl => fileLines_mem hl).entries e h

end TeaVpn2.Analysis
