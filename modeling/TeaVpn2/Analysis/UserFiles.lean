import TeaVpn2.Program.Server

/-!
# User files

`teavpn2_auth` decides from a context that the callbacks of the INI parser fill in. What
is left in it after any sequence of entries: the last `password` of the section `auth`,
cut to the 255 bytes of `fpass`, or the empty string of the zeroed context when there is
none (`fpass_parse`), and the entries of the section `iface` applied in order
(`iff_parse`). `needsPassword_iff` says exactly when an accepted password was one that the
file holds.

The path that is opened is built from a username whose characters were checked, in a
buffer that is long enough for it: `opened_path`.
-/

set_option autoImplicit false

namespace TeaVpn2.Analysis

open TeaVpn2

/-! ## What the parser leaves in the context -/

/-- An entry of a user file: section, name and value. -/
abbrev IniEntry := List UInt8 × List UInt8 × List UInt8

def isPasswordEntry (e : IniEntry) : Bool := e.1 == ascii "auth" && e.2.1 == ascii "password"

def isIfaceEntry (e : IniEntry) : Bool := e.1 == ascii "iface"

/-- The value of the last `password` entry of the section `auth`. -/
def storedPassword (file : IniFile) : Option (List UInt8) :=
  ((file.entries.filter isPasswordEntry).getLast?).map fun e => e.2.2

/-- The entries of the section `iface`, applied in order to a zeroed `if_info`. -/
def ifaceSettings (file : IniFile) : IfInfo :=
  ((file.entries.filter isIfaceEntry).foldl
    (fun ctx e => userfileParseIface ctx e.2.1 e.2.2) {}).iff

theorem userfileParseIface_fpass (ctx : UserParseCtx) (name val : List UInt8) :
    (userfileParseIface ctx name val).fpass = ctx.fpass := by
  unfold userfileParseIface
  repeat' split
  all_goals rfl

theorem userfileParseAuth_iff (ctx : UserParseCtx) (name val : List UInt8) :
    (userfileParseAuth ctx name val).iff = ctx.iff := by
  unfold userfileParseAuth
  repeat' split
  all_goals rfl

/-- INTERNAL: one entry changes the stored password only if it is a password entry.
SOURCE: auth.c:47-109 -/
theorem userfileParser_fpass (ctx : UserParseCtx) (e : IniEntry) :
    (userfileParser ctx e).fpass =
      if isPasswordEntry e then strncpy2 e.2.2 256 else ctx.fpass := by
  have hne : ascii "password" ≠ ascii "username" := by decide
  unfold userfileParser isPasswordEntry
  by_cases hauth : e.1 = ascii "auth"
  · simp only [hauth, if_true, beq_self_eq_true, Bool.true_and, beq_iff_eq]
    unfold userfileParseAuth
    by_cases hpass : e.2.1 = ascii "password"
    · simp [hpass, hne]
    · by_cases huser : e.2.1 = ascii "username"
      · simp [huser, hne.symm]
      · simp [hpass, huser]
  · simp only [hauth, if_false, beq_eq_false_iff_ne.mpr hauth, Bool.false_and, Bool.false_eq_true]
    split
    · exact userfileParseIface_fpass ctx _ _
    · rfl

/-- INTERNAL: an `iface` entry reads and writes the `if_info` only. -/
theorem userfileParseIface_congr {ctx ctx' : UserParseCtx} (h : ctx.iff = ctx'.iff)
    (name val : List UInt8) :
    (userfileParseIface ctx name val).iff = (userfileParseIface ctx' name val).iff := by
  unfold userfileParseIface
  rw [h]
  repeat' split
  all_goals first | rfl | exact h

theorem userfileParser_iff (ctx : UserParseCtx) (e : IniEntry) :
    (userfileParser ctx e).iff =
      if isIfaceEntry e then (userfileParseIface ctx e.2.1 e.2.2).iff else ctx.iff := by
  have hne : ascii "iface" ≠ ascii "auth" := by decide
  unfold userfileParser isIfaceEntry
  by_cases hiface : e.1 = ascii "iface"
  · simp [hiface, hne]
  · simp only [beq_eq_false_iff_ne.mpr hiface, Bool.false_eq_true, if_false, hiface]
    split
    · exact userfileParseAuth_iff ctx _ _
    · rfl

/-- INTERNAL: **the password the file is compared with**, after any sequence of entries.
The induction carries an arbitrary context, since an entry may come after others. -/
theorem fpass_foldl (entries : List IniEntry) (ctx : UserParseCtx) :
    (entries.foldl userfileParser ctx).fpass =
      match (entries.filter isPasswordEntry).getLast? with
      | none => ctx.fpass
      | some e => strncpy2 e.2.2 256 := by
  induction entries generalizing ctx with
  | nil => rfl
  | cons e entries ih =>
    rw [List.foldl_cons, ih, userfileParser_fpass]
    cases he : isPasswordEntry e with
    | false => simp [he]
    | true =>
      rw [List.filter_cons_of_pos he, List.getLast?_cons]
      cases (entries.filter isPasswordEntry).getLast? <;> rfl

theorem iff_foldl (entries : List IniEntry) {ctx ctx' : UserParseCtx} (h : ctx.iff = ctx'.iff) :
    (entries.foldl userfileParser ctx).iff =
      ((entries.filter isIfaceEntry).foldl
        (fun ctx e => userfileParseIface ctx e.2.1 e.2.2) ctx').iff := by
  induction entries generalizing ctx ctx' with
  | nil => exact h
  | cons e entries ih =>
    rw [List.foldl_cons]
    cases he : isIfaceEntry e with
    | false =>
      rw [List.filter_cons_of_neg (by simp [he])]
      apply ih
      rw [userfileParser_iff, he]
      exact h
    | true =>
      rw [List.filter_cons_of_pos he, List.foldl_cons]
      apply ih
      rw [userfileParser_iff, he]
      exact userfileParseIface_congr h _ _

theorem fpass_parse (file : IniFile) :
    (file.entries.foldl userfileParser {}).fpass =
      match storedPassword file with
      | none => []
      | some v => strncpy2 v 256 := by
  rw [fpass_foldl, storedPassword]
  cases (file.entries.filter isPasswordEntry).getLast? <;> rfl

theorem iff_parse (file : IniFile) :
    (file.entries.foldl userfileParser {}).iff = ifaceSettings file :=
  iff_foldl file.entries rfl

/-! ## Which passwords are accepted -/

/-- INTERNAL: **the specification of `teavpn2_auth`.** It succeeds exactly when the username
is valid, its file opens and parses, and the password is what the parser left.
SOURCE: auth.c:112-184 -/
theorem teavpn2AuthCall_spec (dataDir : List UInt8) (fopen : List UInt8 → Option IniFile)
    (username password : List UInt8) (iff : IfInfo) :
    let c := teavpn2AuthCall dataDir fopen username password iff
    (c.ret = true ∧ validateUsername username = true ∧
      ∃ file, fopen (userfilePath dataDir username) = some file ∧ file.ret = 0 ∧
        password = (file.entries.foldl userfileParser {}).fpass ∧ c.iff = ifaceSettings file) ∨
    (c.ret = false ∧ c.iff = iff ∧
      ∀ file, validateUsername username = true →
        fopen (userfilePath dataDir username) = some file → file.ret = 0 →
        password ≠ (file.entries.foldl userfileParser {}).fpass) := by
  intro c
  cases hv : validateUsername username with
  | false =>
    have hc : c = ⟨none, false, iff⟩ := by simp [c, teavpn2AuthCall, hv]
    rw [hc]
    exact .inr ⟨rfl, rfl, nofun⟩
  | true =>
    cases hf : fopen (userfilePath dataDir username) with
    | none =>
      have hc : c = ⟨some (userfilePath dataDir username), false, iff⟩ := by
        simp [c, teavpn2AuthCall, hv, hf]
      rw [hc]
      exact .inr ⟨rfl, rfl, nofun⟩
    | some file =>
      have hc : c = ⟨some (userfilePath dataDir username),
          (_teavpn2AuthInto file password iff).1 == 0, (_teavpn2AuthInto file password iff).2⟩ := by
        simp [c, teavpn2AuthCall, hv, hf]
      rw [hc]
      unfold _teavpn2AuthInto
      dsimp only
      by_cases hret : file.ret = 0
      · rw [if_neg (not_not.mpr hret)]
        by_cases hp : password = (file.entries.foldl userfileParser {}).fpass
        · rw [if_neg (not_not.mpr hp)]
          exact .inl ⟨rfl, rfl, file, rfl, hret, hp, iff_parse file⟩
        · rw [if_pos hp]
          refine .inr ⟨by simp [EACCES], rfl, ?_⟩
          intro file' _ hfile _
          cases hfile
          exact hp
      · rw [if_pos hret]
        refine .inr ⟨by simp [EINVAL], rfl, ?_⟩
        intro file' _ hfile hret'
        cases hfile
        exact absurd hret' hret

/-- An accepted login presented the password of the file, and `*iff` is written on success
only. -/
def NeedsPassword (dataDir : List UInt8) (fopen : List UInt8 → Option IniFile)
    (username password : List UInt8) (iff : IfInfo) : Prop :=
  let c := teavpn2AuthCall dataDir fopen username password iff
  (c.ret = true → validateUsername username = true ∧
    ∃ file, fopen (userfilePath dataDir username) = some file ∧ file.ret = 0 ∧
      (∃ v, storedPassword file = some v ∧ cstr v = password) ∧ c.iff = ifaceSettings file) ∧
  (c.ret = false → c.iff = iff)

/-- The file has no password and the empty one is presented, or its password is longer than
the 255 bytes of `fpass` and the first 255 are presented. -/
def PasswordBlank (file : IniFile) (password : List UInt8) : Prop :=
  (storedPassword file = none ∧ password = []) ∨
    ∃ v, storedPassword file = some v ∧ 255 < (cstr v).length ∧ password = (cstr v).take 255

theorem fpass_of_passwordBlank {file : IniFile} {password : List UInt8}
    (h : PasswordBlank file password) :
    password = (file.entries.foldl userfileParser {}).fpass := by
  rw [fpass_parse]
  rcases h with ⟨hnone, hp⟩ | ⟨v, hv, _, hp⟩
  · rw [hnone]
    exact hp
  · rw [hv]
    exact hp

/-- INTERNAL: a blank password is not the one of the file. -/
theorem not_stored_of_passwordBlank {file : IniFile} {password : List UInt8}
    (h : PasswordBlank file password) : ¬∃ v, storedPassword file = some v ∧ cstr v = password := by
  rintro ⟨v, hv, hp⟩
  rcases h with ⟨hnone, _⟩ | ⟨v', hv', hlen, hp'⟩
  · rw [hnone] at hv
    cases hv
  · rw [hv'] at hv
    cases hv
    have hcut := congrArg List.length (hp.trans hp')
    rw [List.length_take] at hcut
    omega

/-- INTERNAL: what the parser left is the password of the file, unless it is blank. -/
theorem stored_of_fpass {file : IniFile} {password : List UInt8}
    (hp : password = (file.entries.foldl userfileParser {}).fpass)
    (hblank : ¬PasswordBlank file password) :
    ∃ v, storedPassword file = some v ∧ cstr v = password := by
  rw [fpass_parse] at hp
  cases hs : storedPassword file with
  | none =>
    rw [hs] at hp
    exact absurd (.inl ⟨hs, hp⟩) hblank
  | some v =>
    rw [hs] at hp
    have hp : password = (cstr v).take 255 := hp
    refine ⟨v, rfl, ?_⟩
    by_cases hlen : 255 < (cstr v).length
    · exact absurd (.inr ⟨v, hs, hlen, hp⟩) hblank
    · rw [hp, List.take_of_length_le (by omega)]

/-- INTERNAL: **exactly when authentication needs the password of the file.** It does unless
the username is valid, its file opens and parses, and the password is blank: the file has
none and the empty one is presented, or the file has one of more than 255 bytes and its
first 255 are presented.
SOURCE: auth.c:112-184 -/
theorem needsPassword_iff (dataDir : List UInt8) (fopen : List UInt8 → Option IniFile)
    (username password : List UInt8) (iff : IfInfo) :
    NeedsPassword dataDir fopen username password iff ↔
      ¬(validateUsername username = true ∧
        ∃ file, fopen (userfilePath dataDir username) = some file ∧ file.ret = 0 ∧
          PasswordBlank file password) := by
  unfold NeedsPassword
  rcases teavpn2AuthCall_spec dataDir fopen username password iff with
    ⟨hret, hvalid, file, hopen, hparse, hp, hiff⟩ | ⟨hret, hiff, hno⟩
  · constructor
    · rintro ⟨h, _⟩ ⟨_, file', hopen', _, hblank⟩
      obtain ⟨_, file'', hopen'', _, hstored, _⟩ := h hret
      rw [hopen] at hopen' hopen''
      cases hopen'
      cases hopen''
      exact not_stored_of_passwordBlank hblank hstored
    · intro h
      have hblank : ¬PasswordBlank file password := fun hb => h ⟨hvalid, file, hopen, hparse, hb⟩
      refine ⟨fun _ => ⟨hvalid, file, hopen, hparse, stored_of_fpass hp hblank, hiff⟩, ?_⟩
      intro hfalse
      rw [hret] at hfalse
      cases hfalse
  · constructor
    · rintro _ ⟨hvalid, file, hopen, hparse, hblank⟩
      exact hno file hvalid hopen hparse (fpass_of_passwordBlank hblank)
    · refine fun _ => ⟨fun htrue => ?_, fun _ => hiff⟩
      rw [hret] at htrue
      cases htrue

/-- A user file that names the user and his address, and no password. -/
def passwordlessFile : IniFile where
  entries := [(ascii "auth", ascii "username", ascii "bob"),
    (ascii "iface", ascii "ipv4", ascii "10.5.5.2")]

theorem needsPassword_passwordless :
    ¬NeedsPassword (ascii "data/server") (fun _ => some passwordlessFile) (ascii "bob") [] {} := by
  intro h
  obtain ⟨_, file, hfile, _, ⟨v, hv, _⟩, _⟩ := h.1 (by decide)
  cases hfile
  have hnone : storedPassword passwordlessFile = none := by decide
  rw [hnone] at hv
  cases hv

/-! ## Paths -/

/-- INTERNAL: a username that passes the check has no separator, dot or NUL in it.
SOURCE: auth.c:22-45 -/
theorem validateUsernameChar_spec {c : UInt8} (h : validateUsernameChar c = true) :
    (48 ≤ c.toNat ∧ c.toNat ≤ 57 ∨ 65 ≤ c.toNat ∧ c.toNat ≤ 90 ∨ 97 ≤ c.toNat ∧ c.toNat ≤ 122 ∨
      c.toNat = 95 ∨ c.toNat = 45) := by
  simp only [validateUsernameChar, Bool.or_eq_true, Bool.and_eq_true, decide_eq_true_eq,
    UInt8.le_iff_toNat_le, beq_iff_eq, ← UInt8.toNat_inj] at h
  simp at h
  omega

theorem length_authUsername_le (b : Buf) : (Srv.authUsername b).length ≤ 255 := by
  have h := length_cstr_le (b.read 4 255)
  rwa [Buf.length_read] at h

/-- The text `snprintf` is asked to write. -/
def userfileText (dataDir username : List UInt8) : List UInt8 :=
  dataDir ++ ascii "/users/" ++ username ++ ascii ".ini"

/-- INTERNAL: the path of a user whose name came in a packet fits its buffer.
SOURCE: auth.c:160-161 -/
theorem userfilePath_eq {dataDir username : List UInt8} (hdir : dataDir.length < 128)
    (huser : username.length ≤ 255) :
    userfilePath dataDir username = userfileText dataDir username := by
  have hlen : (userfileText dataDir username).length = dataDir.length + 7 + username.length + 4 := by
    simp [userfileText, ascii]
    omega
  unfold userfilePath snprintf
  apply List.take_of_length_le
  show (userfileText dataDir username).length ≤ 511
  omega

theorem userfileText_injective (dataDir : List UInt8) {u u' : List UInt8}
    (h : userfileText dataDir u = userfileText dataDir u') : u = u' := by
  unfold userfileText at h
  exact List.append_cancel_left (List.append_cancel_right h)

/-- INTERNAL: `fopen` is reached with the path of the user, and only for a valid name. -/
theorem teavpn2AuthCall_opened (dataDir : List UInt8) (fopen : List UInt8 → Option IniFile)
    (username password : List UInt8) (iff : IfInfo) :
    (teavpn2AuthCall dataDir fopen username password iff).opened =
      if validateUsername username then some (userfilePath dataDir username) else none := by
  unfold teavpn2AuthCall
  cases validateUsername username with
  | false => rfl
  | true =>
    simp only [Bool.not_true, Bool.false_eq_true, if_false, if_true]
    split <;> rfl

/-- INTERNAL: **usernames stay in the user directory and do not alias.** For any two AUTH
packets, whatever bytes they hold: a path that is opened is the data directory followed by
`/users/`, the username and `.ini`, uncut; the username has only letters, digits, `_` and
`-`; and the paths of two different usernames differ.
SOURCE: auth.c:22-45, 148-184; udp_epoll.c:568-589; server/common.h:11-16 -/
theorem opened_path {dataDir : List UInt8} (hdir : dataDir.length < 128)
    (fopen fopen' : List UInt8 → Option IniFile) (b b' : Buf) (iff iff' : IfInfo)
    (path path' : List UInt8)
    (hopen : (teavpn2AuthCall dataDir fopen (Srv.authUsername b) (Srv.authPassword b) iff).opened =
      some path)
    (hopen' : (teavpn2AuthCall dataDir fopen' (Srv.authUsername b') (Srv.authPassword b')
      iff').opened = some path') :
    path = dataDir ++ ascii "/users/" ++ Srv.authUsername b ++ ascii ".ini" ∧
    (∀ c ∈ Srv.authUsername b, c ≠ 47 ∧ c ≠ 46 ∧
      (48 ≤ c.toNat ∧ c.toNat ≤ 57 ∨ 65 ≤ c.toNat ∧ c.toNat ≤ 90 ∨
        97 ≤ c.toNat ∧ c.toNat ≤ 122 ∨ c.toNat = 95 ∨ c.toNat = 45)) ∧
    (Srv.authUsername b ≠ Srv.authUsername b' → path ≠ path') := by
  have hpath : ∀ {f : List UInt8 → Option IniFile} {a : Buf} {i : IfInfo} {p : List UInt8},
      (teavpn2AuthCall dataDir f (Srv.authUsername a) (Srv.authPassword a) i).opened = some p →
      validateUsername (Srv.authUsername a) = true ∧
        p = userfileText dataDir (Srv.authUsername a) := by
    intro f a i p h
    rw [teavpn2AuthCall_opened] at h
    split at h
    · next hvalid =>
      cases h
      exact ⟨hvalid, userfilePath_eq hdir (length_authUsername_le a)⟩
    · cases h
  obtain ⟨hvalid, hp⟩ := hpath hopen
  obtain ⟨_, hp'⟩ := hpath hopen'
  refine ⟨hp, ?_, ?_⟩
  · intro c hc
    have hrange := validateUsernameChar_spec (List.all_eq_true.mp hvalid c hc)
    refine ⟨?_, ?_, hrange⟩
    · rintro rfl
      revert hrange
      decide
    · rintro rfl
      revert hrange
      decide
  · intro hne heq
    rw [hp, hp'] at heq
    exact hne (userfileText_injective dataDir heq)

/-- A packet with the username `c`. -/
def namePacket (c : UInt8) : Buf := fun i => if i = 4 then c else 0

theorem opened_path_two_users :
    (teavpn2AuthCall (ascii "data/server") (fun _ => none) (Srv.authUsername (namePacket 97))
      (Srv.authPassword (namePacket 97)) {}).opened = some (ascii "data/server/users/a.ini") ∧
    ascii "data/server/users/a.ini" ≠ ascii "data/server/users/b.ini" := by
  have ha : (teavpn2AuthCall (ascii "data/server") (fun _ => none)
      (Srv.authUsername (namePacket 97)) (Srv.authPassword (namePacket 97)) {}).opened =
      some (ascii "data/server/users/a.ini") := by decide
  have hb : (teavpn2AuthCall (ascii "data/server") (fun _ => none)
      (Srv.authUsername (namePacket 98)) (Srv.authPassword (namePacket 98)) {}).opened =
      some (ascii "data/server/users/b.ini") := by decide
  exact ⟨ha, (opened_path (by decide) _ _ _ _ _ _ _ _ ha hb).2.2 (by decide)⟩

end TeaVpn2.Analysis
