import TeaVpn2.Model.Packet

/-!
# Authentication (auth.c)

`teavpn2_auth` looks the user up in `data_dir/users/<username>.ini`. The INI parser is
third-party code: it delivers `(section, name, value)` triples to `userfile_parser` in the
order of the file and returns an error flag, and `IniFile` is exactly that. The file
system is the function `fopen` from paths to such files.

A context starts zeroed, so a file without a password entry compares the presented
password with the empty string; a username that differs from the one in the file is only
warned about.
-/

set_option autoImplicit false

namespace TeaVpn2

/-- What `ini_parse_file` delivers for a file, and what it returns. -/
structure IniFile where
  entries : List (List UInt8 × List UInt8 × List UInt8)
  ret : Int := 0
deriving DecidableEq, Repr

/-- The mutable part of `struct user_parse_ctx`. -/
structure UserParseCtx where
  fuser : List UInt8 := []
  fpass : List UInt8 := []
  iff : IfInfo := {}
deriving DecidableEq, Repr

def validateUsernameChar (c : UInt8) : Bool :=
  (48 ≤ c && c ≤ 57) || (65 ≤ c && c ≤ 90) || (97 ≤ c && c ≤ 122) || (c == 95 || c == 45)

def validateUsername (u : List UInt8) : Bool := u.all validateUsernameChar

def userfileParseAuth (ctx : UserParseCtx) (name val : List UInt8) : UserParseCtx :=
  if name = ascii "username" then { ctx with fuser := strncpy2 val 256 }
  else if name = ascii "password" then { ctx with fpass := strncpy2 val 256 }
  else ctx

def userfileParseIface (ctx : UserParseCtx) (name val : List UInt8) : UserParseCtx :=
  if name = ascii "mtu" then
    { ctx with iff := { ctx.iff with ipv4Mtu := UInt16.ofNat (strtoul10 val) } }
  else if name = ascii "ipv4" then
    { ctx with iff := { ctx.iff with ipv4 := strncpy2 val 16 } }
  else if name = ascii "ipv4_netmask" then
    { ctx with iff := { ctx.iff with ipv4Netmask := strncpy2 val 16 } }
  else if name = ascii "ipv4_dgateway" then
    { ctx with iff := { ctx.iff with ipv4Dgateway := strncpy2 val 16 } }
  else ctx

/-- The parser callback; it always returns 1, so parsing never stops early. -/
def userfileParser (ctx : UserParseCtx) (e : List UInt8 × List UInt8 × List UInt8) :
    UserParseCtx :=
  if e.1 = ascii "auth" then userfileParseAuth ctx e.2.1 e.2.2
  else if e.1 = ascii "iface" then userfileParseIface ctx e.2.1 e.2.2
  else ctx

/-- auth.c:112-145. The comparison with the username of the file only prints a warning. -/
def _teavpn2Auth (file : IniFile) (password : List UInt8) : Except Int IfInfo :=
  let ctx := file.entries.foldl userfileParser {}
  if file.ret ≠ 0 then .error (-EINVAL)
  else if password ≠ ctx.fpass then .error (-EACCES)
  else .ok ctx.iff

/-- The path `"%s/users/%s.ini"`, cut to the 512 bytes of `userfile`. -/
def userfilePath (dataDir username : List UInt8) : List UInt8 :=
  snprintf 512 (dataDir ++ ascii "/users/" ++ username ++ ascii ".ini")

/-- auth.c:148-184; `none` is `false`, and `*iff` is written only on success. -/
def teavpn2Auth (dataDir : List UInt8) (fopen : List UInt8 → Option IniFile)
    (username password : List UInt8) : Option IfInfo :=
  if validateUsername username then
    match fopen (userfilePath dataDir username) with
    | none => none
    | some file => (_teavpn2Auth file password).toOption
  else none

/-! ## The call as its caller sees it -/

/-- What a call of `teavpn2_auth` does: the path it hands to `fopen`, if it gets there, what
it returns, and what it leaves behind the pointer `iff`. -/
structure AuthCall where
  opened : Option (List UInt8)
  ret : Bool
  iff : IfInfo
deriving DecidableEq, Repr

/-- auth.c:112-145, with the memory behind `iff`. -/
def _teavpn2AuthInto (file : IniFile) (password : List UInt8) (iff : IfInfo) : Int × IfInfo :=
  let ctx := file.entries.foldl userfileParser {}
  if file.ret ≠ 0 then (-EINVAL, iff)
  else if password ≠ ctx.fpass then (-EACCES, iff)
  else (0, ctx.iff)

/-- auth.c:148-184, with the memory behind `iff`. -/
def teavpn2AuthCall (dataDir : List UInt8) (fopen : List UInt8 → Option IniFile)
    (username password : List UInt8) (iff : IfInfo) : AuthCall :=
  if !validateUsername username then ⟨none, false, iff⟩
  else
    let userfile := userfilePath dataDir username
    match fopen userfile with
    | none => ⟨some userfile, false, iff⟩
    | some handle =>
        let (err, iff) := _teavpn2AuthInto handle password iff
        ⟨some userfile, err == 0, iff⟩

/-- INTERNAL: the server's view of the call keeps what it returns: the `if_info` on success
and nothing on failure. -/
theorem teavpn2Auth_eq_call (dataDir : List UInt8) (fopen : List UInt8 → Option IniFile)
    (username password : List UInt8) (iff : IfInfo) :
    teavpn2Auth dataDir fopen username password =
      if (teavpn2AuthCall dataDir fopen username password iff).ret then
        some (teavpn2AuthCall dataDir fopen username password iff).iff
      else none := by
  unfold teavpn2Auth teavpn2AuthCall
  cases validateUsername username with
  | false => rfl
  | true =>
    simp only [if_true, Bool.not_true, Bool.false_eq_true, if_false]
    cases fopen (userfilePath dataDir username) with
    | none => rfl
    | some file =>
      simp only [_teavpn2Auth, _teavpn2AuthInto]
      split
      · simp [EINVAL, Except.toOption]
      · split
        · simp [EACCES, Except.toOption]
        · rfl

end TeaVpn2
