import Mathlib.Data.List.DropRight
import TeaVpn2.Lib.Lines
import TeaVpn2.Model.Config

/-!
# The INI parser (ext/inih/inih.c)

`ini_parse_file` reads a file with `fgets` and gives every `name = value` line to a callback, with
the section it stands in. The settings are the ones of ext/inih/inih.h and custom.h: a line buffer
of 200 bytes, continuation lines, a byte order mark, comments behind white space, no stop at the
first error.

A string in the line buffer is what stands before its NUL, and a pointer into it is the rest of the
string. The callback returns the state it leaves, `none` where it returns 0; its argument `lineno`
only goes into messages.
-/

set_option autoImplicit false

namespace TeaVpn2.Inih

open TeaVpn2.Lib

def INI_MAX_LINE : Nat := 200
def MAX_SECTION : Nat := 50
def MAX_NAME : Nat := 50

def isNewline (c : UInt8) : Bool := c == 10

/-- `INI_START_COMMENT_PREFIXES`. -/
def isStartComment (c : UInt8) : Bool := c == 59 || c == 35

/-- `INI_INLINE_COMMENT_PREFIXES`. -/
def isInlineComment (c : UInt8) : Bool := c == 59

/-! ## Strings (inih.c:46-103) -/

def rstrip (s : List UInt8) : List UInt8 := s.rdropWhile isspace

def lskip (s : List UInt8) : List UInt8 := s.dropWhile isspace

/-- `find_chars_or_comment`: the string before the character it stops at, and the string that
begins with it. `wasSpace` is the local variable, `chars` is empty where the caller gives `NULL`. -/
def findCharsOrComment (chars : List UInt8) : Bool → List UInt8 → List UInt8 × List UInt8
  | _, [] => ([], [])
  | wasSpace, c :: s =>
      if chars.contains c || (wasSpace && isInlineComment c) then ([], c :: s)
      else
        let r := findCharsOrComment chars (isspace c) s
        (c :: r.1, r.2)

/-- `strncpy0`, as the C string it leaves. -/
def strncpy0 (src : List UInt8) (size : Nat) : List UInt8 := src.take (size - 1)

/-! ## The loop (inih.c:106-246) -/

/-- The local variables of `ini_parse_stream` that live longer than a line, and the state behind
`user`. -/
structure State (C : Type) where
  sect : List UInt8 := []
  prevName : List UInt8 := []
  lineno : Nat := 0
  error : Nat := 0
  user : C
deriving DecidableEq, Repr

namespace State

variable {C : Type}

/-- `if (!error) error = lineno`. -/
def fail (st : State C) : State C :=
  { st with error := if st.error = 0 then st.lineno else st.error }

/-- `if (!HANDLER(user, section, name, value) && !error) error = lineno`. -/
def call (handler : C → Entry → Option C) (st : State C) (name value : List UInt8) : State C :=
  match handler st.user (st.sect, name, value) with
  | some user => { st with user := user }
  | none => st.fail

end State

/-- The byte order mark of UTF-8. -/
def bom : List UInt8 := [0xEF, 0xBB, 0xBF]

/-- `start` behind the byte order mark, if the first line has one. -/
def skipBom (lineno : Nat) (line : List UInt8) : List UInt8 :=
  if lineno = 1 ∧ bom.isPrefixOf line = true then line.drop 3 else line

/-- A `[section]` line, from behind the bracket. -/
def sectionLine {C : Type} (st : State C) (start : List UInt8) : State C :=
  match findCharsOrComment (ascii "]") false start with
  | (name, 93 :: _) => { st with sect := strncpy0 name MAX_SECTION, prevName := [] }
  | _ => st.fail

/-- A `name[=:]value` line. -/
def pairLine {C : Type} (handler : C → Entry → Option C) (st : State C) (start : List UInt8) :
    State C :=
  match findCharsOrComment (ascii "=:") false start with
  | (before, c :: after) =>
      if c = 61 ∨ c = 58 then
        let name := rstrip before
        let value := rstrip (lskip (findCharsOrComment [] false after).1)
        { st with prevName := strncpy0 name MAX_NAME }.call handler name value
      else st.fail
  | (_, []) => st.fail

/-- `start > line`, when `start` stands on the first character that is not white space. -/
def moved (lineno : Nat) (line : List UInt8) : Bool :=
  let start := skipBom lineno line
  start.length < line.length || (lskip (rstrip start)).length < (rstrip start).length

/-- One turn of the loop, for the string in `line`. -/
def parseLine {C : Type} (handler : C → Entry → Option C) (st : State C) (line : List UInt8) :
    State C :=
  let st := { st with lineno := st.lineno + 1 }
  match lskip (rstrip (skipBom st.lineno line)) with
  -- `strchr` finds the terminator too: a blank line is a comment
  | [] => st
  | c :: start =>
      if isStartComment c then st
      else if st.prevName ≠ [] ∧ moved st.lineno line = true then
        st.call handler st.prevName (c :: start)
      else if c = 91 then sectionLine st start
      else pairLine handler st (c :: start)

/-- What the successive calls of `fgets(line, INI_MAX_LINE, file)` leave in `line`, up to the NUL
behind the bytes that were read or among them. -/
def fileLines (file : List UInt8) : List (List UInt8) :=
  (pieces isNewline (INI_MAX_LINE - 1) file).map cstr

/-- `ini_parse_file`, on the bytes of the file: the result, and what is behind `user`. -/
def iniParseFile {C : Type} (handler : C → Entry → Option C) (user : C) (file : List UInt8) :
    Nat × C :=
  let st := (fileLines file).foldl (parseLine handler) { user := user }
  (st.error, st.user)

/-- A callback that accepts every entry and keeps it. -/
def record (es : List Entry) (e : Entry) : Option (List Entry) := some (es ++ [e])

/-- What `ini_parse_file` delivers for a file, and what it returns where no entry is refused. -/
def iniFile (file : List UInt8) : IniFile where
  entries := (iniParseFile record [] file).2
  ret := (iniParseFile record [] file).1

end TeaVpn2.Inih
