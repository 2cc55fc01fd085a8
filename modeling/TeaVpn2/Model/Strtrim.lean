import TeaVpn2.Model.Bytes

/-!
# Trimming in place (net/linux/iface.c:25-84)

The string lies at the beginning of an array of bytes; `orig` is index 0 and the pointers
`str` and `end` are indices. A function returns `none` if it reads or writes outside of the
array, so a result shows which bytes were enough.
-/

set_option autoImplicit false

namespace TeaVpn2

/-- `*(mem + i) = c`. -/
def storeAt (mem : List UInt8) (i : Nat) (c : UInt8) : Option (List UInt8) :=
  if i < mem.length then some (mem.set i c) else none

/-- `memmove(mem, mem + src, n)`. -/
def memmoveFront (mem : List UInt8) (src n : Nat) : Option (List UInt8) :=
  if src + n ≤ mem.length then some ((mem.drop src).take n ++ mem.drop n) else none

/-- `strlen(mem)`: it reads up to the first NUL. -/
def strlenAt (mem : List UInt8) : Option Nat :=
  if 0 ∈ mem then some (cstr mem).length else none

/-- Where the first loop of `strtriml_move` ends. -/
inductive LeftEnd where
  | allSpaces
  | stopped (str : Nat)
deriving DecidableEq, Repr

/-- `while (is_ws(*str)) { if (str == &end[1]) ...; str++; }` -/
def leftLoop (mem : List UInt8) (last str : Nat) : Option LeftEnd :=
  match h : mem[str]? with
  | none => none
  | some c =>
      if isspace c then
        if str = last + 1 then some .allSpaces else leftLoop mem last (str + 1)
      else some (.stopped str)
termination_by mem.length - str
decreasing_by
  have hlt := (List.getElem?_eq_some_iff.mp h).1
  omega

/-- `while (is_ws(*end)) end--;`; below index 0 is outside of the array. -/
def rightLoop (mem : List UInt8) : Nat → Option Nat
  | 0 => mem[0]?.bind fun c => if isspace c then none else some 0
  | last + 1 => mem[last + 1]?.bind fun c => if isspace c then rightLoop mem last else some (last + 1)

/-- `strtriml_move(mem, len)`. A difference `end - str` below -1 would be a huge `size_t`, and
no array holds so many bytes. -/
def strtrimlMove (mem : List UInt8) (len : Nat) : Option (List UInt8) :=
  if len = 0 then some mem
  else do
    let last := len - 1
    match ← leftLoop mem last 0 with
    | .allSpaces => storeAt mem 0 0
    | .stopped str =>
        let c ← mem[str]?
        if c = 0 ∧ str = last + 1 then storeAt mem 0 0
        else
          let last ← rightLoop mem last
          if last + 1 < str then none
          else
            let trimmedLen := last + 1 - str
            let mem ← if str ≠ 0 then memmoveFront mem str trimmedLen else some mem
            storeAt mem trimmedLen 0

/-- `strtrim_move`. -/
def strtrimMove (mem : List UInt8) : Option (List UInt8) := do
  let len ← strlenAt mem
  strtrimlMove mem len

end TeaVpn2
