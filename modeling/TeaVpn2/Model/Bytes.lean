import Mathlib.Algebra.Group.Nat.Defs
import Mathlib.Data.List.Basic
import Mathlib.Tactic.Common

/-!
# Bytes, C strings and the libc functions the program calls

A packet buffer is read and written by offset, so `Buf` is a function from offsets to
bytes: what a function does not write keeps whatever was there before, and what lies
behind the end of the array is as unknown as it is to the C code.

A `char` array that holds a C string and is written only by `memset`, `strncpy` and
`strncpy2` is represented by the bytes before its terminator (the rest of the array is
zero), so `strncpy2` is truncation. `strtoul` and `inet_addr` follow the C library.
-/

set_option autoImplicit false

namespace TeaVpn2

/-! ## Error numbers -/

def ENOENT : Int := 2
def EINTR : Int := 4
def EAGAIN : Int := 11
def ENOMEM : Int := 12
def EACCES : Int := 13
def EINVAL : Int := 22
def EBADRQC : Int := 56
def EBADMSG : Int := 74
def ENETDOWN : Int := 100
def ECONNRESET : Int := 104
def ETIMEDOUT : Int := 110

/-! ## Buffers -/

/-- The contents of a packet buffer, by offset. -/
abbrev Buf := Nat → UInt8

namespace Buf

/-- The `n` bytes from offset `off` on. -/
def read (b : Buf) (off n : Nat) : List UInt8 := (List.range n).map fun i => b (off + i)

/-- Overwrite the bytes from offset `off` on. -/
def write (b : Buf) (off : Nat) (bytes : List UInt8) : Buf :=
  fun i => if off ≤ i ∧ i < off + bytes.length then bytes.getD (i - off) 0 else b i

@[simp] theorem length_read (b : Buf) (off n : Nat) : (b.read off n).length = n := by
  simp [read]

theorem write_of_lt (b : Buf) {off i : Nat} (bytes : List UInt8) (h : i < off) :
    b.write off bytes i = b i := by
  simp [write, Nat.not_le.mpr h]

theorem write_of_ge (b : Buf) {off i : Nat} (bytes : List UInt8) (h : off + bytes.length ≤ i) :
    b.write off bytes i = b i := by
  simp [write, Nat.not_lt.mpr h]

theorem write_of_mem (b : Buf) {off i : Nat} (bytes : List UInt8) (h : off ≤ i)
    (h' : i < off + bytes.length) : b.write off bytes i = bytes.getD (i - off) 0 := by
  simp [write, h, h']

/-- INTERNAL: what `recvfrom` has stored of a datagram. -/
theorem getElem?_of_write_take (b : Buf) {data : List UInt8} {n j : Nat}
    (h : j < (data.take n).length) : data[j]? = some (b.write 0 (data.take n) j) := by
  have hlt : j < data.length := by
    rw [List.length_take] at h
    omega
  rw [write_of_mem _ _ (Nat.zero_le j) (by omega), List.getElem?_eq_getElem hlt, Nat.sub_zero,
    List.getD_eq_getElem?_getD, List.getElem?_eq_getElem h, List.getElem_take, Option.getD_some]

/-- INTERNAL: two buffers that agree on a range give the same bytes there. -/
theorem read_congr {b c : Buf} {off n : Nat} (h : ∀ i, off ≤ i → i < off + n → b i = c i) :
    b.read off n = c.read off n := by
  unfold read
  apply List.map_congr_left
  intro i hi
  rw [List.mem_range] at hi
  exact h (off + i) (by omega) (by omega)

/-- INTERNAL: reading back a write that starts where the reading starts. -/
theorem read_write_same (b : Buf) (off : Nat) (bytes : List UInt8) :
    (b.write off bytes).read off bytes.length = bytes := by
  apply List.ext_getElem (by simp)
  intro i h₁ h₂
  simp only [read, List.getElem_map, List.getElem_range]
  rw [write_of_mem _ _ (by omega) (by omega), Nat.add_sub_cancel_left]
  simp [h₂]

/-- INTERNAL: a read inside a write sees the bytes written. -/
theorem read_write_within (b : Buf) {off i n : Nat} (bytes : List UInt8)
    (h : i + n ≤ bytes.length) :
    (b.write off bytes).read (off + i) n = (bytes.drop i).take n := by
  apply List.ext_getElem
  · simp only [length_read, List.length_take, List.length_drop]
    omega
  · intro j h₁ h₂
    rw [length_read] at h₁
    simp only [read, List.getElem_map, List.getElem_range, List.getElem_take, List.getElem_drop]
    have hsub : off + i + j - off = i + j := by omega
    rw [write_of_mem _ _ (by omega) (by omega), hsub, List.getD_eq_getElem?_getD,
      List.getElem?_eq_getElem (by omega), Option.getD_some]

/-- INTERNAL: a read beside a write sees what was there before. -/
theorem read_write_disjoint (b : Buf) {off i n : Nat} (bytes : List UInt8)
    (h : off + bytes.length ≤ i ∨ i + n ≤ off) : (b.write off bytes).read i n = b.read i n := by
  apply read_congr
  intro j h₁ h₂
  rcases h with h | h
  · exact write_of_ge _ _ (by omega)
  · exact write_of_lt _ _ (by omega)

/-- INTERNAL: a read splits at any point. -/
theorem read_add (b : Buf) (off m n : Nat) :
    b.read off (m + n) = b.read off m ++ b.read (off + m) n := by
  simp [read, List.range_add, Nat.add_assoc, Function.comp_def]

end Buf

/-! ## Strings -/

/-- The bytes of a string literal of the source (all of them are ASCII). -/
def ascii (s : String) : List UInt8 := s.toList.map fun c => UInt8.ofNat c.toNat

/-- The C string at the start of a byte array: everything before the first NUL. -/
def cstr (l : List UInt8) : List UInt8 := l.takeWhile (· != 0)

theorem cstr_append_of_mem {l : List UInt8} (h : (0 : UInt8) ∈ l) (r : List UInt8) :
    cstr (l ++ r) = cstr l := by
  induction l with
  | nil => cases h
  | cons c l ih =>
    by_cases hc : c = 0
    · subst hc
      simp [cstr]
    · have hmem : (0 : UInt8) ∈ l := by
        rcases List.mem_cons.mp h with h | h
        · exact absurd h.symm hc
        · exact h
      simpa [cstr, hc] using ih hmem

theorem cstr_append_of_not_mem {l : List UInt8} (h : (0 : UInt8) ∉ l) (r : List UInt8) :
    cstr (l ++ r) = l ++ cstr r := by
  induction l with
  | nil => rfl
  | cons c l ih =>
    have hc : c ≠ 0 := fun hc => h (by simp [hc])
    have hl : (0 : UInt8) ∉ l := fun hl => h (List.mem_cons_of_mem c hl)
    simpa [cstr, hc] using ih hl

theorem cstr_eq_self {l : List UInt8} (h : (0 : UInt8) ∉ l) : cstr l = l := by
  have happ := cstr_append_of_not_mem h []
  simpa [cstr] using happ

theorem zero_not_mem_cstr (l : List UInt8) : (0 : UInt8) ∉ cstr l := by
  intro h
  have hall := List.all_eq_true.mp (List.all_takeWhile : (cstr l).all (· != 0) = true) 0 h
  simp at hall

theorem length_cstr_le (l : List UInt8) : (cstr l).length ≤ l.length :=
  (List.takeWhile_prefix _).length_le

/-- `strncpy2(dst, src, n)` of common.h:214-221, as the C string left in `dst`: at most
`n - 1` bytes of `src`. -/
def strncpy2 (src : List UInt8) (n : Nat) : List UInt8 := (cstr src).take (n - 1)

/-- The `n` bytes of an array that holds the C string `s` and zeros behind it. -/
def charArray (s : List UInt8) (n : Nat) : List UInt8 :=
  s.take n ++ List.replicate (n - s.length) 0

@[simp] theorem length_charArray (s : List UInt8) (n : Nat) : (charArray s n).length = n := by
  simp only [charArray, List.length_append, List.length_take, List.length_replicate]
  omega

theorem length_strncpy2_le (src : List UInt8) (n : Nat) : (strncpy2 src n).length ≤ n - 1 := by
  rw [strncpy2, List.length_take]
  omega

theorem zero_not_mem_strncpy2 (src : List UInt8) (n : Nat) : (0 : UInt8) ∉ strncpy2 src n :=
  fun h => zero_not_mem_cstr src (List.mem_of_mem_take h)

/-- INTERNAL: the C string in an array, also when the last bytes of the array are not looked
at. -/
theorem cstr_take_charArray {s : List UInt8} {m n : Nat} (h : (0 : UInt8) ∉ s)
    (hlen : s.length ≤ m) (hmn : m ≤ n) : cstr ((charArray s n).take m) = s := by
  have hsplit : (charArray s n).take m = s ++ List.replicate (m - s.length) 0 := by
    have hs : s.take n = s := List.take_of_length_le (by omega)
    rw [charArray, hs, List.take_append, List.take_of_length_le hlen, List.take_replicate,
      Nat.min_eq_left (by omega)]
  rw [hsplit, cstr_append_of_not_mem h]
  cases m - s.length with
  | zero => simp [cstr]
  | succ k => simp [cstr, List.replicate_succ]

theorem cstr_charArray {s : List UInt8} {n : Nat} (h : (0 : UInt8) ∉ s) (hlen : s.length ≤ n) :
    cstr (charArray s n) = s := by
  have hall := cstr_take_charArray h hlen (Nat.le_refl n)
  rwa [List.take_of_length_le (Nat.le_of_eq (length_charArray s n))] at hall

/-- `snprintf(buf, n, ...)` with the formatted text `s`, as the C string left in `buf`. -/
def snprintf (n : Nat) (s : List UInt8) : List UInt8 := s.take (n - 1)

/-- `isspace` in the C locale. -/
def isspace (c : UInt8) : Bool := c == 32 || (9 ≤ c && c ≤ 13)

def isdigit (c : UInt8) : Bool := 48 ≤ c && c ≤ 57

/-! ## `strtoul` -/

/-- The value of a digit in bases up to sixteen. -/
def digitVal (c : UInt8) : Nat :=
  if 48 ≤ c && c ≤ 57 then c.toNat - 48
  else if 97 ≤ c && c ≤ 102 then c.toNat - 87
  else if 65 ≤ c && c ≤ 70 then c.toNat - 55
  else 16

theorem isdigit_iff (c : UInt8) : isdigit c = true ↔ 48 ≤ c.toNat ∧ c.toNat ≤ 57 := by
  simp only [isdigit, Bool.and_eq_true, decide_eq_true_eq, UInt8.le_iff_toNat_le]
  rfl

/-- INTERNAL: a digit and its value. -/
theorem digitVal_of_isdigit {c : UInt8} (h : isdigit c = true) : digitVal c = c.toNat - 48 := by
  unfold digitVal
  exact if_pos h

theorem digitVal_lt_of_isdigit {c : UInt8} (h : isdigit c = true) : digitVal c < 10 := by
  have hc := (isdigit_iff c).mp h
  rw [digitVal_of_isdigit h]
  omega

/-- The number read by a run of digits of base `base`, and the text behind them. -/
def readDigits (base : Nat) : List UInt8 → Nat → Nat × List UInt8
  | [], acc => (acc, [])
  | c :: cs, acc =>
      if digitVal c < base then readDigits base cs (acc * base + digitVal c) else (acc, c :: cs)

/-- `ULONG_MAX`. -/
def ulongMax : Nat := 2 ^ 64 - 1

/-- `strtoul(s, NULL, 10)`: leading white space, an optional sign, digits; a value that
does not fit is `ULONG_MAX`, and a minus sign negates modulo `2^64`. -/
def strtoul10 (s : List UInt8) : Nat :=
  match s.dropWhile isspace with
  | 43 :: cs => min (readDigits 10 cs 0).1 ulongMax
  | 45 :: cs =>
      if ulongMax < (readDigits 10 cs 0).1 then ulongMax
      else (2 ^ 64 - (readDigits 10 cs 0).1) % 2 ^ 64
  | cs => min (readDigits 10 cs 0).1 ulongMax

/-! ## `inet_addr` and `inet_ntop` -/

/-- One number of an address in the notation of C: `0x` for hexadecimal, a leading `0`
for octal, decimal otherwise. -/
def readAddrPart : List UInt8 → Nat × List UInt8
  | 48 :: 120 :: c :: cs =>
      if digitVal c < 16 then readDigits 16 (c :: cs) 0 else (0, 120 :: c :: cs)
  | 48 :: 88 :: c :: cs =>
      if digitVal c < 16 then readDigits 16 (c :: cs) 0 else (0, 88 :: c :: cs)
  | 48 :: cs => readDigits 8 cs 0
  | cs => readDigits 10 cs 0

/-- The parts of an address still allowed: after `parts` bytes the last number may fill
the remaining `4 - parts` bytes of the word. -/
def inetAton : Nat → Nat → List UInt8 → Option Nat
  | left, acc, s =>
    match s with
    | [] => none
    | c :: _ =>
      if isdigit c then
        let (val, rest) := readAddrPart s
        match rest, left with
        | 46 :: rest, left + 1 => if val ≤ 255 then inetAton left (acc * 256 + val) rest else none
        | 46 :: _, 0 => none
        | [], left => if val < 256 ^ (left + 1) then some (acc * 256 ^ (left + 1) + val) else none
        | c :: _, left =>
            if isspace c && val < 256 ^ (left + 1) then some (acc * 256 ^ (left + 1) + val)
            else none
      else none

/-- `ntohl(inet_addr(s))`: the address in host order, all ones when `s` is not one. -/
def inetAddr (s : List UInt8) : UInt32 :=
  match inetAton 3 0 (cstr s) with
  | some v => UInt32.ofNat v
  | none => 0xffffffff

/-- Decimal digits. -/
def decimal (n : Nat) : List UInt8 := ascii (toString n)

/-- `inet_ntop(AF_INET, ...)` of an address in host order. -/
def inetNtop (addr : UInt32) : List UInt8 :=
  let byte (k : UInt32) := decimal ((addr >>> k) &&& 0xff).toNat
  byte 24 ++ ascii "." ++ byte 16 ++ ascii "." ++ byte 8 ++ ascii "." ++ byte 0

example : inetAddr (ascii "10.5.5.2") = 0x0a050502 := by decide +kernel

example : inetAddr (ascii "0.0.0.0") = 0 := by decide +kernel

example : inetAddr (ascii "10.5.5.x") = 0xffffffff := by decide +kernel

example : inetNtop 0x0a050502 = ascii "10.5.5.2" := by decide +kernel

end TeaVpn2
