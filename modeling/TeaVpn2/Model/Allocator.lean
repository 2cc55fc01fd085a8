import Mathlib.Algebra.Group.Nat.Defs
import Mathlib.Logic.Function.Basic
import Mathlib.Tactic.Common

/-!
# The aligned allocator (allocator.c)

Addresses and sizes are 64-bit words, `0` is `NULL`, and a memory is a byte for each address.
The functions of the C library are parameters: `malloc`, `calloc` and `realloc` are given as the
address they return for a request and the memory they leave.

A block is laid out as padding, one byte with the distance to the beginning of the underlying
block, and the bytes of the user, which begin at a multiple of 64.
-/

set_option autoImplicit false

namespace TeaVpn2

/-- The bytes of the address space. -/
abbrev Memory := UInt64 → UInt8

/-- An address (`0` is `NULL`) and the memory after the call. -/
abbrev Alloc := UInt64 × Memory

/-- `63ul + sizeof(shift)`. -/
def extraSize : UInt64 := 63 + 1

/-- `((uintptr_t)orig + extra_size) & ~63ul`. -/
def alignedOf (orig : UInt64) : UInt64 := (orig + extraSize) &&& ~~~63

/-- The end of the three allocating functions: the distance to the beginning of the block is
kept in the byte before the aligned address. -/
def placeShift (orig : UInt64) (mem : Memory) : Alloc :=
  let aligned := alignedOf orig
  let shift := (aligned - orig).toUInt8
  (aligned, Function.update mem (aligned - 1) shift)

/-- `al64_calloc` (allocator.c:14-37); `calloc n` is `calloc(1u, n)`. -/
def al64Calloc (calloc : UInt64 → Alloc) (mem : Memory) (nmemb size : UInt64) : Alloc :=
  if 2 ^ 64 ≤ nmemb.toNat * size.toNat then (0, mem)
  else
    let realSize := nmemb * size
    let (orig, mem) := calloc (realSize + extraSize)
    if orig = 0 then (0, mem) else placeShift orig mem

/-- `al64_malloc` (allocator.c:40-57). -/
def al64Malloc (malloc : UInt64 → Alloc) (size : UInt64) : Alloc :=
  let (orig, mem) := malloc (size + extraSize)
  if orig = 0 then (0, mem) else placeShift orig mem

/-- The beginning of the underlying block, from the byte before the block of the user. -/
def origOf (mem : Memory) (user : UInt64) : UInt64 := user - (mem (user - 1)).toUInt64

/-- `al64_free` (allocator.c:60-71): the address given to `free`, if it is called. -/
def al64Free (mem : Memory) (user : UInt64) : Option UInt64 :=
  if user = 0 then none else some (origOf mem user)

/-- `al64_realloc` (allocator.c:74-99). -/
def al64Realloc (malloc : UInt64 → Alloc) (realloc : UInt64 → UInt64 → Alloc) (mem : Memory)
    (user newSize : UInt64) : Alloc :=
  if user = 0 then al64Malloc malloc newSize
  else
    let (orig, mem) := realloc (origOf mem user) (newSize + extraSize)
    if orig = 0 then (0, mem) else placeShift orig mem

end TeaVpn2
