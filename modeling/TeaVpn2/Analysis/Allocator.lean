import TeaVpn2.Model.Allocator
import Mathlib.Data.Nat.Bitwise

/-!
# Aligned blocks

The address of the user is `base + 64 - base % 64`: between 1 and 64 bytes behind the beginning of
the underlying block, so the byte before it and all bytes of the user lie inside a block that is
64 bytes longer than asked for. That holds as long as the length asked for, plus 64, fits into a
`size_t`; `al64_calloc` checks the product only.

The distance to the beginning depends on the base address modulo 64, and `al64_realloc` leaves the
bytes where `realloc` has put them, at the same distance from the new base as from the old one.
-/

set_option autoImplicit false

namespace TeaVpn2.Analysis

/-! ## Rounding -/

/-- INTERNAL: a mask without its `k` lowest bits rounds down to a multiple of `2 ^ k`. -/
theorem and_mask {x w k : Nat} (hk : k ≤ w) (hx : x < 2 ^ w) :
    x &&& (2 ^ w - 2 ^ k) = x / 2 ^ k * 2 ^ k := by
  have hone := Nat.one_le_two_pow (n := k)
  have hle := Nat.pow_le_pow_right (n := 2) (by omega) hk
  have hmask : 2 ^ w - 2 ^ k = 2 ^ w - (2 ^ k - 1 + 1) := by omega
  apply Nat.eq_of_testBit_eq
  intro i
  rw [Nat.testBit_and, hmask, Nat.testBit_two_pow_sub_succ (by omega), Nat.testBit_two_pow_sub_one,
    Nat.testBit_mul_two_pow, Nat.testBit_div_two_pow]
  by_cases hi : k ≤ i
  · simp only [hi, decide_true, Bool.true_and, Nat.sub_add_cancel hi]
    by_cases hw : i < w
    · simp [hw, Nat.not_lt.mpr hi]
    · have hbig : x < 2 ^ i :=
        Nat.lt_of_lt_of_le hx (Nat.pow_le_pow_right (by omega) (Nat.not_lt.mp hw))
      simp [hw, Nat.testBit_lt_two_pow hbig]
  · simp [hi, Nat.lt_of_not_le hi]

theorem toNat_roundDown (x : UInt64) : (x &&& ~~~63).toNat = x.toNat / 64 * 64 := by
  have hmask := and_mask (k := 6) (by omega) x.toNat_lt
  rw [UInt64.toNat_and]
  exact hmask

theorem toNat_add_extraSize (x : UInt64) : (x + extraSize).toNat = (x.toNat + 64) % 2 ^ 64 := by
  rw [UInt64.toNat_add]
  rfl

/-- The distance of the user's bytes from the beginning of the block. -/
def shiftOf (base : UInt64) : Nat := 64 - base.toNat % 64

theorem shiftOf_pos (base : UInt64) : 1 ≤ shiftOf base ∧ shiftOf base ≤ 64 := by
  unfold shiftOf
  omega

/-- INTERNAL: an address that is not `NULL` is the rounded one, without wrapping around. -/
theorem toNat_alignedOf {base : UInt64} (h : alignedOf base ≠ 0) :
    base.toNat + 64 < 2 ^ 64 ∧ (alignedOf base).toNat = base.toNat + shiftOf base := by
  have hlt := base.toNat_lt
  have hval : (alignedOf base).toNat = (base.toNat + 64) % 2 ^ 64 / 64 * 64 := by
    rw [alignedOf, toNat_roundDown, toNat_add_extraSize]
  by_cases hfit : base.toNat + 64 < 2 ^ 64
  · refine ⟨hfit, ?_⟩
    rw [hval, Nat.mod_eq_of_lt hfit]
    unfold shiftOf
    omega
  · exfalso
    apply h
    apply UInt64.toNat_inj.mp
    rw [hval]
    show _ = 0
    omega

theorem alignedOf_ne_zero {base : UInt64} (h : base.toNat + 64 < 2 ^ 64) : alignedOf base ≠ 0 := by
  intro hzero
  have hval : (alignedOf base).toNat = (base.toNat + 64) % 2 ^ 64 / 64 * 64 := by
    rw [alignedOf, toNat_roundDown, toNat_add_extraSize]
  rw [hzero, Nat.mod_eq_of_lt h] at hval
  simp only [UInt64.toNat_zero] at hval
  omega

/-- INTERNAL: an aligned address is a multiple of 64. -/
theorem alignedOf_dvd (base : UInt64) : (alignedOf base).toNat % 64 = 0 := by
  rw [alignedOf, toNat_roundDown]
  omega

/-! ## The byte before the block -/

section Shift

variable {base : UInt64}

theorem toNat_shift (h : alignedOf base ≠ 0) : (alignedOf base - base).toNat = shiftOf base := by
  obtain ⟨hfit, hval⟩ := toNat_alignedOf h
  have hle : base ≤ alignedOf base := by
    rw [UInt64.le_iff_toNat_le, hval]
    omega
  rw [UInt64.toNat_sub_of_le _ _ hle, hval]
  omega

theorem toNat_shiftByte (h : alignedOf base ≠ 0) :
    (alignedOf base - base).toUInt8.toNat = shiftOf base := by
  have hle := (shiftOf_pos base).2
  rw [UInt64.toNat_toUInt8, toNat_shift h]
  omega

/-- INTERNAL: the byte leads back to the beginning of the block. -/
theorem origOf_eq {mem : Memory} (h : alignedOf base ≠ 0)
    (hbyte : mem (alignedOf base - 1) = (alignedOf base - base).toUInt8) :
    origOf mem (alignedOf base) = base := by
  have hshift : (alignedOf base - base).toUInt8.toUInt64 = alignedOf base - base := by
    apply UInt64.toNat_inj.mp
    rw [UInt8.toNat_toUInt64, toNat_shiftByte h, toNat_shift h]
  rw [origOf, hbyte, hshift]
  grind

end Shift

/-! ## Blocks are real -/

/-- The block `p` of `n` bytes inside the `len` bytes at `base`: `p` is aligned, the byte before
it and all its bytes (without wrapping around) are inside, the distance to `base` is stored in
that byte, and as long as the byte is not overwritten `al64_free` gives `base` to `free`. -/
structure RealBlock (base len : UInt64) (n : Nat) (p : UInt64) (mem : Memory) : Prop where
  aligned : p.toNat % 64 = 0
  header_inside : base.toNat + 1 ≤ p.toNat ∧ p.toNat ≤ base.toNat + len.toNat
  bytes_inside : p.toNat + n ≤ base.toNat + len.toNat
  shift_eq : base.toNat + (mem (p - 1)).toNat = p.toNat
  shift_range : 1 ≤ (mem (p - 1)).toNat ∧ (mem (p - 1)).toNat ≤ 64
  freed : ∀ mem', mem' (p - 1) = mem (p - 1) → al64Free mem' p = some base

/-- The `len` bytes at `base` do not wrap the address space around. -/
def Placed (base len : UInt64) : Prop := base.toNat + len.toNat ≤ 2 ^ 64

/-- INTERNAL: **a placed block is real exactly when the length has not wrapped around.** -/
theorem placeShift_real_iff {base len : UInt64} {n : Nat} (mem : Memory) (hn : n < 2 ^ 64)
    (hlen : len.toNat = (n + 64) % 2 ^ 64) (hplaced : Placed base len)
    (hne : (placeShift base mem).1 ≠ 0) :
    RealBlock base len n (placeShift base mem).1 (placeShift base mem).2 ↔ n + 64 < 2 ^ 64 := by
  have hne : alignedOf base ≠ 0 := hne
  obtain ⟨hfit, hval⟩ := toNat_alignedOf hne
  obtain ⟨hpos, hle⟩ := shiftOf_pos base
  unfold Placed at hplaced
  have hbyte : (placeShift base mem).2 (alignedOf base - 1) = (alignedOf base - base).toUInt8 := by
    simp [placeShift]
  have hbyteVal := toNat_shiftByte hne
  constructor
  · intro hreal
    -- a wrapped length leaves less than 64 bytes for almost the whole address space
    by_contra hwrap
    have hinside := hreal.bytes_inside
    simp only [placeShift] at hinside
    omega
  · intro hroom
    rw [Nat.mod_eq_of_lt hroom] at hlen
    refine ⟨alignedOf_dvd base, ?_, ?_, ?_, ?_, ?_⟩
    · show _ ≤ (alignedOf base).toNat ∧ (alignedOf base).toNat ≤ _
      omega
    · show (alignedOf base).toNat + n ≤ _
      omega
    · show _ + ((placeShift base mem).2 (alignedOf base - 1)).toNat = (alignedOf base).toNat
      rw [hbyte, hbyteVal, hval]
    · show _ ≤ ((placeShift base mem).2 (alignedOf base - 1)).toNat ∧
        ((placeShift base mem).2 (alignedOf base - 1)).toNat ≤ _
      rw [hbyte, hbyteVal]
      exact ⟨hpos, hle⟩
    · intro mem' hsame
      have hsame : mem' (alignedOf base - 1) = (alignedOf base - base).toUInt8 := hsame.trans hbyte
      show al64Free mem' (alignedOf base) = _
      rw [al64Free, if_neg hne, origOf_eq hne hsame]

/-! ## The three functions -/

/-- INTERNAL: a block that is returned has been placed in the block of the C library. -/
theorem al64Malloc_eq {malloc : UInt64 → Alloc} {size : UInt64}
    (hne : (al64Malloc malloc size).1 ≠ 0) :
    al64Malloc malloc size =
      placeShift (malloc (size + extraSize)).1 (malloc (size + extraSize)).2 := by
  by_cases horig : (malloc (size + extraSize)).1 = 0
  · simp only [al64Malloc, horig, if_true, ne_eq, not_true] at hne
  · simp only [al64Malloc, horig, if_false]

theorem al64Calloc_eq {calloc : UInt64 → Alloc} {mem : Memory} {nmemb size : UInt64}
    (hne : (al64Calloc calloc mem nmemb size).1 ≠ 0) :
    nmemb.toNat * size.toNat < 2 ^ 64 ∧ al64Calloc calloc mem nmemb size = placeShift
      (calloc (nmemb * size + extraSize)).1 (calloc (nmemb * size + extraSize)).2 := by
  by_cases hover : 2 ^ 64 ≤ nmemb.toNat * size.toNat
  · rw [al64Calloc, if_pos hover] at hne
    exact absurd rfl hne
  · refine ⟨Nat.not_le.mp hover, ?_⟩
    by_cases horig : (calloc (nmemb * size + extraSize)).1 = 0
    · rw [al64Calloc, if_neg hover] at hne
      simp only [horig, if_true, ne_eq, not_true] at hne
    · rw [al64Calloc, if_neg hover]
      simp only [horig, if_false]

theorem al64Realloc_eq {malloc : UInt64 → Alloc} {realloc : UInt64 → UInt64 → Alloc}
    {mem : Memory} {p newSize : UInt64} (hp : p ≠ 0)
    (hne : (al64Realloc malloc realloc mem p newSize).1 ≠ 0) :
    al64Realloc malloc realloc mem p newSize =
      placeShift (realloc (origOf mem p) (newSize + extraSize)).1
        (realloc (origOf mem p) (newSize + extraSize)).2 := by
  by_cases horig : (realloc (origOf mem p) (newSize + extraSize)).1 = 0
  · simp only [al64Realloc, if_neg hp, horig, if_true, ne_eq, not_true] at hne
  · simp only [al64Realloc, if_neg hp, horig, if_false]

/-- INTERNAL: **when aligned blocks are real.** For every request and every place where the
C library puts a block of the length it is asked for: a block that is returned is
aligned, inside and can be freed exactly when the size, plus the 64 bytes of room, fits into
64 bits.
SOURCE: allocator.c:14-71 -/
theorem al64_blocks_real_iff (calloc malloc : UInt64 → Alloc) :
    (∀ (mem : Memory) (nmemb size : UInt64),
      Placed (calloc (nmemb * size + extraSize)).1 (nmemb * size + extraSize) →
      (al64Calloc calloc mem nmemb size).1 ≠ 0 →
        (RealBlock (calloc (nmemb * size + extraSize)).1 (nmemb * size + extraSize)
          (nmemb.toNat * size.toNat) (al64Calloc calloc mem nmemb size).1
          (al64Calloc calloc mem nmemb size).2 ↔ nmemb.toNat * size.toNat + 64 < 2 ^ 64)) ∧
    ∀ size : UInt64,
      Placed (malloc (size + extraSize)).1 (size + extraSize) →
      (al64Malloc malloc size).1 ≠ 0 →
        (RealBlock (malloc (size + extraSize)).1 (size + extraSize) size.toNat
          (al64Malloc malloc size).1 (al64Malloc malloc size).2 ↔ size.toNat + 64 < 2 ^ 64) := by
  constructor
  · intro mem nmemb size hplaced hne
    obtain ⟨hlt, hrun⟩ := al64Calloc_eq hne
    rw [hrun] at hne ⊢
    apply placeShift_real_iff _ hlt _ hplaced hne
    rw [toNat_add_extraSize, UInt64.toNat_mul, Nat.mod_eq_of_lt hlt]
  · intro size hplaced hne
    have hrun := al64Malloc_eq hne
    rw [hrun] at hne ⊢
    exact placeShift_real_iff _ size.toNat_lt (toNat_add_extraSize size) hplaced hne

/-- A C library that puts every block at the address 4096. -/
def mallocAt4096 : UInt64 → Alloc := fun _ => (4096, fun _ => 0)

/-- Blocks of 100 bytes at the address 4160. -/
theorem al64_blocks_real_iff_hundred :
    (al64Malloc mallocAt4096 100).1 = 4160 ∧
      RealBlock 4096 (100 + extraSize) 100 (al64Malloc mallocAt4096 100).1
        (al64Malloc mallocAt4096 100).2 ∧
      RealBlock 4096 (10 * 10 + extraSize) (10 * 10) (al64Calloc mallocAt4096 (fun _ => 0) 10 10).1
        (al64Calloc mallocAt4096 (fun _ => 0) 10 10).2 := by
  have hplaced : Placed 4096 (100 + extraSize) := by
    unfold Placed
    decide
  have hiff := al64_blocks_real_iff mallocAt4096 mallocAt4096
  refine ⟨by decide, ?_, ?_⟩
  · exact (hiff.2 100 hplaced (by decide)).mpr (by decide)
  · exact (hiff.1 (fun _ => 0) 10 10 hplaced (by decide)).mpr (by decide)

/-- `al64_malloc(SIZE_MAX)` asks for 63 bytes and returns a block behind them. -/
theorem al64Malloc_wraps :
    ¬∀ (malloc : UInt64 → Alloc) (size : UInt64),
      Placed (malloc (size + extraSize)).1 (size + extraSize) → (al64Malloc malloc size).1 ≠ 0 →
        RealBlock (malloc (size + extraSize)).1 (size + extraSize) size.toNat
          (al64Malloc malloc size).1 (al64Malloc malloc size).2 := by
  intro hall
  have hreal := hall mallocAt4096 (0 - 1) (by unfold Placed; decide) (by decide)
  have hinside := hreal.bytes_inside
  revert hinside
  decide

/-! ## Live blocks -/

/-- What `realloc` does to the memory: the new block has the bytes of the old one, as far as both
reach, and the bytes outside of the two are left alone. -/
structure Resized (mem : Memory) (base len base' len' : UInt64) (mem' : Memory) : Prop where
  placed : Placed base' len'
  kept : ∀ j, j < len → j < len' → mem' (base' + j) = mem (base + j)
  frame : ∀ a, ¬a - base < len → ¬a - base' < len' → mem' a = mem a

/-- The block `p` of `size` bytes, in an underlying block at `base`, has been returned by one of
the three functions and not been freed or moved since; its user may have written everywhere but
to the byte before it. -/
inductive Live : Memory → UInt64 → UInt64 → UInt64 → Prop where
  | malloc (malloc : UInt64 → Alloc) (size : UInt64) :
      Placed (malloc (size + extraSize)).1 (size + extraSize) → (al64Malloc malloc size).1 ≠ 0 →
      Live (al64Malloc malloc size).2 (al64Malloc malloc size).1 size (malloc (size + extraSize)).1
  | calloc (calloc : UInt64 → Alloc) (mem : Memory) (nmemb size : UInt64) :
      Placed (calloc (nmemb * size + extraSize)).1 (nmemb * size + extraSize) →
      (al64Calloc calloc mem nmemb size).1 ≠ 0 →
      Live (al64Calloc calloc mem nmemb size).2 (al64Calloc calloc mem nmemb size).1 (nmemb * size)
        (calloc (nmemb * size + extraSize)).1
  | realloc {mem : Memory} {p size base : UInt64} (malloc : UInt64 → Alloc)
      (realloc : UInt64 → UInt64 → Alloc) (newSize : UInt64) : Live mem p size base →
      Resized mem base (size + extraSize) (realloc base (newSize + extraSize)).1
        (newSize + extraSize) (realloc base (newSize + extraSize)).2 →
      (al64Realloc malloc realloc mem p newSize).1 ≠ 0 →
      Live (al64Realloc malloc realloc mem p newSize).2 (al64Realloc malloc realloc mem p newSize).1
        newSize (realloc base (newSize + extraSize)).1
  | written {mem : Memory} {p size base : UInt64} (mem' : Memory) : Live mem p size base →
      mem' (p - 1) = mem (p - 1) → Live mem' p size base

/-- What is known of a live block. -/
structure Held (mem : Memory) (p size base : UInt64) : Prop where
  eq_alignedOf : p = alignedOf base
  ne_zero : p ≠ 0
  placed : Placed base (size + extraSize)
  byte : mem (p - 1) = (p - base).toUInt8

theorem held_placeShift {base size : UInt64} (mem : Memory) (hplaced : Placed base (size + extraSize))
    (hne : (placeShift base mem).1 ≠ 0) :
    Held (placeShift base mem).2 (placeShift base mem).1 size base :=
  ⟨rfl, hne, hplaced, by simp [placeShift]⟩

theorem Held.origOf_eq {mem : Memory} {p size base : UInt64} (h : Held mem p size base) :
    origOf mem p = base := by
  obtain ⟨rfl, hne, -, hbyte⟩ := h
  exact Analysis.origOf_eq hne hbyte

/-- INTERNAL: a live block has its distance stored in the byte before it. -/
theorem Live.held {mem : Memory} {p size base : UInt64} (h : Live mem p size base) :
    Held mem p size base := by
  induction h with
  | malloc malloc size hplaced hne =>
    have hrun := al64Malloc_eq hne
    rw [hrun] at hne ⊢
    exact held_placeShift _ hplaced hne
  | calloc calloc mem nmemb size hplaced hne =>
    have hrun := (al64Calloc_eq hne).2
    rw [hrun] at hne ⊢
    exact held_placeShift _ hplaced hne
  | realloc malloc realloc newSize _ hresized hne ih =>
    have hrun := al64Realloc_eq ih.ne_zero hne
    rw [ih.origOf_eq] at hrun
    rw [hrun] at hne ⊢
    exact held_placeShift _ hresized.placed hne
  | written mem' _ hsame ih => exact ⟨ih.eq_alignedOf, ih.ne_zero, ih.placed, hsame.trans ih.byte⟩

/-! ## Reallocation -/

/-- What `al64_realloc` is for: an aligned block with the old bytes, as far as both reach. -/
def KeepsContents (mem : Memory) (p size newSize : UInt64) (r : Alloc) : Prop :=
  r.1 ≠ 0 → r.1.toNat % 64 = 0 ∧ ∀ i, i < size → i < newSize → r.2 (r.1 + i) = mem (p + i)

section Realloc

variable {mem mem₂ : Memory} {p size base newSize base' : UInt64}

/-- INTERNAL: `realloc` is called for the underlying block, and the new block is placed in its
result. -/
theorem Held.realloc_eq (h : Held mem p size base) (malloc : UInt64 → Alloc)
    {realloc : UInt64 → UInt64 → Alloc} (hbase : base' ≠ 0)
    (hreply : realloc base (newSize + extraSize) = (base', mem₂)) :
    al64Realloc malloc realloc mem p newSize = placeShift base' mem₂ := by
  simp only [al64Realloc, if_neg h.ne_zero, h.origOf_eq, hreply, if_neg hbase]

theorem toNat_offset (hne : alignedOf base ≠ 0) {i : UInt64}
    (hi : shiftOf base + i.toNat < 2 ^ 64) :
    (alignedOf base + i - base).toNat = shiftOf base + i.toNat := by
  have hsplit : alignedOf base + i - base = (alignedOf base - base) + i := by grind
  rw [hsplit, UInt64.toNat_add, toNat_shift hne, Nat.mod_eq_of_lt hi]

/-- INTERNAL: the bytes of the user are those at the same distance from the new base. -/
theorem placeShift_byte (mem : Memory) {i : UInt64} (hi : i.toNat + 1 < 2 ^ 64) :
    (placeShift base' mem).2 (alignedOf base' + i) = mem (alignedOf base' + i) := by
  apply Function.update_of_ne
  intro heq
  have hone : i + 1 = 0 := by grind
  have hval := congrArg UInt64.toNat hone
  rw [UInt64.toNat_add] at hval
  simp only [UInt64.reduceToNat] at hval
  omega

/-- INTERNAL: if the distances are the same and the bytes lie in the old block, they are kept. -/
theorem keepsContents_of_same_shift (h : Held mem p size base)
    (hnew : newSize.toNat + 64 < 2 ^ 64)
    (hresized : Resized mem base (size + extraSize) base' (newSize + extraSize) mem₂)
    (hshift : shiftOf base = shiftOf base')
    (hinside : shiftOf base + min size.toNat newSize.toNat ≤ (size + extraSize).toNat) :
    KeepsContents mem p size newSize (placeShift base' mem₂) := by
  intro hne
  have hne : alignedOf base' ≠ 0 := hne
  obtain ⟨rfl, hp, -, -⟩ := h
  refine ⟨alignedOf_dvd base', fun i hi hi' => ?_⟩
  rw [UInt64.lt_iff_toNat_lt] at hi hi'
  have hle := (shiftOf_pos base').2
  have hoff' := toNat_offset hne (i := i) (by omega)
  have hoff := toNat_offset hp (i := i) (by omega)
  have hlen' := toNat_add_extraSize newSize
  rw [Nat.mod_eq_of_lt hnew] at hlen'
  -- the distance of the byte from both bases
  have hsame : alignedOf base' + i - base' = alignedOf base + i - base := by
    apply UInt64.toNat_inj.mp
    rw [hoff, hoff', hshift]
  show (placeShift base' mem₂).2 (alignedOf base' + i) = mem (alignedOf base + i)
  rw [placeShift_byte mem₂ (by omega)]
  have hkept := hresized.kept (alignedOf base' + i - base')
    (by rw [UInt64.lt_iff_toNat_lt, hoff']; omega) (by rw [UInt64.lt_iff_toNat_lt, hoff']; omega)
  rw [show base' + (alignedOf base' + i - base') = alignedOf base' + i by grind, hsame,
    show base + (alignedOf base + i - base) = alignedOf base + i by grind] at hkept
  exact hkept

/-- The memory after `realloc` has copied everything. -/
def copied (mem : Memory) (base base' len' : UInt64) : Memory :=
  fun a => if a - base' < len' then mem (base + (a - base')) else mem a

theorem resized_copied (hplaced : Placed base' (newSize + extraSize)) :
    Resized mem base (size + extraSize) base' (newSize + extraSize)
      (copied mem base base' (newSize + extraSize)) := by
  refine ⟨hplaced, ?_, ?_⟩
  · intro j _ hj
    have hsub : base' + j - base' = j := by grind
    simp only [copied, hsub, hj, if_true]
  · intro a _ ha
    simp only [copied, ha, if_false]

/-- INTERNAL: other bytes may stand where the user looks if the distances differ. -/
theorem loses_of_shift_ne (hlive : Live mem p size base) (hplaced : Placed base' (newSize + extraSize))
    (hnew : newSize.toNat + 64 < 2 ^ 64) (hne : alignedOf base' ≠ 0) (hsize : size ≠ 0)
    (hnewSize : newSize ≠ 0) (hshift : shiftOf base ≠ shiftOf base') :
    ∃ mem₁ mem₂, Live mem₁ p size base ∧
      Resized mem₁ base (size + extraSize) base' (newSize + extraSize) mem₂ ∧
      ¬KeepsContents mem₁ p size newSize (placeShift base' mem₂) := by
  obtain ⟨heq, hp, -, -⟩ := hlive.held
  have hlen' := toNat_add_extraSize newSize
  rw [Nat.mod_eq_of_lt hnew] at hlen'
  have hle := (shiftOf_pos base').2
  have hoff' := toNat_shift hne
  -- the byte that ends up at the beginning of the new block
  set a := base + (alignedOf base' - base') with ha
  have hap : a ≠ p := by
    intro hap
    apply hshift
    have hp' : alignedOf base ≠ 0 := heq ▸ hp
    rw [← hoff', ← toNat_shift hp', ← heq, ← hap, ha]
    congr 1
    grind
  set mem₁ := Function.update mem p (mem a + 1) with hmem₁
  have hlive₁ : Live mem₁ p size base := by
    apply Live.written mem₁ hlive
    apply Function.update_of_ne
    grind
  refine ⟨mem₁, copied mem₁ base base' (newSize + extraSize), hlive₁, resized_copied hplaced, ?_⟩
  intro hkeeps
  have hfirst := (hkeeps hne).2 0 (UInt64.pos_iff_ne_zero.mpr hsize)
    (UInt64.pos_iff_ne_zero.mpr hnewSize)
  have hin : alignedOf base' - base' < newSize + extraSize := by
    have hnewSize' : newSize.toNat ≠ 0 := fun e => hnewSize (UInt64.toNat_inj.mp e)
    rw [UInt64.lt_iff_toNat_lt, hoff']
    omega
  have hread : (placeShift base' (copied mem₁ base base' (newSize + extraSize))).2
      (alignedOf base' + 0) = mem a := by
    rw [placeShift_byte _ (by decide), UInt64.add_zero]
    simp only [copied, hin, if_true]
    exact Function.update_of_ne hap _ _
  have hold : mem₁ (p + 0) = mem a + 1 := by
    rw [UInt64.add_zero, hmem₁]
    exact Function.update_self _ _ _
  have hclash : mem a = mem a + 1 := hread.symm.trans (hfirst.trans hold)
  grind

/-- INTERNAL: nothing is known of the bytes behind the end of the old block. -/
theorem loses_of_outside (hlive : Live mem p size base) (hplaced : Placed base' (newSize + extraSize))
    (hnew : newSize.toNat + 64 < 2 ^ 64) (hne : alignedOf base' ≠ 0)
    (hshift : shiftOf base = shiftOf base')
    (hout : (size + extraSize).toNat < shiftOf base + min size.toNat newSize.toNat)
    (hpos : 0 < min size.toNat newSize.toNat) :
    ∃ mem₁ mem₂, Live mem₁ p size base ∧
      Resized mem₁ base (size + extraSize) base' (newSize + extraSize) mem₂ ∧
      ¬KeepsContents mem₁ p size newSize (placeShift base' mem₂) := by
  have hlen' := toNat_add_extraSize newSize
  rw [Nat.mod_eq_of_lt hnew] at hlen'
  have hle := (shiftOf_pos base').2
  -- the first byte of the user that is outside
  set i : UInt64 := UInt64.ofNat ((size + extraSize).toNat - shiftOf base) with hi
  have hival : i.toNat = (size + extraSize).toNat - shiftOf base := by
    have := (size + extraSize).toNat_lt
    rw [hi, UInt64.toNat_ofNat_of_lt' (by simp only [UInt64.size]; omega)]
  have hoff := toNat_offset hne (i := i) (by omega)
  set mem₂ := Function.update (copied mem base base' (newSize + extraSize)) (alignedOf base' + i)
    (mem (p + i) + 1) with hmem₂
  have hcopy : ∀ b, b ≠ alignedOf base' + i →
      mem₂ b = copied mem base base' (newSize + extraSize) b :=
    fun b hb => Function.update_of_ne hb _ _
  have hresized : Resized mem base (size + extraSize) base' (newSize + extraSize) mem₂ := by
    have hcopied : Resized mem base (size + extraSize) base' (newSize + extraSize)
        (copied mem base base' (newSize + extraSize)) := resized_copied hplaced
    refine ⟨hplaced, ?_, ?_⟩
    · intro j hj hj'
      rw [hcopy _ _]
      · exact hcopied.kept j hj hj'
      · intro heq
        have hjval : j = alignedOf base' + i - base' := by grind
        rw [UInt64.lt_iff_toNat_lt, hjval, hoff] at hj
        omega
    · intro b hb hb'
      rw [hcopy _ _]
      · exact hcopied.frame b hb hb'
      · rintro rfl
        apply hb'
        rw [UInt64.lt_iff_toNat_lt, hoff]
        omega
  refine ⟨mem, mem₂, hlive, hresized, fun hkeeps => ?_⟩
  have hbyte := (hkeeps hne).2 i (by rw [UInt64.lt_iff_toNat_lt]; omega)
    (by rw [UInt64.lt_iff_toNat_lt]; omega)
  have hread : (placeShift base' mem₂).2 (alignedOf base' + i) = mem (p + i) + 1 := by
    rw [placeShift_byte mem₂ (by omega), hmem₂]
    exact Function.update_self _ _ _
  have hclash : mem (p + i) + 1 = mem (p + i) := hread.symm.trans hbyte
  grind

/-- INTERNAL: **when a reallocation keeps the contents.** For every live block, new size and
address that `realloc` may choose: whatever the bytes are, `al64_realloc` keeps them exactly when
there are none to keep, or the new base equals the old one modulo 64 and the bytes to be
kept lie inside the old underlying block (as they always do, unless `size + 64` has wrapped
around).
SOURCE: allocator.c:40-99 -/
theorem al64Realloc_keeps_iff (hlive : Live mem p size base) (hnew : newSize.toNat + 64 < 2 ^ 64)
    (hbase : base' ≠ 0) (hplaced : Placed base' (newSize + extraSize)) (malloc : UInt64 → Alloc) :
    (∀ mem₁ mem₂ realloc, Live mem₁ p size base →
      realloc base (newSize + extraSize) = (base', mem₂) →
      Resized mem₁ base (size + extraSize) base' (newSize + extraSize) mem₂ →
        KeepsContents mem₁ p size newSize (al64Realloc malloc realloc mem₁ p newSize)) ↔
    size = 0 ∨ newSize = 0 ∨ (base.toNat % 64 = base'.toNat % 64 ∧
      shiftOf base + min size.toNat newSize.toNat ≤ (size + extraSize).toNat) := by
  have hmod : shiftOf base = shiftOf base' ↔ base.toNat % 64 = base'.toNat % 64 := by
    unfold shiftOf
    omega
  constructor
  · intro hkeeps
    by_contra hcond
    simp only [not_or, not_and] at hcond
    obtain ⟨hsize, hnewSize, hcond⟩ := hcond
    have hsize' : size.toNat ≠ 0 := fun e => hsize (UInt64.toNat_inj.mp e)
    have hnewSize' : newSize.toNat ≠ 0 := fun e => hnewSize (UInt64.toNat_inj.mp e)
    have hne : alignedOf base' ≠ 0 := by
      apply alignedOf_ne_zero
      unfold Placed at hplaced
      rw [toNat_add_extraSize, Nat.mod_eq_of_lt hnew] at hplaced
      omega
    have hloses : ∃ mem₁ mem₂, Live mem₁ p size base ∧
        Resized mem₁ base (size + extraSize) base' (newSize + extraSize) mem₂ ∧
        ¬KeepsContents mem₁ p size newSize (placeShift base' mem₂) := by
      by_cases hshift : shiftOf base = shiftOf base'
      · have hout := Nat.not_le.mp (hcond (hmod.mp hshift))
        exact loses_of_outside hlive hplaced hnew hne hshift hout (by omega)
      · exact loses_of_shift_ne hlive hplaced hnew hne hsize hnewSize hshift
    obtain ⟨mem₁, mem₂, hlive₁, hresized, hnot⟩ := hloses
    apply hnot
    have hrun : al64Realloc malloc (fun _ _ => (base', mem₂)) mem₁ p newSize =
        placeShift base' mem₂ := hlive₁.held.realloc_eq malloc hbase rfl
    rw [← hrun]
    exact hkeeps mem₁ mem₂ _ hlive₁ rfl hresized
  · intro hcond mem₁ mem₂ realloc hlive₁ hreply hresized
    rw [hlive₁.held.realloc_eq malloc hbase hreply]
    rcases hcond with rfl | rfl | ⟨hshift, hinside⟩
    · exact fun _ => ⟨alignedOf_dvd base', fun i hi => absurd hi (UInt64.not_lt_zero)⟩
    · exact fun _ => ⟨alignedOf_dvd base', fun i _ hi => absurd hi (UInt64.not_lt_zero)⟩
    · exact keepsContents_of_same_shift hlive₁.held hnew hresized (hmod.mpr hshift) hinside

end Realloc

/-- A block of one byte at the address 4160, with the value 7. -/
def oneByte : Memory := Function.update (al64Malloc mallocAt4096 1).2 4160 7

theorem live_oneByte : Live oneByte 4160 1 4096 := by
  have hnew : Live (al64Malloc mallocAt4096 1).2 (al64Malloc mallocAt4096 1).1 1 4096 :=
    Live.malloc mallocAt4096 1 (by unfold Placed; decide) (by decide)
  exact Live.written oneByte hnew (by decide)

/-- The block grows to two bytes and `realloc` moves it by a multiple of 64. -/
theorem al64Realloc_keeps_iff_page :
    KeepsContents oneByte 4160 1 2 (al64Realloc mallocAt4096
      (fun _ _ => (8192, copied oneByte 4096 8192 66)) oneByte 4160 2) := by
  have hplaced : Placed 8192 (2 + extraSize) := by
    unfold Placed
    decide
  have hnew : (2 : UInt64).toNat + 64 < 2 ^ 64 := by decide
  have hbase : (8192 : UInt64) ≠ 0 := by decide
  have hkeeps := (al64Realloc_keeps_iff live_oneByte hnew hbase hplaced mallocAt4096).mpr
    (.inr (.inr ⟨by decide, by decide⟩))
  exact hkeeps oneByte _ _ live_oneByte rfl (resized_copied hplaced)

/-- It moves to an address that is only a multiple of 16, and the byte is lost. -/
theorem al64Realloc_loses_byte :
    ¬∀ (mem : Memory) (p size base newSize : UInt64) (malloc : UInt64 → Alloc)
      (realloc : UInt64 → UInt64 → Alloc), Live mem p size base → newSize.toNat + 64 < 2 ^ 64 →
      Resized mem base (size + extraSize) (realloc base (newSize + extraSize)).1
        (newSize + extraSize) (realloc base (newSize + extraSize)).2 →
      KeepsContents mem p size newSize (al64Realloc malloc realloc mem p newSize) := by
  intro hall
  have hplaced : Placed 8208 (2 + extraSize) := by
    unfold Placed
    decide
  have hkeeps := hall oneByte 4160 1 4096 2 mallocAt4096
    (fun _ _ => (8208, copied oneByte 4096 8208 66)) live_oneByte (by decide)
    (resized_copied hplaced)
  have hbyte := (hkeeps (by decide)).2 0 (by decide) (by decide)
  revert hbyte
  decide

end TeaVpn2.Analysis
