import TeaVpn2.Lib.Strip
import TeaVpn2.Model.Strtrim

/-!
# In-place trimming is exact

The two loops of `strtriml_move` are described by the three parts of the string: leading white
space, what is left, trailing white space. The first loop stops because what follows the leading
white space is not white space (if nothing is left it is the NUL); the second one stops at the last
character of what is left, so it never passes the first one.
-/

set_option autoImplicit false

namespace TeaVpn2.Analysis

open TeaVpn2.Lib

/-! ## The loops -/

/-- INTERNAL: the first loop stops at the first character that is not white space. -/
theorem leftLoop_eq {mem : List UInt8} {last str i : Nat} {c : UInt8}
    (hws : ∀ j, i ≤ j → j < str → ∃ d, mem[j]? = some d ∧ isspace d = true)
    (hc : mem[str]? = some c) (hstop : isspace c = false) (hi : i ≤ str) (hlast : str ≤ last + 1) :
    leftLoop mem last i = some (.stopped str) := by
  induction hd : str - i generalizing i with
  | zero =>
    obtain rfl : i = str := by omega
    rw [leftLoop]
    split
    · next hnone =>
      rw [hc] at hnone
      cases hnone
    · next d hd =>
      rw [hc] at hd
      cases hd
      simp [hstop]
  | succ n ih =>
    obtain ⟨d, hget, hspace⟩ := hws i (Nat.le_refl i) (by omega)
    rw [leftLoop]
    split
    · next hnone =>
      rw [hget] at hnone
      cases hnone
    · next d' hd' =>
      rw [hget] at hd'
      cases hd'
      rw [if_pos hspace, if_neg (by omega)]
      exact ih (fun j hj hlt => hws j (by omega) hlt) (by omega) (by omega)

/-- INTERNAL: the second loop stops at the last character that is not white space. -/
theorem rightLoop_eq {mem : List UInt8} {stop last : Nat} {c : UInt8}
    (hws : ∀ j, stop < j → j ≤ last → ∃ d, mem[j]? = some d ∧ isspace d = true)
    (hc : mem[stop]? = some c) (hstop : isspace c = false) (hle : stop ≤ last) :
    rightLoop mem last = some stop := by
  induction last with
  | zero =>
    obtain rfl : stop = 0 := by omega
    simp [rightLoop, hc, hstop]
  | succ last ih =>
    by_cases heq : stop = last + 1
    · subst heq
      simp [rightLoop, hc, hstop]
    · obtain ⟨d, hget, hspace⟩ := hws (last + 1) (by omega) (Nat.le_refl _)
      rw [rightLoop, hget, Option.bind_some, if_pos hspace]
      exact ih (fun j hj hle' => hws j hj (by omega)) (by omega)

/-! ## The array -/

theorem isspace_zero : isspace 0 = false := by decide

theorem strlenAt_eq {s : List UInt8} (h : (0 : UInt8) ∉ s) (rest : List UInt8) :
    strlenAt (s ++ 0 :: rest) = some s.length := by
  rw [strlenAt, if_pos (by simp), cstr_append_of_not_mem h]
  simp [cstr]

/-- INTERNAL: a string of white space becomes empty. -/
theorem strtrimlMove_spaces {a : List UInt8} (rest : List UInt8)
    (ha : ∀ x ∈ a, isspace x = true) (hne : a ≠ []) :
    strtrimlMove (a ++ 0 :: rest) a.length = some (0 :: (a ++ 0 :: rest).drop 1) := by
  have hpos : 0 < a.length := List.length_pos_iff.mpr hne
  have hend : (a ++ 0 :: rest)[a.length]? = some 0 := by simp
  have hleft : leftLoop (a ++ 0 :: rest) (a.length - 1) 0 = some (.stopped a.length) := by
    apply leftLoop_eq _ hend isspace_zero (Nat.zero_le _) (by omega)
    intro j _ hj
    refine ⟨a[j], ?_, ha _ (List.getElem_mem hj)⟩
    rw [List.getElem?_append_left hj, List.getElem?_eq_getElem hj]
  have hlast : a.length = a.length - 1 + 1 := by omega
  rw [strtrimlMove, if_neg (by omega)]
  simp only [hleft, Option.bind_eq_bind, Option.bind_some, hend]
  rw [if_pos ⟨trivial, hlast⟩, storeAt, if_pos (by simp only [List.length_append]; omega)]
  obtain ⟨x, t, rfl⟩ := List.exists_cons_of_ne_nil hne
  rfl

/-- INTERNAL: **what is left of a string with other characters** is moved to the front and
terminated; the bytes behind the new NUL are the old ones.
SOURCE: net/linux/iface.c:31-76 -/
theorem strtrimlMove_parts {a v b : List UInt8} (rest : List UInt8)
    (ha : ∀ x ∈ a, isspace x = true) (hb : ∀ x ∈ b, isspace x = true)
    (hhead : ∃ x t, v = x :: t ∧ isspace x = false)
    (hlast : ∃ t x, v = t ++ [x] ∧ isspace x = false) (hzero : (0 : UInt8) ∉ v) :
    strtrimlMove (a ++ v ++ b ++ 0 :: rest) (a ++ v ++ b).length =
      some (v ++ 0 :: (a ++ v ++ b ++ 0 :: rest).drop (v.length + 1)) := by
  obtain ⟨x, t, hx, hxs⟩ := hhead
  obtain ⟨t', y, hy, hys⟩ := hlast
  have hlen : v.length = t'.length + 1 := by simp [hy]
  set mem := a ++ v ++ b ++ 0 :: rest with hmem
  have hmemlen : a.length + v.length + b.length + 1 ≤ mem.length := by
    simp only [hmem, List.length_append, List.length_cons]
    omega
  have hfirst : mem[a.length]? = some x := by
    simp [hmem, hx]
  have hfinal : mem[a.length + t'.length]? = some y := by
    simp [hmem, hy]
  have hleft : leftLoop mem ((a ++ v ++ b).length - 1) 0 = some (.stopped a.length) := by
    apply leftLoop_eq _ hfirst hxs (Nat.zero_le _) (by simp only [List.length_append]; omega)
    intro j _ hj
    refine ⟨a[j], ?_, ha _ (List.getElem_mem hj)⟩
    rw [hmem, List.append_assoc, List.append_assoc, List.getElem?_append_left hj,
      List.getElem?_eq_getElem hj]
  have hright : rightLoop mem ((a ++ v ++ b).length - 1) = some (a.length + t'.length) := by
    apply rightLoop_eq _ hfinal hys (by simp only [List.length_append]; omega)
    intro j hj hle
    simp only [List.length_append] at hle
    have hjb : j - (a.length + v.length) < b.length := by omega
    refine ⟨b[j - (a.length + v.length)], ?_, hb _ (List.getElem_mem hjb)⟩
    rw [hmem, List.getElem?_append_left (by simp only [List.length_append]; omega),
      List.getElem?_append_right (by simp only [List.length_append]; omega)]
    simp [hjb]
  have hx0 : x ≠ 0 := by
    rintro rfl
    exact hzero (by simp [hx])
  rw [strtrimlMove, if_neg (by simp only [List.length_append]; omega)]
  simp only [hleft, Option.bind_eq_bind, Option.bind_some, hfirst, hx0, false_and, if_false, hright]
  rw [if_neg (by omega), show a.length + t'.length + 1 - a.length = v.length by omega]
  have hfront : (mem.drop a.length).take v.length = v := by
    simp [hmem]
  have hstore : storeAt (v ++ mem.drop v.length) v.length 0 =
      some (v ++ 0 :: mem.drop (v.length + 1)) := by
    have hlt : v.length < (v ++ mem.drop v.length).length := by
      simp only [List.length_append, List.length_drop]
      omega
    rw [storeAt, if_pos hlt, List.set_append_right _ _ (Nat.le_refl _), Nat.sub_self,
      List.drop_eq_getElem_cons (by omega), List.set_cons_zero]
  split
  · rw [memmoveFront, if_pos (by omega), hfront, Option.bind_some]
    exact hstore
  · next h0 =>
    -- nothing is moved: the string already is at the front
    have hstart : v ++ mem.drop v.length = mem := by
      have ha0 : a = [] := List.length_eq_zero_iff.mp (by omega)
      simp [hmem, ha0]
    rw [hstart] at hstore
    exact hstore

/-- INTERNAL: `strtrim_move` on a string, whatever lies behind its NUL. -/
theorem strtrimMove_eq {s : List UInt8} (h : (0 : UInt8) ∉ s) :
    ∃ junk, (strip isspace s).length + junk.length = s.length ∧
      ∀ rest, strtrimMove (s ++ 0 :: rest) = some (strip isspace s ++ 0 :: junk ++ rest) := by
  obtain ⟨a, b, hs, ha, hb⟩ := eq_strip isspace s
  by_cases hv : strip isspace s = []
  · rw [hv, List.append_nil] at hs
    have hws : ∀ x ∈ s, isspace x = true := by
      intro x hx
      rw [hs, List.mem_append] at hx
      exact hx.elim (ha x) (hb x)
    cases s with
    | nil =>
      refine ⟨[], by rw [hv]; rfl, fun rest => ?_⟩
      rw [strtrimMove, strlenAt_eq h, hv]
      rfl
    | cons c s =>
      refine ⟨s ++ [0], by simp [hv], fun rest => ?_⟩
      rw [strtrimMove, strlenAt_eq h, hv]
      simpa using strtrimlMove_spaces rest hws (by simp)
  · obtain ⟨hhead, hlast⟩ := strip_ends isspace hv
    have hmem : (0 : UInt8) ∉ strip isspace s := fun h0 => h (mem_of_mem_strip isspace h0)
    have hlen : s.length = a.length + (strip isspace s).length + b.length := by
      have := congrArg List.length hs
      simpa only [List.length_append] using this
    have hvpos : 0 < (strip isspace s).length := List.length_pos_iff.mpr hv
    refine ⟨(s ++ [0]).drop ((strip isspace s).length + 1), ?_, fun rest => ?_⟩
    · simp only [List.length_drop, List.length_append, List.length_singleton]
      omega
    · have hrun := strtrimlMove_parts rest ha hb hhead hlast hmem
      rw [← hs] at hrun
      have hsplit : s ++ 0 :: rest = (s ++ [0]) ++ rest := by simp
      rw [strtrimMove, strlenAt_eq h]
      show strtrimlMove _ _ = _
      rw [hrun, hsplit, List.drop_append_of_le_length (by simp; omega)]
      simp

/-- INTERNAL: **trimming in place is exact.** On an array that holds nothing but the string and
its NUL `strtrim_move` ends without leaving the array, and the string in it then is the old one
without the white space at its ends; a second call changes nothing, and in a larger array
the bytes behind the string are neither looked at nor changed.
SOURCE: net/linux/iface.c:25-84 -/
theorem strtrimMove_exact (s : List UInt8) (h : (0 : UInt8) ∉ s) :
    ∃ mem, strtrimMove (s ++ [0]) = some mem ∧ mem.length = s.length + 1 ∧
      cstr mem = strip isspace s ∧ strtrimMove mem = some mem ∧
      ∀ rest, strtrimMove (s ++ 0 :: rest) = some (mem ++ rest) := by
  obtain ⟨junk, hlen, hrun⟩ := strtrimMove_eq h
  have hzero : (0 : UInt8) ∉ strip isspace s := fun h0 => h (mem_of_mem_strip isspace h0)
  refine ⟨strip isspace s ++ 0 :: junk, ?_, ?_, ?_, ?_, hrun⟩
  · have hexact := hrun []
    rwa [List.append_nil] at hexact
  · simp only [List.length_append, List.length_cons]
    omega
  · rw [cstr_append_of_not_mem hzero]
    simp [cstr]
  · obtain ⟨junk', hlen', hrun'⟩ := strtrimMove_eq hzero
    rw [strip_strip] at hlen' hrun'
    have hnil : junk' = [] := List.length_eq_zero_iff.mp (by omega)
    subst hnil
    simpa using hrun' junk

/-- A device name between blanks. -/
theorem strtrimMove_exact_dev :
    ∃ mem, strtrimMove (ascii " tvpn0 " ++ [0]) = some mem ∧ cstr mem = ascii "tvpn0" := by
  obtain ⟨mem, hrun, -, htext, -⟩ := strtrimMove_exact (ascii " tvpn0 ") (by decide)
  exact ⟨mem, hrun, htext.trans (by decide)⟩

end TeaVpn2.Analysis
