import Mathlib.Data.List.Nodup
import Mathlib.Logic.Function.Basic
import Mathlib.Tactic.Common

/-!
# Chains of cells in a heap

A `Heap P V` maps pointers to cells; a cell has a link to the next cell and may hold a
value. `IsChain h o l` says that following the links from `o` visits exactly the cells
`l` and then ends. A chain is determined by its start (`IsChain.unique`), and so no
chain visits a cell twice (`IsChain.nodup`).

`Table h root S chain` is a table of chains that share no cell: the chain of bucket `b`
starts in the embedded cell `root b` and holds the values `S b`, in order. An empty
bucket is its root cell without value; a bucket that is not empty has a value in every
cell. Every update of a table goes through `Table.update_bucket`: rebuild one chain, and
leave the allocated cells of the others alone. `Tight h chain` says that no cell is lost:
every allocated cell belongs to a chain.
-/

set_option autoImplicit false

namespace TeaVpn2.Lib

/-- A cell of a linked chain. -/
structure Cell (P V : Type) where
  next : Option P
  val : Option V
deriving DecidableEq

/-- Memory: the allocated cells. -/
abbrev Heap (P V : Type) := P → Option (Cell P V)

variable {P V B : Type}

/-- Following the links from `o` visits the cells `l`, then the chain ends. -/
def IsChain (h : Heap P V) : Option P → List P → Prop
  | o, [] => o = none
  | o, p :: l => o = some p ∧ ∃ c, h p = some c ∧ IsChain h c.next l

/-- The values in a list of cells. -/
def vals (h : Heap P V) (l : List P) : List (Option V) := l.map fun p => (h p).bind Cell.val

namespace IsChain

variable {h h' : Heap P V} {o : Option P}

theorem unique {l l' : List P} (hl : IsChain h o l) (hl' : IsChain h o l') : l = l' := by
  induction l generalizing o l' with
  | nil =>
    cases l' with
    | nil => rfl
    | cons p l' =>
      have h₁ : o = none := hl
      have h₂ : o = some p := hl'.1
      rw [h₁] at h₂
      cases h₂
  | cons p l ih =>
    obtain ⟨ho, c, hc, hnext⟩ := hl
    cases l' with
    | nil =>
      have h₂ : o = none := hl'
      rw [ho] at h₂
      cases h₂
    | cons p' l' =>
      obtain ⟨ho', c', hc', hnext'⟩ := hl'
      rw [ho] at ho'
      cases ho'
      rw [hc] at hc'
      cases hc'
      rw [ih hnext hnext']

/-- INTERNAL: the rest of a chain, from any of its cells on. -/
theorem cell {l r : List P} {p : P} (hl : IsChain h o (l ++ p :: r)) :
    ∃ c, h p = some c ∧ IsChain h c.next r := by
  induction l generalizing o with
  | nil => exact hl.2
  | cons q l ih =>
    obtain ⟨_, c, _, hnext⟩ := hl
    exact ih hnext

theorem allocated {l : List P} (hl : IsChain h o l) {p : P} (hp : p ∈ l) : h p ≠ none := by
  obtain ⟨s, t, rfl⟩ := List.append_of_mem hp
  obtain ⟨c, hc, _⟩ := hl.cell
  simp [hc]

/-- INTERNAL: **a chain is acyclic.** If a cell occurred twice, the rest of the chain
behind its first occurrence would be the rest behind its second one. -/
theorem nodup {l : List P} (hl : IsChain h o l) : l.Nodup := by
  induction l generalizing o with
  | nil => exact List.nodup_nil
  | cons p l ih =>
    obtain ⟨_, c, hc, hnext⟩ := hl
    refine List.nodup_cons.mpr ⟨?_, ih hnext⟩
    intro hp
    obtain ⟨s, t, rfl⟩ := List.append_of_mem hp
    obtain ⟨c', hc', hnext'⟩ := hnext.cell
    rw [hc] at hc'
    cases hc'
    have heq := hnext.unique hnext'
    have hlen := congrArg List.length heq
    simp at hlen
    omega

theorem congr {l : List P} (hl : IsChain h o l) (hh : ∀ p ∈ l, h' p = h p) :
    IsChain h' o l := by
  induction l generalizing o with
  | nil => exact hl
  | cons p l ih =>
    obtain ⟨ho, c, hc, hnext⟩ := hl
    refine ⟨ho, c, ?_, ih hnext fun q hq => hh q (List.mem_cons_of_mem _ hq)⟩
    rw [hh p (by simp), hc]

/-- INTERNAL: redirect the link of one cell `q` of a chain: the cells before `q` are as
they were, and from `q` on the chain is the one its new link starts. -/
theorem splice {l r r' : List P} {q : P} {c : Cell P V} (hl : IsChain h o (l ++ q :: r))
    (hsame : ∀ p ∈ l, h' p = h p) (hq : h' q = some c) (hr : IsChain h' c.next r') :
    IsChain h' o (l ++ q :: r') := by
  induction l generalizing o with
  | nil => exact ⟨hl.1, c, hq, hr⟩
  | cons p l ih =>
    obtain ⟨ho, d, hd, hnext⟩ := hl
    refine ⟨ho, d, ?_, ih hnext fun x hx => hsame x (List.mem_cons_of_mem _ hx)⟩
    rw [hsame p (by simp), hd]

theorem ne_nil {p : P} {l : List P} (hl : IsChain h (some p) l) : l ≠ [] := by
  rintro rfl
  cases hl

theorem head_eq {p : P} {l : List P} (hl : IsChain h (some p) l) : ∃ r, l = p :: r := by
  cases l with
  | nil => exact absurd rfl hl.ne_nil
  | cons q r =>
    obtain ⟨hq, _⟩ := hl
    cases hq
    exact ⟨r, rfl⟩

end IsChain

theorem vals_congr {h h' : Heap P V} {l : List P} (hh : ∀ p ∈ l, h' p = h p) :
    vals h' l = vals h l := by
  unfold vals
  apply List.map_congr_left
  intro p hp
  rw [hh p hp]

@[simp] theorem vals_append (h : Heap P V) (l r : List P) :
    vals h (l ++ r) = vals h l ++ vals h r := by
  simp [vals]

theorem vals_cons {h : Heap P V} {p : P} {c : Cell P V} (hc : h p = some c) (l : List P) :
    vals h (p :: l) = c.val :: vals h l := by
  simp [vals, hc]

/-! ## Tables of chains -/

/-- What the cells of a bucket hold: an empty bucket is one cell without value. -/
def slots : List V → List (Option V)
  | [] => [none]
  | v :: vs => (v :: vs).map some

theorem slots_of_ne_nil {l : List V} (h : l ≠ []) : slots l = l.map some := by
  cases l with
  | nil => exact absurd rfl h
  | cons v vs => rfl

theorem length_slots_le (l : List V) : (slots l).length ≤ l.length + 1 := by
  cases l <;> simp [slots]

/-- A table of disjoint chains with the values `S`. -/
structure Table (h : Heap P V) (root : B → P) (S : B → List V) (chain : B → List P) : Prop where
  isChain : ∀ b, IsChain h (some (root b)) (chain b)
  disjoint : ∀ b b' p, p ∈ chain b → p ∈ chain b' → b = b'
  vals_eq : ∀ b, vals h (chain b) = slots (S b)

namespace Table

variable {h h' : Heap P V} {root : B → P} {S : B → List V} {chain : B → List P}

theorem length_chain_le (t : Table h root S chain) (b : B) :
    (chain b).length ≤ (S b).length + 1 := by
  have hlen : (vals h (chain b)).length = (chain b).length := by simp [vals]
  rw [← hlen, t.vals_eq]
  exact length_slots_le _

/-- INTERNAL: **the frame rule of a table.** Rebuilding the chain of one bucket, out of
its own cells and cells that were not allocated, changes that bucket only. -/
theorem update_bucket [DecidableEq B] (t : Table h root S chain) (b : B) {l : List P}
    {vs : List V} (hl : IsChain h' (some (root b)) l) (hv : vals h' l = slots vs)
    (hframe : ∀ p, p ∉ chain b → h p ≠ none → h' p = h p)
    (hnew : ∀ p ∈ l, p ∈ chain b ∨ h p = none) :
    Table h' root (Function.update S b vs) (Function.update chain b l) := by
  have hother : ∀ b', b' ≠ b → ∀ p ∈ chain b', h' p = h p := by
    intro b' hb p hp
    refine hframe p (fun hp' => hb (t.disjoint b' b p hp hp')) ?_
    exact (t.isChain b').allocated hp
  have hfresh : ∀ b', b' ≠ b → ∀ p ∈ chain b', p ∉ l := by
    intro b' hb p hp hpl
    rcases hnew p hpl with hin | hnone
    · exact hb (t.disjoint b' b p hp hin)
    · exact (t.isChain b').allocated hp hnone
  constructor
  · intro b'
    by_cases hb : b' = b
    · subst hb
      simpa using hl
    · simpa [hb] using (t.isChain b').congr (hother b' hb)
  · intro b₁ b₂ p h₁ h₂
    by_cases hb₁ : b₁ = b <;> by_cases hb₂ : b₂ = b
    · rw [hb₁, hb₂]
    · rw [hb₁, Function.update_self] at h₁
      rw [Function.update_of_ne hb₂] at h₂
      exact absurd h₁ (hfresh b₂ hb₂ p h₂)
    · rw [hb₂, Function.update_self] at h₂
      rw [Function.update_of_ne hb₁] at h₁
      exact absurd h₂ (hfresh b₁ hb₁ p h₁)
    · rw [Function.update_of_ne hb₁] at h₁
      rw [Function.update_of_ne hb₂] at h₂
      exact t.disjoint b₁ b₂ p h₁ h₂
  · intro b'
    by_cases hb : b' = b
    · subst hb
      simpa using hv
    · simpa [hb] using (vals_congr (hother b' hb)).trans (t.vals_eq b')

variable [DecidableEq P] [DecidableEq B]

/-- INTERNAL: reduce a bucket to its root cell, with or without a value. -/
theorem set_root (t : Table h root S chain) (b : B) (o : Option V) :
    Table (Function.update h (root b) (some ⟨none, o⟩)) root
      (Function.update S b o.toList) (Function.update chain b [root b]) := by
  have hroot : root b ∈ chain b := by
    obtain ⟨r, hr⟩ := (t.isChain b).head_eq
    simp [hr]
  apply t.update_bucket b
  · exact ⟨rfl, ⟨none, o⟩, by simp, rfl⟩
  · cases o <;> simp [vals, slots]
  · intro p hp _
    rw [Function.update_of_ne]
    rintro rfl
    exact hp hroot
  · intro p hp
    left
    rw [List.mem_singleton] at hp
    rw [hp]
    exact hroot

/-- INTERNAL: link a new cell behind the last cell `q` of a bucket that is not empty. -/
theorem append (t : Table h root S chain) {b : B} (hb : S b ≠ []) {l : List P} {q p : P}
    {c : Cell P V} (hchain : chain b = l ++ [q]) (hq : h q = some c) (hp : h p = none) (v : V) :
    Table (Function.update (Function.update h p (some ⟨none, some v⟩)) q
        (some { c with next := some p })) root
      (Function.update S b (S b ++ [v])) (Function.update chain b (l ++ [q, p])) := by
  have hc := t.isChain b
  rw [hchain] at hc
  have hqp : p ≠ q := by
    rintro rfl
    rw [hp] at hq
    cases hq
  have hql : q ∉ l := by
    have hd := hc.nodup
    rw [List.nodup_append] at hd
    intro hql
    exact hd.2.2 q hql q (by simp) rfl
  have hpl : p ∉ l := by
    intro hpl
    exact hc.allocated (List.mem_append_left _ hpl) hp
  have hsame : ∀ x ∈ l, Function.update (Function.update h p (some ⟨none, some v⟩)) q
      (some { c with next := some p }) x = h x := by
    intro x hx
    have h₁ : x ≠ q := fun e => hql (e ▸ hx)
    have h₂ : x ≠ p := fun e => hpl (e ▸ hx)
    rw [Function.update_of_ne h₁, Function.update_of_ne h₂]
  apply t.update_bucket b
  · apply hc.splice hsame (Function.update_self ..)
    exact ⟨rfl, ⟨none, some v⟩, by simp [hqp], rfl⟩
  · have hold := t.vals_eq b
    rw [hchain, vals_append, vals_cons hq, slots_of_ne_nil hb] at hold
    rw [slots_of_ne_nil (by simp), List.map_append, ← hold, vals_append, vals_congr hsame]
    simp [vals, hqp]
  · intro x hx hxn
    have h₁ : x ≠ q := by
      rintro rfl
      exact hx (by simp [hchain])
    have h₂ : x ≠ p := by
      rintro rfl
      exact hxn hp
    rw [Function.update_of_ne h₁, Function.update_of_ne h₂]
  · intro x hx
    simp only [List.mem_append, List.mem_cons, List.not_mem_nil, or_false] at hx
    rcases hx with hx | rfl | rfl
    · left; simp [hchain, hx]
    · left; simp [hchain]
    · right; exact hp

/-- INTERNAL: unlink and free the cell `p` behind the cell `q`. -/
theorem unlink (t : Table h root S chain) {b : B} {l r : List P} {q p : P} {c d : Cell P V}
    {xs ys : List V} {v : V} (hchain : chain b = l ++ q :: p :: r) (hq : h q = some c)
    (hp : h p = some d) (hS : S b = xs ++ v :: ys) (hxs : xs.length = l.length + 1) :
    Table (Function.update (Function.update h p none) q (some { c with next := d.next })) root
      (Function.update S b (xs ++ ys)) (Function.update chain b (l ++ q :: r)) := by
  have hc := t.isChain b
  rw [hchain] at hc
  have hd := hc.nodup
  rw [List.nodup_append, List.nodup_cons, List.nodup_cons] at hd
  obtain ⟨_, ⟨hq₁, hp₁, _⟩, hl₁⟩ := hd
  have hqp : p ≠ q := by
    rintro rfl
    exact hq₁ (by simp)
  have hrest : IsChain h d.next r := by
    have hc' : IsChain h (some (root b)) ((l ++ [q]) ++ p :: r) := by simpa using hc
    obtain ⟨d', hd', hnext⟩ := hc'.cell
    rw [hp] at hd'
    cases hd'
    exact hnext
  have hsame : ∀ x ∈ l ++ r, Function.update (Function.update h p none) q
      (some { c with next := d.next }) x = h x := by
    intro x hx
    rcases List.mem_append.mp hx with hx | hx
    · rw [Function.update_of_ne (hl₁ x hx q (by simp)), Function.update_of_ne (hl₁ x hx p (by simp))]
    · have h₁ : x ≠ q := by
        rintro rfl
        exact hq₁ (by simp [hx])
      have h₂ : x ≠ p := by
        rintro rfl
        exact hp₁ hx
      rw [Function.update_of_ne h₁, Function.update_of_ne h₂]
  have hold := t.vals_eq b
  rw [hchain, hS, slots_of_ne_nil (by simp), vals_append, vals_cons hq, vals_cons hp] at hold
  have hlen : (vals h l ++ [c.val]).length = (xs.map some).length := by simp [vals, hxs]
  have hsplit : vals h l ++ [c.val] = xs.map some ∧ d.val :: vals h r = some v :: ys.map some := by
    apply List.append_inj _ hlen
    simpa using hold
  apply t.update_bucket b
  · refine hc.splice (fun x hx => hsame x (List.mem_append_left _ hx))
      (Function.update_self ..) ?_
    exact hrest.congr fun x hx => hsame x (List.mem_append_right _ hx)
  · have hxs' : xs ≠ [] := by
      rintro rfl
      simp at hxs
    have hys := (List.cons.inj hsplit.2).2
    rw [slots_of_ne_nil (by simp [hxs']), vals_append,
      vals_congr fun x hx => hsame x (List.mem_append_left _ hx),
      vals_cons (Function.update_self ..),
      vals_congr fun x hx => hsame x (List.mem_append_right _ hx), hys, List.map_append,
      ← hsplit.1]
    simp
  · intro x hx _
    have h₁ : x ≠ q := by
      rintro rfl
      exact hx (by simp [hchain])
    have h₂ : x ≠ p := by
      rintro rfl
      exact hx (by simp [hchain])
    rw [Function.update_of_ne h₁, Function.update_of_ne h₂]
  · intro x hx
    left
    rw [hchain]
    simp only [List.mem_append, List.mem_cons] at hx ⊢
    tauto

/-- INTERNAL: remove the value of the root by moving its successor `p` into it and
freeing `p`. -/
theorem shift_root (t : Table h root S chain) {b : B} {r : List P} {p : P} {d : Cell P V}
    {v : V} {ys : List V} (hchain : chain b = root b :: p :: r) (hp : h p = some d)
    (hS : S b = v :: ys) :
    Table (Function.update (Function.update h p none) (root b) (some d)) root
      (Function.update S b ys) (Function.update chain b (root b :: r)) := by
  have hc := t.isChain b
  rw [hchain] at hc
  have hd := hc.nodup
  rw [List.nodup_cons, List.nodup_cons] at hd
  obtain ⟨hroot, hp₁, _⟩ := hd
  have hne : p ≠ root b := by
    rintro rfl
    exact hroot (by simp)
  have hrest : IsChain h d.next r := by
    have hc' : IsChain h (some (root b)) ([root b] ++ p :: r) := by simpa using hc
    obtain ⟨d', hd', hnext⟩ := hc'.cell
    rw [hp] at hd'
    cases hd'
    exact hnext
  have hsame : ∀ x ∈ r, Function.update (Function.update h p none) (root b) (some d) x = h x := by
    intro x hx
    have h₁ : x ≠ root b := by
      rintro rfl
      exact hroot (by simp [hx])
    have h₂ : x ≠ p := by
      rintro rfl
      exact hp₁ hx
    rw [Function.update_of_ne h₁, Function.update_of_ne h₂]
  have hold := t.vals_eq b
  obtain ⟨c, hcr, _⟩ := hc.2
  rw [hchain, hS, slots_of_ne_nil (by simp), vals_cons hcr, vals_cons hp] at hold
  have hys := (List.cons.inj hold).2
  apply t.update_bucket b
  · exact ⟨rfl, d, by simp, hrest.congr hsame⟩
  · have hne' : ys ≠ [] := by
      rintro rfl
      simp at hys
    rw [vals_cons (Function.update_self ..), vals_congr hsame, slots_of_ne_nil hne', hys]
  · intro x hx _
    have h₁ : x ≠ root b := by
      rintro rfl
      exact hx (by simp [hchain])
    have h₂ : x ≠ p := by
      rintro rfl
      exact hx (by simp [hchain])
    rw [Function.update_of_ne h₁, Function.update_of_ne h₂]
  · intro x hx
    left
    rw [hchain]
    simp only [List.mem_cons] at hx ⊢
    tauto

end Table

/-! ## No cell is lost -/

/-- Every allocated cell belongs to a chain. -/
def Tight (h : Heap P V) (chain : B → List P) : Prop := ∀ p, h p ≠ none → ∃ b, p ∈ chain b

namespace Tight

variable {h h' : Heap P V} {chain : B → List P} [DecidableEq B]

/-- INTERNAL: the chain of one bucket is rebuilt, and what it does not need any more is freed. -/
theorem update_bucket (t : Tight h chain) (b : B) {l : List P}
    (hkept : ∀ p, p ∉ l → h' p ≠ none → p ∉ chain b ∧ h p ≠ none) :
    Tight h' (Function.update chain b l) := by
  intro p hp
  by_cases hpl : p ∈ l
  · exact ⟨b, by rwa [Function.update_self]⟩
  · obtain ⟨hout, hold⟩ := hkept p hpl hp
    obtain ⟨b', hb'⟩ := t p hold
    have hne : b' ≠ b := by
      rintro rfl
      exact hout hb'
    exact ⟨b', by rwa [Function.update_of_ne hne]⟩

variable [DecidableEq P]

/-- INTERNAL: the only cell of a bucket is written. -/
theorem write (t : Tight h chain) {b : B} {p : P} (hchain : chain b = [p]) (c : Cell P V) :
    Tight (Function.update h p (some c)) (Function.update chain b [p]) := by
  refine t.update_bucket b fun x hx hx' => ?_
  have hne : x ≠ p := mt List.mem_singleton.mpr hx
  rw [Function.update_of_ne hne] at hx'
  exact ⟨hchain ▸ hx, hx'⟩

/-- INTERNAL: the cell `p` is allocated behind the last cell `q` of a bucket. -/
theorem link (t : Tight h chain) {b : B} {l : List P} {q : P} (hchain : chain b = l ++ [q]) (p : P)
    (c d : Cell P V) : Tight (Function.update (Function.update h p (some d)) q (some c))
      (Function.update chain b (l ++ [q, p])) := by
  refine t.update_bucket b fun x hx hx' => ?_
  simp only [List.mem_append, List.mem_cons, List.not_mem_nil, or_false, not_or] at hx
  obtain ⟨hxl, hxq, hxp⟩ := hx
  rw [Function.update_of_ne hxq, Function.update_of_ne hxp] at hx'
  exact ⟨by simp [hchain, hxl, hxq], hx'⟩

/-- INTERNAL: the cell `p` behind the cell `q` is freed. -/
theorem free (t : Tight h chain) {b : B} {l r : List P} {q p : P}
    (hchain : chain b = l ++ q :: p :: r) (c : Cell P V) :
    Tight (Function.update (Function.update h p none) q (some c))
      (Function.update chain b (l ++ q :: r)) := by
  refine t.update_bucket b fun x hx hx' => ?_
  simp only [List.mem_append, List.mem_cons, not_or] at hx
  obtain ⟨hxl, hxq, hxr⟩ := hx
  rw [Function.update_of_ne hxq] at hx'
  have hxp : x ≠ p := by
    rintro rfl
    exact hx' (Function.update_self ..)
  rw [Function.update_of_ne hxp] at hx'
  exact ⟨by simp [hchain, hxl, hxq, hxp, hxr], hx'⟩

end Tight

end TeaVpn2.Lib
