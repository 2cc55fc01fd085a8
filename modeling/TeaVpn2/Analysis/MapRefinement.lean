import TeaVpn2.Analysis.SessionTable

/-!
# The session map refines a finite map

The abstract session map is a function from endpoints to slots: creating a session adds
an entry, deleting one removes it. `TableRun` runs the locked sections of udp_session.c
beside it, in any order their callers can produce, with any pattern of collisions and
failing allocations. In every state of such a run the buckets in memory represent the
abstract map (`sessMap_refines`).
-/

set_option autoImplicit false

namespace TeaVpn2.Analysis

open TeaVpn2 TeaVpn2.Lib

/-- The abstract session map: the slot of the open session of each endpoint. -/
abbrev AbsMap := Endpoint → Option Nat

/-- The effect of `create_udp_sess` on the abstract map, given what it returned. -/
def AbsMap.afterCreate (a : AbsMap) (k : Endpoint) : Except Int Nat → AbsMap
  | .ok i => Function.update a k (some i)
  | .error _ => a

/-- The runs of the session table: `create_udp_sess` is called for an endpoint that
`lookup_udp_sess` did not find, `delete_udp_session` on an open session. -/
inductive TableRun (maxConn : UInt16) : World → AbsMap → Prop where
  | init (dataDir : List UInt8) (o : ByteOrder) (env : Env) (log : List Event) :
      TableRun maxConn ⟨initState maxConn dataDir o, env, log⟩ fun _ => none
  | create {w : World} {a : AbsMap} (k : Endpoint) : TableRun maxConn w a →
      lookupUdpSess w.st k.addr k.port = none →
      TableRun maxConn (createUdpSess w k.addr k.port).2
        (a.afterCreate k (createUdpSess w k.addr k.port).1)
  | delete {w : World} {a : AbsMap} (k : Endpoint) (i : Nat) : TableRun maxConn w a →
      a k = some i → TableRun maxConn (deleteUdpSession w i).2 (Function.update a k none)

/-- The state represents the abstract map `a`.

* `lookup`, `key`: `lookup_udp_sess` is application of `a`, and the session it returns has
  exactly the key asked for;
* `chains`: every chain is finite and visits no cell twice, and an open session occurs
  once in the chain of its own address and in no other;
* `empty_head`: a head without session has no successor. -/
structure Represents (st : SrvUdpState) (a : AbsMap) : Prop where
  lookup : ∀ k : Endpoint, lookupUdpSess st k.addr k.port = a k
  key : ∀ k i, a k = some i → (st.sessArr i).srcAddr = k.addr ∧ (st.sessArr i).srcPort = k.port
  chains : ∃ chain : UInt8 × UInt8 → List BktPtr,
    (∀ b, IsChain st.sessMap.mem (some (.head b.1 b.2)) (chain b) ∧ (chain b).Nodup) ∧
    ∀ b k i, a k = some i → (vals st.sessMap.mem (chain b)).count (some i) =
      if b = (byte0 k.addr, byte1 k.addr) then 1 else 0
  empty_head : ∀ b₀ b₁, (st.sessMap.deref (.head b₀ b₁)).val = none →
    (st.sessMap.deref (.head b₀ b₁)).next = none

/-- INTERNAL: the abstract map is the table of open sessions. -/
def AbsOf (st : SrvUdpState) (a : AbsMap) : Prop :=
  ∀ k i, a k = some i ↔ (st.sessArr i).isConnected = true ∧ (st.sessArr i).key = k

theorem AbsOf.afterCreate_ok {st st' : SrvUdpState} {a : AbsMap} {k : Endpoint} {i : Nat} {t : Int}
    (h : AbsOf st a) (hdisc : (st.sessArr i).isConnected = false) (habs : Absent st k)
    (hst : st'.sessArr = Function.update st.sessArr i (createdSess (st.sessArr i) k t)) :
    AbsOf st' (Function.update a k (some i)) := by
  intro k' j
  rw [hst]
  by_cases hk : k' = k
  · subst hk
    by_cases hj : j = i
    · subst hj
      simp [createdSess, UdpSess.key]
    · rw [Function.update_of_ne hj, Function.update_self, Option.some.injEq]
      constructor
      · rintro rfl
        exact absurd rfl hj
      · rintro ⟨hc, hkey⟩
        exact absurd hkey (habs j hc)
  · rw [Function.update_of_ne hk, h k' j]
    by_cases hj : j = i
    · subst hj
      have hk' : ¬k = k' := fun e => hk e.symm
      simp [createdSess, UdpSess.key, hdisc, hk']
    · rw [Function.update_of_ne hj]

theorem AbsOf.delete {st st' : SrvUdpState} {a : AbsMap} {k : Endpoint} {i : Nat}
    (h : AbsOf st a) (hk : a k = some i) (idx : UInt16)
    (hst : st'.sessArr = Function.update st.sessArr i (resetUdpSession idx)) :
    AbsOf st' (Function.update a k none) := by
  obtain ⟨_, hkey⟩ := (h k i).mp hk
  intro k' j
  rw [hst]
  by_cases hj : j = i
  · subst hj
    by_cases hk' : k' = k
    · subst hk'
      simp [resetUdpSession]
    · have hne : a k' ≠ some j := by
        intro e
        exact hk' (((h k' j).mp e).2.symm.trans hkey)
      simp [resetUdpSession, hk', hne]
  · rw [Function.update_of_ne hj, ← h k' j]
    by_cases hk' : k' = k
    · subst hk'
      rw [Function.update_self, hk]
      simp [Ne.symm hj]
    · rw [Function.update_of_ne hk']

/-- INTERNAL: the invariant of the runs: one step each for creation and deletion. -/
theorem TableRun.inv {maxConn : UInt16} {w : World} {a : AbsMap} (h : TableRun maxConn w a) :
    TableInv w.st ∧ AbsOf w.st a := by
  induction h with
  | init dataDir o env log =>
    refine ⟨initState_tableInv maxConn dataDir o, fun k i => ?_⟩
    simp [initState, initUdpSessionArray, resetUdpSession]
  | @create w a k _ hlook ih =>
    obtain ⟨hinv, habs⟩ := ih
    have hk := (lookupUdpSess_eq_none hinv k).mp hlook
    rcases createUdpSess_spec hinv hk with ⟨_, heq⟩ | ⟨i, stk, mal, st', _, hin, hst, heq, hinv'⟩ |
      ⟨i, stk, m, mal, gtod, t, st', _, _, hin, hst, heq, hinv'⟩
    · rw [heq]
      exact ⟨hinv, habs⟩
    · -- the key was written into a slot that stays free
      rw [heq]
      have hdisc := ((hinv.mem_free i).mp hin).2
      refine ⟨hinv', fun k' j => ?_⟩
      show a k' = some j ↔ _
      rw [habs k' j, hst]
      by_cases hj : j = i
      · subst hj
        simp [hdisc]
      · simp [hj]
    · rw [heq]
      have hdisc := ((hinv.mem_free i).mp hin).2
      exact ⟨hinv', habs.afterCreate_ok hdisc hk (t := t) (by rw [hst])⟩
  | @delete w a k i _ hk ih =>
    obtain ⟨hinv, habs⟩ := ih
    obtain ⟨stk, m, st', _, hst, heq, hinv'⟩ :=
      deleteUdpSession_spec hinv ((habs k i).mp hk).1
    rw [heq]
    exact ⟨hinv', habs.delete hk (UInt16.ofNat i) (by rw [hst])⟩

theorem count_map_some (l : List Nat) (i : Nat) : (l.map some).count (some i) = l.count i := by
  induction l with
  | nil => rfl
  | cons j l ih => simp [List.count_cons, ih]

theorem count_slots (l : List Nat) (i : Nat) : (slots l).count (some i) = l.count i := by
  cases l with
  | nil => rfl
  | cons j l => exact count_map_some (j :: l) i

theorem TableInv.represents {st : SrvUdpState} {a : AbsMap} (h : TableInv st) (ha : AbsOf st a) :
    Represents st a := by
  refine ⟨?_, ?_, ?_, ?_⟩
  · intro k
    cases hk : a k with
    | none =>
      rw [lookupUdpSess_eq_none h]
      intro i hc hkey
      rw [(ha k i).mpr ⟨hc, hkey⟩] at hk
      cases hk
    | some i => exact (lookupUdpSess_eq_some h k i).mpr ((ha k i).mp hk)
  · intro k i hk
    have hkey := ((ha k i).mp hk).2
    exact ⟨congrArg Endpoint.addr hkey, congrArg Endpoint.port hkey⟩
  · obtain ⟨S, chain, hm, hnd, hS⟩ := h.map
    refine ⟨chain, fun b => ⟨hm.table.isChain b, (hm.table.isChain b).nodup⟩, ?_⟩
    intro b k i hk
    obtain ⟨hc, hkey⟩ := (ha k i).mp hk
    have hb : bktOf (st.sessArr i).srcAddr = (byte0 k.addr, byte1 k.addr) := by
      rw [← hkey]
      rfl
    rw [hm.table.vals_eq, count_slots]
    split
    · next hbk =>
      exact List.count_eq_one_of_mem (hnd b) ((hS b i).mpr ⟨hc, hb.trans hbk.symm⟩)
    · next hbk =>
      apply List.count_eq_zero_of_not_mem
      intro hin
      exact hbk (((hS b i).mp hin).2.symm.trans hb)
  · -- an empty head is a bucket with one cell
    intro b₀ b₁ hv
    obtain ⟨S, chain, hm, hnd, hS⟩ := h.map
    obtain ⟨r, hr⟩ := (hm.table.isChain (b₀, b₁)).head_eq
    have hchain := hm.table.isChain (b₀, b₁)
    rw [hr] at hchain
    obtain ⟨_, c, hc, hnext⟩ := hchain
    have hvals := hm.table.vals_eq (b₀, b₁)
    rw [hr, vals_cons hc] at hvals
    rw [show BktPtr.head b₀ b₁ = root (b₀, b₁) from rfl, deref_eq hc] at hv ⊢
    cases hSb : S (b₀, b₁) with
    | nil =>
      rw [hSb, slots] at hvals
      have hr' : r = [] := by
        have := (List.cons.inj hvals).2
        simpa [vals] using this
      subst hr'
      exact hnext
    | cons v vs =>
      rw [hSb, slots, hv] at hvals
      cases (List.cons.inj hvals).1

/-- INTERNAL: **the buckets refine a finite map.** In every state of every run the memory
represents the abstract map, and a call of `create_udp_sess` that fails changes no lookup.
SOURCE: udp_session.c:11-197 -/
theorem sessMap_refines {maxConn : UInt16} {w : World} {a : AbsMap} (h : TableRun maxConn w a) :
    Represents w.st a ∧
    ∀ (k : Endpoint) (err : Int), lookupUdpSess w.st k.addr k.port = none →
      (createUdpSess w k.addr k.port).1 = .error err →
      ∀ k' : Endpoint, lookupUdpSess (createUdpSess w k.addr k.port).2.st k'.addr k'.port =
        lookupUdpSess w.st k'.addr k'.port := by
  obtain ⟨hinv, habs⟩ := h.inv
  have hrep := hinv.represents habs
  refine ⟨hrep, fun k err hlook herr k' => ?_⟩
  -- the failing call is itself a step of the run, and leaves the abstract map alone
  obtain ⟨hinv', habs'⟩ := (h.create k hlook).inv
  rw [herr] at habs'
  rw [(hinv'.represents habs').lookup, hrep.lookup]
  rfl

/-- Two endpoints of one bucket and a third whose node cannot be allocated; the head of
the bucket is then deleted. -/
theorem sessMap_refines_collision :
    ∃ w a, TableRun 4 w a ∧ Represents w.st a ∧ a ⟨0x0a000001, 2⟩ = some 1 ∧
      a ⟨0x0a000001, 1⟩ = none ∧ a ⟨0x0b000001, 1⟩ = none := by
  have h₀ : TableRun 4 _ _ := .init [] .little { malloc := [true, false] } []
  have h₁ := h₀.create ⟨0x0a000001, 1⟩ (by decide)
  have h₂ := h₁.create ⟨0x0a000001, 2⟩ (by decide)
  have h₃ := h₂.create ⟨0x0b000001, 1⟩ (by decide)
  have h₄ := h₃.delete ⟨0x0a000001, 1⟩ 0 (by decide)
  exact ⟨_, _, h₄, (sessMap_refines h₄).1, by decide, by decide, by decide⟩

end TeaVpn2.Analysis
