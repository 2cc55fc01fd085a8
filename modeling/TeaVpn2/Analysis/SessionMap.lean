import TeaVpn2.Model.Session

/-!
# The loops over the session map

`MapOf m S` says that the memory `m` of the session map is a table of disjoint chains
(`Lib.Table`) in which bucket `b` holds the sessions `S b`, in order. Under it the three
loops of udp_session.c compute what one expects of lists: `lookup_udp_sess` finds the
first session with the key (`lookupLoop_eq`), an insertion appends to the bucket
(`mapInsertUdpSess_spec`), and a removal erases from it, in each of its three shapes
(`removeSessFromBkt_spec`). The fuel of the loops only has to cover the chain.
-/

set_option autoImplicit false

namespace TeaVpn2.Analysis

open TeaVpn2 TeaVpn2.Lib

/-- The head of a bucket, and the bucket of an address. -/
def root (b : UInt8 × UInt8) : BktPtr := .head b.1 b.2
def bktOf (addr : UInt32) : UInt8 × UInt8 := (byte0 addr, byte1 addr)

/-- The memory `m` holds the sessions `S b` in the chain of each bucket `b`, and every
node at or above `brk` is unallocated. -/
structure MapOf (m : SessMap) (S : UInt8 × UInt8 → List Nat)
    (chain : UInt8 × UInt8 → List BktPtr) : Prop where
  table : Table m.mem root S chain
  fresh : ∀ a, m.brk ≤ a → m.mem (.node a) = none

theorem deref_eq {m : SessMap} {p : BktPtr} {c : UdpMapBucket} (h : m.mem p = some c) :
    m.deref p = c := by
  simp [SessMap.deref, h]

/-! ## Lookup -/

/-- INTERNAL: on a chain the lookup loop returns the first session with the key.
SOURCE: udp_session.c:103-127 -/
theorem lookupLoop_vals (st : SrvUdpState) (addr : UInt32) (port : UInt16) {l : List BktPtr}
    {bkt : BktPtr} {fuel : Nat} (hl : IsChain st.sessMap.mem (some bkt) l)
    (hfuel : l.length ≤ fuel) :
    lookupLoop st addr port fuel bkt = (vals st.sessMap.mem l).findSome? fun o =>
      o.filter fun i => decide ((st.sessArr i).srcAddr = addr ∧ (st.sessArr i).srcPort = port) := by
  induction l generalizing bkt fuel with
  | nil => exact absurd rfl hl.ne_nil
  | cons p l ih =>
    obtain ⟨hp, c, hc, hnext⟩ := hl
    cases hp
    cases fuel with
    | zero => simp at hfuel
    | succ fuel =>
      rw [vals_cons hc, List.findSome?_cons]
      simp only [lookupLoop, deref_eq hc]
      cases hv : c.val with
      | none =>
        cases hn : c.next with
        | none =>
          rw [hn] at hnext
          cases l with
          | nil => rfl
          | cons q l => cases hnext.1
        | some q =>
          rw [hn] at hnext
          exact ih hnext (by simpa using hfuel)
      | some i =>
        by_cases hk : (st.sessArr i).srcAddr = addr ∧ (st.sessArr i).srcPort = port
        · simp [hk, Option.filter]
        · have hfilter : (some i).filter (fun i => decide ((st.sessArr i).srcAddr = addr ∧
              (st.sessArr i).srcPort = port)) = none := by simp [Option.filter, hk]
          rw [hfilter]
          simp only [if_neg hk]
          cases hn : c.next with
          | none =>
            rw [hn] at hnext
            cases l with
            | nil => rfl
            | cons q l => cases hnext.1
          | some q =>
            rw [hn] at hnext
            exact ih hnext (by simpa using hfuel)

/-- INTERNAL: the lookup is a search in the list of its bucket.
SOURCE: udp_session.c:103-127 -/
theorem lookupUdpSess_eq {st : SrvUdpState} {S : UInt8 × UInt8 → List Nat}
    {chain : UInt8 × UInt8 → List BktPtr} (hm : MapOf st.sessMap S chain) (addr : UInt32)
    (port : UInt16) (hlen : (S (bktOf addr)).length ≤ st.maxConn.toNat) :
    lookupUdpSess st addr port = (S (bktOf addr)).find? fun i =>
      decide ((st.sessArr i).srcAddr = addr ∧ (st.sessArr i).srcPort = port) := by
  have hfuel : (chain (bktOf addr)).length ≤ bktFuel st :=
    Nat.le_trans (hm.table.length_chain_le _) (by unfold bktFuel; omega)
  have hl := lookupLoop_vals st addr port (hm.table.isChain (bktOf addr)) hfuel
  show lookupLoop st addr port (bktFuel st) (root (bktOf addr)) = _
  rw [hl, hm.table.vals_eq]
  cases hS : S (bktOf addr) with
  | nil => rfl
  | cons v vs =>
    rw [slots, ← hS]
    generalize S (bktOf addr) = l
    induction l with
    | nil => rfl
    | cons i l ih =>
      rw [List.map_cons, List.findSome?_cons, List.find?_cons, ih]
      by_cases hk : (st.sessArr i).srcAddr = addr ∧ (st.sessArr i).srcPort = port
      · simp [hk, Option.filter]
      · simp [hk, Option.filter]

/-! ## Insertion -/

theorem lastBkt_eq {m : SessMap} {l : List BktPtr} {q bkt : BktPtr} {fuel : Nat}
    (hl : IsChain m.mem (some bkt) (l ++ [q])) (hfuel : l.length ≤ fuel) :
    lastBkt m fuel bkt = q := by
  induction l generalizing bkt fuel with
  | nil =>
    obtain ⟨hq, c, hc, hnext⟩ := hl
    cases hq
    have hnone : c.next = none := hnext
    cases fuel <;> simp [lastBkt, deref_eq hc, hnone]
  | cons p l ih =>
    obtain ⟨hp, c, hc, hnext⟩ := hl
    cases hp
    cases fuel with
    | zero => simp at hfuel
    | succ fuel =>
      cases hn : c.next with
      | none =>
        rw [hn] at hnext
        cases l <;> cases hnext.1
      | some next =>
        rw [hn] at hnext
        rw [lastBkt, deref_eq hc, hn]
        exact ih hnext (by simpa using hfuel)

/-- INTERNAL: what an insertion does to the world: it fails without touching the map, or
appends the session to its bucket, and no cell is lost.
SOURCE: udp_session.c:21-56 -/
theorem mapInsertUdpSess_tight {w : World} {S : UInt8 × UInt8 → List Nat}
    {chain : UInt8 × UInt8 → List BktPtr} (hm : MapOf w.st.sessMap S chain) (addr : UInt32)
    (sess : Nat) (hlen : (S (bktOf addr)).length ≤ w.st.maxConn.toNat) :
    (∃ mal, w.env.malloc = false :: mal ∧
      mapInsertUdpSess w addr sess = (none, { w with env := { w.env with malloc := mal } })) ∨
    ∃ mal, mal <:+ w.env.malloc ∧ ∃ m chain', mapInsertUdpSess w addr sess =
        (some sess, { w with
          st := { w.st with sessMap := m }
          env := { w.env with malloc := mal } }) ∧
      MapOf m (Function.update S (bktOf addr) (S (bktOf addr) ++ [sess])) chain' ∧
      (Tight w.st.sessMap.mem chain → Tight m.mem chain') := by
  have hroot : addrToBkt addr = root (bktOf addr) := rfl
  obtain ⟨r, hr⟩ := (hm.table.isChain (bktOf addr)).head_eq
  have hc := hm.table.isChain (bktOf addr)
  rw [hr] at hc
  obtain ⟨_, c, hcell, _⟩ := hc
  have hvals := hm.table.vals_eq (bktOf addr)
  rw [hr, vals_cons hcell] at hvals
  by_cases hS : S (bktOf addr) = []
  · -- the head of the bucket is free
    right
    have hval : c.val = none := by
      rw [hS, slots] at hvals
      exact (List.cons.inj hvals).1
    refine ⟨w.env.malloc, List.suffix_refl _,
      { w.st.sessMap with
        mem := Function.update w.st.sessMap.mem (addrToBkt addr) (some ⟨none, some sess⟩) },
      Function.update chain (bktOf addr) [root (bktOf addr)], ?_, ⟨?_, ?_⟩, ?_⟩
    · simp only [mapInsertUdpSess]
      rw [hroot, deref_eq hcell, hval]
    · rw [hS]
      exact hm.table.set_root (bktOf addr) (some sess)
    · intro a ha
      have hne : BktPtr.node a ≠ addrToBkt addr := by simp [addrToBkt]
      exact (Function.update_of_ne hne (some ⟨none, some sess⟩) w.st.sessMap.mem).trans
        (hm.fresh a ha)
    · intro ht
      have hone : r = [] := by
        rw [hS] at hvals
        exact List.map_eq_nil_iff.mp (List.cons.inj hvals).2
      rw [hone] at hr
      exact ht.write hr ⟨none, some sess⟩
  · -- a new node goes behind the last one
    obtain ⟨v, vs, hvs⟩ := List.exists_cons_of_ne_nil hS
    have hval : c.val = some v := by
      rw [hvs, slots] at hvals
      exact (List.cons.inj hvals).1
    obtain ⟨l, q, hlq⟩ : ∃ l q, chain (bktOf addr) = l ++ [q] :=
      ⟨_, _, (List.dropLast_append_getLast (hm.table.isChain _).ne_nil).symm⟩
    have hcq := hm.table.isChain (bktOf addr)
    rw [hlq] at hcq
    obtain ⟨d, hd, _⟩ := hcq.cell
    have hfuel : l.length ≤ bktFuel w.st := by
      have h₁ := hm.table.length_chain_le (bktOf addr)
      rw [hlq, List.length_append, List.length_singleton] at h₁
      unfold bktFuel
      omega
    have hlast := lastBkt_eq hcq hfuel
    have hins : ∀ ok mal, w.malloc = (ok, { w with env := { w.env with malloc := mal } }) →
        mapInsertUdpSess w addr sess = if ok then
          (some sess, { w with
            st := { w.st with
              sessMap :=
                { mem := Function.update (Function.update w.st.sessMap.mem
                    (.node w.st.sessMap.brk) (some ⟨none, some sess⟩)) q
                    (some { d with next := some (.node w.st.sessMap.brk) })
                  brk := w.st.sessMap.brk + 1 } }
            env := { w.env with malloc := mal } })
        else (none, { w with env := { w.env with malloc := mal } }) := by
      intro ok mal hmal
      simp only [mapInsertUdpSess]
      rw [hroot, deref_eq hcell, hval, hmal]
      cases ok with
      | false => rfl
      | true =>
        simp only [if_true]
        rw [hlast, deref_eq hd]
    have hnew : w.st.sessMap.mem (.node w.st.sessMap.brk) = none := hm.fresh _ (Nat.le_refl _)
    have htable : MapOf
        { mem := Function.update (Function.update w.st.sessMap.mem
            (.node w.st.sessMap.brk) (some ⟨none, some sess⟩)) q
            (some { d with next := some (.node w.st.sessMap.brk) })
          brk := w.st.sessMap.brk + 1 }
        (Function.update S (bktOf addr) (S (bktOf addr) ++ [sess]))
        (Function.update chain (bktOf addr) (l ++ [q, .node w.st.sessMap.brk])) := by
      refine ⟨hm.table.append hS hlq hd hnew sess, ?_⟩
      intro a ha
      have hqa : BktPtr.node a ≠ q := by
        rintro rfl
        have hn := hm.fresh a (by have := ha; simp only at this; omega)
        rw [hn] at hd
        cases hd
      have hba : BktPtr.node a ≠ .node w.st.sessMap.brk := by
        intro e
        have := ha
        simp only [BktPtr.node.injEq] at e this
        omega
      show Function.update (Function.update w.st.sessMap.mem _ _) q _ (BktPtr.node a) = none
      rw [Function.update_of_ne hqa, Function.update_of_ne hba]
      exact hm.fresh a (by have := ha; simp only at this; omega)
    have htight : Tight w.st.sessMap.mem chain → Tight
        (Function.update (Function.update w.st.sessMap.mem (.node w.st.sessMap.brk)
          (some ⟨none, some sess⟩)) q (some { d with next := some (.node w.st.sessMap.brk) }))
        (Function.update chain (bktOf addr) (l ++ [q, .node w.st.sessMap.brk])) :=
      fun ht => ht.link hlq _ _ _
    cases hmal : w.env.malloc with
    | nil =>
      right
      have h₁ : w.malloc = (true, { w with env := { w.env with malloc := [] } }) := by
        simp only [World.malloc, hmal]
        rw [← hmal]
      exact ⟨[], List.suffix_refl _, _, _, by rw [hins true _ h₁, if_pos rfl], htable, htight⟩
    | cons ok rest =>
      have h₁ : w.malloc = (ok, { w with env := { w.env with malloc := rest } }) := by
        simp [World.malloc, hmal]
      cases ok with
      | false => exact .inl ⟨rest, rfl, by rw [hins false _ h₁]; rfl⟩
      | true =>
        exact .inr ⟨rest, List.suffix_cons _ _, _, _, by rw [hins true _ h₁, if_pos rfl], htable,
          htight⟩

/-- INTERNAL: an insertion, as far as the sessions of the buckets go.
SOURCE: udp_session.c:21-56 -/
theorem mapInsertUdpSess_spec {w : World} {S : UInt8 × UInt8 → List Nat}
    {chain : UInt8 × UInt8 → List BktPtr} (hm : MapOf w.st.sessMap S chain) (addr : UInt32)
    (sess : Nat) (hlen : (S (bktOf addr)).length ≤ w.st.maxConn.toNat) :
    (∃ mal, w.env.malloc = false :: mal ∧
      mapInsertUdpSess w addr sess = (none, { w with env := { w.env with malloc := mal } })) ∨
    ∃ mal, mal <:+ w.env.malloc ∧ ∃ m chain', mapInsertUdpSess w addr sess =
        (some sess, { w with
          st := { w.st with sessMap := m }
          env := { w.env with malloc := mal } }) ∧
      MapOf m (Function.update S (bktOf addr) (S (bktOf addr) ++ [sess])) chain' := by
  rcases mapInsertUdpSess_tight hm addr sess hlen with hfail | ⟨mal, hmal, m, chain', heq, hm', _⟩
  · exact .inl hfail
  · exact .inr ⟨mal, hmal, m, chain', heq, hm'⟩

/-! ## Removal -/

/-- INTERNAL: the search for a bucket stops at the first cell that holds the session,
with the cell before it.
SOURCE: udp_session.c:139-147 -/
theorem findBkt_eq {m : SessMap} {s : Nat} {l r : List BktPtr} {q cur : BktPtr} {c : UdpMapBucket}
    {prev : Option BktPtr} {fuel : Nat} (hl : IsChain m.mem (some cur) (l ++ q :: r))
    (hq : m.mem q = some c) (hv : c.val = some s) (hbefore : some s ∉ vals m.mem l)
    (hfuel : l.length < fuel) :
    findBkt m s fuel prev cur = some (l.getLast?.or prev, q) := by
  induction l generalizing cur prev fuel with
  | nil =>
    obtain ⟨hcur, _⟩ := hl
    cases hcur
    cases fuel with
    | zero => simp at hfuel
    | succ fuel => simp [findBkt, deref_eq hq, hv]
  | cons p l ih =>
    obtain ⟨hp, d, hd, hnext⟩ := hl
    cases hp
    rw [vals_cons hd, List.mem_cons, not_or] at hbefore
    cases fuel with
    | zero => simp at hfuel
    | succ fuel =>
      cases hn : d.next with
      | none =>
        rw [hn] at hnext
        cases l <;> cases hnext.1
      | some next =>
        rw [hn] at hnext
        have hne : ¬ d.val = some s := fun e => hbefore.1 e.symm
        rw [findBkt, deref_eq hd, if_neg hne, hn]
        simp only
        rw [ih hnext hbefore.2 (by simpa using hfuel)]
        cases l with
        | nil => rfl
        | cons x l =>
          rw [List.getLast?_cons_cons]
          simp [List.getLast?_eq_some_getLast]

/-- INTERNAL: a removal erases the session from its bucket and returns 0, and no cell is lost. The
three cases are the three shapes of the source: the head alone, the head with a successor (which is
copied into the head and freed), and an inner node.
SOURCE: udp_session.c:130-181 -/
theorem removeSessFromBkt_tight {st : SrvUdpState} {S : UInt8 × UInt8 → List Nat}
    {chain : UInt8 × UInt8 → List BktPtr} (hm : MapOf st.sessMap S chain) {s : Nat}
    (hs : s ∈ S (bktOf (st.sessArr s).srcAddr))
    (hnd : (S (bktOf (st.sessArr s).srcAddr)).Nodup)
    (hlen : (S (bktOf (st.sessArr s).srcAddr)).length ≤ st.maxConn.toNat) :
    ∃ m chain', removeSessFromBkt st s = (0, m) ∧
      MapOf m (Function.update S (bktOf (st.sessArr s).srcAddr)
        ((S (bktOf (st.sessArr s).srcAddr)).erase s)) chain' ∧
      (Tight st.sessMap.mem chain → Tight m.mem chain') := by
  set b := bktOf (st.sessArr s).srcAddr with hb
  have hroot : addrToBkt (st.sessArr s).srcAddr = root b := rfl
  obtain ⟨xs, ys, hxy⟩ := List.append_of_mem hs
  have hsx : s ∉ xs := by
    intro hin
    rw [hxy, List.nodup_append] at hnd
    exact hnd.2.2 s hin s (by simp) rfl
  have herase : (S b).erase s = xs ++ ys := by
    rw [hxy, List.erase_append_right _ hsx, List.erase_cons_head]
  have hslots : slots (S b) = xs.map some ++ some s :: ys.map some := by
    rw [hxy, slots_of_ne_nil (by simp), List.map_append, List.map_cons]
  have hvals := hm.table.vals_eq b
  rw [hslots] at hvals
  -- the cells of the chain, split like the list
  obtain ⟨l, q, r, hchain, hlx⟩ : ∃ l q r, chain b = l ++ q :: r ∧ l.length = xs.length := by
    have hl : (chain b).length = xs.length + (ys.length + 1) := by
      have := congrArg List.length hvals
      simpa [vals] using this
    have hlt : xs.length < (chain b).length := by omega
    refine ⟨(chain b).take xs.length, (chain b)[xs.length], (chain b).drop (xs.length + 1), ?_, ?_⟩
    · rw [List.getElem_cons_drop, List.take_append_drop]
    · rw [List.length_take]
      omega
  have hc := hm.table.isChain b
  rw [hchain] at hc
  obtain ⟨c, hcq, hnext⟩ := hc.cell
  rw [hchain, vals_append, vals_cons hcq] at hvals
  obtain ⟨hvl, hvr⟩ := List.append_inj hvals (by simp [vals, hlx])
  have hcv : c.val = some s := (List.cons.inj hvr).1
  have hfind : findBkt st.sessMap s (bktFuel st) none (root b) = some (l.getLast?.or none, q) := by
    apply findBkt_eq hc hcq hcv
    · rw [hvl]
      simpa using hsx
    · have h₁ := congrArg List.length hxy
      rw [List.length_append, List.length_cons] at h₁
      unfold bktFuel
      omega
  -- the nodes above `brk` stay unallocated: only the cells of the chain are written
  have hfresh : ∀ (x y : BktPtr) (ox oy : Option UdpMapBucket), x ∈ chain b → y ∈ chain b →
      ∀ a, st.sessMap.brk ≤ a →
        Function.update (Function.update st.sessMap.mem x ox) y oy (.node a) = none := by
    intro x y ox oy hx hy a ha
    have hfr := hm.fresh a ha
    have hne : ∀ z ∈ chain b, BktPtr.node a ≠ z := by
      rintro z hz rfl
      exact (hm.table.isChain b).allocated hz hfr
    rw [Function.update_of_ne (hne y hy), Function.update_of_ne (hne x hx)]
    exact hfr
  rw [herase]
  rcases List.eq_nil_or_concat l with rfl | ⟨l', q', rfl⟩
  · -- the session is in the head
    have hqroot : q = root b := by
      have := hc.1
      simpa using this.symm
    subst hqroot
    have hxs : xs = [] := List.eq_nil_of_length_eq_zero hlx.symm
    subst hxs
    cases r with
    | nil =>
      have hnone : c.next = none := hnext
      have hys : ys = [] := by
        have := (List.cons.inj hvr).2
        simpa [vals] using this.symm
      subst hys
      refine ⟨{ st.sessMap with mem := Function.update st.sessMap.mem (root b) (some ⟨none, none⟩) },
        _, ?_, ⟨hm.table.set_root b none, ?_⟩, fun ht => ht.write hchain _⟩
      · simp only [removeSessFromBkt, hroot, hfind]
        simp [deref_eq hcq, hnone]
      · intro a ha
        have := hfresh (root b) (root b) (some ⟨none, none⟩) (some ⟨none, none⟩)
          (by simp [hchain]) (by simp [hchain]) a ha
        simpa using this
    | cons p r =>
      obtain ⟨hp, d, hd, _⟩ := hnext
      refine ⟨{ st.sessMap with
          mem := Function.update (Function.update st.sessMap.mem p none) (root b) (some d) },
        _, ?_, ⟨hm.table.shift_root hchain hd hxy, ?_⟩, fun ht => ht.free hchain d⟩
      · simp only [removeSessFromBkt, hroot, hfind]
        simp [deref_eq hcq, hp, deref_eq hd]
      · exact hfresh p (root b) none (some d) (by simp [hchain]) (by simp [hchain])
  · -- the session is in an inner node behind `q'`
    rw [List.concat_eq_append] at hchain hlx hfind hc
    have hc' : IsChain st.sessMap.mem (some (root b)) (l' ++ q' :: q :: r) := by simpa using hc
    have hchain' : chain b = l' ++ q' :: q :: r := by simpa using hchain
    obtain ⟨d, hd, _⟩ := hc'.cell
    refine ⟨{ st.sessMap with
        mem := Function.update (Function.update st.sessMap.mem q none) q'
          (some { d with next := c.next }) },
      _, ?_, ⟨hm.table.unlink hchain' hd hcq hxy (by simpa using hlx.symm), ?_⟩,
      fun ht => ht.free hchain' _⟩
    · simp only [removeSessFromBkt, hroot, hfind]
      simp [deref_eq hcq, deref_eq hd]
    · exact hfresh q q' none (some { d with next := c.next }) (by simp [hchain']) (by simp [hchain'])

/-- INTERNAL: a removal, as far as the sessions of the buckets go.
SOURCE: udp_session.c:130-181 -/
theorem removeSessFromBkt_spec {st : SrvUdpState} {S : UInt8 × UInt8 → List Nat}
    {chain : UInt8 × UInt8 → List BktPtr} (hm : MapOf st.sessMap S chain) {s : Nat}
    (hs : s ∈ S (bktOf (st.sessArr s).srcAddr))
    (hnd : (S (bktOf (st.sessArr s).srcAddr)).Nodup)
    (hlen : (S (bktOf (st.sessArr s).srcAddr)).length ≤ st.maxConn.toNat) :
    ∃ m chain', removeSessFromBkt st s = (0, m) ∧
      MapOf m (Function.update S (bktOf (st.sessArr s).srcAddr)
        ((S (bktOf (st.sessArr s).srcAddr)).erase s)) chain' := by
  obtain ⟨m, chain', heq, hm', _⟩ := removeSessFromBkt_tight hm hs hnd hlen
  exact ⟨m, chain', heq, hm'⟩

end TeaVpn2.Analysis
