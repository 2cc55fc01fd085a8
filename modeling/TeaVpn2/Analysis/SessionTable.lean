import Mathlib.Data.List.Perm.Subperm
import TeaVpn2.Analysis.SessionMap

/-!
# The session table

`TableInv` ties the four structures that describe the sessions together: the stack of
free slots, the flags in `sess_arr`, the buckets of the session map and the counter
`n_on_sess`. It holds initially (`initState_tableInv`), and the three locked sections of
udp_session.c have one specification each under it: `lookupUdpSess_eq_some`,
`createUdpSess_spec` and `deleteUdpSession_spec`. The last two give the new world as a
record, so that a caller can read off what has not changed.
-/

set_option autoImplicit false

namespace TeaVpn2.Analysis

open TeaVpn2 TeaVpn2.Lib

/-- The slots on the free stack, top first. -/
def freeSlots (st : SrvUdpState) : List Nat := st.sessStk.contents.map UInt16.toNat

/-- INTERNAL: the consistency of the session table. -/
structure TableInv (st : SrvUdpState) : Prop where
  stk_wf : st.sessStk.Wf
  stk_max : st.sessStk.maxSp = st.maxConn
  free_nodup : (freeSlots st).Nodup
  mem_free : ∀ i, i ∈ freeSlots st ↔ i < st.maxConn.toNat ∧ (st.sessArr i).isConnected = false
  connected_lt : ∀ i, (st.sessArr i).isConnected = true → i < st.maxConn.toNat
  idx_eq : ∀ i, i < st.maxConn.toNat → (st.sessArr i).idx = UInt16.ofNat i
  count : st.nOnSess.toNat + (freeSlots st).length = st.maxConn.toNat
  key_inj : ∀ i j, (st.sessArr i).isConnected = true → (st.sessArr j).isConnected = true →
    (st.sessArr i).key = (st.sessArr j).key → i = j
  map : ∃ S chain, MapOf st.sessMap S chain ∧ (∀ b, (S b).Nodup) ∧
    ∀ b i, i ∈ S b ↔ (st.sessArr i).isConnected = true ∧ bktOf (st.sessArr i).srcAddr = b

/-- No session is open for the endpoint `k`. -/
def Absent (st : SrvUdpState) (k : Endpoint) : Prop :=
  ∀ i, (st.sessArr i).isConnected = true → (st.sessArr i).key ≠ k

/-- INTERNAL: an endpoint without a session had none before the slot `i` changed either, if that
slot was not its session. -/
theorem Absent.of_update {st st' : SrvUdpState} {k : Endpoint} (h : Absent st' k) (i : Nat)
    (hrest : ∀ j, j ≠ i → st'.sessArr j = st.sessArr j)
    (hi : (st.sessArr i).isConnected = true → (st.sessArr i).key ≠ k) : Absent st k := by
  intro j hj
  by_cases hji : j = i
  · subst hji
    exact hi hj
  · have hj' := h j
    rw [hrest j hji] at hj'
    exact hj' hj

theorem toNat_ofNat_slot (st : SrvUdpState) {i : Nat} (h : i < st.maxConn.toNat) :
    (UInt16.ofNat i).toNat = i :=
  UInt16.toNat_ofNat_of_lt' (Nat.lt_trans h st.maxConn.toNat_lt)

namespace TableInv

variable {st : SrvUdpState}

theorem length_bucket_le (h : TableInv st) {S : UInt8 × UInt8 → List Nat}
    (hnd : ∀ b, (S b).Nodup)
    (hS : ∀ b i, i ∈ S b ↔ (st.sessArr i).isConnected = true ∧ bktOf (st.sessArr i).srcAddr = b)
    (b : UInt8 × UInt8) : (S b).length ≤ st.maxConn.toNat := by
  have hsub : S b ⊆ List.range st.maxConn.toNat := by
    intro i hi
    exact List.mem_range.mpr (h.connected_lt i ((hS b i).mp hi).1)
  simpa using (List.subperm_of_subset (hnd b) hsub).length_le

/-- INTERNAL: `n_on_sess` counts the connected slots. The free slots and the connected
ones partition the array, so both sides are `max_conn` less the free slots. -/
theorem nOnSess_eq (h : TableInv st) :
    st.nOnSess.toNat =
      (List.range st.maxConn.toNat).countP fun i => (st.sessArr i).isConnected := by
  have hperm : (freeSlots st).Perm
      ((List.range st.maxConn.toNat).filter fun i => !(st.sessArr i).isConnected) := by
    apply (List.perm_ext_iff_of_nodup h.free_nodup (List.nodup_range.filter _)).mpr
    intro i
    rw [h.mem_free, List.mem_filter, List.mem_range]
    simp
  have hfree := hperm.length_eq
  rw [← List.countP_eq_length_filter] at hfree
  have hsplit := List.length_eq_countP_add_countP
    (fun i => (st.sessArr i).isConnected) (l := List.range st.maxConn.toNat)
  have hcount := h.count
  simp only [List.length_range] at hsplit
  have hneg : (List.range st.maxConn.toNat).countP (fun a => decide ¬(st.sessArr a).isConnected = true)
      = (List.range st.maxConn.toNat).countP fun i => !(st.sessArr i).isConnected := by
    congr 1
    funext i
    cases (st.sessArr i).isConnected <;> rfl
  omega

/-- INTERNAL: `TableInv` reads five fields of the state. -/
theorem congr {st' : SrvUdpState} (h : TableInv st) (hmax : st'.maxConn = st.maxConn)
    (hstk : st'.sessStk = st.sessStk) (hmap : st'.sessMap = st.sessMap)
    (harr : ∀ i, (st'.sessArr i).isConnected = (st.sessArr i).isConnected ∧
      (st'.sessArr i).idx = (st.sessArr i).idx ∧ (st'.sessArr i).srcAddr = (st.sessArr i).srcAddr ∧
      (st'.sessArr i).srcPort = (st.sessArr i).srcPort)
    (hn : st'.nOnSess = st.nOnSess) : TableInv st' := by
  have hc : ∀ i, (st'.sessArr i).isConnected = (st.sessArr i).isConnected := fun i => (harr i).1
  have ha : ∀ i, (st'.sessArr i).srcAddr = (st.sessArr i).srcAddr := fun i => (harr i).2.2.1
  have hkey : ∀ i, (st'.sessArr i).key = (st.sessArr i).key := by
    intro i
    simp [UdpSess.key, (harr i).2.2.1, (harr i).2.2.2]
  have hfree : freeSlots st' = freeSlots st := by simp [freeSlots, hstk]
  refine ⟨?_, ?_, ?_, ?_, ?_, ?_, ?_, ?_, ?_⟩
  · rw [hstk]; exact h.stk_wf
  · rw [hstk, hmax]; exact h.stk_max
  · rw [hfree]; exact h.free_nodup
  · intro i
    rw [hfree, hmax, hc]
    exact h.mem_free i
  · intro i
    rw [hc, hmax]
    exact h.connected_lt i
  · intro i
    rw [hmax, (harr i).2.1]
    exact h.idx_eq i
  · rw [hn, hfree, hmax]; exact h.count
  · intro i j
    rw [hc, hc, hkey, hkey]
    exact h.key_inj i j
  · rw [hmap]
    obtain ⟨S, chain, hm, hnd, hS⟩ := h.map
    refine ⟨S, chain, hm, hnd, fun b i => ?_⟩
    rw [hc, ha]
    exact hS b i

end TableInv

/-! ## The three locked sections -/

/-- INTERNAL: **lookup is exact**: it returns the open session with the key.
SOURCE: udp_session.c:103-127 -/
theorem lookupUdpSess_eq_some {st : SrvUdpState} (h : TableInv st) (k : Endpoint) (i : Nat) :
    lookupUdpSess st k.addr k.port = some i ↔
      (st.sessArr i).isConnected = true ∧ (st.sessArr i).key = k := by
  obtain ⟨S, chain, hm, hnd, hS⟩ := h.map
  rw [lookupUdpSess_eq hm k.addr k.port (h.length_bucket_le hnd hS _)]
  have hkey : ∀ j, ((st.sessArr j).srcAddr = k.addr ∧ (st.sessArr j).srcPort = k.port) ↔
      (st.sessArr j).key = k := by
    intro j
    cases k
    simp [UdpSess.key]
  constructor
  · intro hf
    have hp := List.find?_some hf
    have hin := (hS _ i).mp (List.mem_of_find?_eq_some hf)
    exact ⟨hin.1, (hkey i).mp (by simpa using hp)⟩
  · rintro ⟨hc, hk⟩
    have hin : i ∈ S (bktOf k.addr) := by
      refine (hS _ i).mpr ⟨hc, ?_⟩
      rw [← hk]
      rfl
    -- the search succeeds, and what it finds has the same key
    cases hf : (S (bktOf k.addr)).find? fun j =>
        decide ((st.sessArr j).srcAddr = k.addr ∧ (st.sessArr j).srcPort = k.port) with
    | none =>
      rw [List.find?_eq_none] at hf
      exact absurd ((hkey i).mpr hk) (by simpa using hf i hin)
    | some j =>
      have hj := (hS _ j).mp (List.mem_of_find?_eq_some hf)
      have hkj := (hkey j).mp (by simpa using List.find?_some hf)
      rw [h.key_inj i j hc hj.1 (by rw [hk, hkj])]

theorem lookupUdpSess_eq_none {st : SrvUdpState} (h : TableInv st) (k : Endpoint) :
    lookupUdpSess st k.addr k.port = none ↔ Absent st k := by
  constructor
  · intro hn i hc hk
    rw [(lookupUdpSess_eq_some h k i).mpr ⟨hc, hk⟩] at hn
    cases hn
  · intro ha
    cases hl : lookupUdpSess st k.addr k.port with
    | none => rfl
    | some i =>
      obtain ⟨hc, hk⟩ := (lookupUdpSess_eq_some h k i).mp hl
      exact absurd hk (ha i hc)

/-- INTERNAL: reading the clock consumes a reading and sets at most `last_act`.
SOURCE: udp.h:370-388 -/
theorem udpSessUpdateLastAct_eq (w : World) (i : Nat) :
    ∃ gtod t, gtod <:+ w.env.gettimeofday ∧ w.udpSessUpdateLastAct i =
      { w with
        st := { w.st with
          sessArr := Function.update w.st.sessArr i { w.st.sessArr i with lastAct := t } }
        env := { w.env with gettimeofday := gtod } } := by
  cases hg : w.env.gettimeofday with
  | nil =>
    refine ⟨[], w.env.clock, List.suffix_refl _, ?_⟩
    simp only [World.udpSessUpdateLastAct, World.getUnixTime, hg, World.setSess]
    rw [← hg]
  | cons t ts =>
    cases t with
    | none =>
      refine ⟨ts, (w.st.sessArr i).lastAct, List.suffix_cons _ _, ?_⟩
      simp [World.udpSessUpdateLastAct, World.getUnixTime, hg]
    | some t =>
      refine ⟨ts, t, List.suffix_cons _ _, ?_⟩
      simp [World.udpSessUpdateLastAct, World.getUnixTime, hg, World.setSess]

/-- What `create_udp_sess` writes into the slot. -/
def createdSess (s : UdpSess) (k : Endpoint) (t : Int) : UdpSess :=
  { s with
    srcAddr := k.addr
    srcPort := k.port
    strSrcAddr := inetNtop k.addr
    lastAct := t
    isConnected := true }

/-- INTERNAL: what popping the slot `i` leaves on the stack. -/
theorem freeSlots_pop {st : SrvUdpState} {idx : UInt16} {stk : BtStack}
    (hpop : st.sessStk.contents = idx :: stk.contents) :
    freeSlots st = idx.toNat :: stk.contents.map UInt16.toNat := by
  simp [freeSlots, hpop]

/-! What the locked sections do to the table, each as one step of the state. -/

section Table

variable {st : SrvUdpState} {i : Nat} {stk : BtStack} {S : UInt8 × UInt8 → List Nat} {m : SessMap}
  {chain : UInt8 × UInt8 → List BktPtr}

/-- INTERNAL: a free slot may carry any key. -/
theorem TableInv.rekey (h : TableInv st) (hdisc : (st.sessArr i).isConnected = false) (k : Endpoint)
    (hwf : stk.Wf) (hmax : stk.maxSp = st.maxConn)
    (hcont : stk.contents.map UInt16.toNat = freeSlots st) :
    TableInv { st with
      sessStk := stk
      sessArr := Function.update st.sessArr i
        { st.sessArr i with srcAddr := k.addr, srcPort := k.port } } := by
  have hsame : freeSlots { st with
      sessStk := stk
      sessArr := Function.update st.sessArr i
        { st.sessArr i with srcAddr := k.addr, srcPort := k.port } } = freeSlots st := hcont
  have hc : ∀ j, (Function.update st.sessArr i { st.sessArr i with
      srcAddr := k.addr, srcPort := k.port } j).isConnected = (st.sessArr j).isConnected := by
    intro j
    by_cases hj : j = i
    · subst hj; simp
    · simp [hj]
  have hne : ∀ j, (st.sessArr j).isConnected = true → j ≠ i := by
    rintro j hj rfl
    rw [hdisc] at hj
    cases hj
  obtain ⟨S, chain, hm, hnd, hS⟩ := h.map
  refine ⟨hwf, hmax, ?_, ?_, ?_, ?_, ?_, ?_, ?_⟩
  · rw [hsame]; exact h.free_nodup
  · intro j
    rw [hsame]
    simp only [hc]
    exact h.mem_free j
  · intro j hj
    simp only [hc] at hj
    exact h.connected_lt j hj
  · intro j hj
    by_cases hji : j = i
    · subst hji; simpa using h.idx_eq _ hj
    · simpa [hji] using h.idx_eq j hj
  · rw [hsame]; exact h.count
  · intro j j' hj hj' hkey
    simp only [hc] at hj hj'
    simp only [Function.update_of_ne (hne j hj), Function.update_of_ne (hne j' hj')] at hkey
    exact h.key_inj j j' hj hj' hkey
  · refine ⟨S, chain, hm, hnd, fun b j => ?_⟩
    simp only [hc]
    by_cases hji : j = i
    · subst hji
      simp [hS, hdisc]
    · rw [Function.update_of_ne hji]
      exact hS b j

/-- INTERNAL: the slot on top of the stack is opened for an endpoint without session. -/
theorem TableInv.opened (h : TableInv st) {k : Endpoint} (habs : Absent st k) (hwf : stk.Wf)
    (hmax : stk.maxSp = st.maxConn) (hfree : freeSlots st = i :: stk.contents.map UInt16.toNat)
    (hnd : ∀ b, (S b).Nodup)
    (hS : ∀ b i, i ∈ S b ↔ (st.sessArr i).isConnected = true ∧ bktOf (st.sessArr i).srcAddr = b)
    (hm : MapOf m (Function.update S (bktOf k.addr) (S (bktOf k.addr) ++ [i])) chain) (t : Int) :
    TableInv { st with
      sessStk := stk
      sessMap := m
      sessArr := Function.update st.sessArr i (createdSess (st.sessArr i) k t)
      nOnSess := st.nOnSess + 1 } := by
  have hfree' : freeSlots { st with
      sessStk := stk
      sessMap := m
      sessArr := Function.update st.sessArr i (createdSess (st.sessArr i) k t)
      nOnSess := st.nOnSess + 1 } = stk.contents.map UInt16.toNat := rfl
  obtain ⟨hlt, hdisc⟩ := (h.mem_free i).mp (by rw [hfree]; exact List.mem_cons_self)
  have hcnt := h.count
  rw [hfree, List.length_cons] at hcnt
  have hnodup := h.free_nodup
  rw [hfree, List.nodup_cons] at hnodup
  have hnOn : (st.nOnSess + 1).toNat = st.nOnSess.toNat + 1 := by
    have := st.maxConn.toNat_lt
    rw [UInt16.toNat_add]
    simp only [UInt16.reduceToNat]
    omega
  refine ⟨hwf, hmax, ?_, ?_, ?_, ?_, ?_, ?_, ?_⟩
  · rw [hfree']; exact hnodup.2
  · intro j
    rw [hfree']
    have hmem := h.mem_free j
    rw [hfree, List.mem_cons] at hmem
    by_cases hji : j = i
    · subst hji
      simp only [hnodup.1, Function.update_self, createdSess]
      simp
    · simpa [hji] using hmem
  · intro j hj
    by_cases hji : j = i
    · subst hji; exact hlt
    · simp only [Function.update_of_ne hji] at hj
      exact h.connected_lt j hj
  · intro j hj
    by_cases hji : j = i
    · subst hji; simpa [createdSess] using h.idx_eq _ hj
    · simpa [hji] using h.idx_eq j hj
  · rw [hfree', hnOn]
    show _ = st.maxConn.toNat
    omega
  · -- the new key is the only one of its kind
    intro j j' hj hj' hkey
    by_cases hji : j = i <;> by_cases hji' : j' = i
    · rw [hji, hji']
    · subst hji
      simp only [Function.update_self, Function.update_of_ne hji'] at hj' hkey
      exact absurd hkey.symm (habs j' hj')
    · subst hji'
      simp only [Function.update_self, Function.update_of_ne hji] at hj hkey
      exact absurd hkey (habs j hj)
    · simp only [Function.update_of_ne hji, Function.update_of_ne hji'] at hj hj' hkey
      exact h.key_inj j j' hj hj' hkey
  · refine ⟨_, chain, hm, ?_, ?_⟩
    · intro b
      by_cases hb : b = bktOf k.addr
      · subst hb
        rw [Function.update_self]
        refine List.nodup_append.mpr ⟨hnd _, by simp, ?_⟩
        intro j hj j' hj'
        rw [List.mem_singleton] at hj'
        rintro rfl
        subst hj'
        rw [hS, hdisc] at hj
        cases hj.1
      · rw [Function.update_of_ne hb]
        exact hnd b
    · intro b j
      have hbkt : bktOf (createdSess (st.sessArr i) k t).srcAddr = bktOf k.addr := rfl
      by_cases hb : b = bktOf k.addr
      · subst hb
        by_cases hji : j = i
        · subst hji
          simp [createdSess]
        · simp [hji, hS]
      · by_cases hji : j = i
        · subst hji
          have hb' : ¬bktOf k.addr = b := fun e => hb e.symm
          simp [hb, hS, hdisc, hbkt, hb']
        · simp [hb, hji, hS]

/-- INTERNAL: an open slot goes back on the stack and out of its bucket. -/
theorem TableInv.released (h : TableInv st) (hc : (st.sessArr i).isConnected = true) (hwf : stk.Wf)
    (hmax : stk.maxSp = st.maxConn) (hfree : stk.contents.map UInt16.toNat = i :: freeSlots st)
    (hnd : ∀ b, (S b).Nodup)
    (hS : ∀ b i, i ∈ S b ↔ (st.sessArr i).isConnected = true ∧ bktOf (st.sessArr i).srcAddr = b)
    (hm : MapOf m (Function.update S (bktOf (st.sessArr i).srcAddr)
      ((S (bktOf (st.sessArr i).srcAddr)).erase i)) chain)
    (hroom : (freeSlots st).length < st.maxConn.toNat) :
    TableInv { st with
      sessStk := stk
      sessMap := m
      sessArr := Function.update st.sessArr i (resetUdpSession (UInt16.ofNat i))
      nOnSess := st.nOnSess - 1 } := by
  have hlt := h.connected_lt i hc
  have hcnt := h.count
  have hnotfree : i ∉ freeSlots st := by
    intro hin
    rw [((h.mem_free i).mp hin).2] at hc
    cases hc
  have hfree' : freeSlots { st with
      sessStk := stk
      sessMap := m
      sessArr := Function.update st.sessArr i (resetUdpSession (UInt16.ofNat i))
      nOnSess := st.nOnSess - 1 } = i :: freeSlots st := hfree
  have hnOn : (st.nOnSess - 1).toNat = st.nOnSess.toNat - 1 := by
    have hone : (1 : UInt16) ≤ st.nOnSess := by
      rw [UInt16.le_iff_toNat_le]
      simp only [UInt16.reduceToNat]
      omega
    rw [UInt16.toNat_sub_of_le _ _ hone]
    rfl
  refine ⟨hwf, hmax, ?_, ?_, ?_, ?_, ?_, ?_, ?_⟩
  · rw [hfree']
    exact List.nodup_cons.mpr ⟨hnotfree, h.free_nodup⟩
  · intro j
    rw [hfree', List.mem_cons]
    by_cases hji : j = i
    · subst hji
      simp [resetUdpSession, hlt]
    · simpa [hji] using h.mem_free j
  · intro j hj
    by_cases hji : j = i
    · subst hji; exact hlt
    · simp only [Function.update_of_ne hji] at hj
      exact h.connected_lt j hj
  · intro j hj
    by_cases hji : j = i
    · subst hji; simp [resetUdpSession]
    · simpa [hji] using h.idx_eq j hj
  · rw [hfree', hnOn, List.length_cons]
    show _ = st.maxConn.toNat
    omega
  · have hne : ∀ j, (Function.update st.sessArr i (resetUdpSession (UInt16.ofNat i))
        j).isConnected = true → j ≠ i := by
      rintro j hj rfl
      simp [resetUdpSession] at hj
    intro j j' hj hj' hkey
    have h₁ := hne j hj
    have h₂ := hne j' hj'
    simp only [Function.update_of_ne h₁, Function.update_of_ne h₂] at hj hj' hkey
    exact h.key_inj j j' hj hj' hkey
  · refine ⟨_, chain, hm, ?_, ?_⟩
    · intro b
      by_cases hb : b = bktOf (st.sessArr i).srcAddr
      · subst hb
        rw [Function.update_self]
        exact (hnd _).erase i
      · rw [Function.update_of_ne hb]
        exact hnd b
    · intro b j
      by_cases hji : j = i
      · subst hji
        have hgone : j ∉ Function.update S (bktOf (st.sessArr j).srcAddr)
            ((S (bktOf (st.sessArr j).srcAddr)).erase j) b := by
          by_cases hb : b = bktOf (st.sessArr j).srcAddr
          · subst hb
            rw [Function.update_self]
            exact (hnd _).not_mem_erase
          · rw [Function.update_of_ne hb, hS]
            exact fun e => hb e.2.symm
        simp only [Function.update_self, resetUdpSession, Bool.false_eq_true, false_and, iff_false]
        exact hgone
      · simp only [Function.update_of_ne hji]
        rw [← hS]
        by_cases hb : b = bktOf (st.sessArr i).srcAddr
        · subst hb
          rw [Function.update_self]
          exact List.mem_erase_of_ne hji
        · rw [Function.update_of_ne hb]

end Table

/-- INTERNAL: the insertion runs with the slot popped and the key written. -/
theorem createUdpSess_of_pop {w : World} (k : Endpoint) {idx : UInt16} {stk : BtStack}
    (hpop : btStackPop w.st.sessStk = some (idx, stk)) :
    createUdpSess w k.addr k.port =
      match mapInsertUdpSess { w with
          st := { w.st with
            sessStk := stk
            sessArr := Function.update w.st.sessArr idx.toNat
              { w.st.sessArr idx.toNat with srcAddr := k.addr, srcPort := k.port } } }
        k.addr idx.toNat with
      | (none, w) => (.error ENOMEM, pushOrBug w idx)
      | (some sess, w) =>
          let w := w.setSess sess fun s => { s with strSrcAddr := inetNtop k.addr }
          let w := w.udpSessUpdateLastAct sess
          let w := w.setSess sess fun s => { s with isConnected := true }
          let w := { w with st := { w.st with nOnSess := w.st.nOnSess + 1 } }
          (.ok sess, w.emit (.create sess ⟨k.addr, k.port⟩)) := by
  simp only [createUdpSess, hpop]
  rfl

/-- INTERNAL: **the specification of `create_udp_sess`** for an endpoint without session:
the table is full; or the allocation of a map node fails and the slot goes back; or the
top of the free stack is opened.
SOURCE: udp_session.c:59-100 -/
theorem createUdpSess_spec {w : World} (h : TableInv w.st) {k : Endpoint}
    (habs : Absent w.st k) :
    (freeSlots w.st = [] ∧ createUdpSess w k.addr k.port = (.error EAGAIN, w)) ∨
    (∃ i stk mal st', w.env.malloc = false :: mal ∧ i ∈ freeSlots w.st ∧
      st' = { w.st with
        sessStk := stk
        sessArr := Function.update w.st.sessArr i
          { w.st.sessArr i with srcAddr := k.addr, srcPort := k.port } } ∧
      createUdpSess w k.addr k.port =
        (.error ENOMEM, { w with st := st', env := { w.env with malloc := mal } }) ∧
      TableInv st') ∨
    ∃ i stk m mal gtod t st', mal <:+ w.env.malloc ∧ gtod <:+ w.env.gettimeofday ∧
      i ∈ freeSlots w.st ∧
      st' = { w.st with
        sessStk := stk
        sessMap := m
        sessArr := Function.update w.st.sessArr i (createdSess (w.st.sessArr i) k t)
        nOnSess := w.st.nOnSess + 1 } ∧
      createUdpSess w k.addr k.port =
        (.ok i, { st := st'
                  env := { w.env with malloc := mal, gettimeofday := gtod }
                  log := w.log ++ [.create i k] }) ∧
      TableInv st' := by
  rcases BtStack.pop_spec h.stk_wf with ⟨hnil, hpop⟩ | ⟨idx, stk, hpop, hcont, hwf, hmax⟩
  · left
    exact ⟨by simp [freeSlots, hnil], by simp [createUdpSess, hpop]⟩
  right
  have hfree := freeSlots_pop hcont
  set i := idx.toNat with hi
  have hin : i ∈ freeSlots w.st := by simp [hfree]
  have hdisc := ((h.mem_free i).mp hin).2
  obtain ⟨S, chain, hm, hnd, hS⟩ := h.map
  have hlen := h.length_bucket_le hnd hS (bktOf k.addr)
  -- the world in which the insertion runs: popped, with the key written
  set w₁ : World := { w with
    st := { w.st with
      sessStk := stk
      sessArr := Function.update w.st.sessArr i
        { w.st.sessArr i with srcAddr := k.addr, srcPort := k.port } } } with hw₁
  have hins := mapInsertUdpSess_spec (w := w₁) hm k.addr i hlen
  have hcreate := createUdpSess_of_pop k hpop
  rw [← hi, ← hw₁] at hcreate
  have hcnt := h.count
  rw [hfree, List.length_cons] at hcnt
  rcases hins with ⟨mal, hmal, hfail⟩ | ⟨mal, hmal, m, chain', hok, hm'⟩
  · -- the allocation failed: the slot is pushed back, on a stack that has room
    left
    rw [hcreate, hfail]
    rcases BtStack.push_spec hwf idx with ⟨hfull, _⟩ | ⟨stk', hpush, hcont', hwf', hmax'⟩
    · exfalso
      rw [hmax, h.stk_max] at hfull
      rw [List.length_map] at hcnt
      omega
    refine ⟨i, stk', mal, _, hmal, hin, rfl, by simp [pushOrBug, hw₁, hpush], ?_⟩
    apply h.rekey hdisc k hwf' (by rw [hmax', hmax, h.stk_max])
    rw [hfree, hcont']
    rfl
  · -- the slot is in the map and is opened
    right
    rw [hcreate, hok]
    obtain ⟨gtod, t, hgtod, hact⟩ := udpSessUpdateLastAct_eq
      ({ w₁ with
        st := { w₁.st with sessMap := m }
        env := { w₁.env with malloc := mal } }.setSess i
          fun s => { s with strSrcAddr := inetNtop k.addr }) i
    refine ⟨i, stk, m, mal, gtod, t, _, hmal, hgtod, hin, rfl, ?_, ?_⟩
    · simp only [hact]
      simp [World.setSess, World.emit, hw₁, createdSess]
    exact h.opened habs hwf (by rw [hmax, h.stk_max]) hfree hnd hS hm' t

/-- INTERNAL: **the specification of `delete_udp_session`** on an open session: the slot is
pushed on the free stack, which has room, its bucket is unlinked and it is reset.
SOURCE: udp_session.c:184-197 -/
theorem deleteUdpSession_spec {w : World} (h : TableInv w.st) {i : Nat}
    (hc : (w.st.sessArr i).isConnected = true) :
    ∃ stk m st', freeSlots st' = i :: freeSlots w.st ∧
      st' = { w.st with
        sessStk := stk
        sessMap := m
        sessArr := Function.update w.st.sessArr i (resetUdpSession (UInt16.ofNat i))
        nOnSess := w.st.nOnSess - 1 } ∧
      deleteUdpSession w i =
        (0, { w with st := st', log := w.log ++ [.delete i (w.st.sessArr i).key] }) ∧
      TableInv st' := by
  have hlt := h.connected_lt i hc
  have hidx := h.idx_eq i hlt
  have hcnt := h.count
  have hnotfree : i ∉ freeSlots w.st := by
    intro hin
    rw [((h.mem_free i).mp hin).2] at hc
    cases hc
  -- the free stack and the slot `i` fit into the array together
  have hroom : (freeSlots w.st).length < w.st.maxConn.toNat := by
    have hsub : i :: freeSlots w.st ⊆ List.range w.st.maxConn.toNat := by
      intro j hj
      rw [List.mem_range]
      rcases List.mem_cons.mp hj with rfl | hj
      · exact hlt
      · exact ((h.mem_free j).mp hj).1
    have hle := (List.subperm_of_subset (List.nodup_cons.mpr ⟨hnotfree, h.free_nodup⟩) hsub).length_le
    rw [List.length_cons, List.length_range] at hle
    omega
  rcases BtStack.push_spec h.stk_wf (UInt16.ofNat i) with ⟨hfull, _⟩ | ⟨stk, hpush, hcont, hwf, hmax⟩
  · exfalso
    rw [h.stk_max] at hfull
    rw [freeSlots, List.length_map] at hroom
    omega
  obtain ⟨S, chain, hm, hnd, hS⟩ := h.map
  have hin : i ∈ S (bktOf (w.st.sessArr i).srcAddr) := (hS _ i).mpr ⟨hc, rfl⟩
  have hlen := h.length_bucket_le hnd hS (bktOf (w.st.sessArr i).srcAddr)
  obtain ⟨m, chain', hrem, hm'⟩ := @removeSessFromBkt_spec { w.st with sessStk := stk } S chain
    hm i hin (hnd _) hlen
  have hfree : stk.contents.map UInt16.toNat = i :: freeSlots w.st := by
    rw [hcont, List.map_cons, toNat_ofNat_slot w.st hlt]
    rfl
  refine ⟨stk, m, _, ?_, rfl, ?_, ?_⟩
  · exact hfree
  · simp only [deleteUdpSession, pushOrBug, World.sess, hidx, hpush, hrem]
    simp [World.setSess, World.emit, hidx]
  exact h.released hc hwf (by rw [hmax, h.stk_max]) hfree hnd hS hm' hroom

/-! ## The initial state -/

/-- INTERNAL: filling the stack does not panic and leaves the slots below `i`, in order.
SOURCE: server/linux/udp.c:346-369 -/
theorem fillSessionStack_spec {i : Nat} {stk : BtStack} (hwf : stk.Wf)
    (hroom : i + stk.contents.length ≤ stk.maxSp.toNat) :
    ∃ stk', fillSessionStack i stk = some stk' ∧ stk'.Wf ∧ stk'.maxSp = stk.maxSp ∧
      stk'.contents.map UInt16.toNat = List.range i ++ stk.contents.map UInt16.toNat := by
  induction i generalizing stk with
  | zero => exact ⟨stk, rfl, hwf, rfl, by simp⟩
  | succ i ih =>
    rcases BtStack.push_spec hwf (UInt16.ofNat i) with ⟨hfull, _⟩ | ⟨stk₁, hpush, hcont, hwf₁, hmax⟩
    · omega
    have hi : (UInt16.ofNat i).toNat = i := by
      have := stk.maxSp.toNat_lt
      exact UInt16.toNat_ofNat_of_lt' (by simp only [UInt16.size]; omega)
    have hroom₁ : i + stk₁.contents.length ≤ stk₁.maxSp.toNat := by
      rw [hcont, hmax, List.length_cons]
      omega
    obtain ⟨stk', hfill, hwf', hmax', hcont'⟩ := ih hwf₁ hroom₁
    refine ⟨stk', ?_, hwf', hmax'.trans hmax, ?_⟩
    · rw [fillSessionStack, hpush]
      exact hfill
    · rw [hcont', hcont, List.map_cons, hi, List.range_succ, List.append_assoc]
      rfl

theorem initUdpSessionStack_eq (maxConn : UInt16) :
    ∃ stk, initUdpSessionStack maxConn = some stk ∧ stk.Wf ∧ stk.maxSp = maxConn ∧
      stk.contents.map UInt16.toNat = List.range maxConn.toNat := by
  obtain ⟨stk, hfill, hwf, hmax, hcont⟩ :=
    fillSessionStack_spec (i := maxConn.toNat) (BtStack.init_wf maxConn)
      (by rw [BtStack.contents_init]; exact Nat.le_refl _)
  exact ⟨stk, hfill, hwf, hmax, by simpa using hcont⟩

/-- INTERNAL: the table of the initial state is consistent, with every slot free.
SOURCE: server/linux/udp.c:303-383 -/
theorem initState_tableInv (maxConn : UInt16) (dataDir : List UInt8) (o : ByteOrder) :
    TableInv (initState maxConn dataDir o) := by
  obtain ⟨stk, hstk, hwf, hmax, hcont⟩ := initUdpSessionStack_eq maxConn
  have hs : (initState maxConn dataDir o).sessStk = stk := by simp [initState, hstk]
  have hfree : freeSlots (initState maxConn dataDir o) = List.range maxConn.toNat := by
    rw [freeSlots, hs, hcont]
  have hdisc : ∀ i, ((initState maxConn dataDir o).sessArr i).isConnected = false := fun _ => rfl
  refine ⟨?_, ?_, ?_, ?_, ?_, ?_, ?_, ?_, ?_⟩
  · rw [hs]; exact hwf
  · rw [hs]; exact hmax
  · rw [hfree]; exact List.nodup_range
  · intro i
    rw [hfree, List.mem_range, hdisc]
    simp [initState]
  · intro i hi
    rw [hdisc] at hi
    cases hi
  · intro i _
    rfl
  · rw [hfree, List.length_range]
    show (0 : UInt16).toNat + maxConn.toNat = maxConn.toNat
    simp
  · intro i j hi
    rw [hdisc] at hi
    cases hi
  · refine ⟨fun _ => [], fun b => [root b], ⟨⟨?_, ?_, ?_⟩, ?_⟩, by simp, ?_⟩
    · intro b
      exact ⟨rfl, ⟨none, none⟩, rfl, rfl⟩
    · intro b b' p hp hp'
      rw [List.mem_singleton] at hp hp'
      rw [hp, root, root, BktPtr.head.injEq] at hp'
      exact Prod.ext hp'.1 hp'.2
    · intro b
      rfl
    · intro a _
      rfl
    · intro b i
      simp [hdisc]

end TeaVpn2.Analysis
