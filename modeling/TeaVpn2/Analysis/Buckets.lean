import Mathlib.Algebra.BigOperators.Group.Finset.Basic
import TeaVpn2.Analysis.SlotConservation

/-!
# No node of the session map is lost

The buckets of the session map are embedded in the table; a second session of a bucket gets a node
from `malloc`, which is given back when a session of the bucket ends. `NoLostBkt` says that every
allocated cell can be reached from the head of a bucket. With the table invariant it gives the
number of the nodes (`bucket_nodes`): one for every session that is not the first of its bucket.
-/

set_option autoImplicit false

namespace TeaVpn2.Analysis

open TeaVpn2 TeaVpn2.Lib

/-! ## What the locked sections do to the memory -/

/-- Every allocated cell is reached from the head of a bucket. -/
def NoLostBkt (m : SessMap) : Prop :=
  ∃ chain : UInt8 × UInt8 → List BktPtr,
    (∀ b, IsChain m.mem (some (root b)) (chain b)) ∧ Tight m.mem chain

theorem NoLostBkt.tight {m : SessMap} {S : UInt8 × UInt8 → List Nat}
    {chain : UInt8 × UInt8 → List BktPtr} (h : NoLostBkt m) (hm : MapOf m S chain) :
    Tight m.mem chain := by
  obtain ⟨chain', hchain, ht⟩ := h
  have hsame : chain' = chain := funext fun b => (hchain b).unique (hm.table.isChain b)
  rwa [hsame] at ht

theorem noLostBkt_init : NoLostBkt initUdpSessionMap := by
  refine ⟨fun b => [root b], fun b => ⟨rfl, ⟨none, none⟩, rfl, rfl⟩, ?_⟩
  intro p hp
  cases p with
  | head i j => exact ⟨(i, j), List.mem_singleton.mpr rfl⟩
  | node a => exact absurd rfl hp

/-- INTERNAL: `create_udp_sess` loses no cell, whether it succeeds or not.
SOURCE: udp_session.c:21-100 -/
theorem noLostBkt_create {w : World} (ht : TableInv w.st) (h : NoLostBkt w.st.sessMap)
    (k : Endpoint) : NoLostBkt (createUdpSess w k.addr k.port).2.st.sessMap := by
  rcases BtStack.pop_spec ht.stk_wf with ⟨_, hpop⟩ | ⟨idx, stk, hpop, _⟩
  · simp only [createUdpSess, hpop]
    exact h
  obtain ⟨S, chain, hm, hnd, hS⟩ := ht.map
  have hlen := ht.length_bucket_le hnd hS (bktOf k.addr)
  rw [createUdpSess_of_pop k hpop]
  -- the world in which the insertion runs: popped, with the key written
  set w₁ : World := { w with
    st := { w.st with
      sessStk := stk
      sessArr := Function.update w.st.sessArr idx.toNat
        { w.st.sessArr idx.toNat with srcAddr := k.addr, srcPort := k.port } } } with hw₁
  rcases mapInsertUdpSess_tight (w := w₁) hm k.addr idx.toNat hlen with
    ⟨mal, _, hfail⟩ | ⟨mal, _, m, chain', hok, hm', htight⟩
  · obtain ⟨stk', l, _, hpush⟩ := pushOrBug_eq { w₁ with env := { w₁.env with malloc := mal } } idx
    rw [hfail]
    show NoLostBkt (pushOrBug _ idx).st.sessMap
    rw [hpush]
    exact h
  · obtain ⟨gtod, t, _, hact⟩ := udpSessUpdateLastAct_eq
      ({ w₁ with
        st := { w₁.st with sessMap := m }
        env := { w₁.env with malloc := mal } }.setSess idx.toNat
          fun s => { s with strSrcAddr := inetNtop k.addr }) idx.toNat
    rw [hok]
    simp only [hact]
    exact ⟨chain', hm'.table.isChain, htight (h.tight hm)⟩

/-- INTERNAL: `delete_udp_session` loses no cell.
SOURCE: udp_session.c:130-197 -/
theorem noLostBkt_delete {w : World} (ht : TableInv w.st) (h : NoLostBkt w.st.sessMap) {i : Nat}
    (hc : (w.st.sessArr i).isConnected = true) :
    NoLostBkt (deleteUdpSession w i).2.st.sessMap := by
  obtain ⟨S, chain, hm, hnd, hS⟩ := ht.map
  have hin : i ∈ S (bktOf (w.st.sessArr i).srcAddr) := (hS _ i).mpr ⟨hc, rfl⟩
  have hlen := ht.length_bucket_le hnd hS (bktOf (w.st.sessArr i).srcAddr)
  obtain ⟨stk, l, _, hpush⟩ := pushOrBug_eq w (w.sess i).idx
  obtain ⟨m, chain', hrem, hm', htight⟩ := @removeSessFromBkt_tight { w.st with sessStk := stk } S
    chain hm i hin (hnd _) hlen
  simp only [deleteUdpSession, hpush, hrem]
  exact ⟨chain', hm'.table.isChain, htight (h.tight hm)⟩

/-- INTERNAL: no operation loses a cell. -/
theorem noLostBkt_exec {w : World} {g : Ghost} (o : Op) (hw : SlotInv w g.hold)
    (h : NoLostBkt w.st.sessMap) (hg : opGuard g o) : NoLostBkt (exec o w).2.st.sessMap := by
  cases o with
  | createUdpSess addr port => exact noLostBkt_create hw.table h ⟨addr, port⟩
  | deleteUdpSession i =>
    have hslot : g.hold.slot = some i := by
      rw [show g.hold = .closed i from hg]
      rfl
    exact noLostBkt_delete hw.table h (hw.held i hslot)
  | updateLastAct i =>
    obtain ⟨_, _, _, heq⟩ := udpSessUpdateLastAct_eq w i
    simp only [exec, heq]
    exact h
  | getUnixTime =>
    obtain ⟨_, _, heq⟩ := getUnixTime_eq w
    simp only [exec, heq]
    exact h
  | send i data =>
    obtain ⟨_, _, _, _, _, _, _, heq⟩ := sendToClient_spec w i data
    simp only [exec, heq]
    exact h
  | writeTun i data =>
    obtain ⟨_, _, _, _, _, _, _, heq⟩ := writeTun_spec w i data
    simp only [exec, heq]
    exact h
  | _ => exact h

theorem step_noLostBkt {s : Server} {env : Env} (i : Input) (hs : Server.SlotInv s)
    (henv : env.NoEbadmsg) (h : NoLostBkt s.st.sessMap) : NoLostBkt (s.step env i).st.sessMap := by
  have hstart : (startWorld s env i).st = s.st := by
    cases i <;> rfl
  obtain ⟨_, _, _, _, hend⟩ := step_inv (i := i)
    (fun w g => SlotInv w g.hold ∧ NoLostBkt w.st.sessMap)
    (fun w g o hw hg => by
      obtain ⟨hok, hnext⟩ := slotInv_exec o hw.1 hg
      exact ⟨hok, hnext, noLostBkt_exec o hw.1 hw.2 hg⟩)
    ⟨(hs env henv).start i, by rw [hstart]; exact h⟩
  exact hend

/-! ## Counting the nodes -/

/-- The nodes that `malloc` has given and `free` has not got back. -/
def liveNodes (m : SessMap) : Finset Nat := (Finset.range m.brk).filter fun a => (m.mem (.node a)).isSome

/-- The slots of the open sessions. -/
def openSlots (st : SrvUdpState) : Finset Nat :=
  (Finset.range st.maxConn.toNat).filter fun i => (st.sessArr i).isConnected

/-- The buckets of the open sessions: the first two bytes of their addresses. -/
def openBkts (st : SrvUdpState) : Finset (UInt8 × UInt8) :=
  (openSlots st).image fun i => bktOf (st.sessArr i).srcAddr

theorem mem_openSlots {st : SrvUdpState} (h : TableInv st) {i : Nat} :
    i ∈ openSlots st ↔ (st.sessArr i).isConnected = true := by
  rw [openSlots, Finset.mem_filter, Finset.mem_range]
  exact ⟨And.right, fun hc => ⟨h.connected_lt i hc, hc⟩⟩

theorem card_openSlots {st : SrvUdpState} (h : TableInv st) : (openSlots st).card = st.nOnSess.toNat := by
  have hlist : openSlots st =
      ((List.range st.maxConn.toNat).filter fun i => (st.sessArr i).isConnected).toFinset := by
    ext i
    rw [openSlots, Finset.mem_filter, Finset.mem_range, List.mem_toFinset, List.mem_filter,
      List.mem_range]
  rw [h.nOnSess_eq, List.countP_eq_length_filter, hlist,
    List.toFinset_card_of_nodup (List.nodup_range.filter _)]

section Nodes

variable {st : SrvUdpState} {S : UInt8 × UInt8 → List Nat} {chain : UInt8 × UInt8 → List BktPtr}

theorem mem_liveNodes {m : SessMap} (hm : MapOf m S chain) {a : Nat} :
    a ∈ liveNodes m ↔ m.mem (.node a) ≠ none := by
  rw [liveNodes, Finset.mem_filter, Finset.mem_range, Option.isSome_iff_ne_none]
  refine ⟨And.right, fun ha => ⟨?_, ha⟩⟩
  by_contra hge
  exact ha (hm.fresh a (by omega))

/-- INTERNAL: behind the head of a bucket there are nodes only. -/
theorem chain_tail_node {m : SessMap} (hm : MapOf m S chain) {b : UInt8 × UInt8} {r : List BktPtr}
    (hr : chain b = root b :: r) {p : BktPtr} (hp : p ∈ r) : ∃ a, p = .node a := by
  cases p with
  | node a => exact ⟨a, rfl⟩
  | head i j =>
    exfalso
    have hin : BktPtr.head i j ∈ chain b := by
      rw [hr]
      exact List.mem_cons_of_mem _ hp
    obtain ⟨r', hr'⟩ := (hm.table.isChain (i, j)).head_eq
    have hroot : BktPtr.head i j ∈ chain (i, j) := by
      rw [hr']
      exact List.mem_cons_self
    have hb := hm.table.disjoint b (i, j) _ hin hroot
    have hnd := (hm.table.isChain b).nodup
    rw [hr] at hnd
    subst hb
    exact (List.nodup_cons.mp hnd).1 hp

/-- INTERNAL: a cell with a session is in the chain of the bucket of the session. -/
theorem mem_chain_of_val {m : SessMap} (hm : MapOf m S chain) (ht : Tight m.mem chain) {p : BktPtr}
    {i : Nat} (hp : (m.deref p).val = some i) : ∃ b, p ∈ chain b ∧ i ∈ S b := by
  cases hcell : m.mem p with
  | none =>
    rw [SessMap.deref, hcell] at hp
    cases hp
  | some c =>
    obtain ⟨b, hb⟩ := ht p (by rw [hcell]; exact Option.some_ne_none c)
    have hval : some i ∈ slots (S b) := by
      rw [← hm.table.vals_eq b, ← hp, deref_eq hcell]
      exact List.mem_map.mpr ⟨p, hb, by rw [hcell]; rfl⟩
    refine ⟨b, hb, ?_⟩
    cases hS : S b with
    | nil =>
      rw [hS] at hval
      cases List.mem_singleton.mp hval
    | cons v vs =>
      rw [hS, slots] at hval
      exact (List.mem_map_of_injective (Option.some_injective _)).mp hval

/-- INTERNAL: a session of a bucket is in exactly one cell of all. -/
theorem existsUnique_cell {m : SessMap} (hm : MapOf m S chain) (ht : Tight m.mem chain)
    (hnd : ∀ b, (S b).Nodup) (hdisj : ∀ b b' i, i ∈ S b → i ∈ S b' → b = b') {b : UInt8 × UInt8}
    {i : Nat} (hi : i ∈ S b) : ∃! p, (m.deref p).val = some i := by
  have hvals : vals m.mem (chain b) = (S b).map some := by
    rw [hm.table.vals_eq, slots_of_ne_nil (List.ne_nil_of_mem hi)]
  have hderef : ∀ p ∈ chain b, (m.mem p).bind Cell.val = (m.deref p).val := by
    intro p hp
    obtain ⟨c, hc⟩ := Option.ne_none_iff_exists'.mp ((hm.table.isChain b).allocated hp)
    rw [deref_eq hc, hc]
    rfl
  have hin : some i ∈ vals m.mem (chain b) := by
    rw [hvals]
    exact List.mem_map_of_mem hi
  obtain ⟨p, hp, hpi⟩ := List.mem_map.mp hin
  refine ⟨p, (hderef p hp).symm.trans hpi, fun q hq => ?_⟩
  obtain ⟨b', hqb, hiq⟩ := mem_chain_of_val hm ht hq
  rw [hdisj b' b i hiq hi] at hqb
  have hnodup : (vals m.mem (chain b)).Nodup := by
    rw [hvals]
    exact (hnd b).map (Option.some_injective _)
  exact List.inj_on_of_nodup_map hnodup hqb hp (by rw [hderef q hqb, hpi, hq])

/-- The bucket of the session in a node. -/
def bktOfNode (st : SrvUdpState) (a : Nat) : UInt8 × UInt8 :=
  bktOf (st.sessArr ((st.sessMap.deref (.node a)).val.getD 0)).srcAddr

/-- INTERNAL: a node in the chain of a bucket holds a session of the bucket. -/
theorem val_of_node {m : SessMap} (hm : MapOf m S chain) {b : UInt8 × UInt8} {a : Nat}
    (ha : .node a ∈ chain b) : ∃ i ∈ S b, (m.deref (.node a)).val = some i := by
  obtain ⟨c, hc⟩ := Option.ne_none_iff_exists'.mp ((hm.table.isChain b).allocated ha)
  have hval : c.val ∈ slots (S b) := by
    rw [← hm.table.vals_eq b]
    exact List.mem_map.mpr ⟨.node a, ha, by rw [hc]; rfl⟩
  have hne : S b ≠ [] := by
    -- the only cell of an empty bucket is its head
    intro hnil
    obtain ⟨r, hr⟩ := (hm.table.isChain b).head_eq
    have hlen := congrArg List.length (hm.table.vals_eq b)
    rw [hnil, hr] at hlen
    have hrnil : r = [] := List.eq_nil_of_length_eq_zero (by simpa [vals, slots] using hlen)
    rw [hr, hrnil] at ha
    exact BktPtr.noConfusion (List.mem_singleton.mp ha)
  rw [slots_of_ne_nil hne] at hval
  obtain ⟨i, hi, hci⟩ := List.mem_map.mp hval
  exact ⟨i, hi, by rw [deref_eq hc, hci]⟩

theorem bktOfNode_eq (hm : MapOf st.sessMap S chain)
    (hS : ∀ b i, i ∈ S b ↔ (st.sessArr i).isConnected = true ∧ bktOf (st.sessArr i).srcAddr = b)
    {b : UInt8 × UInt8} {a : Nat} (ha : .node a ∈ chain b) : bktOfNode st a = b := by
  obtain ⟨i, hi, hval⟩ := val_of_node hm ha
  rw [bktOfNode, hval]
  exact ((hS b i).mp hi).2

/-- INTERNAL: a bucket with sessions has one node less than sessions. -/
theorem card_nodes_bucket (hm : MapOf st.sessMap S chain) (ht : Tight st.sessMap.mem chain)
    (hS : ∀ b i, i ∈ S b ↔ (st.sessArr i).isConnected = true ∧ bktOf (st.sessArr i).srcAddr = b)
    {b : UInt8 × UInt8} (hb : S b ≠ []) :
    ((liveNodes st.sessMap).filter fun a => bktOfNode st a = b).card + 1 = (S b).length := by
  obtain ⟨r, hr⟩ := (hm.table.isChain b).head_eq
  have hlen : r.length + 1 = (S b).length := by
    have hvals := congrArg List.length (hm.table.vals_eq b)
    rw [hr, slots_of_ne_nil hb] at hvals
    simpa [vals] using hvals
  have himage : ((liveNodes st.sessMap).filter fun a => bktOfNode st a = b).image BktPtr.node =
      r.toFinset := by
    ext p
    rw [Finset.mem_image, List.mem_toFinset]
    constructor
    · rintro ⟨a, ha, rfl⟩
      obtain ⟨hlive, hbkt⟩ := Finset.mem_filter.mp ha
      obtain ⟨b', hb'⟩ := ht _ ((mem_liveNodes hm).mp hlive)
      have hsame : b' = b := (bktOfNode_eq hm hS hb').symm.trans hbkt
      rw [hsame, hr] at hb'
      exact (List.mem_cons.mp hb').resolve_left (by simp [root])
    · intro hp
      obtain ⟨a, rfl⟩ := chain_tail_node hm hr hp
      have hin : BktPtr.node a ∈ chain b := by
        rw [hr]
        exact List.mem_cons_of_mem _ hp
      refine ⟨a, Finset.mem_filter.mpr ⟨?_, bktOfNode_eq hm hS hin⟩, rfl⟩
      exact (mem_liveNodes hm).mpr ((hm.table.isChain b).allocated hin)
  have hnd := (hm.table.isChain b).nodup
  rw [hr] at hnd
  rw [← hlen, ← List.toFinset_card_of_nodup (List.nodup_cons.mp hnd).2, ← himage,
    Finset.card_image_of_injective _ fun a a' h => BktPtr.node.inj h]

end Nodes

/-- INTERNAL: **the number of the nodes**: with one for each bucket in use it is the number of the
sessions.
SOURCE: udp_session.c:21-197 -/
theorem bucket_nodes {st : SrvUdpState} (h : TableInv st) (hno : NoLostBkt st.sessMap) :
    (liveNodes st.sessMap).card + (openBkts st).card = st.nOnSess.toNat := by
  obtain ⟨S, chain, hm, hnd, hS⟩ := h.map
  have ht := hno.tight hm
  -- both the sessions and the nodes are counted bucket by bucket
  have hslots : (openSlots st).card = ∑ b ∈ openBkts st, (S b).length := by
    rw [Finset.card_eq_sum_card_fiberwise (f := fun i => bktOf (st.sessArr i).srcAddr)
      fun i hi => Finset.mem_image.mpr ⟨i, hi, rfl⟩]
    refine Finset.sum_congr rfl fun b _ => ?_
    rw [← List.toFinset_card_of_nodup (hnd b)]
    congr 1
    ext i
    rw [Finset.mem_filter, mem_openSlots h, List.mem_toFinset, hS]
  have hne : ∀ b ∈ openBkts st, S b ≠ [] := by
    intro b hb
    obtain ⟨i, hi, hbi⟩ := Finset.mem_image.mp hb
    exact List.ne_nil_of_mem ((hS b i).mpr ⟨(mem_openSlots h).mp hi, hbi⟩)
  have hnodes : (liveNodes st.sessMap).card =
      ∑ b ∈ openBkts st, ((liveNodes st.sessMap).filter fun a => bktOfNode st a = b).card := by
    refine Finset.card_eq_sum_card_fiberwise fun a ha => ?_
    obtain ⟨b, hb⟩ := ht _ ((mem_liveNodes hm).mp ha)
    obtain ⟨i, hi, _⟩ := val_of_node hm hb
    obtain ⟨hc, hbi⟩ := (hS b i).mp hi
    rw [bktOfNode_eq hm hS hb]
    exact Finset.mem_image.mpr ⟨i, (mem_openSlots h).mpr hc, hbi⟩
  rw [← card_openSlots h, hslots, hnodes, Finset.card_eq_sum_ones, ← Finset.sum_add_distrib]
  exact Finset.sum_congr rfl fun b hb => card_nodes_bucket hm ht hS (hne b hb)

/-- INTERNAL: a node that is allocated holds an open session. -/
theorem node_held {st : SrvUdpState} (h : TableInv st) (hno : NoLostBkt st.sessMap) {a : Nat}
    (ha : st.sessMap.mem (.node a) ≠ none) :
    ∃ i, (st.sessMap.deref (.node a)).val = some i ∧ (st.sessArr i).isConnected = true := by
  obtain ⟨S, chain, hm, -, hS⟩ := h.map
  obtain ⟨b, hb⟩ := hno.tight hm _ ha
  obtain ⟨i, hi, hval⟩ := val_of_node hm hb
  exact ⟨i, hval, ((hS b i).mp hi).1⟩

theorem no_nodes {st : SrvUdpState} (h : TableInv st) (hno : NoLostBkt st.sessMap)
    (hnone : ∀ i, (st.sessArr i).isConnected = false) (a : Nat) : st.sessMap.mem (.node a) = none := by
  by_contra ha
  obtain ⟨i, _, hi⟩ := node_held h hno ha
  rw [hnone i] at hi
  cases hi

theorem reach_noLostBkt {maxConn : UInt16} {dataDir : List UInt8} {o : ByteOrder}
    {pkt zrPkt : ScPkt} {s : Server}
    (h : Server.Reach (fun _ env _ => env.NoEbadmsg) (Server.boot maxConn dataDir o pkt zrPkt) s) :
    NoLostBkt s.st.sessMap := by
  have hboth := h.inv (fun s => Server.SlotInv s ∧ NoLostBkt s.st.sessMap)
    ⟨boot_slotInv maxConn dataDir o pkt zrPkt, noLostBkt_init⟩
    fun s env i hs henv => ⟨step_slotInv i hs.1 henv, step_noLostBkt i hs.1 henv hs.2⟩
  exact hboth.2

/-- INTERNAL: **no node is leaked.** In every state of every run, with any pattern of collisions,
failing allocations, datagrams, scans and shutdowns: every node that was allocated and not freed
holds an open session, every open session is in exactly one cell, and together with the buckets in
use there are as many nodes as sessions. So nothing is allocated when no session is open.
SOURCE: udp_session.c:21-197 -/
theorem no_bucket_leaked {maxConn : UInt16} {dataDir : List UInt8} {o : ByteOrder}
    {pkt zrPkt : ScPkt} {s : Server}
    (h : Server.Reach (fun _ env _ => env.NoEbadmsg) (Server.boot maxConn dataDir o pkt zrPkt) s) :
    (∀ a, s.st.sessMap.mem (.node a) ≠ none → ∃ i, (s.st.sessMap.deref (.node a)).val = some i ∧
      (s.st.sessArr i).isConnected = true) ∧
    (∀ i, (s.st.sessArr i).isConnected = true → ∃! p, (s.st.sessMap.deref p).val = some i) ∧
    (liveNodes s.st.sessMap).card + (openBkts s.st).card = s.st.nOnSess.toNat ∧
    ((∀ i, (s.st.sessArr i).isConnected = false) → ∀ a, s.st.sessMap.mem (.node a) = none) := by
  have htab : TableInv s.st := (reach_slotInv h {} (by simp [Env.NoEbadmsg])).table
  have hno := reach_noLostBkt h
  obtain ⟨S, chain, hm, hnd, hS⟩ := htab.map
  have ht := hno.tight hm
  refine ⟨fun a => node_held htab hno, ?_, bucket_nodes htab hno, fun hnone => no_nodes htab hno hnone⟩
  intro i hi
  refine existsUnique_cell hm ht hnd ?_ ((hS _ i).mpr ⟨hi, rfl⟩)
  exact fun b b' j hb hb' => ((hS b j).mp hb).2.symm.trans ((hS b' j).mp hb').2

/-- Two clients behind one address: the second one gets a node. -/
theorem no_bucket_leaked_collision :
    ∃ s, Server.Reach (fun _ env _ => env.NoEbadmsg)
        (Server.boot 2 [] .little Server.zeroPkt Server.zeroPkt) s ∧
      (s.st.sessMap.mem (.node 0)).isSome = true ∧
      (liveNodes s.st.sessMap).card + (openBkts s.st).card = s.st.nOnSess.toNat := by
  have h₀ : Server.Reach (fun _ env _ => env.NoEbadmsg)
    (Server.boot 2 [] .little Server.zeroPkt Server.zeroPkt) _ := .init
  have h₁ := h₀.step {} (.udp ⟨0x0a000001, 1000⟩ handshakeDatagram) (by simp [Env.NoEbadmsg])
  have h₂ := h₁.step {} (.udp ⟨0x0a000001, 1001⟩ handshakeDatagram) (by simp [Env.NoEbadmsg])
  exact ⟨_, h₂, by decide, (no_bucket_leaked h₂).2.2.1⟩

end TeaVpn2.Analysis
