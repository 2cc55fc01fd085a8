import TeaVpn2.Analysis.Isolation

/-!
# What a free slot holds

`create_udp_sess` initialises a few fields of the slot it pops and relies on
`delete_udp_session` having reset the others. Two paths spoil this. After a CLOSE, or an
AUTH that was refused, the dispatcher has deleted the session but returns zero, and
`_handle_event_from_udp` counts the datagram in the slot that is already free. And when the
allocation of a map node fails, `create_udp_sess` gives back the slot with the endpoint
written into it. `free_slots_clean` says that in every run without such a step all free
slots are as `reset_udp_session` leaves them.
-/

set_option autoImplicit false

namespace TeaVpn2.Analysis

open TeaVpn2 TeaVpn2.Lib

/-- Every slot on the free stack is freshly reset. -/
def FreeSlotsClean (st : SrvUdpState) : Prop :=
  ∀ i ∈ freeSlots st, st.sessArr i = resetUdpSession (UInt16.ofNat i)

/-- The same, in terms of the flag. -/
def Tidy (st : SrvUdpState) : Prop :=
  ∀ i, i < st.maxConn.toNat → (st.sessArr i).isConnected = false →
    st.sessArr i = resetUdpSession (UInt16.ofNat i)

theorem freeSlotsClean_iff {st : SrvUdpState} (h : TableInv st) : FreeSlotsClean st ↔ Tidy st := by
  unfold FreeSlotsClean Tidy
  simp only [h.mem_free, and_imp]

/-! ## One operation -/

/-- Neither the creation of a session nor the loop counter. -/
def Mild : Op → Prop
  | .createUdpSess _ _ | .incLoopC _ => False
  | _ => True

theorem tidy_update {st st' : SrvUdpState} (ht : Tidy st) {i : Nat} {v : UdpSess}
    (hmax : st'.maxConn = st.maxConn) (harr : st'.sessArr = Function.update st.sessArr i v)
    (hv : v.isConnected = true ∨ v = resetUdpSession (UInt16.ofNat i)) : Tidy st' := by
  intro j hj hc
  rw [hmax] at hj
  by_cases hji : j = i
  · subst hji
    rw [harr, Function.update_self] at hc ⊢
    rcases hv with hv | hv
    · cases hv.symm.trans hc
    · exact hv
  · rw [harr, Function.update_of_ne hji] at hc ⊢
    exact ht j hj hc

theorem tidy_exec {w : World} {g : Ghost} (o : Op) (hw : SlotInv w g.hold) (hg : opGuard g o)
    (hm : Mild o) (ht : Tidy w.st) : Tidy (exec o w).2.st := by
  have hset : ∀ {i : Nat} {v : UdpSess}, g.hold.slot = some i →
      (exec o w).2.st.maxConn = w.st.maxConn →
      (exec o w).2.st.sessArr = Function.update w.st.sessArr i v →
      v.isConnected = (w.st.sessArr i).isConnected → Tidy (exec o w).2.st := by
    intro i v hs hmax harr hv
    exact tidy_update ht hmax harr (.inl (hv.trans (hw.held i hs)))
  cases o with
  | createUdpSess addr port => exact hm.elim
  | incLoopC i => exact hm.elim
  | deleteUdpSession i =>
    have hs : g.hold.slot = some i := by rw [show g.hold = _ from hg]; rfl
    obtain ⟨stk, m, st', _, hst, heq, _⟩ := deleteUdpSession_spec hw.table (hw.held i hs)
    simp only [exec, heq]
    refine tidy_update ht (by rw [hst]) (congrArg SrvUdpState.sessArr hst) (.inr ?_)
    rfl
  | storeAddr i saddr =>
    have hs : g.hold.slot = some i := by rw [show g.hold = _ from hg]; rfl
    exact hset hs rfl rfl rfl
  | storeIpv4Iff i addr =>
    have hs : g.hold.slot = some i := by rw [show g.hold = _ from hg]; rfl
    exact hset hs rfl rfl rfl
  | storeIsAuthenticated i =>
    obtain ⟨addr, hg⟩ := hg
    have hs : g.hold.slot = some i := by rw [hg]; rfl
    exact hset hs rfl rfl rfl
  | storeUsername i username =>
    have hs : g.hold.slot = some i := by rw [show g.hold = _ from hg]; rfl
    exact hset hs rfl rfl rfl
  | updateLastAct i =>
    have hs : g.hold.slot = some i := by rcases hg with hg | hg <;> rw [hg] <;> rfl
    obtain ⟨gtod, t, _, heq⟩ := udpSessUpdateLastAct_eq w i
    refine hset hs (congrArg (fun w' => w'.st.maxConn) heq)
      (congrArg (fun w' => w'.st.sessArr) heq) ?_
    rfl
  | getUnixTime =>
    obtain ⟨_, _, heq⟩ := getUnixTime_eq w
    simp only [exec, heq]
    exact ht
  | send i data =>
    obtain ⟨_, _, _, _, _, _, _, heq⟩ := sendToClient_spec w i data
    simp only [exec, heq]
    exact ht
  | writeTun i data =>
    obtain ⟨_, _, _, _, _, _, _, heq⟩ := writeTun_spec w i data
    simp only [exec, heq]
    exact ht
  | _ => exact ht

/-- INTERNAL: a program that creates no session and counts no datagram keeps the free slots
clean. -/
theorem tidy_run {α : Type} {p : Srv α} (hu : Prog.Uses Mild p) {g : Ghost}
    {Q : α → Ghost → Prop} (hp : Conforms sessionProtocol p g Q) {w : World}
    (hw : SlotInv w g.hold) (ht : Tidy w.st) :
    ∃ g', Q (p.run exec w).1 g' ∧ SlotInv (p.run exec w).2 g'.hold ∧ Tidy (p.run exec w).2.st :=
  hu.run_inv hp (fun w g => SlotInv w g.hold ∧ Tidy w.st)
    (fun _ _ o hI hg hm => ⟨(slotInv_exec o hI.1 hg).1, (slotInv_exec o hI.1 hg).2,
      tidy_exec o hI.1 hg hm hI.2⟩) ⟨hw, ht⟩

/-! ## New clients -/

theorem mild_of_datagramOp {o : Op} (h : DatagramOp o) : Mild o := by
  cases o with
  | createUdpSess addr port => exact h
  | incLoopC i => exact h
  | _ => trivial

theorem mild_of_scanOp {o : Op} (h : ScanOp o) : Mild o := by
  cases o with
  | createUdpSess addr port => exact h
  | incLoopC i => exact h
  | _ => trivial

/-- The allocation of a map node for the endpoint `k` will be attempted and will fail. -/
structure MallocFails (st : SrvUdpState) (env : Env) (k : Endpoint) : Prop where
  malloc : env.malloc.head? = some false
  free : freeSlots st ≠ []
  collides : (st.sessMap.deref (addrToBkt k.addr)).val ≠ none

theorem mapInsertUdpSess_of_empty {w : World} {addr : UInt32}
    (h : (w.st.sessMap.deref (addrToBkt addr)).val = none) (i : Nat) :
    (mapInsertUdpSess w addr i).1 = some i := by
  simp [mapInsertUdpSess, h]

/-- INTERNAL: the creation of a session fails for want of memory only if a node had to be
allocated.
SOURCE: udp_session.c:21-100 -/
theorem collides_of_enomem {w : World} {k : Endpoint} {w' : World}
    (h : createUdpSess w k.addr k.port = (.error ENOMEM, w')) :
    (w.st.sessMap.deref (addrToBkt k.addr)).val ≠ none := by
  intro hnone
  unfold createUdpSess at h
  split at h
  · injection h with h _
    injection h with h
    exact absurd h (by decide)
  · next idx stk _ =>
    have hins := mapInsertUdpSess_of_empty (w := { w with st := { w.st with sessStk := stk } }.setSess
      idx.toNat fun s => { s with srcAddr := k.addr, srcPort := k.port }) hnone idx.toNat
    dsimp only at h
    split at h
    · next heq =>
      rw [heq] at hins
      cases hins
    · injection h with h _
      cases h

/-- INTERNAL: a new client.
SOURCE: udp_epoll.c:498-559 -/
theorem handleNewClient_tidy (o : ByteOrder) (pkt : ScPkt) {k : Endpoint} {w : World}
    (hw : SlotInv w (.absent k)) (ht : Tidy w.st)
    (hmal : Srv.skipSessionCreation pkt = false → ¬MallocFails w.st w.env k) :
    Tidy ((Srv.handleNewClient o pkt k).run exec w).2.st := by
  unfold Srv.handleNewClient
  split
  · exact ht
  next hskip =>
  have hmal := hmal (by simpa using hskip)
  rw [Prog.run_bind]
  have hcreate : Prog.run exec (Srv.createUdpSess k.addr k.port) w =
      createUdpSess w k.addr k.port := rfl
  rw [hcreate]
  have hslots := (slotInv_exec (g := ⟨k, pkt, .absent k⟩) (.createUdpSess k.addr k.port) hw rfl).2
  rcases createUdpSess_spec hw.table (hw.absent k rfl) with ⟨_, heq⟩ |
    ⟨i, stk, mal, st', hm, hin, hst, heq, _⟩ | ⟨i, stk, m, mal, gtod, t, st', _, _, hin, hst, heq, _⟩
  · rw [heq]
    exact ht
  · refine absurd ⟨?_, ?_, collides_of_enomem heq⟩ hmal
    · rw [hm]
      rfl
    · intro hnil
      rw [hnil] at hin
      cases hin
  · simp only [exec, heq, opNext] at hslots
    rw [heq]
    have ht' : Tidy st' := by
      refine tidy_update ht (by rw [hst]) (congrArg SrvUdpState.sessArr hst) (.inl ?_)
      rfl
    -- the session is connected: what follows creates no other
    obtain ⟨_, _, _, hend⟩ := tidy_run
      (p := (do Srv.storeAddr i k; Srv._handleNewClient o pkt i : Srv (Int × ScPkt)))
      ((Prog.Uses.call trivial).bind fun _ =>
        (_handleNewClient_uses o pkt i).mono fun _ => mild_of_datagramOp)
      (g := ⟨k, pkt, .created i k⟩)
      (act_bind_conforms rfl fun _ _ => _handleNewClient_conforms (g := ⟨k, pkt, .fresh i⟩) o rfl)
      hslots ht'
    exact hend

/-! ## Packets of a known session -/

/-- Neither the creation nor the deletion of a session. -/
def KeepsFlag : Op → Prop
  | .createUdpSess _ _ | .deleteUdpSession _ => False
  | _ => True

theorem isConnected_exec (i : Nat) (o : Op) (w : World) (ho : KeepsFlag o) :
    ((exec o w).2.st.sessArr i).isConnected = (w.st.sessArr i).isConnected := by
  have hset : ∀ (j : Nat) (f : UdpSess → UdpSess), (∀ s, (f s).isConnected = s.isConnected) →
      ((w.setSess j f).st.sessArr i).isConnected = (w.st.sessArr i).isConnected := by
    intro j f hf
    by_cases hij : i = j
    · subst hij
      simp [World.setSess, hf]
    · simp [World.setSess, hij]
  cases o with
  | createUdpSess addr port => exact ho.elim
  | deleteUdpSession j => exact ho.elim
  | storeAddr j saddr => exact hset j _ fun _ => rfl
  | storeIpv4Iff j addr => exact hset j _ fun _ => rfl
  | storeIsAuthenticated j => exact hset j _ fun _ => rfl
  | storeUsername j username => exact hset j _ fun _ => rfl
  | incLoopC j => exact hset j _ fun _ => rfl
  | updateLastAct j =>
    obtain ⟨gtod, t, _, heq⟩ := udpSessUpdateLastAct_eq w j
    simp only [exec, heq]
    exact hset j (fun s => { s with lastAct := t }) fun _ => rfl
  | getUnixTime =>
    obtain ⟨_, _, heq⟩ := getUnixTime_eq w
    simp only [exec, heq]
  | send j data =>
    obtain ⟨_, _, _, _, _, _, _, heq⟩ := sendToClient_spec w j data
    simp only [exec, heq]
  | writeTun j data =>
    obtain ⟨_, _, _, _, _, _, _, heq⟩ := writeTun_spec w j data
    simp only [exec, heq]
  | _ => rfl

theorem isConnected_run {α : Type} {p : Srv α} (hu : Prog.Uses KeepsFlag p) (i : Nat) (w : World) :
    ((p.run exec w).2.st.sessArr i).isConnected = (w.st.sessArr i).isConnected :=
  hu.run_frame (fun w => (w.st.sessArr i).isConnected) (fun o w ho => isConnected_exec i o w ho) w

/-- The AUTH packet in the buffer is refused, and the refusal is sent. -/
structure Refused (w : World) (pkt : ScPkt) (i : Nat) : Prop where
  type : pktType pkt.raw = TCLI_PKT_AUTH
  unauth : (w.st.sessArr i).isAuthenticated = false
  denied : teavpn2Auth w.st.dataDir w.env.fopen (Srv.authUsername pkt.raw)
    (Srv.authPassword pkt.raw) = none
  told : 0 ≤ (sendAgain PKT_MIN_LEN w.env.sendto w.ioFlags).1

theorem sendToClient_ret (w : World) (i : Nat) {data : List UInt8} (h : data.length ≠ 0) :
    (w.sendToClient i data).1 = (sendAgain data.length w.env.sendto w.ioFlags).1 := by
  unfold World.sendToClient
  dsimp only
  rw [if_neg h]

/-- INTERNAL: an AUTH packet that is not refused, or whose refusal could not be sent: if the
handler does not fail, the session is still open.
SOURCE: udp_epoll.c:562-630 -/
theorem handleClpktAuth_connected (o : ByteOrder) {pkt : ScPkt} {i : Nat} {w : World}
    (htype : pktType pkt.raw = TCLI_PKT_AUTH) (hc : (w.st.sessArr i).isConnected = true)
    (href : ¬Refused w pkt i) (hret : 0 ≤ ((Srv.handleClpktAuth o pkt i).run exec w).1.1) :
    (((Srv.handleClpktAuth o pkt i).run exec w).2.st.sessArr i).isConnected = true := by
  have hload : Prog.run exec (Srv.loadIsAuthenticated i) w =
      ((w.st.sessArr i).isAuthenticated, w) := rfl
  unfold Srv.handleClpktAuth at hret ⊢
  rw [Prog.run_bind, hload] at hret ⊢
  cases hauth : (w.st.sessArr i).isAuthenticated with
  | true =>
    simp only [if_true]
    exact hc
  | false =>
    simp only [hauth, Bool.false_eq_true, if_false] at hret ⊢
    rw [Prog.run_bind] at hret ⊢
    have hask : Prog.run exec (Srv.teavpn2Auth i (Srv.authUsername pkt.raw)
        (Srv.authPassword pkt.raw)) w =
        (teavpn2Auth w.st.dataDir w.env.fopen (Srv.authUsername pkt.raw) (Srv.authPassword pkt.raw),
          w.emit (.auth i (w.sess i).key (teavpn2Auth w.st.dataDir w.env.fopen
            (Srv.authUsername pkt.raw) (Srv.authPassword pkt.raw)).isSome)) := rfl
    rw [hask] at hret ⊢
    cases hacc : teavpn2Auth w.st.dataDir w.env.fopen (Srv.authUsername pkt.raw)
        (Srv.authPassword pkt.raw) with
    | none =>
      refine absurd ⟨htype, hauth, hacc, ?_⟩ href
      simp only [hacc] at hret
      rw [Prog.run_bind, Prog.run_bind] at hret
      set d := sent (srvPprep pkt.raw TSRV_PKT_AUTH_REJECT 0 0) with hd
      set w₁ := w.emit (.auth i (w.sess i).key (none : Option IfInfo).isSome) with hw₁
      have hlen : d.length = PKT_MIN_LEN := Buf.length_read _ _ _
      have hsend : (w₁.sendToClient i d).1 = (sendAgain d.length w₁.env.sendto w₁.ioFlags).1 :=
        sendToClient_ret w₁ i (by rw [hlen]; decide)
      rw [hlen] at hsend
      have hret : 0 ≤ if (w₁.sendToClient i d).1 < 0 then (w₁.sendToClient i d).1 else 0 := hret
      rw [hsend] at hret
      have hio : (sendAgain PKT_MIN_LEN w₁.env.sendto w₁.ioFlags).1 =
          (sendAgain PKT_MIN_LEN w.env.sendto w.ioFlags).1 := rfl
      rw [hio] at hret
      by_contra hneg
      rw [if_pos (Int.not_le.mp hneg)] at hret
      exact hneg hret
    | some iff =>
      simp only [hacc] at hret ⊢
      rw [Prog.run_bind] at hret ⊢
      split
      · next hneg =>
        rw [if_pos hneg, Prog.run_bind] at hret
        exact absurd (show (0 : Int) ≤ _ from hret) (Int.not_le.mpr hneg)
      · refine (isConnected_run ?_ i _).trans ?_
        · exact (Prog.Uses.call trivial).bind fun _ => (Prog.Uses.call trivial).bind fun _ =>
            (Prog.Uses.call trivial).bind fun _ => (Prog.Uses.call trivial).bind fun _ =>
            (Prog.Uses.call trivial).bind fun _ => Prog.Uses.pure _
        · exact (isConnected_exec i (.send i _) _ trivial).trans hc

/-- INTERNAL: a dispatcher that does not fail leaves the session open, unless it is told to
close it or refuses its AUTH.
SOURCE: udp_epoll.c:715-741 -/
theorem __handleEventFromUdp_connected (o : ByteOrder) {pkt : ScPkt} {i : Nat} {w : World}
    (hc : (w.st.sessArr i).isConnected = true) (hclose : pktType pkt.raw ≠ TCLI_PKT_CLOSE)
    (href : ¬Refused w pkt i) (hret : 0 ≤ ((Srv.__handleEventFromUdp o pkt i).run exec w).1.1) :
    (((Srv.__handleEventFromUdp o pkt i).run exec w).2.st.sessArr i).isConnected = true := by
  unfold Srv.__handleEventFromUdp at hret ⊢
  dsimp only at hret ⊢
  split
  · exact hc
  next hty₀ =>
  rw [if_neg hty₀] at hret
  split
  · next htype =>
    rw [if_pos htype] at hret
    exact handleClpktAuth_connected o htype hc href hret
  next hty₁ =>
  rw [if_neg hty₁] at hret
  split
  · refine (isConnected_run ?_ i w).trans hc
    refine Prog.Uses.bind ?_ fun _ => Prog.Uses.pure _
    unfold Srv.handleClpktTunData
    dsimp only
    split
    · exact Prog.Uses.pure _
    · exact Prog.Uses.call trivial
  next hty₂ =>
  rw [if_neg hty₂] at hret
  split
  · refine (isConnected_run ?_ i w).trans hc
    exact ((Prog.Uses.call trivial).bind fun _ => Prog.Uses.pure _).bind fun _ =>
      (Prog.Uses.call trivial).bind fun _ => Prog.Uses.pure _
  next hty₃ =>
  rw [if_neg hty₃] at hret
  split
  · refine (isConnected_run ?_ i w).trans hc
    exact (Prog.Uses.call trivial).bind fun _ => Prog.Uses.pure _
  next hty₄ =>
  rw [if_neg hty₄, if_neg hclose] at hret
  exact absurd (show (0 : Int) ≤ -EBADMSG from hret) (by decide)

/-- INTERNAL: the datagram is counted in a slot that is in use.
SOURCE: udp_epoll.c:770-780 -/
theorem bumpLoopC_tidy (ret : Int) (pkt : ScPkt) {i : Nat} {w : World} {h : Hold}
    (hw : SlotInv w h) (hh : h = .found i ∨ h = .authed i) (ht : Tidy w.st) :
    Tidy ((Srv.bumpLoopC ret pkt i).run exec w).2.st := by
  have hslot : h.slot = some i := by rcases hh with rfl | rfl <;> rfl
  have hguard : opGuard ⟨⟨0, 0⟩, pkt, h⟩ (.incLoopC i) := by
    rcases hh with hh | hh
    · exact .inl hh
    · exact .inr (.inl hh)
  have hw₁ := (slotInv_exec (g := ⟨⟨0, 0⟩, pkt, h⟩) (.incLoopC i) hw hguard).2
  have hnext : opNext h (.incLoopC i) (exec (.incLoopC i) w).1 = h := by
    rcases hh with rfl | rfl <;> rfl
  have ht₁ : Tidy (exec (.incLoopC i) w).2.st := by
    refine tidy_update ht rfl rfl (.inl ?_)
    exact hw.held i hslot
  simp only [hnext] at hw₁
  unfold Srv.bumpLoopC
  rw [Prog.run_bind]
  split
  · -- the slot is held, so neither the clock nor the SYNC spoils a free one
    have hconf : Conforms sessionProtocol (do
        Srv.udpSessUpdateLastAct i
        let _ ← Srv.sendToClient i (sent (srvPprepSync pkt.raw))
        pure (ret, { pkt with raw := (srvPprepSync pkt.raw).1 }) : Srv (Int × ScPkt))
        ⟨⟨0, 0⟩, pkt, h⟩ fun _ _ => True :=
      act_bind_conforms hh fun _ _ =>
        send_bind_conforms .sync (kindOf_sent_pprep _ _ _ _) hh fun _ _ => trivial
    obtain ⟨_, _, _, hend⟩ := tidy_run ((Prog.Uses.call trivial).bind fun _ =>
      (Prog.Uses.call trivial).bind fun _ => Prog.Uses.pure _) hconf hw₁ ht₁
    exact hend
  · exact ht₁

/-- INTERNAL: a packet of a known session.
SOURCE: udp_epoll.c:744-783 -/
theorem knownClient_tidy (o : ByteOrder) {pkt : ScPkt} {i : Nat} {w : World}
    (hw : SlotInv w (.found i)) (ht : Tidy w.st) (hclose : pktType pkt.raw ≠ TCLI_PKT_CLOSE)
    (href : ¬Refused w pkt i) :
    Tidy ((Srv.finishEvent ((Srv.__handleEventFromUdp o pkt i).run exec w).1.1
      ((Srv.__handleEventFromUdp o pkt i).run exec w).1.2 i).run exec
        ((Srv.__handleEventFromUdp o pkt i).run exec w).2).2.st := by
  have hc := hw.held i rfl
  have hmild : Prog.Uses Mild (Srv.__handleEventFromUdp o pkt i) := by
    apply (__handleEventFromUdp_uses o pkt i).mono
    rintro op (hop | ⟨⟨_, _, rfl⟩, _⟩)
    · exact mild_of_datagramOp hop
    · trivial
  obtain ⟨g, hg, hw', ht'⟩ := tidy_run hmild
    (__handleEventFromUdp_conforms (g := ⟨⟨0, 0⟩, pkt, .found i⟩) o rfl) hw ht
  have hconn := __handleEventFromUdp_connected o hc hclose href
  generalize (Srv.__handleEventFromUdp o pkt i).run exec w = r at *
  obtain ⟨⟨ret, pkt'⟩, w'⟩ := r
  dsimp only at *
  -- a session that the dispatcher has closed is not counted
  have hdead : 0 ≤ ret → g.hold = .found i ∨ g.hold = .authed i := by
    intro hret
    rcases hg with rfl | rfl | ⟨_, rfl⟩
    · exact .inl rfl
    · exact .inr rfl
    · cases (hw'.dead i rfl).1.symm.trans (hconn hret)
  unfold Srv.finishEvent
  split
  · split
    · next hbad =>
      have hheld : g.hold = .found i ∨ g.hold = .authed i := by
        rcases hg with rfl | rfl | ⟨hne, _⟩
        · exact .inl rfl
        · exact .inr rfl
        · exact absurd hbad hne
      obtain ⟨_, _, _, hend⟩ := tidy_run ((closeSess_uses pkt' i).mono fun _ => mild_of_datagramOp)
        (closeSess_conforms pkt' (i := i) (g := g) (by tauto)) hw' ht'
      rw [Prog.run_bind]
      exact hend
    · exact ht'
  · next hret => exact bumpLoopC_tidy ret pkt' hw' (hdead (by omega)) ht'

/-! ## Runs -/

/-- The input makes the server write into a free slot: a CLOSE of a session, an AUTH whose
refusal is sent, or a new client for whom no map node can be allocated. -/
def Soils (s : Server) (env : Env) : Input → Prop
  | .udp k d => d ≠ [] ∧
      match lookupUdpSess s.st k.addr k.port with
      | some i => pktType (Srv.doRecvFrom s.pkt d).raw = TCLI_PKT_CLOSE ∨
          Refused (s.world env) (Srv.doRecvFrom s.pkt d) i
      | none => Srv.skipSessionCreation (Srv.doRecvFrom s.pkt d) = false ∧ MallocFails s.st env k
  | _ => False

/-- INTERNAL: an input that does not soil a free slot keeps all of them clean. -/
theorem step_tidy {s : Server} {env : Env} (inp : Input) (hs : Server.SlotInv s)
    (henv : env.NoEbadmsg) (hsoil : ¬Soils s env inp) (ht : Tidy s.st) :
    Tidy (s.step env inp).st := by
  have hw := hs env henv
  cases inp with
  | tun data =>
    obtain ⟨_, _, _, hend⟩ := tidy_run ((handleEventFromTun_uses s.st.maxConn s.pkt data).mono
      fun _ => mild_of_scanOp) (handleEventFromTun_conforms (g := ⟨⟨0, 0⟩, s.pkt, .idle⟩)
        s.st.maxConn s.pkt data rfl) hw ht
    exact hend
  | reap =>
    obtain ⟨_, _, _, hend⟩ := tidy_run ((zombieReaperDoScan_uses s.st.maxConn s.zrPkt).mono
      fun _ => mild_of_scanOp) (zombieReaperDoScan_conforms (g := ⟨⟨0, 0⟩, s.pkt, .idle⟩)
        s.st.maxConn s.zrPkt rfl) hw ht
    exact hend
  | shutdown =>
    obtain ⟨_, _, _, hend⟩ := tidy_run ((closeClientSess_uses s.st.maxConn s.pkt).mono
      fun _ => mild_of_scanOp) (closeClientSess_conforms (g := ⟨⟨0, 0⟩, s.pkt, .idle⟩)
        s.st.maxConn s.pkt rfl) hw ht
    exact hend
  | udp k d =>
    by_cases hd : d = []
    · subst hd
      exact ht
    have hlen : (Srv.doRecvFrom s.pkt d).len ≠ 0 :=
      fun h => hd ((doRecvFrom_len_eq_zero s.pkt d).mp h)
    have hlook := (slotInv_exec (g := startGhost s (.udp k d)) (.lookupUdpSess k.addr k.port)
      (hw.start (.udp k d)) ⟨rfl, rfl, hlen⟩).2
    have hst : ((s.world env).emit (.recv k d)).st = s.st := rfl
    simp only [exec, startWorld, hst, opNext] at hlook
    unfold Soils at hsoil
    cases hl : lookupUdpSess s.st k.addr k.port with
    | none =>
      simp only [hl] at hlook hsoil
      rw [step_udp_new hd hl]
      exact handleNewClient_tidy s.st.order _ hlook ht fun hskip hmal => hsoil ⟨hd, hskip, hmal⟩
    | some i =>
      simp only [hl] at hlook hsoil
      rw [step_udp_known hd hl]
      exact knownClient_tidy s.st.order hlook ht (fun hclose => hsoil ⟨hd, .inl hclose⟩)
        fun href => hsoil ⟨hd, .inr ⟨href.type, href.unauth, href.denied, href.told⟩⟩

theorem reach_tidy {maxConn : UInt16} {dataDir : List UInt8} {o : ByteOrder}
    {pkt zrPkt : ScPkt} {s : Server}
    (h : Server.Reach (fun s env i => env.NoEbadmsg ∧ ¬Soils s env i)
      (Server.boot maxConn dataDir o pkt zrPkt) s) : Server.SlotInv s ∧ Tidy s.st := by
  refine h.inv (fun s => Server.SlotInv s ∧ Tidy s.st)
    ⟨boot_slotInv maxConn dataDir o pkt zrPkt, fun _ _ _ => rfl⟩ ?_
  rintro s env i ⟨hs, ht⟩ ⟨henv, hsoil⟩
  exact ⟨step_slotInv i hs henv, step_tidy i hs henv hsoil ht⟩

/-- INTERNAL: **free slots are clean.** In every state of every run without a step that soils
a free slot, every slot on the free stack is as `reset_udp_session` leaves it, so that a new
session depends on nothing but its slot, its endpoint and the clock.
SOURCE: udp_session.c:59-100, 184-197; udp_epoll.c:715-783; server/linux/udp.h:306-311 -/
theorem free_slots_clean {maxConn : UInt16} {dataDir : List UInt8} {o : ByteOrder}
    {pkt zrPkt : ScPkt} {s : Server}
    (h : Server.Reach (fun s env i => env.NoEbadmsg ∧ ¬Soils s env i)
      (Server.boot maxConn dataDir o pkt zrPkt) s) :
    FreeSlotsClean s.st ∧ ∀ (env : Env) (k : Endpoint) (i : Nat) (w : World),
      lookupUdpSess s.st k.addr k.port = none →
      createUdpSess (s.world env) k.addr k.port = (.ok i, w) →
      ∃ t, w.st.sessArr i = createdSess (resetUdpSession (UInt16.ofNat i)) k t := by
  obtain ⟨hs, ht⟩ := reach_tidy h
  have htab : TableInv s.st := (hs {} (by simp [Env.NoEbadmsg])).table
  have hclean := (freeSlotsClean_iff htab).mpr ht
  refine ⟨hclean, ?_⟩
  intro env k i w hl hcreate
  rcases createUdpSess_spec (w := s.world env) htab ((lookupUdpSess_eq_none htab k).mp hl) with
    ⟨_, heq⟩ | ⟨_, _, _, _, _, _, _, heq, _⟩ | ⟨j, stk, m, mal, gtod, t, st', _, _, hin, hst, heq, _⟩
  · rw [heq] at hcreate
    cases hcreate
  · rw [heq] at hcreate
    cases hcreate
  · rw [heq] at hcreate
    cases hcreate
    have hnew : st'.sessArr i = createdSess (s.st.sessArr i) k t := by
      rw [hst]
      exact Function.update_self _ _ _
    rw [hclean i hin] at hnew
    exact ⟨t, hnew⟩

theorem free_slots_clean_handshake :
    ∃ s, Server.Reach (fun s env i => env.NoEbadmsg ∧ ¬Soils s env i)
        (Server.boot 2 [] .little Server.zeroPkt Server.zeroPkt) s ∧
      freeSlots s.st = [1] ∧ FreeSlotsClean s.st := by
  have h₀ : Server.Reach (fun s env i => env.NoEbadmsg ∧ ¬Soils s env i)
    (Server.boot 2 [] .little Server.zeroPkt Server.zeroPkt) _ := .init
  have hl : lookupUdpSess (Server.boot 2 [] .little Server.zeroPkt Server.zeroPkt).st 0x0a000001
    1000 = none := by decide
  have h := h₀.step {} (.udp ⟨0x0a000001, 1000⟩ handshakeDatagram) (by
    refine ⟨by simp [Env.NoEbadmsg], ?_⟩
    rintro ⟨_, hmal⟩
    simp only [hl] at hmal
    cases hmal.2.malloc)
  exact ⟨_, h, by decide, (free_slots_clean h).1⟩

/-- The slot of a session that was closed by its client. -/
theorem free_slot_counted :
    ¬∀ (maxConn : UInt16) (dataDir : List UInt8) (o : ByteOrder) (pkt zrPkt : ScPkt) (s : Server),
      Server.Reach (fun _ env _ => env.NoEbadmsg) (Server.boot maxConn dataDir o pkt zrPkt) s →
      FreeSlotsClean s.st := by
  intro h
  have h₀ : Server.Reach (fun _ env _ => env.NoEbadmsg)
    (Server.boot 1 [] .little Server.zeroPkt Server.zeroPkt) _ := .init
  have h₁ := h₀.step {} (.udp ⟨0x0a000001, 1000⟩ handshakeDatagram) (by simp [Env.NoEbadmsg])
  have h₂ := h₁.step {} (.udp ⟨0x0a000001, 1000⟩ [TCLI_PKT_CLOSE, 0, 0, 0])
    (by simp [Env.NoEbadmsg])
  have hloop := congrArg UdpSess.loopC (h 1 [] .little Server.zeroPkt Server.zeroPkt _ h₂ 0
    (by decide +kernel))
  revert hloop
  decide

end TeaVpn2.Analysis
