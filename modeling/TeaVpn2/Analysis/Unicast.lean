import TeaVpn2.Analysis.RouteMap

/-!
# Unicast delivery

The route map has one slot for each value of the low 16 address bits. A login overwrites
the entry of any other client with the same bits, and a close erases the entry at its
bits without a look at the owner. `ExactInv` holds while no two authenticated sessions
have the same bits: then every authenticated session owns its entry, and a packet whose
destination is told apart from the other sessions by these bits is delivered exactly
(`unicast_exact`).
-/

set_option autoImplicit false

namespace TeaVpn2.Analysis

open TeaVpn2 TeaVpn2.Lib

/-- INTERNAL: every authenticated session owns its route entry. -/
structure ExactInv (w : World) (h : Hold) : Prop where
  owned : ∀ i, (w.st.sessArr i).isAuthenticated = true → h.unlinked ≠ some i →
    w.st.ipv4Map (low16 (w.st.sessArr i).ipv4Iff).1 (low16 (w.st.sessArr i).ipv4Iff).2 =
      UInt16.ofNat i + 1
  zero : ∀ i, (w.st.sessArr i).isAuthenticated = false → (w.st.sessArr i).ipv4Iff = 0 ∨
    ∃ a, h = .addressed i a ∨ h = .routed i a
  routed : ∀ i a, h = .routed i a → w.st.ipv4Map (low16 a).1 (low16 a).2 = UInt16.ofNat i + 1
  apart : ∀ i a, h.assigned = some (i, a) → ∀ j, j ≠ i →
    (w.st.sessArr j).isAuthenticated = true → low16 (w.st.sessArr j).ipv4Iff ≠ low16 a

namespace ExactInv

variable {w w' : World} {h h' : Hold}

/-- INTERNAL: outside a login, a session without login has no address. -/
theorem zero_of_free (hw : ExactInv w h) (hfree : ∀ i a, h ≠ .addressed i a ∧ h ≠ .routed i a)
    {i : Nat} (ha : (w.st.sessArr i).isAuthenticated = false) : (w.st.sessArr i).ipv4Iff = 0 := by
  rcases hw.zero i ha with hz | ⟨a, hz | hz⟩
  · exact hz
  · exact absurd hz (hfree i a).1
  · exact absurd hz (hfree i a).2

/-- INTERNAL: a step that changes neither the map nor the logins. -/
theorem frame (hw : ExactInv w h) (hmap : w'.st.ipv4Map = w.st.ipv4Map)
    (hlog : logins w'.st = logins w.st)
    (hunl : ∀ i, h.unlinked = some i → h'.unlinked = some i ∨
      (w.st.sessArr i).isAuthenticated = false)
    (hzero : ∀ i a, h ≠ .addressed i a ∧ h ≠ .routed i a)
    (hrouted : ∀ i a, h' ≠ .routed i a)
    (hapart : ∀ i a, h'.assigned = some (i, a) → ∀ j, j ≠ i →
      (w.st.sessArr j).isAuthenticated = true → low16 (w.st.sessArr j).ipv4Iff ≠ low16 a) :
    ExactInv w' h' := by
  have hauth : ∀ i, (w'.st.sessArr i).isAuthenticated = (w.st.sessArr i).isAuthenticated :=
    fun i => congrArg Prod.fst (congrFun hlog i)
  have hiff : ∀ i, (w'.st.sessArr i).ipv4Iff = (w.st.sessArr i).ipv4Iff :=
    fun i => congrArg Prod.snd (congrFun hlog i)
  refine ⟨?_, ?_, fun i a e => absurd e (hrouted i a), ?_⟩
  · intro i ha hu
    rw [hauth] at ha
    rw [hmap, hiff]
    apply hw.owned i ha
    intro hc
    rcases hunl i hc with hc | hc
    · exact hu hc
    · rw [hc] at ha
      cases ha
  · intro i ha
    rw [hauth] at ha
    rw [hiff]
    exact .inl (hw.zero_of_free hzero ha)
  · intro i a ha j hj hja
    rw [hauth] at hja
    rw [hiff]
    exact hapart i a ha j hj hja

theorem frame_free (hw : ExactInv w h) (hmap : w'.st.ipv4Map = w.st.ipv4Map)
    (hlog : logins w'.st = logins w.st) (hunl : h.unlinked = none)
    (hzero : ∀ i a, h ≠ .addressed i a ∧ h ≠ .routed i a) (hass : h'.assigned = none) :
    ExactInv w' h' := by
  refine hw.frame hmap hlog (by simp [hunl]) hzero ?_ (by simp [hass])
  rintro i a rfl
  cases hass

end ExactInv

section Operations

variable {w : World} {g : Ghost}

/-- INTERNAL: a slot that is given back is reset. -/
theorem exactInv_delete (hs : SlotInv w g.hold) (hx : ExactInv w g.hold) (i : Nat)
    (hg : opGuard g (.deleteUdpSession i)) :
    ExactInv (exec (.deleteUdpSession i) w).2
      (opNext g.hold (.deleteUdpSession i) (exec (.deleteUdpSession i) w).1) := by
  have hg : g.hold = .closed i := hg
  have hc := hs.held i (by rw [hg]; rfl)
  obtain ⟨stk, m, st', _, hst, heq, _⟩ := deleteUdpSession_spec hs.table hc
  simp only [exec, heq, opNext]
  refine ⟨?_, ?_, by simp, by simp [Hold.assigned]⟩
  · intro j ha _
    rw [hst] at ha ⊢
    have hji : j ≠ i := by
      rintro rfl
      simp [resetUdpSession] at ha
    simp only [Function.update_of_ne hji] at ha ⊢
    apply hx.owned j ha
    rw [hg]
    simpa [Hold.unlinked] using Ne.symm hji
  · intro j ha
    rw [hst] at ha ⊢
    by_cases hji : j = i
    · subst hji
      left
      simp [resetUdpSession]
    · simp only [Function.update_of_ne hji] at ha ⊢
      exact .inl (hx.zero_of_free (by simp [hg]) ha)

theorem exactInv_storeIpv4Iff (hr : RouteInv w g.hold) (hx : ExactInv w g.hold) (i : Nat) (addr : UInt32)
    (hg : opGuard g (.storeIpv4Iff i addr)) :
    ExactInv (exec (.storeIpv4Iff i addr) w).2
      (opNext g.hold (.storeIpv4Iff i addr) (exec (.storeIpv4Iff i addr) w).1) := by
  have hg : g.hold = .granted i addr := hg
  have hauth := hr.pending i (by rw [hg]; rfl)
  have hget : ∀ j, (exec (.storeIpv4Iff i addr) w).2.st.sessArr j =
      if j = i then { w.st.sessArr i with ipv4Iff := addr } else w.st.sessArr j :=
    w.sessArr_setSess i _
  have hne : ∀ j, ((exec (.storeIpv4Iff i addr) w).2.st.sessArr j).isAuthenticated = true →
      j ≠ i := by
    rintro j hj rfl
    rw [hget, if_pos rfl, show (w.st.sessArr j).isAuthenticated = false from hauth] at hj
    cases hj
  refine ⟨?_, ?_, by simp [opNext], ?_⟩
  · intro j ha _
    have hji := hne j ha
    rw [hget, if_neg hji] at ha ⊢
    exact hx.owned j ha (by rw [hg]; simp [Hold.unlinked])
  · intro j ha
    by_cases hji : j = i
    · subst hji
      exact .inr ⟨addr, .inl rfl⟩
    · rw [hget, if_neg hji] at ha ⊢
      exact .inl (hx.zero_of_free (by simp [hg]) ha)
  · rintro k a ⟨rfl, rfl⟩ j hji ha
    rw [hget, if_neg hji] at ha ⊢
    exact hx.apart i addr (by rw [hg]; rfl) j hji ha

/-- INTERNAL: the entry was made before the login counts. -/
theorem exactInv_storeIsAuthenticated (hr : RouteInv w g.hold) (hx : ExactInv w g.hold) (i : Nat)
    (hg : opGuard g (.storeIsAuthenticated i)) :
    ExactInv (exec (.storeIsAuthenticated i) w).2
      (opNext g.hold (.storeIsAuthenticated i) (exec (.storeIsAuthenticated i) w).1) := by
  obtain ⟨addr, hg⟩ := hg
  have hiff := hr.stored i addr (by rw [hg]; rfl)
  have hget : ∀ j, (exec (.storeIsAuthenticated i) w).2.st.sessArr j =
      if j = i then { w.st.sessArr i with isAuthenticated := true } else w.st.sessArr j :=
    w.sessArr_setSess i _
  refine ⟨?_, ?_, by simp [opNext], by simp [opNext, Hold.assigned]⟩
  · intro j ha _
    by_cases hji : j = i
    · subst hji
      rw [hget, if_pos rfl]
      show w.st.ipv4Map (low16 (w.st.sessArr j).ipv4Iff).1 (low16 (w.st.sessArr j).ipv4Iff).2 = _
      rw [hiff]
      exact hx.routed j addr hg
    · rw [hget, if_neg hji] at ha ⊢
      exact hx.owned j ha (by rw [hg]; simp [Hold.unlinked])
  · intro j ha
    by_cases hji : j = i
    · rw [hget, if_pos hji] at ha
      cases ha
    · rw [hget, if_neg hji] at ha ⊢
      rcases hx.zero j ha with hz | ⟨a, hz | hz⟩
      · exact .inl hz
      · rw [hg] at hz; cases hz
      · rw [hg] at hz
        cases hz
        exact absurd rfl hji

/-- INTERNAL: the new entry overwrites no other: the address is nobody else's. -/
theorem exactInv_addRoute (hr : RouteInv w g.hold) (hx : ExactInv w g.hold) (addr : UInt32) (idx : UInt16)
    (hg : opGuard g (.addRoute addr idx)) :
    ExactInv (exec (.addRoute addr idx) w).2
      (opNext g.hold (.addRoute addr idx) (exec (.addRoute addr idx) w).1) := by
  obtain ⟨i, hg, hidx⟩ := hg
  have hauth := hr.pending i (by rw [hg]; rfl)
  have hiff := hr.stored i addr (by rw [hg]; rfl)
  have hapart := hx.apart i addr (by rw [hg]; rfl)
  simp only [exec, opNext, hg]
  refine ⟨?_, ?_, ?_, ?_⟩
  · intro j ha _
    have hji : j ≠ i := by
      rintro rfl
      rw [show (w.st.sessArr j).isAuthenticated = true from ha] at hauth
      cases hauth
    show addIpv4RouteMap _ _ _ _ _ = _
    rw [addRoute_of_ne _ _ (hapart j hji ha)]
    exact hx.owned j ha (by rw [hg]; simp [Hold.unlinked])
  · intro j ha
    rcases hx.zero j ha with hz | ⟨a, hz | hz⟩
    · exact .inl hz
    · rw [hg] at hz
      cases hz
      exact .inr ⟨addr, .inr rfl⟩
    · rw [hg] at hz; cases hz
  · rintro j a ⟨rfl, rfl⟩
    show addIpv4RouteMap _ _ _ _ _ = _
    rw [hidx]
    exact if_pos ⟨rfl, rfl⟩
  · rintro k a ⟨rfl, rfl⟩ j hji ha
    exact hapart j hji ha

/-- INTERNAL: the entry that goes is the session's own. -/
theorem exactInv_delRoute (hs : SlotInv w g.hold) (hr : RouteInv w g.hold) (hx : ExactInv w g.hold) (addr : UInt32)
    (hg : opGuard g (.delRoute addr)) :
    ExactInv (exec (.delRoute addr) w).2
      (opNext g.hold (.delRoute addr) (exec (.delRoute addr) w).1) := by
  obtain ⟨hzero, i, hg⟩ := hg
  have hiff := hr.stored i addr (by rw [hg]; rfl)
  -- the session that is closed is authenticated: only those have an address
  have hiauth : (w.st.sessArr i).isAuthenticated = true := by
    by_contra hno
    apply hzero
    rw [← hiff]
    exact hx.zero_of_free (by simp [hg]) ((Bool.not_eq_true _).mp hno)
  have howni := hx.owned i hiauth (by rw [hg]; simp [Hold.unlinked])
  have hlt := hs.table.connected_lt i (hs.held i (by rw [hg]; rfl))
  simp only [exec, opNext, hg]
  refine ⟨?_, ?_, by simp, by simp [Hold.assigned]⟩
  · intro j ha hu
    have hji : j ≠ i := by
      rintro rfl
      exact hu rfl
    have hownj := hx.owned j ha (by rw [hg]; simp [Hold.unlinked])
    have hne : low16 (w.st.sessArr j).ipv4Iff ≠ low16 addr := by
      intro e
      rw [hiff] at howni
      rw [e, howni] at hownj
      have hltj := hs.table.connected_lt j (hs.connected_of_authenticated ha)
      have hnat := congrArg UInt16.toNat ((UInt16.add_left_inj 1).mp hownj)
      rw [toNat_ofNat_slot w.st hlt, toNat_ofNat_slot w.st hltj] at hnat
      exact hji hnat.symm
    show delIpv4RouteMap _ _ _ _ = _
    rw [delRoute_of_ne _ hne]
    exact hownj
  · intro j ha
    exact .inl (hx.zero_of_free (by simp [hg]) ha)

theorem exactInv_send (hx : ExactInv w g.hold) (i : Nat) (data : List UInt8)
    (hg : opGuard g (.send i data)) :
    ExactInv (exec (.send i data) w).2
      (opNext g.hold (.send i data) (exec (.send i data) w).1) := by
  obtain ⟨ret, stop, em, poll, rs, _, _, heq⟩ := sendToClient_spec w i data
  have hg : sendGuard g i (kindOf data) := hg
  simp only [exec, heq, opNext]
  cases hk : kindOf data with
  | none =>
    rw [hk] at hg
    exact hg.elim
  | some kind =>
    rw [hk] at hg
    have hkeep : ExactInv { st := { w.st with stop := stop, inEmergency := em }
                            env := { w.env with poll := poll, sendto := rs }
                            log := w.log ++ [.send i (w.st.sessArr i).addr
                              (w.st.sessArr i).isAuthenticated data ret] } g.hold :=
      ⟨hx.owned, hx.zero, hx.routed, hx.apart⟩
    cases kind with
    | handshake =>
      simp only [sendNext]
      split <;> exact hx.frame_free rfl rfl (by rw [hg.1]; rfl) (by simp [hg.1]) rfl
    | authOk =>
      obtain ⟨addr, hg⟩ := hg
      simp only [sendNext, hg]
      split
      · exact hx.frame_free rfl rfl (by rw [hg]; rfl) (by simp [hg]) rfl
      · refine hx.frame rfl rfl (by simp [hg, Hold.unlinked]) (by simp [hg]) (by simp) ?_
        rintro k a ⟨rfl, rfl⟩
        exact hx.apart i addr (by rw [hg]; rfl)
    | tunData => exact hkeep
    | reqsync => exact hkeep
    | sync => exact hkeep
    | close =>
      refine hx.frame rfl rfl ?_ (by rcases hg with hg | hg <;> simp [hg]) (by simp [sendNext])
        (by simp [sendNext, Hold.assigned])
      intro j hj
      rcases hg with hg | hg
      · rw [hg] at hj
        exact .inl hj
      · rw [hg] at hj
        cases hj
    | handshakeReject =>
      have hg : g.hold = .fresh i := hg
      exact hx.frame_free rfl rfl (by rw [hg]; rfl) (by simp [hg]) rfl
    | authReject =>
      have hg : g.hold = .denied i := hg
      exact hx.frame_free rfl rfl (by rw [hg]; rfl) (by simp [hg]) rfl

end Operations

/-- INTERNAL: **every guarded operation keeps the entries owned**, if a login is accepted
only with address bits that no other authenticated session has. -/
theorem exactInv_exec {w : World} {g : Ghost} (o : Op) (hs : SlotInv w g.hold)
    (hr : RouteInv w g.hold) (hx : ExactInv w g.hold) (hg : opGuard g o)
    (hlogin : ∀ i iff, g.hold = .candidate i → pktType g.pkt.raw = TCLI_PKT_AUTH →
      teavpn2Auth w.st.dataDir w.env.fopen (Srv.authUsername g.pkt.raw)
        (Srv.authPassword g.pkt.raw) = some iff → ∀ j, j ≠ i →
      (w.st.sessArr j).isAuthenticated = true →
        low16 (w.st.sessArr j).ipv4Iff ≠ low16 (inetAddr iff.ipv4)) :
    ExactInv (exec o w).2 (opNext g.hold o (exec o w).1) := by
  cases o with
  | lookupUdpSess addr port =>
    cases hl : lookupUdpSess w.st addr port <;> simp only [exec, hl, opNext] <;>
      exact hx.frame_free rfl rfl (by rw [hg.1]; rfl) (by simp [hg.1]) rfl
  | createUdpSess addr port =>
    have hg : g.hold = .absent ⟨addr, port⟩ := hg
    rcases createUdpSess_spec hs.table (hs.absent _ hg) with ⟨_, heq⟩ |
      ⟨i, stk, mal, st', _, hin, hst, heq, _⟩ | ⟨i, stk, m, mal, gtod, t, st', _, _, hin, hst, heq, _⟩
    · simp only [exec, heq, opNext]
      exact hx.frame_free rfl rfl (by rw [hg]; rfl) (by simp [hg]) rfl
    · simp only [exec, heq, opNext]
      refine hx.frame_free (by rw [hst]) ?_ (by rw [hg]; rfl) (by simp [hg]) rfl
      subst hst
      exact logins_update rfl ⟨rfl, rfl⟩
    · simp only [exec, heq, opNext]
      refine hx.frame_free (by rw [hst]) ?_ (by rw [hg]; rfl) (by simp [hg]) rfl
      subst hst
      exact logins_update rfl ⟨rfl, rfl⟩
  | deleteUdpSession i => exact exactInv_delete hs hx i hg
  | loadIsConnected i =>
    have hu : g.hold.unlinked = none := by
      rcases hg with hg | ⟨j, hg | hg | hg | hg⟩ <;> rw [hg] <;> rfl
    have hz : ∀ i a, g.hold ≠ .addressed i a ∧ g.hold ≠ .routed i a := by
      rcases hg with hg | ⟨j, hg | hg | hg | hg⟩ <;> simp [hg]
    simp only [opNext]
    split <;> exact hx.frame_free rfl rfl hu hz rfl
  | loadIsAuthenticated i =>
    have hu : g.hold.unlinked = none := by
      rcases hg with hg | hg | hg | ⟨j, hg⟩ <;> rw [hg] <;> rfl
    have hz : ∀ i a, g.hold ≠ .addressed i a ∧ g.hold ≠ .routed i a := by
      rcases hg with hg | hg | hg | ⟨j, hg⟩ <;> simp [hg]
    cases ha : (w.st.sessArr i).isAuthenticated <;>
      simp only [exec, World.sess, ha, opNext, Bool.false_eq_true, if_true, if_false] <;> split
    · exact hx.frame_free rfl rfl hu hz rfl
    · split <;> exact hx.frame_free rfl rfl hu hz rfl
    · exact hx.frame_free rfl rfl hu hz rfl
    · split <;> exact hx.frame_free rfl rfl hu hz rfl
  | loadIpv4Iff i =>
    have hu : g.hold.unlinked = none := by
      rcases hg with hg | hg | hg | hg | hg <;> rw [hg] <;> rfl
    have hz : ∀ i a, g.hold ≠ .addressed i a ∧ g.hold ≠ .routed i a := by
      rcases hg with hg | hg | hg | hg | hg <;> simp [hg]
    exact hx.frame_free rfl rfl hu hz rfl
  | storeAddr i saddr =>
    have hg : g.hold = .created i saddr := hg
    exact hx.frame_free rfl (logins_update rfl ⟨rfl, rfl⟩) (by rw [hg]; rfl) (by simp [hg]) rfl
  | storeIpv4Iff i addr => exact exactInv_storeIpv4Iff hr hx i addr hg
  | storeIsAuthenticated i => exact exactInv_storeIsAuthenticated hr hx i hg
  | storeUsername i username =>
    have hg : g.hold = .authed i := hg
    simp only [opNext, hg]
    exact hx.frame_free rfl (logins_update rfl ⟨rfl, rfl⟩) (by rw [hg]; rfl) (by simp [hg]) rfl
  | updateLastAct i =>
    obtain ⟨gtod, t, _, heq⟩ := udpSessUpdateLastAct_eq w i
    simp only [exec, heq, opNext]
    rcases hg with hg | hg <;> rw [hg] <;>
      exact hx.frame_free rfl (logins_update rfl ⟨rfl, rfl⟩) (by rw [hg]; rfl) (by simp [hg]) rfl
  | incLoopC i =>
    rcases hg with hg | hg | hg <;> simp only [opNext, hg] <;>
      exact hx.frame_free rfl (logins_update rfl ⟨rfl, rfl⟩) (by rw [hg]; rfl) (by simp [hg]) rfl
  | addRoute addr idx => exact exactInv_addRoute hr hx addr idx hg
  | delRoute addr => exact exactInv_delRoute hs hr hx addr hg
  | getRoute addr =>
    have hg : g.hold = .idle := hg
    simp only [exec, opNext, hg]
    split <;> exact hx.frame_free rfl rfl (by rw [hg]; rfl) (by simp [hg]) rfl
  | getUnixTime =>
    obtain ⟨r, gtod, heq⟩ := getUnixTime_eq w
    simp only [exec, heq, opNext]
    exact ⟨hx.owned, hx.zero, hx.routed, hx.apart⟩
  | send i data => exact exactInv_send hx i data hg
  | writeTun i data =>
    obtain ⟨ret, stop, em, poll, rs, tried, _, heq⟩ := writeTun_spec w i data
    simp only [exec, heq, opNext]
    exact ⟨hx.owned, hx.zero, hx.routed, hx.apart⟩
  | auth i username password =>
    obtain ⟨hg, htype, hu, hp⟩ := hg
    simp only [exec, opNext]
    split
    · next iff hsome =>
      refine hx.frame rfl rfl (by simp [hg, Hold.unlinked]) (by simp [hg]) (by simp) ?_
      rintro k a ⟨rfl, rfl⟩ j hji ha
      rw [hu, hp] at hsome
      exact hlogin i iff hg htype hsome j hji ha
    · exact hx.frame_free rfl rfl (by rw [hg]; rfl) (by simp [hg]) rfl
  | loadLastAct i => exact hx
  | loadIdx i => exact hx
  | loadWiu i => exact hx
  | loadNOnSess => exact hx
  | loadRejMsg => exact hx

/-! ## Runs -/

/-- A login that keeps the route entries apart: its address is not zero, and no other
authenticated session has its low 16 bits. -/
def LoginApart (s : Server) (env : Env) (i : Input) : Prop :=
  ∀ slot addr, Login s env i slot addr → addr ≠ 0 ∧
    ∀ j, j ≠ slot → (s.st.sessArr j).isAuthenticated = true →
      low16 (s.st.sessArr j).ipv4Iff ≠ low16 addr

def Server.ExactInv (s : Server) : Prop := ∀ env : Env, Analysis.ExactInv (s.world env) .idle

theorem ExactInv.world {s : Server} {env : Env} {h : Hold} (hx : ExactInv (s.world env) h)
    (hrest : h.Rest) (env' : Env) : ExactInv (s.world env') .idle := by
  refine hx.frame_free rfl rfl ?_ ?_ rfl
  · cases h <;> first | rfl | exact hrest.elim
  · rintro i a
    constructor <;> rintro rfl <;> exact hrest

theorem ExactInv.start {s : Server} {env : Env} (i : Input)
    (hx : ExactInv (s.world env) .idle) : ExactInv (startWorld s env i) (startGhost s i).hold := by
  cases i with
  | udp saddr data => exact hx.frame_free rfl rfl rfl (by simp) rfl
  | tun data => exact hx
  | reap => exact hx
  | shutdown => exact hx

theorem step_exactInv {s : Server} {env : Env} (i : Input) (hs : Server.SlotInv s)
    (hr : Server.RouteInv s) (hx : Server.ExactInv s) (henv : env.NoEbadmsg)
    (hlogin : LoginApart s env i) : Server.ExactInv (s.step env i) := by
  obtain ⟨env', g, hrest, _, _, _, hI⟩ := step_inv
    (fun w g => SlotInv w g.hold ∧ Seen s env i w g ∧ RouteInv w g.hold ∧ ExactInv w g.hold)
    (fun w g o ⟨hsl, hse, hro, hex⟩ hg => by
      obtain ⟨hok, hsl'⟩ := slotInv_exec o hsl hg
      refine ⟨hok, hsl', hse.step o hg, routeInv_exec o hsl hro hg ?_,
        exactInv_exec o hsl hro hex hg ?_⟩
      · intro slot iff hcand htype hauth
        exact (hlogin slot _ (hse.login hcand htype hauth)).1
      · intro slot iff hcand htype hauth j hj hja
        have hsame := congrFun (hse.candidate slot hcand).2.2 j
        have ha := congrArg Prod.fst hsame
        have hi := congrArg Prod.snd hsame
        simp only [logins] at ha hi
        rw [ha] at hja
        rw [hi]
        exact (hlogin slot _ (hse.login hcand htype hauth)).2 j hj hja)
    ⟨(hs env henv).start i, seen_start s env i, (hr env).start i, (hx env).start i⟩
  intro env''
  exact hI.world hrest env''

theorem reach_exactInv {maxConn : UInt16} {dataDir : List UInt8} {o : ByteOrder}
    {pkt zrPkt : ScPkt} {s : Server}
    (h : Server.Reach (fun s env i => env.NoEbadmsg ∧ LoginApart s env i)
      (Server.boot maxConn dataDir o pkt zrPkt) s) :
    Server.SlotInv s ∧ Server.RouteInv s ∧ Server.ExactInv s := by
  refine h.inv (fun s => Server.SlotInv s ∧ Server.RouteInv s ∧ Server.ExactInv s)
    ⟨boot_slotInv maxConn dataDir o pkt zrPkt, boot_routeInv maxConn dataDir o pkt zrPkt, ?_⟩ ?_
  · intro env
    refine ⟨?_, fun i _ => .inl rfl, by simp, by simp [Hold.assigned]⟩
    intro i hi
    cases hi
  · rintro s env i ⟨hs, hr, hx⟩ ⟨henv, hlogin⟩
    exact ⟨step_slotInv i hs henv,
      step_routeInv i hs hr henv fun slot addr hl => (hlogin slot addr hl).1,
      step_exactInv i hs hr hx henv hlogin⟩

/-! ## Packets of the TUN device -/

/-- The packet is an IPv4 packet with the destination `dst`. -/
structure IsIpv4 (data : List UInt8) (dst : UInt32) : Prop where
  length : 20 ≤ data.length
  version : data.getD 0 0 >>> 4 = 4
  daddr : dst = UInt32.ofNat ((((data.getD 16 0).toNat * 256 + (data.getD 17 0).toNat) * 256 +
    (data.getD 18 0).toNat) * 256 + (data.getD 19 0).toNat)

/-- What `sendto` never fails with, beside `EBADMSG`. -/
def Env.NoEnoent (env : Env) : Prop := ∀ r ∈ env.sendto, r ≠ -ENOENT

/-- The TUN_DATA packet for a packet of the device. -/
def tunPacket (data : List UInt8) : List UInt8 :=
  header TSRV_PKT_TUN_DATA (UInt16.ofNat (data.take 4096).length) 0 ++ data.take 4096

/-- Exact unicast delivery of `data`: if an authenticated session has the destination
address, the packet is sent to exactly one session, which has that address; and
`route_ipv4_packet` never sends to a session with another address. -/
def UnicastExact (s : Server) (env : Env) (data : List UInt8) (dst : UInt32) : Prop :=
  (∀ i, (s.st.sessArr i).isAuthenticated = true → (s.st.sessArr i).ipv4Iff = dst →
    ∃ j auth ret, (s.st.sessArr j).ipv4Iff = dst ∧ (s.step env (.tun data)).log =
      s.log ++ [.send j (s.st.sessArr j).addr auth (tunPacket data) ret]) ∧
  ∃ new, ((Srv.routeIpv4Packet dst (tunPacket data)).run exec (s.world env)).2.log = s.log ++ new ∧
    ∀ j dst' auth pkt ret, Event.send j dst' auth pkt ret ∈ new → (s.st.sessArr j).ipv4Iff = dst

theorem getD_take {data : List UInt8} {n k : Nat} (h : n < k) :
    (data.take k).getD n 0 = data.getD n 0 := by
  simp [List.getD_eq_getElem?_getD, List.getElem?_take_of_lt h]

/-- INTERNAL: what `_route_packet` sees of a packet of the device.
SOURCE: udp_epoll.c:854-905 -/
theorem tunPacket_fields (pkt : ScPkt) {data : List UInt8} {dst : UInt32} (h : IsIpv4 data dst) :
    sent (srvPprep (pkt.raw.write 4 (data.take 4096)) TSRV_PKT_TUN_DATA
      (UInt16.ofNat (data.take 4096).length) 0) = tunPacket data ∧
    Srv.ipVersion (srvPprep (pkt.raw.write 4 (data.take 4096)) TSRV_PKT_TUN_DATA
      (UInt16.ofNat (data.take 4096).length) 0).1 = 4 ∧
    Srv.ipDaddr (srvPprep (pkt.raw.write 4 (data.take 4096)) TSRV_PKT_TUN_DATA
      (UInt16.ofNat (data.take 4096).length) 0).1 = dst := by
  have hlen : (data.take 4096).length ≤ 4096 := List.length_take_le _ _
  have hbyte : ∀ n, n < 20 → (srvPprep (pkt.raw.write 4 (data.take 4096)) TSRV_PKT_TUN_DATA
      (UInt16.ofNat (data.take 4096).length) 0).1 (4 + n) = data.getD n 0 := by
    intro n hn
    have h20 := h.length
    have h₁ : (srvPprep (pkt.raw.write 4 (data.take 4096)) TSRV_PKT_TUN_DATA
        (UInt16.ofNat (data.take 4096).length) 0).1 (4 + n) =
        (pkt.raw.write 4 (data.take 4096)) (4 + n) :=
      Buf.write_of_ge _ _ (by rw [length_header]; omega)
    rw [h₁, Buf.write_of_mem _ _ (by omega) (by rw [List.length_take]; omega),
      Nat.add_sub_cancel_left, getD_take (by omega)]
  refine ⟨?_, ?_, ?_⟩
  · apply sent_pprep_write
    rw [UInt16.toNat_ofNat_of_lt' (by simp only [UInt16.size]; omega)]
  · have h0 := hbyte 0 (by omega)
    unfold Srv.ipVersion
    rw [h0]
    exact h.version
  · rw [h.daddr, Srv.ipDaddr, hbyte 16 (by omega), hbyte 17 (by omega), hbyte 18 (by omega),
      hbyte 19 (by omega)]

/-- INTERNAL: `route_ipv4_packet` sends to the slot in the route map, and to nobody else.
SOURCE: udp_epoll.c:805-824 -/
theorem run_routeIpv4Packet (w : World) (dst : UInt32) (data : List UInt8) :
    (getIpv4RouteMap w.st.ipv4Map dst = none ∧
      (Srv.routeIpv4Packet dst data).run exec w = (-ENOENT, w)) ∨
    ∃ idx ret, getIpv4RouteMap w.st.ipv4Map dst = some idx ∧
      (ret ∈ w.env.sendto ∨ ret = (data.length : Int) ∨ ret = -ENETDOWN) ∧
      ((Srv.routeIpv4Packet dst data).run exec w).1 = (if ret < 0 then ret else 0) ∧
      ((Srv.routeIpv4Packet dst data).run exec w).2.log = w.log ++
        [.send idx.toNat (w.st.sessArr idx.toNat).addr (w.st.sessArr idx.toNat).isAuthenticated
          data ret] := by
  unfold Srv.routeIpv4Packet
  rw [Prog.run_bind]
  have hget : Prog.run exec (Srv.getIpv4RouteMap dst) w = (getIpv4RouteMap w.st.ipv4Map dst, w) := rfl
  rw [hget]
  cases getIpv4RouteMap w.st.ipv4Map dst with
  | none => exact .inl ⟨rfl, rfl⟩
  | some idx =>
    right
    obtain ⟨ret, stop, em, poll, rs, _, hret, heq⟩ := sendToClient_spec w idx.toNat data
    have hsend : Prog.run exec (Srv.sendToClient idx.toNat data) w = _ := heq
    refine ⟨idx, ret, rfl, hret, ?_, ?_⟩
    · show (Prog.run exec (Srv.sendToClient idx.toNat data >>= _) w).1 = _
      rw [Prog.run_bind, hsend]
      rfl
    · show (Prog.run exec (Srv.sendToClient idx.toNat data >>= _) w).2.log = _
      rw [Prog.run_bind, hsend]
      rfl

/-- INTERNAL: **exact unicast delivery.** In every run in which logins keep the route
entries apart, and for every destination that is told apart from the authenticated
sessions by its low 16 bits, delivery is exact.
SOURCE: udp.h:391-445, udp_epoll.c:323-336, 602-609, 805-869 -/
theorem unicast_exact {maxConn : UInt16} {dataDir : List UInt8} {o : ByteOrder}
    {pkt zrPkt : ScPkt} {s : Server} {env : Env} {data : List UInt8} {dst : UInt32}
    (h : Server.Reach (fun s env i => env.NoEbadmsg ∧ LoginApart s env i)
      (Server.boot maxConn dataDir o pkt zrPkt) s)
    (henv : Env.NoEnoent env) (hip : IsIpv4 data dst)
    (hdst : ∀ i, (s.st.sessArr i).isAuthenticated = true →
      low16 (s.st.sessArr i).ipv4Iff = low16 dst → (s.st.sessArr i).ipv4Iff = dst) :
    UnicastExact s env data dst := by
  obtain ⟨hs, hr, hx⟩ := reach_exactInv h
  have hslot := hs {} (by simp [Env.NoEbadmsg])
  have hroute := hr {}
  have hexact := hx {}
  -- whatever the map says for the destination has the destination address
  have hmap : ∀ idx, getIpv4RouteMap s.st.ipv4Map dst = some idx →
      (s.st.sessArr idx.toNat).ipv4Iff = dst := by
    intro idx hget
    unfold getIpv4RouteMap at hget
    split at hget
    · cases hget
    · next hb =>
      cases hget
      obtain ⟨_, ha, hi, _⟩ := hroute.entry (low16 dst) hb
      exact hdst _ (ha.resolve_right (by simp [Hold.routing])) hi
  constructor
  · intro i hauth hiff
    have hlt : i < s.st.maxConn.toNat :=
      hslot.table.connected_lt i (hslot.connected_of_authenticated hauth)
    have hown : s.st.ipv4Map (byte0 dst) (byte1 dst) = UInt16.ofNat i + 1 := by
      have := hexact.owned i hauth (by simp [Hold.unlinked])
      rw [show (s.world {}).st = s.st from rfl, hiff] at this
      exact this
    have hget : getIpv4RouteMap s.st.ipv4Map dst = some (UInt16.ofNat i) := by
      unfold getIpv4RouteMap
      rw [hown, if_neg, UInt16.add_sub_cancel]
      intro hzero
      have hnat := congrArg UInt16.toNat hzero
      rw [UInt16.toNat_add, toNat_ofNat_slot s.st hlt] at hnat
      have := s.st.maxConn.toNat_lt
      simp only [UInt16.reduceToNat] at hnat
      omega
    obtain ⟨hsent, hver, hdaddr⟩ := tunPacket_fields s.pkt hip
    rcases run_routeIpv4Packet (s.world env) dst (tunPacket data) with
      ⟨hnone, _⟩ | ⟨idx, ret, hidx, hret, hval, hlog⟩
    · rw [show (s.world env).st = s.st from rfl, hget] at hnone
      cases hnone
    have hslotidx : idx.toNat = i := by
      rw [show (s.world env).st = s.st from rfl, hget] at hidx
      cases hidx
      exact toNat_ofNat_slot s.st hlt
    have hne : (if ret < 0 then ret else 0) ≠ -ENOENT := by
      split
      · rcases hret with hin | rfl | rfl
        · exact henv ret hin
        · simp only [ENOENT]
          omega
        · decide
      · decide
    refine ⟨i, (s.st.sessArr i).isAuthenticated, ret, hiff, ?_⟩
    have hrun : (s.step env (.tun data)).log =
        ((Srv._routePacket s.st.maxConn (srvPprep (s.pkt.raw.write 4 (data.take 4096))
          TSRV_PKT_TUN_DATA (UInt16.ofNat (data.take 4096).length) 0).1
          (tunPacket data)).run exec (s.world env)).2.log := by
      simp only [Server.step, Srv.handleEventFromTun, Prog.run_bind, Prog.run_pure, hsent]
    rw [hrun, Srv._routePacket, if_pos hver, hdaddr, Prog.run_bind, hval, if_pos hne]
    show ((Srv.routeIpv4Packet dst (tunPacket data)).run exec (s.world env)).2.log = _
    rw [hlog, hslotidx]
    rfl
  · rcases run_routeIpv4Packet (s.world env) dst (tunPacket data) with
      ⟨_, heq⟩ | ⟨idx, ret, hidx, _, _, hlog⟩
    · refine ⟨[], ?_, by simp⟩
      rw [heq]
      simp [Server.world]
    · refine ⟨_, hlog, ?_⟩
      intro j dst' auth pkt ret' hin
      rw [List.mem_singleton] at hin
      cases hin
      exact hmap idx hidx

theorem authenticated_lt {maxConn : UInt16} {dataDir : List UInt8} {o : ByteOrder}
    {pkt zrPkt : ScPkt} {s : Server}
    (h : Server.Reach (fun s env i => env.NoEbadmsg ∧ LoginApart s env i)
      (Server.boot maxConn dataDir o pkt zrPkt) s) {i : Nat}
    (hi : (s.st.sessArr i).isAuthenticated = true) : i < maxConn.toNat := by
  have hslot := (reach_exactInv h).1 {} (by simp [Env.NoEbadmsg])
  rw [← reach_maxConn h]
  exact hslot.table.connected_lt i (hslot.connected_of_authenticated hi)

def client (n : UInt16) : Endpoint := ⟨0x0a000001, n⟩

def ipv4PacketTo (a b c d : UInt8) : List UInt8 :=
  [0x45, 0, 0, 20, 0, 0, 0, 0, 64, 17, 0, 0, 10, 5, 0, 1, a, b, c, d]

theorem unicast_exact_login :
    ∃ s, Server.Reach (fun s env i => env.NoEbadmsg ∧ LoginApart s env i)
        (Server.boot 2 [] .little Server.zeroPkt Server.zeroPkt) s ∧
      (s.st.sessArr 0).ipv4Iff = 0x0a050002 ∧
      UnicastExact s {} (ipv4PacketTo 10 5 0 2) 0x0a050002 := by
  have h₀ : Server.Reach (fun s env i => env.NoEbadmsg ∧ LoginApart s env i)
    (Server.boot 2 [] .little Server.zeroPkt Server.zeroPkt) _ := .init
  have h₁ := h₀.step {} (.udp (client 1) handshakeDatagram) (by
    refine ⟨by simp [Env.NoEbadmsg], ?_⟩
    rintro slot addr ⟨_, htype, _⟩
    exact absurd htype (by decide))
  have h₂ := h₁.step { fopen := fun _ => some (userFile "10.5.0.2") }
    (.udp (client 1) authDatagram) (by
    refine ⟨by simp [Env.NoEbadmsg], ?_⟩
    rintro slot addr ⟨_, _, _, _, iff, hauth, rfl⟩
    have hiff : some iff = some { ipv4 := ascii "10.5.0.2" } := by
      rw [← hauth]
      decide +kernel
    cases hiff
    refine ⟨by decide +kernel, ?_⟩
    intro j _ hj
    -- slot 0 is only being authenticated now, slot 1 is free, there are no others
    have hlt : j < 2 := authenticated_lt h₁ hj
    have h01 : j = 0 ∨ j = 1 := by omega
    rcases h01 with rfl | rfl
    · exact absurd hj (by decide +kernel)
    · exact absurd hj (by decide))
  refine ⟨_, h₂, by decide +kernel, unicast_exact h₂ (by simp [Env.NoEnoent])
    ⟨by decide, by decide, by decide⟩ ?_⟩
  intro i hi _
  have hlt : i < 2 := authenticated_lt h₂ hi
  have h01 : i = 0 ∨ i = 1 := by omega
  rcases h01 with rfl | rfl
  · decide +kernel
  · exact absurd hi (by decide +kernel)

/-- Two endpoints log in as the same user and a third as another one; when the second
closes, packets to the first are broadcast to the first and the third. -/
theorem unicast_lost_route :
    ¬∀ (maxConn : UInt16) (dataDir : List UInt8) (o : ByteOrder) (pkt zrPkt : ScPkt) (s : Server)
      (env : Env) (data : List UInt8) (dst : UInt32),
      Server.Reach (fun _ env _ => env.NoEbadmsg) (Server.boot maxConn dataDir o pkt zrPkt) s →
      Env.NoEnoent env → IsIpv4 data dst → UnicastExact s env data dst := by
  intro h
  have h₀ : Server.Reach (fun _ env _ => env.NoEbadmsg)
    (Server.boot 3 [] .little Server.zeroPkt Server.zeroPkt) _ := .init
  have hno : ∀ fopen, Env.NoEbadmsg { fopen := fopen } := by simp [Env.NoEbadmsg]
  have h₁ := h₀.step {} (.udp (client 1) handshakeDatagram) (hno _)
  have h₂ := h₁.step { fopen := fun _ => some (userFile "10.5.0.2") } (.udp (client 1) authDatagram)
    (hno _)
  have h₃ := h₂.step {} (.udp (client 2) handshakeDatagram) (hno _)
  have h₄ := h₃.step { fopen := fun _ => some (userFile "10.5.0.2") } (.udp (client 2) authDatagram)
    (hno _)
  have h₅ := h₄.step {} (.udp (client 3) handshakeDatagram) (hno _)
  have h₆ := h₅.step { fopen := fun _ => some (userFile "10.5.0.3") } (.udp (client 3) authDatagram)
    (hno _)
  have h₇ := h₆.step {} (.udp (client 2) [TCLI_PKT_CLOSE, 0, 0, 0]) (hno _)
  obtain ⟨hsent, _⟩ := h _ _ _ _ _ _ {} (ipv4PacketTo 10 5 0 2) 0x0a050002 h₇
    (by simp [Env.NoEnoent]) ⟨by decide, by decide, by decide⟩
  obtain ⟨j, auth, ret, _, hlog⟩ := hsent 0 (by decide +kernel) (by decide +kernel)
  have hlen := congrArg List.length hlog
  rw [List.length_append, List.length_singleton] at hlen
  exact absurd hlen (by decide +kernel)

end TeaVpn2.Analysis
