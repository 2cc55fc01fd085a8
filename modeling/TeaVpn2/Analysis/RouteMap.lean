import TeaVpn2.Analysis.Dispatch

/-!
# The route map

`ipv4_map` sends the low 16 bits of an address to the slot of a client, plus one. An
entry is added when a login is granted and removed when its session is closed, but only
if `ipv4_iff` is not zero: a client whose user file assigns `0.0.0.0` (or nothing that
`inet_addr` reads as another address) leaves its entry behind.

`RouteInv` is the invariant of the map while a thread runs. It holds in every run in
which no login is granted with the address zero (`routeMap_sound`). Delivery to exactly
the session with the destination address needs more, since the map knows 16 bits only:
`ExactInv` and `unicast_exact`.
-/

set_option autoImplicit false

namespace TeaVpn2.Analysis

open TeaVpn2 TeaVpn2.Lib

/-- The index of an address in the route map. -/
def low16 (addr : UInt32) : UInt8 × UInt8 := (byte0 addr, byte1 addr)

/-- The slot a route entry points to. -/
def slotAt (st : SrvUdpState) (b : UInt8 × UInt8) : Nat := (st.ipv4Map b.1 b.2 - 1).toNat

/-! ## What a thread knows about routes -/

namespace Hold

/-- The session a login is being decided for. -/
def pending : Hold → Option Nat
  | .candidate i | .accepted i _ | .denied i | .granted i _ | .addressed i _ => some i
  | _ => none

/-- The address a login was accepted with. -/
def assigned : Hold → Option (Nat × UInt32)
  | .accepted i a | .granted i a | .addressed i a | .routed i a => some (i, a)
  | _ => none

/-- The address that is stored in a session. -/
def stored : Hold → Option (Nat × UInt32)
  | .addressed i a | .routed i a | .closingIff i a => some (i, a)
  | _ => none

/-- The session whose route is entered but which is not yet authenticated. -/
def routing : Hold → Option Nat
  | .routed i _ => some i
  | _ => none

/-- The session whose route is gone. -/
def unlinked : Hold → Option Nat
  | .unrouted i | .closed i => some i
  | _ => none

def targeted : Hold → Option Nat
  | .target i => some i
  | _ => none

/-- Nothing is known about routes. -/
structure Plain (h : Hold) : Prop where
  pending : h.pending = none
  assigned : h.assigned = none
  stored : h.stored = none
  unlinked : h.unlinked = none
  targeted : h.targeted = none

theorem Plain.routing {h : Hold} (hp : h.Plain) : h.routing = none := by
  cases h with
  | routed i a => cases hp.assigned
  | _ => rfl

end Hold

/-! ## Soundness -/

/-- INTERNAL: the invariant of the route map while a thread that knows `h` runs. -/
structure RouteInv (w : World) (h : Hold) : Prop where
  entry : ∀ b : UInt8 × UInt8, w.st.ipv4Map b.1 b.2 ≠ 0 →
    (w.st.sessArr (slotAt w.st b)).isConnected = true ∧
    ((w.st.sessArr (slotAt w.st b)).isAuthenticated = true ∨ h.routing = some (slotAt w.st b)) ∧
    low16 (w.st.sessArr (slotAt w.st b)).ipv4Iff = b ∧ h.unlinked ≠ some (slotAt w.st b)
  nonzero : ∀ i, (w.st.sessArr i).isAuthenticated = true → (w.st.sessArr i).ipv4Iff ≠ 0
  pending : ∀ i, h.pending = some i → (w.st.sessArr i).isAuthenticated = false
  assigned : ∀ i a, h.assigned = some (i, a) → a ≠ 0
  stored : ∀ i a, h.stored = some (i, a) → (w.st.sessArr i).ipv4Iff = a
  targeted : ∀ i, h.targeted = some i → (w.st.sessArr i).isAuthenticated = true
  log : ∀ i dst auth data ret, Event.send i dst auth data ret ∈ w.log →
    kindOf data = some .tunData → auth = true

namespace RouteInv

variable {w w' : World} {h h' : Hold}

/-- INTERNAL: a slot without login has no entry. -/
theorem no_entry (hw : RouteInv w h) {i : Nat} (hauth : (w.st.sessArr i).isAuthenticated = false)
    (hr : h.routing ≠ some i) {b : UInt8 × UInt8} (hb : w.st.ipv4Map b.1 b.2 ≠ 0) :
    slotAt w.st b ≠ i := by
  rintro rfl
  rcases (hw.entry b hb).2.1 with ha | ha
  · rw [hauth] at ha
    cases ha
  · exact hr ha

/-- INTERNAL: a step that changes neither the map nor the logins. -/
theorem frame (hw : RouteInv w h) (hmap : w'.st.ipv4Map = w.st.ipv4Map)
    (hview : ∀ i, (w'.st.sessArr i).isConnected = (w.st.sessArr i).isConnected ∧
      logins w'.st i = logins w.st i)
    (hroute : h.routing = none)
    (hunl : ∀ b : UInt8 × UInt8, w.st.ipv4Map b.1 b.2 ≠ 0 → h'.unlinked ≠ some (slotAt w.st b))
    (hpend : ∀ i, h'.pending = some i → (w.st.sessArr i).isAuthenticated = false)
    (hass : ∀ i a, h'.assigned = some (i, a) → a ≠ 0)
    (hsto : ∀ i a, h'.stored = some (i, a) → (w.st.sessArr i).ipv4Iff = a)
    (htgt : ∀ i, h'.targeted = some i → (w.st.sessArr i).isAuthenticated = true)
    (hlog : ∀ i dst auth data ret, Event.send i dst auth data ret ∈ w'.log →
      kindOf data = some .tunData → auth = true) : RouteInv w' h' := by
  have hslot : ∀ b, slotAt w'.st b = slotAt w.st b := fun b => by simp [slotAt, hmap]
  have hauth : ∀ i, (w'.st.sessArr i).isAuthenticated = (w.st.sessArr i).isAuthenticated :=
    fun i => congrArg Prod.fst (hview i).2
  have hiff : ∀ i, (w'.st.sessArr i).ipv4Iff = (w.st.sessArr i).ipv4Iff :=
    fun i => congrArg Prod.snd (hview i).2
  refine ⟨?_, ?_, ?_, hass, ?_, ?_, hlog⟩
  · intro b hb
    rw [hmap] at hb
    obtain ⟨hc, ha, hi, _⟩ := hw.entry b hb
    rw [hslot, (hview _).1, hauth, hiff]
    refine ⟨hc, .inl ?_, hi, hunl b hb⟩
    rcases ha with ha | ha
    · exact ha
    · rw [hroute] at ha
      cases ha
  · intro i
    rw [hauth, hiff]
    exact hw.nonzero i
  · intro i hi
    rw [hauth]
    exact hpend i hi
  · intro i a hi
    rw [hiff]
    exact hsto i a hi
  · intro i hi
    rw [hauth]
    exact htgt i hi

/-- INTERNAL: the same when the thread lets go of what it knew. -/
theorem frame_plain (hw : RouteInv w h) (hmap : w'.st.ipv4Map = w.st.ipv4Map)
    (hview : ∀ i, (w'.st.sessArr i).isConnected = (w.st.sessArr i).isConnected ∧
      logins w'.st i = logins w.st i)
    (hroute : h.routing = none) (hp : h'.Plain)
    (hlog : ∀ i dst auth data ret, Event.send i dst auth data ret ∈ w'.log →
      kindOf data = some .tunData → auth = true) : RouteInv w' h' :=
  hw.frame hmap hview hroute (by simp [hp.unlinked]) (by simp [hp.pending])
    (by simp [hp.assigned]) (by simp [hp.stored]) (by simp [hp.targeted]) hlog

/-- INTERNAL: the same when the thread keeps what it knew. -/
theorem frame_same (hw : RouteInv w h) (hmap : w'.st.ipv4Map = w.st.ipv4Map)
    (hview : ∀ i, (w'.st.sessArr i).isConnected = (w.st.sessArr i).isConnected ∧
      logins w'.st i = logins w.st i)
    (hroute : h.routing = none)
    (hlog : ∀ i dst auth data ret, Event.send i dst auth data ret ∈ w'.log →
      kindOf data = some .tunData → auth = true) : RouteInv w' h :=
  hw.frame hmap hview hroute (fun b hb => (hw.entry b hb).2.2.2) hw.pending hw.assigned hw.stored
    hw.targeted hlog

theorem log_append (hw : RouteInv w h) {e : Event}
    (he : ∀ i dst auth data ret, e = .send i dst auth data ret → kindOf data = some .tunData →
      auth = true) (i : Nat) (dst : Endpoint) (auth : Bool) (data : List UInt8) (ret : Int)
    (hin : Event.send i dst auth data ret ∈ w.log ++ [e]) (hk : kindOf data = some .tunData) :
    auth = true := by
  rcases List.mem_append.mp hin with hin | hin
  · exact hw.log i dst auth data ret hin hk
  · exact he i dst auth data ret (List.mem_singleton.mp hin).symm hk

end RouteInv

theorem plain_idle : Hold.Plain .idle := ⟨rfl, rfl, rfl, rfl, rfl⟩
theorem plain_found (i : Nat) : Hold.Plain (.found i) := ⟨rfl, rfl, rfl, rfl, rfl⟩
theorem plain_opened (i : Nat) : Hold.Plain (.opened i) := ⟨rfl, rfl, rfl, rfl, rfl⟩
theorem plain_authed (i : Nat) : Hold.Plain (.authed i) := ⟨rfl, rfl, rfl, rfl, rfl⟩
theorem plain_closing (i : Nat) : Hold.Plain (.closing i) := ⟨rfl, rfl, rfl, rfl, rfl⟩

theorem slotAt_addRoute (st : SrvUdpState) (addr : UInt32) (idx : UInt16) (b : UInt8 × UInt8) :
    slotAt { st with ipv4Map := addIpv4RouteMap st.ipv4Map addr idx } b =
      if b = low16 addr then idx.toNat else slotAt st b := by
  by_cases hb : b = low16 addr
  · subst hb
    simp [slotAt, addIpv4RouteMap, low16]
  · have hne : ¬(b.1 = byte0 addr ∧ b.2 = byte1 addr) := fun e => hb (Prod.ext e.1 e.2)
    simp [slotAt, addIpv4RouteMap, hne, hb]

theorem addRoute_of_ne (map : UInt8 → UInt8 → UInt16) {addr : UInt32} (idx : UInt16)
    {b : UInt8 × UInt8} (hb : b ≠ low16 addr) : addIpv4RouteMap map addr idx b.1 b.2 = map b.1 b.2 := by
  refine if_neg fun e => hb (Prod.ext e.1 e.2)

theorem delRoute_of_ne (map : UInt8 → UInt8 → UInt16) {addr : UInt32} {b : UInt8 × UInt8}
    (hb : b ≠ low16 addr) : delIpv4RouteMap map addr b.1 b.2 = map b.1 b.2 := by
  refine if_neg fun e => hb (Prod.ext e.1 e.2)

theorem delRoute_self (map : UInt8 → UInt8 → UInt16) (addr : UInt32) :
    delIpv4RouteMap map addr (low16 addr).1 (low16 addr).2 = 0 := if_pos ⟨rfl, rfl⟩

/-- INTERNAL: a slot that is not connected has no entry, and neither has one whose login
has not been granted: the entries of the other slots survive a store into it. -/
theorem entry_update {w : World} {h : Hold} (hr : RouteInv w h) (hroute : h.routing = none)
    {i : Nat} (hauth : (w.st.sessArr i).isAuthenticated = false) {st' : SrvUdpState} {v : UdpSess}
    (hmap : st'.ipv4Map = w.st.ipv4Map)
    (harr : st'.sessArr = Function.update w.st.sessArr i v) (b : UInt8 × UInt8)
    (hb : st'.ipv4Map b.1 b.2 ≠ 0) :
    slotAt st' b ≠ i ∧ (st'.sessArr (slotAt st' b)).isConnected = true ∧
      (st'.sessArr (slotAt st' b)).isAuthenticated = true ∧
      low16 (st'.sessArr (slotAt st' b)).ipv4Iff = b := by
  have hslot : slotAt st' b = slotAt w.st b := by simp [slotAt, hmap]
  rw [hmap] at hb
  have hne : slotAt w.st b ≠ i := hr.no_entry hauth (by simp [hroute]) hb
  obtain ⟨hc, ha, hi, _⟩ := hr.entry b hb
  have ha' : (w.st.sessArr (slotAt w.st b)).isAuthenticated = true := by
    rcases ha with ha | ha
    · exact ha
    · rw [hroute] at ha
      cases ha
  rw [hslot, harr, Function.update_of_ne hne]
  exact ⟨hne, hc, ha', hi⟩

section Operations

variable {w : World} {g : Ghost}

/-- INTERNAL: a store that is no login, as the frame rules want it. -/
theorem view_setSess (w : World) (i : Nat) (f : UdpSess → UdpSess)
    (hf : ∀ s, (f s).isConnected = s.isConnected ∧ (f s).isAuthenticated = s.isAuthenticated ∧
      (f s).ipv4Iff = s.ipv4Iff) (j : Nat) :
    ((w.setSess i f).st.sessArr j).isConnected = (w.st.sessArr j).isConnected ∧
      logins (w.setSess i f).st j = logins w.st j := by
  obtain ⟨hc, ha, hi⟩ := hf (w.st.sessArr i)
  unfold logins
  rw [World.sessArr_setSess]
  split
  · next hj => rw [hj, hc, ha, hi]; exact ⟨rfl, rfl⟩
  · exact ⟨rfl, rfl⟩

/-- INTERNAL: a new session gets a slot that has no entry. -/
theorem routeInv_create (hs : SlotInv w g.hold) (hr : RouteInv w g.hold) (addr : UInt32) (port : UInt16)
    (hg : opGuard g (.createUdpSess addr port)) :
    RouteInv (exec (.createUdpSess addr port) w).2
      (opNext g.hold (.createUdpSess addr port) (exec (.createUdpSess addr port) w).1) := by
  have hg : g.hold = .absent ⟨addr, port⟩ := hg
  have hroute : g.hold.routing = none := by rw [hg]; rfl
  rcases createUdpSess_spec hs.table (hs.absent _ hg) with ⟨_, heq⟩ |
    ⟨i, stk, mal, st', _, hin, hst, heq, _⟩ | ⟨i, stk, m, mal, gtod, t, st', _, _, hin, hst, heq, _⟩
  · simp only [exec, heq, opNext]
    exact hr.frame_plain rfl (fun _ => ⟨rfl, rfl⟩) hroute plain_idle hr.log
  · -- only the key of a free slot was written
    simp only [exec, heq, opNext]
    refine hr.frame_plain (by rw [hst]) (fun j => ?_) hroute plain_idle hr.log
    rw [hst]
    by_cases hj : j = i
    · subst hj; simp [logins]
    · simp [logins, hj]
  · -- a slot without login and without entry is opened
    have hdisc := ((hs.table.mem_free i).mp hin).2
    have hclean := hs.clean i hdisc
    have hent := entry_update hr hroute hclean.isAuthenticated
      (show st'.ipv4Map = w.st.ipv4Map by rw [hst])
      (show st'.sessArr = Function.update w.st.sessArr i _ by rw [hst])
    simp only [exec, heq, opNext]
    refine ⟨?_, ?_, by simp [Hold.pending], by simp [Hold.assigned], by simp [Hold.stored],
      by simp [Hold.targeted], hr.log_append (by simp)⟩
    · intro b hb
      obtain ⟨_, hc, ha, hi⟩ := hent b hb
      exact ⟨hc, .inl ha, hi, by simp [Hold.unlinked]⟩
    · intro j hj
      have hji : j ≠ i := by
        rintro rfl
        rw [hst] at hj
        simp [createdSess, hclean.isAuthenticated] at hj
      rw [hst] at hj ⊢
      simp only [Function.update_of_ne hji] at hj ⊢
      exact hr.nonzero j hj

/-- INTERNAL: a slot that is given back has lost its entry before. -/
theorem routeInv_delete (hs : SlotInv w g.hold) (hr : RouteInv w g.hold) (i : Nat)
    (hg : opGuard g (.deleteUdpSession i)) :
    RouteInv (exec (.deleteUdpSession i) w).2
      (opNext g.hold (.deleteUdpSession i) (exec (.deleteUdpSession i) w).1) := by
  have hg : g.hold = .closed i := hg
  have hc := hs.held i (by rw [hg]; rfl)
  obtain ⟨stk, m, st', _, hst, heq, _⟩ := deleteUdpSession_spec hs.table hc
  simp only [exec, heq, opNext]
  refine ⟨?_, ?_, by simp [Hold.pending], by simp [Hold.assigned], by simp [Hold.stored],
    by simp [Hold.targeted], hr.log_append (by simp)⟩
  · intro b hb
    have hslot : slotAt st' b = slotAt w.st b := by rw [hst]; rfl
    rw [hst] at hb
    obtain ⟨hcb, ha, hi, hu⟩ := hr.entry b hb
    have hne : slotAt w.st b ≠ i := by
      rintro rfl
      exact hu (by rw [hg]; rfl)
    rw [hg] at ha
    simp only [hslot]
    rw [hst]
    simp only [Function.update_of_ne hne]
    exact ⟨hcb, .inl (ha.resolve_right (by simp [Hold.routing])), hi, by simp [Hold.unlinked]⟩
  · intro j hj
    have hji : j ≠ i := by
      rintro rfl
      rw [hst] at hj
      simp [resetUdpSession] at hj
    rw [hst] at hj ⊢
    simp only [Function.update_of_ne hji] at hj ⊢
    exact hr.nonzero j hj

theorem routeInv_loadIsAuthenticated (hr : RouteInv w g.hold) (i : Nat)
    (hg : opGuard g (.loadIsAuthenticated i)) :
    RouteInv (exec (.loadIsAuthenticated i) w).2
      (opNext g.hold (.loadIsAuthenticated i) (exec (.loadIsAuthenticated i) w).1) := by
  have hroute : g.hold.routing = none := by
    rcases hg with hg | hg | hg | ⟨j, hg⟩ <;> rw [hg] <;> rfl
  cases ha : (w.st.sessArr i).isAuthenticated with
  | true =>
    simp only [exec, World.sess, ha, opNext, if_true]
    split
    · exact hr.frame_plain rfl (fun _ => ⟨rfl, rfl⟩) hroute (plain_authed i) hr.log
    split
    · exact hr.frame_plain rfl (fun _ => ⟨rfl, rfl⟩) hroute (plain_authed i) hr.log
    · refine hr.frame rfl (fun _ => ⟨rfl, rfl⟩) hroute (by simp [Hold.unlinked]) (by simp [Hold.pending])
        (by simp [Hold.assigned]) (by simp [Hold.stored]) ?_ hr.log
      rintro j ⟨rfl⟩
      exact ha
  | false =>
    simp only [exec, World.sess, ha, opNext, Bool.false_eq_true, if_false]
    split
    · refine hr.frame rfl (fun _ => ⟨rfl, rfl⟩) hroute (by simp [Hold.unlinked]) ?_ (by simp [Hold.assigned])
        (by simp [Hold.stored]) (by simp [Hold.targeted]) hr.log
      rintro j ⟨rfl⟩
      exact ha
    split
    · exact hr.frame_plain rfl (fun _ => ⟨rfl, rfl⟩) hroute ⟨rfl, rfl, rfl, rfl, rfl⟩ hr.log
    · exact hr.frame_plain rfl (fun _ => ⟨rfl, rfl⟩) hroute plain_idle hr.log

/-- INTERNAL: the address is stored before the login counts. -/
theorem routeInv_storeIpv4Iff (hr : RouteInv w g.hold) (i : Nat) (addr : UInt32)
    (hg : opGuard g (.storeIpv4Iff i addr)) :
    RouteInv (exec (.storeIpv4Iff i addr) w).2
      (opNext g.hold (.storeIpv4Iff i addr) (exec (.storeIpv4Iff i addr) w).1) := by
  have hg : g.hold = .granted i addr := hg
  have hroute : g.hold.routing = none := by rw [hg]; rfl
  have hauth := hr.pending i (by rw [hg]; rfl)
  have hne := hr.assigned i addr (by rw [hg]; rfl)
  have hent := entry_update hr hroute hauth
    (show (exec (.storeIpv4Iff i addr) w).2.st.ipv4Map = w.st.ipv4Map from rfl) rfl
  have hself : ((exec (.storeIpv4Iff i addr) w).2.st.sessArr i) =
      { w.st.sessArr i with ipv4Iff := addr } := by simp [exec, World.setSess]
  refine ⟨?_, ?_, ?_, ?_, ?_, by simp [opNext, Hold.targeted], hr.log⟩
  · intro b hb
    obtain ⟨_, hc, ha, hi⟩ := hent b hb
    exact ⟨hc, .inl ha, hi, by simp [opNext, Hold.unlinked]⟩
  · intro j hj
    have hji : j ≠ i := by
      rintro rfl
      rw [hself] at hj
      rw [show (w.st.sessArr j).isAuthenticated = false from hauth] at hj
      cases hj
    simp only [exec, World.setSess, Function.update_of_ne hji] at hj ⊢
    exact hr.nonzero j hj
  · rintro j ⟨rfl⟩
    rw [hself]
    exact hauth
  · rintro j a ⟨rfl, rfl⟩
    exact hne
  · rintro j a ⟨rfl, rfl⟩
    rw [hself]

/-- INTERNAL: the login counts, and with it the entry made for it. -/
theorem routeInv_storeIsAuthenticated (hr : RouteInv w g.hold) (i : Nat)
    (hg : opGuard g (.storeIsAuthenticated i)) :
    RouteInv (exec (.storeIsAuthenticated i) w).2
      (opNext g.hold (.storeIsAuthenticated i) (exec (.storeIsAuthenticated i) w).1) := by
  obtain ⟨addr, hg⟩ := hg
  have hne := hr.assigned i addr (by rw [hg]; rfl)
  have hiff := hr.stored i addr (by rw [hg]; rfl)
  have hget : ∀ j, (exec (.storeIsAuthenticated i) w).2.st.sessArr j =
      if j = i then { w.st.sessArr i with isAuthenticated := true } else w.st.sessArr j :=
    w.sessArr_setSess i _
  refine ⟨?_, ?_, by simp [opNext, Hold.pending], by simp [opNext, Hold.assigned],
    by simp [opNext, Hold.stored], by simp [opNext, Hold.targeted], hr.log⟩
  · intro b hb
    obtain ⟨hc, ha, hi, _⟩ := hr.entry b hb
    have hslot : slotAt (exec (.storeIsAuthenticated i) w).2.st b = slotAt w.st b := rfl
    rw [hslot, hget]
    refine ⟨?_, .inl ?_, ?_, by simp [opNext, Hold.unlinked]⟩
    · split
      · next h => rw [h] at hc; exact hc
      · exact hc
    · split
      · rfl
      · next h =>
        rcases ha with ha | ha
        · exact ha
        · rw [hg, Hold.routing, Option.some.injEq] at ha
          exact absurd ha.symm h
    · split
      · next h => rw [h] at hi; exact hi
      · exact hi
  · intro j hj
    rw [hget] at hj ⊢
    split
    · rw [hiff]
      exact hne
    · next h =>
      rw [if_neg h] at hj
      exact hr.nonzero j hj

/-- INTERNAL: the entry at the address is replaced. -/
theorem routeInv_addRoute (hs : SlotInv w g.hold) (hr : RouteInv w g.hold) (addr : UInt32) (idx : UInt16)
    (hg : opGuard g (.addRoute addr idx)) :
    RouteInv (exec (.addRoute addr idx) w).2
      (opNext g.hold (.addRoute addr idx) (exec (.addRoute addr idx) w).1) := by
  obtain ⟨i, hg, hidx⟩ := hg
  have hroute : g.hold.routing = none := by rw [hg]; rfl
  have hauth := hr.pending i (by rw [hg]; rfl)
  have hne := hr.assigned i addr (by rw [hg]; rfl)
  have hiff := hr.stored i addr (by rw [hg]; rfl)
  have hc := hs.held i (by rw [hg]; rfl)
  have hslotidx : idx.toNat = i := by
    rw [hidx]
    exact toNat_ofNat_slot w.st (hs.table.connected_lt i hc)
  simp only [exec, opNext, hg]
  refine ⟨?_, hr.nonzero, by simp [Hold.pending], ?_, ?_, by simp [Hold.targeted], hr.log⟩
  · intro b hb
    simp only [slotAt_addRoute]
    by_cases hba : b = low16 addr
    · rw [if_pos hba, hslotidx]
      refine ⟨hc, .inr rfl, ?_, by simp [Hold.unlinked]⟩
      rw [hiff, hba]
    · rw [if_neg hba]
      have hb' : w.st.ipv4Map b.1 b.2 ≠ 0 := by
        rw [← addRoute_of_ne w.st.ipv4Map idx hba]
        exact hb
      obtain ⟨hcb, ha, hi, _⟩ := hr.entry b hb'
      rw [hroute] at ha
      exact ⟨hcb, .inl (ha.resolve_right (by simp)), hi, by simp [Hold.unlinked]⟩
  · rintro j a ⟨rfl, rfl⟩
    exact hne
  · rintro j a ⟨rfl, rfl⟩
    exact hiff

/-- INTERNAL: the session loses its entry. -/
theorem routeInv_delRoute (hr : RouteInv w g.hold) (addr : UInt32)
    (hg : opGuard g (.delRoute addr)) :
    RouteInv (exec (.delRoute addr) w).2
      (opNext g.hold (.delRoute addr) (exec (.delRoute addr) w).1) := by
  obtain ⟨hzero, i, hg⟩ := hg
  have hroute : g.hold.routing = none := by rw [hg]; rfl
  have hiff := hr.stored i addr (by rw [hg]; rfl)
  simp only [exec, opNext, hg]
  refine ⟨?_, hr.nonzero, by simp [Hold.pending], by simp [Hold.assigned], by simp [Hold.stored],
    by simp [Hold.targeted], hr.log⟩
  intro b hb
  have hba : b ≠ low16 addr := by
    rintro rfl
    exact hb (delRoute_self _ _)
  have hkeep := delRoute_of_ne w.st.ipv4Map hba
  have hb' : w.st.ipv4Map b.1 b.2 ≠ 0 := hkeep ▸ hb
  have hslot : slotAt { w.st with ipv4Map := delIpv4RouteMap w.st.ipv4Map addr } b =
      slotAt w.st b := by simp [slotAt, hkeep]
  obtain ⟨hcb, ha, hi, _⟩ := hr.entry b hb'
  rw [hroute] at ha
  rw [hslot]
  refine ⟨hcb, .inl (ha.resolve_right (by simp)), hi, ?_⟩
  -- an entry for the session would stand at its address
  rintro ⟨rfl⟩
  exact hba (hi.symm.trans (congrArg low16 hiff))

theorem routeInv_getRoute (hr : RouteInv w g.hold) (addr : UInt32)
    (hg : opGuard g (.getRoute addr)) :
    RouteInv (exec (.getRoute addr) w).2
      (opNext g.hold (.getRoute addr) (exec (.getRoute addr) w).1) := by
  have hg : g.hold = .idle := hg
  have hroute : g.hold.routing = none := by rw [hg]; rfl
  simp only [exec, opNext]
  split
  · exact hr.frame_same rfl (fun _ => ⟨rfl, rfl⟩) hroute hr.log
  · next idx hget =>
    refine hr.frame rfl (fun _ => ⟨rfl, rfl⟩) hroute (by simp [Hold.unlinked]) (by simp [Hold.pending])
      (by simp [Hold.assigned]) (by simp [Hold.stored]) ?_ hr.log
    rintro j ⟨rfl⟩
    unfold getIpv4RouteMap at hget
    split at hget
    · cases hget
    · next hb =>
      cases hget
      obtain ⟨_, ha, _⟩ := hr.entry (low16 addr) hb
      rw [hroute] at ha
      exact ha.resolve_right (by simp)

/-- INTERNAL: TUN data go to authenticated sessions only. -/
theorem routeInv_send (hr : RouteInv w g.hold) (i : Nat) (data : List UInt8)
    (hg : opGuard g (.send i data)) :
    RouteInv (exec (.send i data) w).2
      (opNext g.hold (.send i data) (exec (.send i data) w).1) := by
  obtain ⟨ret, stop, em, poll, rs, _, _, heq⟩ := sendToClient_spec w i data
  have hg : sendGuard g i (kindOf data) := hg
  simp only [exec, heq, opNext]
  cases hk : kindOf data with
  | none =>
    rw [hk] at hg
    exact hg.elim
  | some kind =>
    rw [hk] at hg
    have hlog : kind ≠ .tunData ∨ (w.st.sessArr i).isAuthenticated = true →
        ∀ j dst auth data' ret', Event.send j dst auth data' ret' ∈ w.log ++
          [.send i (w.st.sessArr i).addr (w.st.sessArr i).isAuthenticated data ret] →
        kindOf data' = some .tunData → auth = true := by
      intro hor
      apply hr.log_append
      rintro j dst auth data' ret' ⟨⟩ hk'
      rw [hk'] at hk
      cases hk
      exact hor.resolve_left (by simp)
    cases kind with
    | handshake =>
      have hroute : g.hold.routing = none := by rw [hg.1]; rfl
      simp only [sendNext]
      split
      · exact hr.frame_plain rfl (fun _ => ⟨rfl, rfl⟩) hroute (plain_closing i) (hlog (.inl (by simp)))
      · exact hr.frame_plain rfl (fun _ => ⟨rfl, rfl⟩) hroute (plain_opened i) (hlog (.inl (by simp)))
    | authOk =>
      obtain ⟨addr, hg⟩ := hg
      have hroute : g.hold.routing = none := by rw [hg]; rfl
      simp only [sendNext, hg]
      split
      · exact hr.frame_plain rfl (fun _ => ⟨rfl, rfl⟩) hroute (plain_closing i) (hlog (.inl (by simp)))
      · refine hr.frame rfl (fun _ => ⟨rfl, rfl⟩) hroute (by simp [Hold.unlinked]) ?_ ?_ (by simp [Hold.stored])
          (by simp [Hold.targeted]) (hlog (.inl (by simp)))
        · rintro j ⟨rfl⟩
          exact hr.pending i (by rw [hg]; rfl)
        · rintro j a ⟨rfl, rfl⟩
          exact hr.assigned i addr (by rw [hg]; rfl)
    | tunData =>
      have hg : g.hold = .target i := hg
      have hroute : g.hold.routing = none := by rw [hg]; rfl
      have ha := hr.targeted i (by rw [hg]; rfl)
      exact hr.frame_same rfl (fun _ => ⟨rfl, rfl⟩) hroute (hlog (.inr ha))
    | reqsync =>
      have hg : g.hold = .authed i := hg
      exact hr.frame_same rfl (fun _ => ⟨rfl, rfl⟩) (by rw [hg]; rfl) (hlog (.inl (by simp)))
    | sync =>
      have hroute : g.hold.routing = none := by rcases hg with hg | hg <;> rw [hg] <;> rfl
      exact hr.frame_same rfl (fun _ => ⟨rfl, rfl⟩) hroute (hlog (.inl (by simp)))
    | close =>
      have hroute : g.hold.routing = none := by rcases hg with hg | hg <;> rw [hg] <;> rfl
      refine hr.frame rfl (fun _ => ⟨rfl, rfl⟩) hroute ?_ (by simp [sendNext, Hold.pending])
        (by simp [sendNext, Hold.assigned]) (by simp [sendNext, Hold.stored])
        (by simp [sendNext, Hold.targeted]) (hlog (.inl (by simp)))
      intro b hb
      rcases hg with hg | hg
      · -- the route was removed
        have hu := (hr.entry b hb).2.2.2
        rw [hg] at hu
        exact hu
      · -- there was none: a session without address is not authenticated
        rintro ⟨rfl⟩
        obtain ⟨_, ha, _, _⟩ := hr.entry b hb
        rw [hroute] at ha
        have hz := hr.stored (slotAt w.st b) 0 (by rw [hg]; rfl)
        exact hr.nonzero _ (ha.resolve_right (by simp)) hz
    | handshakeReject =>
      have hg : g.hold = .fresh i := hg
      exact hr.frame_plain rfl (fun _ => ⟨rfl, rfl⟩) (by rw [hg]; rfl) (plain_closing i) (hlog (.inl (by simp)))
    | authReject =>
      have hg : g.hold = .denied i := hg
      exact hr.frame_plain rfl (fun _ => ⟨rfl, rfl⟩) (by rw [hg]; rfl) (plain_closing i) (hlog (.inl (by simp)))

theorem routeInv_auth (hr : RouteInv w g.hold) (i : Nat) (username password : List UInt8)
    (hg : opGuard g (.auth i username password))
    (hlogin : ∀ i iff, g.hold = .candidate i → pktType g.pkt.raw = TCLI_PKT_AUTH →
      teavpn2Auth w.st.dataDir w.env.fopen (Srv.authUsername g.pkt.raw)
        (Srv.authPassword g.pkt.raw) = some iff → inetAddr iff.ipv4 ≠ 0) :
    RouteInv (exec (.auth i username password) w).2
      (opNext g.hold (.auth i username password) (exec (.auth i username password) w).1) := by
  obtain ⟨hg, htype, hu, hp⟩ := hg
  have hroute : g.hold.routing = none := by rw [hg]; rfl
  have hauth := hr.pending i (by rw [hg]; rfl)
  simp only [exec, opNext]
  split
  · next iff hsome =>
    refine hr.frame rfl (fun _ => ⟨rfl, rfl⟩) hroute (by simp [Hold.unlinked]) ?_ ?_ (by simp [Hold.stored])
      (by simp [Hold.targeted]) (hr.log_append (by simp))
    · rintro j ⟨rfl⟩
      exact hauth
    · rintro j a ⟨rfl, rfl⟩
      rw [hu, hp] at hsome
      exact hlogin i iff hg htype hsome
  · refine hr.frame rfl (fun _ => ⟨rfl, rfl⟩) hroute (by simp [Hold.unlinked]) ?_ (by simp [Hold.assigned])
      (by simp [Hold.stored]) (by simp [Hold.targeted]) (hr.log_append (by simp))
    rintro j ⟨rfl⟩
    exact hauth

end Operations

/-- INTERNAL: **every guarded operation keeps the route map sound**, if the address a login
is accepted with is not zero. -/
theorem routeInv_exec {w : World} {g : Ghost} (o : Op) (hs : SlotInv w g.hold)
    (hr : RouteInv w g.hold) (hg : opGuard g o)
    (hlogin : ∀ i iff, g.hold = .candidate i → pktType g.pkt.raw = TCLI_PKT_AUTH →
      teavpn2Auth w.st.dataDir w.env.fopen (Srv.authUsername g.pkt.raw)
        (Srv.authPassword g.pkt.raw) = some iff → inetAddr iff.ipv4 ≠ 0) :
    RouteInv (exec o w).2 (opNext g.hold o (exec o w).1) := by
  have hsame : ∀ i, (w.st.sessArr i).isConnected = (w.st.sessArr i).isConnected ∧
      logins w.st i = logins w.st i := fun _ => ⟨rfl, rfl⟩
  cases o with
  | lookupUdpSess addr port =>
    have hroute : g.hold.routing = none := by rw [hg.1]; rfl
    cases hl : lookupUdpSess w.st addr port with
    | none =>
      simp only [exec, hl, opNext]
      exact hr.frame_plain rfl hsame hroute ⟨rfl, rfl, rfl, rfl, rfl⟩ hr.log
    | some i =>
      simp only [exec, hl, opNext]
      exact hr.frame_plain rfl hsame hroute (plain_found i) hr.log
  | createUdpSess addr port => exact routeInv_create hs hr addr port hg
  | deleteUdpSession i => exact routeInv_delete hs hr i hg
  | loadIsConnected i =>
    have hroute : g.hold.routing = none := by
      rcases hg with hg | ⟨j, hg | hg | hg | hg⟩ <;> rw [hg] <;> rfl
    cases hc : (w.st.sessArr i).isConnected with
    | false =>
      simp only [exec, World.sess, hc, opNext, Bool.false_eq_true, if_false]
      exact hr.frame_plain rfl hsame hroute plain_idle hr.log
    | true =>
      simp only [exec, World.sess, hc, opNext, if_true]
      exact hr.frame_plain rfl hsame hroute (plain_opened i) hr.log
  | loadIsAuthenticated i => exact routeInv_loadIsAuthenticated hr i hg
  | loadIpv4Iff i =>
    have hroute : g.hold.routing = none := by
      rcases hg with hg | hg | hg | hg | hg <;> rw [hg] <;> rfl
    refine hr.frame rfl hsame hroute (by simp [opNext, Hold.unlinked]) (by simp [opNext, Hold.pending])
      (by simp [opNext, Hold.assigned]) ?_ (by simp [opNext, Hold.targeted]) hr.log
    rintro j a ⟨rfl, rfl⟩
    rfl
  | storeAddr i saddr =>
    have hg : g.hold = .created i saddr := hg
    exact hr.frame_plain rfl (view_setSess w i _ fun _ => ⟨rfl, rfl, rfl⟩) (by rw [hg]; rfl)
      ⟨rfl, rfl, rfl, rfl, rfl⟩ hr.log
  | storeIpv4Iff i addr => exact routeInv_storeIpv4Iff hr i addr hg
  | storeIsAuthenticated i => exact routeInv_storeIsAuthenticated hr i hg
  | storeUsername i username =>
    have hg : g.hold = .authed i := hg
    exact hr.frame_same rfl (view_setSess w i _ fun _ => ⟨rfl, rfl, rfl⟩) (by rw [hg]; rfl) hr.log
  | updateLastAct i =>
    have hroute : g.hold.routing = none := by rcases hg with hg | hg <;> rw [hg] <;> rfl
    obtain ⟨gtod, t, _, heq⟩ := udpSessUpdateLastAct_eq w i
    simp only [exec, heq, opNext]
    refine hr.frame_same rfl (fun j => ?_) hroute hr.log
    simp only [logins]
    by_cases hj : j = i
    · subst hj; simp
    · simp [hj]
  | incLoopC i =>
    have hview := view_setSess w i (fun s => { s with loopC := s.loopC + 1 }) fun _ => ⟨rfl, rfl, rfl⟩
    rcases hg with hg | hg | hg <;> simp only [opNext, hg] <;>
      exact hr.frame_plain rfl hview (by rw [hg]; rfl) ⟨rfl, rfl, rfl, rfl, rfl⟩ hr.log
  | addRoute addr idx => exact routeInv_addRoute hs hr addr idx hg
  | delRoute addr => exact routeInv_delRoute hr addr hg
  | getRoute addr => exact routeInv_getRoute hr addr hg
  | getUnixTime =>
    obtain ⟨r, gtod, heq⟩ := getUnixTime_eq w
    simp only [exec, heq, opNext]
    exact ⟨hr.entry, hr.nonzero, hr.pending, hr.assigned, hr.stored, hr.targeted, hr.log⟩
  | send i data => exact routeInv_send hr i data hg
  | writeTun i data =>
    obtain ⟨ret, stop, em, poll, rs, tried, _, heq⟩ := writeTun_spec w i data
    simp only [exec, heq, opNext]
    refine hr.frame_same rfl hsame (by rw [hg.1]; rfl) ?_
    intro j dst auth data' ret' hin hk
    rcases List.mem_append.mp hin with hin | hin
    · exact hr.log j dst auth data' ret' hin hk
    · obtain ⟨r, _, hr⟩ := List.mem_map.mp hin
      cases hr
  | auth i username password => exact routeInv_auth hr i username password hg hlogin
  | loadLastAct i => exact hr
  | loadIdx i => exact hr
  | loadWiu i => exact hr
  | loadNOnSess => exact hr
  | loadRejMsg => exact hr

/-! ## Runs -/

/-- The datagram is the AUTH packet of an open session that is not authenticated, and its
credentials are accepted, with the address `addr`. -/
def Login (s : Server) (env : Env) : Input → Nat → UInt32 → Prop
  | .udp saddr data, i, addr =>
      data ≠ [] ∧ pktType (Srv.doRecvFrom s.pkt data).raw = TCLI_PKT_AUTH ∧
      lookupUdpSess s.st saddr.addr saddr.port = some i ∧
      (s.st.sessArr i).isAuthenticated = false ∧
      ∃ iff, teavpn2Auth s.st.dataDir env.fopen
        (Srv.authUsername (Srv.doRecvFrom s.pkt data).raw)
        (Srv.authPassword (Srv.doRecvFrom s.pkt data).raw) = some iff ∧ inetAddr iff.ipv4 = addr
  | _, _, _ => False

/-- INTERNAL: a login that is decided while an input is handled is the login of the input. -/
theorem Seen.login {s : Server} {env : Env} {inp : Input} {w : World} {g : Ghost} {i : Nat}
    {iff : IfInfo} (h : Seen s env inp w g) (hg : g.hold = .candidate i)
    (htype : pktType g.pkt.raw = TCLI_PKT_AUTH)
    (hauth : teavpn2Auth w.st.dataDir w.env.fopen (Srv.authUsername g.pkt.raw)
      (Srv.authPassword g.pkt.raw) = some iff) : Login s env inp i (inetAddr iff.ipv4) := by
  obtain ⟨⟨hlen, hlook⟩, hno, _⟩ := h.candidate i hg
  rw [h.dataDir, h.fopen] at hauth
  rw [h.pkt] at hlen htype hauth
  rw [h.src] at hlook
  cases inp with
  | udp saddr data =>
    refine ⟨?_, htype, hlook, hno, iff, hauth, rfl⟩
    rintro rfl
    exact hlen rfl
  | tun data => exact absurd rfl hlen
  | reap => exact absurd rfl hlen
  | shutdown => exact absurd rfl hlen

/-- INTERNAL: the route map between two inputs. -/
def Server.RouteInv (s : Server) : Prop :=
  ∀ env : Env, Analysis.RouteInv (s.world env) .idle

theorem RouteInv.world {s : Server} {env : Env} {h : Hold} (hr : RouteInv (s.world env) h)
    (hrest : h.Rest) (env' : Env) : RouteInv (s.world env') .idle := by
  have hroute : h.routing = none := by
    cases h with
    | routed i a => exact hrest.elim
    | _ => rfl
  exact hr.frame_plain rfl (fun _ => ⟨rfl, rfl⟩) hroute plain_idle hr.log

theorem RouteInv.start {s : Server} {env : Env} (i : Input)
    (hr : RouteInv (s.world env) .idle) : RouteInv (startWorld s env i) (startGhost s i).hold := by
  cases i with
  | udp saddr data =>
    exact hr.frame_plain rfl (fun _ => ⟨rfl, rfl⟩) rfl ⟨rfl, rfl, rfl, rfl, rfl⟩
      (hr.log_append (by simp))
  | tun data => exact hr
  | reap => exact hr
  | shutdown => exact hr

theorem step_routeInv {s : Server} {env : Env} (i : Input) (hs : Server.SlotInv s)
    (hr : Server.RouteInv s) (henv : env.NoEbadmsg)
    (hlogin : ∀ slot addr, Login s env i slot addr → addr ≠ 0) : Server.RouteInv (s.step env i) := by
  obtain ⟨env', g, hrest, _, _, hI⟩ := step_inv
    (fun w g => SlotInv w g.hold ∧ Seen s env i w g ∧ RouteInv w g.hold)
    (fun w g o ⟨hsl, hse, hro⟩ hg => by
      obtain ⟨hok, hsl'⟩ := slotInv_exec o hsl hg
      refine ⟨hok, hsl', hse.step o hg, routeInv_exec o hsl hro hg ?_⟩
      intro slot iff hcand htype hauth
      exact hlogin slot _ (hse.login hcand htype hauth))
    ⟨(hs env henv).start i, seen_start s env i, (hr env).start i⟩
  intro env''
  exact hI.world hrest env''

theorem boot_routeInv (maxConn : UInt16) (dataDir : List UInt8) (o : ByteOrder)
    (pkt zrPkt : ScPkt) : Server.RouteInv (Server.boot maxConn dataDir o pkt zrPkt) := by
  intro env
  refine ⟨?_, ?_, by simp [Hold.pending], by simp [Hold.assigned], by simp [Hold.stored],
    by simp [Hold.targeted], by simp [Server.boot, Server.world]⟩
  · intro b hb
    exact absurd rfl hb
  · intro i hi
    cases hi

/-- Every entry of the route map points to a session that is connected and authenticated
and whose address has these low 16 bits. -/
def RouteSound (st : SrvUdpState) : Prop :=
  ∀ b₀ b₁ : UInt8, st.ipv4Map b₀ b₁ ≠ 0 →
    (st.ipv4Map b₀ b₁ - 1).toNat < st.maxConn.toNat ∧
    (st.sessArr (st.ipv4Map b₀ b₁ - 1).toNat).isConnected = true ∧
    (st.sessArr (st.ipv4Map b₀ b₁ - 1).toNat).isAuthenticated = true ∧
    byte0 (st.sessArr (st.ipv4Map b₀ b₁ - 1).toNat).ipv4Iff = b₀ ∧
    byte1 (st.sessArr (st.ipv4Map b₀ b₁ - 1).toNat).ipv4Iff = b₁

/-- Every TUN_DATA packet went to a session that was authenticated. -/
def TunSendsAuthenticated (log : List Event) : Prop :=
  ∀ i dst auth data ret, Event.send i dst auth data ret ∈ log →
    kindOf data = some .tunData → auth = true

/-- INTERNAL: the invariants of the slots and of the route map in every state of a run in
which no login is granted with the address zero. -/
theorem reach_routeInv {maxConn : UInt16} {dataDir : List UInt8} {o : ByteOrder}
    {pkt zrPkt : ScPkt} {s : Server}
    (h : Server.Reach (fun s env i => env.NoEbadmsg ∧ ∀ slot addr, Login s env i slot addr → addr ≠ 0)
      (Server.boot maxConn dataDir o pkt zrPkt) s) : Server.SlotInv s ∧ Server.RouteInv s := by
  refine h.inv (fun s => Server.SlotInv s ∧ Server.RouteInv s)
    ⟨boot_slotInv maxConn dataDir o pkt zrPkt, boot_routeInv maxConn dataDir o pkt zrPkt⟩ ?_
  rintro s env i ⟨hs, hr⟩ ⟨henv, hlogin⟩
  exact ⟨step_slotInv i hs henv, step_routeInv i hs hr henv hlogin⟩

/-- INTERNAL: **soundness of the route map.** In every run in which no accepted login
assigns the address zero, every entry points to an authenticated session with the right
address bits, and data from the TUN device goes to authenticated sessions only.
SOURCE: udp.h:391-445, udp_epoll.c:323-336, 594-630, 805-869 -/
theorem routeMap_sound {maxConn : UInt16} {dataDir : List UInt8} {o : ByteOrder}
    {pkt zrPkt : ScPkt} {s : Server}
    (h : Server.Reach (fun s env i => env.NoEbadmsg ∧ ∀ slot addr, Login s env i slot addr → addr ≠ 0)
      (Server.boot maxConn dataDir o pkt zrPkt) s) :
    RouteSound s.st ∧ TunSendsAuthenticated s.log := by
  obtain ⟨hs, hr⟩ := reach_routeInv h
  have hslot := hs {} (by simp [Env.NoEbadmsg])
  have hroute := hr {}
  refine ⟨fun b₀ b₁ hb => ?_, hroute.log⟩
  obtain ⟨hc, ha, hi, _⟩ := hroute.entry (b₀, b₁) hb
  exact ⟨hslot.table.connected_lt _ hc, hc, ha.resolve_right (by simp [Hold.routing]),
    congrArg Prod.fst hi, congrArg Prod.snd hi⟩

/-- The user file of a client with the given address, and its AUTH datagram. -/
def userFile (ipv4 : String) : IniFile where
  entries := [(ascii "auth", ascii "password", ascii "secret"), (ascii "iface", ascii "ipv4", ascii ipv4)]

def authDatagram : List UInt8 := sent (cliPprepAuth (fun _ => 0) (ascii "user") (ascii "secret"))

theorem routeMap_sound_login :
    ∃ s, Server.Reach
        (fun s env i => env.NoEbadmsg ∧ ∀ slot addr, Login s env i slot addr → addr ≠ 0)
        (Server.boot 2 [] .little Server.zeroPkt Server.zeroPkt) s ∧
      s.st.ipv4Map 2 0 = 1 ∧ RouteSound s.st := by
  have h₀ : Server.Reach
    (fun s env i => env.NoEbadmsg ∧ ∀ slot addr, Login s env i slot addr → addr ≠ 0)
    (Server.boot 2 [] .little Server.zeroPkt Server.zeroPkt) _ := .init
  have h₁ := h₀.step {} (.udp ⟨0x0a000001, 1000⟩ handshakeDatagram) (by
    refine ⟨by simp [Env.NoEbadmsg], ?_⟩
    rintro slot addr ⟨_, htype, _⟩
    exact absurd htype (by decide))
  have h₂ := h₁.step { fopen := fun _ => some (userFile "10.5.0.2") }
    (.udp ⟨0x0a000001, 1000⟩ authDatagram) (by
    refine ⟨by simp [Env.NoEbadmsg], ?_⟩
    rintro slot addr ⟨_, _, _, _, iff, hauth, rfl⟩
    have hiff : some iff = some { ipv4 := ascii "10.5.0.2" } := by
      rw [← hauth]
      decide +kernel
    cases hiff
    decide +kernel)
  exact ⟨_, h₂, by decide +kernel, (routeMap_sound h₂).1⟩

/-- A client with the address `0.0.0.0` logs in and closes: its entry stays. -/
theorem routeMap_stale_entry :
    ¬∀ (maxConn : UInt16) (dataDir : List UInt8) (o : ByteOrder) (pkt zrPkt : ScPkt) (s : Server),
      Server.Reach (fun _ env _ => env.NoEbadmsg) (Server.boot maxConn dataDir o pkt zrPkt) s →
      RouteSound s.st := by
  intro h
  have h₀ : Server.Reach (fun _ env _ => env.NoEbadmsg)
    (Server.boot 1 [] .little Server.zeroPkt Server.zeroPkt) _ := .init
  have h₁ := h₀.step {} (.udp ⟨0x0a000001, 1000⟩ handshakeDatagram) (by simp [Env.NoEbadmsg])
  have h₂ := h₁.step { fopen := fun _ => some (userFile "0.0.0.0") }
    (.udp ⟨0x0a000001, 1000⟩ authDatagram) (by simp [Env.NoEbadmsg])
  have h₃ := h₂.step {} (.udp ⟨0x0a000001, 1000⟩ [TCLI_PKT_CLOSE, 0, 0, 0]) (by simp [Env.NoEbadmsg])
  have hsound := (h _ _ _ _ _ _ h₃ 0 0 (by decide +kernel)).2.1
  exact absurd hsound (by decide +kernel)

end TeaVpn2.Analysis
