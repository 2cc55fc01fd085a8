import TeaVpn2.Analysis.SessionProtocol
import TeaVpn2.Analysis.SessionTable

/-!
# No slot is lost and none is handed out twice

`SlotInv` is the invariant of the session slots beside what the running thread knows: the
table is consistent, the slot a thread holds is connected, a slot that is not connected
is as good as new. Every guarded operation keeps it (`slotInv_exec`), so every handler
does (`SlotInv.run`), and it holds between the inputs of every run
(`reach_slotInv`). Conservation of the slots (`slot_conservation`) is read off it.
-/

set_option autoImplicit false

namespace TeaVpn2.Analysis

open TeaVpn2 TeaVpn2.Lib

/-! ## Sending and writing -/

theorem emergencyWait_ret (f : IoFlags) :
    (emergencyWait f).1 = 0 ∨ (emergencyWait f).1 = -ENETDOWN := by
  unfold emergencyWait
  split
  · exact .inr rfl
  · dsimp only
    split
    · exact .inl rfl
    · exact .inr rfl

/-- INTERNAL: the retry loop consumes results of `sendto` and returns one of them, the
length of the packet, or `-ENETDOWN`.
SOURCE: udp_epoll.c:291-320 -/
theorem sendAgain_spec (n : Nat) (rs : List Int) (f : IoFlags) :
    (sendAgain n rs f).2.1 <:+ rs ∧
    ((sendAgain n rs f).1 ∈ rs ∨ (sendAgain n rs f).1 = n ∨
      (sendAgain n rs f).1 = -ENETDOWN) := by
  induction rs generalizing f with
  | nil => exact ⟨List.suffix_refl _, .inr (.inl rfl)⟩
  | cons r rs ih =>
    unfold sendAgain
    split
    · -- EAGAIN: wait, then try again or give up
      dsimp only
      split
      · obtain ⟨hsuf, hret⟩ := ih (emergencyWaitForUdpFdBeWritable f).2
        refine ⟨hsuf.trans (List.suffix_cons _ _), ?_⟩
        rcases hret with h | h | h
        · exact .inl (List.mem_cons_of_mem _ h)
        · exact .inr (.inl h)
        · exact .inr (.inr h)
      · next hne =>
        refine ⟨List.suffix_cons _ _, .inr (.inr ?_)⟩
        exact (emergencyWait_ret f).resolve_left hne
    · split
      · exact ⟨List.suffix_cons _ _, .inl (by simp)⟩
      · split
        · exact ⟨List.suffix_cons _ _, .inr (.inr rfl)⟩
        · exact ⟨List.suffix_cons _ _, .inl (by simp)⟩

/-- INTERNAL: **what a send does**: it consumes results of `sendto`, may set the flags of
an emergency, and is recorded with its result.
SOURCE: udp_epoll.c:206-320 -/
theorem sendToClient_spec (w : World) (i : Nat) (data : List UInt8) :
    ∃ ret stop em poll rs, rs <:+ w.env.sendto ∧
      (ret ∈ w.env.sendto ∨ ret = (data.length : Int) ∨ ret = -ENETDOWN) ∧
      w.sendToClient i data =
        (ret, { st := { w.st with stop := stop, inEmergency := em }
                env := { w.env with poll := poll, sendto := rs }
                log := w.log ++
                  [.send i (w.st.sessArr i).addr (w.st.sessArr i).isAuthenticated data ret] }) := by
  unfold World.sendToClient
  dsimp only
  split
  · next h =>
    refine ⟨0, w.st.stop, false, w.env.poll, w.env.sendto, List.suffix_refl _, ?_, ?_⟩
    · exact .inr (.inl (by rw [h]; rfl))
    · rfl
  · obtain ⟨hsuf, hret⟩ := sendAgain_spec data.length w.env.sendto w.ioFlags
    exact ⟨_, _, _, _, _, hsuf, hret, rfl⟩

theorem writeAgain_tried_ne_nil (n : Nat) (rs : List Int) (f : IoFlags) :
    (writeAgain n rs f).2.2.2 ≠ [] := by
  cases rs with
  | nil => simp [writeAgain]
  | cons r rs =>
    unfold writeAgain
    split
    · dsimp only
      split <;> simp
    · split
      · simp
      · split <;> simp

/-- INTERNAL: **what a write to the TUN device does**: at least one attempt is made and
every attempt is recorded.
SOURCE: udp_epoll.c:633-691 -/
theorem writeTun_spec (w : World) (i : Nat) (data : List UInt8) :
    ∃ ret stop em poll rs tried, tried ≠ [] ∧
      w.writeTun i data =
        (ret, { st := { w.st with stop := stop, inEmergency := em }
                env := { w.env with poll := poll, write := rs }
                log := w.log ++ tried.map fun r => .tunWrite (w.st.sessArr i).key
                  (w.st.sessArr i).isAuthenticated data r }) :=
  ⟨_, _, _, _, _, _, writeAgain_tried_ne_nil data.length w.env.write w.ioFlags, rfl⟩

theorem getUnixTime_eq (w : World) :
    ∃ r gtod, w.getUnixTime = (r, { w with env := { w.env with gettimeofday := gtod } }) := by
  cases hg : w.env.gettimeofday with
  | nil =>
    refine ⟨some w.env.clock, [], ?_⟩
    simp only [World.getUnixTime, hg]
    rw [← hg]
  | cons t ts => exact ⟨t, ts, by simp [World.getUnixTime, hg]⟩

theorem pushOrBug_eq (w : World) (idx : UInt16) :
    ∃ stk l, (l = [] ∨ l = [.bug]) ∧ pushOrBug w idx =
      { w with st := { w.st with sessStk := stk }, log := w.log ++ l } := by
  unfold pushOrBug
  split
  · next stk _ => exact ⟨stk, [], .inl rfl, by simp⟩
  · exact ⟨w.st.sessStk, [.bug], .inr rfl, rfl⟩

theorem mapInsertUdpSess_eq (w : World) (addr : UInt32) (i : Nat) :
    ∃ r m mal, (r = none ∨ r = some i) ∧ mapInsertUdpSess w addr i =
      (r, { w with st := { w.st with sessMap := m }, env := { w.env with malloc := mal } }) := by
  have hmal : ∃ b mal, w.malloc = (b, { w with env := { w.env with malloc := mal } }) := by
    unfold World.malloc
    split
    · exact ⟨true, w.env.malloc, rfl⟩
    · next b bs _ => exact ⟨b, bs, rfl⟩
  obtain ⟨b, mal, hmal⟩ := hmal
  unfold mapInsertUdpSess
  dsimp only
  split
  · exact ⟨some i, _, w.env.malloc, .inr rfl, rfl⟩
  · rw [hmal]
    cases b with
    | false => exact ⟨none, w.st.sessMap, mal, .inl rfl, rfl⟩
    | true => exact ⟨some i, _, mal, .inr rfl, rfl⟩

/-- INTERNAL: what `create_udp_sess` can do, in any state: nothing, or take a slot and give it
back, or open a session in it.
SOURCE: udp_session.c:59-100 -/
theorem createUdpSess_cases (w : World) (addr : UInt32) (port : UInt16) :
    createUdpSess w addr port = (.error EAGAIN, w) ∨
    ∃ i stk m mal w₁,
      w₁ = { { w with st := { w.st with sessStk := stk } }.setSess i fun s =>
          { s with srcAddr := addr, srcPort := port } with
        st := { ({ w with st := { w.st with sessStk := stk } }.setSess i fun s =>
          { s with srcAddr := addr, srcPort := port }).st with sessMap := m }
        env := { w.env with malloc := mal } } ∧
      ((∃ stk' l, (l = [] ∨ l = [.bug]) ∧ createUdpSess w addr port =
          (.error ENOMEM,
            { w₁ with st := { w₁.st with sessStk := stk' }, log := w₁.log ++ l })) ∨
        ∃ w₂, w₂ = ((w₁.setSess i fun s =>
            { s with strSrcAddr := inetNtop addr }).udpSessUpdateLastAct i).setSess i
              (fun s => { s with isConnected := true }) ∧
          createUdpSess w addr port = (.ok i,
            { w₂ with st := { w₂.st with nOnSess := w₂.st.nOnSess + 1 } }.emit
              (.create i ⟨addr, port⟩))) := by
  unfold createUdpSess
  split
  · exact .inl rfl
  · next idx stk _ =>
    obtain ⟨r, m, mal, hr, hins⟩ := mapInsertUdpSess_eq
      ({ w with st := { w.st with sessStk := stk } }.setSess idx.toNat fun s =>
        { s with srcAddr := addr, srcPort := port }) addr idx.toNat
    refine .inr ⟨idx.toNat, stk, m, mal, _, rfl, ?_⟩
    dsimp only
    rw [hins]
    rcases hr with rfl | rfl
    · obtain ⟨stk', l, hl, hpush⟩ := pushOrBug_eq _ idx
      exact .inl ⟨stk', l, hl, congrArg (Prod.mk (Except.error ENOMEM)) hpush⟩
    · exact .inr ⟨_, rfl, rfl⟩

theorem send_ret_ne_ebadmsg {env : Env} (h : env.NoEbadmsg) {ret : Int} {n : Nat}
    (hret : ret ∈ env.sendto ∨ ret = (n : Int) ∨ ret = -ENETDOWN) : ret ≠ -EBADMSG := by
  rcases hret with hin | rfl | rfl
  · exact h ret hin
  · simp only [EBADMSG]
    omega
  · decide

/-! ## The invariant -/

/-- A slot without session holds nothing of its last one. -/
structure Clean (s : UdpSess) : Prop where
  isAuthenticated : s.isAuthenticated = false
  ipv4Iff : s.ipv4Iff = 0
  loopC : s.loopC ≤ 1

/-- INTERNAL: the invariant of the slots while a thread that knows `h` runs. -/
structure SlotInv (w : World) (h : Hold) : Prop where
  table : TableInv w.st
  kernel : w.env.NoEbadmsg
  noBug : Event.bug ∉ w.log
  clean : ∀ i, (w.st.sessArr i).isConnected = false → Clean (w.st.sessArr i)
  held : ∀ i, h.slot = some i → (w.st.sessArr i).isConnected = true
  absent : ∀ k, h = .absent k → Absent w.st k
  dead : ∀ i, h = .dead i → (w.st.sessArr i).isConnected = false ∧ (w.st.sessArr i).loopC = 0

namespace SlotInv

variable {w w' : World} {h h' : Hold}

/-- INTERNAL: a step that leaves the table alone, and of the sessions changes only
connected ones, keeps the invariant. -/
theorem frame (hw : SlotInv w h) (hmax : w'.st.maxConn = w.st.maxConn)
    (hstk : w'.st.sessStk = w.st.sessStk) (hmap : w'.st.sessMap = w.st.sessMap)
    (hn : w'.st.nOnSess = w.st.nOnSess) (henv : w'.env.NoEbadmsg) (hlog : Event.bug ∉ w'.log)
    (hfields : ∀ i, (w'.st.sessArr i).isConnected = (w.st.sessArr i).isConnected ∧
      (w'.st.sessArr i).idx = (w.st.sessArr i).idx ∧
      (w'.st.sessArr i).srcAddr = (w.st.sessArr i).srcAddr ∧
      (w'.st.sessArr i).srcPort = (w.st.sessArr i).srcPort)
    (hfree : ∀ i, (w.st.sessArr i).isConnected = false → w'.st.sessArr i = w.st.sessArr i)
    (hheld : ∀ i, h'.slot = some i → (w.st.sessArr i).isConnected = true)
    (habs : ∀ k, h' = .absent k → Absent w.st k)
    (hdead : ∀ i, h' = .dead i → h = .dead i) : SlotInv w' h' := by
  refine ⟨hw.table.congr hmax hstk hmap hfields hn, henv, hlog, ?_, ?_, ?_, ?_⟩
  · intro i hi
    rw [(hfields i).1] at hi
    rw [hfree i hi]
    exact hw.clean i hi
  · intro i hi
    rw [(hfields i).1]
    exact hheld i hi
  · intro k hk i hc
    rw [(hfields i).1] at hc
    have hkey : (w'.st.sessArr i).key = (w.st.sessArr i).key := by
      simp [UdpSess.key, (hfields i).2.2.1, (hfields i).2.2.2]
    rw [hkey]
    exact habs k hk i hc
  · intro i hi
    have hd := hw.dead i (hdead i hi)
    rw [hfree i hd.1]
    exact hd

/-- INTERNAL: the same for a step that changes no session. -/
theorem frame_arr (hw : SlotInv w h) (hmax : w'.st.maxConn = w.st.maxConn)
    (hstk : w'.st.sessStk = w.st.sessStk) (hmap : w'.st.sessMap = w.st.sessMap)
    (hn : w'.st.nOnSess = w.st.nOnSess) (harr : w'.st.sessArr = w.st.sessArr)
    (henv : w'.env.NoEbadmsg) (hlog : Event.bug ∉ w'.log)
    (hheld : ∀ i, h'.slot = some i → (w.st.sessArr i).isConnected = true)
    (habs : ∀ k, h' = .absent k → Absent w.st k)
    (hdead : ∀ i, h' = .dead i → h = .dead i) : SlotInv w' h' :=
  hw.frame hmax hstk hmap hn henv hlog (fun i => by simp [harr]) (fun i _ => by rw [harr])
    hheld habs hdead

/-- INTERNAL: a thread that holds a slot knows nothing else. -/
theorem of_slot {i : Nat} (hs : h'.slot = some i) (hc : (w.st.sessArr i).isConnected = true) :
    (∀ j, h'.slot = some j → (w.st.sessArr j).isConnected = true) ∧
    (∀ k, h' = .absent k → Absent w.st k) ∧ ∀ j, h' = .dead j → h = .dead j := by
  refine ⟨?_, ?_, ?_⟩
  · intro j hj
    rw [hs] at hj
    cases hj
    exact hc
  · rintro k rfl
    cases hs
  · rintro j rfl
    cases hs

/-- INTERNAL: the same for a store into the connected session `i` that leaves its key
alone. -/
theorem frame_set (hw : SlotInv w h) {i : Nat} (hc : (w.st.sessArr i).isConnected = true)
    (hs : h'.slot = some i) (f : UdpSess → UdpSess)
    (hf : ∀ s, (f s).isConnected = s.isConnected ∧ (f s).idx = s.idx ∧
      (f s).srcAddr = s.srcAddr ∧ (f s).srcPort = s.srcPort) : SlotInv (w.setSess i f) h' := by
  obtain ⟨hheld, habs, hdead⟩ := of_slot (h := h) hs hc
  refine hw.frame rfl rfl rfl rfl hw.kernel hw.noBug ?_ ?_ hheld habs hdead
  · intro j
    by_cases hj : j = i
    · subst hj
      simpa [World.setSess] using hf (w.st.sessArr j)
    · simp [World.setSess, hj]
  · intro j hd
    have hj : j ≠ i := by
      rintro rfl
      rw [hc] at hd
      cases hd
    simp [World.setSess, hj]

/-- INTERNAL: other knowledge of the same world. -/
theorem rehold (hw : SlotInv w h)
    (hheld : ∀ i, h'.slot = some i → (w.st.sessArr i).isConnected = true)
    (habs : ∀ k, h' = .absent k → Absent w.st k)
    (hdead : ∀ i, h' = .dead i → h = .dead i) : SlotInv w h' :=
  ⟨hw.table, hw.kernel, hw.noBug, hw.clean, hheld, habs, fun i hi => hw.dead i (hdead i hi)⟩

theorem rehold_slot (hw : SlotInv w h) {i : Nat} (hs : h'.slot = some i)
    (hc : (w.st.sessArr i).isConnected = true) : SlotInv w h' := by
  obtain ⟨hheld, habs, hdead⟩ := of_slot (h := h) hs hc
  exact hw.rehold hheld habs hdead

/-- INTERNAL: a thread may let go of what it knows. -/
theorem rehold_free (hw : SlotInv w h) (hs : h'.slot = none) (habs : ∀ k, h' ≠ .absent k)
    (hdead : ∀ i, h' ≠ .dead i) : SlotInv w h' := by
  refine hw.rehold ?_ (fun k hk => absurd hk (habs k)) (fun i hi => absurd hi (hdead i))
  intro i hi
  rw [hs] at hi
  cases hi

theorem connected_of_authenticated (hw : SlotInv w h) {i : Nat}
    (ha : (w.st.sessArr i).isAuthenticated = true) : (w.st.sessArr i).isConnected = true := by
  cases hc : (w.st.sessArr i).isConnected with
  | true => rfl
  | false =>
    rw [(hw.clean i hc).isAuthenticated] at ha
    cases ha

end SlotInv

/-! ## One operation -/

/-- INTERNAL: a packet goes out: the slot a thread holds stays the same. -/
theorem sendNext_slot {g : Ghost} {i : Nat} {kind : Option PktKind} (hg : sendGuard g i kind)
    (ret : Int) : (sendNext g.hold i ret kind).slot = g.hold.slot ∧
      (∀ k, sendNext g.hold i ret kind ≠ .absent k) ∧ ∀ j, sendNext g.hold i ret kind ≠ .dead j := by
  cases kind with
  | none => exact hg.elim
  | some kind =>
    cases kind with
    | handshake =>
      rw [hg.1]
      by_cases hr : ret < 0 <;> simp [sendNext, hr, Hold.slot]
    | authOk =>
      obtain ⟨addr, hg⟩ := hg
      rw [hg]
      by_cases hr : ret < 0 <;> simp [sendNext, hr, Hold.slot]
    | tunData => rw [show g.hold = _ from hg]; simp [sendNext, Hold.slot]
    | reqsync => rw [show g.hold = _ from hg]; simp [sendNext, Hold.slot]
    | sync => rcases hg with hg | hg <;> rw [hg] <;> simp [sendNext, Hold.slot]
    | close => rcases hg with hg | hg <;> rw [hg] <;> simp [sendNext, Hold.slot]
    | handshakeReject => rw [show g.hold = _ from hg]; simp [sendNext, Hold.slot]
    | authReject => rw [show g.hold = _ from hg]; simp [sendNext, Hold.slot]

/-- INTERNAL: a thread gets hold of a slot by looking it up, creating or testing it. -/
theorem opNext_slot {g : Ghost} {o : Op} (hg : opGuard g o) (r : o.Res)
    (hlookup : ∀ addr port, o ≠ .lookupUdpSess addr port)
    (hcreate : ∀ addr port, o ≠ .createUdpSess addr port) (htest : ∀ i, o ≠ .loadIsConnected i)
    {i : Nat} (hi : (opNext g.hold o r).slot = some i) : g.hold.slot = some i := by
  cases o with
  | lookupUdpSess addr port => exact absurd rfl (hlookup addr port)
  | createUdpSess addr port => exact absurd rfl (hcreate addr port)
  | loadIsConnected j => exact absurd rfl (htest j)
  | deleteUdpSession j => cases hi
  | loadIsAuthenticated j =>
    simp only [opNext] at hi
    split at hi
    · next hf =>
      rw [hf]
      split at hi <;> exact hi
    · split at hi
      · next hop =>
        rw [hop]
        split at hi <;> exact hi
      · split at hi <;> cases hi
  | loadIpv4Iff j => rcases hg with hg | hg | hg | hg | hg <;> rw [hg] <;> exact hi
  | storeAddr j saddr => rw [show g.hold = _ from hg]; exact hi
  | storeIpv4Iff j addr => rw [show g.hold = _ from hg]; exact hi
  | storeIsAuthenticated j =>
    obtain ⟨addr, hg⟩ := hg
    rw [hg]
    exact hi
  | incLoopC j =>
    rcases hg with hg | hg | hg
    · rw [hg] at hi ⊢
      exact hi
    · rw [hg] at hi ⊢
      exact hi
    · rw [hg] at hi
      cases hi
  | addRoute addr idx =>
    obtain ⟨j, hg, _⟩ := hg
    rw [hg] at hi ⊢
    exact hi
  | delRoute addr =>
    obtain ⟨_, j, hg⟩ := hg
    rw [hg] at hi ⊢
    exact hi
  | getRoute addr =>
    rw [show g.hold = _ from hg] at hi
    simp only [opNext] at hi
    split at hi <;> cases hi
  | send j data => rwa [← (sendNext_slot hg r).1]
  | auth j username password =>
    rw [hg.1]
    simp only [opNext] at hi
    split at hi <;> exact hi
  | _ => exact hi

theorem log_noBug {l : List Event} (h : Event.bug ∉ l) {e : Event} (he : e ≠ .bug) :
    Event.bug ∉ l ++ [e] := by
  simp only [List.mem_append, List.mem_singleton, not_or]
  exact ⟨h, fun hb => he hb.symm⟩

/-- INTERNAL: a session is created, in a clean slot. -/
theorem slotInv_create {w : World} {g : Ghost} (hw : SlotInv w g.hold) (addr : UInt32) (port : UInt16)
    (hg : opGuard g (.createUdpSess addr port)) :
    SlotInv (exec (.createUdpSess addr port) w).2
      (opNext g.hold (.createUdpSess addr port) (exec (.createUdpSess addr port) w).1) := by
  have habs := hw.absent _ hg
  rcases createUdpSess_spec hw.table habs with ⟨_, heq⟩ |
    ⟨i, stk, mal, st', hmal, hin, hst, heq, hinv⟩ |
    ⟨i, stk, m, mal, gtod, t, st', _, _, hin, hst, heq, hinv⟩
  · simp only [exec, heq, opNext]
    exact hw.rehold_free rfl (by simp) (by simp)
  · -- the slot went back to the stack, with another key in it
    have hdisc := ((hw.table.mem_free i).mp hin).2
    have hclean := hw.clean i hdisc
    simp only [exec, heq, opNext]
    refine ⟨hinv, hw.kernel, hw.noBug, ?_, by simp [Hold.slot], by simp, by simp⟩
    intro j hj
    rw [hst] at hj ⊢
    by_cases hji : j = i
    · subst hji
      simpa using ⟨hclean.isAuthenticated, hclean.ipv4Iff, hclean.loopC⟩
    · simpa [hji] using hw.clean j (by simpa [hji] using hj)
  · simp only [exec, heq, opNext]
    refine ⟨hinv, hw.kernel, log_noBug hw.noBug (by simp), ?_, ?_, by simp, by simp⟩
    · intro j hj
      rw [hst] at hj ⊢
      by_cases hji : j = i
      · subst hji
        simp [createdSess] at hj
      · simpa [hji] using hw.clean j (by simpa [hji] using hj)
    · rintro j ⟨rfl⟩
      rw [hst]
      simp [createdSess]

/-- INTERNAL: a session is deleted, and its slot cleaned. -/
theorem slotInv_delete {w : World} {g : Ghost} (hw : SlotInv w g.hold) (i : Nat)
    (hg : opGuard g (.deleteUdpSession i)) :
    SlotInv (exec (.deleteUdpSession i) w).2
      (opNext g.hold (.deleteUdpSession i) (exec (.deleteUdpSession i) w).1) := by
  have hc := hw.held i (by rw [show g.hold = .closed i from hg]; rfl)
  obtain ⟨stk, m, st', _, hst, heq, hinv⟩ := deleteUdpSession_spec hw.table hc
  simp only [exec, heq, opNext]
  refine ⟨hinv, hw.kernel, log_noBug hw.noBug (by simp), ?_, by simp [Hold.slot], by simp, ?_⟩
  · intro j hj
    rw [hst] at hj ⊢
    by_cases hji : j = i
    · subst hji
      simp only [Function.update_self]
      exact ⟨rfl, rfl, by simp [resetUdpSession]⟩
    · simpa [hji] using hw.clean j (by simpa [hji] using hj)
  · rintro j ⟨rfl⟩
    rw [hst]
    simp [resetUdpSession]

/-- INTERNAL: the counter is increased, also in the slot that was just deleted. -/
theorem slotInv_incLoopC {w : World} {g : Ghost} (hw : SlotInv w g.hold) (i : Nat)
    (hg : opGuard g (.incLoopC i)) :
    opOk g (.incLoopC i) (exec (.incLoopC i) w).1 ∧
      SlotInv (exec (.incLoopC i) w).2 (opNext g.hold (.incLoopC i) (exec (.incLoopC i) w).1) := by
  by_cases hdead : g.hold = .dead i
  · -- the counter of the slot that was just deleted
    obtain ⟨hdisc, hloop⟩ := hw.dead i hdead
    have hclean := hw.clean i hdisc
    refine ⟨fun _ => ?_, ?_⟩
    · simp only [exec, World.sess, hloop]
      rfl
    simp only [exec, opNext, hdead]
    refine ⟨?_, hw.kernel, hw.noBug, ?_, by simp [Hold.slot], by simp, by simp⟩
    · refine hw.table.congr rfl rfl rfl (fun j => ?_) rfl
      by_cases hj : j = i
      · subst hj; simp [World.setSess]
      · simp [World.setSess, hj]
    · intro j hj
      by_cases hji : j = i
      · subst hji
        refine ⟨?_, ?_, ?_⟩
        · simpa [World.setSess] using hclean.isAuthenticated
        · simpa [World.setSess] using hclean.ipv4Iff
        · simp [World.setSess, hloop]
      · simpa [World.setSess, hji] using hw.clean j (by simpa [World.setSess, hji] using hj)
  · have hopen : g.hold = .found i ∨ g.hold = .authed i := by
      rcases hg with hg | hg | hg
      · exact .inl hg
      · exact .inr hg
      · exact absurd hg hdead
    have hs : g.hold.slot = some i := by rcases hopen with hg | hg <;> rw [hg] <;> rfl
    refine ⟨fun hd => absurd hd hdead, ?_⟩
    have hnext : opNext g.hold (.incLoopC i) (exec (.incLoopC i) w).1 = g.hold := by
      rcases hopen with hg | hg <;> rw [hg] <;> rfl
    rw [hnext]
    simp only [exec]
    exact hw.frame_set (hw.held i hs) hs _ fun s => ⟨rfl, rfl, rfl, rfl⟩

/-- INTERNAL: **every guarded operation keeps the slots in order**, and answers as the
handlers expect. -/
theorem slotInv_exec {w : World} {g : Ghost} (o : Op) (hw : SlotInv w g.hold)
    (hg : opGuard g o) :
    opOk g o (exec o w).1 ∧ SlotInv (exec o w).2 (opNext g.hold o (exec o w).1) := by
  -- the slot the thread holds is connected
  have hconn : ∀ {i : Nat} {h : Hold}, g.hold = h → h.slot = some i →
      (w.st.sessArr i).isConnected = true := by
    intro i h hgh hs
    exact hw.held i (hgh ▸ hs)
  cases o with
  | lookupUdpSess addr port =>
    refine ⟨trivial, ?_⟩
    cases hl : lookupUdpSess w.st addr port with
    | none =>
      have habs := (lookupUdpSess_eq_none hw.table ⟨addr, port⟩).mp hl
      simp only [exec, hl, opNext]
      refine hw.rehold (by simp [Hold.slot]) ?_ (by simp)
      rintro k ⟨rfl⟩
      exact habs
    | some i =>
      have hc := ((lookupUdpSess_eq_some hw.table ⟨addr, port⟩ i).mp hl).1
      simp only [exec, hl, opNext]
      exact hw.rehold_slot rfl hc
  | createUdpSess addr port => exact ⟨trivial, slotInv_create hw addr port hg⟩
  | deleteUdpSession i => exact ⟨trivial, slotInv_delete hw i hg⟩
  | loadIsConnected i =>
    refine ⟨trivial, ?_⟩
    cases hc : (w.st.sessArr i).isConnected with
    | false =>
      simp only [exec, World.sess, hc, opNext, Bool.false_eq_true, if_false]
      exact hw.rehold_free rfl (by simp) (by simp)
    | true =>
      simp only [exec, World.sess, hc, opNext, if_true]
      exact hw.rehold_slot rfl hc
  | loadIsAuthenticated i =>
    refine ⟨trivial, ?_⟩
    cases hauth : (w.st.sessArr i).isAuthenticated <;>
      simp only [exec, World.sess, hauth, opNext, Bool.false_eq_true, if_true, if_false] <;> split
    · next hf => exact hw.rehold_slot rfl (hconn (i := i) hf rfl)
    · split
      · next hop => exact hw.rehold_slot rfl (hconn (i := i) hop rfl)
      · exact hw.rehold_free rfl (by simp) (by simp)
    · next hf => exact hw.rehold_slot rfl (hconn (i := i) hf rfl)
    · split
      · next hop => exact hw.rehold_slot rfl (hconn (i := i) hop rfl)
      · exact hw.rehold_free rfl (by simp) (by simp)
  | loadLastAct i => exact ⟨trivial, hw⟩
  | loadIpv4Iff i =>
    refine ⟨trivial, hw.rehold_slot (i := i) rfl ?_⟩
    rcases hg with hg | hg | hg | hg | hg <;> exact hconn hg rfl
  | loadIdx i =>
    obtain ⟨addr, hg⟩ := hg
    have hc := hconn (i := i) hg rfl
    exact ⟨hw.table.idx_eq i (hw.table.connected_lt i hc), hw⟩
  | loadWiu i => exact ⟨trivial, hw⟩
  | storeAddr i saddr =>
    have hc := hconn (i := i) hg rfl
    simp only [exec, opNext]
    exact ⟨trivial, hw.frame_set hc rfl _ fun s => ⟨rfl, rfl, rfl, rfl⟩⟩
  | storeIpv4Iff i addr =>
    have hc := hconn (i := i) hg rfl
    simp only [exec, opNext]
    exact ⟨trivial, hw.frame_set hc rfl _ fun s => ⟨rfl, rfl, rfl, rfl⟩⟩
  | storeIsAuthenticated i =>
    obtain ⟨addr, hg⟩ := hg
    have hc := hconn (i := i) hg rfl
    simp only [exec, opNext]
    exact ⟨trivial, hw.frame_set hc rfl _ fun s => ⟨rfl, rfl, rfl, rfl⟩⟩
  | storeUsername i username =>
    have hg : g.hold = .authed i := hg
    have hc := hconn (i := i) hg rfl
    simp only [exec, opNext, hg]
    exact ⟨trivial, hw.frame_set hc rfl _ fun s => ⟨rfl, rfl, rfl, rfl⟩⟩
  | updateLastAct i =>
    have hs : g.hold.slot = some i := by rcases hg with hg | hg <;> rw [hg] <;> rfl
    have hc := hw.held i hs
    obtain ⟨gtod, t, _, heq⟩ := udpSessUpdateLastAct_eq w i
    have hset := hw.frame_set hc hs (fun s => { s with lastAct := t }) fun s =>
      ⟨rfl, rfl, rfl, rfl⟩
    simp only [exec, heq, opNext]
    exact ⟨trivial, hset.table, hset.kernel, hset.noBug, hset.clean, hset.held, hset.absent,
      hset.dead⟩
  | incLoopC i => exact slotInv_incLoopC hw i hg
  | getUnixTime =>
    refine ⟨trivial, ?_⟩
    obtain ⟨r, gtod, heq⟩ := getUnixTime_eq w
    simp only [exec, heq, opNext]
    exact hw.frame_arr rfl rfl rfl rfl rfl hw.kernel hw.noBug hw.held hw.absent fun i hi => hi
  | loadNOnSess => exact ⟨trivial, hw⟩
  | addRoute addr idx =>
    obtain ⟨i, hg, _⟩ := hg
    have hc := hconn (i := i) hg rfl
    simp only [exec, opNext, hg]
    obtain ⟨hheld, habs, hdead⟩ := SlotInv.of_slot (h := g.hold)
      (show (Hold.routed i addr).slot = some i from rfl) hc
    exact ⟨trivial, hw.frame_arr rfl rfl rfl rfl rfl hw.kernel hw.noBug hheld habs hdead⟩
  | delRoute addr =>
    obtain ⟨_, i, hg⟩ := hg
    have hc := hconn (i := i) hg rfl
    simp only [exec, opNext, hg]
    obtain ⟨hheld, habs, hdead⟩ := SlotInv.of_slot (h := g.hold)
      (show (Hold.unrouted i).slot = some i from rfl) hc
    exact ⟨trivial, hw.frame_arr rfl rfl rfl rfl rfl hw.kernel hw.noBug hheld habs hdead⟩
  | getRoute addr =>
    have hg : g.hold = .idle := hg
    simp only [exec, opNext, hg]
    split <;> exact ⟨trivial, hw.rehold_free rfl (by simp) (by simp)⟩
  | send i data =>
    obtain ⟨ret, stop, em, poll, rs, hsuf, hret, heq⟩ := sendToClient_spec w i data
    obtain ⟨hslot, habs, hdead⟩ := sendNext_slot hg ret
    simp only [exec, heq]
    refine ⟨send_ret_ne_ebadmsg hw.kernel hret, ?_⟩
    refine hw.frame_arr rfl rfl rfl rfl rfl (fun r hr => hw.kernel r (hsuf.subset hr))
      (log_noBug hw.noBug (by simp)) ?_ (fun k hk => absurd hk (habs k))
      (fun j hj => absurd hj (hdead j))
    intro j hj
    exact hw.held j (hslot ▸ hj)
  | writeTun i data =>
    obtain ⟨ret, stop, em, poll, rs, tried, _, heq⟩ := writeTun_spec w i data
    simp only [exec, heq]
    refine ⟨trivial, ?_⟩
    refine hw.frame_arr rfl rfl rfl rfl rfl hw.kernel ?_ hw.held hw.absent fun j hj => hj
    simp only [List.mem_append, List.mem_map, not_or]
    exact ⟨hw.noBug, by simp⟩
  | auth i username password =>
    refine ⟨trivial, ?_⟩
    have hc := hconn (i := i) hg.1 rfl
    have hframe : ∀ h' : Hold, h'.slot = some i →
        SlotInv (exec (.auth i username password) w).2 h' := by
      intro h' hs
      obtain ⟨hheld, habs, hdead⟩ := SlotInv.of_slot (h := g.hold) hs hc
      exact hw.frame_arr rfl rfl rfl rfl rfl hw.kernel (log_noBug hw.noBug (by simp)) hheld habs hdead
    simp only [opNext]
    split <;> exact hframe _ rfl
  | loadRejMsg => exact ⟨trivial, hw⟩

/-! ## Handlers and runs -/

/-- The world and the ghost state in which an input is handled. -/
def startWorld (s : Server) (env : Env) : Input → World
  | .udp saddr data => (s.world env).emit (.recv saddr data)
  | _ => s.world env

def startGhost (s : Server) : Input → Ghost
  | .udp saddr data => { src := saddr, pkt := Srv.doRecvFrom s.pkt data, hold := .start }
  | _ => { src := ⟨0, 0⟩, pkt := Server.zeroPkt }

/-- INTERNAL: **the rule for one input.** An invariant of the world and of what the thread
knows that every guarded operation keeps holds again when the handler has returned. -/
theorem step_inv (I : World → Ghost → Prop)
    (hexec : ∀ w g o, I w g → opGuard g o →
      opOk g o (exec o w).1 ∧ I (exec o w).2 (g.to (opNext g.hold o (exec o w).1)))
    {s : Server} {env : Env} {i : Input} (h : I (startWorld s env i) (startGhost s i)) :
    ∃ env' g, g.hold.Rest ∧ I ((s.step env i).world env') g := by
  cases i with
  | udp saddr data =>
    obtain ⟨g, hrest, hI⟩ := Conforms.run_inv I hexec
      (handleEventFromUdp_conforms s.st.order s.pkt saddr data) h
    exact ⟨_, g, hrest, hI⟩
  | tun data =>
    obtain ⟨g, hrest, hI⟩ := Conforms.run_inv I hexec
      (handleEventFromTun_conforms (g := startGhost s (.tun data)) s.st.maxConn s.pkt data rfl) h
    exact ⟨_, g, hrest, hI⟩
  | reap =>
    obtain ⟨g, hrest, hI⟩ := Conforms.run_inv I hexec
      (zombieReaperDoScan_conforms (g := startGhost s .reap) s.st.maxConn s.zrPkt rfl) h
    exact ⟨_, g, hrest, hI⟩
  | shutdown =>
    obtain ⟨g, hrest, hI⟩ := Conforms.run_inv I hexec
      (closeClientSess_conforms (g := startGhost s .shutdown) s.st.maxConn s.pkt rfl) h
    exact ⟨_, g, hrest, hI⟩

/-- INTERNAL: how a datagram in the buffer runs: on the session of its source.
SOURCE: udp_epoll.c:744-783 -/
theorem run__handleEventFromUdp (o : ByteOrder) (pkt : ScPkt) (saddr : Endpoint) (w : World) :
    (Srv._handleEventFromUdp o pkt saddr).run exec w =
      match lookupUdpSess w.st saddr.addr saddr.port with
      | none => (Srv.handleNewClient o pkt saddr).run exec w
      | some i =>
          (Srv.finishEvent ((Srv.__handleEventFromUdp o pkt i).run exec w).1.1
            ((Srv.__handleEventFromUdp o pkt i).run exec w).1.2 i).run exec
            ((Srv.__handleEventFromUdp o pkt i).run exec w).2 := by
  unfold Srv._handleEventFromUdp
  rw [Prog.run_bind]
  have hlook : Prog.run exec (Srv.lookupUdpSess saddr.addr saddr.port) w =
      (lookupUdpSess w.st saddr.addr saddr.port, w) := rfl
  rw [hlook]
  cases lookupUdpSess w.st saddr.addr saddr.port with
  | none => rfl
  | some i => exact Prog.run_bind _ _ _

/-- INTERNAL: the step of a datagram that is not empty.
SOURCE: udp_epoll.c:786-797 -/
theorem step_udp {s : Server} {env : Env} {k : Endpoint} {d : List UInt8} (hd : d ≠ []) :
    s.step env (.udp k d) =
      let r := (Srv._handleEventFromUdp s.st.order (Srv.doRecvFrom s.pkt d) k).run exec
        ((s.world env).emit (.recv k d))
      { s with st := r.2.st, pkt := r.1.2, log := r.2.log } := by
  have hlen : (Srv.doRecvFrom s.pkt d).len ≠ 0 := mt (doRecvFrom_len_eq_zero s.pkt d).mp hd
  simp only [Server.step, Srv.handleEventFromUdp, if_neg hlen]

theorem step_udp_new {s : Server} {env : Env} {k : Endpoint} {d : List UInt8} (hd : d ≠ [])
    (hl : lookupUdpSess s.st k.addr k.port = none) :
    s.step env (.udp k d) =
      let r := (Srv.handleNewClient s.st.order (Srv.doRecvFrom s.pkt d) k).run exec
        ((s.world env).emit (.recv k d))
      { s with st := r.2.st, pkt := r.1.2, log := r.2.log } := by
  have hl' : lookupUdpSess ((s.world env).emit (.recv k d)).st k.addr k.port = none := hl
  rw [step_udp hd, run__handleEventFromUdp, hl']

theorem step_udp_known {s : Server} {env : Env} {k : Endpoint} {d : List UInt8} (hd : d ≠ [])
    {i : Nat} (hl : lookupUdpSess s.st k.addr k.port = some i) :
    s.step env (.udp k d) =
      let r := (Srv.__handleEventFromUdp s.st.order (Srv.doRecvFrom s.pkt d) i).run exec
        ((s.world env).emit (.recv k d))
      let r := (Srv.finishEvent r.1.1 r.1.2 i).run exec r.2
      { s with st := r.2.st, pkt := r.1.2, log := r.2.log } := by
  have hl' : lookupUdpSess ((s.world env).emit (.recv k d)).st k.addr k.port = some i := hl
  rw [step_udp hd, run__handleEventFromUdp, hl']

/-- The configuration: what no operation of the server changes. -/
def config (w : World) : UInt16 × List UInt8 × ByteOrder × (List UInt8 → Option IniFile) :=
  (w.st.maxConn, w.st.dataDir, w.st.order, w.env.fopen)

/-- What the session table does not touch: the configuration, the flags of an emergency and
the answers of `poll`, `sendto` and `write` to come. -/
def outside (w : World) : (UInt16 × List UInt8 × ByteOrder × (List UInt8 → Option IniFile)) ×
    IoFlags × List Int × List Int :=
  (config w, w.ioFlags, w.env.sendto, w.env.write)

theorem outside_updateLastAct (w : World) (i : Nat) :
    outside (w.udpSessUpdateLastAct i) = outside w := by
  obtain ⟨_, _, _, heq⟩ := udpSessUpdateLastAct_eq w i
  rw [heq]
  rfl

theorem outside_createUdpSess (w : World) (addr : UInt32) (port : UInt16) :
    outside (createUdpSess w addr port).2 = outside w := by
  rcases createUdpSess_cases w addr port with
    heq | ⟨i, stk, m, mal, w₁, rfl, ⟨stk', l, _, heq⟩ | ⟨w₂, rfl, heq⟩⟩
  · rw [heq]
  · rw [heq]
    rfl
  · rw [heq]
    exact outside_updateLastAct _ _

/-- The operations that talk to the kernel about packets. -/
def isIo : Op → Bool
  | .send _ _ => true
  | .writeTun _ _ => true
  | _ => false

/-- INTERNAL: every other operation leaves the flags and the answers alone. -/
theorem outside_exec {o : Op} (ho : isIo o = false) (w : World) :
    outside (exec o w).2 = outside w := by
  cases o with
  | createUdpSess addr port => exact outside_createUdpSess w addr port
  | deleteUdpSession i =>
    obtain ⟨stk, l, _, hpush⟩ := pushOrBug_eq w (w.sess i).idx
    simp only [exec, deleteUdpSession, hpush]
    rfl
  | updateLastAct i => exact outside_updateLastAct w i
  | getUnixTime =>
    obtain ⟨_, _, heq⟩ := getUnixTime_eq w
    simp only [exec, heq]
    rfl
  | send i data => cases ho
  | writeTun i data => cases ho
  | _ => rfl

theorem config_exec (o : Op) (w : World) : config (exec o w).2 = config w := by
  cases o with
  | send i data =>
    obtain ⟨_, _, _, _, _, _, _, heq⟩ := sendToClient_spec w i data
    simp only [exec, heq]
    rfl
  | writeTun i data =>
    obtain ⟨_, _, _, _, _, _, _, heq⟩ := writeTun_spec w i data
    simp only [exec, heq]
    rfl
  | _ => exact congrArg Prod.fst (outside_exec rfl w)

theorem config_step (s : Server) (env : Env) (i : Input) :
    (s.step env i).st.maxConn = s.st.maxConn ∧ (s.step env i).st.dataDir = s.st.dataDir ∧
      (s.step env i).st.order = s.st.order := by
  have hrun : ∀ {α : Type} (p : Srv α) (w : World), w.st = s.st →
      (p.run exec w).2.st.maxConn = s.st.maxConn ∧ (p.run exec w).2.st.dataDir = s.st.dataDir ∧
        (p.run exec w).2.st.order = s.st.order := by
    intro α p w hw
    have hc := Prog.run_frame config config_exec p w
    simp only [config, Prod.mk.injEq] at hc
    rw [← hw]
    exact ⟨hc.1, hc.2.1, hc.2.2.1⟩
  cases i with
  | udp saddr data => exact hrun _ ((s.world env).emit (.recv saddr data)) rfl
  | tun data => exact hrun _ (s.world env) rfl
  | reap => exact hrun _ (s.world env) rfl
  | shutdown => exact hrun _ (s.world env) rfl

/-- INTERNAL: between two inputs no thread holds a slot, whatever the environment does. -/
def Server.SlotInv (s : Server) : Prop :=
  ∀ env : Env, env.NoEbadmsg → Analysis.SlotInv (s.world env) .idle

theorem SlotInv.idle {w : World} {h : Hold} (hw : SlotInv w h) : SlotInv w .idle :=
  hw.rehold_free rfl (by simp) (by simp)

theorem SlotInv.world {s : Server} {env env' : Env} {h : Hold} (hw : SlotInv (s.world env) h)
    (henv : env'.NoEbadmsg) : SlotInv (s.world env') .idle :=
  ⟨hw.table, henv, hw.noBug, hw.clean, by simp [Hold.slot], by simp, by simp⟩

theorem SlotInv.start {s : Server} {env : Env} (i : Input)
    (hw : SlotInv (s.world env) .idle) : SlotInv (startWorld s env i) (startGhost s i).hold := by
  cases i with
  | udp saddr data =>
    exact ⟨hw.table, hw.kernel, log_noBug hw.noBug (by simp), hw.clean, by simp [startGhost, Hold.slot],
      by simp [startGhost], by simp [startGhost]⟩
  | tun data => exact hw
  | reap => exact hw
  | shutdown => exact hw

theorem step_slotInv {s : Server} {env : Env} (i : Input) (hs : Server.SlotInv s)
    (henv : env.NoEbadmsg) : Server.SlotInv (s.step env i) := by
  obtain ⟨env', g, _, hI⟩ := step_inv (fun w g => SlotInv w g.hold)
    (fun w g o hw hg => slotInv_exec o hw hg) ((hs env henv).start i)
  intro env'' henv''
  exact hI.world henv''

theorem boot_slotInv (maxConn : UInt16) (dataDir : List UInt8) (o : ByteOrder)
    (pkt zrPkt : ScPkt) : Server.SlotInv (Server.boot maxConn dataDir o pkt zrPkt) := by
  intro env henv
  refine ⟨initState_tableInv maxConn dataDir o, henv, by simp [Server.boot, Server.world], ?_,
    by simp [Hold.slot], by simp, by simp⟩
  intro i _
  exact ⟨rfl, rfl, by simp [Server.boot, Server.world, initState, initUdpSessionArray,
    resetUdpSession]⟩

/-- INTERNAL: the slots are in order in every state of every run. -/
theorem reach_slotInv {maxConn : UInt16} {dataDir : List UInt8} {o : ByteOrder}
    {pkt zrPkt : ScPkt} {s : Server}
    (h : Server.Reach (fun _ env _ => env.NoEbadmsg) (Server.boot maxConn dataDir o pkt zrPkt) s) :
    Server.SlotInv s :=
  h.inv Server.SlotInv (boot_slotInv maxConn dataDir o pkt zrPkt)
    fun _ _ i hs henv => step_slotInv i hs henv

theorem reach_maxConn {maxConn : UInt16} {dataDir : List UInt8} {o : ByteOrder}
    {pkt zrPkt : ScPkt} {Cond : Server → Env → Input → Prop} {s : Server}
    (h : Server.Reach Cond (Server.boot maxConn dataDir o pkt zrPkt) s) :
    s.st.maxConn = maxConn := by
  refine h.inv (fun s => s.st.maxConn = maxConn) rfl fun s env i hs _ => ?_
  exact (config_step s env i).1.trans hs

/-- INTERNAL: **conservation of the session slots.** In every state of every run, with any
outcome of the system calls except `EBADMSG` from `sendto`: the free stack has no
duplicates, a slot is either on it or connected and never both, every slot knows its
index, `n_on_sess` is the number of connected slots, and no `BUG_ON` has fired.
SOURCE: udp_session.c:59-197, udp_epoll.c:498-783, 1035-1139, 1355-1370 -/
theorem slot_conservation {maxConn : UInt16} {dataDir : List UInt8} {o : ByteOrder}
    {pkt zrPkt : ScPkt} {s : Server}
    (h : Server.Reach (fun _ env _ => env.NoEbadmsg) (Server.boot maxConn dataDir o pkt zrPkt) s) :
    (freeSlots s.st).Nodup ∧
    (∀ i < maxConn.toNat, i ∈ freeSlots s.st ↔ (s.st.sessArr i).isConnected = false) ∧
    (∀ i ∈ freeSlots s.st, i < maxConn.toNat) ∧
    (∀ i < maxConn.toNat, (s.st.sessArr i).idx = UInt16.ofNat i) ∧
    s.st.nOnSess.toNat =
      (List.range maxConn.toNat).countP (fun i => (s.st.sessArr i).isConnected) ∧
    Event.bug ∉ s.log := by
  have hinv := reach_slotInv h {} (by simp [Env.NoEbadmsg])
  have hmax := reach_maxConn h
  have htab : TableInv s.st := hinv.table
  subst hmax
  refine ⟨htab.free_nodup, ?_, ?_, htab.idx_eq, htab.nOnSess_eq, hinv.noBug⟩
  · intro i hi
    rw [htab.mem_free]
    exact ⟨fun hf => hf.2, fun hc => ⟨hi, hc⟩⟩
  · intro i hi
    exact ((htab.mem_free i).mp hi).1

/-- The datagram a client opens a session with. -/
def handshakeDatagram : List UInt8 := sent (cliPprepHandshake fun _ => 0)

theorem slot_conservation_handshake :
    ∃ s, Server.Reach (fun _ env _ => env.NoEbadmsg)
        (Server.boot 2 [] .little Server.zeroPkt Server.zeroPkt) s ∧
      (s.st.sessArr 0).isConnected = true ∧
      s.st.nOnSess.toNat = (List.range 2).countP fun i => (s.st.sessArr i).isConnected := by
  have h₀ : Server.Reach (fun _ env _ => env.NoEbadmsg)
    (Server.boot 2 [] .little Server.zeroPkt Server.zeroPkt) _ := .init
  have h := h₀.step {} (.udp ⟨0x0a000001, 1000⟩ handshakeDatagram) (by simp [Env.NoEbadmsg])
  exact ⟨_, h, by decide, (slot_conservation h).2.2.2.2.1⟩

end TeaVpn2.Analysis
