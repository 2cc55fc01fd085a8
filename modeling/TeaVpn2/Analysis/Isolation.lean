import TeaVpn2.Analysis.HandlerOps
import TeaVpn2.Analysis.LifeCycle

/-!
# Clients do not disturb each other

A datagram may pop or push the shared stack of free slots and may move the nodes of a
chain that other sessions are on. `Isolated` is what holds at every operation of its
handler: the slots of other endpoints are as they were when the datagram arrived, the slot
the thread works on is the one of the sender, and every packet sent so far went to the
sender. `datagram_isolated` is what is left of it when the handler has returned.

The protocol of the handlers lets a thread that holds nothing look at any slot, as the
reaper does; that the handlers of a datagram do not do so is in `TeaVpn2.Analysis.HandlerOps`.
-/

set_option autoImplicit false

namespace TeaVpn2.Analysis

open TeaVpn2 TeaVpn2.Lib

/-! ## What one operation does to the sessions of others -/

/-- Slot `i` is open for another endpoint than `src`. -/
def Other (st : SrvUdpState) (src : Endpoint) (i : Nat) : Prop :=
  (st.sessArr i).isConnected = true ∧ (st.sessArr i).key ≠ src

/-- INTERNAL: a store into a slot that is not open for another endpoint, and is not so
afterwards. -/
theorem others_update {st st' : SrvUdpState} {src : Endpoint} {i : Nat} {v : UdpSess}
    (harr : st'.sessArr = Function.update st.sessArr i v) (hbefore : ¬Other st src i)
    (hafter : v.isConnected = true → v.key = src) (j : Nat)
    (h : Other st src j ∨ Other st' src j) : st'.sessArr j = st.sessArr j := by
  by_cases hj : j = i
  · subst hj
    rcases h with h | ⟨hc, hk⟩
    · exact absurd h hbefore
    · rw [harr, Function.update_self] at hc hk
      exact absurd (hafter hc) hk
  · rw [harr, Function.update_of_ne hj]

/-- INTERNAL: **an operation leaves the sessions of other endpoints alone**, if the slot the
thread works on belongs to `src`. -/
theorem exec_others {w : World} {g : Ghost} {src : Endpoint} (o : Op) (hw : SlotInv w g.hold)
    (hg : opGuard g o) (hown : ∀ i, g.hold.slot = some i → (w.st.sessArr i).key = src)
    (habs : ∀ k, g.hold = .absent k → k = src) (j : Nat)
    (h : Other w.st src j ∨ Other (exec o w).2.st src j) :
    (exec o w).2.st.sessArr j = w.st.sessArr j := by
  have hmine : ∀ {i : Nat}, g.hold.slot = some i → ¬Other w.st src i :=
    fun hs hother => hother.2 (hown _ hs)
  have hfree : ∀ {i : Nat}, (w.st.sessArr i).isConnected = false → ¬Other w.st src i := by
    intro i hc hother
    cases hc.symm.trans hother.1
  -- a store into the slot of the thread that leaves the key alone
  have hset : ∀ {i : Nat} {v : UdpSess}, g.hold.slot = some i →
      (exec o w).2.st.sessArr = Function.update w.st.sessArr i v → v.key = (w.st.sessArr i).key →
      (exec o w).2.st.sessArr j = w.st.sessArr j := by
    intro i v hs harr hkey
    exact others_update harr (hmine hs) (fun _ => hkey.trans (hown i hs)) j h
  cases o with
  | createUdpSess addr port =>
    have hsrc : (⟨addr, port⟩ : Endpoint) = src := habs _ hg
    rcases createUdpSess_spec hw.table (hw.absent _ hg) with ⟨_, heq⟩ |
      ⟨i, stk, mal, st', _, hin, hst, heq, _⟩ |
      ⟨i, stk, m, mal, gtod, t, st', _, _, hin, hst, heq, _⟩
    · simp only [exec, heq]
    · have hdisc := ((hw.table.mem_free i).mp hin).2
      simp only [exec, heq] at h ⊢
      refine others_update (congrArg SrvUdpState.sessArr hst) (hfree hdisc) ?_ j h
      exact fun _ => hsrc
    · have hdisc := ((hw.table.mem_free i).mp hin).2
      simp only [exec, heq] at h ⊢
      refine others_update (congrArg SrvUdpState.sessArr hst) (hfree hdisc) ?_ j h
      exact fun _ => hsrc
  | deleteUdpSession i =>
    have hs : g.hold.slot = some i := by rw [show g.hold = _ from hg]; rfl
    obtain ⟨stk, m, st', _, hst, heq, _⟩ := deleteUdpSession_spec hw.table (hw.held i hs)
    simp only [exec, heq] at h ⊢
    refine others_update (congrArg SrvUdpState.sessArr hst) (hmine hs) ?_ j h
    simp [resetUdpSession]
  | storeAddr i saddr =>
    have hs : g.hold.slot = some i := by rw [show g.hold = _ from hg]; rfl
    exact hset hs rfl rfl
  | storeIpv4Iff i addr =>
    have hs : g.hold.slot = some i := by rw [show g.hold = _ from hg]; rfl
    exact hset hs rfl rfl
  | storeIsAuthenticated i =>
    obtain ⟨addr, hg⟩ := hg
    have hs : g.hold.slot = some i := by rw [hg]; rfl
    exact hset hs rfl rfl
  | storeUsername i username =>
    have hs : g.hold.slot = some i := by rw [show g.hold = _ from hg]; rfl
    exact hset hs rfl rfl
  | updateLastAct i =>
    have hs : g.hold.slot = some i := by rcases hg with hg | hg <;> rw [hg] <;> rfl
    obtain ⟨gtod, t, _, heq⟩ := udpSessUpdateLastAct_eq w i
    refine hset hs (congrArg (fun w' => w'.st.sessArr) heq) ?_
    rfl
  | incLoopC i =>
    by_cases hdead : g.hold = .dead i
    · have hdisc := (hw.dead i hdead).1
      refine others_update rfl (hfree hdisc) (fun hc => ?_) j h
      have hc' : (w.st.sessArr i).isConnected = true := hc
      rw [hdisc] at hc'
      cases hc'
    · have hs : g.hold.slot = some i := by
        rcases hg with hg | hg | hg
        · rw [hg]; rfl
        · rw [hg]; rfl
        · exact absurd hg hdead
      exact hset hs rfl rfl
  | getUnixTime =>
    obtain ⟨_, _, heq⟩ := getUnixTime_eq w
    simp only [exec, heq]
  | send i data =>
    obtain ⟨_, _, _, _, _, _, _, heq⟩ := sendToClient_spec w i data
    simp only [exec, heq]
  | writeTun i data =>
    obtain ⟨_, _, _, _, _, _, _, heq⟩ := writeTun_spec w i data
    simp only [exec, heq]
  | _ => rfl

/-- INTERNAL: an operation appends to the log; a packet is recorded by a send only, with the
address of its slot. -/
theorem exec_sends {w : World} {g : Ghost} (o : Op) (hw : SlotInv w g.hold) (hg : opGuard g o) :
    ∃ l, (exec o w).2.log = w.log ++ l ∧ ∀ i dst auth data ret,
      Event.send i dst auth data ret ∈ l → o = .send i data ∧ dst = (w.st.sessArr i).addr := by
  cases o with
  | createUdpSess addr port =>
    rcases createUdpSess_spec hw.table (hw.absent _ hg) with ⟨_, heq⟩ |
      ⟨i, stk, mal, st', _, _, _, heq, _⟩ | ⟨i, stk, m, mal, gtod, t, st', _, _, _, _, heq, _⟩
    · exact ⟨[], by simp [exec, heq], by simp⟩
    · exact ⟨[], by simp [exec, heq], by simp⟩
    · exact ⟨[.create i ⟨addr, port⟩], by simp [exec, heq], by simp⟩
  | deleteUdpSession i =>
    have hs : g.hold.slot = some i := by rw [show g.hold = _ from hg]; rfl
    obtain ⟨stk, m, st', _, hst, heq, _⟩ := deleteUdpSession_spec hw.table (hw.held i hs)
    exact ⟨[.delete i (w.st.sessArr i).key], by simp [exec, heq], by simp⟩
  | updateLastAct i =>
    obtain ⟨_, _, _, heq⟩ := udpSessUpdateLastAct_eq w i
    exact ⟨[], by simp [exec, heq], by simp⟩
  | getUnixTime =>
    obtain ⟨_, _, heq⟩ := getUnixTime_eq w
    exact ⟨[], by simp [exec, heq], by simp⟩
  | send i data =>
    obtain ⟨ret, _, _, _, _, _, _, heq⟩ := sendToClient_spec w i data
    refine ⟨_, congrArg (fun r => r.2.log) heq, ?_⟩
    intro i' dst auth data' ret' hin
    rw [List.mem_singleton] at hin
    cases hin
    exact ⟨rfl, rfl⟩
  | writeTun i data =>
    obtain ⟨_, _, _, _, _, tried, _, heq⟩ := writeTun_spec w i data
    exact ⟨_, congrArg (fun r => r.2.log) heq, by simp⟩
  | auth i username password =>
    exact ⟨[.auth i (w.sess i).key (teavpn2Auth w.st.dataDir w.env.fopen username password).isSome],
      rfl, by simp⟩
  | _ => exact ⟨[], by simp [exec, World.setSess], by simp⟩

theorem sendGuard_slot {g : Ghost} {i : Nat} {kind : Option PktKind} (hg : sendGuard g i kind)
    (hk : kind ≠ some .tunData) : g.hold.slot = some i ∧ g.hold.stage i ≠ .born := by
  cases kind with
  | none => exact hg.elim
  | some kind =>
    cases kind with
    | handshake => rw [hg.1]; simp [Hold.slot, Hold.stage, Hold.working]
    | authOk =>
      obtain ⟨addr, hg⟩ := hg
      rw [hg]
      simp [Hold.slot, Hold.stage, Hold.working]
    | tunData => exact absurd rfl hk
    | reqsync => rw [show g.hold = _ from hg]; simp [Hold.slot, Hold.stage, Hold.working]
    | sync => rcases hg with hg | hg <;> rw [hg] <;> simp [Hold.slot, Hold.stage, Hold.working]
    | close => rcases hg with hg | hg <;> rw [hg] <;> simp [Hold.slot, Hold.stage, Hold.working]
    | handshakeReject => rw [show g.hold = _ from hg]; simp [Hold.slot, Hold.stage, Hold.working]
    | authReject => rw [show g.hold = _ from hg]; simp [Hold.slot, Hold.stage, Hold.working]

/-! ## The invariant of a datagram -/

/-- INTERNAL: while a datagram of `src` is handled that arrived when the server was `s`. -/
structure Isolated (s : Server) (src : Endpoint) (w : World) (g : Ghost) : Prop where
  slots : SlotInv w g.hold
  life : LifeInv w g
  source : g.src = src
  own : ∀ i, g.hold.slot = some i → (w.st.sessArr i).key = src
  others : ∀ i, Other s.st src i ∨ Other w.st src i → w.st.sessArr i = s.st.sessArr i
  replies : ∃ l, w.log = s.log ++ l ∧
    ∀ i dst auth data ret, Event.send i dst auth data ret ∈ l → dst = src

namespace Isolated

variable {s : Server} {src : Endpoint} {w : World} {g : Ghost}

theorem absent_eq (h : Isolated s src w g) {k : Endpoint} (hk : g.hold = .absent k) : k = src :=
  (h.life.source k hk).trans h.source

/-- INTERNAL: the slot the thread holds after an operation belongs to the sender. -/
theorem own_exec (h : Isolated s src w g) (o : Op) (hg : opGuard g o) (ho : ReceiverOp o) (i : Nat)
    (hi : (opNext g.hold o (exec o w).1).slot = some i) :
    ((exec o w).2.st.sessArr i).key = src := by
  have hs := (slotInv_exec o h.slots hg).2
  have htest : ∀ j, o ≠ .loadIsConnected j := by
    rintro j rfl
    simp [ReceiverOp, CreateOp, DatagramOp] at ho
  cases o with
  | lookupUdpSess addr port =>
    have hsrc : (⟨addr, port⟩ : Endpoint) = src := hg.2.1.symm.trans h.source
    cases hl : lookupUdpSess w.st addr port with
    | none =>
      simp only [exec, hl, opNext] at hi
      cases hi
    | some j =>
      simp only [exec, hl, opNext] at hi
      cases hi
      exact ((lookupUdpSess_eq_some h.slots.table ⟨addr, port⟩ i).mp hl).2.trans hsrc
  | createUdpSess addr port =>
    have hlife := (lifeInv_exec (.createUdpSess addr port) h.slots h.life hg).created
    cases hr : (exec (.createUdpSess addr port) w).1 with
    | error err =>
      rw [hr] at hi
      cases hi
    | ok j =>
      rw [hr] at hi hlife
      cases hi
      exact (hlife i ⟨addr, port⟩ rfl).trans (h.absent_eq hg)
  | _ =>
    -- the same slot as before: a change of its key would make it another's
    have hslot := opNext_slot hg _ (by simp) (by simp) htest hi
    by_contra hne
    have hsame := exec_others _ h.slots hg h.own (fun k hk => h.absent_eq hk) i
      (.inr ⟨hs.held i hi, hne⟩)
    rw [hsame] at hne
    exact hne (h.own i hslot)

/-- INTERNAL: **every operation of a datagram handler keeps the clients apart.** -/
theorem exec (h : Isolated s src w g) (o : Op) (hg : opGuard g o) (ho : ReceiverOp o) :
    opOk g o (exec o w).1 ∧ Isolated s src (exec o w).2 (g.to (opNext g.hold o (exec o w).1)) := by
  obtain ⟨hok, hslots⟩ := slotInv_exec o h.slots hg
  have hothers := exec_others o h.slots hg h.own fun k hk => h.absent_eq hk
  refine ⟨hok, hslots, lifeInv_exec o h.slots h.life hg, h.source, h.own_exec o hg ho, ?_, ?_⟩
  · intro i hi
    rcases hi with hi | hi
    · have hbefore := h.others i (.inl hi)
      have hother : Other w.st src i := by
        unfold Other
        rw [hbefore]
        exact hi
      exact (hothers i (.inl hother)).trans hbefore
    · have hnow := hothers i (.inr hi)
      have hother : Other w.st src i := by
        unfold Other
        rw [← hnow]
        exact hi
      exact hnow.trans (h.others i (.inr hother))
  · obtain ⟨l, hl, hdst⟩ := h.replies
    obtain ⟨l', hl', hsend⟩ := exec_sends o h.slots hg
    refine ⟨l ++ l', by rw [hl', hl, List.append_assoc], ?_⟩
    intro i dst auth data ret hin
    rcases List.mem_append.mp hin with hin | hin
    · exact hdst i dst auth data ret hin
    · obtain ⟨rfl, hdst'⟩ := hsend i dst auth data ret hin
      have hk : kindOf data ≠ some .tunData := by
        rcases ho with (ho | ⟨_, _, ho⟩) | ⟨_, _, ho⟩ | ⟨_, ho⟩ | ⟨_, _, ho⟩
        · exact ho
        all_goals cases ho
      obtain ⟨hslot, hstage⟩ := sendGuard_slot hg hk
      have haddr := (h.life.slots i (h.slots.held i hslot)).addr hstage
      rw [hdst', haddr, h.own i hslot]

end Isolated

/-- What a step may change, if it is for the endpoint `k`: every other endpoint finds the same
session as before, unchanged, and every packet that was sent went to `k`. -/
structure OnlyConcerns (k : Endpoint) (s s' : Server) : Prop where
  found : ∀ k' ≠ k, lookupUdpSess s'.st k'.addr k'.port = lookupUdpSess s.st k'.addr k'.port
  same : ∀ k' ≠ k, ∀ i, lookupUdpSess s.st k'.addr k'.port = some i →
    s'.st.sessArr i = s.st.sessArr i
  replies : ∀ i dst auth data ret,
    Event.send i dst auth data ret ∈ s'.log.drop s.log.length → dst = k

theorem step_onlyConcerns {s : Server} (hs : Server.SlotInv s) (hl : Server.LifeInv s) {env : Env}
    (henv : env.NoEbadmsg) (k : Endpoint) (d : List UInt8) :
    OnlyConcerns k s (s.step env (.udp k d)) := by
  have hstart : Isolated s k (startWorld s env (.udp k d)) (startGhost s (.udp k d)) := by
    refine ⟨(hs env henv).start _, LifeInv.start _ hl, rfl, by simp [startGhost, Hold.slot],
      fun _ _ => rfl, [.recv k d], rfl, by simp⟩
  obtain ⟨g, _, hend⟩ := (handleEventFromUdp_uses s.st.order s.pkt k d).run_inv
    (handleEventFromUdp_conforms s.st.order s.pkt k d) (Isolated s k)
    (fun w g o hI hg ho => hI.exec o hg ho) hstart
  have htab : TableInv s.st := (hs env henv).table
  have htab' : TableInv (s.step env (.udp k d)).st := hend.slots.table
  have hothers : ∀ i, Other s.st k i ∨ Other (s.step env (.udp k d)).st k i →
    (s.step env (.udp k d)).st.sessArr i = s.st.sessArr i := hend.others
  refine ⟨?_, ?_, ?_⟩
  · intro k' hne
    apply Option.ext
    intro i
    rw [lookupUdpSess_eq_some htab', lookupUdpSess_eq_some htab]
    constructor
    · rintro ⟨hc, hk⟩
      rw [← hothers i (.inr ⟨hc, by rw [hk]; exact hne⟩)]
      exact ⟨hc, hk⟩
    · rintro ⟨hc, hk⟩
      rw [hothers i (.inl ⟨hc, by rw [hk]; exact hne⟩)]
      exact ⟨hc, hk⟩
  · intro k' hne i hi
    obtain ⟨hc, hk⟩ := (lookupUdpSess_eq_some htab k' i).mp hi
    exact hothers i (.inl ⟨hc, by rw [hk]; exact hne⟩)
  · intro i dst auth data ret hin
    obtain ⟨l, hl', hdst⟩ := hend.replies
    have hlog : (s.step env (.udp k d)).log = s.log ++ l := hl'
    rw [hlog, List.drop_left] at hin
    exact hdst i dst auth data ret hin

/-- INTERNAL: **clients do not disturb each other.** In every state of every run, a datagram
of the endpoint `k`, whatever it contains and whatever the system calls answer except
`EBADMSG` from `sendto`, leaves every other endpoint with the session it had, unchanged in
all its fields, and is answered to `k` only.
SOURCE: udp_epoll.c:498-783; udp_session.c:21-197 -/
theorem datagram_isolated {maxConn : UInt16} {dataDir : List UInt8} {o : ByteOrder}
    {pkt zrPkt : ScPkt} {s : Server}
    (h : Server.Reach (fun _ env _ => env.NoEbadmsg) (Server.boot maxConn dataDir o pkt zrPkt) s)
    {env : Env} (henv : env.NoEbadmsg) (k : Endpoint) (d : List UInt8) :
    OnlyConcerns k s (s.step env (.udp k d)) :=
  step_onlyConcerns (reach_slotInv h) (reach_lifeInv h) henv k d

/-- Two clients whose addresses share a bucket; the first one leaves. -/
theorem datagram_isolated_collision :
    ∃ s, Server.Reach (fun _ env _ => env.NoEbadmsg)
        (Server.boot 2 [] .little Server.zeroPkt Server.zeroPkt) s ∧
      lookupUdpSess s.st 0x0b000001 1000 = some 1 ∧
      OnlyConcerns ⟨0x0a000001, 1000⟩ s
        (s.step {} (.udp ⟨0x0a000001, 1000⟩ [TCLI_PKT_CLOSE, 0, 0, 0])) := by
  have h₀ : Server.Reach (fun _ env _ => env.NoEbadmsg)
    (Server.boot 2 [] .little Server.zeroPkt Server.zeroPkt) _ := .init
  have h₁ := h₀.step {} (.udp ⟨0x0a000001, 1000⟩ handshakeDatagram) (by simp [Env.NoEbadmsg])
  have h₂ := h₁.step {} (.udp ⟨0x0b000001, 1000⟩ handshakeDatagram) (by simp [Env.NoEbadmsg])
  exact ⟨_, h₂, by decide +kernel, datagram_isolated h₂ (by simp [Env.NoEbadmsg]) _ _⟩

end TeaVpn2.Analysis
