import TeaVpn2.Analysis.ControlPackets
import TeaVpn2.Analysis.Isolation
import TeaVpn2.Analysis.Tunnel

/-!
# What stands behind a packet of the server

A TUN_DATA packet carries what was read from the TUN device in the same step. An AUTH_OK answers an
AUTH datagram of the endpoint it goes to, with the addresses that `teavpn2_auth` returned for the
credentials in it. The handlers of a datagram keep `replyProtocol`, which says so with what
`teavpn2_auth` returned as the ghost state; the reaper and the shutdown send neither.
-/

set_option autoImplicit false

namespace TeaVpn2.Analysis

open TeaVpn2 TeaVpn2.Lib

/-! ## The protocol -/

/-- Neither TUN data nor an AUTH_OK is sent, and nobody logs in. -/
def PlainOp : Op → Prop
  | .send _ data => kindOf data ≠ some .tunData ∧ kindOf data ≠ some .authOk
  | .auth _ _ _ => False
  | _ => True

/-- A thread that handles the packet in the buffer `pkt`; its ghost state is what `teavpn2_auth` has
returned. -/
def replyProtocol (o : ByteOrder) (pkt : ScPkt) : Protocol Op Op.Res (Option IfInfo) where
  guard g
    | .send _ data => kindOf data ≠ some .tunData ∧
        (kindOf data = some .authOk → ∃ iff raw, g = some iff ∧ data = authOkPacket o raw iff)
    | .auth _ username password => pktType pkt.raw = TCLI_PKT_AUTH ∧
        username = Srv.authUsername pkt.raw ∧ password = Srv.authPassword pkt.raw
    | _ => True
  ok _ _ _ := True
  next g
    | .auth _ _ _, (r : Option IfInfo) => r
    | _, _ => g

theorem guard_of_plainOp (o : ByteOrder) (pkt : ScPkt) (g : Option IfInfo) (op : Op)
    (h : PlainOp op) : (replyProtocol o pkt).guard g op := by
  cases op with
  | send i data => exact ⟨h.1, fun hk => absurd hk h.2⟩
  | auth i username password => exact h.elim
  | _ => trivial

/-! ## The handlers -/

theorem send_plainOp {t : UInt8} (ht : kindOfType t ≠ some .tunData ∧ kindOfType t ≠ some .authOk)
    (i : Nat) (b : Buf) (n : UInt16) (p : UInt8) :
    Prog.Uses PlainOp (Srv.sendToClient i (sent (pprep b t n p))) := by
  apply Prog.Uses.call
  show kindOf _ ≠ _ ∧ kindOf _ ≠ _
  rw [kindOf_sent_pprep]
  exact ht

theorem closeSess_plainOp (pkt : ScPkt) (i : Nat) : Prog.Uses PlainOp (Srv.closeSess pkt i) := by
  refine (closeSess_closeOp pkt i).mono fun o ho => ?_
  cases o with
  | send j data =>
    show kindOf data ≠ _ ∧ kindOf data ≠ _
    rw [show kindOf data = _ from ho]
    decide
  | auth j username password => exact ho
  | _ => trivial

theorem handleNewClient_plainOp (o : ByteOrder) (pkt : ScPkt) (saddr : Endpoint) :
    Prog.Uses PlainOp (Srv.handleNewClient o pkt saddr) := by
  have hreject : ∀ pkt i reason msg, Prog.Uses PlainOp (Srv.rejectHandshake pkt i reason msg) :=
    fun pkt i reason msg => ((send_plainOp (by decide) _ _ _ _).bind fun _ => Prog.Uses.pure _).bind
      fun _ => Prog.Uses.pure _
  have hshake : ∀ i, Prog.Uses PlainOp (Srv.handleClientHandshake o pkt i) := by
    intro i
    unfold Srv.handleClientHandshake
    split
    · exact (Prog.Uses.call trivial).bind fun _ => hreject _ _ _ _
    dsimp only
    split
    · exact (Prog.Uses.call trivial).bind fun _ => hreject _ _ _ _
    split
    · exact (Prog.Uses.call trivial).bind fun _ => hreject _ _ _ _
    split
    · exact (send_plainOp (by decide) _ _ _ _).bind fun _ => Prog.Uses.pure _
    · exact (Prog.Uses.call trivial).bind fun _ => hreject _ _ _ _
  unfold Srv.handleNewClient
  split
  · exact Prog.Uses.pure _
  refine (Prog.Uses.call trivial).bind fun (r : Except Int Nat) => ?_
  cases r with
  | error err => exact Prog.Uses.pure _
  | ok i =>
    refine (Prog.Uses.call trivial).bind fun _ => (hshake i).bind fun r => ?_
    dsimp only
    split
    · exact (closeSess_plainOp _ i).bind fun _ => Prog.Uses.pure _
    · exact Prog.Uses.pure _

theorem finishEvent_plainOp (ret : Int) (pkt : ScPkt) (i : Nat) :
    Prog.Uses PlainOp (Srv.finishEvent ret pkt i) := by
  unfold Srv.finishEvent
  split
  · split
    · exact (closeSess_plainOp pkt i).bind fun _ => Prog.Uses.pure _
    · exact Prog.Uses.pure _
  · unfold Srv.bumpLoopC
    refine (Prog.Uses.call trivial).bind fun loopC => ?_
    split
    · exact (Prog.Uses.call trivial).bind fun _ =>
        (send_plainOp (by decide) _ _ _ _).bind fun _ => Prog.Uses.pure _
    · exact Prog.Uses.pure _

section Replies

variable {o : ByteOrder} {pkt : ScPkt}

theorem Prog.Uses.replies {α : Type} {p : Srv α} (h : Prog.Uses PlainOp p) (g : Option IfInfo) :
    Conforms (replyProtocol o pkt) p g fun _ _ => True := h.conforms (guard_of_plainOp o pkt) g

/-- INTERNAL: an AUTH_OK goes out with what `teavpn2_auth` has returned.
SOURCE: udp_epoll.c:562-630 -/
theorem handleClpktAuth_replies (i : Nat) (htype : pktType pkt.raw = TCLI_PKT_AUTH)
    (g : Option IfInfo) :
    Conforms (replyProtocol o pkt) (Srv.handleClpktAuth o pkt i) g fun _ _ => True := by
  unfold Srv.handleClpktAuth
  refine Conforms.call_bind trivial fun auth _ => ?_
  split
  · trivial
  refine Conforms.call_bind ⟨htype, rfl, rfl⟩ fun (r : Option IfInfo) _ => ?_
  cases r with
  | none =>
    exact Prog.Uses.replies ((send_plainOp (by decide) _ _ _ _).bind fun _ =>
      (closeSess_plainOp _ i).bind fun _ => Prog.Uses.pure _) _
  | some iff =>
    refine Conforms.call_bind ⟨?_, fun _ => ⟨iff, pkt.raw, rfl, sent_authOk o pkt.raw iff⟩⟩
      fun ret _ => ?_
    · rw [srvPprep, kindOf_sent_pprep]
      decide
    · apply Prog.Uses.replies
      split
      · exact (closeSess_plainOp _ i).bind fun _ => Prog.Uses.pure _
      · exact (Prog.Uses.call trivial).bind fun _ => (Prog.Uses.call trivial).bind fun _ =>
          (Prog.Uses.call trivial).bind fun _ => (Prog.Uses.call trivial).bind fun _ =>
          (Prog.Uses.call trivial).bind fun _ => Prog.Uses.pure _

theorem __handleEventFromUdp_replies (i : Nat) (g : Option IfInfo) :
    Conforms (replyProtocol o pkt) (Srv.__handleEventFromUdp o pkt i) g fun _ _ => True := by
  unfold Srv.__handleEventFromUdp
  dsimp only
  split
  · trivial
  split
  · next htype => exact handleClpktAuth_replies i htype g
  apply Prog.Uses.replies
  split
  · refine Prog.Uses.bind ?_ fun _ => Prog.Uses.pure _
    unfold Srv.handleClpktTunData
    dsimp only
    split
    · exact Prog.Uses.pure _
    · exact Prog.Uses.call trivial
  split
  · exact ((send_plainOp (by decide) _ _ _ _).bind fun _ => Prog.Uses.pure _).bind fun _ =>
      (Prog.Uses.call trivial).bind fun _ => Prog.Uses.pure _
  split
  · exact (Prog.Uses.call trivial).bind fun _ => Prog.Uses.pure _
  split
  · exact (closeSess_plainOp pkt i).bind fun _ => Prog.Uses.pure _
  · exact Prog.Uses.pure _

theorem handleEventFromUdp_replies (pkt : ScPkt) (saddr : Endpoint) (data : List UInt8) :
    Conforms (replyProtocol o (Srv.doRecvFrom pkt data)) (Srv.handleEventFromUdp o pkt saddr data)
      none fun _ _ => True := by
  unfold Srv.handleEventFromUdp
  split
  · trivial
  unfold Srv._handleEventFromUdp
  refine Conforms.call_bind trivial fun (r : Option Nat) _ => ?_
  cases r with
  | none => exact Prog.Uses.replies (handleNewClient_plainOp o _ saddr) _
  | some i =>
    dsimp only
    rw [Conforms.bind_iff]
    exact (__handleEventFromUdp_replies i _).mono fun r g _ =>
      Prog.Uses.replies (finishEvent_plainOp r.1 r.2 i) g

end Replies

theorem zombieReaperDoScan_plainOp (maxConn : UInt16) (pkt : ScPkt) :
    Prog.Uses PlainOp (Srv.zombieReaperDoScan maxConn pkt) := by
  have hreq : ∀ i n pkt, Prog.Uses PlainOp (Srv.zrSendReqsyncs i n pkt) := by
    intro i n
    induction n with
    | zero => exact fun pkt => Prog.Uses.pure _
    | succ n ih =>
      exact fun pkt => ((send_plainOp (by decide) _ _ _ _).bind fun _ => Prog.Uses.pure _).bind
        fun pkt' => ih pkt'
  have hslot : ∀ pkt i, Prog.Uses PlainOp (Srv.zrScanSlot pkt i) := by
    intro pkt i
    unfold Srv.zrScanSlot
    refine (Prog.Uses.call trivial).bind fun conn => ?_
    split
    · refine (Prog.Uses.call trivial).bind fun now => (Prog.Uses.call trivial).bind fun lastAct =>
        (Prog.Uses.call trivial).bind fun auth => ?_
      split
      · unfold Srv.zrChkAuth
        split
        · exact (closeSess_plainOp pkt i).bind fun _ => Prog.Uses.pure _
        iterate 4 (split; · exact hreq _ _ _)
        exact Prog.Uses.pure _
      · unfold Srv.zrChkNoAuth
        split
        · exact (closeSess_plainOp pkt i).bind fun _ => Prog.Uses.pure _
        · exact Prog.Uses.pure _
    · exact Prog.Uses.pure _
  have hscan : ∀ l pkt, Prog.Uses PlainOp (Srv.zrScanFrom l pkt) := by
    intro l
    induction l with
    | nil => exact fun pkt => Prog.Uses.pure _
    | cons i l ih => exact fun pkt => (hslot pkt i).bind fun pkt' => ih pkt'
  unfold Srv.zombieReaperDoScan
  refine (Prog.Uses.call trivial).bind fun n => ?_
  split
  · exact Prog.Uses.pure _
  · exact hscan _ _

theorem closeClientSess_plainOp (maxConn : UInt16) (pkt : ScPkt) :
    Prog.Uses PlainOp (Srv.closeClientSess maxConn pkt) := by
  have hfrom : ∀ l pkt, Prog.Uses PlainOp (Srv.closeClientSessFrom l pkt) := by
    intro l
    induction l with
    | nil => exact fun pkt => Prog.Uses.pure _
    | cons i l ih =>
      intro pkt
      unfold Srv.closeClientSessFrom
      refine (Prog.Uses.call trivial).bind fun conn => ?_
      split
      · exact (closeSess_plainOp pkt i).bind fun r => ih r.2
      · exact ih pkt
  exact hfrom _ _

/-! ## One step of the server -/

/-- `teavpn2_auth` accepts the AUTH packet in the buffer, with these addresses. -/
def AcceptsAs (dataDir : List UInt8) (env : Env) (pkt : ScPkt) (iff : IfInfo) : Prop :=
  pktType pkt.raw = TCLI_PKT_AUTH ∧
    teavpn2Auth dataDir env.fopen (Srv.authUsername pkt.raw) (Srv.authPassword pkt.raw) = some iff

/-- INTERNAL: while a datagram of `k` is handled: an AUTH_OK that has gone out, or may go out next,
answers a login that was accepted. -/
structure Answering (s : Server) (env : Env) (k : Endpoint) (d : List UInt8) (w : World)
    (x : Ghost × Option IfInfo) : Prop where
  isolated : Isolated s k w x.1
  config : Analysis.config w = Analysis.config (s.world env)
  accepted : ∀ iff, x.2 = some iff →
    AcceptsAs s.st.dataDir env (Srv.doRecvFrom s.pkt d) iff ∧ ∃ slot, Event.auth slot k true ∈ w.log
  sends : ∃ l, w.log = s.log ++ l ∧ ∀ i dst a data ret, Event.send i dst a data ret ∈ l →
    kindOf data ≠ some .tunData ∧ (kindOf data = some .authOk → ∃ iff raw,
      AcceptsAs s.st.dataDir env (Srv.doRecvFrom s.pkt d) iff ∧
        data = authOkPacket s.st.order raw iff ∧ ∃ slot, Event.auth slot k true ∈ w.log)

theorem replyProtocol_next (o : ByteOrder) (pkt : ScPkt) (g : Option IfInfo) (op : Op) (r : op.Res)
    (h : ∀ i username password, op ≠ .auth i username password) :
    (replyProtocol o pkt).next g op r = g := by
  cases op with
  | auth i username password => exact absurd rfl (h i username password)
  | _ => rfl

namespace Answering

variable {s : Server} {env : Env} {k : Endpoint} {d : List UInt8} {w : World}
  {x : Ghost × Option IfInfo}

/-- INTERNAL: an operation of the handler. -/
theorem exec (h : Answering s env k d w x) (o : Op) (hg : opGuard x.1 o)
    (hr : (replyProtocol s.st.order (Srv.doRecvFrom s.pkt d)).guard x.2 o) (ho : ReceiverOp o) :
    opOk x.1 o (exec o w).1 ∧ Answering s env k d (TeaVpn2.exec o w).2
      (x.1.to (opNext x.1.hold o (TeaVpn2.exec o w).1),
        (replyProtocol s.st.order (Srv.doRecvFrom s.pkt d)).next x.2 o (TeaVpn2.exec o w).1) := by
  obtain ⟨hok, hiso⟩ := h.isolated.exec o hg ho
  obtain ⟨l', hl', hsend⟩ := exec_sends o h.isolated.slots hg
  obtain ⟨l, hl, hall⟩ := h.sends
  have hgrow : ∀ e ∈ w.log, e ∈ (TeaVpn2.exec o w).2.log := by
    intro e he
    rw [hl']
    exact List.mem_append_left _ he
  refine ⟨hok, hiso, (config_exec o w).trans h.config, ?_, l ++ l', ?_, ?_⟩
  · intro iff hiff
    by_cases hauth : ∀ i username password, o ≠ .auth i username password
    · dsimp only at hiff
      rw [replyProtocol_next _ _ _ _ _ hauth] at hiff
      obtain ⟨hacc, slot, hin⟩ := h.accepted iff hiff
      exact ⟨hacc, slot, hgrow _ hin⟩
    · push Not at hauth
      obtain ⟨i, username, password, rfl⟩ := hauth
      obtain ⟨htype, rfl, rfl⟩ := hr
      have hcand : x.1.hold = .candidate i := hg.1
      have hkey : (w.st.sessArr i).key = k := h.isolated.own i (by rw [hcand]; rfl)
      have hdir : w.st.dataDir = s.st.dataDir := congrArg (fun c => c.2.1) h.config
      have hfopen : w.env.fopen = env.fopen := congrArg (fun c => c.2.2.2) h.config
      have hres : teavpn2Auth w.st.dataDir w.env.fopen
          (Srv.authUsername (Srv.doRecvFrom s.pkt d).raw)
          (Srv.authPassword (Srv.doRecvFrom s.pkt d).raw) = some iff := hiff
      refine ⟨⟨htype, ?_⟩, i, ?_⟩
      · rw [← hdir, ← hfopen]
        exact hres
      · simp only [TeaVpn2.exec, World.emit, World.sess, hkey, hres]
        exact List.mem_append_right _ (List.mem_singleton.mpr rfl)
  · rw [hl', hl, List.append_assoc]
  · intro i dst a data ret hin
    rcases List.mem_append.mp hin with hin | hin
    · obtain ⟨htun, hgrant⟩ := hall i dst a data ret hin
      refine ⟨htun, fun hk => ?_⟩
      obtain ⟨iff, raw, hacc, hdata, slot, hslot⟩ := hgrant hk
      exact ⟨iff, raw, hacc, hdata, slot, hgrow _ hslot⟩
    · obtain ⟨rfl, -⟩ := hsend i dst a data ret hin
      refine ⟨hr.1, fun hk => ?_⟩
      obtain ⟨iff, raw, hghost, hdata⟩ := hr.2 hk
      obtain ⟨hacc, slot, hslot⟩ := h.accepted iff hghost
      exact ⟨iff, raw, hacc, hdata, slot, hgrow _ hslot⟩

end Answering

/-- INTERNAL: a program that sends neither TUN data nor an AUTH_OK. -/
theorem run_plainOp {α : Type} {p : Srv α} (hu : Prog.Uses PlainOp p) {g : Ghost}
    {Q : α → Ghost → Prop} (hp : Conforms sessionProtocol p g Q) {w : World} (hw : SlotInv w g.hold) :
    ∃ l, (p.run exec w).2.log = w.log ++ l ∧ ∀ i dst a data ret,
      Event.send i dst a data ret ∈ l → kindOf data ≠ some .tunData ∧ kindOf data ≠ some .authOk := by
  obtain ⟨_, _, _, hend⟩ := hu.run_inv hp
    (fun w' g' => SlotInv w' g'.hold ∧ ∃ l, w'.log = w.log ++ l ∧ ∀ i dst a data ret,
      Event.send i dst a data ret ∈ l → kindOf data ≠ some .tunData ∧ kindOf data ≠ some .authOk) (by
    rintro w' g' o ⟨hw', l, hl, hall⟩ hg ho
    obtain ⟨hok, hslots⟩ := slotInv_exec o hw' hg
    obtain ⟨l', hl', hsend⟩ := exec_sends o hw' hg
    refine ⟨hok, hslots, l ++ l', by rw [hl', hl, List.append_assoc], ?_⟩
    intro i dst a data ret hin
    rcases List.mem_append.mp hin with hin | hin
    · exact hall i dst a data ret hin
    · obtain ⟨rfl, -⟩ := hsend i dst a data ret hin
      exact ho) ⟨hw, [], by simp, by simp⟩
  exact hend

theorem handleEventFromTun_take (maxConn : UInt16) (pkt : ScPkt) (p : List UInt8) :
    Srv.handleEventFromTun maxConn pkt p = Srv.handleEventFromTun maxConn pkt (p.take 4096) := by
  simp only [Srv.handleEventFromTun, List.take_take, Nat.min_self]

/-- INTERNAL: **what stands behind a packet of the server.**
SOURCE: udp_epoll.c:498-905, 1035-1139, 1355-1370 -/
theorem step_sends {s : Server} (hs : Server.SlotInv s) (hl : Server.LifeInv s) {env : Env}
    (henv : env.NoEbadmsg) (inp : Input) (i : Nat) (dst : Endpoint) (a : Bool) (data : List UInt8)
    (ret : Int) (hin : Event.send i dst a data ret ∈ (s.step env inp).log.drop s.log.length) :
    (kindOf data = some .tunData →
      ∃ p, inp = .tun p ∧ data = tunDatagram TSRV_PKT_TUN_DATA (p.take 4096)) ∧
    (kindOf data = some .authOk → ∃ d iff raw, inp = .udp dst d ∧
      AcceptsAs s.st.dataDir env (Srv.doRecvFrom s.pkt d) iff ∧
        data = authOkPacket s.st.order raw iff ∧
          ∃ slot, Event.auth slot dst true ∈ (s.step env inp).log) := by
  have hslots := hs env henv
  cases inp with
  | udp k d =>
    have hstart : Answering s env k d (startWorld s env (.udp k d))
        (startGhost s (.udp k d), none) := by
      refine ⟨⟨hslots.start _, LifeInv.start _ hl, rfl, by simp [startGhost, Hold.slot],
        fun _ _ => rfl, [.recv k d], rfl, by simp⟩, rfl, by simp, [.recv k d], rfl, by simp⟩
    obtain ⟨x, -, hend⟩ := (handleEventFromUdp_uses s.st.order s.pkt k d).run_inv
      (Conforms.prod (handleEventFromUdp_conforms s.st.order s.pkt k d)
        (handleEventFromUdp_replies (o := s.st.order) s.pkt k d)) (Answering s env k d)
      (fun w x o hI hg ho => by
        obtain ⟨hok, hnext⟩ := hI.exec o hg.1 hg.2 ho
        exact ⟨⟨hok, trivial⟩, hnext⟩) hstart
    obtain ⟨l, hlog', hall⟩ := hend.sends
    have hlog : (s.step env (.udp k d)).log = s.log ++ l := hlog'
    have hdst := (step_onlyConcerns hs hl henv k d).replies i dst a data ret hin
    subst hdst
    rw [hlog, List.drop_left] at hin
    obtain ⟨htun, hgrant⟩ := hall i dst a data ret hin
    refine ⟨fun hk => absurd hk htun, fun hk => ?_⟩
    obtain ⟨iff, raw, hacc, hdata, slot, hslot⟩ := hgrant hk
    exact ⟨d, iff, raw, rfl, hacc, hdata, slot, hslot⟩
  | tun p =>
    have hcut : (p.take 4096).length ≤ 4096 := List.length_take_le _ _
    have hmem : data ∈ sentBy (Srv.handleEventFromTun s.st.maxConn s.pkt p) (s.world env) :=
      List.mem_filterMap.mpr ⟨_, hin, rfl⟩
    rw [handleEventFromTun_take] at hmem
    have hdata := handleEventFromTun_sendsOnly s.st.maxConn s.pkt hcut _ data hmem
    refine ⟨fun _ => ⟨p, rfl, hdata⟩, fun hk => ?_⟩
    have htun : kindOf data = some .tunData := by
      rw [hdata]
      rfl
    rw [htun] at hk
    cases hk
  | reap =>
    obtain ⟨l, hlog', hall⟩ := run_plainOp (zombieReaperDoScan_plainOp s.st.maxConn s.zrPkt)
      (zombieReaperDoScan_conforms (g := startGhost s .reap) s.st.maxConn s.zrPkt rfl) hslots
    have hlog : (s.step env .reap).log = s.log ++ l := hlog'
    rw [hlog, List.drop_left] at hin
    obtain ⟨htun, hok⟩ := hall i dst a data ret hin
    exact ⟨fun hk => absurd hk htun, fun hk => absurd hk hok⟩
  | shutdown =>
    obtain ⟨l, hlog', hall⟩ := run_plainOp (closeClientSess_plainOp s.st.maxConn s.pkt)
      (closeClientSess_conforms (g := startGhost s .shutdown) s.st.maxConn s.pkt rfl) hslots
    have hlog : (s.step env .shutdown).log = s.log ++ l := hlog'
    rw [hlog, List.drop_left] at hin
    obtain ⟨htun, hok⟩ := hall i dst a data ret hin
    exact ⟨fun hk => absurd hk htun, fun hk => absurd hk hok⟩

end TeaVpn2.Analysis
