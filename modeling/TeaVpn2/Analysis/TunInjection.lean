import TeaVpn2.Analysis.HandlerOps
import TeaVpn2.Analysis.SlotConservation

/-!
# Who can write to the TUN device

A TUN_DATA packet of a known session goes to the device without a look at
`is_authenticated`: `skip_session_creation` only stops endpoints without session. The
events of the log say for every write whether the session was authenticated at that
moment, and `tunWrites_authenticated_iff` says exactly which runs contain a write of a
session that was not.
-/

set_option autoImplicit false

namespace TeaVpn2.Analysis

open TeaVpn2 TeaVpn2.Lib

def isTunWrite : Event → Bool
  | .tunWrite _ _ _ _ => true
  | _ => false

def Op.isWriteTun : Op → Bool
  | .writeTun _ _ => true
  | _ => false

/-! ## Code that does not write to the device -/

/-- The protocol of code that never issues a write to the TUN device. -/
def writeFree : Protocol Op Op.Res Unit where
  guard _ o := Op.isWriteTun o = false
  ok _ _ _ := True
  next _ _ _ := ()

/-- The program never writes to the TUN device. -/
def WriteFree {α : Type} (p : Srv α) : Prop := Conforms writeFree p () fun _ _ => True

theorem filter_append_of_not {l : List Event} {e : Event} (he : isTunWrite e = false) :
    (l ++ [e]).filter isTunWrite = l.filter isTunWrite := by
  simp [List.filter_append, he]

theorem createUdpSess_log (w : World) (addr : UInt32) (port : UInt16) :
    ∃ l, (createUdpSess w addr port).2.log = w.log ++ l ∧ ∀ e ∈ l, isTunWrite e = false := by
  rcases createUdpSess_cases w addr port with
    heq | ⟨i, stk, m, mal, w₁, rfl, ⟨stk', l, hl, heq⟩ | ⟨w₂, rfl, heq⟩⟩
  · exact ⟨[], by simp [heq], by simp⟩
  · refine ⟨l, by rw [heq]; rfl, ?_⟩
    rcases hl with rfl | rfl
    · simp
    · simp [isTunWrite]
  · refine ⟨[.create i ⟨addr, port⟩], ?_, by simp [isTunWrite]⟩
    obtain ⟨_, _, _, hact⟩ := udpSessUpdateLastAct_eq (World.setSess _ i _) i
    rw [heq, hact]
    rfl

/-- INTERNAL: an operation appends to the log, and only a write to the device records
writes. -/
theorem exec_log (o : Op) (w : World) :
    ∃ l, (exec o w).2.log = w.log ++ l ∧
      (Op.isWriteTun o = false → ∀ e ∈ l, isTunWrite e = false) := by
  cases o with
  | createUdpSess addr port =>
    obtain ⟨l, hl, he⟩ := createUdpSess_log w addr port
    exact ⟨l, hl, fun _ => he⟩
  | deleteUdpSession i =>
    obtain ⟨stk, l, hl, hpush⟩ := pushOrBug_eq w (w.sess i).idx
    simp only [exec, deleteUdpSession, World.emit, World.setSess, hpush]
    refine ⟨_, List.append_assoc _ _ _, fun _ => ?_⟩
    rcases hl with rfl | rfl <;> simp [isTunWrite]
  | updateLastAct i =>
    obtain ⟨_, _, _, heq⟩ := udpSessUpdateLastAct_eq w i
    exact ⟨[], by simp [exec, heq], by simp⟩
  | getUnixTime =>
    obtain ⟨_, _, heq⟩ := getUnixTime_eq w
    exact ⟨[], by simp [exec, heq], by simp⟩
  | send i data =>
    obtain ⟨_, _, _, _, _, _, _, heq⟩ := sendToClient_spec w i data
    simp only [exec, heq]
    exact ⟨_, rfl, by simp [isTunWrite]⟩
  | auth i username password => exact ⟨_, rfl, by simp [isTunWrite]⟩
  | writeTun i data =>
    obtain ⟨_, _, _, _, _, _, _, heq⟩ := writeTun_spec w i data
    simp only [exec, heq]
    exact ⟨_, rfl, by simp [Op.isWriteTun]⟩
  | _ => exact ⟨[], by simp [exec, World.setSess], by simp⟩

/-- INTERNAL: an operation other than a write leaves the recorded writes alone. -/
theorem tunWrites_exec {o : Op} (ho : Op.isWriteTun o = false) (w : World) :
    (exec o w).2.log.filter isTunWrite = w.log.filter isTunWrite := by
  obtain ⟨l, hl, he⟩ := exec_log o w
  have hnil : l.filter isTunWrite = [] := by
    rw [List.filter_eq_nil_iff]
    intro e hin
    simp [he ho e hin]
  rw [hl, List.filter_append, hnil, List.append_nil]

/-- INTERNAL: the log only grows. -/
theorem run_log {α : Type} (p : Srv α) (w : World) : w.log <+: (p.run exec w).2.log := by
  induction p generalizing w with
  | pure a => exact List.prefix_refl _
  | op o k ih =>
    obtain ⟨l, hl, _⟩ := exec_log o w
    refine List.IsPrefix.trans ?_ (ih (exec o w).1 (exec o w).2)
    rw [hl]
    exact List.prefix_append _ _

theorem step_log (s : Server) (env : Env) (i : Input) : s.log <+: (s.step env i).log := by
  cases i with
  | udp saddr data =>
    refine List.IsPrefix.trans ?_ (run_log (Srv.handleEventFromUdp s.st.order s.pkt saddr data)
      ((s.world env).emit (.recv saddr data)))
    exact List.prefix_append _ _
  | tun data => exact run_log (Srv.handleEventFromTun s.st.maxConn s.pkt data) (s.world env)
  | reap => exact run_log (Srv.zombieReaperDoScan s.st.maxConn s.zrPkt) (s.world env)
  | shutdown => exact run_log (Srv.closeClientSess s.st.maxConn s.pkt) (s.world env)

theorem WriteFree.run {α : Type} {p : Srv α} (h : WriteFree p) (w : World) :
    (p.run exec w).2.log.filter isTunWrite = w.log.filter isTunWrite := by
  obtain ⟨_, _, hI⟩ := Conforms.run_inv
    (fun w' _ => w'.log.filter isTunWrite = w.log.filter isTunWrite)
    (fun s g o hI hg => ⟨trivial, (tunWrites_exec hg s).trans hI⟩) h rfl
  exact hI

/-! ## The handlers, TUN_DATA apart -/

theorem isWriteTun_of_datagramOp {o : Op} (h : DatagramOp o) : Op.isWriteTun o = false := by
  cases o with
  | writeTun i data => exact h.elim
  | _ => rfl

theorem isWriteTun_of_scanOp {o : Op} (h : ScanOp o) : Op.isWriteTun o = false := by
  cases o with
  | writeTun i data => exact h.elim
  | _ => rfl

theorem WriteFree.of_uses {α : Type} {P : Op → Prop} {p : Srv α} (hu : Prog.Uses P p)
    (h : ∀ o, P o → Op.isWriteTun o = false) : WriteFree p := hu.mono h

theorem handleNewClient_writeFree (o : ByteOrder) (pkt : ScPkt) (saddr : Endpoint) :
    WriteFree (Srv.handleNewClient o pkt saddr) := by
  refine .of_uses (handleNewClient_uses o pkt saddr) ?_
  rintro op (hop | ⟨_, _, rfl⟩)
  · exact isWriteTun_of_datagramOp hop
  · rfl

theorem finishEvent_writeFree (ret : Int) (pkt : ScPkt) (i : Nat) :
    WriteFree (Srv.finishEvent ret pkt i) := by
  refine .of_uses (finishEvent_uses ret pkt i) ?_
  rintro op (hop | rfl)
  · exact isWriteTun_of_datagramOp hop
  · rfl

theorem __handleEventFromUdp_writeFree (o : ByteOrder) {pkt : ScPkt} (i : Nat)
    (h : ¬(pktType pkt.raw = TCLI_PKT_TUN_DATA ∧ pktLen pkt.raw ≠ 0)) :
    WriteFree (Srv.__handleEventFromUdp o pkt i) := by
  refine .of_uses (__handleEventFromUdp_uses o pkt i) ?_
  rintro op (hop | ⟨_, hwrite⟩)
  · exact isWriteTun_of_datagramOp hop
  · exact absurd hwrite h

theorem handleEventFromTun_writeFree (maxConn : UInt16) (pkt : ScPkt) (data : List UInt8) :
    WriteFree (Srv.handleEventFromTun maxConn pkt data) :=
  .of_uses (handleEventFromTun_uses maxConn pkt data) fun _ => isWriteTun_of_scanOp

theorem zombieReaperDoScan_writeFree (maxConn : UInt16) (pkt : ScPkt) :
    WriteFree (Srv.zombieReaperDoScan maxConn pkt) :=
  .of_uses (zombieReaperDoScan_uses maxConn pkt) fun _ => isWriteTun_of_scanOp

theorem closeClientSess_writeFree (maxConn : UInt16) (pkt : ScPkt) :
    WriteFree (Srv.closeClientSess maxConn pkt) :=
  .of_uses (closeClientSess_uses maxConn pkt) fun _ => isWriteTun_of_scanOp

/-! ## One input, and runs -/

/-- The session of the source, and what the datagram in the buffer asks for: the input
makes the server write data of the session `i` to the TUN device. -/
def WritesFor (s : Server) : Input → Nat → Prop
  | .udp saddr data, i =>
      data ≠ [] ∧ pktType (Srv.doRecvFrom s.pkt data).raw = TCLI_PKT_TUN_DATA ∧
      pktLen (Srv.doRecvFrom s.pkt data).raw ≠ 0 ∧
      lookupUdpSess s.st saddr.addr saddr.port = some i
  | _, _ => False

/-- The bytes that are written for a TUN_DATA datagram. -/
def tunPayload (s : Server) : Input → List UInt8
  | .udp _ data => (Srv.doRecvFrom s.pkt data).raw.read 4
      (pktLen (Srv.doRecvFrom s.pkt data).raw).toNat
  | _ => []

/-- A TUN_DATA datagram with a length other than zero from an endpoint whose session is
open but not authenticated. -/
def InjectsUnauthenticated (s : Server) (i : Input) : Prop :=
  ∃ slot, WritesFor s i slot ∧ (s.st.sessArr slot).isAuthenticated = false

/-- Every write to the TUN device was made for a session that was authenticated. -/
def TunWritesAuthenticated (log : List Event) : Prop :=
  ∀ src auth data ret, Event.tunWrite src auth data ret ∈ log → auth = true

theorem tunWritesAuthenticated_filter (log : List Event) :
    TunWritesAuthenticated log ↔ ∀ e ∈ log.filter isTunWrite, ∀ src auth data ret,
      e = .tunWrite src auth data ret → auth = true := by
  constructor
  · rintro h e he src auth data ret rfl
    exact h src auth data ret (List.mem_filter.mp he).1
  · intro h src auth data ret he
    exact h _ (List.mem_filter.mpr ⟨he, rfl⟩) src auth data ret rfl

/-- INTERNAL: the dispatcher on TUN data is the write to the device.
SOURCE: udp_epoll.c:633-691, 715-741 -/
theorem __handleEventFromUdp_tunData (o : ByteOrder) {pkt : ScPkt} (i : Nat)
    (htype : pktType pkt.raw = TCLI_PKT_TUN_DATA) (hlen : pktLen pkt.raw ≠ 0) :
    Srv.__handleEventFromUdp o pkt i = (do
      let ret ← Srv.writeTun i (pkt.raw.read 4 (pktLen pkt.raw).toNat)
      pure (ret, pkt) : Srv (Int × ScPkt)) := by
  unfold Srv.__handleEventFromUdp Srv.handleClpktTunData
  simp only [htype]
  rw [if_neg (by decide), if_neg (by decide), if_pos trivial, if_neg hlen]

/-- INTERNAL: the writes one input causes: none, or those of the session it is for.
SOURCE: udp_epoll.c:633-691, 715-783 -/
theorem tunWrites_step (s : Server) (env : Env) (i : Input) :
    ((∀ slot, ¬WritesFor s i slot) ∧
      (s.step env i).log.filter isTunWrite = s.log.filter isTunWrite) ∨
    ∃ slot tried, WritesFor s i slot ∧ tried ≠ [] ∧
      (s.step env i).log.filter isTunWrite = s.log.filter isTunWrite ++
        tried.map fun r => Event.tunWrite (s.st.sessArr slot).key
          (s.st.sessArr slot).isAuthenticated (tunPayload s i) r := by
  cases i with
  | tun data =>
    left
    exact ⟨fun _ h => h, (handleEventFromTun_writeFree s.st.maxConn s.pkt data).run (s.world env)⟩
  | reap =>
    left
    exact ⟨fun _ h => h, (zombieReaperDoScan_writeFree s.st.maxConn s.zrPkt).run (s.world env)⟩
  | shutdown =>
    left
    exact ⟨fun _ h => h, (closeClientSess_writeFree s.st.maxConn s.pkt).run (s.world env)⟩
  | udp saddr data =>
    have hrecv : ((s.world env).emit (.recv saddr data)).log.filter isTunWrite =
        s.log.filter isTunWrite := filter_append_of_not rfl
    by_cases hempty : data = []
    · left
      refine ⟨fun _ h => h.1 hempty, ?_⟩
      have hlen := (doRecvFrom_len_eq_zero s.pkt data).mpr hempty
      have hfree : WriteFree (Srv.handleEventFromUdp s.st.order s.pkt saddr data) := by
        unfold Srv.handleEventFromUdp
        rw [if_pos hlen]
        exact trivial
      exact (hfree.run _).trans hrecv
    cases hl : lookupUdpSess s.st saddr.addr saddr.port with
    | none =>
      rw [step_udp_new hempty hl]
      left
      refine ⟨fun slot h => ?_, ((handleNewClient_writeFree s.st.order _ saddr).run _).trans hrecv⟩
      have hsome := h.2.2.2
      rw [hl] at hsome
      cases hsome
    | some slot =>
      rw [step_udp_known hempty hl]
      by_cases hwrite : pktType (Srv.doRecvFrom s.pkt data).raw = TCLI_PKT_TUN_DATA ∧
          pktLen (Srv.doRecvFrom s.pkt data).raw ≠ 0
      · right
        obtain ⟨ret, stop, em, poll, rs, tried, hne, heq⟩ := writeTun_spec
          ((s.world env).emit (.recv saddr data)) slot
          ((Srv.doRecvFrom s.pkt data).raw.read 4 (pktLen (Srv.doRecvFrom s.pkt data).raw).toNat)
        refine ⟨slot, tried,
          ⟨hempty, hwrite.1, hwrite.2, hl⟩, hne, ?_⟩
        -- the dispatcher is the write, and what follows it writes nothing
        have hdisp := __handleEventFromUdp_tunData s.st.order slot hwrite.1 hwrite.2
        have hlog : ((Srv.__handleEventFromUdp s.st.order (Srv.doRecvFrom s.pkt data) slot).run exec
            ((s.world env).emit (.recv saddr data))).2.log =
            ((s.world env).emit (.recv saddr data)).log ++ tried.map fun r =>
              Event.tunWrite (s.st.sessArr slot).key (s.st.sessArr slot).isAuthenticated
                ((Srv.doRecvFrom s.pkt data).raw.read 4
                  (pktLen (Srv.doRecvFrom s.pkt data).raw).toNat) r := by
          rw [hdisp, Prog.run_bind]
          exact congrArg (fun r => r.2.log) heq
        dsimp only
        rw [(finishEvent_writeFree _ _ slot).run, hlog, List.filter_append, hrecv]
        congr 1
        simp [List.filter_eq_self, isTunWrite, tunPayload]
      · left
        refine ⟨fun slot' h => hwrite ⟨h.2.1, h.2.2.1⟩, ?_⟩
        dsimp only
        rw [(finishEvent_writeFree _ _ slot).run,
          (__handleEventFromUdp_writeFree s.st.order slot hwrite).run]
        exact hrecv

theorem tunWritesAuthenticated_step (s : Server) (env : Env) (i : Input) :
    TunWritesAuthenticated (s.step env i).log ↔
      TunWritesAuthenticated s.log ∧ ¬InjectsUnauthenticated s i := by
  rcases tunWrites_step s env i with ⟨hno, heq⟩ | ⟨slot, tried, hw, hne, heq⟩
  · rw [tunWritesAuthenticated_filter, heq, ← tunWritesAuthenticated_filter]
    have hni : ¬InjectsUnauthenticated s i := fun ⟨slot, hw, _⟩ => hno slot hw
    tauto
  · rw [tunWritesAuthenticated_filter, heq, tunWritesAuthenticated_filter]
    have huniq : InjectsUnauthenticated s i ↔ (s.st.sessArr slot).isAuthenticated = false := by
      constructor
      · rintro ⟨slot', hw', hauth⟩
        cases i with
        | udp saddr dg =>
          have h := hw.2.2.2.symm.trans hw'.2.2.2
          cases h
          exact hauth
        | tun _ => exact hw.elim
        | reap => exact hw.elim
        | shutdown => exact hw.elim
      · exact fun hauth => ⟨slot, hw, hauth⟩
    rw [huniq, Bool.not_eq_false]
    constructor
    · intro h
      refine ⟨fun e he => h e (List.mem_append_left _ he), ?_⟩
      obtain ⟨r, rs, rfl⟩ := List.exists_cons_of_ne_nil hne
      exact h (.tunWrite (s.st.sessArr slot).key (s.st.sessArr slot).isAuthenticated (tunPayload s i) r)
        (List.mem_append_right _ (by simp)) _ _ _ r rfl
    · rintro ⟨hold, hauth⟩ e he src auth dat ret rfl
      rcases List.mem_append.mp he with he | he
      · exact hold _ he src auth dat ret rfl
      · obtain ⟨r, _, hr⟩ := List.mem_map.mp he
        cases hr
        exact hauth

/-- INTERNAL: **exactly when only authenticated clients inject traffic.** All writes of a
run were made for authenticated sessions if and only if no step of the run was a TUN_DATA
datagram, with a length other than zero, from an endpoint whose session is open but not
authenticated.
SOURCE: udp_epoll.c:522-559, 633-691, 715-741 -/
theorem tunWrites_authenticated_iff (maxConn : UInt16) (dataDir : List UInt8) (o : ByteOrder)
    (pkt zrPkt : ScPkt) (l : List (Env × Input)) :
    TunWritesAuthenticated ((Server.boot maxConn dataDir o pkt zrPkt).run l).log ↔
      Server.Along (fun s _ i => ¬InjectsUnauthenticated s i)
        (Server.boot maxConn dataDir o pkt zrPkt) l := by
  have hrun : ∀ (s : Server), TunWritesAuthenticated (s.run l).log ↔
      TunWritesAuthenticated s.log ∧
        Server.Along (fun s _ i => ¬InjectsUnauthenticated s i) s l := by
    induction l with
    | nil =>
      intro s
      simp [Server.run, Server.Along]
    | cons x l ih =>
      intro s
      obtain ⟨env, i⟩ := x
      rw [Server.run, Server.Along, ih, tunWritesAuthenticated_step]
      tauto
  rw [hrun]
  have hboot : TunWritesAuthenticated (Server.boot maxConn dataDir o pkt zrPkt).log := by
    simp [TunWritesAuthenticated, Server.boot]
  tauto

/-- A client that has only shaken hands, and sends one byte of data. -/
theorem tunWrites_unauthenticated :
    ¬∀ (maxConn : UInt16) (dataDir : List UInt8) (o : ByteOrder) (pkt zrPkt : ScPkt)
      (l : List (Env × Input)),
      TunWritesAuthenticated ((Server.boot maxConn dataDir o pkt zrPkt).run l).log := by
  intro h
  have hrun := h 1 [] .little Server.zeroPkt Server.zeroPkt
    [({}, .udp ⟨0x0a000001, 1000⟩ handshakeDatagram),
     ({}, .udp ⟨0x0a000001, 1000⟩ [TCLI_PKT_TUN_DATA, 0, 0, 1, 0x45])]
  have hauth := hrun ⟨0x0a000001, 1000⟩ false [0x45] 1 (by decide +kernel)
  cases hauth

end TeaVpn2.Analysis
