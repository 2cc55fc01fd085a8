import TeaVpn2.Analysis.ClientSends
import TeaVpn2.Analysis.Network
import TeaVpn2.Analysis.Reconnect
import TeaVpn2.Analysis.ServerSends
import TeaVpn2.Analysis.Unicast

/-!
# The traffic of the VPN is genuine

In every run of the whole network, as long as nobody sends under the endpoint of an honest machine:
what the server writes to its TUN device for that machine was read from the TUN device of that
machine, which had logged in before; what the machine writes to its device was read from the device
of the server and sent to it; and the machine configures its interface with the addresses of the
user whose credentials it was started with. Datagrams may be lost, repeated and delayed, clients may
be killed and started again, and other endpoints may send anything.
-/

set_option autoImplicit false

namespace TeaVpn2.Analysis

open TeaVpn2 TeaVpn2.Lib TeaVpn2.Lib.Schedule

/-! ## Packets on their way -/

/-- The packet `p` as the other end writes it to its device: as many bytes as were read, and of these
the first 4092 are those of `p`. -/
structure Carried (p data : List UInt8) : Prop where
  length : data.length = (p.take 4096).length
  bytes : data.take 4092 = p.take 4092

/-- INTERNAL: a packet that fits behind the header arrives unchanged. -/
theorem Carried.eq {p data : List UInt8} (h : Carried p data) (hp : p.length ≤ 4092) : data = p := by
  have hlen := h.length
  rw [List.length_take] at hlen
  have hbytes := h.bytes
  rwa [List.take_of_length_le (by omega), List.take_of_length_le hp] at hbytes

theorem Buf.take_read (b : Buf) (off m n : Nat) : (b.read off n).take m = b.read off (min m n) := by
  unfold Buf.read
  rw [← List.map_take, List.take_range]

/-- INTERNAL: a datagram with the packet `p` has landed in a buffer. -/
theorem landed_carried (b : Buf) (type : UInt8) (p : List UInt8) :
    Carried p ((b.write 0 ((tunDatagram type (p.take 4096)).take 4096)).read 4
      (pktLen (b.write 0 ((tunDatagram type (p.take 4096)).take 4096))).toNat) := by
  have hcut : (p.take 4096).length ≤ 4096 := List.length_take_le _ _
  rw [(header_landed b type hcut).2]
  generalize hq : p.take 4096 = q at hcut ⊢
  refine ⟨by rw [hq, Buf.length_read], ?_⟩
  have hpq : p.take 4092 = q.take 4092 := by
    rw [← hq, List.take_take]
    rfl
  have hlen := length_tunDatagram type q
  have hread := @Buf.read_write_within b 0 4 (min 4092 q.length) ((tunDatagram type q).take 4096) (by
    rw [List.length_take, hlen]
    omega)
  have hdrop : ((tunDatagram type q).take 4096).drop 4 = q.take 4092 := by
    rw [List.drop_take]
    exact congrArg (List.take 4092) (List.drop_left' rfl)
  rw [Nat.zero_add, hdrop, List.take_take] at hread
  rw [Buf.take_read, hread, hpq]
  by_cases hshort : q.length ≤ 4092
  · rw [List.take_of_length_le hshort, List.take_of_length_le (by omega)]
  · congr 1
    omega

theorem head?_landed (b : Buf) {d : List UInt8} (hd : d ≠ []) :
    d.head? = some (pktType (b.write 0 (d.take 4096))) := by
  have hpos : 0 < (d.take 4096).length := by
    have := List.length_pos_iff.mpr hd
    rw [List.length_take]
    omega
  rw [List.head?_eq_getElem?]
  exact Buf.getElem?_of_write_take b hpos

/-! ## What the two sides owe each other -/

/-- The machine `k` was started with the configuration `cfg`. -/
def Launched (moves : List VpnMove) (k : Endpoint) (cfg : CliCfg) : Prop :=
  ∃ o b, VpnMove.launch k o cfg b ∈ moves

/-- The user files accept the credentials with which the machine `k` was started, with the addresses
`iff`. -/
def Entitled (moves : List VpnMove) (dataDir : List UInt8) (k : Endpoint) (iff : IfInfo) : Prop :=
  ∃ cfg env inp, Launched moves k cfg ∧ VpnMove.server env inp ∈ moves ∧
    teavpn2Auth dataDir env.fopen ((cstr cfg.username).take 255) ((cstr cfg.password).take 255) =
      some iff

/-- A login of `k` was accepted. -/
def Admitted (log : List Event) (k : Endpoint) : Prop := ∃ slot, Event.auth slot k true ∈ log

/-- What a machine may send and write, after `reads` was read from its TUN device. -/
def PeerOp (moves : List VpnMove) (srv : Server) (srvReads : List (List UInt8)) (k : Endpoint)
    (reads : List (List UInt8)) : EplOp → Prop
  | .sendto data => data ≠ [] ∧
      (data.head? = some TCLI_PKT_TUN_DATA → Admitted srv.log k ∧
        ∃ p ∈ reads, data = tunDatagram TCLI_PKT_TUN_DATA (p.take 4096)) ∧
      (data.head? = some TCLI_PKT_AUTH → ∃ cfg, Launched moves k cfg ∧ data = authRequest cfg)
  | .write data => ∃ p ∈ srvReads,
      srv.hasSent k (tunDatagram TSRV_PKT_TUN_DATA (p.take 4096)) = true ∧ Carried p data
  | _ => True

/-- The buffer holds the addresses of a user of `k`, where `bring_up_iface` looks for them. -/
def Earned (moves : List VpnMove) (srv : Server) (k : Endpoint) : CliPhase → Buf → Prop
  | .iface, b => Admitted srv.log k ∧ ∃ iff, Entitled moves srv.st.dataDir k iff ∧
      b.read 38 50 = (iff.bytes srv.st.order).drop 32
  | .done out, _ => out = ⟨0, some 0⟩ → Admitted srv.log k
  | _, _ => True

/-- A machine is in its event loop after its login only. -/
def StageInv (moves : List VpnMove) (srv : Server) (k : Endpoint) : PeerStage → Prop
  | .off => True
  | .connecting prog => ∃ o cfg ph b, Launched moves k cfg ∧ prog = CliPhase.prog o cfg ph b ∧ ph.Ok ∧
      Earned moves srv k ph b
  | .online _ => Admitted srv.log k

/-- INTERNAL: a machine. -/
structure PeerInv (moves : List VpnMove) (srv : Server) (srvReads : List (List UInt8)) (k : Endpoint)
    (p : Peer) : Prop where
  log : Logged (PeerOp moves srv srvReads k p.tunRead) p.log
  ups : ∀ up ∈ p.ups, Admitted srv.log k ∧ ∃ iff, Entitled moves srv.st.dataDir k iff ∧
    up.drop 32 = (iff.bytes srv.st.order).drop 32
  stage : StageInv moves srv k p.stage

/-- INTERNAL: the packets of the server. -/
structure Promised (honest : Endpoint → Bool) (moves : List VpnMove) (srv : Server)
    (srvReads : List (List UInt8)) : Prop where
  tun : ∀ i dst a data ret, Event.send i dst a data ret ∈ srv.log → kindOf data = some .tunData →
    ∃ p ∈ srvReads, data = tunDatagram TSRV_PKT_TUN_DATA (p.take 4096)
  auth : ∀ i dst a data ret, Event.send i dst a data ret ∈ srv.log → kindOf data = some .authOk →
    Admitted srv.log dst ∧ (honest dst = true → ∃ iff raw, Entitled moves srv.st.dataDir dst iff ∧
      data = authOkPacket srv.st.order raw iff)

theorem hasSent_iff {s : Server} {k : Endpoint} {d : List UInt8} :
    s.hasSent k d = true ↔ ∃ i a ret, Event.send i k a d ret ∈ s.log := by
  unfold Server.hasSent
  rw [List.any_eq_true]
  constructor
  · rintro ⟨e, he, hd⟩
    cases e with
    | send i dst a data ret =>
      simp only [Bool.and_eq_true, beq_iff_eq] at hd
      obtain ⟨rfl, rfl⟩ := hd
      exact ⟨i, a, ret, he⟩
    | _ => cases hd
  · rintro ⟨i, a, ret, he⟩
    exact ⟨_, he, by simp⟩

theorem Peer.hasSent_iff {p : Peer} {d : List UInt8} :
    p.hasSent d = true ↔ ∃ ret, EplEvent.send d ret ∈ p.log := by
  unfold Peer.hasSent
  rw [List.any_eq_true]
  constructor
  · rintro ⟨e, he, hd⟩
    cases e with
    | send data ret =>
      rw [beq_iff_eq] at hd
      subst hd
      exact ⟨ret, he⟩
    | tunWrite data ret => cases hd
  · rintro ⟨ret, he⟩
    exact ⟨_, he, by simp⟩

/-! ## A move of a machine -/

section Peer

variable {honest : Endpoint → Bool} {moves : List VpnMove} {srv : Server}
  {srvReads : List (List UInt8)} {k : Endpoint} {p p' : Peer}

theorem PeerOp.mono {reads reads' : List (List UInt8)} (hsub : ∀ q ∈ reads, q ∈ reads') {o : EplOp}
    (h : PeerOp moves srv srvReads k reads o) : PeerOp moves srv srvReads k reads' o := by
  cases o with
  | sendto data =>
    refine ⟨h.1, fun ht => ?_, h.2.2⟩
    obtain ⟨hadm, q, hq, hdata⟩ := h.2.1 ht
    exact ⟨hadm, q, hsub q hq, hdata⟩
  | write data => exact h
  | _ => trivial

/-- INTERNAL: the machine has read something, sent something and gone on. -/
theorem PeerInv.grow (h : PeerInv moves srv srvReads k p) {reads : List (List UInt8)}
    {l : List EplEvent} (hl : Logged (PeerOp moves srv srvReads k (p.tunRead ++ reads)) l)
    {stage : PeerStage} (hstage : StageInv moves srv k stage) :
    PeerInv moves srv srvReads k
      { p with stage := stage, log := p.log ++ l, tunRead := p.tunRead ++ reads } :=
  ⟨(h.log.mono fun _ => PeerOp.mono fun _ hq => List.mem_append_left _ hq).append hl, h.ups, hstage⟩

theorem PeerInv.place (h : PeerInv moves srv srvReads k p) {stage : PeerStage}
    (hstage : StageInv moves srv k stage) : PeerInv moves srv srvReads k { p with stage := stage } :=
  ⟨h.log, h.ups, hstage⟩

/-- INTERNAL: a datagram that is neither TUN data nor an AUTH. -/
theorem peerOp_header {reads : List (List UInt8)} {t : UInt8}
    (ht : t ≠ TCLI_PKT_TUN_DATA ∧ t ≠ TCLI_PKT_AUTH) (rest : List UInt8) :
    PeerOp moves srv srvReads k reads (.sendto (t :: rest)) := by
  refine ⟨by simp, fun h => ?_, fun h => ?_⟩
  · exact absurd (Option.some.inj h) ht.1
  · exact absurd (Option.some.inj h) ht.2

theorem PeerInv.send (h : PeerInv moves srv srvReads k p) {data : List UInt8} {ret : Int}
    (hdata : PeerOp moves srv srvReads k p.tunRead (.sendto data)) {stage : PeerStage}
    (hstage : StageInv moves srv k stage) :
    PeerInv moves srv srvReads k { p with stage := stage, log := p.log ++ [.send data ret] } :=
  ⟨h.log.append ⟨by simp [hdata], by simp⟩, h.ups, hstage⟩

/-- INTERNAL: the check of an AUTH response lets an AUTH_OK pass only. -/
theorem authOk_of_chk {o : ByteOrder} {b : Buf} {d : List UInt8}
    (h : (Cli.serverAuthResChk o (Cli.recvInto b d).1 (Cli.recvInto b d).2).1 = 0) :
    kindOf d = some .authOk := by
  unfold Cli.serverAuthResChk at h
  dsimp only at h
  split at h
  · cases h
  split at h
  · cases h
  split at h
  · cases h
  next htype =>
    split at h
    · cases h
    next hlen =>
      have hpos : 0 < (Cli.recvInto b d).2 := by
        unfold PKT_MIN_LEN sizeofAuthRes at hlen
        omega
      have hbyte := recvInto_raw hpos
      rw [kindOf, List.head?_eq_getElem?, hbyte, show (Cli.recvInto b d).1 0 = TSRV_PKT_AUTH_OK from
        not_not.mp htype]
      rfl

/-- INTERNAL: the addresses that `bring_up_iface` finds in the buffer. -/
theorem drop_ifaceInfo (cfg : CliCfg) (b : Buf) (dev : List UInt8) (hdev : dev.length = 16) :
    (Cli.ifaceInfo cfg (b.write 6 dev)).drop 32 = b.read 38 50 := by
  have hshift : ∀ c : Buf, Buf.read (fun i => c (6 + i)) 32 50 = c.read 38 50 := by
    intro c
    unfold Buf.read
    apply List.map_congr_left
    intro i _
    exact congrArg c (by omega)
  have hdrop : ∀ c : Buf, (c.read 0 82).drop 32 = c.read 32 50 := by
    intro c
    rw [show 82 = 32 + 50 from rfl, Buf.read_add]
    exact List.drop_left' (Buf.length_read _ _ _)
  have hpub : ∀ (c : Buf) (l : List UInt8), l.length = 16 → (c.write 16 l).read 32 50 = c.read 32 50 :=
    fun c l hl => Buf.read_write_disjoint _ _ (.inl (by omega))
  unfold Cli.ifaceInfo
  dsimp only
  rw [hdrop]
  have hrest : Buf.read (fun i => (b.write 6 dev) (6 + i)) 32 50 = b.read 38 50 :=
    (hshift _).trans (Buf.read_write_disjoint _ _ (.inl (by omega)))
  split
  · rw [hpub _ _ (length_charArray _ _), hrest]
  · exact hrest

/-- INTERNAL: an AUTH_OK has been received. -/
theorem earned_answered (hsrv : Promised honest moves srv srvReads) (hk : honest k = true) {c : Nat}
    {o : ByteOrder} {b : Buf} {d : List UInt8} (hd : srv.hasSent k d = true) :
    let r := Cli.serverAuthResChk o (Cli.recvInto b d).1 (Cli.recvInto b d).2
    Earned moves srv k (CliPhase.answered c r.1) r.2 := by
  intro r
  unfold CliPhase.answered
  split
  · next hzero =>
    obtain ⟨i, a, ret, hin⟩ := hasSent_iff.mp hd
    obtain ⟨hadm, hown⟩ := hsrv.auth i k a d ret hin (authOk_of_chk hzero)
    obtain ⟨iff, raw, hent, rfl⟩ := hown hk
    refine ⟨hadm, iff, hent, ?_⟩
    have hread := (serverAuthResChk_authOk srv.st.order o raw b iff).2 66 (by omega)
    have hlen : ((iff.bytes srv.st.order).drop 16).length = 66 := by simp
    rw [List.take_of_length_le (by omega), show 66 = 16 + 50 from rfl, Buf.read_add] at hread
    have hdrop := congrArg (List.drop 16) hread
    rw [List.drop_left' (Buf.length_read _ _ _), List.drop_drop] at hdrop
    exact hdrop
  split
  · trivial
  · next hne _ =>
    intro hout
    injection hout with _ hret
    exact absurd (Option.some.inj hret) hne

theorem earned_greeted (c : Nat) (ret : Int) (b : Buf) :
    Earned moves srv k (CliPhase.greeted c ret) b := by
  unfold CliPhase.greeted
  split
  · trivial
  split
  · split
    · intro hout
      cases hout
    · trivial
  split
  · intro hout
    cases hout
  · trivial

theorem earned_failed {c : Nat} {ret : Int} (hret : ret ≠ 0) (b : Buf) :
    Earned moves srv k (CliPhase.answered c ret) b := by
  unfold CliPhase.answered
  rw [if_neg hret]
  split
  · trivial
  · intro hout
    injection hout with _ hzero
    exact absurd (Option.some.inj hzero) hret

/-- INTERNAL: **a system call of a machine that connects.**
SOURCE: client/linux/udp.c:339-624, 687-733 -/
theorem PeerInv.call (h : PeerInv moves srv srvReads k p) (hsrv : Promised honest moves srv srvReads)
    (hk : honest k = true) {a : CallAnswer} (hok : ∀ d, a.recv = .ok d → srv.hasSent k d = true)
    (herr : ∀ errno, a.recv = .error errno → 0 < errno) (hcall : p.call a = some p') :
    PeerInv moves srv srvReads k p' := by
  have hstage := h.stage
  cases hp : p.stage with
  | off =>
    simp only [Peer.call, hp] at hcall
    cases hcall
  | online c =>
    simp only [Peer.call, hp] at hcall
    cases hcall
  | connecting prog =>
    rw [hp] at hstage
    obtain ⟨o, cfg, ph, b, hlaunch, rfl, hphase, hearned⟩ := hstage
    have hplace : ∀ ph' b', ph'.Ok → Earned moves srv k ph' b' →
        StageInv moves srv k (.connecting (CliPhase.prog o cfg ph' b')) :=
      fun ph' b' hok' he => ⟨o, cfg, ph', b', hlaunch, rfl, hok', he⟩
    cases ph with
    | close =>
      simp only [Peer.call, hp, prog_close, Option.some.injEq] at hcall
      subst hcall
      exact h.send (peerOp_header (by decide) _) (hplace (.greet 0) _ (Nat.succ_pos _) trivial)
    | greet c =>
      simp only [Peer.call, hp, prog_greet o cfg b hphase, Option.some.injEq] at hcall
      subst hcall
      refine h.send (peerOp_header (by decide) _) ?_
      split
      · exact hplace (.greetWait c) _ hphase trivial
      · refine hplace (.done ⟨a.sendRet, none⟩) _ (.inr rfl) fun hout => ?_
        injection hout with _ hnone
        cases hnone
    | greetWait c =>
      simp only [Peer.call, hp, prog_greetWait, Option.some.injEq] at hcall
      subst hcall
      apply h.place
      split
      · exact hplace _ _ (CliPhase.greeted_ok c _) (earned_greeted c _ _)
      · exact hplace (.greetRecv c) _ hphase trivial
    | greetRecv c =>
      simp only [Peer.call, hp, prog_greetRecv, Option.some.injEq] at hcall
      subst hcall
      apply h.place
      split
      · exact hplace _ _ (CliPhase.greeted_ok c _) (earned_greeted c _ _)
      · exact hplace _ _ (CliPhase.greeted_ok c _) (earned_greeted c _ _)
    | login c =>
      simp only [Peer.call, hp, prog_login o cfg b hphase, Option.some.injEq] at hcall
      subst hcall
      have hauth : PeerOp moves srv srvReads k p.tunRead (.sendto (authRequest cfg)) := by
        refine ⟨by simp [authRequest, header], fun ht => ?_, fun _ => ⟨cfg, hlaunch, rfl⟩⟩
        exact absurd (Option.some.inj ht) (by decide)
      refine h.send hauth ?_
      split
      · exact hplace (.loginWait c) _ hphase trivial
      · next hneg =>
        refine hplace (.done ⟨0, some a.sendRet⟩) _ (.inl rfl) fun hout => ?_
        injection hout with _ hret
        exact absurd (Option.some.inj hret) (by omega)
    | loginWait c =>
      simp only [Peer.call, hp, prog_loginWait, Option.some.injEq] at hcall
      subst hcall
      apply h.place
      split
      · exact hplace _ _ (CliPhase.answered_ok c _) (earned_failed (by omega) _)
      · exact hplace (.loginRecv c) _ hphase trivial
    | loginRecv c =>
      simp only [Peer.call, hp, prog_loginRecv, Option.some.injEq] at hcall
      subst hcall
      apply h.place
      split
      · next errno he =>
        have hpos := herr errno he
        exact hplace _ _ (CliPhase.answered_ok c _) (earned_failed (by omega) _)
      · next d hd =>
        exact hplace _ _ (CliPhase.answered_ok c _) (earned_answered hsrv hk (hok d hd))
    | iface =>
      simp only [Peer.call, hp, prog_iface, Option.some.injEq] at hcall
      subst hcall
      obtain ⟨hadm, iff, hent, hread⟩ := hearned
      refine ⟨h.log, ?_, hplace _ _ (.inl rfl) fun _ => hadm⟩
      intro up hup
      rcases List.mem_append.mp hup with hup | hup
      · exact h.ups up hup
      · rw [List.mem_singleton.mp hup, drop_ifaceInfo cfg b _ (length_charArray _ _)]
        exact ⟨hadm, iff, hent, hread⟩
    | done out =>
      simp only [Peer.call, hp, CliPhase.prog] at hcall
      cases hcall

theorem PeerInv.enter (h : PeerInv moves srv srvReads k p) {pkt : Nat → ScPkt} {env : EplEnv}
    (henter : p.enter pkt env = some p') : PeerInv moves srv srvReads k p' := by
  have hstage := h.stage
  unfold Peer.enter at henter
  split at henter
  · next out hp =>
    rw [hp] at hstage
    obtain ⟨o, cfg, ph, b, -, hprog, hphase, hearned⟩ := hstage
    have hdone := CliPhase.eq_done hphase hprog.symm
    subst hdone
    split at henter
    · next hout =>
      cases henter
      exact h.place (hearned hout)
    · cases henter
  · cases henter

/-- INTERNAL: a machine in its event loop goes on.
SOURCE: client/linux/udp_epoll.c:225-368, 515-571 -/
theorem PeerInv.event (h : PeerInv moves srv srvReads k p) (hsrv : Promised honest moves srv srvReads)
    {thread : Nat} {env : EplEnv} {event : Epl.Ready}
    (hok : ∀ d, event.recv = .ok d → srv.hasSent k d = true)
    (herr : ∀ errno, event.recv = .error errno → 0 < errno)
    (hevent : p.event thread env event = some p') : PeerInv moves srv srvReads k p' := by
  have hstage := h.stage
  unfold Peer.event at hevent
  split at hevent
  · next c hp =>
    cases hevent
    rw [hp] at hstage
    obtain ⟨l, hl, hlog⟩ := handleEvent_logged c thread env herr
    unfold Peer.goOn
    rw [hl, List.drop_left]
    refine h.grow (hlog.mono fun op hop => ?_) hstage
    cases op with
    | sendto data =>
      rcases hop with rfl | ⟨q, rfl, rfl⟩
      · exact peerOp_header (by decide) _
      · refine ⟨tunDatagram_ne_nil _ _, fun _ => ⟨hstage, q, ?_, rfl⟩, fun ht => ?_⟩
        · exact List.mem_append_right _ (List.mem_singleton.mpr rfl)
        · exact absurd (Option.some.inj ht) (by decide)
    | write data =>
      obtain ⟨d, rfl, hd, htype, rfl⟩ := hop
      obtain ⟨i, a, ret, hin⟩ := hasSent_iff.mp (hok d rfl)
      have hkind : kindOf d = some .tunData := by
        rw [kindOf, head?_landed (c.pkt thread).raw hd]
        exact congrArg kindOfType htype
      obtain ⟨q, hq, rfl⟩ := hsrv.tun i k a d ret hin hkind
      exact ⟨q, hq, hasSent_iff.mpr ⟨i, a, ret, hin⟩, landed_carried _ _ _⟩
    | _ => trivial
  · cases hevent

theorem PeerInv.tick (h : PeerInv moves srv srvReads k p) {env : EplEnv}
    (htick : p.tick env = some p') : PeerInv moves srv srvReads k p' := by
  have hstage := h.stage
  unfold Peer.tick at htick
  split at htick
  · next c hp =>
    cases htick
    rw [hp] at hstage
    obtain ⟨l, hl, hlog⟩ := tick_logged c env
    have hops : Logged (PeerOp moves srv srvReads k (p.tunRead ++ [])) l := by
      refine hlog.mono fun op hop => ?_
      cases op with
      | sendto data =>
        rw [show data = _ from hop]
        exact peerOp_header (by decide) _
      | _ => exact hop.elim
    have hgrown := h.grow hops (show StageInv moves srv k (.online (c._runTimerThread env)) from hstage)
    unfold Peer.goOn
    rw [hl, List.drop_left]
    rw [List.append_nil] at hgrown
    exact hgrown
  · cases htick

theorem PeerInv.quit (h : PeerInv moves srv srvReads k p) {ret : Int} (hquit : p.quit ret = some p') :
    PeerInv moves srv srvReads k p' := by
  have hclose : PeerOp moves srv srvReads k p.tunRead
      (.sendto (sent (cliPprep (fun _ => 0) TCLI_PKT_CLOSE 0 0))) := by
    rw [cliPprep, sent_pprep_zero]
    exact peerOp_header (by decide) _
  unfold Peer.quit at hquit
  split at hquit
  · cases hquit
  · cases hquit
  · cases hquit
    exact h.send hclose trivial

end Peer

/-! ## An input of the server -/

/-- The server has gone on. -/
structure Later (srv srv' : Server) : Prop where
  log : ∀ e ∈ srv.log, e ∈ srv'.log
  dataDir : srv'.st.dataDir = srv.st.dataDir
  order : srv'.st.order = srv.st.order

theorem later_step (srv : Server) (env : Env) (inp : Input) : Later srv (srv.step env inp) := by
  obtain ⟨-, hdir, horder⟩ := config_step srv env inp
  exact ⟨fun e he => (step_log srv env inp).subset he, hdir, horder⟩

theorem Admitted.mono {log log' : List Event} {k : Endpoint} (h : Admitted log k)
    (hsub : ∀ e ∈ log, e ∈ log') : Admitted log' k := by
  obtain ⟨slot, hslot⟩ := h
  exact ⟨slot, hsub _ hslot⟩

section Later

variable {moves : List VpnMove} {srv srv' : Server} {srvReads srvReads' : List (List UInt8)}
  {k : Endpoint}

theorem PeerOp.later (hlater : Later srv srv') (hreads : ∀ q ∈ srvReads, q ∈ srvReads')
    {reads : List (List UInt8)} {o : EplOp} (h : PeerOp moves srv srvReads k reads o) :
    PeerOp moves srv' srvReads' k reads o := by
  cases o with
  | sendto data =>
    refine ⟨h.1, fun ht => ?_, h.2.2⟩
    obtain ⟨hadm, hq⟩ := h.2.1 ht
    exact ⟨hadm.mono hlater.log, hq⟩
  | write data =>
    obtain ⟨q, hq, hsent, hcarried⟩ := h
    obtain ⟨i, a, ret, hin⟩ := hasSent_iff.mp hsent
    exact ⟨q, hreads q hq, hasSent_iff.mpr ⟨i, a, ret, hlater.log _ hin⟩, hcarried⟩
  | _ => trivial

theorem Earned.later (hlater : Later srv srv') {ph : CliPhase} {b : Buf} (h : Earned moves srv k ph b) :
    Earned moves srv' k ph b := by
  cases ph with
  | iface =>
    obtain ⟨hadm, iff, hent, hread⟩ := h
    refine ⟨hadm.mono hlater.log, iff, ?_, ?_⟩
    · rw [hlater.dataDir]
      exact hent
    · rw [hlater.order]
      exact hread
  | done out => exact fun hout => (h hout).mono hlater.log
  | _ => trivial

/-- INTERNAL: what a machine was owed is still there. -/
theorem PeerInv.later (hlater : Later srv srv') (hreads : ∀ q ∈ srvReads, q ∈ srvReads') {p : Peer}
    (h : PeerInv moves srv srvReads k p) : PeerInv moves srv' srvReads' k p := by
  refine ⟨h.log.mono fun _ => PeerOp.later hlater hreads, fun up hup => ?_, ?_⟩
  · obtain ⟨hadm, hiff⟩ := h.ups up hup
    rw [hlater.dataDir, hlater.order]
    exact ⟨hadm.mono hlater.log, hiff⟩
  · have hstage := h.stage
    cases hp : p.stage with
    | off => trivial
    | online c =>
      rw [hp] at hstage
      exact Admitted.mono hstage hlater.log
    | connecting prog =>
      rw [hp] at hstage
      obtain ⟨o, cfg, ph, b, hlaunch, hprog, hok, hearned⟩ := hstage
      exact ⟨o, cfg, ph, b, hlaunch, hprog, hok, hearned.later hlater⟩

end Later

/-- INTERNAL: the whole network. -/
structure VpnInv (honest : Endpoint → Bool) (moves : List VpnMove) (dataDir : List UInt8)
    (o : ByteOrder) (v : Vpn) : Prop where
  slots : Server.SlotInv v.srv
  life : Server.LifeInv v.srv
  dataDir : v.srv.st.dataDir = dataDir
  order : v.srv.st.order = o
  promised : Promised honest moves v.srv v.tunRead
  written : ∀ k, honest k = true → ∀ pre a data ret post,
    v.srv.log = pre ++ .tunWrite k a data ret :: post →
      Admitted pre k ∧ ∃ p ∈ (v.peer k).tunRead, Carried p data
  peers : ∀ k, honest k = true → PeerInv moves v.srv v.tunRead k (v.peer k)

section Run

variable {honest : Endpoint → Bool} {moves : List VpnMove} {dataDir : List UInt8} {o : ByteOrder}
  {v v' : Vpn} {env : Env} {inp : Input}

/-- INTERNAL: a datagram that arrives from an honest machine was sent by it. -/
theorem VpnInv.arrived (h : VpnInv honest moves dataDir o v) {k : Endpoint} (hk : honest k = true)
    {d : List UInt8} (hnet : v.toServer honest (.udp k d) = true) :
    PeerOp moves v.srv v.tunRead k (v.peer k).tunRead (.sendto d) := by
  have hsent : (v.peer k).hasSent d = true := by
    simpa [Vpn.toServer, hk] using hnet
  obtain ⟨ret, hin⟩ := Peer.hasSent_iff.mp hsent
  exact (h.peers k hk).log.1 d ret hin

/-- INTERNAL: a login of an honest machine that is accepted is one with its own credentials. -/
theorem VpnInv.entitled (h : VpnInv honest moves dataDir o v) {k : Endpoint} (hk : honest k = true)
    {d : List UInt8} (hmem : VpnMove.server env (.udp k d) ∈ moves)
    (hnet : v.toServer honest (.udp k d) = true) {iff : IfInfo}
    (hacc : AcceptsAs v.srv.st.dataDir env (Srv.doRecvFrom v.srv.pkt d) iff) :
    Entitled moves v.srv.st.dataDir k iff := by
  obtain ⟨htype, hacc⟩ := hacc
  obtain ⟨hne, -, hauth⟩ := h.arrived hk hnet
  have hhead : d.head? = some TCLI_PKT_AUTH := by
    rw [head?_landed v.srv.pkt.raw hne]
    exact congrArg some htype
  obtain ⟨cfg, hlaunch, rfl⟩ := hauth hhead
  refine ⟨cfg, env, _, hlaunch, hmem, ?_⟩
  obtain ⟨huser, hpass⟩ := credentials_arrive v.srv.pkt.raw cfg.username cfg.password v.srv.pkt
  rw [show sent (cliPprepAuth v.srv.pkt.raw cfg.username cfg.password) = authRequest cfg from
    sent_cliPprepAuth v.srv.pkt.raw cfg.username cfg.password] at huser hpass
  rw [huser, hpass] at hacc
  exact hacc

/-- INTERNAL: the packets of the server after an input. -/
theorem VpnInv.promised_step (h : VpnInv honest moves dataDir o v) (henv : env.NoEbadmsg)
    (hmem : VpnMove.server env inp ∈ moves) (hnet : v.toServer honest inp = true) :
    Promised honest moves (v.srv.step env inp) (v.tunRead ++ inp.tunPackets) := by
  have hlater := later_step v.srv env inp
  obtain ⟨l, hl⟩ := step_log v.srv env inp
  have hnew : ∀ {e : Event}, e ∈ (v.srv.step env inp).log → e ∈ v.srv.log ∨
      e ∈ (v.srv.step env inp).log.drop v.srv.log.length := by
    intro e he
    rw [← hl, List.drop_left]
    rw [← hl] at he
    exact List.mem_append.mp he
  constructor
  · intro i dst a data ret hin hkind
    rcases hnew hin with hold | hin
    · obtain ⟨q, hq, hdata⟩ := h.promised.tun i dst a data ret hold hkind
      exact ⟨q, List.mem_append_left _ hq, hdata⟩
    · obtain ⟨q, rfl, hdata⟩ := (step_sends h.slots h.life henv inp i dst a data ret hin).1 hkind
      exact ⟨q, List.mem_append_right _ (List.mem_singleton.mpr rfl), hdata⟩
  · intro i dst a data ret hin hkind
    rw [hlater.dataDir, hlater.order]
    rcases hnew hin with hold | hin
    · obtain ⟨hadm, hown⟩ := h.promised.auth i dst a data ret hold hkind
      exact ⟨hadm.mono hlater.log, hown⟩
    · obtain ⟨d, iff, raw, rfl, hacc, hdata, hadm⟩ :=
        (step_sends h.slots h.life henv inp i dst a data ret hin).2 hkind
      exact ⟨hadm, fun hk => ⟨iff, raw, h.entitled hk hmem hnet hacc, hdata⟩⟩

/-- INTERNAL: the packets the server has written, after an input. -/
theorem VpnInv.written_step (h : VpnInv honest moves dataDir o v) (henv : env.NoEbadmsg)
    (hnet : v.toServer honest inp = true) (k : Endpoint) (hk : honest k = true) (pre : List Event)
    (a : Bool) (data : List UInt8) (ret : Int) (post : List Event)
    (hlog : (v.srv.step env inp).log = pre ++ .tunWrite k a data ret :: post) :
    Admitted pre k ∧ ∃ p ∈ (v.peer k).tunRead, Carried p data := by
  obtain ⟨l, hl⟩ := step_log v.srv env inp
  rw [← hl] at hlog
  -- the write is an old one, or it is one of this input
  have hwhere : (∃ rest, v.srv.log = pre ++ .tunWrite k a data ret :: rest) ∨
      (∀ e ∈ v.srv.log, e ∈ pre) ∧ Event.tunWrite k a data ret ∈ l := by
    rcases List.append_eq_append_iff.mp hlog with ⟨m, rfl, rfl⟩ | ⟨m, hpre, hm⟩
    · exact .inr ⟨fun e he => List.mem_append_left _ he, by simp⟩
    · cases m with
      | nil =>
        rw [List.append_nil] at hpre
        rw [List.nil_append] at hm
        rw [← hm, hpre]
        exact .inr ⟨fun e he => he, by simp⟩
      | cons e m =>
        injection hm with he _
        subst he
        exact .inl ⟨m, hpre⟩
  rcases hwhere with ⟨rest, hold⟩ | ⟨hsub, hin⟩
  · exact h.written k hk pre a data ret rest hold
  have hfilter : Event.tunWrite k a data ret ∈ l.filter isTunWrite :=
    List.mem_filter.mpr ⟨hin, rfl⟩
  rcases tunWrites_step v.srv env inp with ⟨-, hnone⟩ | ⟨slot, tried, hw, -, heq⟩
  · rw [← hl, List.filter_append] at hnone
    rw [List.append_right_eq_self.mp hnone] at hfilter
    cases hfilter
  · rw [← hl, List.filter_append, List.append_cancel_left_eq] at heq
    rw [heq] at hfilter
    obtain ⟨r, -, hr⟩ := List.mem_map.mp hfilter
    cases inp with
    | udp k' d =>
      obtain ⟨hd, htype, -, hlook⟩ := hw
      have hkey := ((lookupUdpSess_eq_some (h.slots env henv).table k' slot).mp hlook).2
      injection hr with hsrc _ hdata _
      have hsame : k' = k := hkey.symm.trans hsrc
      subst hsame
      subst hdata
      obtain ⟨-, htun, -⟩ := h.arrived hk hnet
      have hhead : d.head? = some TCLI_PKT_TUN_DATA := by
        rw [head?_landed v.srv.pkt.raw hd]
        exact congrArg some htype
      obtain ⟨hadm, q, hq, rfl⟩ := htun hhead
      exact ⟨hadm.mono hsub, q, hq, landed_carried v.srv.pkt.raw _ q⟩
    | tun p => exact hw.elim
    | reap => exact hw.elim
    | shutdown => exact hw.elim

/-- INTERNAL: a machine has gone on. -/
theorem VpnInv.setPeer (h : VpnInv honest moves dataDir o v) {k : Endpoint} {p : Peer}
    (hp : honest k = true → PeerInv moves v.srv v.tunRead k p)
    (hreads : ∀ q ∈ (v.peer k).tunRead, q ∈ p.tunRead) :
    VpnInv honest moves dataDir o (v.setPeer k p) := by
  refine ⟨h.slots, h.life, h.dataDir, h.order, h.promised, ?_, ?_⟩
  · intro j hj pre a data ret post hlog
    obtain ⟨hadm, q, hq, hcarried⟩ := h.written j hj pre a data ret post hlog
    refine ⟨hadm, q, ?_, hcarried⟩
    by_cases hjk : j = k
    · subst hjk
      show q ∈ (Function.update v.peer j p j).tunRead
      rw [Function.update_self]
      exact hreads q hq
    · show q ∈ (Function.update v.peer k p j).tunRead
      rw [Function.update_of_ne hjk]
      exact hq
  · intro j hj
    by_cases hjk : j = k
    · subst hjk
      show PeerInv moves v.srv v.tunRead j (Function.update v.peer j p j)
      rw [Function.update_self]
      exact hp hj
    · show PeerInv moves v.srv v.tunRead j (Function.update v.peer k p j)
      rw [Function.update_of_ne hjk]
      exact h.peers j hj

theorem tunRead_call {p p' : Peer} {a : CallAnswer} (h : p.call a = some p') : p'.tunRead = p.tunRead := by
  unfold Peer.call at h
  split at h <;> cases h <;> rfl

theorem tunRead_enter {p p' : Peer} {pkt : Nat → ScPkt} {env : EplEnv} (h : p.enter pkt env = some p') :
    p'.tunRead = p.tunRead := by
  unfold Peer.enter at h
  split at h
  · split at h <;> cases h
    rfl
  · cases h

theorem tunRead_event {p p' : Peer} {thread : Nat} {env : EplEnv} {event : Epl.Ready}
    (h : p.event thread env event = some p') : p'.tunRead = p.tunRead ++ event.tunPackets := by
  unfold Peer.event at h
  split at h <;> cases h
  rfl

theorem tunRead_tick {p p' : Peer} {env : EplEnv} (h : p.tick env = some p') :
    p'.tunRead = p.tunRead := by
  unfold Peer.tick at h
  split at h <;> cases h
  rfl

theorem tunRead_quit {p p' : Peer} {ret : Int} (h : p.quit ret = some p') : p'.tunRead = p.tunRead := by
  unfold Peer.quit at h
  split at h <;> cases h
  rfl

theorem toPeer_ok {k : Endpoint} {recv : Except Int (List UInt8)} (h : v.toPeer k recv = true) :
    (∀ d, recv = .ok d → v.srv.hasSent k d = true) ∧ ∀ errno, recv = .error errno → 0 < errno := by
  constructor
  · rintro d rfl
    exact h
  · rintro errno rfl
    exact of_decide_eq_true h

/-- INTERNAL: **one move of the network**, with a case for each of them. -/
theorem vpnInv_step {m : VpnMove} (h : VpnInv honest moves dataDir o v) (hmem : m ∈ moves)
    (hkernel : ∀ env inp, m = .server env inp → env.NoEbadmsg)
    (hstep : Vpn.step honest m v = some v') : VpnInv honest moves dataDir o v' := by
  cases m with
  | launch k o' cfg b =>
    simp only [Vpn.step] at hstep
    split at hstep
    · cases hstep
      refine h.setPeer (fun hk => (h.peers k hk).place ?_) fun _ hq => hq
      exact ⟨o', cfg, .close, b, ⟨o', b, hmem⟩, rfl, trivial, trivial⟩
    · cases hstep
  | call k a =>
    simp only [Vpn.step, Option.ite_none_right_eq_some, Option.map_eq_some_iff] at hstep
    obtain ⟨hnet, p, hcall, rfl⟩ := hstep
    obtain ⟨hok, herr⟩ := toPeer_ok hnet
    refine h.setPeer (fun hk => (h.peers k hk).call h.promised hk hok herr hcall) fun q hq => ?_
    rw [tunRead_call hcall]
    exact hq
  | enter k pkt env =>
    simp only [Vpn.step, Option.map_eq_some_iff] at hstep
    obtain ⟨p, henter, rfl⟩ := hstep
    refine h.setPeer (fun hk => (h.peers k hk).enter henter) fun q hq => ?_
    rw [tunRead_enter henter]
    exact hq
  | event k thread env event =>
    simp only [Vpn.step, Option.ite_none_right_eq_some, Option.map_eq_some_iff] at hstep
    obtain ⟨hnet, p, hevent, rfl⟩ := hstep
    obtain ⟨hok, herr⟩ := toPeer_ok hnet
    refine h.setPeer (fun hk => (h.peers k hk).event h.promised hok herr hevent) fun q hq => ?_
    rw [tunRead_event hevent]
    exact List.mem_append_left _ hq
  | tick k env =>
    simp only [Vpn.step, Option.map_eq_some_iff] at hstep
    obtain ⟨p, htick, rfl⟩ := hstep
    refine h.setPeer (fun hk => (h.peers k hk).tick htick) fun q hq => ?_
    rw [tunRead_tick htick]
    exact hq
  | quit k ret =>
    simp only [Vpn.step, Option.map_eq_some_iff] at hstep
    obtain ⟨p, hquit, rfl⟩ := hstep
    refine h.setPeer (fun hk => (h.peers k hk).quit hquit) fun q hq => ?_
    rw [tunRead_quit hquit]
    exact hq
  | crash k =>
    cases hstep
    exact h.setPeer (fun hk => (h.peers k hk).place trivial) fun _ hq => hq
  | server env inp =>
    simp only [Vpn.step, Option.ite_none_right_eq_some, Option.some.injEq] at hstep
    obtain ⟨hnet, rfl⟩ := hstep
    have henv := hkernel env inp rfl
    have hlater := later_step v.srv env inp
    refine ⟨step_slotInv inp h.slots henv, step_lifeInv inp h.slots h.life henv,
      hlater.dataDir.trans h.dataDir, hlater.order.trans h.order, h.promised_step henv hmem hnet,
      h.written_step henv hnet, fun k hk => ?_⟩
    exact (h.peers k hk).later hlater fun q hq => List.mem_append_left _ hq

end Run

/-- INTERNAL: the rule for a run of the network: what each of its moves keeps holds at its end. -/
theorem vpn_run_inv {honest : Endpoint → Bool} {moves : List VpnMove} {v₀ v : Vpn} (I : Vpn → Prop)
    (hstep : ∀ v m v', I v → m ∈ moves → (∀ env inp, m = .server env inp → env.NoEbadmsg) →
      Vpn.step honest m v = some v' → I v')
    (hstart : I v₀) (hrun : play (Vpn.step honest) moves v₀ = some v)
    (hkernel : ∀ env inp, VpnMove.server env inp ∈ moves → env.NoEbadmsg) : I v := by
  refine play_inv (P := fun _ m => m ∈ moves ∧ ∀ env inp, m = .server env inp → env.NoEbadmsg) I
    (fun v m v' hv hm hs => hstep v m v' hv hm.1 hm.2 hs) hstart
    (along_of_forall (fun m hm v => ⟨hm, ?_⟩) _) hrun
  rintro env inp rfl
  exact hkernel env inp hm

theorem vpnInv_boot (honest : Endpoint → Bool) (moves : List VpnMove) (maxConn : UInt16)
    (dataDir : List UInt8) (o : ByteOrder) (pkt zrPkt : ScPkt) :
    VpnInv honest moves dataDir o (Vpn.boot maxConn dataDir o pkt zrPkt) := by
  refine ⟨boot_slotInv maxConn dataDir o pkt zrPkt, boot_lifeInv maxConn dataDir o pkt zrPkt, rfl,
    rfl, ⟨by simp [Vpn.boot, Server.boot], by simp [Vpn.boot, Server.boot]⟩, ?_, ?_⟩
  · intro k _ pre a data ret post hlog
    simp [Vpn.boot, Server.boot] at hlog
  · exact fun k _ => ⟨⟨by simp [Vpn.boot], by simp [Vpn.boot]⟩, by simp [Vpn.boot], trivial⟩

/-- INTERNAL: every run of the network. -/
theorem vpnInv_run {honest : Endpoint → Bool} {maxConn : UInt16} {dataDir : List UInt8} {o : ByteOrder}
    {pkt zrPkt : ScPkt} {moves : List VpnMove} {v : Vpn}
    (hrun : play (Vpn.step honest) moves (Vpn.boot maxConn dataDir o pkt zrPkt) = some v)
    (hkernel : ∀ env inp, VpnMove.server env inp ∈ moves → env.NoEbadmsg) :
    VpnInv honest moves dataDir o v :=
  vpn_run_inv (VpnInv honest moves dataDir o) (fun _ _ _ hv hm hk hs => vpnInv_step hv hm hk hs)
    (vpnInv_boot honest moves maxConn dataDir o pkt zrPkt) hrun hkernel

/-- A machine logs in, and one packet goes each way. -/
def dialogue : List VpnMove :=
  [.launch (client 1) .little userCfg (fun _ => 0), .call (client 1) {},
    .server userEnv (.udp (client 1) [TCLI_PKT_CLOSE, 0, 0, 0]),
    .call (client 1) { sendRet := 96 }, .server userEnv (.udp (client 1) handshakePacket),
    .call (client 1) { polled := [(1, false)] }, .call (client 1) { recv := .ok handshakePacket },
    .call (client 1) { sendRet := 516 }, .server userEnv (.udp (client 1) (authRequest userCfg)),
    .call (client 1) { polled := [(1, false)] },
    .call (client 1) { recv := .ok (authOkPacket .little (Buf.write (fun _ => 0) 4 (ascii "us"))
      { ipv4 := ascii "10.5.0.2" }) },
    .call (client 1) {}, .enter (client 1) (fun _ => Server.zeroPkt) {},
    .event (client 1) 0 {} (.tun (.ok (ipv4PacketTo 10 5 0 1))),
    .server {} (.udp (client 1) (tunDatagram TCLI_PKT_TUN_DATA (ipv4PacketTo 10 5 0 1))),
    .server {} (.tun (ipv4PacketTo 10 5 0 2)),
    .event (client 1) 0 {} (.udp (.ok (tunDatagram TSRV_PKT_TUN_DATA (ipv4PacketTo 10 5 0 2))))]

theorem env_dialogue {env : Env} {inp : Input} (h : VpnMove.server env inp ∈ dialogue) :
    env = userEnv ∨ env = {} := by
  simp only [dialogue, List.mem_cons, VpnMove.server.injEq, reduceCtorEq, false_or, List.not_mem_nil,
    or_false] at h
  rcases h with ⟨rfl, -⟩ | ⟨rfl, -⟩ | ⟨rfl, -⟩ | ⟨rfl, -⟩ | ⟨rfl, -⟩ <;> simp

theorem noEbadmsg_dialogue {env : Env} {inp : Input} (h : VpnMove.server env inp ∈ dialogue) :
    env.NoEbadmsg := by
  rcases env_dialogue h with rfl | rfl <;> simp [Env.NoEbadmsg, userEnv]

/-- The network of `dialogue` when the AUTH has been sent. -/
def askedVpn : Vpn :=
  (play (Vpn.step fun k => k == client 1) (dialogue.take 8)
    (Vpn.boot 2 [] .little Server.zeroPkt Server.zeroPkt)).getD
      (Vpn.boot 2 [] .little Server.zeroPkt Server.zeroPkt)

/-- The network of `dialogue` when the server has received the AUTH. -/
def loggedInVpn : Vpn :=
  { askedVpn with srv := askedVpn.srv.step userEnv (.udp (client 1) (authRequest userCfg)) }

theorem play_askedVpn :
    play (Vpn.step fun k => k == client 1) (dialogue.take 8)
      (Vpn.boot 2 [] .little Server.zeroPkt Server.zeroPkt) = some askedVpn := by
  have hsome : (play (Vpn.step fun k => k == client 1) (dialogue.take 8)
      (Vpn.boot 2 [] .little Server.zeroPkt Server.zeroPkt)).isSome = true := by
    decide
  obtain ⟨v, hv⟩ := Option.isSome_iff_exists.mp hsome
  rw [askedVpn, hv, Option.getD_some]

/-- An AUTH datagram goes out. -/
def EplEvent.isAuth : EplEvent → Bool
  | .send data _ => data.head? == some TCLI_PKT_AUTH
  | .tunWrite _ _ => false

/-- INTERNAL: the datagram in the log is the request: what else a machine could have sent, the
invariant says. -/
theorem hasSent_askedVpn : (askedVpn.peer (client 1)).hasSent (authRequest userCfg) = true := by
  have hinv := vpnInv_run play_askedVpn fun _ _ h => noEbadmsg_dialogue (List.mem_of_mem_take h)
  have hauth : (askedVpn.peer (client 1)).log.any EplEvent.isAuth = true := by
    decide +kernel
  obtain ⟨e, he, hkind⟩ := List.any_eq_true.mp hauth
  cases e with
  | send data ret =>
    obtain ⟨cfg, ⟨o, b, hlaunch⟩, hdata⟩ :=
      ((hinv.peers (client 1) (by decide)).log.1 data ret he).2.2 (eq_of_beq hkind)
    have hcfg : cfg = userCfg := by
      have hin := List.mem_of_mem_take hlaunch
      simp only [dialogue, List.mem_cons, VpnMove.launch.injEq, reduceCtorEq, List.not_mem_nil,
        or_false] at hin
      exact hin.2.2.1
    subst hcfg
    exact Peer.hasSent_iff.mpr ⟨ret, hdata ▸ he⟩
  | tunWrite data ret => cases hkind

theorem play_loggedInVpn :
    play (Vpn.step fun k => k == client 1) (dialogue.take 9)
      (Vpn.boot 2 [] .little Server.zeroPkt Server.zeroPkt) = some loggedInVpn := by
  have hnet : askedVpn.toServer (fun k => k == client 1)
      (.udp (client 1) (authRequest userCfg)) = true := by
    rw [Vpn.toServer, hasSent_askedVpn, Bool.or_true]
  have hstep : Vpn.step (fun k => k == client 1)
      (.server userEnv (.udp (client 1) (authRequest userCfg))) askedVpn = some loggedInVpn := by
    have hnone : Input.tunPackets (.udp (client 1) (authRequest userCfg)) = [] := rfl
    rw [Vpn.step, if_pos hnet, hnone, List.append_nil, loggedInVpn]
  have hsplit : dialogue.take 9 =
      dialogue.take 8 ++ [.server userEnv (.udp (client 1) (authRequest userCfg))] := by
    simp only [dialogue, List.take_succ_cons, List.take_zero, List.cons_append, List.nil_append]
  rw [hsplit]
  exact play_append play_askedVpn (play_cons.mpr ⟨_, hstep, rfl⟩)

theorem played_dialogue :
    ∃ v, play (Vpn.step fun k => k == client 1) dialogue
        (Vpn.boot 2 [] .little Server.zeroPkt Server.zeroPkt) = some v ∧
      .tunWrite (client 1) true (ipv4PacketTo 10 5 0 1) 20 ∈ v.srv.log ∧
      .tunWrite (ipv4PacketTo 10 5 0 2) 20 ∈ (v.peer (client 1)).log ∧
      (v.peer (client 1)).ups.length = 1 := by
  have hrun : (play (Vpn.step fun k => k == client 1) (dialogue.drop 9) loggedInVpn).any (fun v =>
        decide (Event.tunWrite (client 1) true (ipv4PacketTo 10 5 0 1) 20 ∈ v.srv.log ∧
          EplEvent.tunWrite (ipv4PacketTo 10 5 0 2) 20 ∈ (v.peer (client 1)).log ∧
          (v.peer (client 1)).ups.length = 1)) = true := by
    decide +kernel
  obtain ⟨v, hplay, hend⟩ := (Option.any_eq_true _ _).mp hrun
  have hall := play_append play_loggedInVpn hplay
  rw [List.take_append_drop] at hall
  exact ⟨v, hall, of_decide_eq_true hend⟩

end TeaVpn2.Analysis
