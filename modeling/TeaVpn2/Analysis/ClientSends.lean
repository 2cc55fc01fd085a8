import TeaVpn2.Analysis.Tunnel
import TeaVpn2.Program.Vpn

/-!
# What stands behind a packet of a client

In its event loop a client sends what it has read from its TUN device, answers a REQSYNC, and sends
REQSYNCs of its own; to its TUN device it writes what a TUN_DATA packet of the server announces, and
nothing else.
-/

set_option autoImplicit false

namespace TeaVpn2.Analysis

open TeaVpn2 TeaVpn2.Lib

/-- The operations on one event, with what they send and write. -/
def EventOp (pkt : ScPkt) (event : Epl.Ready) : EplOp → Prop
  | .write data => ∃ d, event = .udp (.ok d) ∧ d ≠ [] ∧
      pktType (pkt.raw.write 0 (received d)) = TSRV_PKT_TUN_DATA ∧
      data = (pkt.raw.write 0 (received d)).read 4 (pktLen (pkt.raw.write 0 (received d))).toNat
  | .sendto data => data = header TSRV_PKT_SYNC 0 0 ∨
      ∃ p, event = .tun (.ok p) ∧ data = tunDatagram TCLI_PKT_TUN_DATA (p.take 4096)
  | _ => True

theorem handleEventUdp_uses (pkt : ScPkt) {recv : Except Int (List UInt8)}
    (hrecv : ∀ errno, recv = .error errno → 0 < errno) :
    Prog.Uses (EventOp pkt (.udp recv)) (Epl.handleEventUdp pkt recv) := by
  cases recv with
  | error errno =>
    have hpos := hrecv errno rfl
    have hfail : (Epl.recvFromServer pkt (.error errno)).1 ≤ 0 := by
      simp only [Epl.recvFromServer]
      split_ifs <;> omega
    have hstop : Epl.handleEventUdp pkt (.error errno) =
        pure (Epl.recvFromServer pkt (.error errno)) := if_pos hfail
    rw [hstop]
    exact Prog.Uses.pure _
  | ok d =>
    by_cases hd : d = []
    · subst hd
      exact Prog.Uses.pure _
    rw [handleEventUdp_ok pkt hd]
    have hsync : ∀ raw, EventOp pkt (.udp (.ok d)) (.sendto (sent (cliPprep raw TSRV_PKT_SYNC 0 0))) :=
      fun raw => .inl (sent_pprep_zero _ _ _)
    unfold Epl._handleEventUdp
    dsimp only
    split
    · exact Prog.Uses.pure _
    split
    · next htype =>
      exact ((Prog.Uses.call ⟨d, rfl, hd, htype, rfl⟩).bind fun _ => Prog.Uses.pure _).bind
        fun _ => Prog.Uses.pure _
    split
    · exact ((Prog.Uses.call (hsync _)).bind fun _ => Prog.Uses.pure _).bind fun _ =>
        (Prog.Uses.call trivial).bind fun _ => Prog.Uses.pure _
    split
    · exact (Prog.Uses.call trivial).bind fun _ => Prog.Uses.pure _
    split
    · exact (Prog.Uses.call trivial).bind fun _ => Prog.Uses.pure _
    · exact Prog.Uses.pure _

theorem handleEventTun_uses (pkt : ScPkt) (read : Except Int (List UInt8)) :
    Prog.Uses (EventOp pkt (.tun read)) (Epl.handleEventTun pkt read) := by
  cases read with
  | error errno => exact Prog.Uses.pure _
  | ok p =>
    have hcut : (p.take 4096).length ≤ 4096 := List.length_take_le _ _
    have hsent : sent (cliPprep (pkt.raw.write 4 (p.take 4096)) TCLI_PKT_TUN_DATA
        (UInt16.ofNat (p.take 4096).length) 0) = tunDatagram TCLI_PKT_TUN_DATA (p.take 4096) :=
      sent_tunDatagram pkt.raw _ hcut
    exact (Prog.Uses.call (.inr ⟨p, rfl, hsent⟩)).bind fun _ => Prog.Uses.pure _

/-- INTERNAL: the operations on one event.
SOURCE: client/linux/udp_epoll.c:225-368 -/
theorem handleEvent_uses (pkt : ScPkt) {event : Epl.Ready}
    (hrecv : ∀ errno, event.recv = .error errno → 0 < errno) :
    Prog.Uses (EventOp pkt event) (Epl.handleEvent pkt event) := by
  have hcount : ∀ r : Int × ScPkt, Prog.Uses (EventOp pkt event) (do
      let loopC ← Epl.incLoopC
      if loopC % Epl.UDP_LOOP_C_DEADLINE = 0 then
        Epl.updateLastT
      pure r : Epl (Int × ScPkt)) := by
    intro r
    refine (Prog.Uses.call trivial).bind fun (loopC : UInt8) => ?_
    split
    · exact (Prog.Uses.call trivial).bind fun _ => Prog.Uses.pure _
    · exact Prog.Uses.pure _
  cases event with
  | udp recv => exact (handleEventUdp_uses pkt hrecv).bind hcount
  | tun read => exact (handleEventTun_uses pkt read).bind hcount

/-- What is in the log comes from operations that satisfy `P`. -/
def Logged (P : EplOp → Prop) (l : List EplEvent) : Prop :=
  (∀ data ret, EplEvent.send data ret ∈ l → P (.sendto data)) ∧
    ∀ data ret, EplEvent.tunWrite data ret ∈ l → P (.write data)

theorem Logged.append {P : EplOp → Prop} {l m : List EplEvent} (hl : Logged P l) (hm : Logged P m) :
    Logged P (l ++ m) := by
  constructor
  · intro data ret hin
    exact (List.mem_append.mp hin).elim (hl.1 data ret) (hm.1 data ret)
  · intro data ret hin
    exact (List.mem_append.mp hin).elim (hl.2 data ret) (hm.2 data ret)

theorem Logged.mono {P Q : EplOp → Prop} {l : List EplEvent} (h : Logged P l) (hPQ : ∀ o, P o → Q o) :
    Logged Q l :=
  ⟨fun data ret hin => hPQ _ (h.1 data ret hin), fun data ret hin => hPQ _ (h.2 data ret hin)⟩

theorem eplExec_logged {P : EplOp → Prop} {o : EplOp} (h : P o) (w : EplWorld) :
    ∃ l, (eplExec o w).2.log = w.log ++ l ∧ Logged P l := by
  cases o with
  | write data => exact ⟨_, rfl, by simp, by simp [h]⟩
  | sendto data => exact ⟨_, rfl, by simp [h], by simp⟩
  | updateLastT =>
    refine ⟨[], ?_, by simp [Logged]⟩
    simp only [eplExec, EplWorld.updateLastT]
    split <;> simp
  | incLoopC => exact ⟨[], by simp [eplExec], by simp [Logged]⟩
  | storeStop => exact ⟨[], by simp [eplExec], by simp [Logged]⟩

theorem run_logged {α : Type} {P : EplOp → Prop} {p : Epl α} (hu : Prog.Uses P p) (w : EplWorld) :
    ∃ l, (p.run eplExec w).2.log = w.log ++ l ∧ Logged P l := by
  refine hu.run_keeps (fun w' : EplWorld => ∃ l, w'.log = w.log ++ l ∧ Logged P l) ?_
    ⟨[], by simp, by simp [Logged]⟩
  rintro o w' ho ⟨l, hl, hlog⟩
  obtain ⟨m, hm, hlog'⟩ := eplExec_logged ho w'
  exact ⟨l ++ m, by rw [hm, hl, List.append_assoc], hlog.append hlog'⟩

/-- INTERNAL: one event of a worker thread. -/
theorem handleEvent_logged (c : Client) (thread : Nat) (env : EplEnv) {event : Epl.Ready}
    (hrecv : ∀ errno, event.recv = .error errno → 0 < errno) :
    ∃ l, (c.handleEvent thread env event).2.log = c.log ++ l ∧
      Logged (EventOp (c.pkt thread) event) l :=
  run_logged (handleEvent_uses (c.pkt thread) hrecv) (c.world env)

/-- The timer sends REQSYNCs only. -/
def TickOp : EplOp → Prop
  | .sendto data => data = header TCLI_PKT_REQSYNC 0 0
  | _ => False

/-- INTERNAL: one tick of the timer.
SOURCE: client/linux/udp_epoll.c:515-571 -/
theorem tick_logged (c : Client) (env : EplEnv) :
    ∃ l, (c._runTimerThread env).log = c.log ++ l ∧ Logged TickOp l := by
  have hsend : ∀ (n : Nat) (w : EplWorld),
      ∃ l, (Client.sendReqsyncs n w).log = w.log ++ l ∧ Logged TickOp l := by
    intro n
    induction n with
    | zero => exact fun w => ⟨[], by simp [Client.sendReqsyncs], by simp [Logged]⟩
    | succ n ih =>
      intro w
      have htick : TickOp (.sendto (sent (cliPprep (fun _ => 0) TCLI_PKT_REQSYNC 0 0))) :=
        sent_pprep_zero _ _ _
      obtain ⟨l, hl, hlog⟩ := eplExec_logged htick w
      obtain ⟨m, hm, hlog'⟩ := ih (Client.ttSendReqsync w)
      refine ⟨l ++ m, ?_, hlog.append hlog'⟩
      rw [Client.sendReqsyncs, hm, ← List.append_assoc, ← hl]
      rfl
  unfold Client._runTimerThread
  dsimp only
  split
  · exact ⟨[], by simp, by simp [Logged]⟩
  · exact hsend _ _

end TeaVpn2.Analysis
