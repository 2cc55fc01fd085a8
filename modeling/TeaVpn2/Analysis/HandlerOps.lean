import TeaVpn2.Analysis.SessionProtocol

/-!
# The operations the handlers use

The protocol of the sessions says when an operation may be issued. Here is which
operations a handler issues at all, whatever it is answered: `CloseOp` those that close a
session, `DatagramOp` those of the datagram handlers, `ScanOp` those of the reaper, the
shutdown and the TUN device. A write to the TUN device is issued for TUN data only
(`__handleEventFromUdp_uses`).
-/

set_option autoImplicit false

namespace TeaVpn2.Analysis

open TeaVpn2 TeaVpn2.Lib

/-! ## The operations of the datagram handlers -/

/-- Not a step of a scan, no packet to or from the TUN device, and neither the lookup nor
the creation of a session nor the loop counter. -/
def DatagramOp : Op → Prop
  | .loadIsConnected _ | .getRoute _ | .lookupUdpSess _ _ | .createUdpSess _ _
  | .incLoopC _ | .writeTun _ _ => False
  | .send _ data => kindOf data ≠ some .tunData
  | _ => True

theorem send_uses {t : UInt8} (ht : kindOfType t ≠ some .tunData) (i : Nat) (b : Buf) (n : UInt16)
    (p : UInt8) : Prog.Uses DatagramOp (Srv.sendToClient i (sent (pprep b t n p))) := by
  apply Prog.Uses.call
  show kindOf _ ≠ _
  rw [kindOf_sent_pprep]
  exact ht

/-- The operations that close a session. -/
def CloseOp : Op → Prop
  | .loadIpv4Iff _ | .delRoute _ | .deleteUdpSession _ => True
  | .send _ data => kindOf data = some .close
  | _ => False

theorem closeSess_closeOp (pkt : ScPkt) (i : Nat) : Prog.Uses CloseOp (Srv.closeSess pkt i) := by
  have hclose : CloseOp (.send i (sent (srvPprep pkt.raw TSRV_PKT_CLOSE 0 0))) :=
    kindOf_sent_pprep _ _ _ _
  unfold Srv.closeSess
  refine (Prog.Uses.call trivial).bind fun addr => ?_
  have hrest : Prog.Uses CloseOp (do
      let _ ← Srv.sendToClient i (sent (srvPprep pkt.raw TSRV_PKT_CLOSE 0 0))
      let ret ← Srv.deleteUdpSession i
      pure (ret, { pkt with raw := (srvPprep pkt.raw TSRV_PKT_CLOSE 0 0).1 }) :
        Srv (Int × ScPkt)) :=
    (Prog.Uses.call hclose).bind fun _ => (Prog.Uses.call trivial).bind fun _ => Prog.Uses.pure _
  split
  · exact (Prog.Uses.call trivial).bind fun _ => hrest
  · exact hrest

theorem closeSess_uses (pkt : ScPkt) (i : Nat) : Prog.Uses DatagramOp (Srv.closeSess pkt i) := by
  refine (closeSess_closeOp pkt i).mono fun o ho => ?_
  cases o with
  | send j data =>
    show kindOf data ≠ _
    rw [show kindOf data = _ from ho]
    decide
  | loadIpv4Iff j => trivial
  | delRoute addr => trivial
  | deleteUdpSession j => trivial
  | _ => exact ho.elim

theorem handleClientHandshake_uses (o : ByteOrder) (pkt : ScPkt) (i : Nat) :
    Prog.Uses DatagramOp (Srv.handleClientHandshake o pkt i) := by
  have hreject : ∀ pkt reason msg,
      Prog.Uses DatagramOp (Srv.rejectHandshake pkt i reason msg) :=
    fun pkt reason msg => ((send_uses (by decide) _ _ _ _).bind fun _ => Prog.Uses.pure _).bind
      fun _ => Prog.Uses.pure _
  unfold Srv.handleClientHandshake
  split
  · exact (Prog.Uses.call trivial).bind fun _ => hreject _ _ _
  dsimp only
  split
  · exact (Prog.Uses.call trivial).bind fun _ => hreject _ _ _
  split
  · exact (Prog.Uses.call trivial).bind fun _ => hreject _ _ _
  split
  · exact (send_uses (by decide) _ _ _ _).bind fun _ => Prog.Uses.pure _
  · exact (Prog.Uses.call trivial).bind fun _ => hreject _ _ _

theorem _handleNewClient_uses (o : ByteOrder) (pkt : ScPkt) (i : Nat) :
    Prog.Uses DatagramOp (Srv._handleNewClient o pkt i) := by
  unfold Srv._handleNewClient
  apply (handleClientHandshake_uses o pkt i).bind
  rintro ⟨ret, pkt'⟩
  dsimp only
  split
  · exact (closeSess_uses pkt' i).bind fun _ => Prog.Uses.pure _
  · exact Prog.Uses.pure _

theorem handleClpktAuth_uses (o : ByteOrder) (pkt : ScPkt) (i : Nat) :
    Prog.Uses DatagramOp (Srv.handleClpktAuth o pkt i) := by
  unfold Srv.handleClpktAuth
  refine (Prog.Uses.call trivial).bind fun auth => ?_
  split
  · exact Prog.Uses.pure _
  refine (Prog.Uses.call trivial).bind fun (r : Option IfInfo) => ?_
  cases r with
  | none =>
    exact (send_uses (by decide) _ _ _ _).bind fun _ => (closeSess_uses _ i).bind fun _ =>
      Prog.Uses.pure _
  | some iff =>
    refine (send_uses (by decide) _ _ _ _).bind fun ret => ?_
    split
    · exact (closeSess_uses _ i).bind fun _ => Prog.Uses.pure _
    · exact (Prog.Uses.call trivial).bind fun _ => (Prog.Uses.call trivial).bind fun _ =>
        (Prog.Uses.call trivial).bind fun _ => (Prog.Uses.call trivial).bind fun _ =>
        (Prog.Uses.call trivial).bind fun _ => Prog.Uses.pure _

/-- INTERNAL: the dispatcher writes to the TUN device for TUN data only.
SOURCE: udp_epoll.c:715-741 -/
theorem __handleEventFromUdp_uses (o : ByteOrder) (pkt : ScPkt) (i : Nat) :
    Prog.Uses (fun op => DatagramOp op ∨ (∃ j data, op = .writeTun j data) ∧
        pktType pkt.raw = TCLI_PKT_TUN_DATA ∧ pktLen pkt.raw ≠ 0)
      (Srv.__handleEventFromUdp o pkt i) := by
  have hsub : ∀ op, DatagramOp op → DatagramOp op ∨ (∃ j data, op = .writeTun j data) ∧
      pktType pkt.raw = TCLI_PKT_TUN_DATA ∧ pktLen pkt.raw ≠ 0 := fun _ => .inl
  unfold Srv.__handleEventFromUdp
  dsimp only
  split
  · exact Prog.Uses.pure _
  split
  · exact (handleClpktAuth_uses o pkt i).mono hsub
  split
  · next htype =>
    refine Prog.Uses.bind ?_ fun _ => Prog.Uses.pure _
    unfold Srv.handleClpktTunData
    dsimp only
    split
    · exact Prog.Uses.pure _
    · next hlen => exact Prog.Uses.call (.inr ⟨⟨_, _, rfl⟩, htype, hlen⟩)
  split
  · exact (((send_uses (by decide) _ _ _ _).mono hsub).bind fun _ => Prog.Uses.pure _).bind
      fun _ => (Prog.Uses.call (.inl trivial)).bind fun _ => Prog.Uses.pure _
  split
  · exact (Prog.Uses.call (.inl trivial)).bind fun _ => Prog.Uses.pure _
  split
  · exact ((closeSess_uses pkt i).mono hsub).bind fun _ => Prog.Uses.pure _
  · exact Prog.Uses.pure _

theorem finishEvent_uses (ret : Int) (pkt : ScPkt) (i : Nat) :
    Prog.Uses (fun op => DatagramOp op ∨ op = .incLoopC i) (Srv.finishEvent ret pkt i) := by
  have hsub : ∀ op, DatagramOp op → DatagramOp op ∨ op = .incLoopC i := fun _ => .inl
  unfold Srv.finishEvent
  split
  · split
    · exact ((closeSess_uses pkt i).mono hsub).bind fun _ => Prog.Uses.pure _
    · exact Prog.Uses.pure _
  · unfold Srv.bumpLoopC
    refine (Prog.Uses.call (.inr rfl)).bind fun loopC => ?_
    split
    · exact (Prog.Uses.call (.inl trivial)).bind fun _ =>
        ((send_uses (by decide) _ _ _ _).mono hsub).bind fun _ => Prog.Uses.pure _
    · exact Prog.Uses.pure _

/-- The operations on a datagram of a new client: those of a datagram handler and the creation. -/
def CreateOp (op : Op) : Prop := DatagramOp op ∨ ∃ addr port, op = .createUdpSess addr port

theorem handleNewClient_uses (o : ByteOrder) (pkt : ScPkt) (saddr : Endpoint) :
    Prog.Uses CreateOp (Srv.handleNewClient o pkt saddr) := by
  unfold Srv.handleNewClient
  split
  · exact Prog.Uses.pure _
  · refine (Prog.Uses.call (.inr ⟨_, _, rfl⟩)).bind fun (r : Except Int Nat) => ?_
    cases r with
    | error err => exact Prog.Uses.pure _
    | ok i =>
      exact (Prog.Uses.call (.inl trivial)).bind fun _ =>
        (_handleNewClient_uses o pkt i).mono fun _ => .inl

/-- The operations of a datagram handler, from the lookup to the loop counter. -/
def ReceiverOp (op : Op) : Prop :=
  CreateOp op ∨ (∃ addr port, op = .lookupUdpSess addr port) ∨ (∃ i, op = .incLoopC i) ∨
    ∃ i data, op = .writeTun i data

theorem _handleEventFromUdp_uses (o : ByteOrder) (pkt : ScPkt) (saddr : Endpoint) :
    Prog.Uses ReceiverOp (Srv._handleEventFromUdp o pkt saddr) := by
  unfold Srv._handleEventFromUdp
  refine (Prog.Uses.call (.inr (.inl ⟨_, _, rfl⟩))).bind fun (r : Option Nat) => ?_
  cases r with
  | none => exact (handleNewClient_uses o pkt saddr).mono fun _ => .inl
  | some i =>
    refine ((__handleEventFromUdp_uses o pkt i).mono ?_).bind fun r => ?_
    · rintro op (hop | ⟨hop, _⟩)
      · exact .inl (.inl hop)
      · exact .inr (.inr (.inr hop))
    · apply (finishEvent_uses r.1 r.2 i).mono
      rintro op (hop | hop)
      · exact .inl (.inl hop)
      · exact .inr (.inr (.inl ⟨i, hop⟩))

theorem handleEventFromUdp_uses (o : ByteOrder) (pkt : ScPkt) (saddr : Endpoint)
    (data : List UInt8) : Prog.Uses ReceiverOp (Srv.handleEventFromUdp o pkt saddr data) := by
  unfold Srv.handleEventFromUdp
  split
  · exact Prog.Uses.pure _
  · exact _handleEventFromUdp_uses o _ saddr

/-! ## The reaper, the shutdown and the TUN device -/

/-- Loads, sends, and what closes a session. -/
def ScanOp : Op → Prop
  | .loadIsConnected _ | .loadIsAuthenticated _ | .loadLastAct _ | .getUnixTime | .loadNOnSess
  | .getRoute _ | .send _ _ | .loadIpv4Iff _ | .delRoute _ | .deleteUdpSession _ => True
  | _ => False

theorem closeSess_scanOp (pkt : ScPkt) (i : Nat) : Prog.Uses ScanOp (Srv.closeSess pkt i) := by
  refine (closeSess_closeOp pkt i).mono fun o ho => ?_
  cases o with
  | send j data => trivial
  | loadIpv4Iff j => trivial
  | delRoute addr => trivial
  | deleteUdpSession j => trivial
  | _ => exact ho.elim

theorem handleEventFromTun_uses (maxConn : UInt16) (pkt : ScPkt) (data : List UInt8) :
    Prog.Uses ScanOp (Srv.handleEventFromTun maxConn pkt data) := by
  have hbroad : ∀ (l : List Nat) (data : List UInt8), Prog.Uses ScanOp (Srv.broadcastFrom data l) := by
    intro l data
    induction l with
    | nil => exact Prog.Uses.pure _
    | cons i l ih =>
      unfold Srv.broadcastFrom
      refine (Prog.Uses.call trivial).bind fun auth => ?_
      split
      · refine (Prog.Uses.call trivial).bind fun ret => ?_
        split
        · exact Prog.Uses.pure _
        · exact ih
      · exact ih
  have hroute : ∀ dst data, Prog.Uses ScanOp (Srv.routeIpv4Packet dst data) := by
    intro dst data
    unfold Srv.routeIpv4Packet
    refine (Prog.Uses.call trivial).bind fun (r : Option UInt16) => ?_
    cases r with
    | none => exact Prog.Uses.pure _
    | some idx => exact (Prog.Uses.call trivial).bind fun _ => Prog.Uses.pure _
  unfold Srv.handleEventFromTun Srv._routePacket
  refine Prog.Uses.bind ?_ fun _ => Prog.Uses.pure _
  split
  · refine (hroute _ _).bind fun ret => ?_
    split
    · exact Prog.Uses.pure _
    · exact hbroad _ _
  · exact hbroad _ _

/-- INTERNAL: the reaper closes a session in the course of its scan. -/
theorem zrClose_scanOp (pkt : ScPkt) (i : Nat) :
    Prog.Uses ScanOp (do
      let (_, pkt) ← Srv.zrCloseSess pkt i
      pure pkt : Srv ScPkt) :=
  (closeSess_scanOp pkt i).bind fun _ => Prog.Uses.pure _

theorem zombieReaperDoScan_uses (maxConn : UInt16) (pkt : ScPkt) :
    Prog.Uses ScanOp (Srv.zombieReaperDoScan maxConn pkt) := by
  have hreq : ∀ i n pkt, Prog.Uses ScanOp (Srv.zrSendReqsyncs i n pkt) := by
    intro i n
    induction n with
    | zero => exact fun pkt => Prog.Uses.pure _
    | succ n ih =>
      exact fun pkt => ((Prog.Uses.call trivial).bind fun _ => Prog.Uses.pure _).bind
        fun pkt' => ih pkt'
  have hslot : ∀ pkt i, Prog.Uses ScanOp (Srv.zrScanSlot pkt i) := by
    intro pkt i
    unfold Srv.zrScanSlot
    refine (Prog.Uses.call trivial).bind fun conn => ?_
    split
    · refine (Prog.Uses.call trivial).bind fun now => (Prog.Uses.call trivial).bind fun lastAct =>
        (Prog.Uses.call trivial).bind fun auth => ?_
      split
      · unfold Srv.zrChkAuth
        split
        · exact zrClose_scanOp pkt i
        iterate 4 (split; · exact hreq _ _ _)
        exact Prog.Uses.pure _
      · unfold Srv.zrChkNoAuth
        split
        · exact zrClose_scanOp pkt i
        · exact Prog.Uses.pure _
    · exact Prog.Uses.pure _
  have hscan : ∀ l pkt, Prog.Uses ScanOp (Srv.zrScanFrom l pkt) := by
    intro l
    induction l with
    | nil => exact fun pkt => Prog.Uses.pure _
    | cons i l ih => exact fun pkt => (hslot pkt i).bind fun pkt' => ih pkt'
  unfold Srv.zombieReaperDoScan
  refine (Prog.Uses.call trivial).bind fun n => ?_
  split
  · exact Prog.Uses.pure _
  · exact hscan _ _

theorem closeClientSess_uses (maxConn : UInt16) (pkt : ScPkt) :
    Prog.Uses ScanOp (Srv.closeClientSess maxConn pkt) := by
  have hfrom : ∀ l pkt, Prog.Uses ScanOp (Srv.closeClientSessFrom l pkt) := by
    intro l
    induction l with
    | nil => exact fun pkt => Prog.Uses.pure _
    | cons i l ih =>
      intro pkt
      unfold Srv.closeClientSessFrom
      refine (Prog.Uses.call trivial).bind fun conn => ?_
      split
      · exact (closeSess_scanOp pkt i).bind fun r => ih r.2
      · exact ih pkt
  exact hfrom _ _

end TeaVpn2.Analysis
