import TeaVpn2.Analysis.Handshake
import TeaVpn2.Analysis.Leftover
import TeaVpn2.Program.ClientLoop

/-!
# Packets through the tunnel

A packet of the TUN device is sent behind a header of four bytes, and the other side
writes as many bytes to its device as the header says. Both sides read up to 4096 bytes
from the device and both offer 4096 bytes to `recvfrom`, so the last bytes of a packet of
more than 4092 bytes do not arrive and the buffer supplies whatever it held
(`tunnel_lossless_iff`). The length in the header is not compared with what was received
(`tun_writes_inside_iff`).
-/

set_option autoImplicit false

namespace TeaVpn2.Analysis

open TeaVpn2 TeaVpn2.Lib

/-! ## Bytes of a buffer -/

/-- INTERNAL: what is read behind the header is part of what was received exactly if it is
not more. -/
theorem read_isPrefix_iff (b : Buf) (r : List UInt8) (n : Nat) :
    (b.write 0 r).read 4 n <+: r.drop 4 ↔ n ≤ r.length - 4 := by
  constructor
  · intro h
    have hlen := h.length_le
    rwa [Buf.length_read, List.length_drop] at hlen
  · intro h
    by_cases hn : n = 0
    · subst hn
      exact List.nil_prefix
    · have hread := @Buf.read_write_within b 0 4 n r (by omega)
      rw [Nat.zero_add] at hread
      rw [hread]
      exact List.take_prefix _ _

/-- A packet of the tunnel: the header and the payload. -/
def tunDatagram (type : UInt8) (p : List UInt8) : List UInt8 :=
  header type (UInt16.ofNat p.length) 0 ++ p

theorem length_tunDatagram (type : UInt8) (p : List UInt8) :
    (tunDatagram type p).length = p.length + 4 := by
  simp [tunDatagram]
  omega

theorem tunDatagram_ne_nil (type : UInt8) (p : List UInt8) : tunDatagram type p ≠ [] := by
  intro h
  have hlen := length_tunDatagram type p
  rw [h, List.length_nil] at hlen
  omega

theorem sent_tunDatagram (b : Buf) (type : UInt8) {p : List UInt8} (hp : p.length ≤ 4096) :
    sent (pprep (b.write 4 p) type (UInt16.ofNat p.length) 0) = tunDatagram type p :=
  sent_pprep_write b _ _ _ _ (UInt16.toNat_ofNat_of_lt' (by simp [UInt16.size]; omega)).symm

/-- INTERNAL: the header of a tunnel packet that landed in a buffer. -/
theorem header_landed (b : Buf) (type : UInt8) {p : List UInt8} (hp : p.length ≤ 4096) :
    pktType (b.write 0 ((tunDatagram type p).take 4096)) = type ∧
      (pktLen (b.write 0 ((tunDatagram type p).take 4096))).toNat = p.length := by
  have hbyte : ∀ j c, j < 4 → (tunDatagram type p)[j]? = some c →
      (b.write 0 ((tunDatagram type p).take 4096)) j = c := by
    intro j c hj hc
    have hlen := length_tunDatagram type p
    have htake : ((tunDatagram type p).take 4096)[j]? = some c := by
      rw [List.getElem?_take_of_lt (by omega), hc]
    rw [Buf.write_of_mem _ _ (Nat.zero_le j) (by rw [List.length_take]; omega), Nat.sub_zero,
      List.getD_eq_getElem?_getD, htake, Option.getD_some]
  refine ⟨hbyte 0 type (by omega) rfl, ?_⟩
  rw [pktLen, hbyte 2 _ (by omega) rfl, hbyte 3 _ (by omega) rfl, be16_bytes]
  exact UInt16.toNat_ofNat_of_lt' (by simp [UInt16.size]; omega)

/-- INTERNAL: a payload that was received whole is read back. -/
theorem read_landed (b : Buf) (type : UInt8) {p : List UInt8} (hp : p.length ≤ 4092) :
    (b.write 0 ((tunDatagram type p).take 4096)).read 4 p.length = p := by
  have hlen := length_tunDatagram type p
  have hall : (tunDatagram type p).take 4096 = tunDatagram type p :=
    List.take_of_length_le (by omega)
  have hread := @Buf.read_write_within b 0 4 p.length (tunDatagram type p) (by omega)
  have hdrop : (tunDatagram type p).drop 4 = p := List.drop_left' rfl
  rw [Nat.zero_add, hdrop, List.take_length] at hread
  rw [hall, hread]

/-- INTERNAL: the byte behind the last one received is one the buffer held before. -/
theorem read_landed_ne (c : UInt8) (type : UInt8) {p : List UInt8} (hp : 4092 < p.length)
    (hc : p[4092]? ≠ some c) :
    (Buf.write (fun _ => c) 0 ((tunDatagram type p).take 4096)).read 4 p.length ≠ p := by
  intro h
  have hbyte := congrArg (fun l => l[4092]?) h
  have hlen := length_tunDatagram type p
  have hread : ((Buf.write (fun _ => c) 0 ((tunDatagram type p).take 4096)).read 4 p.length)[4092]? =
      some c := by
    rw [Buf.read, List.getElem?_map, List.getElem?_range hp, Option.map_some]
    exact congrArg some (Buf.write_of_ge _ _ (by rw [List.length_take]; omega))
  exact hc (hbyte.symm.trans hread)

/-! ## The client -/

def EplEvent.sentData : EplEvent → Option (List UInt8)
  | .send data _ => some data
  | .tunWrite _ _ => none

def EplEvent.writtenData : EplEvent → Option (List UInt8)
  | .tunWrite data _ => some data
  | .send _ _ => none

/-- What the client sends, and what it writes to its TUN device, while `p` runs. -/
def eplSent {α : Type} (p : Epl α) (w : EplWorld) : List (List UInt8) :=
  ((p.run eplExec w).2.log.drop w.log.length).filterMap EplEvent.sentData

def eplWritten {α : Type} (p : Epl α) (w : EplWorld) : List (List UInt8) :=
  ((p.run eplExec w).2.log.drop w.log.length).filterMap EplEvent.writtenData

theorem eplExec_log (o : EplOp) (w : EplWorld) :
    ∃ l, (eplExec o w).2.log = w.log ++ l ∧
      l.filterMap EplEvent.writtenData = match o with
        | .write data => [data]
        | _ => [] := by
  cases o with
  | write data => exact ⟨_, rfl, rfl⟩
  | sendto data => exact ⟨_, rfl, rfl⟩
  | updateLastT =>
    refine ⟨[], ?_, rfl⟩
    simp only [eplExec, EplWorld.updateLastT]
    split <;> simp
  | incLoopC => exact ⟨[], by simp [eplExec], rfl⟩
  | storeStop => exact ⟨[], by simp [eplExec], rfl⟩

theorem eplRun_log {α : Type} (p : Epl α) (w : EplWorld) : w.log <+: (p.run eplExec w).2.log := by
  induction p generalizing w with
  | pure a => exact List.prefix_refl _
  | op o k ih =>
    obtain ⟨l, hl, _⟩ := eplExec_log o w
    refine List.IsPrefix.trans ?_ (ih (eplExec o w).1 (eplExec o w).2)
    rw [hl]
    exact List.prefix_append _ _

theorem eplWritten_bind {α β : Type} (p : Epl α) (f : α → Epl β) (w : EplWorld) :
    eplWritten (p >>= f) w =
      eplWritten p w ++ eplWritten (f (p.run eplExec w).1) (p.run eplExec w).2 := by
  obtain ⟨l, hl⟩ := eplRun_log p w
  obtain ⟨m, hm⟩ := eplRun_log (f (p.run eplExec w).1) (p.run eplExec w).2
  simp only [eplWritten, Prog.run_bind]
  rw [← hm, ← hl, List.append_assoc, List.drop_left, ← List.append_assoc, List.drop_left,
    List.drop_left, List.filterMap_append]

theorem eplWritten_pure {α : Type} (a : α) (w : EplWorld) : eplWritten (pure a : Epl α) w = [] := by
  simp [eplWritten]

theorem eplWritten_act (o : EplOp) (w : EplWorld) :
    eplWritten (Epl.act o) w = match o with
      | .write data => [data]
      | _ => [] := by
  obtain ⟨l, hl, hw⟩ := eplExec_log o w
  rw [eplWritten, Prog.run_call, hl, List.drop_left, hw]

/-- INTERNAL: a packet of the device leaves in one datagram.
SOURCE: client/linux/udp_epoll.c:324-349 -/
theorem eplSent_handleEventTun (pkt : ScPkt) {p : List UInt8} (hp : p.length ≤ 4096) (w : EplWorld) :
    eplSent (Epl.handleEventTun pkt (.ok p)) w = [tunDatagram TCLI_PKT_TUN_DATA p] := by
  have hsent := sent_tunDatagram pkt.raw TCLI_PKT_TUN_DATA hp
  have hcut : p.take 4096 = p := List.take_of_length_le hp
  simp only [Epl.handleEventTun, cliPprep, hcut, hsent]
  rw [eplSent, Prog.run_bind]
  show ((w.log ++ [_]).drop w.log.length).filterMap EplEvent.sentData = _
  rw [List.drop_left]
  rfl

/-- INTERNAL: a datagram lands in the buffer, cut to the 4096 bytes asked for. -/
theorem handleEventUdp_ok (pkt : ScPkt) {d : List UInt8} (hd : d ≠ []) :
    Epl.handleEventUdp pkt (.ok d) =
      Epl._handleEventUdp ⟨(received d).length, pkt.raw.write 0 (received d)⟩ := by
  have hpos : 0 < (received d).length := by
    have := List.length_pos_iff.mpr hd
    rw [received, List.length_take]
    omega
  have hcut : d.take 4096 = received d := rfl
  simp only [Epl.handleEventUdp, Epl.recvFromServer, hcut, Nat.ne_of_gt hpos, if_false]
  rw [if_neg (by omega)]

/-- INTERNAL: what the client writes for a datagram: the bytes its header announces, if it
is TUN data, and otherwise nothing.
SOURCE: client/linux/udp_epoll.c:225-321 -/
theorem eplWritten_handleEventUdp (pkt : ScPkt) {d : List UInt8} (hd : d ≠ []) (w : EplWorld) :
    eplWritten (Epl.handleEventUdp pkt (.ok d)) w =
      if pktType (pkt.raw.write 0 (received d)) = TSRV_PKT_TUN_DATA then
        [(pkt.raw.write 0 (received d)).read 4 (pktLen (pkt.raw.write 0 (received d))).toNat]
      else [] := by
  rw [handleEventUdp_ok pkt hd]
  generalize pkt.raw.write 0 (received d) = raw
  unfold Epl._handleEventUdp
  dsimp only
  by_cases htype : pktType raw = TSRV_PKT_TUN_DATA
  · rw [if_neg (by rw [htype]; decide), if_pos htype, if_pos htype, eplWritten_bind,
      eplWritten_pure, Epl.handleTunData, eplWritten_bind, eplWritten_pure]
    exact congrArg (· ++ [] ++ []) (eplWritten_act (.write _) w)
  rw [if_neg htype, if_neg htype]
  have hsend : ∀ data w, eplWritten (Epl.doSendTo data) w = [] :=
    fun data w => eplWritten_act (.sendto data) w
  have hlast : ∀ w, eplWritten Epl.updateLastT w = [] := fun w => eplWritten_act .updateLastT w
  have hstop : ∀ w, eplWritten Epl.storeStop w = [] := fun w => eplWritten_act .storeStop w
  split
  · exact eplWritten_pure _ w
  split
  · rw [eplWritten_bind, Epl.handleReqSync, eplWritten_bind, hsend, eplWritten_pure,
      eplWritten_bind, hlast, eplWritten_pure]
    rfl
  split
  · rw [eplWritten_bind, hlast, eplWritten_pure]
    rfl
  split
  · rw [eplWritten_bind, hstop, eplWritten_pure]
    rfl
  · exact eplWritten_pure _ w

/-! ## The server -/

/-- All packets the program sends are `d`. -/
def SendsOnly {α : Type} (d : List UInt8) (p : Srv α) : Prop := ∀ w, ∀ x ∈ sentBy p w, x = d

theorem SendsOnly.pure {α : Type} {d : List UInt8} (a : α) :
    SendsOnly d (Pure.pure a : Srv α) := by
  intro w x hx
  rw [sentBy_pure] at hx
  cases hx

theorem SendsOnly.bind {α β : Type} {d : List UInt8} {p : Srv α} {f : α → Srv β}
    (hp : SendsOnly d p) (hf : ∀ a, SendsOnly d (f a)) : SendsOnly d (p >>= f) := by
  intro w x hx
  rw [sentBy_bind, List.mem_append] at hx
  exact hx.elim (hp w x) (hf _ _ x)

theorem SendsOnly.send (i : Nat) (d : List UInt8) : SendsOnly d (Srv.sendToClient i d) := by
  intro w x hx
  rw [sentBy_sendToClient] at hx
  exact List.mem_singleton.mp hx

/-- INTERNAL: an operation that records nothing sends nothing. -/
theorem SendsOnly.silent {d : List UInt8} {o : Op} (h : ∀ w, (exec o w).2.log = w.log) :
    SendsOnly d (Srv.act o) := by
  intro w x hx
  have hnil : sentBy (Srv.act o) w = [] := by
    rw [sentBy, Prog.run_call, h, List.drop_length, List.filterMap_nil]
  rw [hnil] at hx
  cases hx

/-- INTERNAL: a packet of the device goes out as it is, to whomever it is routed.
SOURCE: udp_epoll.c:805-905 -/
theorem handleEventFromTun_sendsOnly (maxConn : UInt16) (pkt : ScPkt) {p : List UInt8}
    (hp : p.length ≤ 4096) :
    SendsOnly (tunDatagram TSRV_PKT_TUN_DATA p) (Srv.handleEventFromTun maxConn pkt p) := by
  have hcut : p.take 4096 = p := List.take_of_length_le hp
  have hsent : sent (srvPprep (pkt.raw.write 4 p) TSRV_PKT_TUN_DATA (UInt16.ofNat p.length) 0) =
      tunDatagram TSRV_PKT_TUN_DATA p := sent_tunDatagram pkt.raw _ hp
  generalize tunDatagram TSRV_PKT_TUN_DATA p = d at hsent
  have hbroad : ∀ l, SendsOnly d (Srv.broadcastFrom d l) := by
    intro l
    induction l with
    | nil => exact .pure _
    | cons i l ih =>
      unfold Srv.broadcastFrom
      refine (SendsOnly.silent fun _ => rfl).bind fun auth => ?_
      split
      · refine (SendsOnly.send i d).bind fun ret => ?_
        split
        · exact .pure _
        · exact ih
      · exact ih
  have hroute : ∀ dst, SendsOnly d (Srv.routeIpv4Packet dst d) := by
    intro dst
    unfold Srv.routeIpv4Packet
    refine (SendsOnly.silent fun _ => rfl).bind fun (r : Option UInt16) => ?_
    cases r with
    | none => exact .pure _
    | some idx => exact (SendsOnly.send _ d).bind fun _ => .pure _
  unfold Srv.handleEventFromTun Srv._routePacket
  dsimp only
  rw [hcut, hsent]
  refine SendsOnly.bind ?_ fun _ => .pure _
  split
  · refine (hroute _).bind fun ret => ?_
    split
    · exact .pure _
    · exact hbroad _
  · exact hbroad _

/-- INTERNAL: the datagram that carries a packet makes the server write what arrived behind
the header, for the session of the sender. -/
theorem tunWrites_tunDatagram (s : Server) (env : Env) {k : Endpoint} {i : Nat}
    (hl : lookupUdpSess s.st k.addr k.port = some i) {p : List UInt8} (hpos : 1 ≤ p.length)
    (hp : p.length ≤ 4096) :
    ∃ tried, tried ≠ [] ∧
      (s.step env (.udp k (tunDatagram TCLI_PKT_TUN_DATA p))).log.filter isTunWrite =
        s.log.filter isTunWrite ++ tried.map fun r =>
          Event.tunWrite (s.st.sessArr i).key (s.st.sessArr i).isAuthenticated
            ((s.pkt.raw.write 0 ((tunDatagram TCLI_PKT_TUN_DATA p).take 4096)).read 4 p.length) r := by
  obtain ⟨htype, hlen⟩ := header_landed s.pkt.raw TCLI_PKT_TUN_DATA hp
  have hwrites : WritesFor s (.udp k (tunDatagram TCLI_PKT_TUN_DATA p)) i := by
    refine ⟨tunDatagram_ne_nil _ p, htype, ?_, hl⟩
    intro hzero
    have hval : (pktLen (s.pkt.raw.write 0 ((tunDatagram TCLI_PKT_TUN_DATA p).take 4096))).toNat = 0 :=
      congrArg UInt16.toNat hzero
    omega
  rcases tunWrites_step s env (.udp k (tunDatagram TCLI_PKT_TUN_DATA p)) with
    ⟨hno, _⟩ | ⟨slot, tried, hw, htried, heq⟩
  · exact absurd hwrites (hno i)
  · have hslot : slot = i := Option.some.inj (hw.2.2.2.symm.trans hl)
    subst hslot
    refine ⟨tried, htried, ?_⟩
    rw [heq, ← hlen]
    rfl

/-! ## Lossless packets -/

/-- The tunnel carries the packet `p` unchanged, whatever the buffers at both ends held:
what a client reads from its device is what the server writes to its own for the session of
that client, and what the server reads and sends to a client is what that client writes. -/
structure TunnelLossless (p : List UInt8) : Prop where
  up : ∀ (cpkt : ScPkt) (cw : EplWorld) (s : Server) (env : Env) (k : Endpoint) (i : Nat),
    lookupUdpSess s.st k.addr k.port = some i →
    ∃ d, eplSent (Epl.handleEventTun cpkt (.ok p)) cw = [d] ∧ ∃ tried, tried ≠ [] ∧
      (s.step env (.udp k d)).log.filter isTunWrite = s.log.filter isTunWrite ++ tried.map fun r =>
        Event.tunWrite (s.st.sessArr i).key (s.st.sessArr i).isAuthenticated p r
  down : ∀ (s : Server) (env : Env) (cpkt : ScPkt) (cw : EplWorld),
    ∀ d ∈ sentBy (Srv.handleEventFromTun s.st.maxConn s.pkt p) (s.world env),
      eplWritten (Epl.handleEventUdp cpkt (.ok d)) cw = [p]

/-- A server after the handshake of its first client. -/
def oneSession : Server :=
  (Server.boot 1 [] .little Server.zeroPkt Server.zeroPkt).step {}
    (.udp ⟨0x0a000001, 1000⟩ handshakeDatagram)

theorem lookup_oneSession : lookupUdpSess oneSession.st 0x0a000001 1000 = some 0 := by
  decide

/-- INTERNAL: of a packet that does not fit behind the header, the last bytes written are
those the buffer of the receiver held before. -/
theorem not_tunnelLossless {p : List UInt8} (hlong : 4092 < p.length) (hp : p.length ≤ 4096) :
    ¬TunnelLossless p := by
  intro h
  -- a buffer full of a byte that differs from the first one that is cut off
  obtain ⟨c, hc⟩ : ∃ c : UInt8, p[4092]? ≠ some c := by
    by_cases h0 : p[4092]? = some 0
    · exact ⟨1, by rw [h0]; decide⟩
    · exact ⟨0, h0⟩
  have hl : lookupUdpSess { oneSession with pkt := ⟨0, fun _ => c⟩ }.st
      (Endpoint.mk 0x0a000001 1000).addr (Endpoint.mk 0x0a000001 1000).port = some 0 :=
    lookup_oneSession
  obtain ⟨d, hd, tried, htried, heq⟩ := h.up Server.zeroPkt {} _ {} _ _ hl
  rw [eplSent_handleEventTun _ hp, List.cons_eq_cons] at hd
  obtain ⟨tried', htried', heq'⟩ := tunWrites_tunDatagram _ {} hl (by omega) hp
  rw [← hd.1, heq', List.append_cancel_left_eq] at heq
  obtain ⟨r, rs, rfl⟩ := List.exists_cons_of_ne_nil htried
  obtain ⟨r', rs', rfl⟩ := List.exists_cons_of_ne_nil htried'
  rw [List.map_cons, List.map_cons, List.cons_eq_cons] at heq
  injection heq.1 with _ _ hdata _
  exact read_landed_ne c TCLI_PKT_TUN_DATA hlong hc hdata

/-- INTERNAL: **exactly which packets the tunnel carries.** Among the packets that both ends
read from their devices, those of at most 4092 bytes: `recvfrom` is offered 4096 bytes, and
the header takes four of them.
SOURCE: client/linux/udp_epoll.c:225-349; udp_epoll.c:367-385, 633-658, 872-905 -/
theorem tunnel_lossless_iff {p : List UInt8} (hpos : 1 ≤ p.length) (hp : p.length ≤ 4096) :
    TunnelLossless p ↔ p.length ≤ 4092 := by
  constructor
  · intro h
    by_contra hlong
    exact not_tunnelLossless (by omega) hp h
  · intro hshort
    constructor
    · intro cpkt cw s env k i hl
      obtain ⟨tried, htried, heq⟩ := tunWrites_tunDatagram s env hl hpos hp
      rw [read_landed _ _ hshort] at heq
      exact ⟨_, eplSent_handleEventTun cpkt hp cw, tried, htried, heq⟩
    · intro s env cpkt cw d hd
      have hdata := handleEventFromTun_sendsOnly s.st.maxConn s.pkt hp _ d hd
      subst hdata
      obtain ⟨htype, hlen⟩ := header_landed cpkt.raw TSRV_PKT_TUN_DATA hp
      rw [eplWritten_handleEventUdp cpkt (tunDatagram_ne_nil _ p), received, if_pos htype, hlen,
        read_landed _ _ hshort]

theorem tunnel_lossless_ping :
    1 ≤ ([0x45, 0, 0, 4] : List UInt8).length ∧ TunnelLossless [0x45, 0, 0, 4] :=
  ⟨by decide, (tunnel_lossless_iff (by decide) (by decide)).mpr (by decide)⟩

/-- A packet that fills the buffer of the device. -/
theorem tunnel_truncates :
    ¬∀ p : List UInt8, 1 ≤ p.length → p.length ≤ 4096 → TunnelLossless p := by
  intro h
  have hlen : (List.replicate 4096 (0x45 : UInt8)).length = 4096 := List.length_replicate
  exact not_tunnelLossless (by omega) (by omega)
    (h (List.replicate 4096 0x45) (by omega) (by omega))

/-! ## The length in the header -/

/-- The server, given the datagram `d`, writes no byte but those received behind the
header. -/
def ServerWritesInside (s : Server) (env : Env) (k : Endpoint) (d : List UInt8) : Prop :=
  ∀ e ∈ (s.step env (.udp k d)).log.drop s.log.length, ∀ src auth data ret,
    e = Event.tunWrite src auth data ret → data <+: (received d).drop 4

/-- The client likewise. -/
def ClientWritesInside (cpkt : ScPkt) (cw : EplWorld) (d : List UInt8) : Prop :=
  ∀ data ∈ eplWritten (Epl.handleEventUdp cpkt (.ok d)) cw, data <+: (received d).drop 4

/-- The server takes `d` for TUN data of a session, and its header announces more bytes than
were received. -/
def ServerOverlong (s : Server) (k : Endpoint) (d : List UInt8) : Prop :=
  ∃ slot, WritesFor s (.udp k d) slot ∧
    (received d).length - 4 < (pktLen (Srv.doRecvFrom s.pkt d).raw).toNat

/-- The client takes `d` for TUN data, and its header announces more bytes than were
received. -/
def ClientOverlong (cpkt : ScPkt) (d : List UInt8) : Prop :=
  d ≠ [] ∧ pktType (cpkt.raw.write 0 (received d)) = TSRV_PKT_TUN_DATA ∧
    (received d).length - 4 < (pktLen (cpkt.raw.write 0 (received d))).toNat

theorem serverWritesInside_iff (s : Server) (env : Env) (k : Endpoint) (d : List UInt8) :
    ServerWritesInside s env k d ↔ ¬ServerOverlong s k d := by
  -- the writes of the step, as the suffix of the log
  have hnew : ∀ e, isTunWrite e = true → (e ∈ (s.step env (.udp k d)).log.drop s.log.length ↔
      e ∈ ((s.step env (.udp k d)).log.filter isTunWrite).drop
        (s.log.filter isTunWrite).length) := by
    intro e he
    obtain ⟨l, hl⟩ := step_log s env (.udp k d)
    rw [← hl, List.drop_left, List.filter_append, List.drop_left, List.mem_filter]
    exact ⟨fun h => ⟨h, he⟩, fun h => h.1⟩
  have hpayload : tunPayload s (.udp k d) <+: (received d).drop 4 ↔
      (pktLen (Srv.doRecvFrom s.pkt d).raw).toNat ≤ (received d).length - 4 :=
    read_isPrefix_iff s.pkt.raw (received d) _
  rcases tunWrites_step s env (.udp k d) with ⟨hno, heq⟩ | ⟨slot, tried, hw, htried, heq⟩
  · constructor
    · rintro _ ⟨slot, hw, _⟩
      exact hno slot hw
    · rintro _ e he src auth data ret rfl
      rw [hnew _ rfl, heq, List.drop_length] at he
      cases he
  · obtain ⟨r, rs, rfl⟩ := List.exists_cons_of_ne_nil htried
    constructor
    · rintro h ⟨_, _, hover⟩
      have hin := h _ ((hnew _ rfl).mpr (by
        rw [heq, List.drop_left]
        exact List.mem_map.mpr ⟨r, List.mem_cons_self, rfl⟩)) _ _ _ _ rfl
      rw [hpayload] at hin
      omega
    · rintro h e he src auth data ret rfl
      rw [hnew _ rfl, heq, List.drop_left, List.mem_map] at he
      obtain ⟨r', _, hr'⟩ := he
      injection hr' with _ _ hdata _
      rw [← hdata, hpayload]
      by_contra hover
      exact h ⟨slot, hw, by omega⟩

theorem clientWritesInside_iff (cpkt : ScPkt) (cw : EplWorld) (d : List UInt8) :
    ClientWritesInside cpkt cw d ↔ ¬ClientOverlong cpkt d := by
  have hpayload := read_isPrefix_iff cpkt.raw (received d)
    (pktLen (cpkt.raw.write 0 (received d))).toNat
  by_cases hd : d = []
  · subst hd
    have hnone : eplWritten (Epl.handleEventUdp cpkt (.ok [])) cw = [] := eplWritten_pure _ cw
    simp only [ClientWritesInside, hnone, ClientOverlong]
    simp
  rw [ClientWritesInside, eplWritten_handleEventUdp cpkt hd]
  by_cases htype : pktType (cpkt.raw.write 0 (received d)) = TSRV_PKT_TUN_DATA
  · rw [if_pos htype]
    constructor
    · rintro h ⟨_, _, hover⟩
      have hin := h _ List.mem_cons_self
      rw [hpayload] at hin
      omega
    · intro h data hdata
      rw [List.mem_singleton.mp hdata, hpayload]
      by_contra hover
      exact h ⟨hd, htype, by omega⟩
  · rw [if_neg htype]
    constructor
    · rintro _ ⟨_, htype', _⟩
      exact htype htype'
    · intro _ data hdata
      cases hdata

/-- INTERNAL: **exactly when the writes to the devices stay inside the payload.** On either
side a datagram leads to a write beyond the bytes received if and only if it is taken for
TUN data and its length field exceeds the number of bytes received behind the header.
SOURCE: udp_epoll.c:367-385, 633-658; client/linux/udp_epoll.c:225-268 -/
theorem tun_writes_inside_iff (s : Server) (env : Env) (k : Endpoint) (cpkt : ScPkt) (cw : EplWorld)
    (toSrv toCli : List UInt8) :
    (ServerWritesInside s env k toSrv ↔ ¬ServerOverlong s k toSrv) ∧
      (ClientWritesInside cpkt cw toCli ↔ ¬ClientOverlong cpkt toCli) :=
  ⟨serverWritesInside_iff s env k toSrv, clientWritesInside_iff cpkt cw toCli⟩

/-- One byte of data behind a header that announces 65535. -/
def overlongDatagram : List UInt8 := [TCLI_PKT_TUN_DATA, 0, 0xff, 0xff, 0x45]

theorem tun_writes_outside :
    ¬((∀ (s : Server) (env : Env) (k : Endpoint) (d : List UInt8), ServerWritesInside s env k d) ∧
      (∀ (cpkt : ScPkt) (cw : EplWorld) (d : List UInt8), ClientWritesInside cpkt cw d)) := by
  rintro ⟨hsrv, _⟩
  refine (serverWritesInside_iff oneSession {} ⟨0x0a000001, 1000⟩
    overlongDatagram).mp (hsrv _ _ _ _) ⟨0, ⟨?_, ?_, ?_, ?_⟩, ?_⟩
  · decide
  · decide
  · decide
  · exact lookup_oneSession
  · decide

end TeaVpn2.Analysis
