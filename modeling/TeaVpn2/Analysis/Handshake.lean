import TeaVpn2.Analysis.TunInjection
import TeaVpn2.Program.Client

/-!
# The two handshake checkers

`handle_client_handshake` on the server and `server_handshake_chk` on the client test a
received datagram with different early exits, and both patch it on the way.
`HandshakeDatagram` is the set of datagrams that each of them accepts, in terms of the
bytes that were received: `handshake_acceptors`.

On the server every other datagram is answered with a HANDSHAKE_REJECT whose text three of
the four branches format; the fourth sends the stack buffer as it is.
`rejection_formatted_iff` says which rejections do not depend on the stack.
-/

set_option autoImplicit false

namespace TeaVpn2.Analysis

open TeaVpn2 TeaVpn2.Lib

/-! ## The packets a piece of server code sends -/

def Event.sentData : Event → Option (List UInt8)
  | .send _ _ _ data _ => some data
  | _ => none

/-- The packets that are sent while `p` runs. -/
def sentBy {α : Type} (p : Srv α) (w : World) : List (List UInt8) :=
  ((p.run exec w).2.log.drop w.log.length).filterMap Event.sentData

theorem sentBy_bind {α β : Type} (p : Srv α) (f : α → Srv β) (w : World) :
    sentBy (p >>= f) w = sentBy p w ++ sentBy (f (p.run exec w).1) (p.run exec w).2 := by
  obtain ⟨l, hl⟩ := run_log p w
  obtain ⟨m, hm⟩ := run_log (f (p.run exec w).1) (p.run exec w).2
  simp only [sentBy, Prog.run_bind]
  rw [← hm, ← hl, List.append_assoc, List.drop_left, ← List.append_assoc, List.drop_left,
    List.drop_left, List.filterMap_append]

/-- What `rej_msg` holds on entry. -/
def stackText (w : World) : List UInt8 := cstr (w.env.rejMsg.read 0 512)

theorem sentBy_loadWiu {α : Type} (i : Nat) (k : List UInt8 → Srv α) (w : World) :
    sentBy (Srv.loadWiu i >>= k) w = sentBy (k (w.sess i).wiu) w := by
  rw [sentBy, Prog.run_bind]
  rfl

set_option maxRecDepth 4096 in
theorem sentBy_loadRejMsg {α : Type} (k : List UInt8 → Srv α) (w : World) :
    sentBy (Srv.loadRejMsg >>= k) w = sentBy (k (stackText w)) w := by
  rw [sentBy, Prog.run_bind]
  rfl

theorem sentBy_pure {α : Type} (a : α) (w : World) : sentBy (pure a : Srv α) w = [] := by
  simp [sentBy]

theorem sentBy_sendToClient (i : Nat) (data : List UInt8) (w : World) :
    sentBy (Srv.sendToClient i data) w = [data] := by
  obtain ⟨ret, stop, em, poll, rs, _, _, heq⟩ := sendToClient_spec w i data
  have hrun : (Srv.sendToClient i data).run exec w = w.sendToClient i data := rfl
  rw [sentBy, hrun, heq, List.drop_left]
  rfl

/-- INTERNAL: code that sends one packet and returns. -/
theorem sentBy_send {α : Type} (i : Nat) (data : List UInt8) (f : Int → α) (w : World) :
    sentBy (Srv.sendToClient i data >>= fun r => pure (f r)) w = [data] := by
  rw [sentBy_bind, sentBy_sendToClient, sentBy_pure, List.append_nil]

/-! ## Accepted datagrams -/

/-- The datagrams that open the protocol: at least 100 bytes, type 0, a length field of 96
and the version of this program. -/
structure HandshakeDatagram (b : List UInt8) : Prop where
  len : 100 ≤ b.length
  type : b[0]? = some 0
  dataLen : ∃ hi lo, b[2]? = some hi ∧ b[3]? = some lo ∧ (be16 hi lo).toNat = 96
  version : b[4]? = some VERSION ∧ b[5]? = some PATCHLEVEL ∧ b[6]? = some SUBLEVEL

/-- INTERNAL: the tests on a buffer are tests on the datagram that landed in it, wherever the
receiver cuts it off after its hundredth byte. -/
theorem handshakeDatagram_iff {b : List UInt8} {raw : Buf} {n cap : Nat}
    (hn : n = min b.length cap) (hcap : 100 ≤ cap) (hraw : ∀ j, j < n → b[j]? = some (raw j)) :
    HandshakeDatagram b ↔ 100 ≤ n ∧ pktType raw = TCLI_PKT_HANDSHAKE ∧
      (pktLen raw).toNat = sizeofHandshake ∧ Srv.versionOk raw = true := by
  constructor
  · rintro ⟨hlen, htype, ⟨hi, lo, hhi, hlo, hval⟩, h4, h5, h6⟩
    have hbyte : ∀ j c, j < 100 → b[j]? = some c → raw j = c := by
      intro j c hj hc
      rw [hraw j (by omega)] at hc
      exact Option.some.inj hc
    refine ⟨by omega, hbyte 0 _ (by omega) htype, ?_, ?_⟩
    · rw [pktLen, hbyte 2 _ (by omega) hhi, hbyte 3 _ (by omega) hlo]
      exact hval
    · simp [Srv.versionOk, hbyte 4 _ (by omega) h4, hbyte 5 _ (by omega) h5,
        hbyte 6 _ (by omega) h6]
  · rintro ⟨hlen, htype, hval, hver⟩
    simp only [Srv.versionOk, Bool.and_eq_true, beq_iff_eq] at hver
    refine ⟨by omega, ?_, ⟨raw 2, raw 3, hraw 2 (by omega), hraw 3 (by omega), hval⟩, ?_, ?_, ?_⟩
    · rw [hraw 0 (by omega)]
      exact congrArg some htype
    · rw [hraw 4 (by omega), hver.1.1]
    · rw [hraw 5 (by omega), hver.1.2]
    · rw [hraw 6 (by omega), hver.2]

theorem goodHandshake_iff (pkt : ScPkt) (b : List UInt8) :
    GoodHandshake (Srv.doRecvFrom pkt b) ↔ HandshakeDatagram b := by
  have hlen : (Srv.doRecvFrom pkt b).len = min b.length 4096 := by
    simp [Srv.doRecvFrom, Nat.min_comm]
  rw [handshakeDatagram_iff hlen (by omega) fun j hj => doRecvFrom_raw hj]
  constructor
  · rintro ⟨h₁, h₂, h₃, h₄⟩
    exact ⟨h₁, h₂, h₃, h₄⟩
  · rintro ⟨h₁, h₂, h₃, h₄⟩
    exact ⟨h₁, h₂, h₃, h₄⟩

/-! ## The server -/

/-- The HANDSHAKE packet of both sides. -/
def handshakePacket : List UInt8 := header TSRV_PKT_HANDSHAKE 96 0 ++ handshakeBytes

/-- A HANDSHAKE_REJECT packet. -/
def rejectPacket (reason : UInt8) (msg : List UInt8) : List UInt8 :=
  header TSRV_PKT_HANDSHAKE_REJECT 512 0 ++ reason :: charArray (strncpy2 msg 511) 511

theorem sent_srvPprepHandshake (b : Buf) : sent (srvPprepHandshake b) = handshakePacket :=
  sent_pprep_write b _ _ _ _ (by simp)

theorem sent_srvPprepHandshakeReject (b : Buf) (reason : UInt8) (msg : List UInt8) :
    sent (srvPprepHandshakeReject b reason (some msg)) = rejectPacket reason msg :=
  sent_pprep_write b _ _ _ _ (by simp)

theorem sentBy_rejectHandshake (pkt : ScPkt) (i : Nat) (reason : UInt8) (msg : List UInt8)
    (w : World) : sentBy (Srv.rejectHandshake pkt i reason msg) w = [rejectPacket reason msg] := by
  rw [← sent_srvPprepHandshakeReject pkt.raw]
  exact sentBy_send i _ _ w

/-- What a rejected datagram is told: the reason and the text. `wiu` names the session and
`stack` is what `rej_msg` held before. -/
def rejection (pkt : ScPkt) (wiu stack : List UInt8) : UInt8 × List UInt8 :=
  if pkt.len < PKT_MIN_LEN + sizeofHandshake then
    (TSRV_HREJECT_INVALID, Srv.rejMsgShort wiu pkt.len)
  else if (pktLen pkt.raw).toNat ≠ sizeofHandshake then
    (TSRV_HREJECT_INVALID, Srv.rejMsgLen wiu (pktLen pkt.raw))
  else if pktType pkt.raw ≠ TCLI_PKT_HANDSHAKE then
    (TSRV_HREJECT_INVALID, Srv.rejMsgType wiu (pktType pkt.raw))
  else (TSRV_HREJECT_VERSION_NOT_SUPPORTED, stack)

/-- INTERNAL: storing the length field and a NUL leaves the type and the version alone. -/
theorem patched_fields (o : ByteOrder) (pkt : ScPkt) :
    pktType (Srv.storeHostLen o pkt).raw = pktType pkt.raw ∧
    Srv.versionOk ((Srv.storeHostLen o pkt).raw.write 35 [0]) = Srv.versionOk pkt.raw := by
  have hbyte : ∀ n, 4 ≤ n → n < 7 → ((Srv.storeHostLen o pkt).raw.write 35 [0]) n = pkt.raw n := by
    intro n h₁ h₂
    rw [Buf.write_of_lt _ _ (by omega)]
    apply Buf.write_of_ge
    rw [length_hostBytes]
    omega
  refine ⟨?_, by simp [Srv.versionOk, hbyte]⟩
  exact Buf.write_of_lt pkt.raw (hostBytes o (pktLen pkt.raw)) (by omega : 0 < 2)

/-- INTERNAL: **the answer to a first datagram** is one packet: HANDSHAKE if it is good, and
otherwise the reject of the first test that fails.
SOURCE: udp_epoll.c:420-495 -/
theorem sentBy_handleClientHandshake (o : ByteOrder) (pkt : ScPkt) (i : Nat) (w : World) :
    (GoodHandshake pkt → sentBy (Srv.handleClientHandshake o pkt i) w = [handshakePacket]) ∧
    (¬GoodHandshake pkt → sentBy (Srv.handleClientHandshake o pkt i) w =
      [rejectPacket (rejection pkt (w.sess i).wiu (stackText w)).1
        (rejection pkt (w.sess i).wiu (stackText w)).2]) := by
  obtain ⟨htype, hver⟩ := patched_fields o pkt
  unfold Srv.handleClientHandshake rejection
  by_cases hlen : pkt.len < PKT_MIN_LEN + sizeofHandshake
  · refine ⟨fun h => absurd h.len (by omega), fun _ => ?_⟩
    rw [if_pos hlen, if_pos hlen, sentBy_loadWiu, sentBy_rejectHandshake]
  rw [if_neg hlen, if_neg hlen]
  dsimp only
  by_cases hcli : (pktLen pkt.raw).toNat ≠ sizeofHandshake
  · refine ⟨fun h => absurd h.dataLen hcli, fun _ => ?_⟩
    rw [if_pos hcli, if_pos hcli, sentBy_loadWiu, sentBy_rejectHandshake]
  rw [if_neg hcli, if_neg hcli, htype]
  by_cases hty : pktType pkt.raw ≠ TCLI_PKT_HANDSHAKE
  · refine ⟨fun h => absurd h.type hty, fun _ => ?_⟩
    rw [if_pos hty, if_pos hty, sentBy_loadWiu, sentBy_rejectHandshake]
  rw [if_neg hty, if_neg hty]
  simp only [hver]
  by_cases hv : Srv.versionOk pkt.raw = true
  · have hgood : GoodHandshake pkt := ⟨by omega, not_not.mp hty, not_not.mp hcli, hv⟩
    refine ⟨fun _ => ?_, fun h => absurd hgood h⟩
    rw [if_pos hv, ← sent_srvPprepHandshake ((Srv.storeHostLen o pkt).raw.write 35 [0])]
    exact sentBy_send i _ _ w
  · refine ⟨fun h => absurd h.version hv, fun _ => ?_⟩
    rw [if_neg hv, sentBy_loadRejMsg, sentBy_rejectHandshake]

/-- The handler takes its accept branch: what it sends is one HANDSHAKE packet. -/
def ServerAccepts (o : ByteOrder) (pkt : ScPkt) (i : Nat) (w : World) : Prop :=
  ∃ data, sentBy (Srv.handleClientHandshake o pkt i) w = [data] ∧ kindOf data = some .handshake

theorem serverAccepts_iff (o : ByteOrder) (pkt : ScPkt) (i : Nat) (w : World) :
    ServerAccepts o pkt i w ↔ GoodHandshake pkt := by
  obtain ⟨hgood, hbad⟩ := sentBy_handleClientHandshake o pkt i w
  constructor
  · rintro ⟨data, hdata, hkind⟩
    by_contra h
    rw [hbad h] at hdata
    cases hdata
    revert hkind
    exact (by decide : some PktKind.handshakeReject ≠ some PktKind.handshake)
  · exact fun h => ⟨_, hgood h, by decide⟩

/-! ## The client -/

/-- INTERNAL: the received bytes lie at the start of the client's buffer. -/
theorem recvInto_raw {buf : Buf} {data : List UInt8} {j : Nat} (h : j < (Cli.recvInto buf data).2) :
    data[j]? = some ((Cli.recvInto buf data).1 j) := Buf.getElem?_of_write_take buf h

/-- INTERNAL: the specification of `server_handshake_chk`.
SOURCE: client/linux/udp.c:368-417 -/
theorem serverHandshakeChk_eq_zero (o : ByteOrder) (b : Buf) (len : Nat) :
    (Cli.serverHandshakeChk o b len).1 = 0 ↔
      100 ≤ len ∧ pktType b = TCLI_PKT_HANDSHAKE ∧ (pktLen b).toNat = sizeofHandshake ∧
        Srv.versionOk b = true := by
  obtain ⟨htype, hver⟩ := patched_fields o ⟨len, b⟩
  have htype : pktType (Cli.storeHostLen o b) = pktType b := htype
  have hver : Srv.versionOk ((Cli.storeHostLen o b).write 35 [0]) = Srv.versionOk b := hver
  have hreset : (-ECONNRESET : Int) ≠ 0 := by decide
  have hbad : (-EBADMSG : Int) ≠ 0 := by decide
  unfold Cli.serverHandshakeChk
  split
  · next hclose =>
    simp [hreset, hclose, TSRV_PKT_CLOSE, TCLI_PKT_HANDSHAKE]
  split
  · next hlen =>
    have hshort : ¬100 ≤ len := Nat.not_le.mpr hlen
    simp [hbad, hshort]
  next hlen =>
  dsimp only
  split
  · next hcli =>
    simp [hbad, hcli]
  split
  · next hty =>
    rw [htype] at hty
    have hty : ¬pktType b = TCLI_PKT_HANDSHAKE := hty
    simp [hbad, hty]
  next hcli hty =>
  rw [htype] at hty
  have hty : pktType b = TCLI_PKT_HANDSHAKE := not_not.mp hty
  have hlong : 100 ≤ len := Nat.not_lt.mp hlen
  have hv : Srv.versionOk b = true ↔ ¬(((Cli.storeHostLen o b).write 35 [0]) 4 ≠ VERSION ∨
      ((Cli.storeHostLen o b).write 35 [0]) 5 ≠ PATCHLEVEL ∨
      ((Cli.storeHostLen o b).write 35 [0]) 6 ≠ SUBLEVEL) := by
    rw [← hver]
    simp only [Srv.versionOk, Bool.and_eq_true, beq_iff_eq]
    tauto
  split
  · next hne =>
    simp [hbad, hv, hne]
  · next hok =>
    simp only [hlong, hty, not_not.mp hcli, hv, hok, not_false_eq_true, and_self]

/-- INTERNAL: a HANDSHAKE packet is accepted. -/
theorem handshakeDatagram_packet : HandshakeDatagram handshakePacket := by
  refine ⟨by decide, by decide, ⟨0, 96, ?_, ?_, ?_⟩, ?_, ?_, ?_⟩ <;> decide

/-- INTERNAL: the client's check, on a datagram it received. -/
theorem serverHandshakeChk_recvInto (o : ByteOrder) (buf : Buf) (b : List UInt8) :
    (Cli.serverHandshakeChk o (Cli.recvInto buf b).1 (Cli.recvInto buf b).2).1 = 0 ↔
      HandshakeDatagram b := by
  have hlen : (Cli.recvInto buf b).2 = min b.length 4100 := by
    simp [Cli.recvInto, Cli.PKT_MAX_LEN, Nat.min_comm]
  rw [serverHandshakeChk_eq_zero, handshakeDatagram_iff hlen (by omega) fun j hj => recvInto_raw hj]

/-- INTERNAL: **the two checkers accept the same datagrams.** For every datagram, every
contents the buffers had before and every byte order: the server takes its accept branch,
and the client's check succeeds, exactly on the handshake datagrams; and what either side
builds is one of them, over any buffer.
SOURCE: udp_epoll.c:420-495; client/linux/udp.c:368-417; client/linux/udp.h:166-190;
server/linux/udp.h:314-355 -/
theorem handshake_acceptors (o o' : ByteOrder) (pkt : ScPkt) (buf : Buf) (i : Nat) (w : World)
    (b : List UInt8) :
    (ServerAccepts o (Srv.doRecvFrom pkt b) i w ↔ HandshakeDatagram b) ∧
    ((Cli.serverHandshakeChk o' (Cli.recvInto buf b).1 (Cli.recvInto buf b).2).1 = 0 ↔
      HandshakeDatagram b) ∧
    HandshakeDatagram (sent (cliPprepHandshake buf)) ∧
    HandshakeDatagram (sent (srvPprepHandshake buf)) := by
  refine ⟨?_, serverHandshakeChk_recvInto o' buf b, ?_, ?_⟩
  · rw [serverAccepts_iff, goodHandshake_iff]
  · have hcli : sent (cliPprepHandshake buf) = handshakePacket := sent_srvPprepHandshake buf
    rw [hcli]
    exact handshakeDatagram_packet
  · rw [sent_srvPprepHandshake]
    exact handshakeDatagram_packet

/-! ## What a rejection reveals -/

/-- The world with other contents of the stack where `rej_msg` will lie. -/
def withStack (w : World) (m : Buf) : World := { w with env := { w.env with rejMsg := m } }

/-- A datagram that is a handshake in everything but its version. -/
structure WrongVersion (pkt : ScPkt) : Prop where
  len : PKT_MIN_LEN + sizeofHandshake ≤ pkt.len
  dataLen : (pktLen pkt.raw).toNat = sizeofHandshake
  type : pktType pkt.raw = TCLI_PKT_HANDSHAKE
  version : Srv.versionOk pkt.raw = false

theorem not_good_of_wrongVersion {pkt : ScPkt} (h : WrongVersion pkt) : ¬GoodHandshake pkt := by
  intro hgood
  have hver := hgood.version
  rw [h.version] at hver
  cases hver

theorem rejection_of_wrongVersion {pkt : ScPkt} (h : WrongVersion pkt) (wiu stack : List UInt8) :
    rejection pkt wiu stack = (TSRV_HREJECT_VERSION_NOT_SUPPORTED, stack) := by
  have hlen := h.len
  unfold rejection
  rw [if_neg (by omega), if_neg (not_not.mpr h.dataLen), if_neg (not_not.mpr h.type)]

/-- INTERNAL: the other three branches format their text. -/
theorem rejection_of_not_wrongVersion {pkt : ScPkt} (hbad : ¬GoodHandshake pkt)
    (h : ¬WrongVersion pkt) (wiu stack stack' : List UInt8) :
    rejection pkt wiu stack = rejection pkt wiu stack' := by
  unfold rejection
  by_cases hlen : pkt.len < PKT_MIN_LEN + sizeofHandshake
  · rw [if_pos hlen, if_pos hlen]
  rw [if_neg hlen, if_neg hlen]
  by_cases hcli : (pktLen pkt.raw).toNat ≠ sizeofHandshake
  · rw [if_pos hcli, if_pos hcli]
  rw [if_neg hcli, if_neg hcli]
  by_cases hty : pktType pkt.raw ≠ TCLI_PKT_HANDSHAKE
  · rw [if_pos hty, if_pos hty]
  -- only the version is left to fail, and it did not
  have hlong : PKT_MIN_LEN + sizeofHandshake ≤ pkt.len := by omega
  cases hv : Srv.versionOk pkt.raw with
  | true => exact absurd ⟨hlong, not_not.mp hty, not_not.mp hcli, hv⟩ hbad
  | false => exact absurd ⟨hlong, not_not.mp hcli, not_not.mp hty, hv⟩ h

/-- A stack that holds the byte `c` and zeros behind it. -/
def stackOf (c : UInt8) : Buf := fun i => if i = 0 then c else 0

theorem stackText_stackOf (w : World) :
    stackText (withStack w (stackOf 0)) = [] ∧ stackText (withStack w (stackOf 65)) = [65] := by
  have h₀ : cstr ((stackOf 0).read 0 512) = [] := by decide +kernel
  have h₁ : cstr ((stackOf 65).read 0 512) = [65] := by decide +kernel
  unfold stackText withStack
  exact ⟨h₀, h₁⟩

/-- INTERNAL: the answer to a wrong version shows the stack. -/
theorem wrongVersion_reveals (o : ByteOrder) {pkt : ScPkt} (h : WrongVersion pkt) (i : Nat)
    (w : World) :
    sentBy (Srv.handleClientHandshake o pkt i) (withStack w (stackOf 0)) ≠
      sentBy (Srv.handleClientHandshake o pkt i) (withStack w (stackOf 65)) := by
  have hanswer := fun m => (sentBy_handleClientHandshake o pkt i (withStack w m)).2
    (not_good_of_wrongVersion h)
  obtain ⟨h₀, h₁⟩ := stackText_stackOf w
  rw [hanswer, hanswer, rejection_of_wrongVersion h, rejection_of_wrongVersion h, h₀, h₁]
  decide

/-- INTERNAL: **exactly which rejections reveal only what was formatted for them.** Whatever
the stack held, the answer to a rejected datagram is the same packet, if and only if the
datagram is not a handshake in everything but its version.
SOURCE: udp_epoll.c:403-495; server/linux/udp.h:324-338 -/
theorem rejection_formatted_iff (o : ByteOrder) (pkt : ScPkt) (d : List UInt8) (i : Nat)
    (w : World) :
    (¬ServerAccepts o (Srv.doRecvFrom pkt d) i w → ∀ m m' : Buf,
      sentBy (Srv.handleClientHandshake o (Srv.doRecvFrom pkt d) i) (withStack w m) =
        sentBy (Srv.handleClientHandshake o (Srv.doRecvFrom pkt d) i) (withStack w m')) ↔
      ¬WrongVersion (Srv.doRecvFrom pkt d) := by
  rw [serverAccepts_iff]
  constructor
  · intro h hwrong
    exact wrongVersion_reveals o hwrong i w
      (h (not_good_of_wrongVersion hwrong) (stackOf 0) (stackOf 65))
  · intro hwrong hbad m m'
    have hanswer := fun m =>
      (sentBy_handleClientHandshake o (Srv.doRecvFrom pkt d) i (withStack w m)).2 hbad
    have hsess : ∀ m, (withStack w m).sess i = w.sess i := fun _ => rfl
    rw [hanswer m, hanswer m', hsess, hsess, rejection_of_not_wrongVersion hbad hwrong _
      (stackText (withStack w m)) (stackText (withStack w m'))]

/-- A handshake of version 1.1.2. -/
def newerHandshake : List UInt8 := handshakePacket.set 4 1

theorem rejection_reveals_stack :
    ¬∀ (o : ByteOrder) (pkt : ScPkt) (d : List UInt8) (i : Nat) (w : World),
      ¬ServerAccepts o (Srv.doRecvFrom pkt d) i w → ∀ m m' : Buf,
        sentBy (Srv.handleClientHandshake o (Srv.doRecvFrom pkt d) i) (withStack w m) =
          sentBy (Srv.handleClientHandshake o (Srv.doRecvFrom pkt d) i) (withStack w m') := by
  intro h
  have hwrong : WrongVersion (Srv.doRecvFrom Server.zeroPkt newerHandshake) := by
    refine ⟨?_, ?_, ?_, ?_⟩ <;> decide
  have hrejected := mt (serverAccepts_iff .little (Srv.doRecvFrom Server.zeroPkt newerHandshake) 0
    { st := initState 1 [] .little }).mp (not_good_of_wrongVersion hwrong)
  exact wrongVersion_reveals .little hwrong 0 _ (h _ _ _ _ _ hrejected (stackOf 0) (stackOf 65))

end TeaVpn2.Analysis
