import TeaVpn2.Analysis.TunInjection

/-!
# What a datagram is handled with

The receive buffer is reused: behind the bytes of a datagram lie bytes of earlier datagrams,
of other clients too, and of earlier replies. The handshake is checked against the number
of bytes received. The credentials of an AUTH packet are copied from their fixed places, and
the data of a TUN packet is as long as its header says, whatever was received.

`leftoverFree_iff_selfContained` is the exact condition under which a datagram is handled in the same way
whatever lies behind it.
-/

set_option autoImplicit false

namespace TeaVpn2.Analysis

open TeaVpn2 TeaVpn2.Lib

/-! ## Handlers that do not read the buffer -/

/-- The handlers return the same value; the buffers they leave may differ. -/
def SameRet (a b : Int × ScPkt) : Prop := a.1 = b.1

/-- Two pieces of server code do the same in the world `w`. -/
abbrev Alike (p q : Srv (Int × ScPkt)) (w : World) : Prop := Prog.Agree exec SameRet p q w

theorem closeSess_alike (pkt pkt' : ScPkt) (i : Nat) (w : World) :
    Alike (Srv.closeSess pkt i) (Srv.closeSess pkt' i) w := by
  have hsend : ∀ w, Alike
      (do
        let _ ← Srv.sendToClient i (sent (srvPprep pkt.raw TSRV_PKT_CLOSE 0 0))
        let ret ← Srv.deleteUdpSession i
        pure (ret, { pkt with raw := (srvPprep pkt.raw TSRV_PKT_CLOSE 0 0).1 }))
      (do
        let _ ← Srv.sendToClient i (sent (srvPprep pkt'.raw TSRV_PKT_CLOSE 0 0))
        let ret ← Srv.deleteUdpSession i
        pure (ret, { pkt' with raw := (srvPprep pkt'.raw TSRV_PKT_CLOSE 0 0).1 })) w := by
    intro w
    have hsent : sent (srvPprep pkt.raw TSRV_PKT_CLOSE 0 0) =
        sent (srvPprep pkt'.raw TSRV_PKT_CLOSE 0 0) :=
      (sent_pprep_zero _ _ _).trans (sent_pprep_zero _ _ _).symm
    rw [hsent]
    exact Prog.Agree.call_bind _ fun _ _ => Prog.Agree.call_bind _ fun _ _ => ⟨rfl, rfl⟩
  unfold Srv.closeSess
  refine Prog.Agree.call_bind _ fun (ipv4Iff : UInt32) w' => ?_
  dsimp only
  split
  · exact Prog.Agree.call_bind _ fun _ w'' => hsend w''
  · exact hsend w'

/-- INTERNAL: a packet whose bytes do not depend on the buffer is sent. -/
theorem send_alike (i : Nat) {p p' : Buf × Nat} (hsent : sent p = sent p') (pkt pkt' : ScPkt)
    (f : Int → Int) (w : World) :
    Alike (do
        let sendRet ← Srv.sendToClient i (sent p)
        pure (f sendRet, { pkt with raw := p.1 }))
      (do
        let sendRet ← Srv.sendToClient i (sent p')
        pure (f sendRet, { pkt' with raw := p'.1 })) w := by
  rw [hsent]
  exact Prog.Agree.call_bind _ fun _ _ => ⟨rfl, rfl⟩

theorem rejectHandshake_alike (pkt pkt' : ScPkt) (i : Nat) (reason : UInt8) (msg : List UInt8)
    (w : World) :
    Alike (Srv.rejectHandshake pkt i reason msg) (Srv.rejectHandshake pkt' i reason msg) w := by
  have hsent : sent (srvPprepHandshakeReject pkt.raw reason (some msg)) =
      sent (srvPprepHandshakeReject pkt'.raw reason (some msg)) := by
    have hlen : (reason :: charArray (strncpy2 msg 511) 511).length = (512 : UInt16).toNat := by simp
    exact (sent_pprep_write _ _ _ _ _ hlen).trans (sent_pprep_write _ _ _ _ _ hlen).symm
  unfold Srv.rejectHandshake Srv.sendHandshakeReject
  exact (send_alike i hsent pkt pkt' _ w).bind fun _ _ _ _ => ⟨rfl, rfl⟩

theorem sendHandshake_alike (pkt pkt' : ScPkt) (i : Nat) (w : World) :
    Alike (Srv.sendHandshake pkt i) (Srv.sendHandshake pkt' i) w := by
  have hsent : sent (srvPprepHandshake pkt.raw) = sent (srvPprepHandshake pkt'.raw) := by
    have hlen : handshakeBytes.length = (96 : UInt16).toNat := by simp
    exact (sent_pprep_write _ _ _ _ _ hlen).trans (sent_pprep_write _ _ _ _ _ hlen).symm
  unfold Srv.sendHandshake
  exact send_alike i hsent pkt pkt' _ w

theorem sent_sync (b b' : Buf) : sent (srvPprepSync b) = sent (srvPprepSync b') :=
  (sent_pprep_zero _ _ _).trans (sent_pprep_zero _ _ _).symm

theorem finishEvent_alike (ret : Int) (pkt pkt' : ScPkt) (i : Nat) (w : World) :
    Alike (Srv.finishEvent ret pkt i) (Srv.finishEvent ret pkt' i) w := by
  unfold Srv.finishEvent
  split
  · split
    · exact (closeSess_alike pkt pkt' i w).bind fun _ _ _ _ => ⟨rfl, rfl⟩
    · exact ⟨rfl, rfl⟩
  · unfold Srv.bumpLoopC
    refine Prog.Agree.call_bind _ fun (loopC : UInt8) w' => ?_
    dsimp only
    split
    · refine Prog.Agree.call_bind _ fun _ w'' => ?_
      rw [sent_sync pkt.raw pkt'.raw]
      exact Prog.Agree.call_bind _ fun _ _ => ⟨rfl, rfl⟩
    · exact ⟨rfl, rfl⟩

/-! ## Handlers that read the bytes received -/

/-- The same number of bytes was received into both buffers, and the same bytes. -/
structure Received (pkt pkt' : ScPkt) : Prop where
  len : pkt.len = pkt'.len
  raw : ∀ j, j < pkt.len → pkt.raw j = pkt'.raw j

theorem received_doRecvFrom (b b' : ScPkt) (data : List UInt8) :
    Received (Srv.doRecvFrom b data) (Srv.doRecvFrom b' data) := by
  refine ⟨rfl, fun j hj => ?_⟩
  have h : data[j]? = some ((Srv.doRecvFrom b data).raw j) := doRecvFrom_raw hj
  have h' : data[j]? = some ((Srv.doRecvFrom b' data).raw j) := doRecvFrom_raw hj
  rw [h] at h'
  exact Option.some.inj h'

/-- INTERNAL: the handshake reads no byte that was not received.
SOURCE: udp_epoll.c:420-495 -/
theorem handleClientHandshake_alike (o : ByteOrder) {pkt pkt' : ScPkt} (h : Received pkt pkt')
    (i : Nat) (w : World) :
    Alike (Srv.handleClientHandshake o pkt i) (Srv.handleClientHandshake o pkt' i) w := by
  unfold Srv.handleClientHandshake
  rw [← h.len]
  split
  · refine Prog.Agree.call_bind _ fun wiu w' => ?_
    exact rejectHandshake_alike pkt pkt' i _ _ w'
  next hlen =>
  simp only [PKT_MIN_LEN, sizeofHandshake, Nat.not_lt] at hlen
  have hpktLen : pktLen pkt.raw = pktLen pkt'.raw := by
    simp only [pktLen, h.raw 2 (by omega), h.raw 3 (by omega)]
  have hhost : ∀ j, j < pkt.len →
      (Srv.storeHostLen o pkt).raw j = (Srv.storeHostLen o pkt').raw j := by
    intro j hj
    simp only [Srv.storeHostLen, Buf.write, hpktLen, h.raw j hj]
  have htype : pktType (Srv.storeHostLen o pkt).raw = pktType (Srv.storeHostLen o pkt').raw :=
    hhost 0 (by omega)
  dsimp only
  rw [← hpktLen]
  split
  · refine Prog.Agree.call_bind _ fun wiu w' => ?_
    exact rejectHandshake_alike _ _ i _ _ w'
  rw [← htype]
  split
  · refine Prog.Agree.call_bind _ fun wiu w' => ?_
    exact rejectHandshake_alike _ _ i _ _ w'
  have hver : Srv.versionOk ((Srv.storeHostLen o pkt).raw.write 35 [0]) =
      Srv.versionOk ((Srv.storeHostLen o pkt').raw.write 35 [0]) := by
    have hbyte : ∀ j, j < 7 → ((Srv.storeHostLen o pkt).raw.write 35 [0]) j =
        ((Srv.storeHostLen o pkt').raw.write 35 [0]) j := by
      intro j hj
      rw [Buf.write_of_lt _ _ (by omega), Buf.write_of_lt _ _ (by omega)]
      exact hhost j (by omega)
    simp only [Srv.versionOk, hbyte 4 (by omega), hbyte 5 (by omega), hbyte 6 (by omega)]
  rw [← hver]
  split
  · exact sendHandshake_alike _ _ i w
  · refine Prog.Agree.call_bind _ fun msg w' => ?_
    exact rejectHandshake_alike _ _ i _ _ w'

/-- INTERNAL: **a datagram without session is handled by what was received.** -/
theorem handleNewClient_alike (o : ByteOrder) {pkt pkt' : ScPkt} (h : Received pkt pkt')
    (hlen : pkt.len ≠ 0) (saddr : Endpoint) (w : World) :
    Alike (Srv.handleNewClient o pkt saddr) (Srv.handleNewClient o pkt' saddr) w := by
  have hskip : Srv.skipSessionCreation pkt = Srv.skipSessionCreation pkt' := by
    simp only [Srv.skipSessionCreation, pktType, h.raw 0 (by omega)]
  unfold Srv.handleNewClient
  rw [← hskip]
  split
  · exact ⟨rfl, rfl⟩
  · refine Prog.Agree.call_bind _ fun r w' => ?_
    cases r with
    | error err => exact ⟨rfl, rfl⟩
    | ok i =>
      refine Prog.Agree.call_bind _ fun _ w'' => ?_
      unfold Srv._handleNewClient
      refine (handleClientHandshake_alike o h i w'').bind fun a b w''' hab => ?_
      obtain ⟨ret, p⟩ := a
      obtain ⟨ret', p'⟩ := b
      have hret : ret = ret' := hab
      subst hret
      dsimp only
      split
      · exact (closeSess_alike p p' i w''').bind fun _ _ _ _ => ⟨rfl, rfl⟩
      · exact ⟨rfl, rfl⟩

/-! ## The credentials -/

/-- The bytes of a datagram that reach the buffer. -/
def received (data : List UInt8) : List UInt8 := data.take 4096

/-- INTERNAL: a field of the packet is the part of it that was received, followed by what
the buffer held before. -/
theorem read_doRecvFrom (b : ScPkt) (data : List UInt8) (off k : Nat) :
    (Srv.doRecvFrom b data).raw.read off k = ((received data).drop off).take k ++
      b.raw.read (off + (((received data).drop off).take k).length)
        (k - (((received data).drop off).take k).length) := by
  set l := ((received data).drop off).take k with hl
  have hlen : l.length = min k ((received data).length - off) := by simp [hl]
  have hk : k = l.length + (k - l.length) := by omega
  conv_lhs => rw [hk]
  rw [Buf.read_add]
  congr 1
  · apply List.ext_getElem (by simp)
    intro j h₁ h₂
    have hj : off + j < (Srv.doRecvFrom b data).len := by
      show off + j < (data.take 4096).length
      simp only [received] at hlen
      omega
    have hbyte := doRecvFrom_raw hj
    have hget : l[j]? = data[off + j]? := by
      have hlt : off + j < 4096 := by
        simp only [Srv.doRecvFrom, List.length_take] at hj
        omega
      have hjk : j < k := by omega
      simp [hl, received, hlt, hjk]
    rw [hbyte, List.getElem?_eq_getElem h₂] at hget
    simp only [Buf.read, List.getElem_map, List.getElem_range]
    exact (Option.some.inj hget).symm
  · apply Buf.read_congr
    intro j h₁ h₂
    apply Buf.write_of_ge
    show 0 + (received data).length ≤ j
    omega

/-- The part of the username, and of the password, that was received. -/
def receivedUsername (data : List UInt8) : List UInt8 := ((received data).drop 4).take 255
def receivedPassword (data : List UInt8) : List UInt8 := ((received data).drop 260).take 255

/-- The password ends within the datagram. -/
def PasswordReceived (data : List UInt8) : Prop :=
  (0 : UInt8) ∈ receivedPassword data ∨ 515 ≤ (received data).length

theorem authUsername_doRecvFrom (b : ScPkt) (data : List UInt8) :
    Srv.authUsername (Srv.doRecvFrom b data).raw = cstr (receivedUsername data ++
      b.raw.read (4 + (receivedUsername data).length) (255 - (receivedUsername data).length)) :=
  congrArg cstr (read_doRecvFrom b data 4 255)

theorem authPassword_doRecvFrom (b : ScPkt) (data : List UInt8) :
    Srv.authPassword (Srv.doRecvFrom b data).raw = cstr (receivedPassword data ++
      b.raw.read (260 + (receivedPassword data).length) (255 - (receivedPassword data).length)) :=
  congrArg cstr (read_doRecvFrom b data 260 255)

/-- INTERNAL: a password that ends within the datagram does not depend on what lies behind,
nor does the username before it. -/
theorem credentials_of_passwordReceived {data : List UInt8} (h : PasswordReceived data)
    (b b' : ScPkt) :
    261 ≤ (received data).length ∧
    Srv.authUsername (Srv.doRecvFrom b data).raw = Srv.authUsername (Srv.doRecvFrom b' data).raw ∧
    Srv.authPassword (Srv.doRecvFrom b data).raw = Srv.authPassword (Srv.doRecvFrom b' data).raw := by
  have hlen : 261 ≤ (received data).length := by
    rcases h with h | h
    · have hpos := List.length_pos_of_mem h
      simp only [receivedPassword, List.length_take, List.length_drop] at hpos
      omega
    · omega
  refine ⟨hlen, ?_, ?_⟩
  · have hfull : (receivedUsername data).length = 255 := by
      simp only [receivedUsername, List.length_take, List.length_drop]
      omega
    rw [authUsername_doRecvFrom, authUsername_doRecvFrom, hfull]
    rfl
  · rw [authPassword_doRecvFrom, authPassword_doRecvFrom]
    rcases h with h | h
    · rw [cstr_append_of_mem h, cstr_append_of_mem h]
    · have hfull : (receivedPassword data).length = 255 := by
        simp only [receivedPassword, List.length_take, List.length_drop]
        omega
      rw [hfull]
      rfl

/-- INTERNAL: a character that may not occur in a username is found wherever the name ends. -/
theorem validateUsername_of_received {data : List UInt8}
    (h : validateUsername (cstr (receivedUsername data)) = false) (b : ScPkt) :
    validateUsername (Srv.authUsername (Srv.doRecvFrom b data).raw) = false := by
  rw [authUsername_doRecvFrom]
  by_cases h0 : (0 : UInt8) ∈ receivedUsername data
  · rw [cstr_append_of_mem h0]
    exact h
  · have hself : cstr (receivedUsername data) = receivedUsername data := by
      have := cstr_append_of_not_mem h0 []
      simpa [cstr] using this
    rw [hself] at h
    rw [cstr_append_of_not_mem h0]
    simp only [validateUsername, List.all_append, Bool.and_eq_false_imp] at h ⊢
    intro hall
    rw [hall] at h
    cases h

/-! ## The condition is enough -/

/-- The type and the length field of a datagram. -/
def datagramType (data : List UInt8) : Option UInt8 := (received data)[0]?
def datagramLen (data : List UInt8) : Nat :=
  (be16 ((received data).getD 2 0) ((received data).getD 3 0)).toNat

/-- The datagram brings along what it is handled with. If its source has a session that is
not authenticated and it is an AUTH packet, a character that may not occur in a username was
received, or the password up to its end; if it is a TUN_DATA packet, its header was received
and all the data it announces. -/
def SelfContained (s : Server) (saddr : Endpoint) (data : List UInt8) : Prop :=
  ∀ i, lookupUdpSess s.st saddr.addr saddr.port = some i →
    (datagramType data = some TCLI_PKT_AUTH → (s.st.sessArr i).isAuthenticated = false →
      validateUsername (cstr (receivedUsername data)) = false ∨ PasswordReceived data) ∧
    (datagramType data = some TCLI_PKT_TUN_DATA → 4 ≤ (received data).length ∧
      (datagramLen data = 0 ∨ 4 + datagramLen data ≤ (received data).length))

/-- The datagram is handled in the same way whatever the receive buffer held before. -/
def LeftoverFree (s : Server) (saddr : Endpoint) (data : List UInt8) : Prop :=
  ∀ (env : Env) (b b' : ScPkt),
    ({ s with pkt := b }.step env (.udp saddr data)).st =
      ({ s with pkt := b' }.step env (.udp saddr data)).st ∧
    ({ s with pkt := b }.step env (.udp saddr data)).log =
      ({ s with pkt := b' }.step env (.udp saddr data)).log

theorem getElem?_received {b : ScPkt} {data : List UInt8} {j : Nat}
    (h : j < (received data).length) :
    (received data)[j]? = some ((Srv.doRecvFrom b data).raw j) := by
  have hdata : data[j]? = some ((Srv.doRecvFrom b data).raw j) := doRecvFrom_raw h
  rw [← hdata]
  simp only [received, List.length_take] at h
  simp [received, show j < 4096 by omega]

theorem datagramType_eq (b : ScPkt) {data : List UInt8} (hne : data ≠ []) :
    datagramType data = some (pktType (Srv.doRecvFrom b data).raw) := by
  apply getElem?_received
  have hpos := List.length_pos_iff.mpr hne
  simp only [received, List.length_take]
  omega

theorem datagramLen_eq (b : ScPkt) {data : List UInt8} (h : 4 ≤ (received data).length) :
    datagramLen data = (pktLen (Srv.doRecvFrom b data).raw).toNat := by
  have h₂ : (received data)[2]? = some ((Srv.doRecvFrom b data).raw 2) :=
    getElem?_received (by omega)
  have h₃ : (received data)[3]? = some ((Srv.doRecvFrom b data).raw 3) :=
    getElem?_received (by omega)
  simp only [datagramLen, pktLen, List.getD_eq_getElem?_getD, h₂, h₃, Option.getD_some]

/-- INTERNAL: the answer to refused credentials, whatever the buffer held. -/
theorem authReject_alike (p p' : ScPkt) (i : Nat) (w : World) :
    Alike
      (do
        let sendRet ← Srv.sendToClient i (sent (srvPprep p.raw TSRV_PKT_AUTH_REJECT 0 0))
        let (_, pkt') ← Srv.closeUdpSession
          { p with raw := (srvPprep p.raw TSRV_PKT_AUTH_REJECT 0 0).1 } i
        pure (if sendRet < 0 then sendRet else 0, pkt'))
      (do
        let sendRet ← Srv.sendToClient i (sent (srvPprep p'.raw TSRV_PKT_AUTH_REJECT 0 0))
        let (_, pkt') ← Srv.closeUdpSession
          { p' with raw := (srvPprep p'.raw TSRV_PKT_AUTH_REJECT 0 0).1 } i
        pure (if sendRet < 0 then sendRet else 0, pkt')) w := by
  have hsent : sent (srvPprep p.raw TSRV_PKT_AUTH_REJECT 0 0) =
      sent (srvPprep p'.raw TSRV_PKT_AUTH_REJECT 0 0) :=
    (sent_pprep_zero _ _ _).trans (sent_pprep_zero _ _ _).symm
  rw [hsent]
  refine Prog.Agree.call_bind _ fun sendRet w' => ?_
  exact (closeSess_alike _ _ i w').bind fun _ _ _ _ => ⟨rfl, rfl⟩

/-- INTERNAL: an AUTH packet that brings its credentials along.
SOURCE: udp_epoll.c:562-630 -/
theorem handleClpktAuth_alike (o : ByteOrder) (b b' : ScPkt) {data : List UInt8} (i : Nat) (w : World)
    (h : (w.st.sessArr i).isAuthenticated = false →
      validateUsername (cstr (receivedUsername data)) = false ∨ PasswordReceived data) :
    Alike (Srv.handleClpktAuth o (Srv.doRecvFrom b data) i)
      (Srv.handleClpktAuth o (Srv.doRecvFrom b' data) i) w := by
  unfold Srv.handleClpktAuth
  cases hauth : (w.st.sessArr i).isAuthenticated with
  | true =>
    apply Prog.Agree.of_exec rfl
    simp only [exec, World.sess, hauth, if_true]
    exact ⟨rfl, rfl⟩
  | false =>
    apply Prog.Agree.of_exec rfl
    simp only [exec, World.sess, hauth, Bool.false_eq_true, if_false]
    rcases h hauth with hinvalid | hpass
    · -- both are refused, whatever the rest of the name is
      have hnone : ∀ b : ScPkt, teavpn2Auth w.st.dataDir w.env.fopen
          (Srv.authUsername (Srv.doRecvFrom b data).raw)
          (Srv.authPassword (Srv.doRecvFrom b data).raw) = none := by
        intro b
        unfold teavpn2Auth
        rw [validateUsername_of_received hinvalid b]
        rfl
      refine Prog.Agree.of_exec ?_ ?_
      · simp only [exec, hnone]
      · simp only [exec, hnone]
        exact authReject_alike _ _ _ _
    · obtain ⟨hlen, huser, hpw⟩ := credentials_of_passwordReceived hpass b b'
      rw [← huser, ← hpw]
      refine Prog.Agree.call_bind _ fun r w' => ?_
      cases r with
      | none => exact authReject_alike _ _ _ _
      | some iff =>
        have hsent : sent (srvPprep ((Srv.doRecvFrom b data).raw.write 6 (iff.bytes o)) TSRV_PKT_AUTH_OK
              (UInt16.ofNat sizeofAuthRes) 0) =
            sent (srvPprep ((Srv.doRecvFrom b' data).raw.write 6 (iff.bytes o)) TSRV_PKT_AUTH_OK
              (UInt16.ofNat sizeofAuthRes) 0) := by
          unfold srvPprep
          rw [sent_pprep, sent_pprep]
          congr 1
          apply Buf.read_congr
          intro j h₁ h₂
          have hraw := (received_doRecvFrom b b' data).raw j
          simp only [Buf.write]
          split
          · rfl
          · refine hraw (show j < (received data).length from ?_)
            have hsize : (UInt16.ofNat sizeofAuthRes).toNat = 84 := rfl
            omega
        dsimp only
        rw [hsent]
        refine Prog.Agree.call_bind _ fun (sendRet : Int) w'' => ?_
        split
        · exact (closeSess_alike _ _ i w'').bind fun _ _ _ _ => ⟨rfl, rfl⟩
        · refine Prog.Agree.call_bind _ fun _ _ => ?_
          refine Prog.Agree.call_bind _ fun idx _ => ?_
          refine Prog.Agree.call_bind _ fun _ _ => ?_
          refine Prog.Agree.call_bind _ fun _ _ => ?_
          exact Prog.Agree.call_bind _ fun _ _ => ⟨rfl, rfl⟩

/-- INTERNAL: **a datagram that brings along what it is handled with is handled alike.**
SOURCE: udp_epoll.c:715-783 -/
theorem _handleEventFromUdp_alike {s : Server} {saddr : Endpoint} {data : List UInt8}
    (h : SelfContained s saddr data) (hne : data ≠ []) (o : ByteOrder) (b b' : ScPkt) {w : World}
    (hw : w.st = s.st) :
    Alike (Srv._handleEventFromUdp o (Srv.doRecvFrom b data) saddr)
      (Srv._handleEventFromUdp o (Srv.doRecvFrom b' data) saddr) w := by
  have hrecv := received_doRecvFrom b b' data
  have hlen : (Srv.doRecvFrom b data).len ≠ 0 := mt (doRecvFrom_len_eq_zero b data).mp hne
  have htype := datagramType_eq b hne
  have hsame : pktType (Srv.doRecvFrom b data).raw = pktType (Srv.doRecvFrom b' data).raw :=
    hrecv.raw 0 (by omega)
  unfold Srv._handleEventFromUdp
  apply Prog.Agree.of_exec rfl
  simp only [exec]
  cases hl : lookupUdpSess w.st saddr.addr saddr.port with
  | none => exact handleNewClient_alike o hrecv hlen saddr w
  | some i =>
    rw [hw] at hl
    obtain ⟨hauth, htun⟩ := h i hl
    refine Prog.Agree.bind (R := SameRet) ?_ fun r r' w' hr => ?_
    · unfold Srv.__handleEventFromUdp
      simp only [← hsame]
      split
      · exact ⟨rfl, rfl⟩
      split
      · next hty =>
        apply handleClpktAuth_alike
        rw [hw]
        exact hauth (htype.trans (congrArg some hty))
      split
      · next hty =>
        obtain ⟨h4, hdata⟩ := htun (htype.trans (congrArg some hty))
        have hpkt : pktLen (Srv.doRecvFrom b data).raw = pktLen (Srv.doRecvFrom b' data).raw := by
          apply UInt16.toNat_inj.mp
          rw [← datagramLen_eq b h4, ← datagramLen_eq b' h4]
        unfold Srv.handleClpktTunData
        rw [← hpkt]
        dsimp only
        split
        · exact ⟨rfl, rfl⟩
        · next hzero =>
          have hall : 4 + (pktLen (Srv.doRecvFrom b data).raw).toNat ≤ (received data).length := by
            rw [datagramLen_eq b h4] at hdata
            refine hdata.resolve_left fun h0 => hzero ?_
            exact UInt16.toNat_inj.mp h0
          have hread : (Srv.doRecvFrom b data).raw.read 4 (pktLen (Srv.doRecvFrom b data).raw).toNat =
              (Srv.doRecvFrom b' data).raw.read 4 (pktLen (Srv.doRecvFrom b data).raw).toNat := by
            apply Buf.read_congr
            intro j _ hj
            exact hrecv.raw j (show j < (received data).length by omega)
          rw [hread]
          exact Prog.Agree.call_bind _ fun _ _ => ⟨rfl, rfl⟩
      split
      · unfold Srv.handleClpktReqsync
        refine (send_alike i (sent_sync _ _) _ _ _ w).bind fun a a' w' ha => ?_
        exact Prog.Agree.call_bind _ fun _ _ => ⟨rfl, ha⟩
      split
      · exact Prog.Agree.call_bind _ fun _ _ => ⟨rfl, rfl⟩
      split
      · exact (closeSess_alike _ _ i w).bind fun _ _ _ _ => ⟨rfl, rfl⟩
      · exact ⟨rfl, rfl⟩
    · obtain ⟨ret, p⟩ := r
      obtain ⟨ret', p'⟩ := r'
      have hret : ret = ret' := hr
      subst hret
      exact finishEvent_alike ret p p' i w'

theorem leftoverFree_of_selfContained {s : Server} {saddr : Endpoint} {data : List UInt8}
    (h : SelfContained s saddr data) : LeftoverFree s saddr data := by
  intro env b b'
  by_cases hne : data = []
  · subst hne
    exact ⟨rfl, rfl⟩
  · have halike := _handleEventFromUdp_alike h hne s.st.order b b'
      (w := (s.world env).emit (.recv saddr data)) rfl
    rw [step_udp (s := { s with pkt := b }) hne, step_udp (s := { s with pkt := b' }) hne]
    exact ⟨congrArg World.st halike.1, congrArg World.log halike.1⟩

/-! ## The condition is needed -/

/-- A buffer of zeros with the byte `v` at offset `p`. -/
def probe (p : Nat) (v : UInt8) : ScPkt := ⟨0, fun j => if j = p then v else 0⟩

theorem cstr_read_of_zero {b : Buf} {off k : Nat} (h : k = 0 ∨ b off = 0) :
    cstr (b.read off k) = [] := by
  cases k with
  | zero => rfl
  | succ k =>
    have h0 : b off = 0 := h.resolve_left (by omega)
    simp [cstr, Buf.read, List.range_succ_eq_map, h0]

/-- INTERNAL: with zeros behind it, the username is what was received of it. -/
theorem authUsername_of_zero {b : ScPkt} {data : List UInt8}
    (h : ∀ j, j < 259 → b.raw j = 0) :
    Srv.authUsername (Srv.doRecvFrom b data).raw = cstr (receivedUsername data) := by
  have hlen : (receivedUsername data).length ≤ 255 := List.length_take_le _ _
  have hnil : cstr (b.raw.read (4 + (receivedUsername data).length)
      (255 - (receivedUsername data).length)) = [] := by
    apply cstr_read_of_zero
    by_cases hfull : (receivedUsername data).length = 255
    · exact .inl (by omega)
    · exact .inr (h _ (by omega))
  rw [authUsername_doRecvFrom]
  by_cases h0 : (0 : UInt8) ∈ receivedUsername data
  · exact cstr_append_of_mem h0 _
  · rw [cstr_append_of_not_mem h0, hnil]
    have hself := cstr_append_of_not_mem h0 []
    simpa [cstr] using hself.symm

/-- INTERNAL: the decision on an AUTH packet is logged.
SOURCE: udp_epoll.c:562-630 -/
theorem auth_logged (s : Server) (env : Env) {saddr : Endpoint} {data : List UInt8} (hne : data ≠ [])
    {i : Nat} (hl : lookupUdpSess s.st saddr.addr saddr.port = some i)
    (htype : pktType (Srv.doRecvFrom s.pkt data).raw = TCLI_PKT_AUTH)
    (hauth : (s.st.sessArr i).isAuthenticated = false) :
    s.log ++ [.recv saddr data] ++ [.auth i (s.st.sessArr i).key (teavpn2Auth s.st.dataDir env.fopen
        (Srv.authUsername (Srv.doRecvFrom s.pkt data).raw)
        (Srv.authPassword (Srv.doRecvFrom s.pkt data).raw)).isSome] <+:
      (s.step env (.udp saddr data)).log := by
  rw [step_udp_known hne hl]
  refine List.IsPrefix.trans ?_ (run_log _ _)
  -- the dispatcher runs the login; the flag is read and the decision is made
  have hdisp : Srv.__handleEventFromUdp s.st.order (Srv.doRecvFrom s.pkt data) i =
      Srv.handleClpktAuth s.st.order (Srv.doRecvFrom s.pkt data) i := by
    unfold Srv.__handleEventFromUdp
    simp only [htype]
    rw [if_neg (by decide), if_pos trivial]
  rw [hdisp]
  have hflag : Prog.run exec (Srv.loadIsAuthenticated i) ((s.world env).emit (.recv saddr data)) =
      (false, (s.world env).emit (.recv saddr data)) :=
    congrArg (·, (s.world env).emit (.recv saddr data)) hauth
  unfold Srv.handleClpktAuth
  rw [Prog.run_bind, hflag]
  simp only [Bool.false_eq_true, if_false]
  rw [Prog.run_bind]
  exact List.IsPrefix.trans (List.prefix_refl _) (run_log _
    (Prog.run exec (Srv.teavpn2Auth i (Srv.authUsername (Srv.doRecvFrom s.pkt data).raw)
      (Srv.authPassword (Srv.doRecvFrom s.pkt data).raw)) ((s.world env).emit (.recv saddr data))).2)

/-- INTERNAL: an AUTH packet whose password does not end within it: a file can be such that
one buffer makes the login succeed and another does not. -/
theorem not_leftoverFree_auth {s : Server} {saddr : Endpoint} {data : List UInt8} {i : Nat}
    (hl : lookupUdpSess s.st saddr.addr saddr.port = some i)
    (hty : datagramType data = some TCLI_PKT_AUTH)
    (hauth : (s.st.sessArr i).isAuthenticated = false)
    (hvalid : validateUsername (cstr (receivedUsername data)) = true)
    (hpass : ¬PasswordReceived data) : ¬LeftoverFree s saddr data := by
  obtain ⟨h0, hn⟩ := not_or.mp hpass
  have hne : data ≠ [] := by
    rintro rfl
    cases hty
  have htype : ∀ b, pktType (Srv.doRecvFrom b data).raw = TCLI_PKT_AUTH := by
    intro b
    rw [datagramType_eq b hne] at hty
    exact Option.some.inj hty
  set pw := receivedPassword data with hpw
  have hlen : pw.length < 255 := by
    simp only [hpw, receivedPassword, List.length_take, List.length_drop]
    omega
  -- the file has the password that was received
  let env : Env := { fopen := fun _ => some { entries := [(ascii "auth", ascii "password", pw)] } }
  have hctx : userfileParser {} (ascii "auth", ascii "password", pw) = { fpass := pw } := by
    have hcstr : cstr pw = pw := by
      have hself := cstr_append_of_not_mem h0 []
      simpa [cstr] using hself
    have hcopy : strncpy2 pw 256 = pw := by
      rw [strncpy2, hcstr, List.take_of_length_le (by omega)]
    have hdec : ascii "password" ≠ ascii "username" := by decide
    simp [userfileParser, userfileParseAuth, hdec, hcopy]
  have hdecide : ∀ b : ScPkt, (∀ j, j < 259 → b.raw j = 0) →
      (teavpn2Auth s.st.dataDir env.fopen (Srv.authUsername (Srv.doRecvFrom b data).raw)
        (Srv.authPassword (Srv.doRecvFrom b data).raw)).isSome =
      decide (Srv.authPassword (Srv.doRecvFrom b data).raw = pw) := by
    intro b hb
    unfold teavpn2Auth _teavpn2Auth
    rw [authUsername_of_zero hb, hvalid]
    simp only [env, if_true, List.foldl_cons, List.foldl_nil, hctx]
    by_cases he : Srv.authPassword (Srv.doRecvFrom b data).raw = pw
    · simp [he, Except.toOption]
    · simp [he, Except.toOption]
  have hzero : Srv.authPassword (Srv.doRecvFrom Server.zeroPkt data).raw = pw := by
    rw [authPassword_doRecvFrom, cstr_append_of_not_mem h0, cstr_read_of_zero (.inr rfl)]
    simp [hpw]
  have hone : Srv.authPassword (Srv.doRecvFrom (probe (260 + pw.length) 120) data).raw ≠ pw := by
    rw [authPassword_doRecvFrom, cstr_append_of_not_mem h0, ← hpw]
    obtain ⟨k, hk⟩ : ∃ k, 255 - pw.length = k + 1 := ⟨254 - pw.length, by omega⟩
    intro he
    have hlen' := congrArg List.length he
    simp [hk, cstr, Buf.read, List.range_succ_eq_map, probe] at hlen'
  intro hfree
  have hlog := (hfree env Server.zeroPkt (probe (260 + pw.length) 120)).2
  have h₁ := auth_logged { s with pkt := Server.zeroPkt } env hne hl (htype _) hauth
  have h₂ := auth_logged { s with pkt := probe (260 + pw.length) 120 } env hne hl (htype _) hauth
  rw [← hlog] at h₂
  have heq := (List.prefix_of_prefix_length_le h₁ h₂ (by simp)).eq_of_length (by simp)
  have hsome := (Event.auth.inj (List.singleton_inj.mp (List.append_inj' heq rfl).2)).2.2
  rw [hdecide _ (fun _ _ => rfl), hdecide _ fun j hj => ?_] at hsome
  · simp [hzero, hone] at hsome
  · exact if_neg (by omega)

/-- INTERNAL: what is written to the TUN device, and whether anything is, does not depend on
the buffer. -/
theorem LeftoverFree.tunPayload {s : Server} {saddr : Endpoint} {data : List UInt8}
    (h : LeftoverFree s saddr data) (b b' : ScPkt) {i : Nat}
    (hw : WritesFor { s with pkt := b } (.udp saddr data) i) :
    WritesFor { s with pkt := b' } (.udp saddr data) i ∧
      Analysis.tunPayload { s with pkt := b } (.udp saddr data) =
        Analysis.tunPayload { s with pkt := b' } (.udp saddr data) := by
  have hlog := congrArg (List.filter isTunWrite) (h {} b b').2
  rcases tunWrites_step { s with pkt := b } {} (.udp saddr data) with ⟨hno, _⟩ |
    ⟨slot, tried, hslot, htried, heq⟩
  · exact absurd hw (hno i)
  obtain ⟨r, rs, rfl⟩ := List.exists_cons_of_ne_nil htried
  have hi : i = slot := Option.some.inj (hw.2.2.2.symm.trans hslot.2.2.2)
  subst hi
  rcases tunWrites_step { s with pkt := b' } {} (.udp saddr data) with ⟨_, heq'⟩ |
    ⟨slot', tried', hslot', _, heq'⟩
  · rw [heq, heq'] at hlog
    simp at hlog
  · have hi : i = slot' := Option.some.inj (hw.2.2.2.symm.trans hslot'.2.2.2)
    subst hi
    rw [heq, heq'] at hlog
    have htail := List.append_cancel_left hlog
    cases tried' with
    | nil => simp at htail
    | cons r' rs' =>
      simp only [List.map_cons, List.cons.injEq, Event.tunWrite.injEq] at htail
      exact ⟨hslot', htail.1.2.2.1⟩

/-- INTERNAL: a TUN_DATA packet that announces more than it brings: what is written depends
on the first byte that was not received. -/
theorem not_leftoverFree_tun {s : Server} {saddr : Endpoint} {data : List UInt8} {i : Nat}
    (hl : lookupUdpSess s.st saddr.addr saddr.port = some i)
    (hty : datagramType data = some TCLI_PKT_TUN_DATA)
    (hshort : ¬(4 ≤ (received data).length ∧
      (datagramLen data = 0 ∨ 4 + datagramLen data ≤ (received data).length))) :
    ¬LeftoverFree s saddr data := by
  intro hfree
  have hne : data ≠ [] := by
    rintro rfl
    cases hty
  have htype : ∀ b, pktType (Srv.doRecvFrom b data).raw = TCLI_PKT_TUN_DATA := by
    intro b
    rw [datagramType_eq b hne] at hty
    exact Option.some.inj hty
  have hbehind : ∀ (b : ScPkt) j, (received data).length ≤ j →
      (Srv.doRecvFrom b data).raw j = b.raw j :=
    fun b j hj => Buf.write_of_ge _ _ (by simpa [received] using hj)
  by_cases h4 : 4 ≤ (received data).length
  · -- the data is cut off: its first byte that is missing is read from the buffer
    have hmore : datagramLen data ≠ 0 ∧ (received data).length < 4 + datagramLen data := by
      constructor
      · exact fun h0 => hshort ⟨h4, .inl h0⟩
      · exact Nat.lt_of_not_le fun hle => hshort ⟨h4, .inr hle⟩
    have hpos : pktLen (Srv.doRecvFrom Server.zeroPkt data).raw ≠ 0 := by
      intro h0
      apply hmore.1
      rw [datagramLen_eq Server.zeroPkt h4, h0]
      rfl
    have hpay := (hfree.tunPayload Server.zeroPkt (probe (received data).length 1)
      ⟨hne, htype _, hpos, hl⟩).2
    have hget := congrArg (fun l => l[(received data).length - 4]?) hpay
    have hread : ∀ b : ScPkt, (tunPayload { s with pkt := b } (.udp saddr data))[
        (received data).length - 4]? = some (b.raw (received data).length) := by
      intro b
      have hlt : (received data).length - 4 < datagramLen data := by omega
      have hoff : 4 + ((received data).length - 4) = (received data).length := by omega
      simp only [tunPayload, ← datagramLen_eq b h4, Buf.read]
      rw [List.getElem?_map, List.getElem?_range hlt]
      simp only [Option.map_some, hoff, hbehind b _ (Nat.le_refl _)]
    simp only [hread] at hget
    simp [Server.zeroPkt, probe] at hget
  · -- the header is cut off: its last byte is read from the buffer
    have hlast : ∀ b : ScPkt, (Srv.doRecvFrom b data).raw 3 = b.raw 3 :=
      fun b => hbehind b 3 (by omega)
    have hhigh : (Srv.doRecvFrom (probe 3 1) data).raw 2 =
        (Srv.doRecvFrom Server.zeroPkt data).raw 2 := by
      by_cases h3 : 2 < (received data).length
      · exact (received_doRecvFrom _ _ data).raw 2 h3
      · rw [hbehind _ 2 (by omega), hbehind _ 2 (by omega)]
        rfl
    have hval : ∀ b : ScPkt, (pktLen (Srv.doRecvFrom b data).raw).toNat =
        ((Srv.doRecvFrom b data).raw 2).toNat * 256 + (b.raw 3).toNat := by
      intro b
      have h₁ := ((Srv.doRecvFrom b data).raw 2).toNat_lt
      have h₂ := (b.raw 3).toNat_lt
      simp only [pktLen, be16, hlast, UInt16.toNat_ofNat']
      omega
    have hone := hval (probe 3 1)
    have hzero := hval Server.zeroPkt
    rw [hhigh] at hone
    have hone' : ((probe 3 1).raw 3).toNat = 1 := rfl
    have hzero' : (Server.zeroPkt.raw 3).toNat = 0 := rfl
    have hpos : pktLen (Srv.doRecvFrom (probe 3 1) data).raw ≠ 0 := by
      intro h0
      rw [h0] at hone
      simp only [UInt16.toNat_zero] at hone
      omega
    have hpay := (hfree.tunPayload (probe 3 1) Server.zeroPkt ⟨hne, htype _, hpos, hl⟩).2
    have hlen := congrArg List.length hpay
    simp only [tunPayload, Buf.length_read] at hlen
    omega

/-- INTERNAL: **a datagram is handled in the same way whatever lies behind it in the receive
buffer, exactly if it brings along what it is handled with**: the session table, the route
map, the decision on a login, the packets sent and the bytes written to the TUN device.
SOURCE: udp_epoll.c:367-385, 562-658, 715-797 -/
theorem leftoverFree_iff_selfContained (s : Server) (saddr : Endpoint) (data : List UInt8) :
    LeftoverFree s saddr data ↔ SelfContained s saddr data := by
  refine ⟨fun h i hl => ⟨fun hty hauth => ?_, fun hty => ?_⟩, leftoverFree_of_selfContained⟩
  · by_contra hcon
    obtain ⟨hvalid, hpass⟩ := not_or.mp hcon
    rw [Bool.not_eq_false] at hvalid
    exact not_leftoverFree_auth hl hty hauth hvalid hpass h
  · by_contra hcon
    exact not_leftoverFree_tun hl hty hcon h

/-- The state after the handshake of one client. -/
def oneClient : Server :=
  (Server.boot 1 [] .little Server.zeroPkt Server.zeroPkt).step {}
    (.udp ⟨0x0a000001, 1000⟩ handshakeDatagram)

/-- INTERNAL: an AUTH datagram of one byte is decided by the credentials that another
datagram left in the buffer. -/
theorem leftover_login :
    Server.Reach (fun _ env _ => env.NoEbadmsg)
      (Server.boot 1 [] .little Server.zeroPkt Server.zeroPkt) oneClient ∧
    ¬LeftoverFree oneClient ⟨0x0a000001, 1000⟩ [TCLI_PKT_AUTH] := by
  refine ⟨Server.Reach.init.step {} _ (by simp [Env.NoEbadmsg]), fun h => ?_⟩
  -- the buffer after the AUTH packet of user `u` with password `p`, and an empty one
  have hlog := (h { fopen := fun _ => some { entries := [(ascii "auth", ascii "password", ascii "p")] } }
    { len := 0, raw := (cliPprepAuth (fun _ => 0) (ascii "u") (ascii "p")).1 } Server.zeroPkt).2
  revert hlog
  decide +kernel

end TeaVpn2.Analysis
