import TeaVpn2.Analysis.UserFiles
import TeaVpn2.Analysis.Handshake

/-!
# AUTH and AUTH_OK, from one machine to the other

An AUTH packet carries two arrays of 256 bytes, an AUTH_OK packet the memory image of an
`if_info`, built in the buffer the request was read from. The strings arrive as they were
configured, cut at 255 bytes (`credentials_arrive`). The `if_info` arrives with every
string (`ifaceUps_authOk`), but `ipv4_mtu` is copied raw, unlike the length field of the
header: `control_packets_iff` says for which machines and values it arrives.
-/

set_option autoImplicit false

namespace TeaVpn2.Analysis

open TeaVpn2 TeaVpn2.Lib

/-! ## The memory image of an `if_info` -/

/-- A C string that fits an array of sixteen bytes. -/
def Fits16 (s : List UInt8) : Prop := s.length ≤ 15 ∧ (0 : UInt8) ∉ s

theorem fits16_strncpy2 (s : List UInt8) : Fits16 (strncpy2 s 16) :=
  ⟨length_strncpy2_le s 16, zero_not_mem_strncpy2 s 16⟩

/-- Every string of the structure is terminated inside its array. -/
structure IfInfo.Terminated (iff : IfInfo) : Prop where
  dev : Fits16 iff.dev
  ipv4Pub : Fits16 iff.ipv4Pub
  ipv4 : Fits16 iff.ipv4
  ipv4Netmask : Fits16 iff.ipv4Netmask
  ipv4Dgateway : Fits16 iff.ipv4Dgateway

/-- What a machine of byte order `o'` reads where one of byte order `o` wrote `x`. -/
def crossValue (o o' : ByteOrder) (x : UInt16) : UInt16 :=
  hostValue o' ((hostBytes o x).getD 0 0) ((hostBytes o x).getD 1 0)

theorem crossValue_eq_iff (o o' : ByteOrder) (x : UInt16) :
    crossValue o o' x = x ↔ o = o' ∨ hiByte x = loByte x := by
  have hswap : be16 (loByte x) (hiByte x) = x ↔ hiByte x = loByte x := by
    constructor
    · intro h
      have hx := x.toNat_lt
      have hval := congrArg UInt16.toNat h
      apply UInt8.toNat_inj.mp
      simp only [be16, hiByte, loByte, UInt16.toNat_ofNat', UInt8.toNat_ofNat'] at hval ⊢
      omega
    · intro h
      rw [← h]
      conv_rhs => rw [← be16_bytes x, ← h]
  cases o <;> cases o' <;> simp [crossValue, hostValue, hostBytes, hswap]

/-- INTERNAL: an array in the middle of a memory image is read back. -/
theorem cstr_array {pre post s : List UInt8} {k : Nat} (hpre : pre.length = k) (hs : Fits16 s) :
    cstr (((pre ++ charArray s 16 ++ post).drop k).take 16) = s := by
  have hlen : (charArray s 16).length = 16 := length_charArray s 16
  rw [List.append_assoc, List.drop_left' hpre, List.take_left' hlen]
  exact cstr_charArray hs.2 (by have := hs.1; omega)

/-- INTERNAL: **a machine reads the image of another one**: all strings, and the MTU as the
byte orders have it. -/
theorem ofBytes_bytes (o o' : ByteOrder) {iff : IfInfo} (h : IfInfo.Terminated iff) :
    IfInfo.ofBytes o' (iff.bytes o) = { iff with ipv4Mtu := crossValue o o' iff.ipv4Mtu } := by
  have hdev : cstr ((iff.bytes o).take 16) = iff.dev := by
    simpa [IfInfo.bytes] using @cstr_array [] (charArray iff.ipv4Pub 16 ++ charArray iff.ipv4 16 ++
      charArray iff.ipv4Netmask 16 ++ charArray iff.ipv4Dgateway 16 ++ hostBytes o iff.ipv4Mtu)
      iff.dev 0 rfl h.dev
  have hpub : cstr (((iff.bytes o).drop 16).take 16) = iff.ipv4Pub := by
    simpa [IfInfo.bytes] using @cstr_array (charArray iff.dev 16) (charArray iff.ipv4 16 ++
      charArray iff.ipv4Netmask 16 ++ charArray iff.ipv4Dgateway 16 ++ hostBytes o iff.ipv4Mtu)
      iff.ipv4Pub 16 (by simp) h.ipv4Pub
  have hipv4 : cstr (((iff.bytes o).drop 32).take 16) = iff.ipv4 := by
    simpa [IfInfo.bytes] using @cstr_array (charArray iff.dev 16 ++ charArray iff.ipv4Pub 16)
      (charArray iff.ipv4Netmask 16 ++ charArray iff.ipv4Dgateway 16 ++ hostBytes o iff.ipv4Mtu)
      iff.ipv4 32 (by simp) h.ipv4
  have hmask : cstr (((iff.bytes o).drop 48).take 16) = iff.ipv4Netmask := by
    simpa [IfInfo.bytes] using @cstr_array
      (charArray iff.dev 16 ++ charArray iff.ipv4Pub 16 ++ charArray iff.ipv4 16)
      (charArray iff.ipv4Dgateway 16 ++ hostBytes o iff.ipv4Mtu)
      iff.ipv4Netmask 48 (by simp) h.ipv4Netmask
  have hgw : cstr (((iff.bytes o).drop 64).take 16) = iff.ipv4Dgateway := by
    simpa [IfInfo.bytes] using @cstr_array
      (charArray iff.dev 16 ++ charArray iff.ipv4Pub 16 ++ charArray iff.ipv4 16 ++
        charArray iff.ipv4Netmask 16) (hostBytes o iff.ipv4Mtu)
      iff.ipv4Dgateway 64 (by simp) h.ipv4Dgateway
  have hmtu : ∀ j, j < 2 → (iff.bytes o).getD (80 + j) 0 = (hostBytes o iff.ipv4Mtu).getD j 0 := by
    intro j hj
    have hlen : (charArray iff.dev 16 ++ charArray iff.ipv4Pub 16 ++ charArray iff.ipv4 16 ++
        charArray iff.ipv4Netmask 16 ++ charArray iff.ipv4Dgateway 16).length = 80 := by simp
    rw [IfInfo.bytes, List.getD_eq_getElem?_getD, List.getElem?_append_right (by omega), hlen,
      Nat.add_sub_cancel_left, List.getD_eq_getElem?_getD]
  unfold IfInfo.ofBytes crossValue
  rw [hdev, hpub, hipv4, hmask, hgw, hmtu 0 (by omega), hmtu 1 (by omega)]

/-- INTERNAL: what the entries of a user file leave is terminated. -/
theorem ifaceSettings_terminated (file : IniFile) : IfInfo.Terminated (ifaceSettings file) := by
  have hempty : Fits16 [] := ⟨by simp, by simp⟩
  have hstep : ∀ (ctx : UserParseCtx) (name val : List UInt8), IfInfo.Terminated ctx.iff →
      IfInfo.Terminated (userfileParseIface ctx name val).iff := by
    intro ctx name val h
    have hval := fits16_strncpy2 val
    unfold userfileParseIface
    split
    · exact ⟨h.dev, h.ipv4Pub, h.ipv4, h.ipv4Netmask, h.ipv4Dgateway⟩
    split
    · exact ⟨h.dev, h.ipv4Pub, hval, h.ipv4Netmask, h.ipv4Dgateway⟩
    split
    · exact ⟨h.dev, h.ipv4Pub, h.ipv4, hval, h.ipv4Dgateway⟩
    split
    · exact ⟨h.dev, h.ipv4Pub, h.ipv4, h.ipv4Netmask, hval⟩
    · exact h
  have hfold : ∀ (l : List IniEntry) (ctx : UserParseCtx), IfInfo.Terminated ctx.iff →
      IfInfo.Terminated (l.foldl (fun ctx e => userfileParseIface ctx e.2.1 e.2.2) ctx).iff := by
    intro l
    induction l with
    | nil => exact fun ctx h => h
    | cons e l ih => exact fun ctx h => ih _ (hstep ctx e.2.1 e.2.2 h)
  exact hfold _ {} ⟨hempty, hempty, hempty, hempty, hempty⟩

theorem terminated_of_teavpn2Auth {dataDir : List UInt8} {fopen : List UInt8 → Option IniFile}
    {username password : List UInt8} {iff : IfInfo}
    (h : teavpn2Auth dataDir fopen username password = some iff) : IfInfo.Terminated iff := by
  rw [teavpn2Auth_eq_call dataDir fopen username password {}] at h
  rcases teavpn2AuthCall_spec dataDir fopen username password {} with
    ⟨hret, _, file, _, _, _, hiff⟩ | ⟨hret, _⟩
  · rw [hret, hiff] at h
    cases h
    exact ifaceSettings_terminated file
  · rw [hret] at h
    cases h

/-! ## The request -/

theorem sent_cliPprepAuth (b : Buf) (user pass : List UInt8) :
    sent (cliPprepAuth b user pass) = header TCLI_PKT_AUTH 512 0 ++
      (charArray (strncpy2 user 256) 256 ++ charArray (strncpy2 pass 256) 256) :=
  sent_pprep_write b _ _ _ _ (by simp)

/-- INTERNAL: the server reads the payload of a datagram that fits its buffer. -/
theorem read_received (pkt : ScPkt) {d : List UInt8} {i n : Nat} (hd : d.length ≤ 4096)
    (h : i + n ≤ d.length) : (Srv.doRecvFrom pkt d).raw.read i n = (d.drop i).take n := by
  have hread := @Buf.read_write_within pkt.raw 0 i n d h
  rw [Nat.zero_add] at hread
  simpa [Srv.doRecvFrom, List.take_of_length_le hd] using hread

/-- INTERNAL: **the credentials arrive as they were configured**, cut at 255 bytes, whatever
the two buffers held.
SOURCE: client/linux/udp.h:193-202; udp_epoll.c:568-589 -/
theorem credentials_arrive (cbuf : Buf) (user pass : List UInt8) (pkt : ScPkt) :
    let raw := (Srv.doRecvFrom pkt (sent (cliPprepAuth cbuf user pass))).raw
    Srv.authUsername raw = (cstr user).take 255 ∧ Srv.authPassword raw = (cstr pass).take 255 := by
  intro raw
  have hlen : (sent (cliPprepAuth cbuf user pass)).length = 516 := by
    rw [sent_cliPprepAuth]
    simp
  have hread := fun i (h : i + 255 ≤ 516) =>
    @read_received pkt (sent (cliPprepAuth cbuf user pass)) i 255 (by omega) (by omega)
  have hstr := fun s => @cstr_take_charArray (strncpy2 s 256) 255 256 (zero_not_mem_strncpy2 s 256)
    (length_strncpy2_le s 256) (by omega)
  have harr := fun s => length_charArray (strncpy2 s 256) 256
  constructor
  · have hdrop : (sent (cliPprepAuth cbuf user pass)).drop 4 =
        charArray (strncpy2 user 256) 256 ++ charArray (strncpy2 pass 256) 256 := by
      rw [sent_cliPprepAuth]
      exact List.drop_left' rfl
    rw [Srv.authUsername, hread 4 (by omega), hdrop,
      List.take_append_of_le_length (by rw [harr]; omega)]
    exact hstr user
  · have hdrop : (sent (cliPprepAuth cbuf user pass)).drop 260 =
        charArray (strncpy2 pass 256) 256 := by
      rw [sent_cliPprepAuth, ← List.append_assoc]
      apply List.drop_left'
      simp
    rw [Srv.authPassword, hread 260 (by omega), hdrop]
    exact hstr pass

/-! ## The reply -/

/-- The AUTH_OK packet that is built in the buffer `b`. -/
def authOkPacket (o : ByteOrder) (b : Buf) (iff : IfInfo) : List UInt8 :=
  header TSRV_PKT_AUTH_OK 84 0 ++ ([b 4, b 5] ++ iff.bytes o)

theorem sent_authOk (o : ByteOrder) (b : Buf) (iff : IfInfo) :
    sent (srvPprep (b.write 6 (iff.bytes o)) TSRV_PKT_AUTH_OK (UInt16.ofNat sizeofAuthRes) 0) =
      authOkPacket o b iff := by
  have hread : (b.write 6 (iff.bytes o)).read 4 84 = [b 4, b 5] ++ iff.bytes o := by
    have hsame := Buf.read_write_same b 6 (iff.bytes o)
    rw [length_ifInfo_bytes] at hsame
    rw [show 84 = 2 + 82 from rfl, Buf.read_add, Buf.read_write_disjoint _ _ (.inr (by omega)),
      hsame]
    rfl
  unfold srvPprep
  rw [sent_pprep]
  exact congrArg (header TSRV_PKT_AUTH_OK 84 0 ++ ·) hread

theorem sentBy_loadIsAuthenticated {α : Type} (i : Nat) (k : Bool → Srv α) (w : World) :
    sentBy (Srv.loadIsAuthenticated i >>= k) w = sentBy (k (w.sess i).isAuthenticated) w := by
  rw [sentBy, Prog.run_bind]
  rfl

theorem sentBy_teavpn2Auth {α : Type} (i : Nat) (u p : List UInt8) (k : Option IfInfo → Srv α)
    (w : World) : sentBy (Srv.teavpn2Auth i u p >>= k) w =
      sentBy (k (teavpn2Auth w.st.dataDir w.env.fopen u p))
        (w.emit (.auth i (w.sess i).key (teavpn2Auth w.st.dataDir w.env.fopen u p).isSome)) := by
  have hnone : sentBy (Srv.teavpn2Auth i u p) w = [] := by
    show ((w.log ++ [_]).drop w.log.length).filterMap Event.sentData = []
    rw [List.drop_left]
    rfl
  rw [sentBy_bind, hnone]
  rfl

/-- INTERNAL: accepted credentials are answered with an AUTH_OK.
SOURCE: udp_epoll.c:562-610 -/
theorem sentBy_handleClpktAuth (o : ByteOrder) (pkt : ScPkt) (i : Nat) (w : World) {iff : IfInfo}
    (hauth : (w.sess i).isAuthenticated = false)
    (hacc : teavpn2Auth w.st.dataDir w.env.fopen (Srv.authUsername pkt.raw)
      (Srv.authPassword pkt.raw) = some iff) :
    ∃ rest, sentBy (Srv.handleClpktAuth o pkt i) w = authOkPacket o pkt.raw iff :: rest := by
  unfold Srv.handleClpktAuth
  rw [sentBy_loadIsAuthenticated, hauth]
  simp only [Bool.false_eq_true, if_false]
  rw [sentBy_teavpn2Auth, hacc]
  dsimp only
  rw [sentBy_bind, sentBy_sendToClient, sent_authOk]
  exact ⟨_, rfl⟩

/-- A client that finds the datagram `d` in its socket and can bring up interfaces; the
state is the list of the `if_info`s brought up. -/
def answering (d : List UInt8) : (o : CliOp) → List (List UInt8) → o.Res × List (List UInt8)
  | .sendto data, l => ((data.length : Int), l)
  | .poll, l => ([(1, false)], l)
  | .recvfrom, l => (.ok d, l)
  | .teavpnIfaceUp iff, l => (true, l ++ [iff])

/-- The contents of `cfg.iface.iff` after `wait_for_auth_response` has received `d`, as the
client's machine reads them. -/
def ifaceUps (o : ByteOrder) (cfg : CliCfg) (buf : Buf) (d : List UInt8) : List IfInfo :=
  ((Cli.waitForAuthResponse o cfg buf).run (answering d) []).2.map (IfInfo.ofBytes o)

theorem run_waitForResponse (chk : Buf → Nat → Int × Buf) (buf : Buf) (d : List UInt8)
    (l : List (List UInt8)) :
    (Cli.waitForResponse chk buf).run (answering d) l =
      (chk (Cli.recvInto buf d).1 (Cli.recvInto buf d).2, l) := rfl

theorem run_bringUpIface (cfg : CliCfg) (b : Buf) (d : List UInt8) (l : List (List UInt8)) :
    ((Cli.bringUpIface cfg b).run (answering d) l).2 =
      l ++ [Cli.ifaceInfo cfg (b.write 6 (charArray (strncpy2 cfg.dev 16) 16))] := rfl

/-- INTERNAL: the check of an AUTH_OK packet succeeds and leaves its payload in place.
SOURCE: client/linux/udp.c:504-541 -/
theorem serverAuthResChk_authOk (o o' : ByteOrder) (raw buf : Buf) (iff : IfInfo) :
    let d := authOkPacket o raw iff
    (Cli.serverAuthResChk o' (Cli.recvInto buf d).1 (Cli.recvInto buf d).2).1 = 0 ∧
    ∀ n, n ≤ 66 → (Cli.serverAuthResChk o' (Cli.recvInto buf d).1 (Cli.recvInto buf d).2).2.read
      22 n = ((iff.bytes o).drop 16).take n := by
  intro d
  have hlen : d.length = 88 := by
    simp [d, authOkPacket]
  have htake : d.take Cli.PKT_MAX_LEN = d := List.take_of_length_le (by rw [hlen]; decide)
  have hrecv : Cli.recvInto buf d = (buf.write 0 d, 88) := by
    rw [Cli.recvInto, htake, hlen]
  have hbyte : ∀ j c, d[j]? = some c → (buf.write 0 d) j = c := by
    intro j c hc
    have hj : j < d.length := (List.getElem?_eq_some_iff.mp hc).1
    rw [Buf.write_of_mem _ _ (Nat.zero_le j) (by omega), Nat.sub_zero, List.getD_eq_getElem?_getD,
      hc, Option.getD_some]
  have htype : pktType (buf.write 0 d) = TSRV_PKT_AUTH_OK := hbyte 0 _ rfl
  have hfield : (pktLen (buf.write 0 d)).toNat = sizeofAuthRes := by
    rw [pktLen, hbyte 2 _ rfl, hbyte 3 _ rfl]
    rfl
  have hchk : Cli.serverAuthResChk o' (buf.write 0 d) 88 =
      (0, Cli.storeHostLen o' (buf.write 0 d)) := by
    unfold Cli.serverAuthResChk
    rw [htype, if_neg (by decide), if_neg (by decide), if_neg (by decide), if_neg (by decide)]
    dsimp only
    rw [if_neg (not_not.mpr hfield)]
  rw [hrecv, hchk]
  refine ⟨rfl, fun n hn => ?_⟩
  have hread := @Buf.read_write_within buf 0 22 n d (by omega)
  rw [Nat.zero_add] at hread
  rw [Cli.storeHostLen, Buf.read_write_disjoint _ _ (.inl (by rw [length_hostBytes]; omega)), hread]
  rfl

/-- INTERNAL: **the interface the client brings up is the one of the packet**, under the
name of its own device.
SOURCE: client/linux/udp.c:544-591 -/
theorem ifaceUps_authOk (o o' : ByteOrder) {cfg : CliCfg} (hover : cfg.overrideDefault = false)
    (raw buf : Buf) {iff : IfInfo} (h : IfInfo.Terminated iff) :
    ifaceUps o' cfg buf (authOkPacket o raw iff) =
      [{ iff with dev := strncpy2 cfg.dev 16, ipv4Mtu := crossValue o o' iff.ipv4Mtu }] := by
  obtain ⟨hzero, hread⟩ := serverAuthResChk_authOk o o' raw buf iff
  -- the check succeeds, so the run is the one of `bring_up_iface`
  have hrun : ((Cli.waitForAuthResponse o' cfg buf).run (answering (authOkPacket o raw iff)) []).2 =
      [Cli.ifaceInfo cfg ((Cli.serverAuthResChk o' (Cli.recvInto buf (authOkPacket o raw iff)).1
        (Cli.recvInto buf (authOkPacket o raw iff)).2).2.write 6
          (charArray (strncpy2 cfg.dev 16) 16))] := by
    unfold Cli.waitForAuthResponse
    rw [Prog.run_bind, run_waitForResponse]
    dsimp only
    rw [if_pos hzero, run_bringUpIface, List.nil_append]
  have hinfo : ∀ b : Buf, b.read 22 66 = (iff.bytes o).drop 16 →
      Cli.ifaceInfo cfg (b.write 6 (charArray (strncpy2 cfg.dev 16) 16)) =
        ({ iff with dev := strncpy2 cfg.dev 16 } : IfInfo).bytes o := by
    intro b hb
    have hsame := Buf.read_write_same b 6 (charArray (strncpy2 cfg.dev 16) 16)
    rw [length_charArray] at hsame
    have hshift : ∀ c : Buf, Buf.read (fun i => c (6 + i)) 0 82 = c.read 6 82 := by
      intro c
      simp [Buf.read]
    unfold Cli.ifaceInfo
    simp only [hover, Bool.false_eq_true, if_false]
    rw [hshift, show 82 = 16 + 66 from rfl, Buf.read_add, hsame,
      Buf.read_write_disjoint _ _ (.inl (Nat.le_of_eq (by rw [length_charArray]))), hb]
    simp [IfInfo.bytes]
  have hterm : IfInfo.Terminated { iff with dev := strncpy2 cfg.dev 16 } :=
    ⟨fits16_strncpy2 cfg.dev, h.ipv4Pub, h.ipv4, h.ipv4Netmask, h.ipv4Dgateway⟩
  have hall : ((iff.bytes o).drop 16).take 66 = (iff.bytes o).drop 16 :=
    List.take_of_length_le (by simp)
  rw [ifaceUps, hrun, List.map_singleton, hinfo _ ((hread 66 (Nat.le_refl _)).trans hall),
    ofBytes_bytes o o' hterm]

/-- The contents of the control packets arrive: the credentials at the server, cut at 255
bytes, and at the client the `if_info` of the server in every field but the device. -/
structure ControlFaithful (o o' : ByteOrder) (cfg : CliCfg) (cbuf buf : Buf) (pkt : ScPkt)
    (i : Nat) (w : World) (iff : IfInfo) : Prop where
  username : Srv.authUsername (Srv.doRecvFrom pkt (sent (cliPprepAuth cbuf cfg.username
    cfg.password))).raw = (cstr cfg.username).take 255
  password : Srv.authPassword (Srv.doRecvFrom pkt (sent (cliPprepAuth cbuf cfg.username
    cfg.password))).raw = (cstr cfg.password).take 255
  iface : ∃ reply rest, sentBy (Srv.handleClpktAuth o (Srv.doRecvFrom pkt (sent (cliPprepAuth cbuf
      cfg.username cfg.password))) i) w = reply :: rest ∧
    ∃ dev, ifaceUps o' cfg buf reply = [{ iff with dev := dev }]

/-- INTERNAL: **exactly when the control packets carry their contents.** For every
configuration of the client, all buffers and every `if_info` that `teavpn2_auth` returns:
the contents arrive if and only if the two machines have the same byte order or the two
bytes of the MTU are equal.
SOURCE: client/linux/udp.h:166-202; udp_epoll.c:562-610; client/linux/udp.c:504-564 -/
theorem control_packets_iff (o o' : ByteOrder) {cfg : CliCfg} (hover : cfg.overrideDefault = false)
    (cbuf buf : Buf) (pkt : ScPkt) (i : Nat) (w : World) {iff : IfInfo}
    (hsess : (w.sess i).isAuthenticated = false)
    (hacc : teavpn2Auth w.st.dataDir w.env.fopen ((cstr cfg.username).take 255)
      ((cstr cfg.password).take 255) = some iff) :
    ControlFaithful o o' cfg cbuf buf pkt i w iff ↔
      o = o' ∨ hiByte iff.ipv4Mtu = loByte iff.ipv4Mtu := by
  obtain ⟨huser, hpass⟩ := credentials_arrive cbuf cfg.username cfg.password pkt
  have hacc' := hacc
  rw [← huser, ← hpass] at hacc'
  obtain ⟨rest, hreply⟩ := sentBy_handleClpktAuth o _ i w hsess hacc'
  have hups := fun raw => ifaceUps_authOk o o' hover raw buf (terminated_of_teavpn2Auth hacc)
  rw [← crossValue_eq_iff]
  constructor
  · rintro ⟨_, _, reply, rest', hreply', dev, hdev⟩
    rw [hreply, List.cons_eq_cons] at hreply'
    rw [← hreply'.1, hups, List.cons_eq_cons] at hdev
    exact congrArg IfInfo.ipv4Mtu hdev.1
  · intro hmtu
    refine ⟨huser, hpass, _, rest, hreply, strncpy2 cfg.dev 16, ?_⟩
    rw [hups, hmtu]

/-- A user file with an MTU of 1500. -/
def mtuFile : IniFile where
  entries := [(ascii "auth", ascii "password", ascii "secret"),
    (ascii "iface", ascii "mtu", ascii "1500")]

/-- A server with one user and no session. -/
def mtuWorld : World where
  st := initState 1 [] .little
  env := { fopen := fun _ => some mtuFile }

def mtuCfg : CliCfg := { username := ascii "bob", password := ascii "secret", dev := ascii "tun0" }

theorem control_packets_same_order :
    ControlFaithful .little .little mtuCfg (fun _ => 0) (fun _ => 0) Server.zeroPkt 0 mtuWorld
      { ipv4Mtu := 1500 } := by
  have hacc : teavpn2Auth mtuWorld.st.dataDir mtuWorld.env.fopen ((cstr mtuCfg.username).take 255)
      ((cstr mtuCfg.password).take 255) = some { ipv4Mtu := 1500 } := by decide
  exact (control_packets_iff .little .little rfl (fun _ => 0) (fun _ => 0) Server.zeroPkt 0 mtuWorld
    rfl hacc).mpr (.inl rfl)

/-- On machines of different byte order an MTU of 1500 arrives as 56325. -/
theorem control_packets_swapped_mtu :
    ¬ControlFaithful .little .big mtuCfg (fun _ => 0) (fun _ => 0) Server.zeroPkt 0 mtuWorld
      { ipv4Mtu := 1500 } := by
  rintro ⟨_, _, reply, rest, hreply, dev, hdev⟩
  have hmtu : ((sentBy (Srv.handleClpktAuth .little (Srv.doRecvFrom Server.zeroPkt (sent
      (cliPprepAuth (fun _ => 0) mtuCfg.username mtuCfg.password))) 0) mtuWorld).map fun d =>
        (ifaceUps .big mtuCfg (fun _ => 0) d).map IfInfo.ipv4Mtu) = [[56325]] := by decide +kernel
  rw [hreply] at hmtu
  simp [hdev] at hmtu

end TeaVpn2.Analysis
