import TeaVpn2.Analysis.EndpointView

/-!
# The client as a state machine

`do_handshake` and `do_auth` are loops around three system calls: send, wait, receive.
`CliPhase` are the places in them where the client is about to make a system call, with
the number of tries already made, and `CliPhase.prog` is the rest of the program from
there. The equations below say, for each place, which call is made and where the client is
after the answer; they are all that is used of the text of the client.
-/

set_option autoImplicit false

namespace TeaVpn2.Analysis

open TeaVpn2 TeaVpn2.Lib

/-! ## The places -/

/-- Where the client is: before the first CLOSE; in the try `c` (counted from zero) of the
handshake before its send, its `poll` and its `recvfrom`; the same in the login; before the
interface is brought up; at the end. -/
inductive CliPhase where
  | close
  | greet (c : Nat)
  | greetWait (c : Nat)
  | greetRecv (c : Nat)
  | login (c : Nat)
  | loginWait (c : Nat)
  | loginRecv (c : Nat)
  | iface
  | done (out : Cli.Outcome)
deriving DecidableEq, Repr

/-- What `do_handshake` does with the result of a try. -/
def greetVerdict (o : ByteOrder) (fuel c : Nat) (r : Int × Buf) : Cli (Int × Buf) :=
  if r.1 = -ETIMEDOUT ∧ c + 1 < Cli.maxTry then Cli.handshakeTryAgain o fuel (c + 1) r.2
  else if r.1 = -ECONNRESET then
    if c + 1 ≥ 3 then pure r else Cli.handshakeTryAgain o fuel (c + 1) r.2
  else pure r

/-- What follows the handshake. -/
def afterHandshake (o : ByteOrder) (cfg : CliCfg) (r : Int × Buf) : Cli Cli.Outcome :=
  if r.1 ≠ 0 then pure ⟨r.1, none⟩
  else do
    let (ret', _) ← Cli.doAuth o cfg r.2
    pure ⟨r.1, some ret'⟩

/-- What `wait_for_auth_response` and then `do_auth` do with the result of the check. -/
def loginVerdict (o : ByteOrder) (cfg : CliCfg) (fuel c : Nat) (r : Int × Buf) : Cli Cli.Outcome :=
  (if r.1 = 0 then Cli.bringUpIface cfg r.2 else pure r) >>= fun r =>
    (if r.1 = -ETIMEDOUT ∧ c < Cli.maxTry then Cli.authTryAgain o cfg fuel (c + 1) r.2
      else pure r) >>= fun r => pure ⟨0, some r.1⟩

/-- `waitForResponse` after its `poll`. -/
def recvChk (chk : Buf → Nat → Int × Buf) (b : Buf) : Cli (Int × Buf) := do
  match ← Cli.recvfrom with
  | .error errno => pure (-errno, b)
  | .ok data =>
      let (b, len) := Cli.recvInto b data
      pure (chk b len)

/-- The rest of the program. -/
def CliPhase.prog (o : ByteOrder) (cfg : CliCfg) : CliPhase → Buf → Cli Cli.Outcome
  | .close, b => Cli.connect o cfg b
  | .greet c, b => Cli.handshakeTryAgain o (Cli.maxTry - c) c b >>= afterHandshake o cfg
  | .greetWait c, b => (Cli.waitForHandshakeResponse o b >>= greetVerdict o (Cli.maxTry - (c + 1)) c) >>=
      afterHandshake o cfg
  | .greetRecv c, b => (recvChk (Cli.serverHandshakeChk o) b >>=
      greetVerdict o (Cli.maxTry - (c + 1)) c) >>= afterHandshake o cfg
  | .login c, b => do
      let (ret, _) ← Cli.authTryAgain o cfg (Cli.maxTry + 1 - c) c b
      pure ⟨0, some ret⟩
  | .loginWait c, b => Cli.waitForResponse (Cli.serverAuthResChk o) b >>=
      loginVerdict o cfg (Cli.maxTry + 1 - (c + 1)) c
  | .loginRecv c, b => recvChk (Cli.serverAuthResChk o) b >>=
      loginVerdict o cfg (Cli.maxTry + 1 - (c + 1)) c
  | .iface, b => do
      let (ret, _) ← Cli.bringUpIface cfg b
      pure ⟨0, some ret⟩
  | .done out, _ => pure out

/-- Where the client goes with the result of a try of the handshake. -/
def CliPhase.greeted (c : Nat) (ret : Int) : CliPhase :=
  if ret = -ETIMEDOUT ∧ c + 1 < Cli.maxTry then .greet (c + 1)
  else if ret = -ECONNRESET then if c + 1 ≥ 3 then .done ⟨ret, none⟩ else .greet (c + 1)
  else if ret ≠ 0 then .done ⟨ret, none⟩
  else .login 0

/-- Where it goes with the result of a check of the login. -/
def CliPhase.answered (c : Nat) (ret : Int) : CliPhase :=
  if ret = 0 then .iface
  else if ret = -ETIMEDOUT ∧ c < Cli.maxTry then .login (c + 1)
  else .done ⟨0, some ret⟩

variable (o : ByteOrder) (cfg : CliCfg) (b : Buf)

theorem prog_close : (CliPhase.close).prog o cfg b =
    .op (.sendto (header TCLI_PKT_CLOSE 0 0)) fun _ =>
      (CliPhase.greet 0).prog o cfg (cliPprep b TCLI_PKT_CLOSE 0 0).1 := by
  have hpkt : sent (cliPprep b TCLI_PKT_CLOSE 0 0) = header TCLI_PKT_CLOSE 0 0 :=
    sent_pprep_zero _ _ _
  rw [← hpkt]
  rfl

theorem sent_cliPprepHandshake : sent (cliPprepHandshake b) = handshakePacket :=
  sent_pprep_write _ _ _ _ _ (by simp)

/-- INTERNAL: the result of a try decides where the client goes.
SOURCE: client/linux/udp.c:481-501 -/
theorem prog_greeted {c : Nat} (r : Int × Buf) :
    greetVerdict o (Cli.maxTry - (c + 1)) c r >>= afterHandshake o cfg =
      (CliPhase.greeted c r.1).prog o cfg r.2 := by
  unfold greetVerdict CliPhase.greeted
  by_cases htime : r.1 = -ETIMEDOUT ∧ c + 1 < Cli.maxTry
  · rw [if_pos htime, if_pos htime]
    rfl
  rw [if_neg htime, if_neg htime]
  by_cases hreset : r.1 = -ECONNRESET
  · rw [if_pos hreset, if_pos hreset]
    have hne : r.1 ≠ 0 := by
      rw [hreset]
      decide
    by_cases hc : c + 1 ≥ 3
    · rw [if_pos hc, if_pos hc]
      show afterHandshake o cfg r = _
      unfold afterHandshake
      rw [if_pos hne]
      rfl
    · rw [if_neg hc, if_neg hc]
      rfl
  rw [if_neg hreset, if_neg hreset]
  show afterHandshake o cfg r = _
  unfold afterHandshake
  by_cases hzero : r.1 ≠ 0
  · rw [if_pos hzero, if_pos hzero]
    rfl
  · rw [if_neg hzero, if_neg hzero, not_not.mp hzero]
    rfl

theorem prog_greet {c : Nat} (hc : c < Cli.maxTry) : (CliPhase.greet c).prog o cfg b =
    .op (.sendto handshakePacket) fun (r : Int) =>
      if r ≥ 0 then (CliPhase.greetWait c).prog o cfg (cliPprepHandshake b).1
      else (CliPhase.done ⟨r, none⟩).prog o cfg (cliPprepHandshake b).1 := by
  have hfuel : Cli.maxTry - c = Cli.maxTry - (c + 1) + 1 := by omega
  rw [← sent_cliPprepHandshake b, CliPhase.prog, hfuel]
  refine congrArg (Prog.op (CliOp.sendto (sent (cliPprepHandshake b)))) (funext fun (r : Int) => ?_)
  show (if (if r ≥ 0 then (0 : Int) else r) ≠ 0 then
      pure ((if r ≥ 0 then (0 : Int) else r), (cliPprepHandshake b).1)
    else Cli.waitForHandshakeResponse o (cliPprepHandshake b).1 >>=
      greetVerdict o (Cli.maxTry - (c + 1)) c).bind (afterHandshake o cfg) = _
  by_cases hr : r ≥ 0
  · rw [if_pos hr, if_pos hr, if_neg (not_not.mpr rfl)]
    rfl
  · have hne : r ≠ 0 := by omega
    rw [if_neg hr, if_neg hr, if_pos hne]
    show afterHandshake o cfg (r, (cliPprepHandshake b).1) = _
    unfold afterHandshake
    rw [if_pos hne]
    rfl

theorem prog_greetWait (c : Nat) : (CliPhase.greetWait c).prog o cfg b =
    .op .poll fun (l : List (Int × Bool)) =>
      if Cli.pollFdInput l < 0 then (CliPhase.greeted c (Cli.pollFdInput l)).prog o cfg b
      else (CliPhase.greetRecv c).prog o cfg b := by
  refine congrArg (Prog.op CliOp.poll) (funext fun (l : List (Int × Bool)) => ?_)
  show ((if Cli.pollFdInput l < 0 then pure (Cli.pollFdInput l, b)
    else recvChk (Cli.serverHandshakeChk o) b : Cli (Int × Buf)) >>=
      greetVerdict o (Cli.maxTry - (c + 1)) c).bind (afterHandshake o cfg) = _
  by_cases hl : Cli.pollFdInput l < 0
  · rw [if_pos hl, if_pos hl]
    exact prog_greeted o cfg (Cli.pollFdInput l, b)
  · rw [if_neg hl, if_neg hl]
    rfl

theorem prog_greetRecv (c : Nat) : (CliPhase.greetRecv c).prog o cfg b =
    .op .recvfrom fun (r : Except Int (List UInt8)) =>
      match r with
      | .error errno => (CliPhase.greeted c (-errno)).prog o cfg b
      | .ok data =>
          let p := Cli.serverHandshakeChk o (Cli.recvInto b data).1 (Cli.recvInto b data).2
          (CliPhase.greeted c p.1).prog o cfg p.2 := by
  refine congrArg (Prog.op CliOp.recvfrom) (funext fun (r : Except Int (List UInt8)) => ?_)
  cases r with
  | error errno => exact prog_greeted o cfg (-errno, b)
  | ok data => exact prog_greeted o cfg _

/-- INTERNAL: the result of a check decides where the client goes.
SOURCE: client/linux/udp.c:566-591, 607-624 -/
theorem prog_answered {c : Nat} (r : Int × Buf) :
    loginVerdict o cfg (Cli.maxTry + 1 - (c + 1)) c r = (CliPhase.answered c r.1).prog o cfg r.2 := by
  unfold loginVerdict CliPhase.answered
  by_cases hzero : r.1 = 0
  · rw [if_pos hzero, if_pos hzero]
    refine congrArg (Prog.op (CliOp.teavpnIfaceUp _)) (funext fun (up : Bool) => ?_)
    cases up with
    | true => rfl
    | false => rfl
  rw [if_neg hzero, if_neg hzero]
  by_cases htime : r.1 = -ETIMEDOUT ∧ c < Cli.maxTry
  all_goals show (if r.1 = -ETIMEDOUT ∧ c < Cli.maxTry then
      Cli.authTryAgain o cfg (Cli.maxTry + 1 - (c + 1)) (c + 1) r.2
    else pure r : Cli (Int × Buf)) >>= (fun r => pure (⟨0, some r.1⟩ : Cli.Outcome)) = _
  · rw [if_pos htime, if_pos htime]
    rfl
  · rw [if_neg htime, if_neg htime]
    rfl

theorem prog_login {c : Nat} (hc : c < Cli.maxTry + 1) : (CliPhase.login c).prog o cfg b =
    .op (.sendto (authRequest cfg)) fun (r : Int) =>
      if r ≥ 0 then
        (CliPhase.loginWait c).prog o cfg (cliPprepAuth b cfg.username cfg.password).1
      else (CliPhase.done ⟨0, some r⟩).prog o cfg b := by
  have hfuel : Cli.maxTry + 1 - c = Cli.maxTry + 1 - (c + 1) + 1 := by omega
  have hpkt : sent (cliPprepAuth b cfg.username cfg.password) = authRequest cfg :=
    sent_cliPprepAuth b cfg.username cfg.password
  rw [← hpkt, CliPhase.prog, hfuel]
  refine congrArg (Prog.op (CliOp.sendto (sent (cliPprepAuth b cfg.username cfg.password))))
    (funext fun (r : Int) => ?_)
  set b' := (cliPprepAuth b cfg.username cfg.password).1
  show ((if (if r ≥ 0 then (0 : Int) else r) ≠ 0 then pure ((if r ≥ 0 then (0 : Int) else r), b')
    else Cli.waitForAuthResponse o cfg b' >>= fun p =>
      if p.1 = -ETIMEDOUT ∧ c < Cli.maxTry then
        Cli.authTryAgain o cfg (Cli.maxTry + 1 - (c + 1)) (c + 1) p.2
      else pure (p.1, p.2) : Cli (Int × Buf)) >>= fun p => pure (⟨0, some p.1⟩ : Cli.Outcome)) = _
  by_cases hr : r ≥ 0
  · rw [if_pos hr, if_pos hr, if_neg (not_not.mpr rfl)]
    unfold Cli.waitForAuthResponse
    rw [Prog.bind_assoc, Prog.bind_assoc]
    rfl
  · have hne : r ≠ 0 := by omega
    rw [if_neg hr, if_neg hr, if_pos hne]
    rfl

theorem prog_loginWait (c : Nat) : (CliPhase.loginWait c).prog o cfg b =
    .op .poll fun (l : List (Int × Bool)) =>
      if Cli.pollFdInput l < 0 then (CliPhase.answered c (Cli.pollFdInput l)).prog o cfg b
      else (CliPhase.loginRecv c).prog o cfg b := by
  refine congrArg (Prog.op CliOp.poll) (funext fun (l : List (Int × Bool)) => ?_)
  show (if Cli.pollFdInput l < 0 then pure (Cli.pollFdInput l, b)
    else recvChk (Cli.serverAuthResChk o) b : Cli (Int × Buf)) >>=
      loginVerdict o cfg (Cli.maxTry + 1 - (c + 1)) c = _
  by_cases hl : Cli.pollFdInput l < 0
  · rw [if_pos hl, if_pos hl]
    exact prog_answered o cfg (Cli.pollFdInput l, b)
  · rw [if_neg hl, if_neg hl]
    rfl

theorem prog_loginRecv (c : Nat) : (CliPhase.loginRecv c).prog o cfg b =
    .op .recvfrom fun (r : Except Int (List UInt8)) =>
      match r with
      | .error errno => (CliPhase.answered c (-errno)).prog o cfg b
      | .ok data =>
          let p := Cli.serverAuthResChk o (Cli.recvInto b data).1 (Cli.recvInto b data).2
          (CliPhase.answered c p.1).prog o cfg p.2 := by
  refine congrArg (Prog.op CliOp.recvfrom) (funext fun (r : Except Int (List UInt8)) => ?_)
  cases r with
  | error errno => exact prog_answered o cfg (-errno, b)
  | ok data => exact prog_answered o cfg _

theorem prog_iface : (CliPhase.iface).prog o cfg b =
    .op (.teavpnIfaceUp (Cli.ifaceInfo cfg (b.write 6 (charArray (strncpy2 cfg.dev 16) 16))))
      fun (up : Bool) => (CliPhase.done ⟨0, some (if up then 0 else -ENETDOWN)⟩).prog o cfg b := by
  refine congrArg (Prog.op (CliOp.teavpnIfaceUp _)) (funext fun (up : Bool) => ?_)
  cases up with
  | true => rfl
  | false => rfl

/-! ## What the checks make of a packet -/

/-- INTERNAL: the check of a handshake response knows three results. -/
theorem serverHandshakeChk_range (len : Nat) :
    (Cli.serverHandshakeChk o b len).1 = 0 ∨ (Cli.serverHandshakeChk o b len).1 = -ECONNRESET ∨
      (Cli.serverHandshakeChk o b len).1 = -EBADMSG := by
  unfold Cli.serverHandshakeChk
  dsimp only
  repeat' split
  all_goals simp

theorem serverAuthResChk_range (len : Nat) :
    (Cli.serverAuthResChk o b len).1 = 0 ∨ (Cli.serverAuthResChk o b len).1 = -ECONNRESET ∨
      (Cli.serverAuthResChk o b len).1 = -EBADMSG := by
  unfold Cli.serverAuthResChk
  dsimp only
  repeat' split
  all_goals simp

theorem pktType_recvInto {t : UInt8} {rest : List UInt8} :
    pktType (Cli.recvInto b (t :: rest)).1 = t := by
  have hpos : 0 < (Cli.recvInto b (t :: rest)).2 := by
    simp [Cli.recvInto, Cli.PKT_MAX_LEN]
  exact (Option.some.inj (recvInto_raw hpos)).symm

/-- INTERNAL: a CLOSE resets the connection. -/
theorem serverHandshakeChk_close :
    (Cli.serverHandshakeChk o (Cli.recvInto b closePacket).1 (Cli.recvInto b closePacket).2).1 =
      -ECONNRESET := by
  have htype : pktType (Cli.recvInto b closePacket).1 = TSRV_PKT_CLOSE := pktType_recvInto b
  unfold Cli.serverHandshakeChk
  rw [if_pos htype]

theorem serverHandshakeChk_handshake :
    (Cli.serverHandshakeChk o (Cli.recvInto b handshakePacket).1
      (Cli.recvInto b handshakePacket).2).1 = 0 :=
  (serverHandshakeChk_recvInto o b handshakePacket).mpr handshakeDatagram_packet

/-- INTERNAL: an AUTH_OK in the place of a HANDSHAKE is a bad packet. -/
theorem serverHandshakeChk_authOk {p : List UInt8} (hp : AuthOk p) :
    (Cli.serverHandshakeChk o (Cli.recvInto b p).1 (Cli.recvInto b p).2).1 = -EBADMSG := by
  obtain ⟨o', raw, iff, rfl⟩ := hp
  have htype : pktType (Cli.recvInto b (authOkPacket o' raw iff)).1 = TSRV_PKT_AUTH_OK :=
    pktType_recvInto b
  have hlen : (Cli.recvInto b (authOkPacket o' raw iff)).2 = 88 := by
    simp [Cli.recvInto, Cli.PKT_MAX_LEN, authOkPacket]
  unfold Cli.serverHandshakeChk
  rw [if_neg (by rw [htype]; decide), hlen, if_pos (by decide)]

theorem serverAuthResChk_ok {p : List UInt8} (hp : AuthOk p) :
    (Cli.serverAuthResChk o (Cli.recvInto b p).1 (Cli.recvInto b p).2).1 = 0 := by
  obtain ⟨o', raw, iff, rfl⟩ := hp
  exact (serverAuthResChk_authOk o' o raw b iff).1

end TeaVpn2.Analysis
