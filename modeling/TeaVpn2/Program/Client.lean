import TeaVpn2.Lib.Prog
import TeaVpn2.Model.Packet

/-!
# The client before its event loop (client/linux/udp.c)

`do_handshake` and `do_auth` as programs over the system calls they make. The client has
one packet buffer, which it sends from and receives into; a function takes the buffer and
returns the one it leaves, beside the value the C function returns. Messages printed to
the log are left out.
-/

set_option autoImplicit false

namespace TeaVpn2

open TeaVpn2.Lib

/-- The fields of `struct cli_cfg` that the two stages read; the arrays hold C strings. -/
structure CliCfg where
  username : List UInt8 := []
  password : List UInt8 := []
  dev : List UInt8 := []
  serverAddr : List UInt8 := []
  overrideDefault : Bool := false
deriving DecidableEq, Repr

/-! ## System calls -/

/-- What the client asks of the system. `poll` stands for the successive calls of `poll()`
in `poll_fd_input`. -/
inductive CliOp where
  | sendto (data : List UInt8)
  | poll
  | recvfrom
  | teavpnIfaceUp (iff : List UInt8)
deriving DecidableEq, Repr

/-- The answers: a result or `-errno`; the results of the calls of `poll()`, each with the
value of `state->stop` after it; a datagram or an `errno`; whether the interface is up. -/
def CliOp.Res : CliOp → Type
  | .sendto _ => Int
  | .poll => List (Int × Bool)
  | .recvfrom => Except Int (List UInt8)
  | .teavpnIfaceUp _ => Bool

/-- A piece of client code. -/
abbrev Cli := Prog CliOp CliOp.Res

namespace Cli

/-- Issue one system call. -/
abbrev act (o : CliOp) : Cli o.Res := Prog.call o

abbrev sendto (data : List UInt8) : Cli Int := act (.sendto data)
abbrev poll : Cli (List (Int × Bool)) := act .poll
abbrev recvfrom : Cli (Except Int (List UInt8)) := act .recvfrom
abbrev teavpnIfaceUp (iff : List UInt8) : Cli Bool := act (.teavpnIfaceUp iff)

def PKT_MAX_LEN : Nat := 4100

/-- udp.c:339-364: an interrupted `poll()` is called again unless the client is stopping. A
list that has run out is a `poll()` that times out. -/
def pollFdInput : List (Int × Bool) → Int
  | [] => -ETIMEDOUT
  | (ret, stop) :: rs =>
      if ret < 0 then
        if ret ≠ -EINTR then ret
        else if !stop then pollFdInput rs
        else ret
      else if ret = 0 then -ETIMEDOUT
      else ret

/-- `simple_do_recv_from(udp_fd, srv_pkt, PKT_MAX_LEN)`: the buffer and the number of bytes
received. -/
def recvInto (b : Buf) (data : List UInt8) : Buf × Nat :=
  (b.write 0 (data.take PKT_MAX_LEN), (data.take PKT_MAX_LEN).length)

/-- `srv_pkt->len = ntohs(srv_pkt->len)`, in the memory of a machine of byte order `o`. -/
def storeHostLen (o : ByteOrder) (b : Buf) : Buf := b.write 2 (hostBytes o (pktLen b))

/-! ## The handshake (udp.c:367-501) -/

/-- udp.c:367-415. -/
def serverHandshakeChk (o : ByteOrder) (b : Buf) (len : Nat) : Int × Buf :=
  if pktType b = TSRV_PKT_CLOSE then (-ECONNRESET, b)
  else if len < PKT_MIN_LEN + sizeofHandshake then (-EBADMSG, b)
  else
    let srvLen := pktLen b
    let b := storeHostLen o b
    if srvLen.toNat ≠ sizeofHandshake then (-EBADMSG, b)
    else if pktType b ≠ TSRV_PKT_HANDSHAKE then (-EBADMSG, b)
    else
      -- `cur->extra[sizeof(cur->extra) - 1] = '\0'`
      let b := b.write 35 [0]
      if b 4 ≠ VERSION ∨ b 5 ≠ PATCHLEVEL ∨ b 6 ≠ SUBLEVEL then (-EBADMSG, b)
      else (0, b)

def _doHandshake (b : Buf) : Cli (Int × Buf) := do
  let p := cliPprepHandshake b
  let sendRet ← sendto (sent p)
  pure (if sendRet ≥ 0 then 0 else sendRet, p.1)

/-- `wait_for_handshake_response` and `wait_for_auth_response` begin alike: wait for a
datagram, receive it and check it. `chk` is the check. -/
def waitForResponse (chk : Buf → Nat → Int × Buf) (b : Buf) : Cli (Int × Buf) := do
  let polled ← poll
  if pollFdInput polled < 0 then pure (pollFdInput polled, b)
  else
    match ← recvfrom with
    | .error errno => pure (-errno, b)
    | .ok data =>
        let (b, len) := recvInto b data
        pure (chk b len)

/-- udp.c:434-451. -/
def waitForHandshakeResponse (o : ByteOrder) (b : Buf) : Cli (Int × Buf) :=
  waitForResponse (serverHandshakeChk o) b

/-- udp.c:454-464. -/
def sendClosePacket (b : Buf) : Cli (Int × Buf) := do
  let p := cliPprep b TCLI_PKT_CLOSE 0 0
  let sendRet ← sendto (sent p)
  pure (if sendRet < 0 then sendRet else 0, p.1)

def maxTry : Nat := 5

/-- The loop `try_again` of `do_handshake`. The fuel is one for each of the `max_try` tries
and does not run out. -/
def handshakeTryAgain (o : ByteOrder) : Nat → Nat → Buf → Cli (Int × Buf)
  | 0, _, b => pure (-ETIMEDOUT, b)
  | fuel + 1, tryCount, b => do
      let (ret, b) ← _doHandshake b
      if ret ≠ 0 then pure (ret, b)
      else
        let (ret, b) ← waitForHandshakeResponse o b
        if ret = -ETIMEDOUT ∧ tryCount + 1 < maxTry then
          handshakeTryAgain o fuel (tryCount + 1) b
        else if ret = -ECONNRESET then
          if tryCount + 1 ≥ 3 then pure (ret, b)
          else handshakeTryAgain o fuel (tryCount + 1) b
        else pure (ret, b)

/-- udp.c:467-501: a close packet goes out first, in case there is a stale connection. -/
def doHandshake (o : ByteOrder) (b : Buf) : Cli (Int × Buf) := do
  let (_, b) ← sendClosePacket b
  handshakeTryAgain o maxTry 0 b

/-! ## Authentication (udp.c:504-624) -/

/-- udp.c:504-541. -/
def serverAuthResChk (o : ByteOrder) (b : Buf) (len : Nat) : Int × Buf :=
  if pktType b = TSRV_PKT_CLOSE then (-ECONNRESET, b)
  else if pktType b = TSRV_PKT_AUTH_REJECT then (-EBADMSG, b)
  else if pktType b ≠ TSRV_PKT_AUTH_OK then (-EBADMSG, b)
  else if len < PKT_MIN_LEN + sizeofAuthRes then (-EBADMSG, b)
  else
    let srvLen := pktLen b
    let b := storeHostLen o b
    if srvLen.toNat ≠ sizeofAuthRes then (-EBADMSG, b)
    else (0, b)

/-- The `if_info` that `bring_up_iface` hands to `teavpn_iface_up`: the one of the packet
(at offset 2 of the payload) under the configured device name, with the address of the
server as the public one where the default route is overridden. -/
def ifaceInfo (cfg : CliCfg) (b : Buf) : List UInt8 :=
  let iff2 : Buf := fun i => b (6 + i)
  let iff2 := if cfg.overrideDefault then
      iff2.write 16 (charArray (strncpy2 cfg.serverAddr 16) 16)
    else iff2
  iff2.read 0 82

/-- udp.c:544-563. -/
def bringUpIface (cfg : CliCfg) (b : Buf) : Cli (Int × Buf) := do
  let b := b.write 6 (charArray (strncpy2 cfg.dev 16) 16)
  if ← teavpnIfaceUp (ifaceInfo cfg b) then pure (0, b) else pure (-ENETDOWN, b)

/-- udp.c:566-591. -/
def waitForAuthResponse (o : ByteOrder) (cfg : CliCfg) (b : Buf) : Cli (Int × Buf) := do
  let (ret, b) ← waitForResponse (serverAuthResChk o) b
  if ret = 0 then bringUpIface cfg b else pure (ret, b)

def _doAuth (cfg : CliCfg) (b : Buf) : Cli (Int × Buf) := do
  let p := cliPprepAuth b cfg.username cfg.password
  let sendRet ← sendto (sent p)
  pure (if sendRet ≥ 0 then 0 else sendRet, p.1)

/-- The loop `try_again` of `do_auth`: here the counter is compared before it is
incremented, so there is one try more than in `do_handshake`. -/
def authTryAgain (o : ByteOrder) (cfg : CliCfg) : Nat → Nat → Buf → Cli (Int × Buf)
  | 0, _, b => pure (-ETIMEDOUT, b)
  | fuel + 1, tryCount, b => do
      let (ret, b) ← _doAuth cfg b
      if ret ≠ 0 then pure (ret, b)
      else
        let (ret, b) ← waitForAuthResponse o cfg b
        if ret = -ETIMEDOUT ∧ tryCount < maxTry then authTryAgain o cfg fuel (tryCount + 1) b
        else pure (ret, b)

/-- udp.c:607-624. -/
def doAuth (o : ByteOrder) (cfg : CliCfg) (b : Buf) : Cli (Int × Buf) :=
  authTryAgain o cfg (maxTry + 1) 0 b

/-- What `do_handshake` returned, and `do_auth` if it was called. -/
structure Outcome where
  handshake : Int
  auth : Option Int := none
deriving DecidableEq, Repr

/-- `teavpn2_client_udp_run` (udp.c:687-733) between `init_iface` and the event loop. -/
def connect (o : ByteOrder) (cfg : CliCfg) (b : Buf) : Cli Outcome := do
  let (ret, b) ← doHandshake o b
  if ret ≠ 0 then pure ⟨ret, none⟩
  else
    let (ret', _) ← doAuth o cfg b
    pure ⟨ret, some ret'⟩

end Cli

end TeaVpn2
