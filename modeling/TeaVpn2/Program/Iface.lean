import TeaVpn2.Lib.Prog
import TeaVpn2.Model.Packet

/-!
# The configuration of the virtual interface (net/linux/iface.c)

`teavpn_iface_toggle` turns the texts of an `if_info` into `ip` commands and runs them.
The part that computes (`ifaceTexts`) is a function; the rest is a program over the calls
it makes. Every call of `escapeshellarg` is one of the operations, so that a trace shows
what was stored where.

The local arrays are represented by the C strings in them. What a store behind the end of
an array does to the rest of the stack is not modelled: the texts below are the ones the
code would compute with room enough, and whether there is room is said by `Escaped.Fits`
and `SnprintfAt.lastIndex`.
-/

set_option autoImplicit false

namespace TeaVpn2

open TeaVpn2.Lib

namespace Iface

/-! ## Sizes (iface.c:292-294, common.h:69-93) -/

def IPV4_L : Nat := 16
def IPV4_EL : Nat := IPV4_L * 2
def IPV4_LI : Nat := IPV4_L + 1
def IPV4_ELI : Nat := IPV4_EL + 1
def IFACENAMESIZ : Nat := 16

/-! ## The C library -/

def strlen (s : List UInt8) : Nat := (cstr s).length

theorem strlen_eq_length {s : List UInt8} (h : (0 : UInt8) ∉ s) : strlen s = s.length := by
  rw [strlen, cstr_eq_self h]

def strnlen (s : List UInt8) (n : Nat) : Nat := min (strlen s) n

/-- `*s != '\0'`. -/
def nonEmpty (s : List UInt8) : Bool := s.headD 0 != 0

/-- iface.c:87-93: at most `len - 1` bytes of `src`. -/
def saneStrncpy (src : List UInt8) (len : Nat) : List UInt8 := strncpy2 src len

/-- `strstr(hay, needle)`: the text from the first occurrence on. -/
def strstr : List UInt8 → List UInt8 → Option (List UInt8)
  | [], needle => if needle = [] then some [] else none
  | c :: cs, needle => if needle.isPrefixOf (c :: cs) then some (c :: cs) else strstr cs needle

/-- The loop of `inet_pton(AF_INET, ...)`: four numbers of at most three digits up to 255,
without leading zeros, with dots between them. `octets` are the numbers before the current
one, which is `none` before its first digit. -/
def inetPtonLoop : List UInt8 → List Nat → Option Nat → Option (List Nat)
  | [], octets, some v => if octets.length = 3 then some (octets ++ [v]) else none
  | [], _, none => none
  | c :: cs, octets, cur =>
      if isdigit c then
        match cur with
        | none => inetPtonLoop cs octets (some (digitVal c))
        | some v =>
            if v = 0 then none
            else if v * 10 + digitVal c > 255 then none
            else inetPtonLoop cs octets (some (v * 10 + digitVal c))
      else if c = 46 then
        match cur with
        | none => none
        | some v => if octets.length = 3 then none else inetPtonLoop cs (octets ++ [v]) none
      else none

/-- `inet_pton(AF_INET, s, ...)`: the address, its first number most significant. -/
def inetPton (s : List UInt8) : Option UInt32 :=
  (inetPtonLoop (cstr s) [] none).map fun octets =>
    UInt32.ofNat (octets.foldl (fun acc v => acc * 256 + v) 0)

example : inetPton (ascii "10.5.5.2") = some 0x0a050502 := by decide

example : inetPton (ascii "10.5.05.2") = none := by decide

/-! ## Big-endian words -/

/-- The four bytes of a word in the other order. -/
def bswap32 (x : UInt32) : UInt32 :=
  ((x &&& 0xff) <<< 24) ||| (((x >>> 8) &&& 0xff) <<< 16) ||| (((x >>> 16) &&& 0xff) <<< 8) |||
    (x >>> 24)

/-- The `uint32_t` that a machine of byte order `o` reads from the memory of an address. -/
def htonl (o : ByteOrder) (x : UInt32) : UInt32 :=
  match o with
  | .little => bswap32 x
  | .big => x

def ntohl (o : ByteOrder) (x : UInt32) : UInt32 := htonl o x

/-! ## Quoting (iface.c:102-161, 311-314) -/

/-- What a call of `escapeshellarg` leaves: the C string in `cmd`, `*res_len`, and the size
of the memory that `cmd` points to. -/
structure Escaped where
  cmd : List UInt8
  resLen : Nat
  room : Nat
deriving DecidableEq, Repr

/-- The string and its terminator are inside the memory. -/
def Escaped.Fits (e : Escaped) : Prop := e.cmd.length + 1 ≤ e.room

instance (e : Escaped) : Decidable e.Fits := inferInstanceAs (Decidable (_ ≤ _))

/-- The `for` loop: a quote becomes `'\''`, every other byte itself. -/
def escapeLoop : List UInt8 → List UInt8 → List UInt8
  | [], cmd => cmd
  | c :: cs, cmd =>
      if c = 39 then escapeLoop cs (cmd ++ [39, 92, 39] ++ [c]) else escapeLoop cs (cmd ++ [c])

/-- `escapeshellarg` outside Windows. `alloc` is the size of the array the caller gives, or
`none` where the caller gives `NULL` and the function allocates. -/
def escapeshellarg (alloc : Option Nat) (str : List UInt8) (len : Nat) : Escaped :=
  let l := if len > 0 then len else strlen str
  let room := match alloc with
    | none => l * 4 + 1
    | some n => n
  let cmd := escapeLoop (str.take l) [39] ++ [39]
  { cmd := cmd, resLen := cmd.length, room := room }

example : (escapeshellarg none (ascii "it's") 4).cmd = ascii "'it'\\''s'" := by decide

/-! ## The texts (iface.c:390-456) -/

/-- What an `snprintf` to the middle of an array leaves: the C string `text` at `off`. -/
structure SnprintfAt where
  off : Nat
  text : List UInt8
deriving DecidableEq, Repr

/-- The index of the terminator, the last byte written. -/
def SnprintfAt.lastIndex (w : SnprintfAt) : Nat := w.off + w.text.length

/-- `snprintf(text + strnlen(text, IPV4_L), IPV4_L, "/%u", cidr)`. -/
def addCidr (text : List UInt8) (cidr : UInt8) : SnprintfAt where
  off := strnlen text IPV4_L
  text := snprintf IPV4_L (ascii "/" ++ decimal cidr.toNat)

/-- The loop `while (tmp) { cidr++; tmp >>= 1; }`. The fuel is one for each bit of the word
and does not run out. -/
def cidrLoop : Nat → UInt32 → UInt8 → UInt8
  | 0, _, cidr => cidr
  | fuel + 1, tmp, cidr => if tmp = 0 then cidr else cidrLoop fuel (tmp >>> 1) (cidr + 1)

/-- The texts the commands are built from. `uipv4` and `uipv4Nw` are the strings after
`/cidr` was added, by the writes `addIpv4` and `addNw`. -/
structure IfaceTexts where
  cidr : UInt8
  addIpv4 : SnprintfAt
  addNw : SnprintfAt
  uipv4 : List UInt8
  uipv4Nw : List UInt8
  uipv4Bc : List UInt8
deriving DecidableEq, Repr

/-- iface.c:390-456, up to the first escape; `none` where the function returns `false`. The
array of `inet_ntop` has room for every address, so it does not fail. -/
def ifaceTexts (o : ByteOrder) (iface : IfInfo) : Option IfaceTexts :=
  let uipv4 := saneStrncpy iface.ipv4 IPV4_LI
  let uipv4Nm := saneStrncpy iface.ipv4Netmask IPV4_LI
  match inetPton uipv4Nm with
  | none => none
  | some nm =>
      let bipv4Nm := htonl o nm
      let cidr := cidrLoop 32 bipv4Nm 0
      if cidr > 32 then none
      else
        match inetPton uipv4 with
        | none => none
        | some addr =>
            let bipv4 := htonl o addr
            let addIpv4 := addCidr uipv4 cidr
            let bipv4Nw := bipv4 &&& bipv4Nm
            let bipv4Bc := bipv4Nw ||| ~~~bipv4Nm
            let uipv4Nw := inetNtop (ntohl o bipv4Nw)
            let addNw := addCidr uipv4Nw cidr
            some { cidr := cidr
                   addIpv4 := addIpv4
                   addNw := addNw
                   uipv4 := uipv4.take addIpv4.off ++ addIpv4.text
                   uipv4Nw := uipv4Nw.take addNw.off ++ addNw.text
                   uipv4Bc := inetNtop (ntohl o bipv4Bc) }

/-! ## The commands -/

/-- The commands of `ip` that the function runs, with their escaped arguments. -/
inductive IpCmd where
  | link (edev : List UInt8) (up : Bool) (mtu : UInt16)
  | addr (up : Bool) (edev eipv4 eipv4Bc : List UInt8)
  | route (up : Bool) (dest via : List UInt8)
deriving DecidableEq, Repr

def addOrDelete (up : Bool) : List UInt8 := if up then ascii "add" else ascii "delete"

/-- The text behind the name of the program. -/
def IpCmd.text : IpCmd → List UInt8
  | .link edev up mtu =>
      ascii "link set dev " ++ edev ++ ascii " " ++ (if up then ascii "up" else ascii "down") ++
        ascii " mtu " ++ decimal mtu.toNat
  | .addr up edev eipv4 eipv4Bc =>
      ascii "addr " ++ addOrDelete up ++ ascii " dev " ++ edev ++ ascii " " ++ eipv4 ++
        ascii " broadcast " ++ eipv4Bc
  | .route up dest via =>
      ascii "route " ++ addOrDelete up ++ ascii " " ++ dest ++ ascii " via " ++ via

/-- The command adds an address or a route. -/
def IpCmd.isAdd : IpCmd → Bool
  | .link _ _ _ => false
  | .addr up _ _ _ => up
  | .route up _ _ => up

/-- The delete command for the same address or route. -/
def IpCmd.undo : IpCmd → IpCmd
  | .link edev _ mtu => .link edev false mtu
  | .addr _ edev eipv4 eipv4Bc => .addr false edev eipv4 eipv4Bc
  | .route _ dest via => .route false dest via

/-! ## System calls -/

/-- What the function asks of the system, and the stores of `escapeshellarg`. The line of
`system` is the text given to the shell; the command says what it is the text of. -/
inductive IfaceOp where
  | access (path : List UInt8)
  | system (cmd : IpCmd) (line : List UInt8)
  | popen (line : List UInt8)
  | stored (e : Escaped)
deriving DecidableEq, Repr

/-- The answers: the results of `access` and `system`; the output of a command, `none` where
`popen` fails. -/
def IfaceOp.Res : IfaceOp → Type
  | .access _ => Int
  | .system _ _ => Int
  | .popen _ => Option (List UInt8)
  | .stored _ => Unit

/-- A piece of interface code. -/
abbrev IfaceProg := Prog IfaceOp IfaceOp.Res

/-- Issue one operation. -/
abbrev issue (o : IfaceOp) : IfaceProg o.Res := Prog.call o

abbrev access (path : List UInt8) : IfaceProg Int := issue (.access path)
abbrev system (cmd : IpCmd) (line : List UInt8) : IfaceProg Int := issue (.system cmd line)
abbrev popen (line : List UInt8) : IfaceProg (Option (List UInt8)) := issue (.popen line)
abbrev stored (e : Escaped) : IfaceProg Unit := issue (.stored e)

/-! ## Helpers of the function -/

/-- `simple_esc_arg` into an array of `room` bytes. -/
def simpleEscArg (room : Nat) (str : List UInt8) : IfaceProg (List UInt8) := do
  let e := escapeshellarg (some room) str (strlen str)
  stored e
  pure e.cmd

def ipBin : List (List UInt8) :=
  [ascii "/bin/ip", ascii "/sbin/ip", ascii "/usr/bin/ip", ascii "/usr/sbin/ip",
    ascii "/usr/local/bin/ip", ascii "/usr/local/sbin/ip",
    ascii "/data/data/com.termux/files/usr/bin/ip"]

/-- The loop of `find_ip_cmd` (iface.c:317-340). -/
def findIpIn : List (List UInt8) → IfaceProg (Option (List UInt8))
  | [] => pure none
  | path :: rest => do
      let ret ← access path
      if ret = 0 then pure (some path) else findIpIn rest

def findIpCmd : IfaceProg (Option (List UInt8)) := findIpIn ipBin

def devNull : List UInt8 := ascii " >> /dev/null 2>&1"

/-- `snprintf(cbuf, sizeof(cbuf), CMD, ...)`: what is left in `cbuf` of the command. -/
def cbufText (cmd : IpCmd) : List UInt8 := snprintf 256 cmd.text

/-- The line that `EXEC_CMD` gives to the shell (iface.c:296-308). -/
def cmdLine (ip : List UInt8) (suppressErr : Bool) (cmd : IpCmd) : List UInt8 :=
  let full := ip ++ ascii " " ++ cbufText cmd
  snprintf 768 full ++ (if suppressErr then snprintf (768 - full.length) devNull else [])

/-- `EXEC_CMD`. -/
def execCmd (ip : List UInt8) (suppressErr : Bool) (cmd : IpCmd) : IfaceProg Int :=
  system cmd (cmdLine ip suppressErr cmd)

/-- What `cbuf` holds after `shell_exec(tmpbuf, cbuf, sizeof(cbuf) - 1, NULL)`: the start of
the output, or what was there before if the command could not be started. -/
def routeShow (cbuf : List UInt8) : Option (List UInt8) → List UInt8
  | none => cstr cbuf
  | some out => cstr (out.take 255)

/-- The gateway in the output of `ip route show`: what stands between `default via ` and the
next space, newline or the end (iface.c:489-507). -/
def cutGateway (text : List UInt8) : Option (List UInt8) :=
  match strstr text (ascii "default via ") with
  | none => none
  | some rdgw => some ((rdgw.drop 12).takeWhile fun c => c != 32 && c != 0 && c != 10)

/-! ## The function (iface.c:358-554) -/

/-- The two halves of the default route (iface.c:532-549). -/
def toggleDgateway (iface : IfInfo) (up suppressErr : Bool) (ip : List UInt8) : IfaceProg Bool := do
  let edgw ← simpleEscArg IPV4_ELI iface.ipv4Dgateway
  let ret ← execCmd ip suppressErr (.route up (ascii "0.0.0.0/1") edgw)
  if ret ≠ 0 then pure false
  else
    let ret ← execCmd ip suppressErr (.route up (ascii "128.0.0.0/1") edgw)
    if ret ≠ 0 then pure false else pure true

/-- A route of an earlier run is deleted first; the result is not looked at
(iface.c:512-520). -/
def removeLeftover (ip dest erdgw : List UInt8) : IfaceProg Unit := do
  let _ ← system (.route false dest erdgw)
    (snprintf 128 (ip ++ ascii " route delete " ++ dest ++ ascii " via " ++ erdgw ++ devNull))

/-- The route to the server and the default route (iface.c:479-549). `cbuf` holds the command
that was run before. -/
def toggleRoutes (iface : IfInfo) (up suppressErr : Bool) (ip cbuf : List UInt8) :
    IfaceProg Bool := do
  let out ← popen (snprintf 128 (ip ++ ascii " route show"))
  match cutGateway (routeShow cbuf out) with
  | none => pure false
  | some rdgw =>
      let erdgw ← simpleEscArg IPV4_ELI rdgw
      let eipv4Pub ← simpleEscArg IPV4_ELI iface.ipv4Pub
      if up then removeLeftover ip (eipv4Pub ++ ascii "/32") erdgw
      let ret ← execCmd ip suppressErr (.route up (eipv4Pub ++ ascii "/32") erdgw)
      if ret ≠ 0 then pure false
      else if nonEmpty iface.ipv4Dgateway then toggleDgateway iface up suppressErr ip
      else pure true

/-- `teavpn_iface_toggle`. -/
def teavpnIfaceToggle (o : ByteOrder) (iface : IfInfo) (up suppressErr : Bool) :
    IfaceProg Bool := do
  match ifaceTexts o iface with
  | none => pure false
  | some t =>
      let eipv4 ← simpleEscArg IPV4_ELI t.uipv4
      let _eipv4Nw ← simpleEscArg IPV4_ELI t.uipv4Nw
      let eipv4Bc ← simpleEscArg IPV4_ELI t.uipv4Bc
      let edev ← simpleEscArg (IFACENAMESIZ * 2) iface.dev
      match ← findIpCmd with
      | none => pure false
      | some ip =>
          let ret ← execCmd ip suppressErr (.link edev up iface.ipv4Mtu)
          if ret ≠ 0 then pure false
          else
            let ret ← execCmd ip suppressErr (.addr up edev eipv4 eipv4Bc)
            if ret ≠ 0 then pure false
            else if nonEmpty iface.ipv4Pub then
              toggleRoutes iface up suppressErr ip (cbufText (.addr up edev eipv4 eipv4Bc))
            else pure true

def teavpnIfaceUp (o : ByteOrder) (iface : IfInfo) : IfaceProg Bool :=
  teavpnIfaceToggle o iface true false

def teavpnIfaceDown (o : ByteOrder) (iface : IfInfo) : IfaceProg Bool :=
  teavpnIfaceToggle o iface false true

/-! ## Its callers (client/linux/udp.c:544-563, 671-685) -/

/-- The end of `bring_up_iface`: the result and `state->need_remove_iff`, which `calloc` has
left `false`. -/
def bringUpIface (o : ByteOrder) (iff2 : IfInfo) : IfaceProg (Int × Bool) := do
  if ← teavpnIfaceUp o iff2 then pure (0, true) else pure (-ENETDOWN, false)

/-- The part of `destroy_state` that is about the interface. -/
def destroyState (o : ByteOrder) (iff2 : IfInfo) (needRemoveIff : Bool) : IfaceProg Unit := do
  if needRemoveIff then
    let _ ← teavpnIfaceDown o iff2

/-! ## Running it -/

/-- What was asked and answered. -/
inductive IfaceEvent where
  | access (path : List UInt8) (ret : Int)
  | system (cmd : IpCmd) (line : List UInt8) (ret : Int)
  | popen (line : List UInt8) (out : Option (List UInt8))
  | stored (e : Escaped)
deriving DecidableEq, Repr

/-- The answers of the system during one call of the function. A call runs no command twice,
so a result for each command is a sequence of results. -/
structure Results where
  access : List UInt8 → Int
  system : IpCmd → Int
  popen : Option (List UInt8)

/-- Answer an operation and write it down. -/
def exec (k : Results) : (o : IfaceOp) → List IfaceEvent → o.Res × List IfaceEvent
  | .access path, tr => (k.access path, tr ++ [.access path (k.access path)])
  | .system cmd line, tr => (k.system cmd, tr ++ [.system cmd line (k.system cmd)])
  | .popen line, tr => (k.popen, tr ++ [.popen line k.popen])
  | .stored e, tr => ((), tr ++ [.stored e])

/-- Run a piece of interface code; the events come behind the ones in `tr`. -/
def runIface {α : Type} (k : Results) (p : IfaceProg α) (tr : List IfaceEvent) :
    α × List IfaceEvent :=
  p.run (exec k) tr

end Iface

end TeaVpn2
