import Mathlib.Algebra.Group.Int.Defs
import TeaVpn2.Model.Auth

/-!
# Configurations (server/common.h, client/common.h, server/entry.c, client/entry.c)

The records that `run_server` and `run_client` fill, their defaults, and the C library functions
that read numbers. `getopt_long` and the INI parser are outside: `SrvOpt` and `CliOpt` are what
`getopt_long` delivers for one option, and an entry is what the INI parser delivers for one line.

A member of an enumeration stands for one branch of a `strcmp` chain or of a `switch`.
-/

set_option autoImplicit false

namespace TeaVpn2

/-! ## Numbers and letters of the C library -/

/-- `strtol(s, NULL, 10)`; a value that does not fit is `LONG_MAX` or `LONG_MIN`. -/
def strtol10 (s : List UInt8) : Int :=
  match s.dropWhile isspace with
  | 43 :: cs => min (readDigits 10 cs 0).1 (2 ^ 63 - 1)
  | 45 :: cs => max (-(readDigits 10 cs 0).1) (-2 ^ 63)
  | cs => min (readDigits 10 cs 0).1 (2 ^ 63 - 1)

/-- `atoi(s)`: the `long` of `strtol` as an `int`. -/
def atoi (s : List UInt8) : Int := Int.bmod (strtol10 s) (2 ^ 32)

def tolower (c : UInt8) : UInt8 := if 65 ≤ c && c ≤ 90 then c + 32 else c

example : atoi (ascii "4294967297") = 1 := by decide

example : atoi (ascii "-12x") = -12 := by decide

/-! ## Configurations -/

def ESOCKTNOSUPPORT : Int := 94

/-- `sock_type`; a zeroed record holds the first one. -/
inductive SockType where
  | udp
  | tcp
deriving DecidableEq, Repr

/-- The comparison of `-s` and `sock_type`, through a buffer of `n` bytes. -/
def sockTypeOf (n : Nat) (val : List UInt8) : Option SockType :=
  let tmp := (strncpy2 val n).map tolower
  if tmp = ascii "tcp" then some .tcp
  else if tmp = ascii "udp" then some .udp
  else none

structure Srv.CfgSys where
  cfgFile : List UInt8 := []
  dataDir : List UInt8 := []
  threadNum : UInt8 := 0
  verboseLevel : UInt8 := 0
deriving DecidableEq, Repr

structure Srv.CfgSock where
  useEncryption : Bool := false
  backlog : Int := 0
  type : SockType := .udp
  bindAddr : List UInt8 := []
  bindPort : UInt16 := 0
  maxConn : UInt16 := 0
  eventLoop : List UInt8 := []
  sslCert : List UInt8 := []
  sslPrivKey : List UInt8 := []
deriving DecidableEq, Repr

structure Srv.CfgIface where
  dev : List UInt8 := []
  mtu : UInt16 := 0
  iff : IfInfo := {}
deriving DecidableEq, Repr

structure Srv.Cfg where
  sys : Srv.CfgSys := {}
  sock : Srv.CfgSock := {}
  iface : Srv.CfgIface := {}
deriving DecidableEq, Repr

structure Cli.CfgSys where
  cfgFile : List UInt8 := []
  dataDir : List UInt8 := []
  threadNum : UInt8 := 0
  verboseLevel : UInt8 := 0
deriving DecidableEq, Repr

structure Cli.CfgSock where
  useEncryption : Bool := false
  type : SockType := .udp
  serverAddr : List UInt8 := []
  serverPort : UInt16 := 0
  eventLoop : List UInt8 := []
deriving DecidableEq, Repr

structure Cli.CfgIface where
  overrideDefault : Bool := false
  dev : List UInt8 := []
  iff : IfInfo := {}
deriving DecidableEq, Repr

structure Cli.CfgAuth where
  username : List UInt8 := []
  password : List UInt8 := []
deriving DecidableEq, Repr

structure Cli.Cfg where
  sys : Cli.CfgSys := {}
  sock : Cli.CfgSock := {}
  iface : Cli.CfgIface := {}
  auth : Cli.CfgAuth := {}
deriving DecidableEq, Repr

/-! ## Defaults (server/entry.c:16-51, client/entry.c:17-39) -/

def dSrvCfgFile : List UInt8 := ascii "/etc/teavpn2/server.ini"
def dSrvDev : List UInt8 := ascii "tsrv0"
def dSrvMtu : UInt16 := 1450
def dCliCfgFile : List UInt8 := ascii "/etc/teavpn2/client.ini"
def dCliDev : List UInt8 := ascii "tcli0"
def dNumOfThreads : UInt8 := 2

namespace Srv.Cfg

/-- `set_default_config` on a zeroed record. -/
def default : Srv.Cfg where
  sys := { cfgFile := dSrvCfgFile, threadNum := dNumOfThreads }
  sock := { bindAddr := strncpy2 (ascii "0.0.0.0") 64, bindPort := 44444, backlog := 10
            maxConn := 32 }
  iface := { dev := strncpy2 dSrvDev 16
             iff := { dev := strncpy2 dSrvDev 16
                      ipv4 := strncpy2 (ascii "10.5.5.1") 16
                      ipv4Netmask := strncpy2 (ascii "255.255.255.0") 16
                      ipv4Mtu := dSrvMtu } }

end Srv.Cfg

namespace Cli.Cfg

/-- `set_default_config` on a zeroed record. -/
def default : Cli.Cfg where
  sys := { cfgFile := dCliCfgFile, threadNum := dNumOfThreads }
  sock := { serverPort := 44444 }
  iface := { dev := strncpy2 dCliDev 16
             iff := { dev := strncpy2 dCliDev 16 } }

end Cli.Cfg

/-! ## What the two parsers deliver -/

/-- A line of the file: section, name and value. -/
abbrev Entry := List UInt8 × List UInt8 × List UInt8

/-- One result of `getopt_long` in the server, with `optarg`. -/
inductive SrvOpt where
  | help
  | version
  | verbose (optarg : Option (List UInt8))
  | config (optarg : List UInt8)
  | dataDir (optarg : List UInt8)
  | thread (optarg : List UInt8)
  | dev (optarg : List UInt8)
  | mtu (optarg : List UInt8)
  | ipv4 (optarg : List UInt8)
  | ipv4Netmask (optarg : List UInt8)
  | sockType (optarg : List UInt8)
  | bindAddr (optarg : List UInt8)
  | bindPort (optarg : List UInt8)
  | backlog (optarg : List UInt8)
  | encrypt (optarg : Option (List UInt8))
  | unknown
deriving DecidableEq, Repr

/-- One result of `getopt_long` in the client. -/
inductive CliOpt where
  | help
  | version
  | verbose (optarg : Option (List UInt8))
  | config (optarg : List UInt8)
  | dataDir (optarg : List UInt8)
  | thread (optarg : List UInt8)
  | dev (optarg : List UInt8)
  | sockType (optarg : List UInt8)
  | serverAddr (optarg : List UInt8)
  | serverPort (optarg : List UInt8)
  | encrypt (optarg : Option (List UInt8))
  | username (optarg : List UInt8)
  | password (optarg : List UInt8)
  | unknown
deriving DecidableEq, Repr

/-- How a program ends before its event loop: `exit(0)`, a return value, or an access through
`NULL`. -/
inductive Quit where
  | exit
  | returned (ret : Int)
  | fault
deriving DecidableEq, Repr

end TeaVpn2
