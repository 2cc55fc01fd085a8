import TeaVpn2.Model.Config

/-!
# From the command line to the configuration (server/entry.c, client/entry.c)

`runServer` and `runClient` process the options in order and then the entries of the
configuration file. A result `.ok cfg` means that `teavpn2_server_udp_run(&cfg)` or
`teavpn2_client_udp_run(&cfg)` is called; everything else ends the program before that.

The INI parser goes on after an entry that its callback rejects and reports the error at the
end.
-/

set_option autoImplicit false

namespace TeaVpn2

/-! ## The callback of the INI parser -/

/-- The entries are given to the callback one after the other; the flag says that one of them
was rejected (inih.c:212-217). -/
def iniEntries {C : Type} (handler : C → Entry → Option C) : C → List Entry → C × Bool
  | cfg, [] => (cfg, false)
  | cfg, e :: es =>
      match handler cfg e with
      | some cfg' => iniEntries handler cfg' es
      | none => ((iniEntries handler cfg es).1, true)

/-- `fopen` and `ini_parse_file`: the result and the configuration after it
(server/entry.c:403-430, client/entry.c:374-401). -/
def parseCfgFile {C : Type} (handler : C → Entry → Option C)
    (fopen : List UInt8 → Except Int IniFile) (cfgFile : List UInt8) (cfg : C) : Int × C :=
  match fopen cfgFile with
  | .error err => (-err, cfg)
  | .ok file =>
      let (cfg, rejected) := iniEntries handler cfg file.entries
      (if file.ret ≠ 0 ∨ rejected = true then -EINVAL else 0, cfg)

/-! ## The server -/

namespace Srv

/-- One turn of the loop of `parse_argv` (server/entry.c:174-282). An option without a case,
also one that `getopt_long` does not know, is ignored. -/
def parseOption (cfg : Srv.Cfg) : SrvOpt → Except Quit Srv.Cfg
  | .help => .error .exit
  | .version => .error .exit
  | .verbose optarg =>
      let level : UInt8 :=
        match optarg with
        | some arg => UInt8.ofInt (atoi arg)
        | none => 6
      .ok { cfg with sys := { cfg.sys with verboseLevel := level } }
  | .config optarg => .ok { cfg with sys := { cfg.sys with cfgFile := optarg } }
  | .dataDir optarg => .ok { cfg with sys := { cfg.sys with dataDir := strncpy2 optarg 128 } }
  | .thread optarg =>
      let tmp := atoi optarg
      if tmp ≤ 0 then .error (.returned EINVAL)
      else .ok { cfg with sys := { cfg.sys with threadNum := UInt8.ofInt tmp } }
  | .dev optarg => .ok { cfg with iface := { cfg.iface with dev := strncpy2 optarg 16 } }
  | .mtu optarg =>
      let tmp := atoi optarg
      if tmp ≤ 0 then .error (.returned EINVAL)
      else .ok { cfg with iface := { cfg.iface with mtu := UInt16.ofInt tmp } }
  | .ipv4 optarg =>
      .ok { cfg with iface := { cfg.iface with
        iff := { cfg.iface.iff with ipv4 := strncpy2 optarg 16 } } }
  | .ipv4Netmask optarg =>
      .ok { cfg with iface := { cfg.iface with
        iff := { cfg.iface.iff with ipv4Netmask := strncpy2 optarg 16 } } }
  | .sockType optarg =>
      match sockTypeOf 5 optarg with
      | some type => .ok { cfg with sock := { cfg.sock with type := type } }
      | none => .error (.returned EINVAL)
  | .bindAddr optarg => .ok { cfg with sock := { cfg.sock with bindAddr := strncpy2 optarg 64 } }
  | .bindPort optarg =>
      .ok { cfg with sock := { cfg.sock with bindPort := UInt16.ofInt (atoi optarg) } }
  | .backlog _ => .ok cfg
  | .encrypt optarg =>
      match optarg with
      | some arg => .ok { cfg with sock := { cfg.sock with useEncryption := atoi arg != 0 } }
      | none => .error .fault
  | .unknown => .ok cfg

def parseArgv (opts : List SrvOpt) (cfg : Srv.Cfg) : Except Quit Srv.Cfg := opts.foldlM parseOption cfg

/-- The names the configuration file may set. -/
inductive Key where
  | thread
  | verboseLevel
  | dataDir
  | useEncryption
  | eventLoop
  | sockType
  | bindAddr
  | bindPort
  | backlog
  | maxConn
  | sslCert
  | sslPrivKey
  | dev
  | mtu
  | ipv4
  | ipv4Netmask
deriving DecidableEq, Repr

/-- The names of `cfg_parse_section_sys` (server/entry.c:285-303). -/
def cfgParseSectionSys (name : List UInt8) : Option Key :=
  if name = ascii "thread" then some .thread
  else if name = ascii "verbose_level" then some .verboseLevel
  else if name = ascii "data_dir" then some .dataDir
  else none

/-- The names of `cfg_parse_section_socket` (server/entry.c:306-349). -/
def cfgParseSectionSocket (name : List UInt8) : Option Key :=
  if name = ascii "use_encryption" then some .useEncryption
  else if name = ascii "event_loop" then some .eventLoop
  else if name = ascii "sock_type" then some .sockType
  else if name = ascii "bind_addr" then some .bindAddr
  else if name = ascii "bind_port" then some .bindPort
  else if name = ascii "backlog" then some .backlog
  else if name = ascii "max_conn" then some .maxConn
  else if name = ascii "ssl_cert" then some .sslCert
  else if name = ascii "ssl_priv_key" then some .sslPrivKey
  else none

/-- The names of `cfg_parse_section_iface` (server/entry.c:352-376). -/
def cfgParseSectionIface (name : List UInt8) : Option Key :=
  if name = ascii "dev" then some .dev
  else if name = ascii "mtu" then some .mtu
  else if name = ascii "ipv4" then some .ipv4
  else if name = ascii "ipv4_netmask" then some .ipv4Netmask
  else none

def keyOf (e : Entry) : Option Key :=
  if e.1 = ascii "sys" then cfgParseSectionSys e.2.1
  else if e.1 = ascii "socket" then cfgParseSectionSocket e.2.1
  else if e.1 = ascii "iface" then cfgParseSectionIface e.2.1
  else none

/-- What the branch for a name does with its value. -/
def setKey (cfg : Srv.Cfg) (val : List UInt8) : Key → Option Srv.Cfg
  | .thread =>
      some { cfg with sys := { cfg.sys with threadNum := UInt8.ofNat (strtoul10 val) } }
  | .verboseLevel =>
      some { cfg with sys := { cfg.sys with verboseLevel := UInt8.ofNat (strtoul10 val) } }
  | .dataDir => some { cfg with sys := { cfg.sys with dataDir := strncpy2 val 128 } }
  | .useEncryption => some { cfg with sock := { cfg.sock with useEncryption := atoi val != 0 } }
  | .eventLoop => some { cfg with sock := { cfg.sock with eventLoop := strncpy2 val 64 } }
  | .sockType =>
      (sockTypeOf 8 val).map fun type => { cfg with sock := { cfg.sock with type := type } }
  | .bindAddr => some { cfg with sock := { cfg.sock with bindAddr := strncpy2 val 64 } }
  | .bindPort =>
      some { cfg with sock := { cfg.sock with bindPort := UInt16.ofNat (strtoul10 val) } }
  | .backlog => some { cfg with sock := { cfg.sock with backlog := atoi val } }
  | .maxConn => some { cfg with sock := { cfg.sock with maxConn := UInt16.ofNat (strtoul10 val) } }
  | .sslCert => some { cfg with sock := { cfg.sock with sslCert := strncpy2 val 256 } }
  | .sslPrivKey => some { cfg with sock := { cfg.sock with sslPrivKey := strncpy2 val 256 } }
  | .dev =>
      some { cfg with iface := { cfg.iface with
        dev := strncpy2 val 16
        iff := { cfg.iface.iff with dev := strncpy2 val 16 } } }
  | .mtu =>
      some { cfg with iface := { cfg.iface with
        mtu := UInt16.ofNat (strtoul10 val)
        iff := { cfg.iface.iff with ipv4Mtu := UInt16.ofNat (strtoul10 val) } } }
  | .ipv4 =>
      some { cfg with iface := { cfg.iface with
        iff := { cfg.iface.iff with ipv4 := strncpy2 val 16 } } }
  | .ipv4Netmask =>
      some { cfg with iface := { cfg.iface with
        iff := { cfg.iface.iff with ipv4Netmask := strncpy2 val 16 } } }

/-- `server_cfg_parser` (server/entry.c:383-400); `none` is the result 0. -/
def serverCfgParser (cfg : Srv.Cfg) (e : Entry) : Option Srv.Cfg :=
  (keyOf e).bind (setKey cfg e.2.2)

end Srv

/-- `run_server` (server/entry.c:433-463), up to the call of `teavpn2_server_udp_run`. A missing
file is no error if it is the default one. -/
def runServer (opts : List SrvOpt) (fopen : List UInt8 → Except Int IniFile) :
    Except Quit Srv.Cfg := do
  let cfg ← Srv.parseArgv opts Srv.Cfg.default
  let (ret, cfg) := parseCfgFile Srv.serverCfgParser fopen cfg.sys.cfgFile cfg
  if ret ≠ 0 ∧ ¬(ret = -ENOENT ∧ cfg.sys.cfgFile = dSrvCfgFile) then .error (.returned (-ret))
  else
    match cfg.sock.type with
    | .udp => .ok cfg
    | .tcp => .error (.returned ESOCKTNOSUPPORT)

/-! ## The client -/

namespace Cli

/-- One turn of the loop of `parse_argv` (client/entry.c:138-243). -/
def parseOption (cfg : Cli.Cfg) : CliOpt → Except Quit Cli.Cfg
  | .help => .error .exit
  | .version => .error .exit
  | .verbose optarg =>
      let level : UInt8 :=
        match optarg with
        | some arg => UInt8.ofInt (atoi arg)
        | none => 6
      .ok { cfg with sys := { cfg.sys with verboseLevel := level } }
  | .config optarg => .ok { cfg with sys := { cfg.sys with cfgFile := optarg } }
  | .dataDir optarg => .ok { cfg with sys := { cfg.sys with dataDir := strncpy2 optarg 128 } }
  | .thread optarg =>
      let tmp := atoi optarg
      if tmp ≤ 0 then .error (.returned EINVAL)
      else .ok { cfg with sys := { cfg.sys with threadNum := UInt8.ofInt tmp } }
  | .sockType optarg =>
      match sockTypeOf 5 optarg with
      | some type => .ok { cfg with sock := { cfg.sock with type := type } }
      | none => .error (.returned EINVAL)
  | .serverAddr optarg =>
      .ok { cfg with sock := { cfg.sock with serverAddr := strncpy2 optarg 64 } }
  | .serverPort optarg =>
      .ok { cfg with sock := { cfg.sock with serverPort := UInt16.ofInt (atoi optarg) } }
  | .encrypt optarg =>
      match optarg with
      | some arg => .ok { cfg with sock := { cfg.sock with useEncryption := atoi arg != 0 } }
      | none => .error .fault
  | .dev optarg => .ok { cfg with iface := { cfg.iface with dev := strncpy2 optarg 16 } }
  | .username optarg =>
      .ok { cfg with auth := { cfg.auth with username := strncpy2 optarg 256 } }
  | .password optarg =>
      .ok { cfg with auth := { cfg.auth with password := strncpy2 optarg 256 } }
  | .unknown => .error (.returned EINVAL)

def parseArgv (opts : List CliOpt) (cfg : Cli.Cfg) : Except Quit Cli.Cfg := opts.foldlM parseOption cfg

/-- The names the configuration file may set. -/
inductive Key where
  | thread
  | verboseLevel
  | dataDir
  | useEncryption
  | eventLoop
  | sockType
  | serverAddr
  | serverPort
  | dev
  | overrideDefault
  | username
  | password
deriving DecidableEq, Repr

/-- The names of `cfg_parse_section_sys` (client/entry.c:246-265). -/
def cfgParseSectionSys (name : List UInt8) : Option Key :=
  if name = ascii "thread" then some .thread
  else if name = ascii "verbose_level" then some .verboseLevel
  else if name = ascii "data_dir" then some .dataDir
  else none

/-- The names of `cfg_parse_section_socket` (client/entry.c:268-307). -/
def cfgParseSectionSocket (name : List UInt8) : Option Key :=
  if name = ascii "use_encryption" then some .useEncryption
  else if name = ascii "event_loop" then some .eventLoop
  else if name = ascii "sock_type" then some .sockType
  else if name = ascii "server_addr" then some .serverAddr
  else if name = ascii "server_port" then some .serverPort
  else none

/-- The names of `cfg_parse_section_iface` (client/entry.c:310-325). -/
def cfgParseSectionIface (name : List UInt8) : Option Key :=
  if name = ascii "dev" then some .dev
  else if name = ascii "override_default" then some .overrideDefault
  else none

/-- The names of `cfg_parse_section_auth` (client/entry.c:328-344). -/
def cfgParseSectionAuth (name : List UInt8) : Option Key :=
  if name = ascii "username" then some .username
  else if name = ascii "password" then some .password
  else none

def keyOf (e : Entry) : Option Key :=
  if e.1 = ascii "sys" then cfgParseSectionSys e.2.1
  else if e.1 = ascii "socket" then cfgParseSectionSocket e.2.1
  else if e.1 = ascii "iface" then cfgParseSectionIface e.2.1
  else if e.1 = ascii "auth" then cfgParseSectionAuth e.2.1
  else none

/-- What the branch for a name does with its value. -/
def setKey (cfg : Cli.Cfg) (val : List UInt8) : Key → Option Cli.Cfg
  | .thread =>
      some { cfg with sys := { cfg.sys with threadNum := UInt8.ofNat (strtoul10 val) } }
  | .verboseLevel =>
      some { cfg with sys := { cfg.sys with verboseLevel := UInt8.ofNat (strtoul10 val) } }
  | .dataDir => some { cfg with sys := { cfg.sys with dataDir := strncpy2 val 128 } }
  | .useEncryption => some { cfg with sock := { cfg.sock with useEncryption := atoi val != 0 } }
  | .eventLoop => some { cfg with sock := { cfg.sock with eventLoop := strncpy2 val 64 } }
  | .sockType =>
      (sockTypeOf 8 val).map fun type => { cfg with sock := { cfg.sock with type := type } }
  | .serverAddr => some { cfg with sock := { cfg.sock with serverAddr := strncpy2 val 64 } }
  | .serverPort =>
      some { cfg with sock := { cfg.sock with serverPort := UInt16.ofNat (strtoul10 val) } }
  | .dev => some { cfg with iface := { cfg.iface with dev := strncpy2 val 16 } }
  | .overrideDefault =>
      some { cfg with iface := { cfg.iface with overrideDefault := atoi val != 0 } }
  | .username => some { cfg with auth := { cfg.auth with username := strncpy2 val 256 } }
  | .password => some { cfg with auth := { cfg.auth with password := strncpy2 val 256 } }

/-- `client_cfg_parser` (client/entry.c:351-371); `none` is the result 0. -/
def clientCfgParser (cfg : Cli.Cfg) (e : Entry) : Option Cli.Cfg :=
  (keyOf e).bind (setKey cfg e.2.2)

end Cli

/-- `run_client` (client/entry.c:410-448), up to the call of `teavpn2_client_udp_run`. -/
def runClient (opts : List CliOpt) (fopen : List UInt8 → Except Int IniFile) :
    Except Quit Cli.Cfg := do
  let cfg ← Cli.parseArgv opts Cli.Cfg.default
  let (ret, cfg) := parseCfgFile Cli.clientCfgParser fopen cfg.sys.cfgFile cfg
  if ret ≠ 0 ∧ ¬(ret = -ENOENT ∧ cfg.sys.cfgFile = dCliCfgFile) then .error (.returned (-ret))
  else if cfg.auth.username = [] then .error (.returned EINVAL)
  else if cfg.auth.password = [] then .error (.returned EINVAL)
  else
    match cfg.sock.type with
    | .udp => .ok cfg
    | .tcp => .error (.returned ESOCKTNOSUPPORT)

end TeaVpn2
