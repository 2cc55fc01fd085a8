import TeaVpn2.Model.Inih
import TeaVpn2.Program.Entry

/-!
# The callers of the INI parser, on the bytes of their files

`parse_cfg_file`, `run_server`, `run_client` and `teavpn2_auth` once more, with `ini_parse_file`
called where the source calls it. `fopen` gives the bytes of a file. `Inih.iniFile` takes such a
file to the entries that `TeaVpn2.Program.Entry` and `TeaVpn2.Model.Auth` start from.
-/

set_option autoImplicit false

namespace TeaVpn2.OnDisk

open TeaVpn2.Inih

/-! ## Configurations (server/entry.c:403-463, client/entry.c:374-448) -/

def parseCfgFile {C : Type} (handler : C → Entry → Option C)
    (fopen : List UInt8 → Except Int (List UInt8)) (cfgFile : List UInt8) (cfg : C) : Int × C :=
  match fopen cfgFile with
  | .error err => (-err, cfg)
  | .ok file =>
      let (ret, cfg) := iniParseFile handler cfg file
      (if ret ≠ 0 then -EINVAL else 0, cfg)

def runServer (opts : List SrvOpt) (fopen : List UInt8 → Except Int (List UInt8)) :
    Except Quit Srv.Cfg := do
  let cfg ← Srv.parseArgv opts Srv.Cfg.default
  let (ret, cfg) := parseCfgFile Srv.serverCfgParser fopen cfg.sys.cfgFile cfg
  if ret ≠ 0 ∧ ¬(ret = -ENOENT ∧ cfg.sys.cfgFile = dSrvCfgFile) then .error (.returned (-ret))
  else
    match cfg.sock.type with
    | .udp => .ok cfg
    | .tcp => .error (.returned ESOCKTNOSUPPORT)

def runClient (opts : List CliOpt) (fopen : List UInt8 → Except Int (List UInt8)) :
    Except Quit Cli.Cfg := do
  let cfg ← Cli.parseArgv opts Cli.Cfg.default
  let (ret, cfg) := parseCfgFile Cli.clientCfgParser fopen cfg.sys.cfgFile cfg
  if ret ≠ 0 ∧ ¬(ret = -ENOENT ∧ cfg.sys.cfgFile = dCliCfgFile) then .error (.returned (-ret))
  else if cfg.auth.username = [] then .error (.returned EINVAL)
  else if cfg.auth.password = [] then .error (.returned EINVAL)
  else
    match cfg.sock.type with
    | .udp => .ok cfg
    | .tcp => .error (.returned ESOCKTNOSUPPORT)

/-! ## User files (auth.c:95-184) -/

/-- `userfile_parser` returns 1 for every entry. -/
def userfileHandler (ctx : UserParseCtx) (e : Entry) : Option UserParseCtx :=
  some (userfileParser ctx e)

def _teavpn2Auth (file password : List UInt8) : Except Int IfInfo :=
  let (ret, ctx) := iniParseFile userfileHandler {} file
  if ret ≠ 0 then .error (-EINVAL)
  else if password ≠ ctx.fpass then .error (-EACCES)
  else .ok ctx.iff

def teavpn2Auth (dataDir : List UInt8) (fopen : List UInt8 → Option (List UInt8))
    (username password : List UInt8) : Option IfInfo :=
  if validateUsername username then
    match fopen (userfilePath dataDir username) with
    | none => none
    | some file => (_teavpn2Auth file password).toOption
  else none

end TeaVpn2.OnDisk
