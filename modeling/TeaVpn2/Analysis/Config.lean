import TeaVpn2.Lib.Settings
import TeaVpn2.Program.Entry
import TeaVpn2.Analysis.Descriptors

/-!
# Configurations that the programs accept

A run of `run_server` or `run_client` that reaches its event loop has processed a list of items:
the options in order and then the entries of the file. None of them was refused, so the
configuration is a fold of one step over the items (`runServer_items`, `runClient_items`), and a
field holds the last value written to it.

The device name and the MTU are kept twice. The entries of the file write both copies, the options
`-D` and `-m` only the one that `init_iface` opens the device by.
-/

set_option autoImplicit false

namespace TeaVpn2.Analysis

open TeaVpn2.Lib

/-! ## The items of a run -/

section Items

variable {C O : Type} {parseOption : C → O → Except Quit C} {parser : C → Entry → Option C}

/-- What an option or an entry of the file does to the configuration. -/
def itemStep (parseOption : C → O → Except Quit C) (parser : C → Entry → Option C) (cfg : C) :
    O ⊕ Entry → Option C
  | .inl opt => (parseOption cfg opt).toOption
  | .inr e => parser cfg e

theorem itemStep_option {cfg cfg' : C} {opt : O}
    (h : itemStep parseOption parser cfg (.inl opt) = some cfg') :
    parseOption cfg opt = .ok cfg' := by
  rw [itemStep] at h
  cases hopt : parseOption cfg opt with
  | error q =>
    rw [hopt] at h
    cases h
  | ok cfg₁ =>
    rw [hopt] at h
    cases h
    rfl

/-- The value an entry has for the field of the name `k`. -/
def entryValue {K V : Type} [DecidableEq K] (keyOf : Entry → Option K) (k : K)
    (read : List UInt8 → V) (e : Entry) : Option V :=
  if keyOf e = some k then some (read e.2.2) else none

theorem entryValue_isSome {K V : Type} [DecidableEq K] (keyOf : Entry → Option K) (k : K)
    (read : List UInt8 → V) (e : Entry) : (entryValue keyOf k read e).isSome ↔ keyOf e = some k := by
  unfold entryValue
  split <;> simp [*]

/-- The options come first. -/
def itemsOf (opts : List O) (entries : List Entry) : List (O ⊕ Entry) :=
  opts.map .inl ++ entries.map .inr

/-- The last value written: an entry comes after all options. -/
theorem lastOf_itemsOf {V : Type} (f : O → Option V) (g : Entry → Option V) (opts : List O)
    (entries : List Entry) :
    lastOf (Sum.elim f g) (itemsOf opts entries) = (lastOf g entries).or (lastOf f opts) := by
  rw [itemsOf, lastOf_append, lastOf_map, lastOf_map]
  rfl

/-- The entries of the file at `cfgFile`; there are none in a file that does not open. -/
def fileEntries (fopen : List UInt8 → Except Int IniFile) (cfgFile : List UInt8) : List Entry :=
  match fopen cfgFile with
  | .ok file => file.entries
  | .error _ => []

theorem foldlM_options {opts : List O} {cfg cfg' : C} (h : opts.foldlM parseOption cfg = .ok cfg') :
    (opts.map .inl).foldlM (itemStep parseOption parser) cfg = some cfg' := by
  induction opts generalizing cfg with
  | nil =>
    cases h
    rfl
  | cons opt opts ih =>
    rw [List.foldlM_cons] at h
    cases hopt : parseOption cfg opt with
    | error q =>
      rw [hopt] at h
      cases h
    | ok cfg₁ =>
      rw [hopt] at h
      rw [List.map_cons, List.foldlM_cons, itemStep, hopt]
      exact ih h

theorem foldlM_entries {entries : List Entry} {cfg cfg' : C}
    (h : iniEntries parser cfg entries = (cfg', false)) :
    (entries.map .inr).foldlM (itemStep parseOption parser) cfg = some cfg' := by
  induction entries generalizing cfg with
  | nil =>
    cases h
    rfl
  | cons e entries ih =>
    rw [iniEntries] at h
    cases he : parser cfg e with
    | none =>
      rw [he] at h
      cases h
    | some cfg₁ =>
      rw [he] at h
      rw [List.map_cons, List.foldlM_cons, itemStep, he]
      exact ih h

/-- INTERNAL: a file that is not an error has been processed to its end. -/
theorem parseCfgFile_accepted {fopen : List UInt8 → Except Int IniFile} {cfgFile : List UInt8}
    {cfg cfg' : C} {ret : Int} (h : parseCfgFile parser fopen cfgFile cfg = (ret, cfg'))
    (hret : ret = 0 ∨ ret = -ENOENT) :
    ((fileEntries fopen cfgFile).map .inr).foldlM (itemStep parseOption parser) cfg = some cfg' := by
  unfold parseCfgFile at h
  unfold fileEntries
  cases hfile : fopen cfgFile with
  | error err =>
    rw [hfile] at h
    cases h
    rfl
  | ok file =>
    rw [hfile] at h
    obtain ⟨hval, hcfg⟩ := Prod.mk.inj h
    apply foldlM_entries
    have hclean : ¬(file.ret ≠ 0 ∨ (iniEntries parser cfg file.entries).2 = true) := by
      intro hbad
      rw [if_pos hbad] at hval
      rcases hret with rfl | rfl <;> exact absurd hval (by decide)
    have hflag : (iniEntries parser cfg file.entries).2 = false := by
      simpa using fun h => hclean (.inr h)
    exact Prod.ext hcfg hflag

/-- The file is parsed, or it is the default one and is not there. -/
theorem accepted_ret {ret : Int} {isDefault : Prop}
    (h : ¬(ret ≠ 0 ∧ ¬(ret = -ENOENT ∧ isDefault))) : ret = 0 ∨ ret = -ENOENT := by
  by_cases hzero : ret = 0
  · exact .inl hzero
  · have hmissing : ret = -ENOENT ∧ isDefault := not_not.mp fun hn => h ⟨hzero, hn⟩
    exact .inr hmissing.1

/-- INTERNAL: the two halves of a run. -/
theorem foldlM_itemsOf {opts : List O} {entries : List Entry} {cfg cfg₁ cfg' : C}
    (hopts : opts.foldlM parseOption cfg = .ok cfg₁)
    (hentries : (entries.map .inr).foldlM (itemStep parseOption parser) cfg₁ = some cfg') :
    (itemsOf opts entries).foldlM (itemStep parseOption parser) cfg = some cfg' := by
  rw [itemsOf, List.foldlM_append, foldlM_options hopts]
  exact hentries

end Items

/-! ## The server -/

abbrev SrvItem : Type := SrvOpt ⊕ Entry

def srvStep : Srv.Cfg → SrvItem → Option Srv.Cfg := itemStep Srv.parseOption Srv.serverCfgParser

namespace Srv

open TeaVpn2.Srv

/-- The option `-c`. -/
def configArg : SrvOpt → Option (List UInt8)
  | .config optarg => some optarg
  | _ => none

/-- The option `-D`, cut off at the size of the array. -/
def devArg : SrvOpt → Option (List UInt8)
  | .dev optarg => some (strncpy2 optarg 16)
  | _ => none

/-- The option `-m`, as a `uint16_t`. -/
def mtuArg : SrvOpt → Option UInt16
  | .mtu optarg => some (UInt16.ofInt (atoi optarg))
  | _ => none

/-- The option `-t`, as a `uint8_t`. -/
def threadArg : SrvOpt → Option UInt8
  | .thread optarg => some (UInt8.ofInt (atoi optarg))
  | _ => none

/-- The option `-P`, as a `uint16_t`. -/
def portArg : SrvOpt → Option UInt16
  | .bindPort optarg => some (UInt16.ofInt (atoi optarg))
  | _ => none

def devEntry : Entry → Option (List UInt8) := entryValue keyOf .dev fun val => strncpy2 val 16
def mtuEntry : Entry → Option UInt16 := entryValue keyOf .mtu fun val => UInt16.ofNat (strtoul10 val)
def threadEntry : Entry → Option UInt8 := entryValue keyOf .thread fun val => UInt8.ofNat (strtoul10 val)
def portEntry : Entry → Option UInt16 :=
  entryValue keyOf .bindPort fun val => UInt16.ofNat (strtoul10 val)
def maxConnEntry : Entry → Option UInt16 :=
  entryValue keyOf .maxConn fun val => UInt16.ofNat (strtoul10 val)

/-- What one step writes to the fields that are looked at here. -/
structure Effect (c : Cfg) (i : SrvItem) (c' : Cfg) : Prop where
  cfgFile : c'.sys.cfgFile = (i.elim configArg fun _ => none).getD c.sys.cfgFile
  threadNum : c'.sys.threadNum = (i.elim threadArg threadEntry).getD c.sys.threadNum
  bindPort : c'.sock.bindPort = (i.elim portArg portEntry).getD c.sock.bindPort
  maxConn : c'.sock.maxConn = (i.elim (fun _ => none) maxConnEntry).getD c.sock.maxConn
  dev : c'.iface.dev = (i.elim devArg devEntry).getD c.iface.dev
  mtu : c'.iface.mtu = (i.elim mtuArg mtuEntry).getD c.iface.mtu
  iffDev : c'.iface.iff.dev = (i.elim (fun _ => none) devEntry).getD c.iface.iff.dev
  iffMtu : c'.iface.iff.ipv4Mtu = (i.elim (fun _ => none) mtuEntry).getD c.iface.iff.ipv4Mtu

theorem effect_option {c c' : Cfg} {opt : SrvOpt} (h : parseOption c opt = .ok c') :
    Effect c (.inl opt) c' := by
  cases opt with
  | help => cases h
  | version => cases h
  | thread optarg =>
    simp only [parseOption] at h
    split at h <;> cases h
    constructor <;> rfl
  | mtu optarg =>
    simp only [parseOption] at h
    split at h <;> cases h
    constructor <;> rfl
  | sockType optarg =>
    simp only [parseOption] at h
    split at h <;> cases h
    constructor <;> rfl
  | encrypt optarg =>
    cases optarg <;> cases h
    constructor <;> rfl
  | _ =>
    cases h
    constructor <;> rfl

theorem effect_entry {c c' : Cfg} {e : Entry} (h : serverCfgParser c e = some c') :
    Effect c (.inr e) c' := by
  obtain ⟨k, hk, hset⟩ := Option.bind_eq_some_iff.mp h
  cases k with
  | sockType =>
    obtain ⟨type, -, rfl⟩ := Option.map_eq_some_iff.mp hset
    constructor <;>
      simp [threadEntry, portEntry, maxConnEntry, devEntry, mtuEntry, entryValue, hk]
  | _ =>
    cases hset
    constructor <;>
      simp [threadEntry, portEntry, maxConnEntry, devEntry, mtuEntry, entryValue, hk]

theorem effect_step {c c' : Cfg} {i : SrvItem} (h : srvStep c i = some c') : Effect c i c' := by
  cases i with
  | inl opt => exact effect_option (itemStep_option h)
  | inr e => exact effect_entry h

/-- The file that the options name. -/
def cfgFileOf (opts : List SrvOpt) : List UInt8 := (lastOf configArg opts).getD dSrvCfgFile

theorem cfgFile_of_options {opts : List SrvOpt} {cfg : Cfg}
    (h : parseArgv opts Cfg.default = .ok cfg) : cfg.sys.cfgFile = cfgFileOf opts := by
  have hrun : (opts.map .inl).foldlM srvStep Cfg.default = some cfg := foldlM_options h
  have hwrites : Writes srvStep (fun c => c.sys.cfgFile) fun i => i.elim configArg fun _ => none :=
    fun _ _ _ hstep => (effect_step hstep).cfgFile
  rw [hwrites.last hrun, lastOf_map]
  rfl

/-- The entries that the run processes. -/
def entriesOf (opts : List SrvOpt) (fopen : List UInt8 → Except Int IniFile) : List Entry :=
  fileEntries fopen (cfgFileOf opts)

/-- The options and then the entries. -/
def items (opts : List SrvOpt) (fopen : List UInt8 → Except Int IniFile) : List SrvItem :=
  itemsOf opts (entriesOf opts fopen)

/-- INTERNAL: a run that is accepted has processed all its items. -/
theorem runServer_items {opts : List SrvOpt} {fopen : List UInt8 → Except Int IniFile} {cfg : Cfg}
    (h : runServer opts fopen = .ok cfg) :
    (items opts fopen).foldlM srvStep Cfg.default = some cfg := by
  unfold runServer at h
  cases hopts : parseArgv opts Cfg.default with
  | error q =>
    rw [hopts] at h
    cases h
  | ok cfg₁ =>
    rw [hopts] at h
    obtain ⟨ret, cfg₂, hparse⟩ : ∃ ret cfg₂,
        parseCfgFile serverCfgParser fopen cfg₁.sys.cfgFile cfg₁ = (ret, cfg₂) := ⟨_, _, rfl⟩
    simp only [bind, Except.bind, hparse] at h
    split at h
    · cases h
    · next hret =>
      split at h
      · cases h
        rw [items, entriesOf, ← cfgFile_of_options hopts]
        apply foldlM_itemsOf hopts
        exact parseCfgFile_accepted hparse (accepted_ret hret)
      · cases h

/-! ### The device that is opened and the one that is configured -/

open Start

/-- The calls for the interface are made with the two copies in the configuration. -/
def FromCfg (cfg : Cfg) : StartOp → Prop
  | .tunAlloc dev => dev = cfg.iface.dev
  | .teavpnIfaceUp iff => iff = cfg.iface.iff
  | _ => True

theorem uses_unwind (cfg : Cfg) (i : Nat) (tunFds : List Int) :
    Prog.Uses (FromCfg cfg) (unwind i tunFds) := by
  induction i generalizing tunFds with
  | zero => exact Prog.Uses.pure tunFds
  | succ i ih => exact Prog.Uses.bind (Prog.Uses.call trivial) fun _ => ih _

theorem uses_setNonblock (cfg : Cfg) (evtLoop : EvtLoop) (fd ret : Int) :
    Prog.Uses (FromCfg cfg) (setNonblock evtLoop fd ret) := by
  unfold setNonblock
  split
  · exact Prog.Uses.call trivial
  · exact Prog.Uses.pure ret

theorem uses_openQueues (cfg : Cfg) (evtLoop : EvtLoop) (n i : Nat) (tunFds : List Int) (ret : Int) :
    Prog.Uses (FromCfg cfg) (openQueues evtLoop cfg.iface.dev n i tunFds ret) := by
  induction n generalizing i tunFds ret with
  | zero => exact Prog.Uses.pure _
  | succ n ih =>
    have hopen : FromCfg cfg (.tunAlloc cfg.iface.dev) := rfl
    apply Prog.Uses.bind (Prog.Uses.call hopen)
    intro r
    cases r with
    | error err => exact Prog.Uses.bind (uses_unwind cfg i tunFds) fun _ => Prog.Uses.pure _
    | ok fd =>
      apply Prog.Uses.bind (uses_setNonblock cfg evtLoop fd ret)
      intro ret
      split
      · apply Prog.Uses.bind (Prog.Uses.call trivial)
        intro _
        exact Prog.Uses.bind (uses_unwind cfg i tunFds) fun _ => Prog.Uses.pure _
      · exact ih _ _ _

theorem uses_initIface (cfg : Cfg) (s : State) : Prog.Uses (FromCfg cfg) (initIface cfg s) := by
  unfold initIface initIfaceWith
  split
  · exact Prog.Uses.pure _
  · apply Prog.Uses.bind (uses_openQueues cfg s.evtLoop _ _ _ _)
    intro r
    cases r with
    | error e => exact Prog.Uses.pure _
    | ok e =>
      have hup : FromCfg cfg (.teavpnIfaceUp cfg.iface.iff) := rfl
      apply Prog.Uses.bind (Prog.Uses.call hup)
      intro up
      cases up <;> exact Prog.Uses.pure _

/-- The calls of a run of `init_iface`. -/
def ifaceCalls (cfg : Cfg) (env : StartLog → (o : StartOp) → o.Res) (s : State) : List StartOp :=
  ((initIface cfg s).run (answer env) []).2.map fun x => x.1

theorem ifaceCalls_fromCfg (cfg : Cfg) (env : StartLog → (o : StartOp) → o.Res) (s : State)
    {o : StartOp} (ho : o ∈ ifaceCalls cfg env s) : FromCfg cfg o := by
  obtain ⟨x, hx, rfl⟩ := List.mem_map.mp ho
  exact (uses_initIface cfg s).run_log env (by simp) x hx

/-- What the server relies on when `teavpn2_server_udp_run` starts; `lastMtu` is the MTU that was
given last. -/
structure IfaceAgrees (cfg : Cfg) (lastMtu : Option UInt16) : Prop where
  dev : cfg.iface.dev = cfg.iface.iff.dev
  opened : ∀ env s dev iff, StartOp.tunAlloc dev ∈ ifaceCalls cfg env s →
    StartOp.teavpnIfaceUp iff ∈ ifaceCalls cfg env s → dev = iff.dev
  mtu : ∀ mtu, lastMtu = some mtu → cfg.iface.iff.ipv4Mtu = mtu

theorem opened_of_dev {cfg : Cfg} (h : cfg.iface.dev = cfg.iface.iff.dev)
    (env : StartLog → (o : StartOp) → o.Res) (s : State) (dev : List UInt8) (iff : IfInfo)
    (hopen : StartOp.tunAlloc dev ∈ ifaceCalls cfg env s)
    (hup : StartOp.teavpnIfaceUp iff ∈ ifaceCalls cfg env s) : dev = iff.dev := by
  have hdev : dev = cfg.iface.dev := ifaceCalls_fromCfg cfg env s hopen
  have hiff : iff = cfg.iface.iff := ifaceCalls_fromCfg cfg env s hup
  rw [hdev, hiff, h]

/-- INTERNAL: of two copies with one default, the entries write both and the options the first.
They agree if an entry was the last to write, or no option has written another value. -/
theorem copies_agree_iff {V : Type} (entry option : Option V) (d : V) :
    (entry.or option).getD d = entry.getD d ↔
      entry.isSome ∨ ∀ v, option = some v → v = d := by
  cases entry with
  | some v => simp
  | none => cases option <;> simp

theorem last_in_second_iff {V : Type} (entry option : Option V) (d : V) :
    (∀ v, entry.or option = some v → entry.getD d = v) ↔
      entry.isSome ∨ ∀ v, option = some v → v = d := by
  cases entry with
  | some v => simp
  | none =>
    cases option with
    | none => simp
    | some w => simp [eq_comm]

section Accepted

variable {opts : List SrvOpt} {fopen : List UInt8 → Except Int IniFile} {cfg : Cfg}

theorem dev_accepted (h : runServer opts fopen = .ok cfg) :
    cfg.iface.dev =
      ((lastOf devEntry (entriesOf opts fopen)).or (lastOf devArg opts)).getD dSrvDev := by
  have hwrites : Writes srvStep (fun c => c.iface.dev) (Sum.elim devArg devEntry) :=
    fun _ _ _ hstep => (effect_step hstep).dev
  rw [hwrites.last (runServer_items h), items, lastOf_itemsOf]
  rfl

theorem iffDev_accepted (h : runServer opts fopen = .ok cfg) :
    cfg.iface.iff.dev = (lastOf devEntry (entriesOf opts fopen)).getD dSrvDev := by
  have hwrites : Writes srvStep (fun c => c.iface.iff.dev) (Sum.elim (fun _ => none) devEntry) :=
    fun _ _ _ hstep => (effect_step hstep).iffDev
  rw [hwrites.last (runServer_items h), items, lastOf_itemsOf, lastOf_none, Option.or_none]
  rfl

theorem iffMtu_accepted (h : runServer opts fopen = .ok cfg) :
    cfg.iface.iff.ipv4Mtu = (lastOf mtuEntry (entriesOf opts fopen)).getD dSrvMtu := by
  have hwrites : Writes srvStep (fun c => c.iface.iff.ipv4Mtu)
      (Sum.elim (fun _ => none) mtuEntry) :=
    fun _ _ _ hstep => (effect_step hstep).iffMtu
  rw [hwrites.last (runServer_items h), items, lastOf_itemsOf, lastOf_none, Option.or_none]
  rfl

/-- The MTU that is processed last. -/
def lastMtu (opts : List SrvOpt) (fopen : List UInt8 → Except Int IniFile) : Option UInt16 :=
  lastOf (Sum.elim mtuArg mtuEntry) (items opts fopen)

/-- INTERNAL: **when the server configures the interface it opens.** For every command line and
file that are accepted, the two copies of the device name are equal and the MTU that is applied is
the one given last exactly if the file has an entry `dev`, or the last `-D` names the default
device, or there is no `-D`; and the file has an entry `mtu`, or the last `-m` is the default, or
there is no `-m`.
SOURCE: server/entry.c:30-51, server/entry.c:174-376, server/linux/udp.c:241-300 -/
theorem server_configures_opened_iff (h : runServer opts fopen = .ok cfg) :
    IfaceAgrees cfg (lastMtu opts fopen) ↔
      ((∃ e ∈ entriesOf opts fopen, keyOf e = some .dev) ∨
        ∀ dev, lastOf devArg opts = some dev → dev = dSrvDev) ∧
      ((∃ e ∈ entriesOf opts fopen, keyOf e = some .mtu) ∨
        ∀ mtu, lastOf mtuArg opts = some mtu → mtu = dSrvMtu) := by
  have hdev : cfg.iface.dev = cfg.iface.iff.dev ↔
      (∃ e ∈ entriesOf opts fopen, keyOf e = some .dev) ∨
        ∀ dev, lastOf devArg opts = some dev → dev = dSrvDev := by
    rw [dev_accepted h, iffDev_accepted h, copies_agree_iff, lastOf_isSome]
    simp only [devEntry, entryValue_isSome]
  have hmtu : (∀ mtu, lastMtu opts fopen = some mtu → cfg.iface.iff.ipv4Mtu = mtu) ↔
      (∃ e ∈ entriesOf opts fopen, keyOf e = some .mtu) ∨
        ∀ mtu, lastOf mtuArg opts = some mtu → mtu = dSrvMtu := by
    rw [lastMtu, items, lastOf_itemsOf, iffMtu_accepted h, last_in_second_iff, lastOf_isSome]
    simp only [mtuEntry, entryValue_isSome]
  rw [← hdev, ← hmtu]
  exact ⟨fun hagree => ⟨hagree.dev, hagree.mtu⟩,
    fun hboth => ⟨hboth.1, opened_of_dev hboth.1, hboth.2⟩⟩

end Accepted

/-- A file that gives the name of the device and the MTU. -/
def officeFile (_ : List UInt8) : Except Int IniFile :=
  .ok { entries := [(ascii "iface", ascii "dev", ascii "office0"),
                    (ascii "iface", ascii "mtu", ascii "1400")] }

/-- No file. -/
def noFile (_ : List UInt8) : Except Int IniFile := .error ENOENT

def officeCfg : Cfg :=
  { Cfg.default with iface := { Cfg.default.iface with
      dev := ascii "office0"
      mtu := 1400
      iff := { Cfg.default.iface.iff with dev := ascii "office0", ipv4Mtu := 1400 } } }

theorem server_configures_opened_iff_office :
    runServer [.dev (ascii "home0"), .mtu (ascii "1300")] officeFile = .ok officeCfg ∧
    IfaceAgrees officeCfg (lastMtu [.dev (ascii "home0"), .mtu (ascii "1300")] officeFile) := by
  have hrun : runServer [.dev (ascii "home0"), .mtu (ascii "1300")] officeFile = .ok officeCfg := by
    decide
  refine ⟨hrun, (server_configures_opened_iff hrun).mpr ⟨.inl ?_, .inl ?_⟩⟩
  · exact ⟨(ascii "iface", ascii "dev", ascii "office0"), by decide, by decide⟩
  · exact ⟨(ascii "iface", ascii "mtu", ascii "1400"), by decide, by decide⟩

/-- The configuration of `-D home0 -m 1300` without a file. -/
def homeCfg : Cfg :=
  { Cfg.default with iface := { Cfg.default.iface with dev := ascii "home0", mtu := 1300 } }

/-- With `-D home0 -m 1300` and no file the server opens `home0`, configures `tsrv0` and applies
the default MTU. -/
theorem server_configures_other_device :
    runServer [.dev (ascii "home0"), .mtu (ascii "1300")] noFile = .ok homeCfg ∧
    ¬ IfaceAgrees homeCfg (lastMtu [.dev (ascii "home0"), .mtu (ascii "1300")] noFile) ∧
    homeCfg.iface.dev = ascii "home0" ∧ homeCfg.iface.iff.dev = ascii "tsrv0" ∧
    lastMtu [.dev (ascii "home0"), .mtu (ascii "1300")] noFile = some 1300 ∧
    homeCfg.iface.iff.ipv4Mtu = 1450 := by
  refine ⟨?_, fun hagree => ?_, ?_, ?_, ?_, ?_⟩
  · decide
  · exact absurd hagree.dev (by decide)
  · rfl
  · rfl
  · decide
  · rfl

end Srv

/-! ## The client -/

abbrev CliItem : Type := CliOpt ⊕ Entry

def cliStep : Cli.Cfg → CliItem → Option Cli.Cfg := itemStep Cli.parseOption Cli.clientCfgParser

namespace Cli

open TeaVpn2.Cli

/-- The option `-c`. -/
def configArg : CliOpt → Option (List UInt8)
  | .config optarg => some optarg
  | _ => none

/-- The option `-t`, as a `uint8_t`. -/
def threadArg : CliOpt → Option UInt8
  | .thread optarg => some (UInt8.ofInt (atoi optarg))
  | _ => none

/-- The option `-P`, as a `uint16_t`. -/
def portArg : CliOpt → Option UInt16
  | .serverPort optarg => some (UInt16.ofInt (atoi optarg))
  | _ => none

def threadEntry : Entry → Option UInt8 := entryValue keyOf .thread fun val => UInt8.ofNat (strtoul10 val)
def portEntry : Entry → Option UInt16 :=
  entryValue keyOf .serverPort fun val => UInt16.ofNat (strtoul10 val)

/-- What one step writes to the fields that are looked at here. -/
structure Effect (c : Cfg) (i : CliItem) (c' : Cfg) : Prop where
  cfgFile : c'.sys.cfgFile = (i.elim configArg fun _ => none).getD c.sys.cfgFile
  threadNum : c'.sys.threadNum = (i.elim threadArg threadEntry).getD c.sys.threadNum
  serverPort : c'.sock.serverPort = (i.elim portArg portEntry).getD c.sock.serverPort

theorem effect_option {c c' : Cfg} {opt : CliOpt} (h : parseOption c opt = .ok c') :
    Effect c (.inl opt) c' := by
  cases opt with
  | help => cases h
  | version => cases h
  | unknown => cases h
  | thread optarg =>
    simp only [parseOption] at h
    split at h <;> cases h
    constructor <;> rfl
  | sockType optarg =>
    simp only [parseOption] at h
    split at h <;> cases h
    constructor <;> rfl
  | encrypt optarg =>
    cases optarg <;> cases h
    constructor <;> rfl
  | _ =>
    cases h
    constructor <;> rfl

theorem effect_entry {c c' : Cfg} {e : Entry} (h : clientCfgParser c e = some c') :
    Effect c (.inr e) c' := by
  obtain ⟨k, hk, hset⟩ := Option.bind_eq_some_iff.mp h
  cases k with
  | sockType =>
    obtain ⟨type, -, rfl⟩ := Option.map_eq_some_iff.mp hset
    constructor <;> simp [threadEntry, portEntry, entryValue, hk]
  | _ =>
    cases hset
    constructor <;> simp [threadEntry, portEntry, entryValue, hk]

theorem effect_step {c c' : Cfg} {i : CliItem} (h : cliStep c i = some c') : Effect c i c' := by
  cases i with
  | inl opt => exact effect_option (itemStep_option h)
  | inr e => exact effect_entry h

/-- The file that the options name. -/
def cfgFileOf (opts : List CliOpt) : List UInt8 := (lastOf configArg opts).getD dCliCfgFile

theorem cfgFile_of_options {opts : List CliOpt} {cfg : Cfg}
    (h : parseArgv opts Cfg.default = .ok cfg) : cfg.sys.cfgFile = cfgFileOf opts := by
  have hrun : (opts.map .inl).foldlM cliStep Cfg.default = some cfg := foldlM_options h
  have hwrites : Writes cliStep (fun c => c.sys.cfgFile) fun i => i.elim configArg fun _ => none :=
    fun _ _ _ hstep => (effect_step hstep).cfgFile
  rw [hwrites.last hrun, lastOf_map]
  rfl

/-- The options and then the entries. -/
def items (opts : List CliOpt) (fopen : List UInt8 → Except Int IniFile) : List CliItem :=
  itemsOf opts (fileEntries fopen (cfgFileOf opts))

/-- INTERNAL: a run that is accepted has processed all its items. -/
theorem runClient_items {opts : List CliOpt} {fopen : List UInt8 → Except Int IniFile} {cfg : Cfg}
    (h : runClient opts fopen = .ok cfg) :
    (items opts fopen).foldlM cliStep Cfg.default = some cfg := by
  unfold runClient at h
  cases hopts : parseArgv opts Cfg.default with
  | error q =>
    rw [hopts] at h
    cases h
  | ok cfg₁ =>
    rw [hopts] at h
    obtain ⟨ret, cfg₂, hparse⟩ : ∃ ret cfg₂,
        parseCfgFile clientCfgParser fopen cfg₁.sys.cfgFile cfg₁ = (ret, cfg₂) := ⟨_, _, rfl⟩
    simp only [bind, Except.bind, hparse] at h
    split at h
    · cases h
    · next hret =>
      -- the checks of the username and the password
      split at h
      · cases h
      · split at h
        · cases h
        · split at h
          · cases h
            rw [items, ← cfgFile_of_options hopts]
            apply foldlM_itemsOf hopts
            exact parseCfgFile_accepted hparse (accepted_ret hret)
          · cases h

end Cli

end TeaVpn2.Analysis
