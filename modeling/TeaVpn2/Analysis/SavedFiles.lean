import TeaVpn2.Analysis.IniRoundTrip
import TeaVpn2.Analysis.Netmask
import TeaVpn2.Analysis.NumericSettings
import TeaVpn2.Analysis.UserFiles

/-!
# Settings and users that have been written to a file

The other end of the INI parser: a configuration or a user is written down, one setting a line, and
the program is started on the bytes. `saved_settings_load` says that the server and the client come
up with the configuration that was written, whatever the options were; `saved_user_logs_in` that
the user is let in with the password that was written and with no other, and gets the addresses.

`login_needs_stored_password` is about every user file, also one that nobody wrote like this.
-/

set_option autoImplicit false

namespace TeaVpn2.Analysis

open TeaVpn2.Lib TeaVpn2.Inih

/-! ## Numbers -/

def decimalInt : Int → List UInt8
  | .ofNat n => decimal n
  | .negSucc n => 45 :: decimal (n + 1)

theorem digits_decimal (n : Nat) : Digits (decimal n) :=
  ⟨List.length_pos_iff.mp (length_decimal_pos n), fun _ hc => isdigit_of_mem_decimal hc⟩

/-- INTERNAL: the digits write the number. -/
theorem digitsValue_decimal (n : Nat) : digitsValue (decimal n) = n := by
  have hone : ∀ m acc : Nat, m < 10 →
      (decimal m).foldl (fun n c => n * 10 + (c.toNat - 48)) acc = acc * 10 + m := by
    intro m acc hm
    rw [decimal_of_lt hm]
    simp only [List.foldl_cons, List.foldl_nil, UInt8.toNat_ofNat']
    omega
  induction n using Nat.strongRecOn with
  | _ n ih =>
    by_cases hn : n < 10
    · rw [digitsValue, hone n 0 hn]
      omega
    · have hsplit : n = n / 10 * 10 + n % 10 := by omega
      have hrest := ih (n / 10) (by omega)
      unfold digitsValue at hrest ⊢
      rw [hsplit, decimal_append (by omega) (by omega), List.foldl_append, hrest,
        hone _ _ (by omega)]

/-- INTERNAL: `strtoul` reads a number back. -/
theorem strtoul10_decimal {n : Nat} (h : n < 2 ^ 16) : strtoul10 (decimal n) = n := by
  rw [strtoul10_digits (digits_decimal n), digitsValue_decimal, ulongMax]
  omega

/-- INTERNAL: `atoi` reads every `int` back. -/
theorem atoi_decimalInt {z : Int} (hlo : -2 ^ 31 ≤ z) (hhi : z < 2 ^ 31) : atoi (decimalInt z) = z := by
  have hread : strtol10 (decimalInt z) = z := by
    cases z with
    | ofNat n =>
      show strtol10 (decimal n) = n
      rw [strtol10_digits (digits_decimal n), digitsValue_decimal]
      simp only [Int.ofNat_eq_natCast] at hhi
      omega
    | negSucc n =>
      show max (-((readDigits 10 (decimal (n + 1)) 0).1 : Int)) (-2 ^ 63) = _
      rw [readDigits_digitsValue (digits_decimal _), digitsValue_decimal]
      omega
  rw [atoi, hread]
  exact Int.bmod_eq_of_le (by omega) (by omega)

theorem toNat_ofNat_decimal_u8 (n : UInt8) : UInt8.ofNat (strtoul10 (decimal n.toNat)) = n := by
  rw [strtoul10_decimal (by have := n.toNat_lt; omega), UInt8.ofNat_toNat]

theorem toNat_ofNat_decimal_u16 (n : UInt16) : UInt16.ofNat (strtoul10 (decimal n.toNat)) = n := by
  rw [strtoul10_decimal n.toNat_lt, UInt16.ofNat_toNat]

/-! ## Texts -/

/-- A text of at most `n` bytes that a line can hold as a value. -/
structure Fits (n : Nat) (s : List UInt8) : Prop where
  oneLine : OneLine s
  stripped : strip isspace s = s
  noComment : Passes [] false s = true
  length_le : s.length ≤ n

theorem Fits.mono {m n : Nat} {s : List UInt8} (h : Fits m s) (hmn : m ≤ n) : Fits n s :=
  ⟨h.oneLine, h.stripped, h.noComment, h.length_le.trans hmn⟩

/-- INTERNAL: a text that fits an array is not cut. -/
theorem Fits.strncpy2_eq {n : Nat} {s : List UInt8} (h : Fits n s) (size : Nat) (hsize : n < size) :
    strncpy2 s size = s := by
  rw [strncpy2, cstr_eq_self h.oneLine.noNul]
  apply List.take_of_length_le
  have := h.length_le
  omega

theorem passes_of_not_mem {s : List UInt8} (h : (59 : UInt8) ∉ s) (wasSpace : Bool) :
    Passes [] wasSpace s = true := by
  induction s generalizing wasSpace with
  | nil => rfl
  | cons c s ih =>
    simp only [List.mem_cons, not_or] at h
    obtain ⟨hc, hs⟩ := h
    have hcomment : isInlineComment c = false := by
      simp [isInlineComment, Ne.symm hc]
    simp [Passes, hcomment, ih hs]

/-- INTERNAL: a word without white space, NUL and semicolon. -/
theorem fits_word {s : List UInt8} (h : ∀ c ∈ s, isspace c = false ∧ c ≠ 0 ∧ c ≠ 59) :
    Fits s.length s := by
  have h10 : (10 : UInt8) ∉ s := by
    intro hmem
    have hspace := (h 10 hmem).1
    exact absurd hspace (by decide)
  refine ⟨⟨fun h0 => (h 0 h0).2.1 rfl, h10⟩, ?_, passes_of_not_mem (fun hc => (h 59 hc).2.2 rfl) _,
    Nat.le_refl _⟩
  apply strip_eq_self
  · rintro c t rfl
    exact (h c (by simp)).1
  · rintro t c rfl
    exact (h c (by simp)).1

theorem word_of_isdigit {c : UInt8} (h : isdigit c = true) : isspace c = false ∧ c ≠ 0 ∧ c ≠ 59 := by
  refine ⟨not_isspace_of_isdigit h, ?_, ?_⟩
  all_goals
    rintro rfl
    exact absurd h (by decide)

theorem fits_decimal {k n : Nat} (hk : 0 < k) (h : n < 10 ^ k) : Fits k (decimal n) :=
  (fits_word fun _ hc => word_of_isdigit (isdigit_of_mem_decimal hc)).mono
    ((length_decimal_le_iff hk).mpr h)

theorem fits_decimalInt {z : Int} (hlo : -2 ^ 31 ≤ z) (hhi : z < 2 ^ 31) : Fits 11 (decimalInt z) := by
  cases z with
  | ofNat n =>
    refine (fits_decimal (k := 10) (by decide) ?_).mono (by decide)
    simp only [Int.ofNat_eq_natCast] at hhi
    omega
  | negSucc n =>
    have hlen : (decimal (n + 1)).length ≤ 10 := (length_decimal_le_iff (by decide)).mpr (by omega)
    have hsign : (decimalInt (.negSucc n)).length ≤ 11 := by
      rw [decimalInt, List.length_cons]
      omega
    refine (fits_word fun c hc => ?_).mono hsign
    rcases List.mem_cons.mp hc with rfl | hc
    · decide
    · exact word_of_isdigit (isdigit_of_mem_decimal hc)

theorem fits_u8 (n : UInt8) : Fits 3 (decimal n.toNat) :=
  fits_decimal (by decide) (by have := n.toNat_lt; omega)

theorem fits_u16 (n : UInt16) : Fits 5 (decimal n.toNat) :=
  fits_decimal (by decide) (by have := n.toNat_lt; omega)

theorem fits_bit (b : Bool) : Fits 1 (if b then ascii "1" else ascii "0") := by
  cases b
  · exact fits_word (s := ascii "0") (by simp [ascii, isspace])
  · exact fits_word (s := ascii "1") (by simp [ascii, isspace])

theorem fits_udp : Fits 3 (ascii "udp") := fits_word (s := ascii "udp") (by simp [ascii, isspace])

theorem atoi_bit (b : Bool) : (atoi (if b then ascii "1" else ascii "0") != 0) = b := by
  revert b
  decide

theorem sockTypeOf_udp : sockTypeOf 8 (ascii "udp") = some .udp := by decide

/-! ## Lines -/

/-- A line `name=value`. -/
def setLine (name value : List UInt8) : Line := .pair name [] 61 [] value [] none

theorem setLine_ok {name value : List UInt8} {n : Nat} (hname : (setLine name []).Ok)
    (hhead : name.head? ≠ some 0xEF) (hvalue : Fits n value) (hlen : name.length + 1 + n ≤ 198) :
    (setLine name value).Ok := by
  have htext : (setLine name value).text = name ++ 61 :: value := by
    simp [setLine, Line.text, Line.remarkText]
  have htext₀ : (setLine name []).text = name ++ [61] := by
    simp [setLine, Line.text, Line.remarkText]
  obtain ⟨hstart, hpre, hsep, hpost, -⟩ := hname.parts
  have hnil : Spaces [] := by simp [Spaces]
  have h0 := hname.oneLine.noNul
  have h10 := hname.oneLine.noNewline
  rw [htext₀] at h0 h10
  simp only [List.mem_append, not_or] at h0 h10
  refine ⟨⟨hstart, hpre, hsep, hpost, hvalue.stripped, hvalue.noComment, hnil, by simp⟩, ?_, ?_, ?_⟩
  · rw [htext]
    constructor
    · simp [h0.1, hvalue.oneLine.noNul]
    · simp [h10.1, hvalue.oneLine.noNewline]
  · rw [htext, List.length_append, List.length_cons]
    have := hvalue.length_le
    omega
  · rw [htext]
    rintro ⟨r, hr⟩
    obtain ⟨c, t, rfl, -⟩ := startsName_cons hstart.1
    apply hhead
    rw [List.head?_cons, show c = 0xEF from (List.cons.inj hr).1.symm]

/-- INTERNAL: a file whose lines are settings of which none is refused. -/
theorem iniEntries_of_foldlM {C : Type} {handler : C → Entry → Option C} {c c' : C} {es : List Entry}
    (h : es.foldlM handler c = some c') : iniEntries handler c es = (c', false) := by
  induction es generalizing c with
  | nil =>
    cases h
    rfl
  | cons e es ih =>
    rw [List.foldlM_cons] at h
    cases he : handler c e with
    | none =>
      rw [he] at h
      cases h
    | some c₁ =>
      rw [he] at h
      rw [iniEntries, he]
      exact ih h

/-- INTERNAL: a configuration file of well-written lines whose entries are accepted. -/
theorem parseCfgFile_fileOf {C : Type} {handler : C → Entry → Option C}
    {fopen : List UInt8 → Except Int (List UInt8)} {path : List UInt8} {c c' : C}
    {lines : List Line} (hopen : fopen path = .ok (fileOf lines)) (hok : ∀ l ∈ lines, l.Ok)
    (hatt : Attached false lines = true)
    (hrun : (lineEntries [] [] lines).foldlM handler c = some c') :
    OnDisk.parseCfgFile handler fopen path c = (0, c') := by
  rw [parseCfgFile_onDisk, parseCfgFile]
  simp only [hopen, Except.map]
  rw [iniFile_fileOf hok hatt, iniEntries_of_foldlM hrun]
  simp

/-! ## The server -/

namespace Srv

open TeaVpn2.Srv

def sectOf : Key → List UInt8
  | .thread | .verboseLevel | .dataDir => ascii "sys"
  | .dev | .mtu | .ipv4 | .ipv4Netmask => ascii "iface"
  | _ => ascii "socket"

def nameOf : Key → List UInt8
  | .thread => ascii "thread"
  | .verboseLevel => ascii "verbose_level"
  | .dataDir => ascii "data_dir"
  | .useEncryption => ascii "use_encryption"
  | .eventLoop => ascii "event_loop"
  | .sockType => ascii "sock_type"
  | .bindAddr => ascii "bind_addr"
  | .bindPort => ascii "bind_port"
  | .backlog => ascii "backlog"
  | .maxConn => ascii "max_conn"
  | .sslCert => ascii "ssl_cert"
  | .sslPrivKey => ascii "ssl_priv_key"
  | .dev => ascii "dev"
  | .mtu => ascii "mtu"
  | .ipv4 => ascii "ipv4"
  | .ipv4Netmask => ascii "ipv4_netmask"

/-- How a setting is written. -/
def valueOf (cfg : Cfg) : Key → List UInt8
  | .thread => decimal cfg.sys.threadNum.toNat
  | .verboseLevel => decimal cfg.sys.verboseLevel.toNat
  | .dataDir => cfg.sys.dataDir
  | .useEncryption => if cfg.sock.useEncryption then ascii "1" else ascii "0"
  | .eventLoop => cfg.sock.eventLoop
  | .sockType => ascii "udp"
  | .bindAddr => cfg.sock.bindAddr
  | .bindPort => decimal cfg.sock.bindPort.toNat
  | .backlog => decimalInt cfg.sock.backlog
  | .maxConn => decimal cfg.sock.maxConn.toNat
  | .sslCert => cfg.sock.sslCert
  | .sslPrivKey => cfg.sock.sslPrivKey
  | .dev => cfg.iface.dev
  | .mtu => decimal cfg.iface.mtu.toNat
  | .ipv4 => cfg.iface.iff.ipv4
  | .ipv4Netmask => cfg.iface.iff.ipv4Netmask

def lineOf (cfg : Cfg) (k : Key) : Line := setLine (nameOf k) (valueOf cfg k)

/-- The lines of a configuration file that says everything. -/
def saved (cfg : Cfg) : List Line :=
  .sect (ascii "sys") [] :: ([.thread, .verboseLevel, .dataDir].map (lineOf cfg) ++
  .sect (ascii "socket") [] :: ([.useEncryption, .eventLoop, .sockType, .bindAddr, .bindPort,
    .backlog, .maxConn, .sslCert, .sslPrivKey].map (lineOf cfg) ++
  .sect (ascii "iface") [] :: [.dev, .mtu, .ipv4, .ipv4Netmask].map (lineOf cfg)))

/-- The configurations that a file can say: the texts fit the lines and the arrays, and there is
one device and one MTU. The last two fields of `if_info` cannot be set. -/
structure Saveable (cfg : Cfg) : Prop where
  dataDir : Fits 127 cfg.sys.dataDir
  eventLoop : Fits 63 cfg.sock.eventLoop
  bindAddr : Fits 63 cfg.sock.bindAddr
  sslCert : Fits 189 cfg.sock.sslCert
  sslPrivKey : Fits 185 cfg.sock.sslPrivKey
  dev : Fits 15 cfg.iface.dev
  ipv4 : Fits 15 cfg.iface.iff.ipv4
  ipv4Netmask : Fits 15 cfg.iface.iff.ipv4Netmask
  backlog : -2 ^ 31 ≤ cfg.sock.backlog ∧ cfg.sock.backlog < 2 ^ 31
  udp : cfg.sock.type = .udp
  oneDev : cfg.iface.iff.dev = cfg.iface.dev ∧ cfg.iface.iff.ipv4Mtu = cfg.iface.mtu
  unset : cfg.iface.iff.ipv4Pub = [] ∧ cfg.iface.iff.ipv4Dgateway = []

theorem keyOf_entry (k : Key) (value : List UInt8) : keyOf (sectOf k, nameOf k, value) = some k := by
  show keyOf (sectOf k, nameOf k, []) = some k
  cases k <;> decide

theorem serverCfgParser_entry (c : Cfg) (k : Key) (value : List UInt8) :
    serverCfgParser c (sectOf k, nameOf k, value) = setKey c value k := by
  rw [serverCfgParser, keyOf_entry]
  rfl

/-- INTERNAL: the room that a setting leaves for its value. -/
theorem name_ok (k : Key) : (setLine (nameOf k) []).Ok ∧ (nameOf k).head? ≠ some 0xEF := by
  cases k <;> decide +kernel

theorem lineOf_ok {cfg : Cfg} (h : Saveable cfg) (k : Key) : (lineOf cfg k).Ok := by
  have hroom : ∀ {n : Nat}, Fits n (valueOf cfg k) → (nameOf k).length + 1 + n ≤ 198 →
      (lineOf cfg k).Ok := fun hfits hlen => setLine_ok (name_ok k).1 (name_ok k).2 hfits hlen
  cases k
  case thread => exact hroom (fits_u8 _) (by decide)
  case verboseLevel => exact hroom (fits_u8 _) (by decide)
  case dataDir => exact hroom h.dataDir (by decide)
  case useEncryption => exact hroom (fits_bit _) (by decide)
  case eventLoop => exact hroom h.eventLoop (by decide)
  case sockType => exact hroom fits_udp (by decide)
  case bindAddr => exact hroom h.bindAddr (by decide)
  case bindPort => exact hroom (fits_u16 _) (by decide)
  case backlog => exact hroom (fits_decimalInt h.backlog.1 h.backlog.2) (by decide)
  case maxConn => exact hroom (fits_u16 _) (by decide)
  case sslCert => exact hroom h.sslCert (by decide)
  case sslPrivKey => exact hroom h.sslPrivKey (by decide)
  case dev => exact hroom h.dev (by decide)
  case mtu => exact hroom (fits_u16 _) (by decide)
  case ipv4 => exact hroom h.ipv4 (by decide)
  case ipv4Netmask => exact hroom h.ipv4Netmask (by decide)

theorem saved_ok {cfg : Cfg} (h : Saveable cfg) : ∀ l ∈ saved cfg, l.Ok := by
  have hsect : ∀ s ∈ [ascii "sys", ascii "socket", ascii "iface"], (Line.sect s []).Ok := by
    decide
  have hset := lineOf_ok h
  intro l hl
  simp only [saved, List.map_cons, List.map_nil, List.mem_cons, List.mem_append, List.not_mem_nil,
    or_false] at hl
  rcases hl with rfl | (rfl | rfl | rfl) | rfl | (rfl | rfl | rfl | rfl | rfl | rfl | rfl | rfl | rfl) |
    rfl | rfl | rfl | rfl | rfl
  all_goals first | exact hset _ | exact hsect _ (by simp)

theorem attached_saved (cfg : Cfg) : Attached false (saved cfg) = true := rfl

/-- INTERNAL: what options and a file without these settings leave alone. -/
theorem parseOption_unset {c c' : Cfg} {opt : SrvOpt} (h : parseOption c opt = .ok c') :
    c'.iface.iff.ipv4Pub = c.iface.iff.ipv4Pub ∧
      c'.iface.iff.ipv4Dgateway = c.iface.iff.ipv4Dgateway := by
  cases opt with
  | help => cases h
  | version => cases h
  | thread optarg =>
    simp only [parseOption] at h
    split at h <;> cases h
    exact ⟨rfl, rfl⟩
  | mtu optarg =>
    simp only [parseOption] at h
    split at h <;> cases h
    exact ⟨rfl, rfl⟩
  | sockType optarg =>
    simp only [parseOption] at h
    split at h <;> cases h
    exact ⟨rfl, rfl⟩
  | encrypt optarg =>
    cases optarg <;> cases h
    exact ⟨rfl, rfl⟩
  | _ =>
    cases h
    exact ⟨rfl, rfl⟩

theorem parseArgv_unset {opts : List SrvOpt} {c c' : Cfg} (h : parseArgv opts c = .ok c') :
    c'.iface.iff.ipv4Pub = c.iface.iff.ipv4Pub ∧
      c'.iface.iff.ipv4Dgateway = c.iface.iff.ipv4Dgateway := by
  induction opts generalizing c with
  | nil =>
    cases h
    exact ⟨rfl, rfl⟩
  | cons opt opts ih =>
    rw [parseArgv, List.foldlM_cons] at h
    cases hopt : parseOption c opt with
    | error q =>
      rw [hopt] at h
      cases h
    | ok c₁ =>
      rw [hopt] at h
      obtain ⟨h₁, h₂⟩ := ih (c := c₁) h
      obtain ⟨h₃, h₄⟩ := parseOption_unset hopt
      exact ⟨h₁.trans h₃, h₂.trans h₄⟩

/-- INTERNAL: the settings of the file replace everything else. -/
theorem foldlM_saved {cfg c : Cfg} (h : Saveable cfg) (hfile : c.sys.cfgFile = cfg.sys.cfgFile)
    (hunset : c.iface.iff.ipv4Pub = [] ∧ c.iface.iff.ipv4Dgateway = []) :
    (lineEntries [] [] (saved cfg)).foldlM serverCfgParser c = some cfg := by
  have hentries : lineEntries [] [] (saved cfg) =
      [Key.thread, .verboseLevel, .dataDir, .useEncryption, .eventLoop, .sockType, .bindAddr,
        .bindPort, .backlog, .maxConn, .sslCert, .sslPrivKey, .dev, .mtu, .ipv4, .ipv4Netmask].map
        fun k => (sectOf k, nameOf k, valueOf cfg k) := rfl
  rw [hentries]
  simp only [List.map_cons, List.map_nil, List.foldlM_cons, List.foldlM_nil, serverCfgParser_entry,
    setKey, valueOf, Option.bind_eq_bind, Option.bind_some, Option.pure_def, sockTypeOf_udp,
    Option.map_some, toNat_ofNat_decimal_u8, toNat_ofNat_decimal_u16, atoi_bit,
    atoi_decimalInt h.backlog.1 h.backlog.2, h.dataDir.strncpy2_eq 128 (by decide),
    h.eventLoop.strncpy2_eq 64 (by decide), h.bindAddr.strncpy2_eq 64 (by decide),
    h.sslCert.strncpy2_eq 256 (by decide), h.sslPrivKey.strncpy2_eq 256 (by decide),
    h.dev.strncpy2_eq 16 (by decide), h.ipv4.strncpy2_eq 16 (by decide),
    h.ipv4Netmask.strncpy2_eq 16 (by decide), hfile, hunset.1, hunset.2]
  have hudp := h.udp
  obtain ⟨hdev, hmtu⟩ := h.oneDev
  obtain ⟨hpub, hgateway⟩ := h.unset
  obtain ⟨_, ⟨_, _, _, _, _, _, _, _, _⟩, ⟨_, _, ⟨_, _, _, _, _, _⟩⟩⟩ := cfg
  cases hudp
  cases hdev
  cases hmtu
  cases hpub
  cases hgateway
  rfl

/-- INTERNAL: the server comes up with the configuration in its file. -/
theorem runServer_saved {cfg c : Cfg} (h : Saveable cfg) {opts : List SrvOpt}
    {fopen : List UInt8 → Except Int (List UInt8)} (hopts : parseArgv opts Cfg.default = .ok c)
    (hpath : c.sys.cfgFile = cfg.sys.cfgFile)
    (hopen : fopen cfg.sys.cfgFile = .ok (fileOf (saved cfg))) :
    OnDisk.runServer opts fopen = .ok cfg := by
  have hrun := foldlM_saved h hpath (parseArgv_unset hopts)
  have hparse := parseCfgFile_fileOf hopen (saved_ok h) (attached_saved cfg) hrun
  unfold OnDisk.runServer
  simp only [hopts, bind, Except.bind, hpath, hparse]
  simp [h.udp]

end Srv

/-! ## The client -/

namespace Cli

open TeaVpn2.Cli

def sectOf : Key → List UInt8
  | .thread | .verboseLevel | .dataDir => ascii "sys"
  | .dev | .overrideDefault => ascii "iface"
  | .username | .password => ascii "auth"
  | _ => ascii "socket"

def nameOf : Key → List UInt8
  | .thread => ascii "thread"
  | .verboseLevel => ascii "verbose_level"
  | .dataDir => ascii "data_dir"
  | .useEncryption => ascii "use_encryption"
  | .eventLoop => ascii "event_loop"
  | .sockType => ascii "sock_type"
  | .serverAddr => ascii "server_addr"
  | .serverPort => ascii "server_port"
  | .dev => ascii "dev"
  | .overrideDefault => ascii "override_default"
  | .username => ascii "username"
  | .password => ascii "password"

def valueOf (cfg : Cfg) : Key → List UInt8
  | .thread => decimal cfg.sys.threadNum.toNat
  | .verboseLevel => decimal cfg.sys.verboseLevel.toNat
  | .dataDir => cfg.sys.dataDir
  | .useEncryption => if cfg.sock.useEncryption then ascii "1" else ascii "0"
  | .eventLoop => cfg.sock.eventLoop
  | .sockType => ascii "udp"
  | .serverAddr => cfg.sock.serverAddr
  | .serverPort => decimal cfg.sock.serverPort.toNat
  | .dev => cfg.iface.dev
  | .overrideDefault => if cfg.iface.overrideDefault then ascii "1" else ascii "0"
  | .username => cfg.auth.username
  | .password => cfg.auth.password

def lineOf (cfg : Cfg) (k : Key) : Line := setLine (nameOf k) (valueOf cfg k)

def saved (cfg : Cfg) : List Line :=
  .sect (ascii "sys") [] :: ([.thread, .verboseLevel, .dataDir].map (lineOf cfg) ++
  .sect (ascii "socket") [] :: ([.useEncryption, .eventLoop, .sockType, .serverAddr,
    .serverPort].map (lineOf cfg) ++
  .sect (ascii "iface") [] :: ([.dev, .overrideDefault].map (lineOf cfg) ++
  .sect (ascii "auth") [] :: [.username, .password].map (lineOf cfg))))

/-- The configurations that a file can say. The addresses of the client come from the server. -/
structure Saveable (cfg : Cfg) : Prop where
  dataDir : Fits 127 cfg.sys.dataDir
  eventLoop : Fits 63 cfg.sock.eventLoop
  serverAddr : Fits 63 cfg.sock.serverAddr
  dev : Fits 15 cfg.iface.dev
  username : Fits 189 cfg.auth.username ∧ cfg.auth.username ≠ []
  password : Fits 189 cfg.auth.password ∧ cfg.auth.password ≠ []
  udp : cfg.sock.type = .udp
  unset : cfg.iface.iff = Cfg.default.iface.iff

theorem keyOf_entry (k : Key) (value : List UInt8) : keyOf (sectOf k, nameOf k, value) = some k := by
  show keyOf (sectOf k, nameOf k, []) = some k
  cases k <;> decide

theorem clientCfgParser_entry (c : Cfg) (k : Key) (value : List UInt8) :
    clientCfgParser c (sectOf k, nameOf k, value) = setKey c value k := by
  rw [clientCfgParser, keyOf_entry]
  rfl

theorem name_ok (k : Key) : (setLine (nameOf k) []).Ok ∧ (nameOf k).head? ≠ some 0xEF := by
  cases k <;> decide +kernel

theorem lineOf_ok {cfg : Cfg} (h : Saveable cfg) (k : Key) : (lineOf cfg k).Ok := by
  have hroom : ∀ {n : Nat}, Fits n (valueOf cfg k) → (nameOf k).length + 1 + n ≤ 198 →
      (lineOf cfg k).Ok := fun hfits hlen => setLine_ok (name_ok k).1 (name_ok k).2 hfits hlen
  cases k
  case thread => exact hroom (fits_u8 _) (by decide)
  case verboseLevel => exact hroom (fits_u8 _) (by decide)
  case dataDir => exact hroom h.dataDir (by decide)
  case useEncryption => exact hroom (fits_bit _) (by decide)
  case eventLoop => exact hroom h.eventLoop (by decide)
  case sockType => exact hroom fits_udp (by decide)
  case serverAddr => exact hroom h.serverAddr (by decide)
  case serverPort => exact hroom (fits_u16 _) (by decide)
  case dev => exact hroom h.dev (by decide)
  case overrideDefault => exact hroom (fits_bit _) (by decide)
  case username => exact hroom h.username.1 (by decide)
  case password => exact hroom h.password.1 (by decide)

theorem saved_ok {cfg : Cfg} (h : Saveable cfg) : ∀ l ∈ saved cfg, l.Ok := by
  have hsect : ∀ s ∈ [ascii "sys", ascii "socket", ascii "iface", ascii "auth"],
      (Line.sect s []).Ok := by
    decide
  have hset := lineOf_ok h
  intro l hl
  simp only [saved, List.map_cons, List.map_nil, List.mem_cons, List.mem_append, List.not_mem_nil,
    or_false] at hl
  rcases hl with rfl | (rfl | rfl | rfl) | rfl | (rfl | rfl | rfl | rfl | rfl) | rfl | (rfl | rfl) |
    rfl | rfl | rfl
  all_goals first | exact hset _ | exact hsect _ (by simp)

theorem attached_saved (cfg : Cfg) : Attached false (saved cfg) = true := rfl

theorem parseOption_iff {c c' : Cfg} {opt : CliOpt} (h : parseOption c opt = .ok c') :
    c'.iface.iff = c.iface.iff := by
  cases opt with
  | help => cases h
  | version => cases h
  | thread optarg =>
    simp only [parseOption] at h
    split at h <;> cases h
    rfl
  | sockType optarg =>
    simp only [parseOption] at h
    split at h <;> cases h
    rfl
  | encrypt optarg =>
    cases optarg <;> cases h
    rfl
  | _ =>
    cases h
    try rfl

theorem parseArgv_iff {opts : List CliOpt} {c c' : Cfg} (h : parseArgv opts c = .ok c') :
    c'.iface.iff = c.iface.iff := by
  induction opts generalizing c with
  | nil =>
    cases h
    rfl
  | cons opt opts ih =>
    rw [parseArgv, List.foldlM_cons] at h
    cases hopt : parseOption c opt with
    | error q =>
      rw [hopt] at h
      cases h
    | ok c₁ =>
      rw [hopt] at h
      exact (ih (c := c₁) h).trans (parseOption_iff hopt)

theorem foldlM_saved {cfg c : Cfg} (h : Saveable cfg) (hfile : c.sys.cfgFile = cfg.sys.cfgFile)
    (hunset : c.iface.iff = Cfg.default.iface.iff) :
    (lineEntries [] [] (saved cfg)).foldlM clientCfgParser c = some cfg := by
  have hentries : lineEntries [] [] (saved cfg) =
      [Key.thread, .verboseLevel, .dataDir, .useEncryption, .eventLoop, .sockType, .serverAddr,
        .serverPort, .dev, .overrideDefault, .username, .password].map
        fun k => (sectOf k, nameOf k, valueOf cfg k) := rfl
  rw [hentries]
  simp only [List.map_cons, List.map_nil, List.foldlM_cons, List.foldlM_nil, clientCfgParser_entry,
    setKey, valueOf, Option.bind_eq_bind, Option.bind_some, Option.pure_def, sockTypeOf_udp,
    Option.map_some, toNat_ofNat_decimal_u8, toNat_ofNat_decimal_u16, atoi_bit,
    h.dataDir.strncpy2_eq 128 (by decide), h.eventLoop.strncpy2_eq 64 (by decide),
    h.serverAddr.strncpy2_eq 64 (by decide), h.dev.strncpy2_eq 16 (by decide),
    h.username.1.strncpy2_eq 256 (by decide), h.password.1.strncpy2_eq 256 (by decide), hfile,
    hunset]
  have hudp := h.udp
  have hiff := h.unset
  obtain ⟨_, ⟨_, _, _, _, _⟩, ⟨_, _, _⟩, _⟩ := cfg
  cases hudp
  cases hiff
  rfl

/-- INTERNAL: the client comes up with the configuration in its file. -/
theorem runClient_saved {cfg c : Cfg} (h : Saveable cfg) {opts : List CliOpt}
    {fopen : List UInt8 → Except Int (List UInt8)} (hopts : parseArgv opts Cfg.default = .ok c)
    (hpath : c.sys.cfgFile = cfg.sys.cfgFile)
    (hopen : fopen cfg.sys.cfgFile = .ok (fileOf (saved cfg))) :
    OnDisk.runClient opts fopen = .ok cfg := by
  have hrun := foldlM_saved h hpath (parseArgv_iff hopts)
  have hparse := parseCfgFile_fileOf hopen (saved_ok h) (attached_saved cfg) hrun
  unfold OnDisk.runClient
  simp only [hopts, bind, Except.bind, hpath, hparse]
  simp [h.udp, h.username.2, h.password.2]

end Cli

/-- A server configuration that an option tries to change. -/
def cafeCfg : Srv.Cfg where
  sys := { cfgFile := ascii "cafe.ini", dataDir := ascii "data/server", threadNum := 4 }
  sock := { backlog := -1, bindAddr := ascii "0.0.0.0", bindPort := 44444, maxConn := 32 }
  iface := { dev := ascii "tvpns0", mtu := 1450
             iff := { dev := ascii "tvpns0", ipv4 := ascii "10.5.5.1"
                      ipv4Netmask := ascii "255.255.255.0", ipv4Mtu := 1450 } }

/-- INTERNAL: the password of a file, or the empty one, is a text between white space. -/
theorem storedPassword_ok (file : List UInt8) : ValueOk ((storedPassword (iniFile file)).getD []) := by
  cases hs : storedPassword (iniFile file) with
  | none => exact ⟨⟨by simp, by simp⟩, by simp, rfl⟩
  | some v =>
    obtain ⟨e, he, rfl⟩ := Option.map_eq_some_iff.mp hs
    exact (entryOk_of_mem (List.mem_of_mem_filter (List.mem_of_getLast? he))).value

/-- INTERNAL: what the password is compared with; the 255 bytes of `fpass` are enough for it. -/
theorem fpass_file (file : List UInt8) :
    ((iniFile file).entries.foldl userfileParser {}).fpass =
      (storedPassword (iniFile file)).getD [] := by
  have hok := storedPassword_ok file
  rw [fpass_parse]
  cases hs : storedPassword (iniFile file) with
  | none => rfl
  | some v =>
    rw [hs, Option.getD_some] at hok
    have hlen := hok.length_le
    show strncpy2 v 256 = v
    rw [strncpy2, cstr_eq_self hok.oneLine.noNul, List.take_of_length_le (by omega)]

theorem _teavpn2Auth_iff (file : IniFile) (password : List UInt8) (iff : IfInfo) :
    (_teavpn2Auth file password).toOption = some iff ↔
      file.ret = 0 ∧ password = (file.entries.foldl userfileParser {}).fpass ∧
        iff = ifaceSettings file := by
  unfold _teavpn2Auth
  dsimp only
  rw [iff_parse]
  by_cases hret : file.ret = 0
  · rw [if_neg (not_not.mpr hret)]
    by_cases hp : password = (file.entries.foldl userfileParser {}).fpass
    · rw [if_neg (not_not.mpr hp)]
      simp [Except.toOption, hret, hp, eq_comm]
    · rw [if_pos hp]
      simp [Except.toOption, hp]
  · rw [if_pos hret]
    simp [Except.toOption, hret]

/-- INTERNAL: **exactly the stored password lets a user in**, for every user file as it lies on the
disk: the value of its last `password`, or nothing when it has none. Since a line is cut into pieces
of 199 bytes the password is never cut to the 255 bytes of `fpass`; and a password that is longer
than that, that begins or ends with white space or has a line break in it, lets nobody in.
SOURCE: auth.c:47-184, ext/inih/inih.c:106-251 -/
theorem login_needs_stored_password (dataDir : List UInt8) (fopen : List UInt8 → Option (List UInt8))
    (username password : List UInt8) (iff : IfInfo) :
    (OnDisk.teavpn2Auth dataDir fopen username password = some iff ↔
      validateUsername username = true ∧
        ∃ file, fopen (userfilePath dataDir username) = some file ∧ (iniFile file).ret = 0 ∧
          password = (storedPassword (iniFile file)).getD [] ∧
          iff = ifaceSettings (iniFile file)) ∧
    (OnDisk.teavpn2Auth dataDir fopen username password = some iff →
      password.length ≤ 198 ∧ OneLine password ∧ strip isspace password = password) := by
  have hauth : OnDisk.teavpn2Auth dataDir fopen username password = some iff ↔
      validateUsername username = true ∧
        ∃ file, fopen (userfilePath dataDir username) = some file ∧ (iniFile file).ret = 0 ∧
          password = (storedPassword (iniFile file)).getD [] ∧
          iff = ifaceSettings (iniFile file) := by
    rw [teavpn2Auth_onDisk, teavpn2Auth]
    cases hv : validateUsername username with
    | false => simp
    | true =>
      cases hf : fopen (userfilePath dataDir username) with
      | none => simp
      | some file => simp [_teavpn2Auth_iff, fpass_file]
  refine ⟨hauth, fun hsome => ?_⟩
  obtain ⟨-, file, -, -, hp, -⟩ := hauth.mp hsome
  have hvalue := storedPassword_ok file
  rw [← hp] at hvalue
  exact ⟨hvalue.length_le, hvalue.oneLine, hvalue.stripped⟩

/-- A user as a file describes him. -/
structure User where
  username : List UInt8
  password : List UInt8
  iff : IfInfo

namespace User

/-- The lines of a user file. -/
def saved (u : User) : List Line :=
  [.sect (ascii "auth") [], setLine (ascii "username") u.username,
    setLine (ascii "password") u.password,
    .sect (ascii "iface") [], setLine (ascii "mtu") (decimal u.iff.ipv4Mtu.toNat),
    setLine (ascii "ipv4") u.iff.ipv4, setLine (ascii "ipv4_netmask") u.iff.ipv4Netmask,
    setLine (ascii "ipv4_dgateway") u.iff.ipv4Dgateway]

structure Saveable (u : User) : Prop where
  username : Fits 189 u.username
  password : Fits 189 u.password
  ipv4 : Fits 15 u.iff.ipv4
  ipv4Netmask : Fits 15 u.iff.ipv4Netmask
  ipv4Dgateway : Fits 15 u.iff.ipv4Dgateway
  unset : u.iff.dev = [] ∧ u.iff.ipv4Pub = []

theorem saved_ok {u : User} (h : u.Saveable) : ∀ l ∈ u.saved, l.Ok := by
  have hsect : ∀ s ∈ [ascii "auth", ascii "iface"], (Line.sect s []).Ok := by decide
  have hname : ∀ s ∈ [ascii "username", ascii "password", ascii "mtu", ascii "ipv4",
      ascii "ipv4_netmask", ascii "ipv4_dgateway"],
      (setLine s []).Ok ∧ s.head? ≠ some 0xEF := by
    decide +kernel
  have hset : ∀ {s v : List UInt8} {n : Nat}, s ∈ [ascii "username", ascii "password", ascii "mtu",
      ascii "ipv4", ascii "ipv4_netmask", ascii "ipv4_dgateway"] → Fits n v →
      s.length + 1 + n ≤ 198 → (setLine s v).Ok :=
    fun hs hv hlen => setLine_ok (hname _ hs).1 (hname _ hs).2 hv hlen
  intro l hl
  simp only [saved, List.mem_cons, List.not_mem_nil, or_false] at hl
  rcases hl with rfl | rfl | rfl | rfl | rfl | rfl | rfl | rfl
  · exact hsect _ (by simp)
  · exact hset (by simp) h.username (by decide)
  · exact hset (by simp) h.password (by decide)
  · exact hsect _ (by simp)
  · exact hset (by simp) (fits_u16 _) (by decide)
  · exact hset (by simp) h.ipv4 (by decide)
  · exact hset (by simp) h.ipv4Netmask (by decide)
  · exact hset (by simp) h.ipv4Dgateway (by decide)

/-- INTERNAL: what the callbacks leave. -/
theorem foldl_saved {u : User} (h : u.Saveable) :
    (lineEntries [] [] u.saved).foldl userfileParser {} =
      { fuser := u.username, fpass := u.password, iff := u.iff } := by
  have hentries : lineEntries [] [] u.saved =
      [(ascii "auth", ascii "username", u.username), (ascii "auth", ascii "password", u.password),
        (ascii "iface", ascii "mtu", decimal u.iff.ipv4Mtu.toNat),
        (ascii "iface", ascii "ipv4", u.iff.ipv4),
        (ascii "iface", ascii "ipv4_netmask", u.iff.ipv4Netmask),
        (ascii "iface", ascii "ipv4_dgateway", u.iff.ipv4Dgateway)] := rfl
  have hne : ascii "iface" ≠ ascii "auth" ∧ ascii "password" ≠ ascii "username" ∧
      ascii "ipv4" ≠ ascii "mtu" ∧ ascii "ipv4_netmask" ≠ ascii "mtu" ∧
      ascii "ipv4_netmask" ≠ ascii "ipv4" ∧ ascii "ipv4_dgateway" ≠ ascii "mtu" ∧
      ascii "ipv4_dgateway" ≠ ascii "ipv4" ∧ ascii "ipv4_dgateway" ≠ ascii "ipv4_netmask" := by
    decide
  rw [hentries]
  simp only [List.foldl_cons, List.foldl_nil, userfileParser, userfileParseAuth,
    userfileParseIface, if_true, hne, if_false, toNat_ofNat_decimal_u16,
    h.username.strncpy2_eq 256 (by decide), h.password.strncpy2_eq 256 (by decide),
    h.ipv4.strncpy2_eq 16 (by decide), h.ipv4Netmask.strncpy2_eq 16 (by decide),
    h.ipv4Dgateway.strncpy2_eq 16 (by decide)]
  obtain ⟨hdev, hpub⟩ := h.unset
  obtain ⟨_, _, ⟨_, _, _, _, _, _⟩⟩ := u
  cases hdev
  cases hpub
  rfl

end User

/-- INTERNAL: **a user that has been written logs in**, with the password that was written and with
no other one, and is given the addresses that were written.
SOURCE: auth.c:47-184, ext/inih/inih.c:106-251 -/
theorem saved_user_logs_in (u : User) (h : u.Saveable) (hvalid : validateUsername u.username = true)
    (dataDir : List UInt8) (fopen : List UInt8 → Option (List UInt8))
    (hopen : fopen (userfilePath dataDir u.username) = some (fileOf u.saved))
    (password : List UInt8) :
    OnDisk.teavpn2Auth dataDir fopen u.username password =
      if password = u.password then some u.iff else none := by
  have hatt : Attached false u.saved = true := rfl
  rw [teavpn2Auth_onDisk, teavpn2Auth, if_pos hvalid]
  simp only [hopen, Option.map_some, iniFile_fileOf (User.saved_ok h) hatt, _teavpn2Auth,
    User.foldl_saved h, ne_eq, not_true_eq_false, if_false]
  by_cases hp : password = u.password
  · rw [if_neg (not_not.mpr hp), if_pos hp]
    rfl
  · rw [if_pos hp, if_neg hp]
    rfl

/-- The user of data/server/users. -/
def exampleAccount : User where
  username := ascii "ammarfaizi2"
  password := ascii "my password; 123"
  iff := { ipv4 := ascii "10.5.5.2", ipv4Netmask := ascii "255.255.255.0"
           ipv4Dgateway := ascii "10.5.5.1", ipv4Mtu := 1470 }

theorem saved_user_logs_in_example :
    OnDisk.teavpn2Auth (ascii "data/server") (fun _ => some (fileOf exampleAccount.saved))
        (ascii "ammarfaizi2") (ascii "my password; 123") = some exampleAccount.iff ∧
      OnDisk.teavpn2Auth (ascii "data/server") (fun _ => some (fileOf exampleAccount.saved))
        (ascii "ammarfaizi2") (ascii "my password") = none := by
  have hsave : exampleAccount.Saveable := by
    refine ⟨⟨⟨?_, ?_⟩, ?_, ?_, ?_⟩, ⟨⟨?_, ?_⟩, ?_, ?_, ?_⟩, ⟨⟨?_, ?_⟩, ?_, ?_, ?_⟩, ⟨⟨?_, ?_⟩, ?_, ?_, ?_⟩,
      ⟨⟨?_, ?_⟩, ?_, ?_, ?_⟩, rfl, rfl⟩
    all_goals decide
  have hvalid : validateUsername exampleAccount.username = true := by decide
  exact ⟨(saved_user_logs_in exampleAccount hsave hvalid (ascii "data/server")
      (fun _ => some (fileOf exampleAccount.saved)) rfl (ascii "my password; 123")).trans
      (if_pos (by decide)),
    (saved_user_logs_in exampleAccount hsave hvalid (ascii "data/server")
      (fun _ => some (fileOf exampleAccount.saved)) rfl (ascii "my password")).trans
      (if_neg (by decide))⟩

end TeaVpn2.Analysis
