import TeaVpn2.Analysis.Config

/-!
# Numeric settings

The number of threads, the MTU, the port and the number of connections are read by `atoi` from
an option and by `strtoul` from an entry of the file, and narrowed to the field without a check.
So a decimal number is stored as it is written exactly if the field can hold it
(`stored_iff_inRange`), and the number of threads can become zero.

What a text writes (`IsDecimal`) is stated without the functions that read it.
-/

set_option autoImplicit false

namespace TeaVpn2.Analysis

open TeaVpn2.Lib

/-! ## Decimal numbers -/

/-- The number that decimal digits write. -/
def digitsValue (ds : List UInt8) : Nat := ds.foldl (fun n c => n * 10 + (c.toNat - 48)) 0

def Digits (ds : List UInt8) : Prop := ds ≠ [] ∧ ∀ c ∈ ds, isdigit c = true

/-- The text is the integer `n` in decimal: digits, with or without a sign. -/
inductive IsDecimal : List UInt8 → Int → Prop where
  | unsigned {ds : List UInt8} (h : Digits ds) : IsDecimal ds (digitsValue ds)
  | plus {ds : List UInt8} (h : Digits ds) : IsDecimal (43 :: ds) (digitsValue ds)
  | minus {ds : List UInt8} (h : Digits ds) : IsDecimal (45 :: ds) (-(digitsValue ds))

/-- Digits write one number. -/
theorem IsDecimal.eq_digitsValue {s : List UInt8} {n : Int} (h : IsDecimal s n) (hs : Digits s) :
    n = digitsValue s := by
  cases h with
  | unsigned _ => rfl
  | plus _ => exact absurd (hs.2 43 (List.mem_cons_self ..)) (by decide)
  | minus _ => exact absurd (hs.2 45 (List.mem_cons_self ..)) (by decide)

theorem readDigits_eq_foldl {ds : List UInt8} (h : ∀ c ∈ ds, isdigit c = true) (acc : Nat) :
    (readDigits 10 ds acc).1 = ds.foldl (fun n c => n * 10 + (c.toNat - 48)) acc := by
  induction ds generalizing acc with
  | nil => rfl
  | cons c ds ih =>
    have hc : isdigit c = true := h c (List.mem_cons_self ..)
    rw [readDigits, if_pos (digitVal_lt_of_isdigit hc), digitVal_of_isdigit hc, List.foldl_cons]
    exact ih (fun c hc => h c (List.mem_cons_of_mem _ hc)) _

theorem readDigits_digitsValue {ds : List UInt8} (h : Digits ds) :
    (readDigits 10 ds 0).1 = digitsValue ds :=
  readDigits_eq_foldl h.2 0

theorem not_isspace_of_isdigit {c : UInt8} (h : isdigit c = true) : isspace c = false := by
  have hc := (isdigit_iff c).mp h
  have h1 : c.toNat ≠ 32 := by omega
  have h2 : ¬ c.toNat ≤ 13 := by omega
  simp [isspace, ← UInt8.toNat_inj, UInt8.le_iff_toNat_le, h1, h2]

theorem dropWhile_digits {ds : List UInt8} (h : Digits ds) : ds.dropWhile isspace = ds := by
  obtain ⟨hne, hall⟩ := h
  cases ds with
  | nil => exact absurd rfl hne
  | cons c cs =>
    rw [List.dropWhile_cons, not_isspace_of_isdigit (hall c (List.mem_cons_self ..))]
    rfl

theorem digits_ne_cons {ds cs : List UInt8} {c : UInt8} (h : Digits ds) (hc : isdigit c = false) :
    ds ≠ c :: cs := by
  rintro rfl
  have hdigit := h.2 c (List.mem_cons_self ..)
  rw [hc] at hdigit
  exact Bool.noConfusion hdigit

theorem strtol10_digits {ds : List UInt8} (h : Digits ds) :
    strtol10 ds = min (digitsValue ds : Int) (2 ^ 63 - 1) := by
  rw [← readDigits_digitsValue h, strtol10, dropWhile_digits h]
  split
  · exact absurd rfl (digits_ne_cons h (by decide))
  · exact absurd rfl (digits_ne_cons h (by decide))
  · rfl

theorem strtoul10_digits {ds : List UInt8} (h : Digits ds) :
    strtoul10 ds = min (digitsValue ds) ulongMax := by
  rw [← readDigits_digitsValue h, strtoul10, dropWhile_digits h]
  split
  · exact absurd rfl (digits_ne_cons h (by decide))
  · exact absurd rfl (digits_ne_cons h (by decide))
  · rfl

theorem strtol10_of_isDecimal {s : List UInt8} {n : Int} (h : IsDecimal s n) (h₀ : 0 ≤ n)
    (hlt : n < 2 ^ 31) : strtol10 s = n := by
  cases h with
  | unsigned h =>
    rw [strtol10_digits h]
    omega
  | @plus ds h =>
    show min ((readDigits 10 ds 0).1 : Int) (2 ^ 63 - 1) = _
    rw [readDigits_digitsValue h]
    omega
  | @minus ds h =>
    show max (-((readDigits 10 ds 0).1 : Int)) (-2 ^ 63) = _
    rw [readDigits_digitsValue h]
    omega

theorem strtoul10_of_isDecimal {s : List UInt8} {n : Int} (h : IsDecimal s n) (h₀ : 0 ≤ n)
    (hlt : n < 2 ^ 31) : (strtoul10 s : Int) = n := by
  cases h with
  | unsigned h =>
    rw [strtoul10_digits h, ulongMax]
    omega
  | @plus ds h =>
    show ((min (readDigits 10 ds 0).1 ulongMax : Nat) : Int) = _
    rw [readDigits_digitsValue h, ulongMax]
    omega
  | @minus ds h =>
    -- only `-0` is not negative
    have hzero : (readDigits 10 ds 0).1 = 0 := by
      rw [readDigits_digitsValue h]
      omega
    show ((if ulongMax < (readDigits 10 ds 0).1 then ulongMax
      else (2 ^ 64 - (readDigits 10 ds 0).1) % 2 ^ 64 : Nat) : Int) = _
    rw [hzero, if_neg (Nat.not_lt_zero _)]
    omega

/-! ## Settings -/

/-- The numeric fields; the port is `bind_port` or `server_port`. -/
inductive NumField where
  | thread
  | mtu
  | port
  | maxConn
deriving DecidableEq, Repr

/-- The field holds the values below this. -/
def NumField.modulus : NumField → Nat
  | .thread => 2 ^ 8
  | _ => 2 ^ 16

/-- How a text is read: an option by `atoi`, an entry by `strtoul`. -/
inductive Reader where
  | atoi
  | strtoul
deriving DecidableEq, Repr

def Reader.read : Reader → List UInt8 → Int
  | .atoi, text => TeaVpn2.atoi text
  | .strtoul, text => strtoul10 text

/-- INTERNAL: in the range of an `int` both functions return what is written. -/
theorem Reader.read_of_isDecimal (r : Reader) {s : List UInt8} {n : Int} (h : IsDecimal s n)
    (h₀ : 0 ≤ n) (hlt : n < 2 ^ 31) : r.read s = n := by
  cases r with
  | atoi =>
    rw [read, TeaVpn2.atoi, strtol10_of_isDecimal h h₀ hlt]
    exact Int.bmod_eq_of_le (by omega) (by omega)
  | strtoul => exact strtoul10_of_isDecimal h h₀ hlt

/-- A setting: the field, how its text is read, and the text. -/
abbrev Setting : Type := NumField × Reader × List UInt8

/-- The value that is narrowed to the field `f`. -/
def Reader.narrowed (f : NumField) (x : Reader × List UInt8) : Nat :=
  (x.1.read x.2 % (f.modulus : Int)).toNat

theorem Reader.narrowed_lt (f : NumField) (x : Reader × List UInt8) :
    Reader.narrowed f x < f.modulus := by
  have hpos : (0 : Int) < f.modulus := by cases f <;> decide
  have h₀ := Int.emod_nonneg (x.1.read x.2) hpos.ne'
  have hlt := Int.emod_lt_of_pos (x.1.read x.2) hpos
  rw [narrowed]
  omega

/-- INTERNAL: a decimal number is stored as it is written exactly if the field can hold it. -/
theorem Reader.narrowed_eq_iff (f : NumField) (r : Reader) {text : List UInt8} {n : Int}
    (h : IsDecimal text n) :
    (Reader.narrowed f (r, text) : Int) = n ↔ 0 ≤ n ∧ n < f.modulus := by
  constructor
  · intro heq
    have hlt := Reader.narrowed_lt f (r, text)
    omega
  · rintro ⟨h₀, hlt⟩
    have hbound : (f.modulus : Int) ≤ 2 ^ 16 := by cases f <;> decide
    rw [narrowed, r.read_of_isDecimal h h₀ (by omega), Int.emod_eq_of_lt h₀ hlt]
    omega

section Stored

variable {C ι : Type}

/-- The setting of the field `f` in an item. -/
def settingOf (setting : ι → Option Setting) (f : NumField) (i : ι) : Option (Reader × List UInt8) :=
  (setting i).bind fun x => if x.1 = f then some x.2 else none

theorem settingOf_eq_some {setting : ι → Option Setting} {f : NumField} {i : ι}
    {x : Reader × List UInt8} : settingOf setting f i = some x ↔ setting i = some (f, x) := by
  unfold settingOf
  cases hset : setting i with
  | none => simp
  | some y =>
    obtain ⟨f', y⟩ := y
    by_cases hf : f' = f <;> simp [hf]

/-- Every numeric setting is stored as it is written: each right after its item, the last one of
a field in the end. There is at least one thread, and no run panics or leaves its arrays. -/
structure StoredAsWritten (step : C → ι → Option C) (field : C → NumField → Nat)
    (setting : ι → Option Setting) (init : C) (items : List ι) (cfg : C)
    (run : Start (Option Int)) : Prop where
  each : ∀ pre i post f r text n, items = pre ++ i :: post → setting i = some (f, r, text) →
    IsDecimal text n → ∃ c, (pre ++ [i]).foldlM step init = some c ∧ (field c f : Int) = n
  last : ∀ f r text n, lastOf (settingOf setting f) items = some (r, text) → IsDecimal text n →
    (field cfg f : Int) = n
  thread : 1 ≤ field cfg .thread
  returns : ∀ env, (startRun env run).1.isSome

/-- The decimal numbers are in the range of their fields, and the last number of threads, as it
is read, is not a multiple of 256. -/
def InRange (setting : ι → Option Setting) (items : List ι) : Prop :=
  (∀ i ∈ items, ∀ f r text n, setting i = some (f, r, text) → IsDecimal text n →
    0 ≤ n ∧ n < f.modulus) ∧
  ∀ r text, lastOf (settingOf setting .thread) items = some (r, text) → ¬ (256 : Int) ∣ r.read text

variable {step : C → ι → Option C} {field : C → NumField → Nat} {setting : ι → Option Setting}
  {init cfg : C} {items : List ι} {run : Start (Option Int)}
  (hwrites : ∀ f, Writes step (fun c => field c f) fun i =>
    (settingOf setting f i).map (Reader.narrowed f))

include hwrites

/-- INTERNAL: a field holds the last setting, narrowed. -/
theorem field_eq_last (hrun : items.foldlM step init = some cfg) (f : NumField) :
    field cfg f = ((lastOf (settingOf setting f) items).map (Reader.narrowed f)).getD
      (field init f) := by
  rw [(hwrites f).last hrun, lastOf_comp]

/-- INTERNAL: a field right after the item with its setting. -/
theorem field_after {pre : List ι} {i : ι} {c : C} {f : NumField} {r : Reader} {text : List UInt8}
    (hset : setting i = some (f, r, text)) (hc : (pre ++ [i]).foldlM step init = some c) :
    field c f = Reader.narrowed f (r, text) := by
  rw [field_eq_last hwrites hc f, lastOf_append, lastOf_singleton, settingOf_eq_some.mpr hset]
  rfl

/-- INTERNAL: the number of threads is zero only after a setting that is a multiple of 256. -/
theorem one_le_thread_iff (hrun : items.foldlM step init = some cfg) (hinit : 1 ≤ field init .thread) :
    1 ≤ field cfg .thread ↔ ∀ r text,
      lastOf (settingOf setting .thread) items = some (r, text) → ¬ (256 : Int) ∣ r.read text := by
  rw [field_eq_last hwrites hrun]
  cases hlast : lastOf (settingOf setting .thread) items with
  | none => simpa using hinit
  | some x =>
    obtain ⟨r, text⟩ := x
    have hmod : 1 ≤ Reader.narrowed .thread (r, text) ↔ ¬ (256 : Int) ∣ r.read text := by
      show 1 ≤ (r.read text % 256).toNat ↔ _
      omega
    simpa using hmod

/-- INTERNAL: **a numeric setting is stored as written exactly if it is in range**, for a step
that narrows each setting to its field. -/
theorem stored_iff_inRange (hrun : items.foldlM step init = some cfg) (hinit : 1 ≤ field init .thread)
    (hreturns : 1 ≤ field cfg .thread → ∀ env, (startRun env run).1.isSome) :
    StoredAsWritten step field setting init items cfg run ↔ InRange setting items := by
  have hthread := one_le_thread_iff hwrites hrun hinit
  constructor
  · intro h
    refine ⟨fun i hi f r text n hset hdec => ?_, hthread.mp h.thread⟩
    obtain ⟨pre, post, hitems⟩ := List.append_of_mem hi
    obtain ⟨c, hc, hstored⟩ := h.each pre i post f r text n hitems hset hdec
    rw [field_after hwrites hset hc] at hstored
    exact (Reader.narrowed_eq_iff f r hdec).mp hstored
  · rintro ⟨hrange, hmultiple⟩
    have hone := hthread.mpr hmultiple
    refine ⟨?_, ?_, hone, hreturns hone⟩
    · intro pre i post f r text n hitems hset hdec
      have hmem : i ∈ items := by
        rw [hitems]
        exact List.mem_append_right pre (List.mem_cons_self ..)
      rw [hitems, ← List.singleton_append, ← List.append_assoc] at hrun
      obtain ⟨c, hc, -⟩ := foldlM_append_some hrun
      refine ⟨c, hc, ?_⟩
      rw [field_after hwrites hset hc]
      exact (Reader.narrowed_eq_iff f r hdec).mpr (hrange i hmem f r text n hset hdec)
    · intro f r text n hlast hdec
      obtain ⟨i, hi, hset⟩ := exists_of_lastOf hlast
      rw [field_eq_last hwrites hrun f, hlast]
      apply (Reader.narrowed_eq_iff f r hdec).mpr
      exact hrange i hi f r text n (settingOf_eq_some.mp hset) hdec

end Stored

/-! ## The server -/

theorem narrowed_thread_atoi (text : List UInt8) :
    Reader.narrowed .thread (.atoi, text) = (UInt8.ofInt (atoi text)).toNat := by
  show (atoi text % 256).toNat = _
  rw [UInt8.ofInt, UInt8.toNat_ofNat']
  omega

theorem narrowed_thread_strtoul (text : List UInt8) :
    Reader.narrowed .thread (.strtoul, text) = (UInt8.ofNat (strtoul10 text)).toNat := by
  show ((strtoul10 text : Int) % 256).toNat = _
  rw [UInt8.toNat_ofNat']
  omega

theorem narrowed_atoi {f : NumField} (hf : f ≠ .thread) (text : List UInt8) :
    Reader.narrowed f (.atoi, text) = (UInt16.ofInt (atoi text)).toNat := by
  have hmod : f.modulus = 2 ^ 16 := by cases f <;> first | rfl | exact absurd rfl hf
  rw [Reader.narrowed, hmod, UInt16.ofInt, UInt16.toNat_ofNat']
  show (atoi text % 65536).toNat = _
  omega

theorem narrowed_strtoul {f : NumField} (hf : f ≠ .thread) (text : List UInt8) :
    Reader.narrowed f (.strtoul, text) = (UInt16.ofNat (strtoul10 text)).toNat := by
  have hmod : f.modulus = 2 ^ 16 := by cases f <;> first | rfl | exact absurd rfl hf
  rw [Reader.narrowed, hmod, UInt16.toNat_ofNat']
  show ((strtoul10 text : Int) % 65536).toNat = _
  omega

namespace Srv

open TeaVpn2.Srv

def numField (c : Cfg) : NumField → Nat
  | .thread => c.sys.threadNum.toNat
  | .mtu => c.iface.mtu.toNat
  | .port => c.sock.bindPort.toNat
  | .maxConn => c.sock.maxConn.toNat

/-- The numeric settings: `-t`, `-m`, `-P` and the entries `thread`, `mtu`, `bind_port`,
`max_conn`. -/
def setting : SrvItem → Option Setting
  | .inl (.thread optarg) => some (.thread, .atoi, optarg)
  | .inl (.mtu optarg) => some (.mtu, .atoi, optarg)
  | .inl (.bindPort optarg) => some (.port, .atoi, optarg)
  | .inl _ => none
  | .inr e =>
      match keyOf e with
      | some .thread => some (.thread, .strtoul, e.2.2)
      | some .mtu => some (.mtu, .strtoul, e.2.2)
      | some .bindPort => some (.port, .strtoul, e.2.2)
      | some .maxConn => some (.maxConn, .strtoul, e.2.2)
      | _ => none

/-- What the option writes, seen as a setting. -/
theorem option_written (opt : SrvOpt) :
    (threadArg opt).map UInt8.toNat =
      (settingOf setting .thread (.inl opt)).map (Reader.narrowed .thread) ∧
    (mtuArg opt).map UInt16.toNat =
      (settingOf setting .mtu (.inl opt)).map (Reader.narrowed .mtu) ∧
    (portArg opt).map UInt16.toNat =
      (settingOf setting .port (.inl opt)).map (Reader.narrowed .port) ∧
    none = (settingOf setting .maxConn (.inl opt)).map (Reader.narrowed .maxConn) := by
  cases opt <;>
    simp [threadArg, mtuArg, portArg, settingOf, setting, narrowed_thread_atoi, narrowed_atoi]

/-- What the entry writes, seen as a setting. -/
theorem entry_written (e : Entry) :
    (threadEntry e).map UInt8.toNat =
      (settingOf setting .thread (.inr e)).map (Reader.narrowed .thread) ∧
    (mtuEntry e).map UInt16.toNat =
      (settingOf setting .mtu (.inr e)).map (Reader.narrowed .mtu) ∧
    (portEntry e).map UInt16.toNat =
      (settingOf setting .port (.inr e)).map (Reader.narrowed .port) ∧
    (maxConnEntry e).map UInt16.toNat =
      (settingOf setting .maxConn (.inr e)).map (Reader.narrowed .maxConn) := by
  simp only [threadEntry, mtuEntry, portEntry, maxConnEntry, entryValue, settingOf, setting]
  cases keyOf e with
  | none => simp
  | some k => cases k <;> simp [narrowed_thread_strtoul, narrowed_strtoul]

theorem writes_numField (f : NumField) :
    Writes srvStep (fun c => numField c f) fun i =>
      (settingOf setting f i).map (Reader.narrowed f) := by
  cases f with
  | thread =>
    have hwrites : Writes srvStep (fun c => c.sys.threadNum) (Sum.elim threadArg threadEntry) :=
      fun _ _ _ hstep => (effect_step hstep).threadNum
    refine hwrites.comp UInt8.toNat fun i => ?_
    cases i with
    | inl opt => exact (option_written opt).1
    | inr e => exact (entry_written e).1
  | mtu =>
    have hwrites : Writes srvStep (fun c => c.iface.mtu) (Sum.elim mtuArg mtuEntry) :=
      fun _ _ _ hstep => (effect_step hstep).mtu
    refine hwrites.comp UInt16.toNat fun i => ?_
    cases i with
    | inl opt => exact (option_written opt).2.1
    | inr e => exact (entry_written e).2.1
  | port =>
    have hwrites : Writes srvStep (fun c => c.sock.bindPort) (Sum.elim portArg portEntry) :=
      fun _ _ _ hstep => (effect_step hstep).bindPort
    refine hwrites.comp UInt16.toNat fun i => ?_
    cases i with
    | inl opt => exact (option_written opt).2.2.1
    | inr e => exact (entry_written e).2.2.1
  | maxConn =>
    have hwrites : Writes srvStep (fun c => c.sock.maxConn) (Sum.elim (fun _ => none) maxConnEntry) :=
      fun _ _ _ hstep => (effect_step hstep).maxConn
    refine hwrites.comp UInt16.toNat fun i => ?_
    cases i with
    | inl opt => exact (option_written opt).2.2.2
    | inr e => exact (entry_written e).2.2.2

end Srv

/-! ## The client -/

namespace Cli

open TeaVpn2.Cli

/-- The client has no MTU and no number of connections. -/
def numField (c : Cfg) : NumField → Nat
  | .thread => c.sys.threadNum.toNat
  | .port => c.sock.serverPort.toNat
  | _ => 0

/-- The numeric settings: `-t`, `-P` and the entries `thread`, `server_port`. -/
def setting : CliItem → Option Setting
  | .inl (.thread optarg) => some (.thread, .atoi, optarg)
  | .inl (.serverPort optarg) => some (.port, .atoi, optarg)
  | .inl _ => none
  | .inr e =>
      match keyOf e with
      | some .thread => some (.thread, .strtoul, e.2.2)
      | some .serverPort => some (.port, .strtoul, e.2.2)
      | _ => none

/-- What the option writes, seen as a setting. -/
theorem option_written (opt : CliOpt) :
    (threadArg opt).map UInt8.toNat =
      (settingOf setting .thread (.inl opt)).map (Reader.narrowed .thread) ∧
    (portArg opt).map UInt16.toNat =
      (settingOf setting .port (.inl opt)).map (Reader.narrowed .port) ∧
    settingOf setting .mtu (.inl opt) = none ∧ settingOf setting .maxConn (.inl opt) = none := by
  cases opt <;> simp [threadArg, portArg, settingOf, setting, narrowed_thread_atoi, narrowed_atoi]

/-- What the entry writes, seen as a setting. -/
theorem entry_written (e : Entry) :
    (threadEntry e).map UInt8.toNat =
      (settingOf setting .thread (.inr e)).map (Reader.narrowed .thread) ∧
    (portEntry e).map UInt16.toNat =
      (settingOf setting .port (.inr e)).map (Reader.narrowed .port) ∧
    settingOf setting .mtu (.inr e) = none ∧ settingOf setting .maxConn (.inr e) = none := by
  simp only [threadEntry, portEntry, entryValue, settingOf, setting]
  cases keyOf e with
  | none => simp
  | some k => cases k <;> simp [narrowed_thread_strtoul, narrowed_strtoul]

theorem writes_numField (f : NumField) :
    Writes cliStep (fun c => numField c f) fun i =>
      (settingOf setting f i).map (Reader.narrowed f) := by
  cases f with
  | thread =>
    have hwrites : Writes cliStep (fun c => c.sys.threadNum) (Sum.elim threadArg threadEntry) :=
      fun _ _ _ hstep => (effect_step hstep).threadNum
    refine hwrites.comp UInt8.toNat fun i => ?_
    cases i with
    | inl opt => exact (option_written opt).1
    | inr e => exact (entry_written e).1
  | port =>
    have hwrites : Writes cliStep (fun c => c.sock.serverPort) (Sum.elim portArg portEntry) :=
      fun _ _ _ hstep => (effect_step hstep).serverPort
    refine hwrites.comp UInt16.toNat fun i => ?_
    cases i with
    | inl opt => exact (option_written opt).2.1
    | inr e => exact (entry_written e).2.1
  | mtu =>
    intro c i c' _
    cases i with
    | inl opt => simp [numField, (option_written opt).2.2.1]
    | inr e => simp [numField, (entry_written e).2.2.1]
  | maxConn =>
    intro c i c' _
    cases i with
    | inl opt => simp [numField, (option_written opt).2.2.2]
    | inr e => simp [numField, (entry_written e).2.2.2]

end Cli

/-! ## Every accepted run -/

/-- INTERNAL: **when numeric settings are stored as written.** For every command line and file that
the server or the client accepts, every numeric setting is stored as the integer that is written, and
there is a thread, exactly if every decimal number is in the range of its field and the last
number of threads, as it is read, is not a multiple of 256.
SOURCE: server/entry.c:203-376, client/entry.c:178-307, server/linux/udp_epoll.c:155-201 -/
theorem numeric_settings_iff (o : ByteOrder) (fopen : List UInt8 → Except Int IniFile) :
    (∀ opts cfg, runServer opts fopen = .ok cfg →
      (StoredAsWritten srvStep Srv.numField Srv.setting Srv.Cfg.default (Srv.items opts fopen) cfg
          (Srv.teavpn2ServerUdpRun cfg) ↔
        InRange Srv.setting (Srv.items opts fopen))) ∧
    (∀ opts cfg, runClient opts fopen = .ok cfg →
      (StoredAsWritten cliStep Cli.numField Cli.setting Cli.Cfg.default (Cli.items opts fopen) cfg
          (Cli.teavpn2ClientUdpRun o cfg) ↔
        InRange Cli.setting (Cli.items opts fopen))) := by
  constructor
  · intro opts cfg h
    apply stored_iff_inRange Srv.writes_numField (Srv.runServer_items h) (by decide)
    intro hthread env
    exact (returns_teavpn2ServerUdpRun (Nat.one_le_iff_ne_zero.mp hthread)).run []
  · intro opts cfg h
    apply stored_iff_inRange Cli.writes_numField (Cli.runClient_items h) (by decide)
    intro hthread env
    exact (returns_teavpn2ClientUdpRun o (Nat.one_le_iff_ne_zero.mp hthread)).run []

/-- The server with `-t 4` and without a file. -/
def fourThreads : Srv.Cfg :=
  { Srv.Cfg.default with sys := { Srv.Cfg.default.sys with threadNum := 4 } }

/-- The options of a client that connects on port 70000. -/
def port70000 : List CliOpt :=
  [.serverPort (ascii "70000"), .username (ascii "tea"), .password (ascii "pot")]

/-- The configuration they give: the port is 4464. -/
def port4464 : Cli.Cfg :=
  { Cli.Cfg.default with
    sock := { Cli.Cfg.default.sock with serverPort := 4464 }
    auth := { username := ascii "tea", password := ascii "pot" } }

theorem numeric_settings_iff_four :
    runServer [.thread (ascii "4")] Srv.noFile = .ok fourThreads ∧
    StoredAsWritten srvStep Srv.numField Srv.setting Srv.Cfg.default
      (Srv.items [.thread (ascii "4")] Srv.noFile) fourThreads
      (Srv.teavpn2ServerUdpRun fourThreads) ∧
    runClient port70000 Srv.noFile = .ok port4464 ∧
    ¬ StoredAsWritten cliStep Cli.numField Cli.setting Cli.Cfg.default
      (Cli.items port70000 Srv.noFile) port4464 (Cli.teavpn2ClientUdpRun .little port4464) := by
  have hrun : runServer [.thread (ascii "4")] Srv.noFile = .ok fourThreads := by decide
  have hcli : runClient port70000 Srv.noFile = .ok port4464 := by decide
  refine ⟨hrun, ((numeric_settings_iff .little Srv.noFile).1 _ _ hrun).mpr ⟨?_, ?_⟩, hcli,
    fun hstored => ?_⟩
  · intro i hi f r text n hset hdec
    have hi : i = .inl (.thread (ascii "4")) := List.mem_singleton.mp hi
    rw [hi] at hset
    obtain ⟨rfl, rfl, rfl⟩ : .thread = f ∧ .atoi = r ∧ ascii "4" = text := by
      simpa [Srv.setting] using hset
    have hn : n = 4 := hdec.eq_digitsValue ⟨by decide, by decide +kernel⟩
    rw [hn]
    decide
  · intro r text hlast
    obtain ⟨rfl, rfl⟩ : .atoi = r ∧ ascii "4" = text := by
      have hval : lastOf (settingOf Srv.setting .thread)
          (Srv.items [.thread (ascii "4")] Srv.noFile) = some (.atoi, ascii "4") := by
        decide
      simpa [hval] using hlast
    decide
  · have hrange := ((numeric_settings_iff .little Srv.noFile).2 _ _ hcli).mp hstored
    have hdec : IsDecimal (ascii "70000") 70000 :=
      IsDecimal.unsigned ⟨by decide, by decide +kernel⟩
    have hmem : .inl (.serverPort (ascii "70000")) ∈ Cli.items port70000 Srv.noFile :=
      List.mem_append_left _ (List.mem_cons_self ..)
    have hbad := hrange.1 _ hmem .port .atoi (ascii "70000") 70000 rfl hdec
    exact absurd hbad.2 (by decide)

/-- The server with `-t 256` and without a file. -/
def noThreads : Srv.Cfg :=
  { Srv.Cfg.default with sys := { Srv.Cfg.default.sys with threadNum := 0 } }

/-- `-t 256` is accepted and stored as 0: the server panics when everything else succeeds. -/
theorem thread_256_stored_as_zero :
    runServer [.thread (ascii "256")] Srv.noFile = .ok noThreads ∧
    IsDecimal (ascii "256") 256 ∧
    ¬ StoredAsWritten srvStep Srv.numField Srv.setting Srv.Cfg.default
      (Srv.items [.thread (ascii "256")] Srv.noFile) noThreads
      (Srv.teavpn2ServerUdpRun noThreads) ∧
    (startRun offline (Srv.teavpn2ServerUdpRun noThreads)).1 = none := by
  refine ⟨by decide, ?_, fun hstored => ?_, by decide⟩
  · exact IsDecimal.unsigned ⟨by decide, by decide +kernel⟩
  · exact absurd hstored.thread (by decide)

end TeaVpn2.Analysis
