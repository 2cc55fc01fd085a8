import TeaVpn2.Analysis.ShellQuoting
import TeaVpn2.Analysis.Netmask
import TeaVpn2.Analysis.IfaceTrace

/-!
# The arrays behind the escapes

`escapeshellarg` is given an array and no length. It needs three bytes more than the string
and three for every quote in it (`fits_iff`), so whether a call of `teavpn_iface_toggle`
stays inside its arrays depends on where the strings come from: the addresses were printed
by the function itself and always fit, the device name, the gateway of `ip route show`, the
address of the server and the gateway of the tunnel are whatever they are.
-/

set_option autoImplicit false

namespace TeaVpn2.Analysis

open TeaVpn2.Iface

/-! ## One escape -/

/-- The bytes an escape stores, with the terminator. -/
def escapedSize (str : List UInt8) : Nat := (cstr str).length + 3 * (cstr str).count 39 + 3

theorem length_cmd_escapeshellarg (alloc : Option Nat) (str : List UInt8) :
    (escapeshellarg alloc str (strlen str)).cmd.length + 1 = escapedSize str := by
  have hlen := resLen_escapeshellarg alloc str
  have hcmd : (escapeshellarg alloc str (strlen str)).resLen =
      (escapeshellarg alloc str (strlen str)).cmd.length := rfl
  unfold escapedSize
  omega

/-- INTERNAL: when an escape fits in an array of the caller. -/
theorem fits_iff (room : Nat) (str : List UInt8) :
    (escapeshellarg (some room) str (strlen str)).Fits ↔ escapedSize str ≤ room := by
  unfold Escaped.Fits
  rw [length_cmd_escapeshellarg]
  rfl

/-- INTERNAL: the memory the function allocates is enough unless every character is a
quote. -/
theorem alloc_fits_iff (str : List UInt8) :
    (escapeshellarg none str (strlen str)).Fits ↔ ∃ c ∈ cstr str, c ≠ 39 := by
  have hroom : (escapeshellarg none str (strlen str)).room = (cstr str).length * 4 + 1 := by
    show (if strlen str > 0 then strlen str else strlen str) * 4 + 1 = _
    rw [ite_self]
    rfl
  have hcount := List.count_le_length (a := (39 : UInt8)) (l := cstr str)
  have hall := List.count_eq_length (a := (39 : UInt8)) (l := cstr str)
  unfold Escaped.Fits
  rw [length_cmd_escapeshellarg, hroom, escapedSize]
  constructor
  · intro h
    by_contra hno
    push Not at hno
    have heq := hall.mpr fun b hb => (hno b hb).symm
    omega
  · rintro ⟨c, hc, hne⟩
    have hlt : (cstr str).count 39 ≠ (cstr str).length := fun heq => hne (hall.mp heq c hc).symm
    omega

/-- INTERNAL: a text without quotes needs three bytes more. -/
theorem escapedSize_of_not_mem {str : List UInt8} (h0 : (0 : UInt8) ∉ str)
    (h39 : (39 : UInt8) ∉ str) : escapedSize str = str.length + 3 := by
  rw [escapedSize, cstr_eq_self h0, List.count_eq_zero.mpr h39]

/-! ## The texts of the function itself -/

theorem quote_not_mem_inetNtop (a : UInt32) : (39 : UInt8) ∉ inetNtop a := by
  intro h
  cases mem_inetNtop h with
  | inl h => exact absurd h (by decide)
  | inr h => exact absurd h (by decide)

/-- INTERNAL: `/cidr` holds a slash and digits. -/
theorem mem_cidrText {c : UInt8} {cidr : UInt8} (h : c ∈ cidrText cidr) :
    isdigit c = true ∨ c = 47 := by
  have hslash : ascii "/" = [47] := by decide
  rw [cidrText, hslash, List.mem_append, List.mem_singleton] at h
  cases h with
  | inl h => exact .inr h
  | inr h => exact .inl (isdigit_of_mem_decimal h)

theorem not_mem_cidrText {c : UInt8} (cidr : UInt8) (hd : isdigit c = false) (hs : c ≠ 47) :
    c ∉ cidrText cidr := by
  intro h
  cases mem_cidrText h with
  | inl h =>
    rw [hd] at h
    cases h
  | inr h => exact hs h

/-- INTERNAL: an address with or without its prefix length fits. -/
theorem escapedSize_address (a : UInt32) (x : UInt32) :
    escapedSize (inetNtop a) ≤ IPV4_ELI ∧
      escapedSize (inetNtop a ++ cidrText (cidrLoop 32 x 0)) ≤ IPV4_ELI := by
  have hlen := length_inetNtop_le a
  have hsuffix : (cidrText (cidrLoop 32 x 0)).length ≤ 3 := by
    rw [length_cidrText]
    split_ifs <;> omega
  have h0 : (0 : UInt8) ∉ inetNtop a ++ cidrText (cidrLoop 32 x 0) := by
    rw [List.mem_append, not_or]
    exact ⟨zero_not_mem_inetNtop a, not_mem_cidrText _ (by decide) (by decide)⟩
  have h39 : (39 : UInt8) ∉ inetNtop a ++ cidrText (cidrLoop 32 x 0) := by
    rw [List.mem_append, not_or]
    exact ⟨quote_not_mem_inetNtop a, not_mem_cidrText _ (by decide) (by decide)⟩
  have hroom : IPV4_ELI = 33 := rfl
  rw [escapedSize_of_not_mem (zero_not_mem_inetNtop a) (quote_not_mem_inetNtop a),
    escapedSize_of_not_mem h0 h39, List.length_append, hroom]
  omega

/-- INTERNAL: texts are computed only from an accepted address and netmask. -/
theorem accepted_of_saneStrncpy {s : List UInt8} {a : UInt32}
    (h : inetPton (saneStrncpy s IPV4_LI) = some a) : inetPton s = some a := by
  have hcut : cstr ((cstr s).take 16) = (cstr s).take 16 := by
    apply cstr_eq_self
    exact fun hmem => zero_not_mem_cstr s (List.mem_of_mem_take hmem)
  have htext : (cstr s).take 16 = inetNtop a := by
    have hs := cstr_eq_inetNtop h
    rwa [show saneStrncpy s IPV4_LI = (cstr s).take 16 from rfl, hcut] at hs
  have hlen := length_inetNtop_le a
  rw [← htext, List.length_take] at hlen
  have hwhole : (cstr s).take 16 = cstr s := List.take_of_length_le (by omega)
  unfold inetPton at h ⊢
  rwa [show saneStrncpy s IPV4_LI = (cstr s).take 16 from rfl, hwhole,
    cstr_eq_self (zero_not_mem_cstr s)] at h

theorem accepted_of_ifaceTexts {o : ByteOrder} {iface : IfInfo} {t : IfaceTexts}
    (ht : ifaceTexts o iface = some t) :
    ∃ a m, inetPton iface.ipv4 = some a ∧ inetPton iface.ipv4Netmask = some m := by
  unfold ifaceTexts at ht
  simp only at ht
  cases hm : inetPton (saneStrncpy iface.ipv4Netmask IPV4_LI) with
  | none => simp [hm] at ht
  | some m =>
    cases ha : inetPton (saneStrncpy iface.ipv4 IPV4_LI) with
    | none => simp [hm, ha] at ht
    | some a => exact ⟨a, m, accepted_of_saneStrncpy ha, accepted_of_saneStrncpy hm⟩

/-- INTERNAL: of the first four escapes only the one of the device name can fail. -/
theorem firstStores_fit {o : ByteOrder} {iface : IfInfo} {t : IfaceTexts}
    (ht : ifaceTexts o iface = some t) :
    (∀ e ∈ firstStores iface t, e.Fits) ↔ escapedSize iface.dev ≤ IFACENAMESIZ * 2 := by
  obtain ⟨a, m, ha, hm⟩ := accepted_of_ifaceTexts ht
  rw [ifaceTexts_eq o iface ha hm, Option.some.injEq] at ht
  subst ht
  have haddr := (escapedSize_address a (htonl o m)).2
  have hnw := (escapedSize_address (a &&& m) (htonl o m)).2
  have hbc := (escapedSize_address (a &&& m ||| ~~~m) (htonl o m)).1
  simp only [firstStores, List.forall_mem_cons, fits_iff]
  simp [haddr, hnw, hbc]

/-! ## All escapes of a call -/

/-- Whatever the `ip` commands answer, with the output `out` of `ip route show` every escape
of the call stays inside its array. -/
def EscapesFit (o : ByteOrder) (iface : IfInfo) (up s : Bool) (out : Option (List UInt8)) : Prop :=
  ∀ k : Results, k.popen = out → ∀ e ∈ stores (trace k (teavpnIfaceToggle o iface up s)), e.Fits

/-- The routes fit: the gateway that was found, the address of the server and, if there is
one, the gateway of the tunnel. -/
def RoutesFit (iface : IfInfo) (rdgw : List UInt8) : Prop :=
  escapedSize rdgw ≤ IPV4_ELI ∧ escapedSize iface.ipv4Pub ≤ IPV4_ELI ∧
    (nonEmpty iface.ipv4Dgateway = true → escapedSize iface.ipv4Dgateway ≤ IPV4_ELI)

/-- The answers of a system on which everything succeeds. -/
def allSucceed (out : Option (List UInt8)) : Results where
  access _ := 0
  system _ := 0
  popen := out

/-- INTERNAL: the escapes of the routes. -/
theorem toggleRoutes_fit {k : Results} {iface : IfInfo} (up s : Bool) (ip cbuf : List UInt8)
    (h : ∀ rdgw, cutGateway (routeShow cbuf k.popen) = some rdgw → RoutesFit iface rdgw) :
    ∀ e ∈ stores (trace k (toggleRoutes iface up s ip cbuf)), e.Fits := by
  cases hgw : cutGateway (routeShow cbuf k.popen) with
  | none =>
    rw [(toggleRoutes_none k iface s ip up cbuf hgw).1]
    simp
  | some rdgw =>
    obtain ⟨hrdgw, hpub, hdgw⟩ := h rdgw hgw
    rw [(toggleRoutes_spec k iface s ip up cbuf hgw).1]
    intro e he
    rw [List.mem_append] at he
    cases he with
    | inl he =>
      simp only [List.mem_cons, List.not_mem_nil, or_false] at he
      rcases he with rfl | rfl
      · exact (fits_iff _ _).mpr hrdgw
      · exact (fits_iff _ _).mpr hpub
    | inr he =>
      split at he
      · next hcond =>
        rw [(toggleDgateway_spec k iface s ip up).1, List.mem_singleton] at he
        subst he
        exact (fits_iff _ _).mpr (hdgw hcond.2)
      · cases he

/-- INTERNAL: where everything succeeds, the routes are escaped. -/
theorem routesFit_of_allSucceed {iface : IfInfo} (up s : Bool) (ip cbuf : List UInt8)
    {out : Option (List UInt8)} {rdgw : List UInt8}
    (hgw : cutGateway (routeShow cbuf out) = some rdgw)
    (h : ∀ e ∈ stores (trace (allSucceed out) (toggleRoutes iface up s ip cbuf)), e.Fits) :
    RoutesFit iface rdgw := by
  have hspec := (toggleRoutes_spec (allSucceed out) iface s ip up cbuf hgw).1
  rw [hspec] at h
  refine ⟨(fits_iff _ _).mp (h _ (by simp)), (fits_iff _ _).mp (h _ (by simp)), ?_⟩
  intro hdg
  apply (fits_iff _ _).mp
  apply h
  rw [List.mem_append]
  right
  rw [if_pos ⟨rfl, hdg⟩, (toggleDgateway_spec (allSucceed out) iface s ip up).1]
  exact List.mem_singleton.mpr rfl

/-- An interface as a server of the tests sends it, on a host with a gateway. -/
def ifaceFits : IfInfo :=
  { dev := ascii "tvpn0", ipv4Pub := ascii "127.0.0.1", ipv4 := ascii "10.5.5.2",
    ipv4Netmask := ascii "255.255.255.0", ipv4Dgateway := ascii "10.5.5.1", ipv4Mtu := 1450 }

def routeShowOut : Option (List UInt8) := some (ascii "default via 192.168.1.1 dev eth0 ")

/-- The texts of an interface that is accepted. -/
theorem ifaceTexts_get (o : ByteOrder) (iface : IfInfo) (h : (ifaceTexts o iface).isSome = true) :
    ifaceTexts o iface = some ((ifaceTexts o iface).get h) :=
  (Option.some_get h).symm

/-- The same interface with a public address of fifteen quotes: the escape of it needs 63
bytes. -/
def ifaceQuotes : IfInfo := { ifaceFits with ipv4Pub := List.replicate 15 39 }

end TeaVpn2.Analysis
