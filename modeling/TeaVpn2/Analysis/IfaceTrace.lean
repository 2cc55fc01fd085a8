import TeaVpn2.Program.Iface

/-!
# What the interface code leaves in its trace

The answers during one call of `teavpn_iface_toggle` do not depend on the trace, so a piece
of interface code has a `result` and a `trace` of its own, and both follow its text: the
trace of a sequence is the trace of its parts, one behind the other. The trace is looked at
through two views, the stores of `escapeshellarg` and the commands given to the shell.
-/

set_option autoImplicit false

namespace TeaVpn2.Analysis

open TeaVpn2.Lib TeaVpn2.Iface

variable {α β : Type}

/-- What a piece of interface code returns under the answers `k`. -/
def result (k : Results) (p : IfaceProg α) : α := (runIface k p []).1

/-- The events of a piece of interface code under the answers `k`. -/
def trace (k : Results) (p : IfaceProg α) : List IfaceEvent := (runIface k p []).2

/-- INTERNAL: a run adds its own events to the trace it starts with. -/
theorem runIface_eq (k : Results) (p : IfaceProg α) (tr : List IfaceEvent) :
    runIface k p tr = (result k p, tr ++ trace k p) := by
  unfold result trace runIface
  induction p generalizing tr with
  | pure a => simp [Prog.run]
  | op o c ih =>
    simp only [Prog.run]
    have hanswer : (exec k o tr).1 = (exec k o []).1 := by cases o <;> rfl
    have hevent : (exec k o tr).2 = tr ++ (exec k o []).2 := by cases o <;> rfl
    rw [hanswer, ih _ (exec k o tr).2, ih _ (exec k o []).2, hevent, List.append_assoc]

@[simp] theorem result_pure (k : Results) (a : α) : result k (pure a : IfaceProg α) = a := rfl

@[simp] theorem trace_pure (k : Results) (a : α) : trace k (pure a : IfaceProg α) = [] := rfl

@[simp] theorem result_bind (k : Results) (p : IfaceProg α) (f : α → IfaceProg β) :
    result k (p >>= f) = result k (f (result k p)) := by
  have hrest := runIface_eq k (f (result k p)) (trace k p)
  show (Prog.run _ (p >>= f) []).1 = _
  rw [Prog.run_bind]
  show (runIface k (f (result k p)) (trace k p)).1 = _
  rw [hrest]

@[simp] theorem trace_bind (k : Results) (p : IfaceProg α) (f : α → IfaceProg β) :
    trace k (p >>= f) = trace k p ++ trace k (f (result k p)) := by
  have hrest := runIface_eq k (f (result k p)) (trace k p)
  show (Prog.run _ (p >>= f) []).2 = _
  rw [Prog.run_bind]
  show (runIface k (f (result k p)) (trace k p)).2 = _
  rw [hrest]

@[simp] theorem result_access (k : Results) (path : List UInt8) :
    result k (access path) = k.access path := rfl

@[simp] theorem trace_access (k : Results) (path : List UInt8) :
    trace k (access path) = [.access path (k.access path)] := rfl

@[simp] theorem result_system (k : Results) (cmd : IpCmd) (line : List UInt8) :
    result k (system cmd line) = k.system cmd := rfl

@[simp] theorem trace_system (k : Results) (cmd : IpCmd) (line : List UInt8) :
    trace k (system cmd line) = [.system cmd line (k.system cmd)] := rfl

@[simp] theorem result_popen (k : Results) (line : List UInt8) :
    result k (popen line) = k.popen := rfl

@[simp] theorem trace_popen (k : Results) (line : List UInt8) :
    trace k (popen line) = [.popen line k.popen] := rfl

/-! ## The two views -/

/-- The stores of `escapeshellarg`, in order. -/
def stores (tr : List IfaceEvent) : List Escaped :=
  tr.filterMap fun
    | .stored e => some e
    | _ => none

/-- The commands given to the shell and their results, in order. -/
def systems (tr : List IfaceEvent) : List (IpCmd × Int) :=
  tr.filterMap fun
    | .system cmd _ ret => some (cmd, ret)
    | _ => none

@[simp] theorem stores_append (a b : List IfaceEvent) : stores (a ++ b) = stores a ++ stores b :=
  List.filterMap_append

@[simp] theorem systems_append (a b : List IfaceEvent) :
    systems (a ++ b) = systems a ++ systems b :=
  List.filterMap_append

@[simp] theorem stores_nil : stores [] = [] := rfl

@[simp] theorem systems_nil : systems [] = [] := rfl

@[simp] theorem stores_system (cmd : IpCmd) (line : List UInt8) (ret : Int) :
    stores [.system cmd line ret] = [] := rfl

@[simp] theorem systems_system (cmd : IpCmd) (line : List UInt8) (ret : Int) :
    systems [.system cmd line ret] = [(cmd, ret)] := rfl

@[simp] theorem stores_popen (line : List UInt8) (out : Option (List UInt8)) :
    stores [.popen line out] = [] := rfl

@[simp] theorem systems_popen (line : List UInt8) (out : Option (List UInt8)) :
    systems [.popen line out] = [] := rfl

/-! ## The helpers -/

/-- The text of an escape, as the commands use it. -/
def esc (str : List UInt8) : List UInt8 := (escapeshellarg none str (strlen str)).cmd

@[simp] theorem result_simpleEscArg (k : Results) (room : Nat) (str : List UInt8) :
    result k (simpleEscArg room str) = esc str := rfl

@[simp] theorem stores_simpleEscArg (k : Results) (room : Nat) (str : List UInt8) :
    stores (trace k (simpleEscArg room str)) =
      [escapeshellarg (some room) str (strlen str)] := rfl

@[simp] theorem systems_simpleEscArg (k : Results) (room : Nat) (str : List UInt8) :
    systems (trace k (simpleEscArg room str)) = [] := rfl

@[simp] theorem result_execCmd (k : Results) (ip : List UInt8) (s : Bool) (cmd : IpCmd) :
    result k (execCmd ip s cmd) = k.system cmd := rfl

@[simp] theorem stores_execCmd (k : Results) (ip : List UInt8) (s : Bool) (cmd : IpCmd) :
    stores (trace k (execCmd ip s cmd)) = [] := rfl

@[simp] theorem systems_execCmd (k : Results) (ip : List UInt8) (s : Bool) (cmd : IpCmd) :
    systems (trace k (execCmd ip s cmd)) = [(cmd, k.system cmd)] := rfl

@[simp] theorem stores_removeLeftover (k : Results) (ip dest via : List UInt8) :
    stores (trace k (removeLeftover ip dest via)) = [] := rfl

@[simp] theorem systems_removeLeftover (k : Results) (ip dest via : List UInt8) :
    systems (trace k (removeLeftover ip dest via)) =
      [(.route false dest via, k.system (.route false dest via))] := rfl

/-- The program `ip` that `find_ip_cmd` finds. -/
def ipFound (k : Results) : Option (List UInt8) := ipBin.find? fun path => k.access path = 0

/-- INTERNAL: the search returns the first path that can be executed, and leaves neither
stores nor commands. -/
theorem findIpIn_spec (k : Results) (paths : List (List UInt8)) :
    result k (findIpIn paths) = paths.find? (fun path => k.access path = 0) ∧
      stores (trace k (findIpIn paths)) = [] ∧ systems (trace k (findIpIn paths)) = [] := by
  induction paths with
  | nil => exact ⟨rfl, rfl, rfl⟩
  | cons path rest ih =>
    unfold findIpIn
    rw [result_bind, trace_bind, result_access, trace_access, stores_append, systems_append]
    by_cases h : k.access path = 0
    · simp [h, stores, systems]
    · simp only [if_neg h, List.find?_cons, decide_eq_false h, ih.2.1, ih.2.2]
      exact ⟨ih.1, rfl, rfl⟩

@[simp] theorem result_findIpCmd (k : Results) : result k findIpCmd = ipFound k :=
  (findIpIn_spec k ipBin).1

@[simp] theorem stores_findIpCmd (k : Results) : stores (trace k findIpCmd) = [] :=
  (findIpIn_spec k ipBin).2.1

@[simp] theorem systems_findIpCmd (k : Results) : systems (trace k findIpCmd) = [] :=
  (findIpIn_spec k ipBin).2.2

/-! ## The commands of one call -/

def linkCmd (iface : IfInfo) (up : Bool) : IpCmd := .link (esc iface.dev) up iface.ipv4Mtu

def addrCmd (iface : IfInfo) (t : IfaceTexts) (up : Bool) : IpCmd :=
  .addr up (esc iface.dev) (esc t.uipv4) (esc t.uipv4Bc)

/-- The route to the server, over the real default gateway. -/
def pubCmd (iface : IfInfo) (rdgw : List UInt8) (up : Bool) : IpCmd :=
  .route up (esc iface.ipv4Pub ++ ascii "/32") (esc rdgw)

/-- The two halves of the default route, over the gateway of the tunnel. -/
def lowCmd (iface : IfInfo) (up : Bool) : IpCmd :=
  .route up (ascii "0.0.0.0/1") (esc iface.ipv4Dgateway)

def highCmd (iface : IfInfo) (up : Bool) : IpCmd :=
  .route up (ascii "128.0.0.0/1") (esc iface.ipv4Dgateway)

/-- The real default gateway, as the call finds it after the address command. -/
def realGateway (iface : IfInfo) (t : IfaceTexts) (up : Bool) (out : Option (List UInt8)) :
    Option (List UInt8) :=
  cutGateway (routeShow (cbufText (addrCmd iface t up)) out)

/-! ## The function -/

variable (k : Results) (iface : IfInfo) (s : Bool) (ip : List UInt8)

/-- INTERNAL: the default route: the stores, the commands and the result.
SOURCE: net/linux/iface.c:532-549 -/
theorem toggleDgateway_spec (up : Bool) :
    stores (trace k (toggleDgateway iface up s ip)) =
        [escapeshellarg (some IPV4_ELI) iface.ipv4Dgateway (strlen iface.ipv4Dgateway)] ∧
      systems (trace k (toggleDgateway iface up s ip)) =
        (lowCmd iface up, k.system (lowCmd iface up)) ::
          (if k.system (lowCmd iface up) = 0 then
            [(highCmd iface up, k.system (highCmd iface up))] else []) ∧
      (result k (toggleDgateway iface up s ip) = true ↔
        k.system (lowCmd iface up) = 0 ∧ k.system (highCmd iface up) = 0) := by
  simp only [toggleDgateway, lowCmd, highCmd, result_bind, trace_bind, stores_append,
    systems_append, result_simpleEscArg, stores_simpleEscArg, systems_simpleEscArg,
    result_execCmd, stores_execCmd, systems_execCmd]
  by_cases hlow : k.system (.route up (ascii "0.0.0.0/1") (esc iface.ipv4Dgateway)) = 0
  · by_cases hhigh : k.system (.route up (ascii "128.0.0.0/1") (esc iface.ipv4Dgateway)) = 0
    · simp [hlow, hhigh]
    · simp [hlow, hhigh]
  · simp [hlow]

/-- INTERNAL: the routes, where the gateway is found: the stores and the result.
SOURCE: net/linux/iface.c:479-549 -/
theorem toggleRoutes_spec (up : Bool) (cbuf : List UInt8) {rdgw : List UInt8}
    (hgw : cutGateway (routeShow cbuf k.popen) = some rdgw) :
    stores (trace k (toggleRoutes iface up s ip cbuf)) =
        [escapeshellarg (some IPV4_ELI) rdgw (strlen rdgw),
          escapeshellarg (some IPV4_ELI) iface.ipv4Pub (strlen iface.ipv4Pub)] ++
          (if k.system (pubCmd iface rdgw up) = 0 ∧ nonEmpty iface.ipv4Dgateway then
            stores (trace k (toggleDgateway iface up s ip)) else []) ∧
      systems (trace k (toggleRoutes iface up s ip cbuf)) =
        (if up then [(pubCmd iface rdgw false, k.system (pubCmd iface rdgw false))] else []) ++
          [(pubCmd iface rdgw up, k.system (pubCmd iface rdgw up))] ++
          (if k.system (pubCmd iface rdgw up) = 0 ∧ nonEmpty iface.ipv4Dgateway then
            systems (trace k (toggleDgateway iface up s ip)) else []) ∧
      (result k (toggleRoutes iface up s ip cbuf) = true ↔
        k.system (pubCmd iface rdgw up) = 0 ∧
          (nonEmpty iface.ipv4Dgateway = true → result k (toggleDgateway iface up s ip) = true)) := by
  simp only [toggleRoutes, pubCmd, result_bind, trace_bind, stores_append,
    systems_append, result_popen, trace_popen, stores_popen, systems_popen, hgw,
    result_simpleEscArg, stores_simpleEscArg, systems_simpleEscArg]
  by_cases hpub : k.system (.route up (esc iface.ipv4Pub ++ ascii "/32") (esc rdgw)) = 0
  · cases hdg : nonEmpty iface.ipv4Dgateway with
    | true => cases up <;> simp [hpub]
    | false => cases up <;> simp [hpub]
  · cases up <;> simp [hpub]

/-- INTERNAL: the routes, where no gateway is found: nothing is done.
SOURCE: net/linux/iface.c:493-500 -/
theorem toggleRoutes_none (up : Bool) (cbuf : List UInt8)
    (hgw : cutGateway (routeShow cbuf k.popen) = none) :
    stores (trace k (toggleRoutes iface up s ip cbuf)) = [] ∧
      systems (trace k (toggleRoutes iface up s ip cbuf)) = [] ∧
      result k (toggleRoutes iface up s ip cbuf) = false := by
  simp [toggleRoutes, hgw]

/-- The four escapes every call begins with. -/
def firstStores (t : IfaceTexts) : List Escaped :=
  [escapeshellarg (some IPV4_ELI) t.uipv4 (strlen t.uipv4),
    escapeshellarg (some IPV4_ELI) t.uipv4Nw (strlen t.uipv4Nw),
    escapeshellarg (some IPV4_ELI) t.uipv4Bc (strlen t.uipv4Bc),
    escapeshellarg (some (IFACENAMESIZ * 2)) iface.dev (strlen iface.dev)]

/-- INTERNAL: the call, where the texts are accepted and `ip` is found.
SOURCE: net/linux/iface.c:458-554 -/
theorem teavpnIfaceToggle_spec (o : ByteOrder) (up : Bool) {t : IfaceTexts}
    (ht : ifaceTexts o iface = some t) (hip : ipFound k = some ip) :
    stores (trace k (teavpnIfaceToggle o iface up s)) = firstStores iface t ++
        (if k.system (linkCmd iface up) = 0 ∧ k.system (addrCmd iface t up) = 0 ∧
            nonEmpty iface.ipv4Pub then
          stores (trace k (toggleRoutes iface up s ip (cbufText (addrCmd iface t up)))) else []) ∧
      systems (trace k (teavpnIfaceToggle o iface up s)) =
        (linkCmd iface up, k.system (linkCmd iface up)) ::
          (if k.system (linkCmd iface up) = 0 then
            (addrCmd iface t up, k.system (addrCmd iface t up)) ::
              (if k.system (addrCmd iface t up) = 0 ∧ nonEmpty iface.ipv4Pub then
                systems (trace k (toggleRoutes iface up s ip (cbufText (addrCmd iface t up))))
              else [])
          else []) ∧
      (result k (teavpnIfaceToggle o iface up s) = true ↔
        k.system (linkCmd iface up) = 0 ∧ k.system (addrCmd iface t up) = 0 ∧
          (nonEmpty iface.ipv4Pub = true →
            result k (toggleRoutes iface up s ip (cbufText (addrCmd iface t up))) = true)) := by
  simp only [teavpnIfaceToggle, ht, firstStores, linkCmd, addrCmd, result_bind, trace_bind,
    stores_append, systems_append, result_simpleEscArg, stores_simpleEscArg,
    systems_simpleEscArg, result_findIpCmd, stores_findIpCmd, systems_findIpCmd, hip,
    result_execCmd, stores_execCmd, systems_execCmd]
  by_cases hlink : k.system (.link (esc iface.dev) up iface.ipv4Mtu) = 0
  · by_cases haddr : k.system (.addr up (esc iface.dev) (esc t.uipv4) (esc t.uipv4Bc)) = 0
    · cases hpub : nonEmpty iface.ipv4Pub with
      | true => simp [hlink, haddr]
      | false => simp [hlink, haddr]
    · simp [hlink, haddr]
  · simp [hlink]

/-- INTERNAL: the call, where the texts are accepted and `ip` is not found. -/
theorem teavpnIfaceToggle_no_ip (o : ByteOrder) (up : Bool) {t : IfaceTexts}
    (ht : ifaceTexts o iface = some t) (hip : ipFound k = none) :
    stores (trace k (teavpnIfaceToggle o iface up s)) = firstStores iface t ∧
      systems (trace k (teavpnIfaceToggle o iface up s)) = [] ∧
      result k (teavpnIfaceToggle o iface up s) = false := by
  simp [teavpnIfaceToggle, ht, firstStores, hip]

/-- INTERNAL: the call, where the texts are not accepted. -/
theorem teavpnIfaceToggle_rejected (o : ByteOrder) (up : Bool) (ht : ifaceTexts o iface = none) :
    systems (trace k (teavpnIfaceToggle o iface up s)) = [] ∧
      result k (teavpnIfaceToggle o iface up s) = false := by
  simp [teavpnIfaceToggle, ht]

end TeaVpn2.Analysis
