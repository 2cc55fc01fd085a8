import TeaVpn2.Analysis.IfaceBuffers

/-!
# What is left of the interface configuration

`teavpn_iface_up` runs up to five commands and returns `false` at the first that fails;
`need_remove_iff` is set only when it has returned `true`, and `destroy_state` calls
`teavpn_iface_down` only if it is set. So a call that has added something and then fails
leaves it behind. `teavpn_iface_down` runs the opposite commands in the same order and also
stops at the first that fails.

The order of the commands is the order of the implications below: the address is added
when the link is up, the route to the server when the address is there, the default route
when that route is there.
-/

set_option autoImplicit false

namespace TeaVpn2.Analysis

open TeaVpn2.Iface

variable {o : ByteOrder} {iface : IfInfo} {t : IfaceTexts} {k : Results}

/-! ## The commands of a call -/

/-- INTERNAL: the commands of the default route. -/
theorem mem_systems_toggleDgateway (up s : Bool) (ip : List UInt8) (c : IpCmd) (r : Int) :
    (c, r) ∈ systems (trace k (toggleDgateway iface up s ip)) ↔
      (c = lowCmd iface up ∧ r = k.system (lowCmd iface up)) ∨
        (k.system (lowCmd iface up) = 0 ∧ c = highCmd iface up ∧
          r = k.system (highCmd iface up)) := by
  rw [(toggleDgateway_spec k iface s ip up).2.1, List.mem_cons, Prod.mk.injEq]
  by_cases hlow : k.system (lowCmd iface up) = 0 <;> simp [hlow]

/-- INTERNAL: the commands of the routes. -/
theorem mem_systems_toggleRoutes (up s : Bool) (ip cbuf : List UInt8) (c : IpCmd) (r : Int) :
    (c, r) ∈ systems (trace k (toggleRoutes iface up s ip cbuf)) ↔
      ∃ rdgw, cutGateway (routeShow cbuf k.popen) = some rdgw ∧
        ((up = true ∧ c = pubCmd iface rdgw false ∧ r = k.system (pubCmd iface rdgw false)) ∨
          (c = pubCmd iface rdgw up ∧ r = k.system (pubCmd iface rdgw up)) ∨
          (k.system (pubCmd iface rdgw up) = 0 ∧ nonEmpty iface.ipv4Dgateway = true ∧
            (c, r) ∈ systems (trace k (toggleDgateway iface up s ip)))) := by
  cases hgw : cutGateway (routeShow cbuf k.popen) with
  | none =>
    rw [(toggleRoutes_none k iface s ip up cbuf hgw).2.1]
    simp
  | some rdgw =>
    rw [(toggleRoutes_spec k iface s ip up cbuf hgw).2.1, List.mem_append, List.mem_append]
    by_cases hcond : k.system (pubCmd iface rdgw up) = 0 ∧ nonEmpty iface.ipv4Dgateway = true
    · cases up <;> simp [hcond, or_assoc]
    · rw [if_neg hcond]
      have hno : ¬(k.system (pubCmd iface rdgw up) = 0 ∧ nonEmpty iface.ipv4Dgateway = true ∧
          (c, r) ∈ systems (trace k (toggleDgateway iface up s ip))) :=
        fun h => hcond ⟨h.1, h.2.1⟩
      cases up <;> simp [hno]

/-- INTERNAL: the commands of a call.
SOURCE: net/linux/iface.c:463-549 -/
theorem mem_systems_toggle (ht : ifaceTexts o iface = some t) (up s : Bool) (c : IpCmd) (r : Int) :
    (c, r) ∈ systems (trace k (teavpnIfaceToggle o iface up s)) ↔
      ∃ ip, ipFound k = some ip ∧
        ((c = linkCmd iface up ∧ r = k.system (linkCmd iface up)) ∨
          (k.system (linkCmd iface up) = 0 ∧
            ((c = addrCmd iface t up ∧ r = k.system (addrCmd iface t up)) ∨
              (k.system (addrCmd iface t up) = 0 ∧ nonEmpty iface.ipv4Pub = true ∧
                (c, r) ∈ systems (trace k
                  (toggleRoutes iface up s ip (cbufText (addrCmd iface t up)))))))) := by
  cases hip : ipFound k with
  | none =>
    rw [(teavpnIfaceToggle_no_ip k iface s o up ht hip).2.1]
    simp
  | some ip =>
    rw [(teavpnIfaceToggle_spec k iface s ip o up ht hip).2.1, List.mem_cons, Prod.mk.injEq]
    by_cases hlink : k.system (linkCmd iface up) = 0
    · rw [if_pos hlink, List.mem_cons, Prod.mk.injEq]
      by_cases haddr : k.system (addrCmd iface t up) = 0
      · cases hpub : nonEmpty iface.ipv4Pub with
        | true => simp [hlink, haddr]
        | false => simp [hlink, haddr]
      · simp [hlink, haddr]
    · simp [hlink]

/-! ## A call that added something -/

/-- The address was added: `ip` is there, and the first two commands succeeded. -/
def AddrAdded (iface : IfInfo) (t : IfaceTexts) (k : Results) : Prop :=
  (ipFound k).isSome = true ∧ k.system (linkCmd iface true) = 0 ∧
    k.system (addrCmd iface t true) = 0

/-- The commands behind the address all succeeded. -/
def RoutesAdded (iface : IfInfo) (t : IfaceTexts) (k : Results) : Prop :=
  nonEmpty iface.ipv4Pub = true →
    ∃ rdgw, realGateway iface t true k.popen = some rdgw ∧
      k.system (pubCmd iface rdgw true) = 0 ∧
      (nonEmpty iface.ipv4Dgateway = true →
        k.system (lowCmd iface true) = 0 ∧ k.system (highCmd iface true) = 0)

/-- No command of `teavpn_iface_down` fails before the last delete that is needed. -/
def DownReaches (iface : IfInfo) (t : IfaceTexts) (k : Results) : Prop :=
  (ipFound k).isSome = true ∧ k.system (linkCmd iface false) = 0 ∧
    (nonEmpty iface.ipv4Pub = true →
      k.system (addrCmd iface t false) = 0 ∧
        (nonEmpty iface.ipv4Dgateway = true →
          ∀ rdgw, realGateway iface t false k.popen = some rdgw →
            k.system (pubCmd iface rdgw false) = 0 ∧ k.system (lowCmd iface false) = 0))

/-- INTERNAL: `teavpn_iface_up` returns `true` exactly when everything was added.
SOURCE: net/linux/iface.c:463-554 -/
theorem teavpnIfaceUp_iff (ht : ifaceTexts o iface = some t) :
    result k (teavpnIfaceUp o iface) = true ↔ AddrAdded iface t k ∧ RoutesAdded iface t k := by
  unfold teavpnIfaceUp AddrAdded RoutesAdded realGateway
  cases hip : ipFound k with
  | none =>
    rw [(teavpnIfaceToggle_no_ip k iface false o true ht hip).2.2]
    simp
  | some ip =>
    rw [(teavpnIfaceToggle_spec k iface false ip o true ht hip).2.2]
    cases hgw : cutGateway (routeShow (cbufText (addrCmd iface t true)) k.popen) with
    | none =>
      rw [(toggleRoutes_none k iface false ip true _ hgw).2.2]
      simp [and_assoc]
    | some rdgw =>
      rw [(toggleRoutes_spec k iface false ip true _ hgw).2.2,
        (toggleDgateway_spec k iface false ip true).2.2]
      simp [and_assoc]

/-- The adds of a call: the address, the route to the server and the default route. -/
inductive Added (iface : IfInfo) (t : IfaceTexts) (out : Option (List UInt8)) : IpCmd → Prop where
  | addr : Added iface t out (addrCmd iface t true)
  | pub {rdgw : List UInt8} (hpub : nonEmpty iface.ipv4Pub = true)
      (hgw : realGateway iface t true out = some rdgw) : Added iface t out (pubCmd iface rdgw true)
  | low {rdgw : List UInt8} (hpub : nonEmpty iface.ipv4Pub = true)
      (hgw : realGateway iface t true out = some rdgw)
      (hdgw : nonEmpty iface.ipv4Dgateway = true) : Added iface t out (lowCmd iface true)
  | high {rdgw : List UInt8} (hpub : nonEmpty iface.ipv4Pub = true)
      (hgw : realGateway iface t true out = some rdgw)
      (hdgw : nonEmpty iface.ipv4Dgateway = true) : Added iface t out (highCmd iface true)

/-- INTERNAL: an add that has succeeded is one of the four, and the address came first.
SOURCE: net/linux/iface.c:463-549 -/
theorem added_of_mem_systems (ht : ifaceTexts o iface = some t) {c : IpCmd}
    (hadd : c.isAdd = true) (h : (c, 0) ∈ systems (trace k (teavpnIfaceUp o iface))) :
    AddrAdded iface t k ∧ Added iface t k.popen c := by
  obtain ⟨ip, hip, h⟩ := (mem_systems_toggle ht true false c 0).mp h
  have hsome : (ipFound k).isSome = true := by rw [hip]; rfl
  rcases h with ⟨rfl, -⟩ | ⟨hlink, h⟩
  · cases hadd
  rcases h with ⟨rfl, haddr⟩ | ⟨haddr, hpub, h⟩
  · exact ⟨⟨hsome, hlink, haddr.symm⟩, .addr⟩
  refine ⟨⟨hsome, hlink, haddr⟩, ?_⟩
  obtain ⟨rdgw, hgw, h⟩ := (mem_systems_toggleRoutes true false ip _ c 0).mp h
  rcases h with ⟨-, rfl, -⟩ | ⟨rfl, -⟩ | ⟨-, hdgw, h⟩
  · -- the route of an earlier run is deleted
    cases hadd
  · exact .pub hpub hgw
  · rcases (mem_systems_toggleDgateway true false ip c 0).mp h with ⟨rfl, -⟩ | ⟨-, rfl, -⟩
    · exact .low hpub hgw hdgw
    · exact .high hpub hgw hdgw

/-- INTERNAL: what was added stands in the trace. -/
theorem mem_systems_addr (ht : ifaceTexts o iface = some t) (h : AddrAdded iface t k) :
    (addrCmd iface t true, 0) ∈ systems (trace k (teavpnIfaceUp o iface)) := by
  obtain ⟨hip, hlink, haddr⟩ := h
  obtain ⟨ip, hip⟩ := Option.isSome_iff_exists.mp hip
  apply (mem_systems_toggle ht true false _ 0).mpr
  exact ⟨ip, hip, .inr ⟨hlink, .inl ⟨rfl, haddr.symm⟩⟩⟩

theorem mem_systems_pub (ht : ifaceTexts o iface = some t) (h : AddrAdded iface t k)
    (hpub : nonEmpty iface.ipv4Pub = true) {rdgw : List UInt8}
    (hgw : realGateway iface t true k.popen = some rdgw)
    (hok : k.system (pubCmd iface rdgw true) = 0) :
    (pubCmd iface rdgw true, 0) ∈ systems (trace k (teavpnIfaceUp o iface)) := by
  obtain ⟨hip, hlink, haddr⟩ := h
  obtain ⟨ip, hip⟩ := Option.isSome_iff_exists.mp hip
  apply (mem_systems_toggle ht true false _ 0).mpr
  refine ⟨ip, hip, .inr ⟨hlink, .inr ⟨haddr, hpub, ?_⟩⟩⟩
  apply (mem_systems_toggleRoutes true false ip _ _ 0).mpr
  exact ⟨rdgw, hgw, .inr (.inl ⟨rfl, hok.symm⟩)⟩

theorem mem_systems_high (ht : ifaceTexts o iface = some t) (h : AddrAdded iface t k)
    (hpub : nonEmpty iface.ipv4Pub = true) {rdgw : List UInt8}
    (hgw : realGateway iface t true k.popen = some rdgw)
    (hok : k.system (pubCmd iface rdgw true) = 0) (hdgw : nonEmpty iface.ipv4Dgateway = true)
    (hlow : k.system (lowCmd iface true) = 0) (hhigh : k.system (highCmd iface true) = 0) :
    (highCmd iface true, 0) ∈ systems (trace k (teavpnIfaceUp o iface)) := by
  obtain ⟨hip, hlink, haddr⟩ := h
  obtain ⟨ip, hip⟩ := Option.isSome_iff_exists.mp hip
  apply (mem_systems_toggle ht true false _ 0).mpr
  refine ⟨ip, hip, .inr ⟨hlink, .inr ⟨haddr, hpub, ?_⟩⟩⟩
  apply (mem_systems_toggleRoutes true false ip _ _ 0).mpr
  refine ⟨rdgw, hgw, .inr (.inr ⟨hok, hdgw, ?_⟩)⟩
  exact (mem_systems_toggleDgateway true false ip _ 0).mpr (.inr ⟨hlow, rfl, hhigh.symm⟩)

/-! ## The deletes of a call -/

/-- INTERNAL: an escaped address does not begin like the halves of the default route. -/
theorem pubCmd_ne_highCmd (rdgw : List UInt8) : pubCmd iface rdgw false ≠ highCmd iface false := by
  intro h
  have hdest : esc iface.ipv4Pub ++ ascii "/32" = ascii "128.0.0.0/1" := by
    unfold pubCmd highCmd at h
    injection h
  have hesc : (esc iface.ipv4Pub ++ ascii "/32").head? = some 39 := by
    rw [esc, cmd_escapeshellarg]
    rfl
  rw [hdest] at hesc
  exact absurd hesc (by decide)

theorem lowCmd_ne_highCmd : lowCmd iface false ≠ highCmd iface false := by
  intro h
  have hdest : ascii "0.0.0.0/1" = ascii "128.0.0.0/1" := by
    unfold lowCmd highCmd at h
    injection h
  exact absurd hdest (by decide)

/-- INTERNAL: `teavpn_iface_down` issues the deletes of everything that can have been added
when none of its commands fails too early.
SOURCE: net/linux/iface.c:463-549 -/
theorem down_issues (ht : ifaceTexts o iface = some t) (h : DownReaches iface t k)
    {out : Option (List UInt8)}
    (hsame : realGateway iface t false k.popen = realGateway iface t true out) {c : IpCmd}
    (hc : Added iface t out c) :
    (c.undo, k.system c.undo) ∈ systems (trace k (teavpnIfaceDown o iface)) := by
  obtain ⟨hip, hlink, hrest⟩ := h
  obtain ⟨ip, hip⟩ := Option.isSome_iff_exists.mp hip
  apply (mem_systems_toggle ht false true _ _).mpr
  refine ⟨ip, hip, .inr ⟨hlink, ?_⟩⟩
  cases hc with
  | addr => exact .inl ⟨rfl, rfl⟩
  | @pub rdgw hpub hgw =>
    refine .inr ⟨(hrest hpub).1, hpub, ?_⟩
    apply (mem_systems_toggleRoutes false true ip _ _ _).mpr
    exact ⟨rdgw, hsame.trans hgw, .inr (.inl ⟨rfl, rfl⟩)⟩
  | @low rdgw hpub hgw hdgw =>
    obtain ⟨haddr, hdown⟩ := hrest hpub
    obtain ⟨hpubok, -⟩ := hdown hdgw rdgw (hsame.trans hgw)
    refine .inr ⟨haddr, hpub, ?_⟩
    apply (mem_systems_toggleRoutes false true ip _ _ _).mpr
    refine ⟨rdgw, hsame.trans hgw, .inr (.inr ⟨hpubok, hdgw, ?_⟩)⟩
    exact (mem_systems_toggleDgateway false true ip _ _).mpr (.inl ⟨rfl, rfl⟩)
  | @high rdgw hpub hgw hdgw =>
    obtain ⟨haddr, hdown⟩ := hrest hpub
    obtain ⟨hpubok, hlowok⟩ := hdown hdgw rdgw (hsame.trans hgw)
    refine .inr ⟨haddr, hpub, ?_⟩
    apply (mem_systems_toggleRoutes false true ip _ _ _).mpr
    refine ⟨rdgw, hsame.trans hgw, .inr (.inr ⟨hpubok, hdgw, ?_⟩)⟩
    exact (mem_systems_toggleDgateway false true ip _ _).mpr (.inr ⟨hlowok, rfl, rfl⟩)

/-- INTERNAL: when the delete of the address is issued, the link command succeeded. -/
theorem link_of_addr_deleted (ht : ifaceTexts o iface = some t) {r : Int}
    (h : (addrCmd iface t false, r) ∈ systems (trace k (teavpnIfaceDown o iface))) :
    (ipFound k).isSome = true ∧ k.system (linkCmd iface false) = 0 := by
  obtain ⟨ip, hip, h⟩ := (mem_systems_toggle ht false true _ r).mp h
  rcases h with ⟨h, -⟩ | ⟨hlink, -⟩
  · cases h
  · exact ⟨by rw [hip]; rfl, hlink⟩

/-- INTERNAL: when the delete of a route is issued, so was the delete of the address, and it
succeeded. -/
theorem addr_of_route_deleted (ht : ifaceTexts o iface = some t) {dest via : List UInt8} {r : Int}
    (h : (.route false dest via, r) ∈ systems (trace k (teavpnIfaceDown o iface))) :
    k.system (addrCmd iface t false) = 0 ∧ ∃ ip,
      (.route false dest via, r) ∈ systems (trace k
        (toggleRoutes iface false true ip (cbufText (addrCmd iface t false)))) := by
  obtain ⟨ip, hip, h⟩ := (mem_systems_toggle ht false true _ r).mp h
  rcases h with ⟨h, -⟩ | ⟨-, h⟩
  · cases h
  rcases h with ⟨h, -⟩ | ⟨haddr, -, h⟩
  · cases h
  · exact ⟨haddr, ip, h⟩

/-- INTERNAL: when the delete of the second half of the default route is issued, the deletes
before it succeeded. -/
theorem pub_of_high_deleted (ht : ifaceTexts o iface = some t) {r : Int}
    (h : (highCmd iface false, r) ∈ systems (trace k (teavpnIfaceDown o iface)))
    {rdgw : List UInt8} (hgw : realGateway iface t false k.popen = some rdgw) :
    k.system (pubCmd iface rdgw false) = 0 ∧ k.system (lowCmd iface false) = 0 := by
  obtain ⟨-, ip, h⟩ := addr_of_route_deleted ht h
  obtain ⟨g, hg, h⟩ := (mem_systems_toggleRoutes false true ip _ _ r).mp h
  have hsame : g = rdgw := Option.some.inj (hg.symm.trans hgw)
  subst hsame
  rcases h with ⟨h, -⟩ | ⟨h, -⟩ | ⟨hpub, -, h⟩
  · cases h
  · exact absurd h.symm (pubCmd_ne_highCmd g)
  · rcases (mem_systems_toggleDgateway false true ip _ r).mp h with ⟨h, -⟩ | ⟨hlow, -⟩
    · exact absurd h.symm lowCmd_ne_highCmd
    · exact ⟨hpub, hlow⟩

/-! ## Setting up and taking down -/

/-- The setup is undone, where `ku` are the answers during `teavpn_iface_up` and `kd` the
answers while the client ends. -/
structure Undone (o : ByteOrder) (iface : IfInfo) (ku kd : Results) : Prop where
  /-- A setup that fails: when the client has ended, every add that succeeded was followed by
  a delete that succeeded. -/
  failed : result ku (teavpnIfaceUp o iface) = false → ∀ c : IpCmd, c.isAdd = true →
    (c, 0) ∈ systems (trace ku (teavpnIfaceUp o iface)) →
    (c.undo, 0) ∈ systems (trace kd (destroyState o iface (result ku (bringUpIface o iface)).2))
  /-- A setup that succeeds: `teavpn_iface_down` issues the delete of every add that
  succeeded. -/
  succeeded : result ku (teavpnIfaceUp o iface) = true → ∀ c : IpCmd, c.isAdd = true →
    (c, 0) ∈ systems (trace ku (teavpnIfaceUp o iface)) →
    ∃ r, (c.undo, r) ∈ systems (trace kd (teavpnIfaceDown o iface))

/-- INTERNAL: after a setup that failed the client runs no command at all.
SOURCE: client/linux/udp.c:544-563, client/linux/udp.c:671-676 -/
theorem destroyState_failed {ku : Results} (kd : Results)
    (h : result ku (teavpnIfaceUp o iface) = false) :
    systems (trace kd (destroyState o iface (result ku (bringUpIface o iface)).2)) = [] := by
  have hflag : (result ku (bringUpIface o iface)).2 = false := by
    unfold bringUpIface
    rw [result_bind, h]
    rfl
  rw [hflag]
  rfl

/-- INTERNAL: **when the setup of the interface is undone**, the real default gateway being
unchanged: if the address was added at all, then every later command of `teavpn_iface_up`
succeeded, and no command of `teavpn_iface_down` fails before the last delete.
SOURCE: net/linux/iface.c:463-554, client/linux/udp.c:544-563, client/linux/udp.c:671-685 -/
theorem iface_undone_iff (o : ByteOrder) (iface : IfInfo) (ku kd : Results)
    (hgw : ∀ t, ifaceTexts o iface = some t →
      realGateway iface t false kd.popen = realGateway iface t true ku.popen) :
    Undone o iface ku kd ↔ ∀ t, ifaceTexts o iface = some t → AddrAdded iface t ku →
      RoutesAdded iface t ku ∧ DownReaches iface t kd := by
  constructor
  · intro h t ht hadded
    have hup : result ku (teavpnIfaceUp o iface) = true := by
      by_contra hfail
      rw [Bool.not_eq_true] at hfail
      have hleft := h.failed hfail _ rfl (mem_systems_addr ht hadded)
      rw [destroyState_failed kd hfail] at hleft
      cases hleft
    have hroutes := ((teavpnIfaceUp_iff ht).mp hup).2
    obtain ⟨_, haddr⟩ := h.succeeded hup _ rfl (mem_systems_addr ht hadded)
    obtain ⟨hip, hlink⟩ := link_of_addr_deleted ht haddr
    refine ⟨hroutes, hip, hlink, fun hpub => ?_⟩
    obtain ⟨rdgw, hrdgw, hok, hdefault⟩ := hroutes hpub
    obtain ⟨_, hroute⟩ := h.succeeded hup _ rfl (mem_systems_pub ht hadded hpub hrdgw hok)
    refine ⟨(addr_of_route_deleted ht hroute).1, fun hdgw g hg => ?_⟩
    obtain ⟨hlow, hhigh⟩ := hdefault hdgw
    obtain ⟨_, hhalf⟩ := h.succeeded hup _ rfl
      (mem_systems_high ht hadded hpub hrdgw hok hdgw hlow hhigh)
    exact pub_of_high_deleted ht hhalf hg
  · intro h
    cases ht : ifaceTexts o iface with
    | none =>
      have hnothing := teavpnIfaceToggle_rejected ku iface false o true ht
      refine ⟨fun _ c _ hc => ?_, fun hup => ?_⟩
      · rw [teavpnIfaceUp, hnothing.1] at hc
        cases hc
      · rw [teavpnIfaceUp, hnothing.2] at hup
        cases hup
    | some t =>
      refine ⟨fun hfail c hadd hc => ?_, fun _ c hadd hc => ?_⟩
      · have hadded := (added_of_mem_systems ht hadd hc).1
        rw [(teavpnIfaceUp_iff ht).mpr ⟨hadded, (h t ht hadded).1⟩] at hfail
        cases hfail
      · obtain ⟨hadded, hkind⟩ := added_of_mem_systems ht hadd hc
        exact ⟨_, down_issues ht (h t ht hadded).2 (hgw t ht) hkind⟩

/-- Every command succeeds, and the gateway stays what it was. -/
theorem iface_undone_iff_allSucceed :
    Undone .little ifaceFits (allSucceed routeShowOut) (allSucceed routeShowOut) := by
  have hgw (t : IfaceTexts) (up : Bool) :
      realGateway ifaceFits t up routeShowOut = some (ascii "192.168.1.1") := by
    show cutGateway (cstr ((ascii "default via 192.168.1.1 dev eth0 ").take 255)) = _
    decide
  refine (iface_undone_iff .little ifaceFits (allSucceed routeShowOut) (allSucceed routeShowOut)
    (fun t _ => (hgw t false).trans (hgw t true).symm)).mpr ?_
  intro t _ _
  constructor
  · intro _
    exact ⟨_, hgw t true, rfl, fun _ => ⟨rfl, rfl⟩⟩
  · exact ⟨rfl, rfl, fun _ => ⟨rfl, fun _ _ _ => ⟨rfl, rfl⟩⟩⟩

/-- The answers of a system on which no route can be added. -/
def routesFail : Results where
  access _ := 0
  system
    | .route true _ _ => 2
    | _ => 0
  popen := routeShowOut

/-- When the route to the server cannot be added, the address stays on the interface: the
setup fails, and the client ends without a command. -/
theorem iface_left_when_route_fails :
    result routesFail (teavpnIfaceUp .little ifaceFits) = false ∧
      (∃ c : IpCmd, c.isAdd = true ∧
        (c, 0) ∈ systems (trace routesFail (teavpnIfaceUp .little ifaceFits))) ∧
      systems (trace routesFail (destroyState .little ifaceFits
        (result routesFail (bringUpIface .little ifaceFits)).2)) = [] ∧
      ¬Undone .little ifaceFits routesFail routesFail := by
  have hfail : result routesFail (teavpnIfaceUp .little ifaceFits) = false := by decide
  have hleft : systems (trace routesFail (destroyState .little ifaceFits
      (result routesFail (bringUpIface .little ifaceFits)).2)) = [] := by decide
  have hadded : ∃ x ∈ systems (trace routesFail (teavpnIfaceUp .little ifaceFits)),
      x.1.isAdd = true ∧ x.2 = 0 := by decide
  obtain ⟨⟨c, r⟩, hmem, hadd, rfl⟩ := hadded
  refine ⟨hfail, ⟨c, hadd, hmem⟩, hleft, ?_⟩
  intro h
  have hdeleted := h.failed hfail c hadd hmem
  rw [hleft] at hdeleted
  cases hdeleted

end TeaVpn2.Analysis
