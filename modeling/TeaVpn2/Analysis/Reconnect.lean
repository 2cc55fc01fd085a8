import TeaVpn2.Analysis.Network

/-!
# Reconnecting over a stale session

`Meeting` is the client and the server as two deterministic actors that exchange named
packets over two queues, without their bytes, buffers and counters. Their steps commute, so
all interleavings end where one of them ends (`TeaVpn2.Lib.Schedule`), and that one can be
computed, for an endpoint without session and for one with a stale session. A run of the
network that loses nothing follows a schedule of the meeting (`Follows`), whatever the
server does beside it.
-/

set_option autoImplicit false

namespace TeaVpn2.Analysis

open TeaVpn2 TeaVpn2.Lib

/-! ## The meeting -/

inductive Reply where
  | close
  | handshake
  | authOk
deriving DecidableEq, Repr

/-- The packets of a kind. -/
def Reply.Is : Reply → List UInt8 → Prop
  | .close, d => d = closePacket
  | .handshake, d => d = handshakePacket
  | .authOk, d => AuthOk d

/-- What the two checks of the client return. -/
def Reply.handshakeChk : Reply → Int
  | .close => -ECONNRESET
  | .handshake => 0
  | .authOk => -EBADMSG

def Reply.authResChk : Reply → Int
  | .close => -ECONNRESET
  | .handshake => -EBADMSG
  | .authOk => 0

/-- The session of the client: none, one from an earlier run, one that was opened in this
run, one that was authenticated in it. -/
inductive Standing where
  | absent
  | stale
  | opened
  | granted
deriving DecidableEq, Repr

def Standing.react : Standing → Request → Standing × List Reply
  | .absent, .close => (.absent, [])
  | _, .close => (.absent, [.close])
  | .absent, .handshake => (.opened, [.handshake])
  | s, .handshake => (s, [])
  | .opened, .auth => (.granted, [.authOk])
  | s, .auth => (s, [])

structure Meeting where
  cli : CliPhase := .close
  toSrv : List Request := []
  toCli : List Reply := []
  srv : Standing
  handled : Nat := 0
deriving DecidableEq, Repr

inductive Actor where
  | client
  | server
deriving DecidableEq, Repr

/-- The client needs a packet to go on. -/
def CliPhase.Waits : CliPhase → Prop
  | .greetWait _ | .greetRecv _ | .loginWait _ | .loginRecv _ => True
  | _ => False

namespace Meeting

def clientStep (a : Meeting) : Option Meeting :=
  match a.cli with
  | .close => some { a with cli := .greet 0, toSrv := a.toSrv ++ [.close] }
  | .greet c => some { a with cli := .greetWait c, toSrv := a.toSrv ++ [.handshake] }
  | .greetWait c => if a.toCli = [] then none else some { a with cli := .greetRecv c }
  | .greetRecv c =>
      match a.toCli with
      | [] => none
      | r :: rs => some { a with cli := .greeted c r.handshakeChk, toCli := rs }
  | .login c => some { a with cli := .loginWait c, toSrv := a.toSrv ++ [.auth] }
  | .loginWait c => if a.toCli = [] then none else some { a with cli := .loginRecv c }
  | .loginRecv c =>
      match a.toCli with
      | [] => none
      | r :: rs => some { a with cli := .answered c r.authResChk, toCli := rs }
  | .iface => some { a with cli := .done ⟨0, some 0⟩ }
  | .done _ => none

def serverStep (a : Meeting) : Option Meeting :=
  match a.toSrv with
  | [] => none
  | req :: reqs => some { a with
      toSrv := reqs
      toCli := a.toCli ++ (a.srv.react req).2
      srv := (a.srv.react req).1
      handled := a.handled + 1 }

def step : Actor → Meeting → Option Meeting
  | .client, a => a.clientStep
  | .server, a => a.serverStep

/-- One schedule without session and one with a stale session: the server answers at
once. -/
def schedule : Standing → List Actor
  | .stale => [.client, .server, .client, .server, .client, .client, .client, .server, .client,
      .client, .client, .server, .client, .client, .client]
  | _ => [.client, .server, .client, .server, .client, .client, .client, .server, .client,
      .client, .client]

/-- Where they end. -/
def final (s : Standing) : Meeting where
  cli := .done ⟨0, some 0⟩
  srv := .granted
  handled := if s = .stale then 4 else 3

theorem play_schedule {s : Standing} (hs : s = .absent ∨ s = .stale) :
    Schedule.play step (schedule s) { srv := s } = some (final s) := by
  rcases hs with rfl | rfl
  · decide
  · decide

theorem final_stuck (s : Standing) : Schedule.Stuck step (final s) := by
  intro i
  cases i <;> rfl

/-- INTERNAL: what the client does, it can still do after the server has moved, and the
other way round: each only takes from the front of one queue and adds to the end of the
other. -/
theorem steps_commute {a b c : Meeting} (hc : a.clientStep = some b) (hs : a.serverStep = some c) :
    ∃ d, b.serverStep = some d ∧ c.clientStep = some d := by
  obtain ⟨cli, toSrv, toCli, srv, handled⟩ := a
  cases toSrv with
  | nil => cases hs
  | cons req reqs =>
    cases hs
    cases cli with
    | close | iface =>
      cases hc
      exact ⟨_, rfl, rfl⟩
    | greet t | login t =>
      cases hc
      exact ⟨_, rfl, rfl⟩
    | greetWait t | greetRecv t | loginWait t | loginRecv t =>
      cases toCli with
      | nil => cases hc
      | cons r rs =>
        cases hc
        exact ⟨_, rfl, rfl⟩
    | done out => cases hc

theorem commute : Schedule.Commute step := by
  intro i j s a b hij hi hj
  cases i with
  | client =>
    cases j with
    | client => exact absurd rfl hij
    | server => exact steps_commute hi hj
  | server =>
    cases j with
    | server => exact absurd rfl hij
    | client =>
      obtain ⟨d, hd, hd'⟩ := steps_commute hj hi
      exact ⟨d, hd', hd⟩

theorem clientStep_handled {a b : Meeting} (h : a.clientStep = some b) : b.handled = a.handled := by
  obtain ⟨cli, toSrv, toCli, srv, handled⟩ := a
  cases cli <;> cases toCli <;> cases h <;> rfl

theorem toCli_of_waits {a b : Meeting} (hwait : a.cli.Waits) (h : a.clientStep = some b) :
    a.toCli ≠ [] := by
  obtain ⟨cli, toSrv, toCli, srv, handled⟩ := a
  rintro rfl
  cases cli with
  | greetWait c | greetRecv c | loginWait c | loginRecv c => cases h
  | _ => exact hwait.elim

/-- INTERNAL: the server handles at most one request a step. -/
theorem play_handled {l : List Actor} {a b : Meeting} (h : Schedule.play step l a = some b) :
    b.handled ≤ a.handled + l.length := by
  induction l generalizing a with
  | nil =>
    cases h
    exact Nat.le_refl _
  | cons i l ih =>
    obtain ⟨a', ha, hrest⟩ := Schedule.play_cons.mp h
    have hle := ih hrest
    have hone : a'.handled ≤ a.handled + 1 := by
      cases i with
      | client =>
        rw [clientStep_handled ha]
        omega
      | server =>
        simp only [step, serverStep] at ha
        split at ha
        · cases ha
        · cases ha
          exact Nat.le_refl _
    rw [List.length_cons]
    omega

/-- A stale session is still there only as long as the CLOSE is. -/
def StaleFirst (a : Meeting) : Prop :=
  a.srv = .stale → (a.cli = .close ∧ a.toSrv = []) ∨ a.toSrv.head? = some .close

theorem step_staleFirst {i : Actor} {a b : Meeting} (h : StaleFirst a) (hstep : step i a = some b) :
    StaleFirst b := by
  obtain ⟨cli, toSrv, toCli, srv, handled⟩ := a
  cases i with
  | client =>
    -- the client adds to the end of the queue; on an empty queue it only adds its CLOSE
    have hpush : ∀ req : Request, toSrv.head? = some .close →
        (toSrv ++ [req]).head? = some .close := by
      intro req hhead
      rw [List.head?_append, hhead]
      rfl
    cases cli with
    | close =>
      cases hstep
      intro hsrv
      rcases h hsrv with ⟨_, hnil⟩ | hhead
      · exact .inr (by rw [show toSrv = [] from hnil]; rfl)
      · exact .inr (hpush _ hhead)
    | greet t | login t =>
      cases hstep
      intro hsrv
      exact .inr (hpush _ ((h hsrv).resolve_left nofun))
    | greetWait t | greetRecv t | loginWait t | loginRecv t =>
      cases toCli with
      | nil => cases hstep
      | cons r rs =>
        cases hstep
        intro hsrv
        exact .inr ((h hsrv).resolve_left nofun)
    | iface =>
      cases hstep
      exact fun hsrv => .inr ((h hsrv).resolve_left nofun)
    | done out => cases hstep
  | server =>
    cases toSrv with
    | nil => cases hstep
    | cons req reqs =>
      cases hstep
      intro hsrv
      cases srv with
      | stale =>
        rcases h rfl with ⟨_, hnil⟩ | hhead
        · cases hnil
        · cases hhead
          cases hsrv
      | absent | opened | granted => cases req <;> cases hsrv

end Meeting

/-! ## The network follows the meeting -/

/-- Nothing is lost and nothing but the answers to the client is sent to it: the channel keeps
every datagram, no `poll` times out, and what the server does beside its client sends the
client nothing. -/
def Move.Lossless (k : Endpoint) (n : Net) : Move → Prop
  | .client kept _ => kept = true
  | .timeout => False
  | .server _ kept => ∀ i, kept i = true
  | .beside env inp _ => wire k n.srv (n.srv.step env inp) = []

/-- The moves of the client and of the server on its behalf. -/
def Move.isWork : Move → Bool
  | .beside _ _ _ => false
  | _ => true

/-- The session of the client is in the standing `st`; `m` bounds its counter. -/
def Standing.Is (m : Nat) : Standing → Option (Bool × UInt8) → Prop
  | .absent, v => v = none
  | .stale, v => v ≠ none
  | .opened, v => ∃ c : UInt8, v = some (false, c) ∧ c.toNat ≤ m
  | .granted, v => ∃ c : UInt8, v = some (true, c) ∧ c.toNat ≤ m

/-- The client is where the meeting says; at its end, the interface has been tried once. -/
def SamePlace (n : Net) (p : CliPhase) (q : CliPhase) : Prop :=
  (p = q ∧ n.ups = [] ∧ q ≠ .done ⟨0, some 0⟩) ∨
  (q = .done ⟨0, some 0⟩ ∧ ∃ iff up, n.ups = [(iff, up)] ∧
    p = .done ⟨0, some (if up then 0 else -ENETDOWN)⟩)

/-- INTERNAL: the network is in the state `a` of the meeting. -/
structure Follows (o : ByteOrder) (cfg : CliCfg) (k : Endpoint) (dataDir : List UInt8) (n : Net)
    (p : CliPhase) (a : Meeting) : Prop where
  inv : NetInv o cfg k dataDir n p
  stale : a.StaleFirst
  cli : SamePlace n p a.cli
  toSrv : n.toSrv.map Prod.snd = a.toSrv.map (Request.datagram cfg)
  toCli : List.Forall₂ Reply.Is a.toCli n.toCli
  srv : a.srv.Is a.handled (view n.srv.st k)
  got : a.cli = .iface ∨ a.cli = .done ⟨0, some 0⟩ →
    ∃ d, n.received.getLast? = some d ∧ AuthOk d

theorem greeted_ne_iface (c : Nat) (ret : Int) :
    CliPhase.greeted c ret ≠ .iface ∧ CliPhase.greeted c ret ≠ .done ⟨0, some 0⟩ := by
  unfold CliPhase.greeted
  repeat' split
  all_goals exact ⟨nofun, nofun⟩

theorem answered_ne_final (c : Nat) (ret : Int) :
    CliPhase.answered c ret ≠ .done ⟨0, some 0⟩ ∧ (CliPhase.answered c ret = .iface → ret = 0) := by
  unfold CliPhase.answered
  split
  · next h => exact ⟨nofun, fun _ => h⟩
  split
  · exact ⟨nofun, nofun⟩
  · next hne _ =>
    refine ⟨fun heq => hne ?_, nofun⟩
    simpa using heq

theorem Reply.handshakeChk_eq {r : Reply} {d : List UInt8} (h : r.Is d) (o : ByteOrder) (b : Buf) :
    (Cli.serverHandshakeChk o (Cli.recvInto b d).1 (Cli.recvInto b d).2).1 = r.handshakeChk := by
  cases r with
  | close =>
    rw [show d = closePacket from h]
    exact serverHandshakeChk_close o b
  | handshake =>
    rw [show d = handshakePacket from h]
    exact serverHandshakeChk_handshake o b
  | authOk => exact serverHandshakeChk_authOk o b h

theorem Reply.authResChk_eq {r : Reply} {d : List UInt8} (h : r.Is d) (o : ByteOrder) (b : Buf) :
    (Cli.serverAuthResChk o (Cli.recvInto b d).1 (Cli.recvInto b d).2).1 = r.authResChk := by
  cases r with
  | close =>
    have htype : pktType (Cli.recvInto b d).1 = TSRV_PKT_CLOSE := by
      rw [show d = closePacket from h]
      exact pktType_recvInto b
    unfold Cli.serverAuthResChk
    rw [if_pos htype]
    rfl
  | handshake =>
    have htype : pktType (Cli.recvInto b d).1 = TSRV_PKT_HANDSHAKE := by
      rw [show d = handshakePacket from h]
      exact pktType_recvInto b
    unfold Cli.serverAuthResChk
    rw [htype, if_neg (by decide), if_neg (by decide), if_pos (by decide)]
    rfl
  | authOk => exact serverAuthResChk_ok o b h

theorem through_marked_all {kept : Nat → Bool} (h : ∀ i, kept i = true) (l : List (List UInt8)) :
    Net.through (Net.marked kept l) = l := by
  induction l generalizing kept with
  | nil => rfl
  | cons d l ih =>
    simp only [Net.through, Net.marked, List.mapIdx_cons, List.filterMap_cons, h 0, if_true]
    exact congrArg (d :: ·) (ih fun i => h (i + 1))

theorem syncs_of_lt {c : UInt8} (h : c.toNat < 31) : syncs (c + 1) = [] ∧
    (c + 1).toNat = c.toNat + 1 := by
  have hsucc : (c + 1).toNat = c.toNat + 1 := by
    rw [UInt8.toNat_add]
    simp
    omega
  refine ⟨?_, hsucc⟩
  unfold syncs
  rw [if_neg]
  intro hmod
  have hnat := congrArg UInt8.toNat hmod
  rw [UInt8.toNat_mod, hsucc] at hnat
  simp at hnat
  omega

section Simulation

variable {o : ByteOrder} {cfg : CliCfg} {k : Endpoint} {dataDir : List UInt8} {n n' : Net}
  {p p' : CliPhase} {a : Meeting} {m : Move}

/-- INTERNAL: a request of the client joins both queues. -/
theorem Follows.posted (h : Follows o cfg k dataDir n p a) (req : Request) :
    (n.post true (req.datagram cfg)).toSrv.map Prod.snd =
      (a.toSrv ++ [req]).map (Request.datagram cfg) := by
  have hsent : (n.post true (req.datagram cfg)).toSrv =
      n.toSrv ++ [(n.requests.length, req.datagram cfg)] := rfl
  rw [hsent, List.map_append, h.toSrv, List.map_append]
  rfl

theorem Follows.toCli_ne_nil (h : Follows o cfg k dataDir n p a) : a.toCli ≠ [] ↔ n.toCli ≠ [] := by
  have hlen := h.toCli.length_eq
  rw [← List.length_pos_iff, ← List.length_pos_iff, hlen]

/-- INTERNAL: a system call of the client is its step in the meeting. -/
theorem Follows.client (h : Follows o cfg k dataDir n p a) {n₁ : Net} (b : Buf)
    (hmove : CliMove o cfg n m p p' n₁) (hok : p'.Ok) (hloss : m.Lossless k n) :
    ∃ a', a.clientStep = some a' ∧
      Follows o cfg k dataDir { n₁ with cli := p'.prog o cfg b } p' a' := by
  have hinv := netMove_inv h.inv (.client b hmove hok)
  have hstale : ∀ {a'}, a.clientStep = some a' → a'.StaleFirst :=
    fun hstep => Meeting.step_staleFirst (i := .client) h.stale hstep
  obtain ⟨cli, toSrv, toCli, srv, handled⟩ := a
  rcases h.cli with ⟨hcli, hups, _⟩ | ⟨_, _, _, _, hp⟩
  · have hcli' : cli = p := hcli.symm
    subst hcli'
    cases hmove with
    | close kept up =>
      cases hloss
      exact ⟨_, rfl, hinv, hstale rfl, .inl ⟨rfl, hups, nofun⟩, h.posted .close, h.toCli, h.srv, nofun⟩
    | greet kept up c =>
      cases hloss
      exact ⟨_, rfl, hinv, hstale rfl, .inl ⟨rfl, hups, nofun⟩, h.posted .handshake, h.toCli, h.srv, nofun⟩
    | greetReady kept up c hne =>
      have hstep : Meeting.clientStep ⟨.greetWait c, toSrv, toCli, srv, handled⟩ =
          some ⟨.greetRecv c, toSrv, toCli, srv, handled⟩ := if_neg (h.toCli_ne_nil.mpr hne)
      exact ⟨_, hstep, hinv, hstale hstep, .inl ⟨rfl, hups, nofun⟩, h.toSrv, h.toCli, h.srv, nofun⟩
    | greetTimeout c _ _ => exact hloss.elim
    | greetRecv kept up c b' d ds hd =>
      obtain ⟨r, rs, hr, hrs, rfl⟩ := List.forall₂_cons_right_iff.mp (hd ▸ h.toCli)
      have hres := Reply.handshakeChk_eq hr o b'
      rw [hres] at hinv ⊢
      refine ⟨_, rfl, hinv, hstale rfl, .inl ⟨rfl, hups, (greeted_ne_iface c _).2⟩, h.toSrv, hrs,
        h.srv, ?_⟩
      rintro (heq | heq)
      · exact absurd heq (greeted_ne_iface c _).1
      · exact absurd heq (greeted_ne_iface c _).2
    | login kept up c =>
      cases hloss
      exact ⟨_, rfl, hinv, hstale rfl, .inl ⟨rfl, hups, nofun⟩, h.posted .auth, h.toCli, h.srv, nofun⟩
    | loginReady kept up c hne =>
      have hstep : Meeting.clientStep ⟨.loginWait c, toSrv, toCli, srv, handled⟩ =
          some ⟨.loginRecv c, toSrv, toCli, srv, handled⟩ := if_neg (h.toCli_ne_nil.mpr hne)
      exact ⟨_, hstep, hinv, hstale hstep, .inl ⟨rfl, hups, nofun⟩, h.toSrv, h.toCli, h.srv, nofun⟩
    | loginTimeout c _ _ => exact hloss.elim
    | loginRecv kept up c b' d ds hd =>
      obtain ⟨r, rs, hr, hrs, rfl⟩ := List.forall₂_cons_right_iff.mp (hd ▸ h.toCli)
      have hres := Reply.authResChk_eq hr o b'
      rw [hres] at hinv ⊢
      refine ⟨_, rfl, hinv, hstale rfl, .inl ⟨rfl, hups, (answered_ne_final c _).1⟩, h.toSrv, hrs,
        h.srv, ?_⟩
      rintro (heq | heq)
      · -- the check succeeds on an AUTH_OK only
        have hzero := (answered_ne_final c _).2 heq
        cases r with
        | authOk =>
          refine ⟨d, ?_, hr⟩
          show (n.received ++ [d]).getLast? = some d
          rw [List.getLast?_append]
          rfl
        | close => cases hzero
        | handshake => cases hzero
      · exact absurd heq (answered_ne_final c _).1
    | iface kept up iff =>
      refine ⟨_, rfl, hinv, hstale rfl, .inr ⟨rfl, iff, up, ?_, rfl⟩, h.toSrv, h.toCli, h.srv, ?_⟩
      · show n.ups ++ [(iff, up)] = [(iff, up)]
        rw [hups]
        rfl
      · exact fun _ => h.got (.inl rfl)
  · subst hp
    cases hmove

theorem datagram_injective (cfg : CliCfg) : Function.Injective (Request.datagram cfg) := by
  intro r s h
  cases r <;> cases s <;> first | rfl | exact absurd (List.cons.inj h).1 (by decide)

/-- INTERNAL: the server reacts as in the meeting; its counter stays too small for a sync. -/
theorem Standing.react_follows {v v' : Option (Bool × UInt8)} {req : Request}
    {out : List (List UInt8)} (hreacts : Reacts v req v' out) {st : Standing} {m : Nat}
    (hst : st.Is m v) (hm : m < 30) (hstale : st = .stale → req = .close) :
    (st.react req).1.Is (m + 1) v' ∧ List.Forall₂ Reply.Is (st.react req).2 out := by
  -- the standing says what the server sees; the reactions to that are few
  cases st with
  | absent =>
    cases hst
    cases hreacts with
    | unknown => exact ⟨rfl, .nil⟩
    | greet c hc =>
      have hle : c.toNat ≤ 1 := hc
      exact ⟨⟨c, rfl, by omega⟩, .cons rfl .nil⟩
  | stale =>
    cases hstale rfl
    cases hreacts with
    | unknown => exact absurd rfl hst
    | leave a c => exact ⟨rfl, .cons rfl .nil⟩
  | opened =>
    obtain ⟨c, rfl, hle⟩ := hst
    obtain ⟨hnone, hsucc⟩ := syncs_of_lt (c := c) (by omega)
    cases hreacts with
    | leave a c => exact ⟨rfl, .cons rfl .nil⟩
    | known a c =>
      rw [hnone]
      exact ⟨⟨c + 1, rfl, by omega⟩, .nil⟩
    | grant c d hd =>
      rw [hnone]
      exact ⟨⟨c + 1, rfl, by omega⟩, .cons hd .nil⟩
  | granted =>
    obtain ⟨c, rfl, hle⟩ := hst
    obtain ⟨hnone, hsucc⟩ := syncs_of_lt (c := c) (by omega)
    cases hreacts with
    | leave a c => exact ⟨rfl, .cons rfl .nil⟩
    | known a c =>
      rw [hnone]
      exact ⟨⟨c + 1, rfl, by omega⟩, .nil⟩
    | repeated c =>
      rw [hnone]
      exact ⟨⟨c + 1, rfl, by omega⟩, .nil⟩

/-- INTERNAL: **a lossless move is a step of the meeting**, or leaves it where it is. -/
theorem Follows.move (h : Follows o cfg k dataDir n p a) (hhandled : a.handled < 30)
    (hmove : NetMove o cfg k dataDir n p m p' n') (hloss : m.Lossless k n) :
    (m.isWork = true ∧ ∃ i a', Meeting.step i a = some a' ∧ Follows o cfg k dataDir n' p' a') ∨
      (m.isWork = false ∧ Follows o cfg k dataDir n' p' a) := by
  have hinv := netMove_inv h.inv hmove
  cases hmove with
  | client b hcli hok =>
    obtain ⟨a', hstep, hfollows⟩ := h.client b hcli hok hloss
    refine .inl ⟨?_, .client, a', hstep, hfollows⟩
    cases hcli <;> rfl
  | server env kept tag req ds srv out hto hready hreacts =>
    refine .inl ⟨rfl, .server, ?_⟩
    have hstale : ∀ {a'}, a.serverStep = some a' → a'.StaleFirst :=
      fun hstep => Meeting.step_staleFirst (i := .server) h.stale hstep
    obtain ⟨cli, toSrv, toCli, st, handled⟩ := a
    have hq := h.toSrv
    rw [hto] at hq
    cases toSrv with
    | nil => cases hq
    | cons req' reqs =>
      obtain ⟨hreq, hreqs⟩ := List.cons.inj hq
      cases datagram_injective cfg hreq
      have hfirst : st = .stale → req = .close := by
        intro hst
        rcases h.stale hst with ⟨_, hnil⟩ | hhead
        · cases hnil
        · exact Option.some.inj hhead
      obtain ⟨hsrv, hout⟩ := Standing.react_follows hreacts h.srv hhandled hfirst
      refine ⟨_, rfl, hinv, hstale rfl, h.cli, hreqs, ?_, hsrv, h.got⟩
      show List.Forall₂ Reply.Is (toCli ++ (st.react req).2)
        (n.toCli ++ Net.through (Net.marked kept out))
      rw [through_marked_all hloss]
      exact List.rel_append h.toCli hout
  | beside env inp kept hready hview hkind =>
    refine .inr ⟨rfl, hinv, h.stale, h.cli, h.toSrv, ?_, ?_, h.got⟩
    · rw [show wire k n.srv (n.srv.step env inp) = [] from hloss]
      show List.Forall₂ Reply.Is a.toCli (n.toCli ++ [])
      rw [List.append_nil]
      exact h.toCli
    · show a.srv.Is a.handled (view (n.srv.step env inp).st k)
      rw [hview]
      exact h.srv

/-- INTERNAL: where the meeting can go on, the client or the server can. -/
theorem Follows.enabled (h : Follows o cfg k dataDir n p a) {i : Actor} {a' : Meeting}
    (hstep : Meeting.step i a = some a') :
    (∃ n', n.step k (.client true true) = some n') ∨
      ∃ n', n.step k (.server {} fun _ => true) = some n' := by
  obtain ⟨b, hprog⟩ := h.inv.phase
  have hok := h.inv.ok
  obtain ⟨cli, toSrv, toCli, st, handled⟩ := a
  cases i with
  | client =>
    left
    rcases h.cli with ⟨hcli, _, _⟩ | ⟨hcli, _⟩
    · have hcli' : cli = p := hcli.symm
      subst hcli'
      have hnext : cli.Waits → ∃ d ds, n.toCli = d :: ds := by
        intro hwait
        apply List.exists_cons_of_ne_nil
        exact h.toCli_ne_nil.mp (Meeting.toCli_of_waits hwait hstep)
      simp only [Net.step, Net.clientStep]
      cases cli with
      | close =>
        rw [hprog, prog_close]
        exact ⟨_, rfl⟩
      | greet c =>
        rw [hprog, prog_greet o cfg b hok]
        exact ⟨_, rfl⟩
      | login c =>
        rw [hprog, prog_login o cfg b hok]
        exact ⟨_, rfl⟩
      | iface =>
        rw [hprog, prog_iface]
        exact ⟨_, rfl⟩
      | done out => cases hstep
      | greetWait c =>
        obtain ⟨d, ds, hd⟩ := hnext trivial
        rw [hprog, prog_greetWait, hd]
        exact ⟨_, rfl⟩
      | greetRecv c =>
        obtain ⟨d, ds, hd⟩ := hnext trivial
        rw [hprog, prog_greetRecv, hd]
        exact ⟨_, rfl⟩
      | loginWait c =>
        obtain ⟨d, ds, hd⟩ := hnext trivial
        rw [hprog, prog_loginWait, hd]
        exact ⟨_, rfl⟩
      | loginRecv c =>
        obtain ⟨d, ds, hd⟩ := hnext trivial
        rw [hprog, prog_loginRecv, hd]
        exact ⟨_, rfl⟩
    · have hcli' : cli = .done ⟨0, some 0⟩ := hcli
      subst hcli'
      cases hstep
  | server =>
    right
    cases toSrv with
    | nil => cases hstep
    | cons req reqs =>
      have hq := h.toSrv
      simp only [Net.step, Net.serverStep]
      cases hto : n.toSrv with
      | nil =>
        rw [hto] at hq
        cases hq
      | cons e ds => exact ⟨_, rfl⟩

/-- INTERNAL: **every lossless run follows a schedule of the meeting**, of as many steps as
the client and the server have made. -/
theorem play_follows {st : Standing} (hst : st = .absent ∨ st = .stale) {moves : List Move}
    {pre : List Actor} (hpre : Schedule.play Meeting.step pre { srv := st } = some a)
    (h : Follows o cfg k dataDir n p a)
    (halong : Schedule.Along (Net.step k) (fun n m => m.Healthy dataDir cfg ∧ m.Lossless k n) moves n)
    (hplay : Schedule.play (Net.step k) moves n = some n') :
    ∃ l p' a', Schedule.play Meeting.step l { srv := st } = some a' ∧
      Follows o cfg k dataDir n' p' a' ∧ l.length = pre.length + moves.countP Move.isWork := by
  induction moves generalizing n p a pre with
  | nil =>
    cases hplay
    exact ⟨pre, p, a, hpre, h, rfl⟩
  | cons m moves ih =>
    obtain ⟨n₁, hstep, hrest⟩ := Schedule.play_cons.mp hplay
    obtain ⟨⟨hhealthy, hloss⟩, halong'⟩ := halong
    obtain ⟨p₁, hmove⟩ := step_netMove h.inv hhealthy hstep
    have hhandled : a.handled < 30 := by
      obtain ⟨rest, _, hlen⟩ := Schedule.play_complete Meeting.commute (Meeting.play_schedule hst)
        (Meeting.final_stuck st) hpre
      have hle := Meeting.play_handled hpre
      have hbound : (Meeting.schedule st).length ≤ 15 := by
        rcases hst with rfl | rfl <;> decide
      simp only at hle
      omega
    rcases h.move hhandled hmove hloss with ⟨hwork, i, a₁, hi, hfollows⟩ | ⟨hwork, hfollows⟩
    · have hpre' : Schedule.play Meeting.step (pre ++ [i]) { srv := st } = some a₁ :=
        Schedule.play_append hpre (Schedule.play_cons.mpr ⟨a₁, hi, rfl⟩)
      obtain ⟨l, p', a', hl, hend, hlen⟩ := ih hpre' hfollows (halong' n₁ hstep) hrest
      refine ⟨l, p', a', hl, hend, ?_⟩
      rw [hlen, List.length_append, List.countP_cons_of_pos hwork, List.length_singleton]
      omega
    · obtain ⟨l, p', a', hl, hend, hlen⟩ := ih hpre hfollows (halong' n₁ hstep) hrest
      refine ⟨l, p', a', hl, hend, ?_⟩
      rw [hlen, List.countP_cons_of_neg]
      rw [hwork]
      exact Bool.false_ne_true

end Simulation

/-! ## Reconnecting -/

/-- Neither the client nor the server on its behalf can move. -/
def Net.Halted (k : Endpoint) (n : Net) : Prop :=
  (∀ up, n.step k (.client true up) = none) ∧ ∀ env, n.step k (.server env fun _ => true) = none

/-- The client has connected: `do_handshake` returned zero; the last packet received is an
AUTH_OK that passes the check, whereupon the interface was tried, once; the server holds
exactly one session for the endpoint, an authenticated one; and nothing is left unread. -/
structure Connected (o : ByteOrder) (k : Endpoint) (n : Net) : Prop where
  outcome : ∃ iff up, n.ups = [(iff, up)] ∧
    n.outcome = some ⟨0, some (if up then 0 else -ENETDOWN)⟩
  answer : ∃ d, n.received.getLast? = some d ∧ kindOf d = some .authOk ∧
    ∀ b, (Cli.serverAuthResChk o (Cli.recvInto b d).1 (Cli.recvInto b d).2).1 = 0
  session : ∃! i, (n.srv.st.sessArr i).isConnected = true ∧ (n.srv.st.sessArr i).key = k
  authenticated : ∀ i, (n.srv.st.sessArr i).isConnected = true → (n.srv.st.sessArr i).key = k →
    (n.srv.st.sessArr i).isAuthenticated = true
  unread : n.toCli = [] ∧ n.toSrv = []

theorem kindOf_authOk {d : List UInt8} (h : AuthOk d) : kindOf d = some .authOk := by
  obtain ⟨o, raw, iff, rfl⟩ := h
  rfl

/-- INTERNAL: at the end of the meeting the client has connected. -/
theorem Follows.connected {o : ByteOrder} {cfg : CliCfg} {k : Endpoint} {dataDir : List UInt8}
    {n : Net} {p : CliPhase} {st : Standing}
    (h : Follows o cfg k dataDir n p (Meeting.final st)) : Connected o k n := by
  have htab : TableInv n.srv.st :=
    (h.inv.ready.slots {} (by simp [Env.NoEbadmsg])).table
  -- the session that the view shows
  obtain ⟨c, hview, _⟩ := h.srv
  obtain ⟨i, hlook, hflags⟩ := Option.map_eq_some_iff.mp hview
  obtain ⟨hc, hk⟩ := (lookupUdpSess_eq_some htab k i).mp hlook
  have hauth : (n.srv.st.sessArr i).isAuthenticated = true := congrArg Prod.fst hflags
  have hunique : ∀ j, (n.srv.st.sessArr j).isConnected = true → (n.srv.st.sessArr j).key = k →
      j = i := fun j hc' hk' => htab.key_inj j i hc' hc (hk'.trans hk.symm)
  refine ⟨?_, ?_, ⟨i, ⟨hc, hk⟩, fun j hj => hunique j hj.1 hj.2⟩, ?_, ?_, ?_⟩
  · obtain ⟨b, hprog⟩ := h.inv.phase
    rcases h.cli with ⟨_, _, hne⟩ | ⟨_, iff, up, hups, hp⟩
    · exact absurd rfl hne
    · refine ⟨iff, up, hups, ?_⟩
      rw [Net.outcome, hprog, hp]
      rfl
  · obtain ⟨d, hd, hok⟩ := h.got (.inr rfl)
    exact ⟨d, hd, kindOf_authOk hok, fun b => serverAuthResChk_ok o b hok⟩
  · intro j hc' hk'
    rw [hunique j hc' hk']
    exact hauth
  · exact List.forall₂_nil_left_iff.mp h.toCli
  · exact List.map_eq_nil_iff.mp h.toSrv

/-- INTERNAL: **reconnecting succeeds over any session that was left.** From every reachable
state of the server in which the endpoint has a session, of whatever stage and counter, or a
slot is free, over a channel that loses nothing and without timeouts: whatever the
interleaving, the client and the server make at most fifteen steps, and when neither can
move, the client has connected.
SOURCE: client/linux/udp.c:434-624; udp_epoll.c:498-630, 715-797 -/
theorem reconnect_connects {maxConn : UInt16} {dataDir : List UInt8} {o : ByteOrder}
    {pkt zrPkt : ScPkt} {s : Server}
    (h : Server.Reach (fun _ env _ => env.NoEbadmsg) (Server.boot maxConn dataDir o pkt zrPkt) s)
    (k : Endpoint) (hslot : lookupUdpSess s.st k.addr k.port = none → freeSlots s.st ≠ [])
    (o' : ByteOrder) (cfg : CliCfg) (b : Buf) {moves : List Move} {n : Net}
    (hmoves : Schedule.Along (Net.step k)
      (fun n m => m.Healthy s.st.dataDir cfg ∧ m.Lossless k n) moves (Net.start o' cfg b s))
    (hplay : Schedule.play (Net.step k) moves (Net.start o' cfg b s) = some n) :
    moves.countP Move.isWork ≤ 15 ∧ (n.Halted k → Connected o' k n) := by
  have hready := ready_of_reach h k hslot
  -- the standing of the client before it connects
  obtain ⟨st, hst, hview⟩ : ∃ st : Standing, (st = .absent ∨ st = .stale) ∧
      st.Is 0 (view s.st k) := by
    by_cases hnone : view s.st k = none
    · exact ⟨.absent, .inl rfl, hnone⟩
    · exact ⟨.stale, .inr rfl, hnone⟩
  have hstart : Follows o' cfg k s.st.dataDir (Net.start o' cfg b s) .close { srv := st } :=
    ⟨start_netInv o' cfg b hready, fun _ => .inl ⟨rfl, rfl⟩, .inl ⟨rfl, rfl, nofun⟩, rfl, .nil, hview,
      nofun⟩
  have hnil : Schedule.play Meeting.step [] { srv := st } = some { srv := st } := rfl
  obtain ⟨l, p, a, hl, hend, hlen⟩ := play_follows hst hnil hstart hmoves hplay
  obtain ⟨rest, _, hcount⟩ := Schedule.play_complete Meeting.commute (Meeting.play_schedule hst)
    (Meeting.final_stuck st) hl
  have hbound : (Meeting.schedule st).length ≤ 15 := by
    rcases hst with rfl | rfl <;> decide
  refine ⟨by simp only [List.length_nil] at hlen; omega, fun hhalted => ?_⟩
  have hstuck : Schedule.Stuck Meeting.step a := by
    intro i
    by_contra hne
    obtain ⟨a', ha⟩ := Option.ne_none_iff_exists'.mp hne
    rcases hend.enabled ha with ⟨n', hn⟩ | ⟨n', hn⟩
    · rw [hhalted.1 true] at hn
      cases hn
    · rw [hhalted.2 {}] at hn
      cases hn
  have hfinal := Schedule.play_stuck Meeting.commute (Meeting.play_schedule hst)
    (Meeting.final_stuck st) hl hstuck
  rw [hfinal] at hend
  exact hend.connected

/-- A server that knows the user of the endpoint, and a client with these credentials. -/
def userEnv : Env where
  fopen := fun _ => some
    { entries := [(ascii "auth", ascii "password", ascii "secret"),
        (ascii "iface", ascii "ipv4", ascii "10.5.0.2")] }

def userCfg : CliCfg := { username := ascii "user", password := ascii "secret", dev := ascii "tun0" }

/-- The schedule over a stale session, as moves of the network. -/
def staleMoves : List Move :=
  (Meeting.schedule .stale).map fun
    | .client => .client true true
    | .server => .server userEnv fun _ => true

/-- The client has returned and nothing is left for the server. -/
def Net.finished (n : Net) : Bool := n.toSrv.isEmpty && n.outcome.isSome

theorem halted_of_finished {n : Net} (h : n.finished = true) (k : Endpoint) : n.Halted k := by
  obtain ⟨cli, srv, toSrv, toCli, requests, handled, received, ups⟩ := n
  cases toSrv with
  | cons e ds => cases h
  | nil =>
    cases cli with
    | op o f => cases h
    | pure out => exact ⟨fun _ => rfl, fun _ => rfl⟩

/-- The client of an authenticated session comes again. -/
theorem reconnect_connects_stale :
    ∃ s n, Server.Reach (fun _ env _ => env.NoEbadmsg)
        (Server.boot 1 [] .little Server.zeroPkt Server.zeroPkt) s ∧
      view s.st ⟨0x0a000001, 1000⟩ = some (true, 1) ∧
      Schedule.play (Net.step ⟨0x0a000001, 1000⟩) staleMoves
        (Net.start .little userCfg (fun _ => 0) s) = some n ∧
      Connected .little ⟨0x0a000001, 1000⟩ n := by
  have h₀ : Server.Reach (fun _ env _ => env.NoEbadmsg)
    (Server.boot 1 [] .little Server.zeroPkt Server.zeroPkt) _ := .init
  have h₁ := h₀.step {} (.udp ⟨0x0a000001, 1000⟩ handshakePacket) (by simp [Env.NoEbadmsg])
  have h₂ := h₁.step userEnv (.udp ⟨0x0a000001, 1000⟩ (authRequest userCfg))
    (by simp [Env.NoEbadmsg, userEnv])
  set s := ((Server.boot 1 [] .little Server.zeroPkt Server.zeroPkt).step {}
    (.udp ⟨0x0a000001, 1000⟩ handshakePacket)).step userEnv
      (.udp ⟨0x0a000001, 1000⟩ (authRequest userCfg)) with hs
  have hview : view s.st ⟨0x0a000001, 1000⟩ = some (true, 1) := by
    rw [hs]
    decide +kernel
  have hacc : Env.Accepts userEnv s.st.dataDir userCfg :=
    ⟨⟨by simp [userEnv], by simp [userEnv]⟩, by rw [hs]; decide⟩
  have hmoves : ∀ m ∈ staleMoves, ∀ n, m.Healthy s.st.dataDir userCfg ∧
      m.Lossless ⟨0x0a000001, 1000⟩ n := by
    intro m hm n
    obtain ⟨i, _, rfl⟩ := List.mem_map.mp hm
    cases i with
    | client => exact ⟨trivial, rfl⟩
    | server => exact ⟨hacc, fun _ => rfl⟩
  have hrun : (Schedule.play (Net.step ⟨0x0a000001, 1000⟩) staleMoves
      (Net.start .little userCfg (fun _ => 0) s)).any Net.finished = true := by
    rw [hs]
    decide +kernel
  obtain ⟨n, hplay, hfin⟩ := (Option.any_eq_true _ _).mp hrun
  have hslot : lookupUdpSess s.st 0x0a000001 1000 = none → freeSlots s.st ≠ [] := by
    intro hnone
    rw [view, hnone] at hview
    cases hview
  exact ⟨s, n, h₂, hview, hplay, (reconnect_connects h₂ ⟨0x0a000001, 1000⟩ hslot .little userCfg
    (fun _ => 0) (Schedule.along_of_forall hmoves _) hplay).2 (halted_of_finished hfin _)⟩

end TeaVpn2.Analysis
