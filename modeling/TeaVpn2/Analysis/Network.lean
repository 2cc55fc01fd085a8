import TeaVpn2.Analysis.ClientPhases
import TeaVpn2.Lib.Schedule

/-!
# A client and the server over a lossy channel

`Net` is one client, from `do_handshake` to the end of `do_auth`, the server, and the
datagrams between them: two queues that neither duplicate nor reorder and may lose
anything. Every datagram of the client carries a number, so that it can be told what became
of it; `requests`, `handled` and `received` are the history.

A `Move` is one system call of the client, a `poll` that times out, one datagram handled by
the server, or an input of the server that is not from a client. A `poll` times out only
when nothing is under way, so a try of the client that fails has lost its request or the
reply to it, or there was no reply.
-/

set_option autoImplicit false

namespace TeaVpn2.Analysis

open TeaVpn2 TeaVpn2.Lib

/-! ## The network -/

/-- A datagram the server has handled: its number, whether the client was still waiting in the
stage of this datagram, the flag `is_authenticated` of its session when it arrived (`none`:
there was no session), and the replies, with `false` for those that got lost. -/
structure Handled where
  tag : Nat
  data : List UInt8
  waiting : Bool
  before : Option Bool
  replies : List (List UInt8 × Bool)
deriving DecidableEq, Repr

structure Net where
  cli : Cli Cli.Outcome
  srv : Server
  toSrv : List (Nat × List UInt8) := []
  toCli : List (List UInt8) := []
  /-- The datagrams of the client, with `false` for those that got lost. -/
  requests : List (List UInt8 × Bool) := []
  handled : List Handled := []
  received : List (List UInt8) := []
  /-- The interfaces the client tried to bring up. -/
  ups : List (List UInt8 × Bool) := []

/-- `kept` says whether the channel keeps the datagram that is sent, `up` whether the
interface can be brought up; of the packets the server sends, the `i`-th is kept if
`kept i`. -/
inductive Move where
  | client (kept up : Bool)
  | timeout
  | server (env : Env) (kept : Nat → Bool)
  | beside (env : Env) (inp : Input) (kept : Nat → Bool)

namespace Net

/-- The client hands a datagram to the channel. -/
def post (n : Net) (kept : Bool) (d : List UInt8) : Net :=
  { n with
    requests := n.requests ++ [(d, kept)]
    toSrv := if kept then n.toSrv ++ [(n.requests.length, d)] else n.toSrv }

def clientStep (n : Net) (kept up : Bool) : Option Net :=
  match n.cli with
  | .pure _ => none
  | .op (.sendto d) f => some { n.post kept d with cli := f (d.length : Int) }
  | .op .poll f => if n.toCli = [] then none else some { n with cli := f [(1, false)] }
  | .op .recvfrom f =>
      match n.toCli with
      | [] => none
      | d :: ds => some { n with cli := f (.ok d), toCli := ds, received := n.received ++ [d] }
  | .op (.teavpnIfaceUp iff) f => some { n with cli := f up, ups := n.ups ++ [(iff, up)] }

def timeoutStep (n : Net) : Option Net :=
  match n.cli with
  | .op .poll f => if n.toCli = [] ∧ n.toSrv = [] then some { n with cli := f [] } else none
  | _ => none

/-- The packets with what becomes of them. -/
def marked (kept : Nat → Bool) (l : List (List UInt8)) : List (List UInt8 × Bool) :=
  l.mapIdx fun i d => (d, kept i)

/-- The packets that get through. -/
def through (l : List (List UInt8 × Bool)) : List (List UInt8) :=
  l.filterMap fun p => if p.2 then some p.1 else none

/-- The client waits for the answer to a datagram like `d`. -/
def waitsFor (n : Net) (d : List UInt8) : Bool :=
  (match n.cli with
    | .op .poll _ => true
    | _ => false) && (n.requests.getLast?.map Prod.fst == some d)

def serverStep (k : Endpoint) (n : Net) (env : Env) (kept : Nat → Bool) : Option Net :=
  match n.toSrv with
  | [] => none
  | (tag, d) :: ds =>
      let srv := n.srv.step env (.udp k d)
      let replies := marked kept (wire k n.srv srv)
      some { n with
        srv := srv
        toSrv := ds
        toCli := n.toCli ++ through replies
        handled := n.handled ++
          [⟨tag, d, n.waitsFor d, (view n.srv.st k).map Prod.fst, replies⟩] }

/-- An input that is not from a client and does not close the session of `k`. -/
def besideStep (k : Endpoint) (n : Net) (env : Env) (inp : Input) (kept : Nat → Bool) :
    Option Net :=
  let srv := n.srv.step env inp
  if Background inp = true ∧
      lookupUdpSess srv.st k.addr k.port = lookupUdpSess n.srv.st k.addr k.port then
    some { n with
      srv := srv
      toCli := n.toCli ++ through (marked kept (wire k n.srv srv)) }
  else none

def step (k : Endpoint) (m : Move) (n : Net) : Option Net :=
  match m with
  | .client kept up => n.clientStep kept up
  | .timeout => n.timeoutStep
  | .server env kept => n.serverStep k env kept
  | .beside env inp kept => n.besideStep k env inp kept

/-- What the client has returned. -/
def outcome (n : Net) : Option Cli.Outcome :=
  match n.cli with
  | .pure out => some out
  | .op _ _ => none

/-- The client is about to call `do_handshake`. -/
def start (o : ByteOrder) (cfg : CliCfg) (b : Buf) (srv : Server) : Net where
  cli := Cli.connect o cfg b
  srv := srv

end Net

/-! ## The moves of the client -/

/-- The counter of a try is in its range, and a login follows a successful handshake only. -/
def CliPhase.Ok : CliPhase → Prop
  | .greet c | .greetWait c | .greetRecv c => c < Cli.maxTry
  | .login c | .loginWait c | .loginRecv c => c < Cli.maxTry + 1
  | .done out => out.handshake = 0 ∨ out.auth = none
  | _ => True

/-- What a move of the client can be, by its place; the program of the resulting network is
left open. -/
inductive CliMove (o : ByteOrder) (cfg : CliCfg) (n : Net) : Move → CliPhase → CliPhase → Net → Prop
    where
  | close (kept up : Bool) :
      CliMove o cfg n (.client kept up) .close (.greet 0) (n.post kept (header TCLI_PKT_CLOSE 0 0))
  | greet (kept up : Bool) (c : Nat) :
      CliMove o cfg n (.client kept up) (.greet c) (.greetWait c) (n.post kept handshakePacket)
  | greetReady (kept up : Bool) (c : Nat) : n.toCli ≠ [] →
      CliMove o cfg n (.client kept up) (.greetWait c) (.greetRecv c) n
  | greetTimeout (c : Nat) : n.toCli = [] → n.toSrv = [] →
      CliMove o cfg n .timeout (.greetWait c) (.greeted c (-ETIMEDOUT)) n
  | greetRecv (kept up : Bool) (c : Nat) (b : Buf) (d : List UInt8) (ds : List (List UInt8)) :
      n.toCli = d :: ds → CliMove o cfg n (.client kept up) (.greetRecv c)
        (.greeted c (Cli.serverHandshakeChk o (Cli.recvInto b d).1 (Cli.recvInto b d).2).1)
        { n with toCli := ds, received := n.received ++ [d] }
  | login (kept up : Bool) (c : Nat) :
      CliMove o cfg n (.client kept up) (.login c) (.loginWait c) (n.post kept (authRequest cfg))
  | loginReady (kept up : Bool) (c : Nat) : n.toCli ≠ [] →
      CliMove o cfg n (.client kept up) (.loginWait c) (.loginRecv c) n
  | loginTimeout (c : Nat) : n.toCli = [] → n.toSrv = [] →
      CliMove o cfg n .timeout (.loginWait c) (.answered c (-ETIMEDOUT)) n
  | loginRecv (kept up : Bool) (c : Nat) (b : Buf) (d : List UInt8) (ds : List (List UInt8)) :
      n.toCli = d :: ds → CliMove o cfg n (.client kept up) (.loginRecv c)
        (.answered c (Cli.serverAuthResChk o (Cli.recvInto b d).1 (Cli.recvInto b d).2).1)
        { n with toCli := ds, received := n.received ++ [d] }
  | iface (kept up : Bool) (iff : List UInt8) :
      CliMove o cfg n (.client kept up) .iface (.done ⟨0, some (if up then 0 else -ENETDOWN)⟩)
        { n with ups := n.ups ++ [(iff, up)] }

theorem CliPhase.greeted_ok (c : Nat) (ret : Int) : (CliPhase.greeted c ret).Ok := by
  unfold CliPhase.greeted
  split
  · next h => exact h.2
  split
  · split
    · exact .inr rfl
    · show c + 1 < Cli.maxTry
      unfold Cli.maxTry
      omega
  split
  · exact .inr rfl
  · exact Nat.succ_pos _

theorem CliPhase.answered_ok (c : Nat) (ret : Int) : (CliPhase.answered c ret).Ok := by
  unfold CliPhase.answered
  split
  · trivial
  split
  · next h =>
    show c + 1 < Cli.maxTry + 1
    omega
  · exact .inl rfl

/-- INTERNAL: a client that has returned is at its end. -/
theorem CliPhase.eq_done {o : ByteOrder} {cfg : CliCfg} {p : CliPhase} {b : Buf} (hok : p.Ok)
    {out : Cli.Outcome} (h : p.prog o cfg b = .pure out) : p = .done out := by
  cases p with
  | close =>
    rw [prog_close] at h
    cases h
  | greet c =>
    rw [prog_greet o cfg b hok] at h
    cases h
  | greetWait c =>
    rw [prog_greetWait] at h
    cases h
  | greetRecv c =>
    rw [prog_greetRecv] at h
    cases h
  | login c =>
    rw [prog_login o cfg b hok] at h
    cases h
  | loginWait c =>
    rw [prog_loginWait] at h
    cases h
  | loginRecv c =>
    rw [prog_loginRecv] at h
    cases h
  | iface =>
    rw [prog_iface] at h
    cases h
  | done out' =>
    cases h
    rfl

section Moves

variable {o : ByteOrder} {cfg : CliCfg} {n n' : Net} {p : CliPhase} {b : Buf}

/-- INTERNAL: **what a system call of the client does.** -/
theorem clientStep_move {kept up : Bool} (hcli : n.cli = p.prog o cfg b) (hok : p.Ok)
    (hstep : n.clientStep kept up = some n') :
    ∃ p' n₁ b', CliMove o cfg n (.client kept up) p p' n₁ ∧ p'.Ok ∧
      n' = { n₁ with cli := p'.prog o cfg b' } := by
  unfold Net.clientStep at hstep
  cases p with
  | close =>
    rw [hcli, prog_close] at hstep
    exact ⟨_, _, _, .close kept up, Nat.succ_pos _, (Option.some.inj hstep).symm⟩
  | greet c =>
    rw [hcli, prog_greet o cfg b hok] at hstep
    dsimp only at hstep
    rw [if_pos (by omega)] at hstep
    exact ⟨_, _, _, .greet kept up c, hok, (Option.some.inj hstep).symm⟩
  | greetWait c =>
    rw [hcli, prog_greetWait] at hstep
    dsimp only at hstep
    split at hstep
    · cases hstep
    · next hne =>
      rw [if_neg (by decide)] at hstep
      exact ⟨_, _, _, .greetReady kept up c hne, hok, (Option.some.inj hstep).symm⟩
  | greetRecv c =>
    rw [hcli, prog_greetRecv] at hstep
    dsimp only at hstep
    split at hstep
    · cases hstep
    · next d ds hd =>
      exact ⟨_, _, _, .greetRecv kept up c b d ds hd, CliPhase.greeted_ok _ _,
        (Option.some.inj hstep).symm⟩
  | login c =>
    rw [hcli, prog_login o cfg b hok] at hstep
    dsimp only at hstep
    rw [if_pos (by omega)] at hstep
    exact ⟨_, _, _, .login kept up c, hok, (Option.some.inj hstep).symm⟩
  | loginWait c =>
    rw [hcli, prog_loginWait] at hstep
    dsimp only at hstep
    split at hstep
    · cases hstep
    · next hne =>
      rw [if_neg (by decide)] at hstep
      exact ⟨_, _, _, .loginReady kept up c hne, hok, (Option.some.inj hstep).symm⟩
  | loginRecv c =>
    rw [hcli, prog_loginRecv] at hstep
    dsimp only at hstep
    split at hstep
    · cases hstep
    · next d ds hd =>
      exact ⟨_, _, _, .loginRecv kept up c b d ds hd, CliPhase.answered_ok _ _,
        (Option.some.inj hstep).symm⟩
  | iface =>
    rw [hcli, prog_iface] at hstep
    exact ⟨_, _, _, .iface kept up _, .inl rfl, (Option.some.inj hstep).symm⟩
  | done out =>
    rw [hcli] at hstep
    cases hstep

/-- INTERNAL: what a `poll` that times out does. -/
theorem timeoutStep_move (hcli : n.cli = p.prog o cfg b) (hok : p.Ok)
    (hstep : n.timeoutStep = some n') :
    ∃ p' n₁ b', CliMove o cfg n .timeout p p' n₁ ∧ p'.Ok ∧
      n' = { n₁ with cli := p'.prog o cfg b' } := by
  unfold Net.timeoutStep at hstep
  cases p with
  | close =>
    rw [hcli, prog_close] at hstep
    cases hstep
  | greet c =>
    rw [hcli, prog_greet o cfg b hok] at hstep
    cases hstep
  | greetWait c =>
    rw [hcli, prog_greetWait] at hstep
    dsimp only at hstep
    split at hstep
    · next hnil =>
      rw [if_pos (by decide)] at hstep
      exact ⟨_, _, _, .greetTimeout c hnil.1 hnil.2, CliPhase.greeted_ok _ _,
        (Option.some.inj hstep).symm⟩
    · cases hstep
  | greetRecv c =>
    rw [hcli, prog_greetRecv] at hstep
    cases hstep
  | login c =>
    rw [hcli, prog_login o cfg b hok] at hstep
    cases hstep
  | loginWait c =>
    rw [hcli, prog_loginWait] at hstep
    dsimp only at hstep
    split at hstep
    · next hnil =>
      rw [if_pos (by decide)] at hstep
      exact ⟨_, _, _, .loginTimeout c hnil.1 hnil.2, CliPhase.answered_ok _ _,
        (Option.some.inj hstep).symm⟩
    · cases hstep
  | loginRecv c =>
    rw [hcli, prog_loginRecv] at hstep
    cases hstep
  | iface =>
    rw [hcli, prog_iface] at hstep
    cases hstep
  | done out =>
    rw [hcli] at hstep
    cases hstep

end Moves

/-! ## What every run keeps -/

/-- The server between two inputs: its invariants, and a slot for `k` if it has none. -/
structure Ready (k : Endpoint) (dataDir : List UInt8) (s : Server) : Prop where
  slots : Server.SlotInv s
  life : Server.LifeInv s
  free : view s.st k = none → freeSlots s.st ≠ []
  dataDir : s.st.dataDir = dataDir

theorem ready_of_reach {maxConn : UInt16} {dataDir : List UInt8} {o : ByteOrder} {pkt zrPkt : ScPkt}
    {s : Server}
    (h : Server.Reach (fun _ env _ => env.NoEbadmsg) (Server.boot maxConn dataDir o pkt zrPkt) s)
    (k : Endpoint) (hslot : lookupUdpSess s.st k.addr k.port = none → freeSlots s.st ≠ []) :
    Ready k s.st.dataDir s := by
  refine ⟨reach_slotInv h, reach_lifeInv h, fun hview => hslot ?_, rfl⟩
  exact Option.map_eq_none_iff.mp hview

/-- The server works while it handles the datagrams of the client, and its user files accept
the credentials. -/
def Move.Healthy (dataDir : List UInt8) (cfg : CliCfg) : Move → Prop
  | .server env _ => Env.Accepts env dataDir cfg
  | .beside env _ _ => env.NoEbadmsg
  | _ => True

/-- The client is past its handshake and may still send. -/
def CliPhase.LoggingIn : CliPhase → Prop
  | .login _ | .loginWait _ | .loginRecv _ => True
  | _ => False

/-- INTERNAL: **the joint invariant.** The only CLOSE is the first datagram of the client; so
once a HANDSHAKE reply is under way, or has led the client to its login, no CLOSE can be
behind it and the session is there to stay. -/
structure NetInv (o : ByteOrder) (cfg : CliCfg) (k : Endpoint) (dataDir : List UInt8) (n : Net)
    (p : CliPhase) : Prop where
  phase : ∃ b, n.cli = p.prog o cfg b
  ok : p.Ok
  ready : Ready k dataDir n.srv
  requests : ∀ e ∈ n.toSrv, ∃ req, e.2 = Request.datagram cfg req
  late : ∀ e ∈ n.toSrv.tail, e.2 ≠ Request.datagram cfg .close
  fresh : p = .close → n.toSrv = [] ∧ ∀ d ∈ n.toCli, kindOf d ≠ some .handshake
  known : ((∃ d ∈ n.toCli, kindOf d = some .handshake) ∨
      (∃ e ∈ n.toSrv, e.2 = Request.datagram cfg .auth) ∨ p.LoggingIn) →
    view n.srv.st k ≠ none ∧ ∀ e ∈ n.toSrv, e.2 ≠ Request.datagram cfg .close

/-- **What a move can be.** -/
inductive NetMove (o : ByteOrder) (cfg : CliCfg) (k : Endpoint) (dataDir : List UInt8) (n : Net)
    (p : CliPhase) : Move → CliPhase → Net → Prop where
  | client {m : Move} {p' : CliPhase} {n₁ : Net} (b : Buf) : CliMove o cfg n m p p' n₁ → p'.Ok →
      NetMove o cfg k dataDir n p m p' { n₁ with cli := p'.prog o cfg b }
  | server (env : Env) (kept : Nat → Bool) (tag : Nat) (req : Request)
      (ds : List (Nat × List UInt8)) (srv : Server) (out : List (List UInt8)) :
      n.toSrv = (tag, req.datagram cfg) :: ds → Ready k dataDir srv →
      Reacts (view n.srv.st k) req (view srv.st k) out →
      NetMove o cfg k dataDir n p (.server env kept) p
        { n with
          srv := srv
          toSrv := ds
          toCli := n.toCli ++ Net.through (Net.marked kept out)
          handled := n.handled ++ [⟨tag, req.datagram cfg, n.waitsFor (req.datagram cfg),
            (view n.srv.st k).map Prod.fst, Net.marked kept out⟩] }
  | beside (env : Env) (inp : Input) (kept : Nat → Bool) : Ready k dataDir (n.srv.step env inp) →
      view (n.srv.step env inp).st k = view n.srv.st k →
      (∀ d ∈ wire k n.srv (n.srv.step env inp),
        kindOf d ≠ some .handshake ∧ kindOf d ≠ some .authOk) →
      NetMove o cfg k dataDir n p (.beside env inp kept) p
        { n with
          srv := n.srv.step env inp
          toCli := n.toCli ++
            Net.through (Net.marked kept (wire k n.srv (n.srv.step env inp))) }

section Run

variable {o : ByteOrder} {cfg : CliCfg} {k : Endpoint} {dataDir : List UInt8} {n n' : Net}
  {p p' : CliPhase} {m : Move}

/-- INTERNAL: **the inversion of a step.** -/
theorem step_netMove (h : NetInv o cfg k dataDir n p) (hm : m.Healthy dataDir cfg)
    (hstep : n.step k m = some n') : ∃ p', NetMove o cfg k dataDir n p m p' n' := by
  obtain ⟨b, hcli⟩ := h.phase
  cases m with
  | client kept up =>
    obtain ⟨p', n₁, b', hmove, hok, rfl⟩ := clientStep_move hcli h.ok hstep
    exact ⟨p', .client b' hmove hok⟩
  | timeout =>
    obtain ⟨p', n₁, b', hmove, hok, rfl⟩ := timeoutStep_move hcli h.ok hstep
    exact ⟨p', .client b' hmove hok⟩
  | server env kept =>
    simp only [Net.step, Net.serverStep] at hstep
    split at hstep
    · cases hstep
    next tag d ds hto =>
    cases hstep
    obtain ⟨req, hreq⟩ := h.requests (tag, d) (by rw [hto]; exact List.mem_cons_self)
    simp only at hreq
    subst hreq
    have hacc : Env.Accepts env n.srv.st.dataDir cfg := by
      rw [h.ready.dataDir]
      exact hm
    have hknown : req = .auth → view n.srv.st k ≠ none := by
      rintro rfl
      refine (h.known (.inr (.inl ⟨(tag, Request.datagram cfg .auth), ?_, rfl⟩))).1
      rw [hto]
      exact List.mem_cons_self
    have henv := hacc.healthy.noEbadmsg
    obtain ⟨hreacts, hfree⟩ := step_reacts h.ready.slots h.ready.life hacc h.ready.free req hknown
    refine ⟨p, .server env kept tag req ds _ _ hto ?_ hreacts⟩
    exact ⟨step_slotInv _ h.ready.slots henv, step_lifeInv _ h.ready.slots h.ready.life henv, hfree,
      (config_step _ _ _).2.1.trans h.ready.dataDir⟩
  | beside env inp kept =>
    simp only [Net.step, Net.besideStep] at hstep
    split at hstep
    · next hcond =>
      cases hstep
      obtain ⟨hview, hfree, hkind⟩ := step_background h.ready.slots hm hcond.1 hcond.2
      refine ⟨p, .beside env inp kept ?_ hview hkind⟩
      refine ⟨step_slotInv _ h.ready.slots hm, step_lifeInv _ h.ready.slots h.ready.life hm, ?_,
        (config_step _ _ _).2.1.trans h.ready.dataDir⟩
      rw [hview]
      exact fun hnone => hfree (h.ready.free hnone)
    · cases hstep

theorem datagram_ne_close {req : Request} (hreq : req ≠ .close) :
    Request.datagram cfg req ≠ Request.datagram cfg .close := by
  cases req with
  | close => exact absurd rfl hreq
  | handshake => exact fun h => absurd (List.cons.inj h).1 (by decide)
  | auth => exact fun h => absurd (List.cons.inj h).1 (by decide)

theorem mem_through_marked {kept : Nat → Bool} {l : List (List UInt8)} {d : List UInt8}
    (h : d ∈ Net.through (Net.marked kept l)) : d ∈ l := by
  obtain ⟨e, he, hd⟩ := List.mem_filterMap.mp h
  obtain ⟨i, hi, rfl⟩ := List.mem_mapIdx.mp he
  simp only [Option.ite_none_right_eq_some] at hd
  rw [← Option.some.inj hd.2]
  exact List.getElem_mem hi

/-- INTERNAL: the client sends a HANDSHAKE or an AUTH. -/
theorem NetInv.post (h : NetInv o cfg k dataDir n p) (kept : Bool) (req : Request) (p' : CliPhase)
    (hreq : req ≠ .close) (hauth : req = .auth → p.LoggingIn)
    (hlog : p'.LoggingIn → p.LoggingIn) (hp' : p' ≠ .close) (hok : p'.Ok) (b : Buf) :
    NetInv o cfg k dataDir { n.post kept (req.datagram cfg) with cli := p'.prog o cfg b } p' := by
  have hmem : ∀ e ∈ (n.post kept (req.datagram cfg)).toSrv, e ∈ n.toSrv ∨ e.2 = req.datagram cfg := by
    intro e he
    cases kept with
    | false => exact .inl he
    | true =>
      rcases List.mem_append.mp he with he | he
      · exact .inl he
      · rw [List.mem_singleton.mp he]
        exact .inr rfl
  refine ⟨⟨b, rfl⟩, hok, h.ready, ?_, ?_, fun heq => absurd heq hp', ?_⟩
  · intro e he
    rcases hmem e he with he | he
    · exact h.requests e he
    · exact ⟨req, he⟩
  · intro e he
    cases kept with
    | false => exact h.late e he
    | true =>
      have he' : e ∈ (n.toSrv ++ [(n.requests.length, req.datagram cfg)]).tail := he
      cases hto : n.toSrv with
      | nil =>
        rw [hto] at he'
        cases he'
      | cons x xs =>
        rw [hto, List.cons_append, List.tail_cons] at he'
        rcases List.mem_append.mp he' with he' | he'
        · apply h.late
          rw [hto]
          exact he'
        · rw [List.mem_singleton.mp he']
          exact datagram_ne_close hreq
  · intro hprem
    have hprem' : (∃ d ∈ n.toCli, kindOf d = some .handshake) ∨
        (∃ e ∈ n.toSrv, e.2 = Request.datagram cfg .auth) ∨ p.LoggingIn := by
      rcases hprem with hd | ⟨e, he, hd⟩ | hp
      · exact .inl hd
      · rcases hmem e he with he | he
        · exact .inr (.inl ⟨e, he, hd⟩)
        · have hsame : req = .auth := by
            rw [he] at hd
            cases req with
            | close => exact absurd rfl hreq
            | handshake => exact absurd (List.cons.inj hd).1 (by decide)
            | auth => rfl
          exact .inr (.inr (hauth hsame))
      · exact .inr (.inr (hlog hp))
    obtain ⟨hview, hclose⟩ := h.known hprem'
    refine ⟨hview, fun e he => ?_⟩
    rcases hmem e he with he | he
    · exact hclose e he
    · rw [he]
      exact datagram_ne_close hreq

/-- INTERNAL: the client goes on without sending. -/
theorem NetInv.turn (h : NetInv o cfg k dataDir n p) (n₁ : Net) (p' : CliPhase) (hsrv : n₁.srv = n.srv)
    (hto : n₁.toSrv = n.toSrv) (hsub : ∀ d ∈ n₁.toCli, d ∈ n.toCli)
    (hlog : p'.LoggingIn → p.LoggingIn ∨ ∃ d ∈ n.toCli, kindOf d = some .handshake)
    (hp' : p' ≠ .close) (hok : p'.Ok) (b : Buf) :
    NetInv o cfg k dataDir { n₁ with cli := p'.prog o cfg b } p' := by
  refine ⟨⟨b, rfl⟩, hok, ?_, ?_, ?_, fun heq => absurd heq hp', ?_⟩
  · show Ready k dataDir n₁.srv
    rw [hsrv]
    exact h.ready
  · intro e he
    exact h.requests e (by rw [← hto]; exact he)
  · intro e he
    exact h.late e (by rw [← hto]; exact he)
  · show _ → view n₁.srv.st k ≠ none ∧ ∀ e ∈ n₁.toSrv, e.2 ≠ Request.datagram cfg .close
    rw [hsrv, hto]
    intro hprem
    apply h.known
    rcases hprem with ⟨d, hd, hkind⟩ | ⟨e, he, hauth⟩ | hp
    · exact .inl ⟨d, hsub d hd, hkind⟩
    · exact .inr (.inl ⟨e, hto ▸ he, hauth⟩)
    · rcases hlog hp with hp | hd
      · exact .inr (.inr hp)
      · exact .inl hd

theorem kindOf_of_handshakeDatagram {d : List UInt8} (h : HandshakeDatagram d) :
    kindOf d = some .handshake := by
  have htype := h.type
  cases d with
  | nil => cases htype
  | cons t rest =>
    have ht : t = 0 := Option.some.inj htype
    subst ht
    rfl

theorem not_loggingIn_greeted (c : Nat) {ret : Int} (h : (CliPhase.greeted c ret).LoggingIn) :
    ret = 0 := by
  unfold CliPhase.greeted at h
  split at h
  · exact h.elim
  split at h
  · split at h <;> exact h.elim
  split at h
  · exact h.elim
  · next hne => exact not_not.mp hne

theorem greeted_ne_close (c : Nat) (ret : Int) : CliPhase.greeted c ret ≠ .close := by
  unfold CliPhase.greeted
  repeat' split
  all_goals exact nofun

theorem answered_ne_close (c : Nat) (ret : Int) : CliPhase.answered c ret ≠ .close := by
  unfold CliPhase.answered
  repeat' split
  all_goals exact nofun

/-- INTERNAL: **every move keeps the joint invariant.** -/
theorem netMove_inv (h : NetInv o cfg k dataDir n p) (hmove : NetMove o cfg k dataDir n p m p' n') :
    NetInv o cfg k dataDir n' p' := by
  cases hmove with
  | client b hcli hok =>
    cases hcli with
    | close kept up =>
      obtain ⟨hto, hno⟩ := h.fresh rfl
      have hmem : ∀ e ∈ (n.post kept (header TCLI_PKT_CLOSE 0 0)).toSrv,
          e.2 = Request.datagram cfg .close := by
        intro e he
        cases kept with
        | false =>
          have he' : e ∈ n.toSrv := he
          rw [hto] at he'
          cases he'
        | true =>
          have he' : e ∈ n.toSrv ++ [(n.requests.length, header TCLI_PKT_CLOSE 0 0)] := he
          rw [hto] at he'
          rw [List.mem_singleton.mp he']
          rfl
      refine ⟨⟨b, rfl⟩, hok, h.ready, fun e he => ⟨.close, hmem e he⟩, ?_, nofun, ?_⟩
      · intro e he
        have htail : (n.post kept (header TCLI_PKT_CLOSE 0 0)).toSrv.tail = [] := by
          cases kept <;> simp [Net.post, hto]
        rw [show e ∈ _ ↔ e ∈ (n.post kept (header TCLI_PKT_CLOSE 0 0)).toSrv.tail from Iff.rfl,
          htail] at he
        cases he
      · rintro (⟨d, hd, hkind⟩ | ⟨e, he, hauth⟩ | hp)
        · exact absurd hkind (hno d hd)
        · rw [hmem e he] at hauth
          exact absurd (List.cons.inj hauth).1 (by decide)
        · exact hp.elim
    | greet kept up c => exact h.post kept .handshake (.greetWait c) nofun nofun nofun nofun hok b
    | greetReady kept up c hne => exact h.turn n (.greetRecv c) rfl rfl (fun _ hd => hd) nofun nofun hok b
    | greetTimeout c hcli hsrv =>
      refine h.turn n _ rfl rfl (fun _ hd => hd) (fun hl => ?_) (greeted_ne_close _ _) hok b
      exact absurd (not_loggingIn_greeted c hl) (by decide)
    | greetRecv kept up c b' d ds hd =>
      refine h.turn { n with toCli := ds, received := n.received ++ [d] } _ rfl rfl (fun e he => ?_)
        (fun hl => ?_) (greeted_ne_close _ _) hok b
      · rw [hd]
        exact List.mem_cons_of_mem d he
      · have hshake := (serverHandshakeChk_recvInto o b' d).mp (not_loggingIn_greeted c hl)
        refine .inr ⟨d, ?_, kindOf_of_handshakeDatagram hshake⟩
        rw [hd]
        exact List.mem_cons_self
    | login kept up c =>
      exact h.post kept .auth (.loginWait c) nofun (fun _ => trivial) (fun _ => trivial) nofun hok b
    | loginReady kept up c hne =>
      exact h.turn n (.loginRecv c) rfl rfl (fun _ hd => hd) (fun _ => .inl trivial) nofun hok b
    | loginTimeout c hcli hsrv =>
      exact h.turn n _ rfl rfl (fun _ hd => hd) (fun _ => .inl trivial) (answered_ne_close _ _) hok b
    | loginRecv kept up c b' d ds hd =>
      refine h.turn { n with toCli := ds, received := n.received ++ [d] } _ rfl rfl (fun e he => ?_)
        (fun _ => .inl trivial) (answered_ne_close _ _) hok b
      rw [hd]
      exact List.mem_cons_of_mem d he
    | iface kept up iff =>
      exact h.turn { n with ups := n.ups ++ [(iff, up)] } (.done _) rfl rfl (fun _ hd => hd) nofun nofun
        hok b
  | server env kept tag req ds srv out hto hready hreacts =>
    have htail : n.toSrv.tail = ds := by
      rw [hto]
      rfl
    have hds : ∀ e ∈ ds, e ∈ n.toSrv := by
      intro e he
      rw [hto]
      exact List.mem_cons_of_mem _ he
    have hclose : ∀ e ∈ ds, e.2 ≠ Request.datagram cfg .close := by
      intro e he
      apply h.late
      rw [htail]
      exact he
    refine ⟨h.phase, h.ok, hready, fun e he => h.requests e (hds e he),
      fun e he => hclose e (List.mem_of_mem_tail he), fun hp => ?_, fun hprem => ⟨?_, hclose⟩⟩
    · have hnil := (h.fresh hp).1
      rw [hto] at hnil
      cases hnil
    · by_cases hreq : req = .close
      · -- a CLOSE at the head of the queue: the client has not been greeted
        subst hreq
        have hprem' : (∃ d ∈ n.toCli, kindOf d = some .handshake) ∨
            (∃ e ∈ n.toSrv, e.2 = Request.datagram cfg .auth) ∨ p.LoggingIn := by
          rcases hprem with ⟨d, hd, hkind⟩ | ⟨e, he, hauth⟩ | hp
          · rcases List.mem_append.mp hd with hd | hd
            · exact .inl ⟨d, hd, hkind⟩
            · rw [hreacts.close_out d (mem_through_marked hd)] at hkind
              cases hkind
          · exact .inr (.inl ⟨e, hds e he, hauth⟩)
          · exact .inr (.inr hp)
        have hhead := (h.known hprem').2 (tag, Request.datagram cfg .close)
          (by rw [hto]; exact List.mem_cons_self)
        exact absurd rfl hhead
      · exact hreacts.known_after hreq
  | beside env inp kept hready hview hkind =>
    have hcli : ∀ d ∈ n.toCli ++ Net.through (Net.marked kept (wire k n.srv (n.srv.step env inp))),
        kindOf d = some .handshake → d ∈ n.toCli := by
      intro d hd hk
      rcases List.mem_append.mp hd with hd | hd
      · exact hd
      · exact absurd hk (hkind d (mem_through_marked hd)).1
    refine ⟨h.phase, h.ok, hready, h.requests, h.late, fun hp => ⟨(h.fresh hp).1, ?_⟩, ?_⟩
    · intro d hd hk
      exact (h.fresh hp).2 d (hcli d hd hk) hk
    · show _ → view (n.srv.step env inp).st k ≠ none ∧ _
      rw [hview]
      rintro (⟨d, hd, hk⟩ | hrest)
      · exact h.known (.inl ⟨d, hcli d hd hk, hk⟩)
      · exact h.known (.inr hrest)

theorem start_netInv (o : ByteOrder) (cfg : CliCfg) (b : Buf) {s : Server}
    (hready : Ready k dataDir s) : NetInv o cfg k dataDir (Net.start o cfg b s) .close :=
  ⟨⟨b, rfl⟩, trivial, hready, nofun, nofun, fun _ => ⟨rfl, nofun⟩, by
    rintro (⟨_, hd, _⟩ | ⟨_, he, _⟩ | hp)
    · cases hd
    · cases he
    · exact hp.elim⟩

end Run

end TeaVpn2.Analysis
