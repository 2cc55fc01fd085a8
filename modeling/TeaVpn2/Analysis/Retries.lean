import TeaVpn2.Analysis.Reconnect

/-!
# The retries of the client under loss

The client repeats a HANDSHAKE and an AUTH when no answer comes; the server answers a
HANDSHAKE of an endpoint it does not know and an AUTH of a session that is not yet
authenticated, and takes every other one for a repetition. So a retry helps when the request
was lost. When the reply was lost, it does not: the server is one step ahead of the client and
ignores the repetitions.

`RetryInv` says where every datagram is: a request is lost, under way or handled, a reply is
lost, under way or received. A try of the client times out only when nothing is under way.
-/

set_option autoImplicit false

namespace TeaVpn2.Analysis

open TeaVpn2 TeaVpn2.Lib

/-! ## Phases without an answer -/

/-- The client has not been greeted: it is in its handshake, or gave up there. -/
def CliPhase.Ungreeted : CliPhase → Prop
  | .close | .greet _ | .greetWait _ | .greetRecv _ => True
  | .done out => out = ⟨-ETIMEDOUT, none⟩
  | _ => False

/-- The client has not been granted its login. -/
def CliPhase.Ungranted : CliPhase → Prop
  | .close | .greet _ | .greetWait _ | .greetRecv _ | .login _ | .loginWait _ | .loginRecv _ => True
  | .done out => out = ⟨0, some (-ETIMEDOUT)⟩
  | _ => False

/-- The client gave up after a timeout. -/
def CliPhase.TimedOut (p : CliPhase) : Prop :=
  p = .done ⟨-ETIMEDOUT, none⟩ ∨ p = .done ⟨0, some (-ETIMEDOUT)⟩

theorem timedOut_greeted {c : Nat} {ret : Int} (h : (CliPhase.greeted c ret).TimedOut) :
    ret = -ETIMEDOUT := by
  unfold CliPhase.greeted at h
  repeat' split at h
  all_goals simp [CliPhase.TimedOut] at h
  all_goals exact h

theorem timedOut_answered {c : Nat} {ret : Int} (h : (CliPhase.answered c ret).TimedOut) :
    ret = -ETIMEDOUT := by
  unfold CliPhase.answered at h
  repeat' split at h
  all_goals simp [CliPhase.TimedOut] at h
  all_goals exact h

/-- INTERNAL: a client that receives a HANDSHAKE in its handshake is greeted. -/
theorem ungreeted_greeted {c : Nat} {ret : Int} (h : (CliPhase.greeted c ret).Ungreeted) : ret ≠ 0 := by
  rintro rfl
  exact h.elim

theorem ungranted_greeted {c : Nat} (h : (CliPhase.greeted c (-EBADMSG)).Ungranted) : False := by
  unfold CliPhase.greeted at h
  rw [if_neg (fun htime => absurd htime.1 (by decide)), if_neg (by decide), if_pos (by decide)] at h
  cases h

theorem ungranted_answered {c : Nat} {ret : Int} (h : (CliPhase.answered c ret).Ungranted) :
    ret ≠ 0 := by
  rintro rfl
  exact h.elim

theorem not_ungreeted_answered (c : Nat) (ret : Int) : ¬(CliPhase.answered c ret).Ungreeted := by
  unfold CliPhase.answered
  repeat' split
  all_goals simp [CliPhase.Ungreeted]

/-! ## Where the datagrams are -/

/-- The reply to a handled datagram is what its session called for. -/
structure Handled.Fair (cfg : CliCfg) (e : Handled) : Prop where
  handshake : e.data = handshakePacket →
    ((∃ r ∈ e.replies, r.1 = handshakePacket) ↔ e.before = none)
  auth : e.data = authRequest cfg → e.before ≠ none ∧
    ((∃ r ∈ e.replies, AuthOk r.1) ↔ e.before = some false)

/-- INTERNAL: the books of a run. -/
structure RetryInv (o : ByteOrder) (cfg : CliCfg) (k : Endpoint) (dataDir : List UInt8) (n : Net)
    (p : CliPhase) : Prop where
  net : NetInv o cfg k dataDir n p
  fair : ∀ e ∈ n.handled, e.Fair cfg
  tracked : ∀ (i : Nat) d, n.requests[i]? = some (d, true) →
    (i, d) ∈ n.toSrv ∨ ∃ e ∈ n.handled, e.tag = i ∧ e.data = d
  delivered : ∀ e ∈ n.handled, ∀ r ∈ e.replies, r.2 = true → r.1 ∈ n.toCli ∨ r.1 ∈ n.received
  greeting : p.Ungreeted → handshakePacket ∉ n.received
  grant : p.Ungranted → ∀ d ∈ n.received, ¬AuthOk d
  drained : p.TimedOut → n.toSrv = [] ∧
    ∀ e ∈ n.handled, ∀ r ∈ e.replies, r.2 = true → r.1 ∈ n.received

section Moves

variable {o : ByteOrder} {cfg : CliCfg} {k : Endpoint} {dataDir : List UInt8} {n n' : Net}
  {p p' : CliPhase} {m : Move}

theorem mem_through_of_kept {l : List (List UInt8 × Bool)} {r : List UInt8 × Bool} (hr : r ∈ l)
    (hkept : r.2 = true) : r.1 ∈ Net.through l :=
  List.mem_filterMap.mpr ⟨r, hr, if_pos hkept⟩

theorem mem_marked (kept : Nat → Bool) {l : List (List UInt8)} {d : List UInt8} :
    (∃ r ∈ Net.marked kept l, r.1 = d) ↔ d ∈ l := by
  constructor
  · rintro ⟨r, hr, rfl⟩
    obtain ⟨i, hi, rfl⟩ := List.mem_mapIdx.mp hr
    exact List.getElem_mem hi
  · intro hd
    obtain ⟨i, hi, rfl⟩ := List.getElem_of_mem hd
    exact ⟨_, List.mem_mapIdx.mpr ⟨i, hi, rfl⟩, rfl⟩

theorem handshakePacket_not_mem_syncs (c : UInt8) : handshakePacket ∉ syncs c := by
  unfold syncs
  split
  · intro h
    exact absurd (List.cons.inj (List.mem_singleton.mp h)).1 (by decide)
  · exact List.not_mem_nil

theorem not_authOk_of_mem_syncs {c : UInt8} {d : List UInt8} (h : d ∈ syncs c) : ¬AuthOk d := by
  unfold syncs at h
  split at h
  · rw [List.mem_singleton.mp h]
    rintro ⟨o, raw, iff, heq⟩
    exact absurd (List.cons.inj heq).1 (by decide)
  · cases h

/-- INTERNAL: **the reaction of the server is fair.** -/
theorem fair_of_reacts {v v' : Option (Bool × UInt8)} {req : Request} {out : List (List UInt8)}
    (h : Reacts v req v' out) (cfg : CliCfg) (tag : Nat) (waiting : Bool) (kept : Nat → Bool) :
    Handled.Fair cfg ⟨tag, req.datagram cfg, waiting, v.map Prod.fst, Net.marked kept out⟩ := by
  have hshake : req.datagram cfg = handshakePacket → req = .handshake :=
    fun heq => datagram_injective cfg heq
  have hauth : req.datagram cfg = authRequest cfg → req = .auth :=
    fun heq => datagram_injective cfg heq
  cases h with
  | unknown => exact ⟨fun heq => (nomatch hshake heq), fun heq => (nomatch hauth heq)⟩
  | leave a c => exact ⟨fun heq => (nomatch hshake heq), fun heq => (nomatch hauth heq)⟩
  | greet c hc =>
    refine ⟨fun _ => ?_, fun heq => (nomatch hauth heq)⟩
    exact ⟨fun _ => rfl, fun _ => (mem_marked kept).mpr List.mem_cons_self⟩
  | known a c =>
    refine ⟨fun _ => ⟨fun hr => ?_, nofun⟩, fun heq => (nomatch hauth heq)⟩
    exact absurd ((mem_marked kept).mp hr) (handshakePacket_not_mem_syncs _)
  | grant c d hd =>
    refine ⟨fun heq => (nomatch hshake heq), fun _ => ⟨nofun, fun _ => rfl, fun _ => ?_⟩⟩
    obtain ⟨r, hr, hrd⟩ := (mem_marked kept).mpr
      (show d ∈ d :: syncs (c + 1) from List.mem_cons_self)
    exact ⟨r, hr, hrd ▸ hd⟩
  | repeated c =>
    refine ⟨fun heq => (nomatch hshake heq), fun _ => ⟨nofun, ?_, nofun⟩⟩
    rintro ⟨r, hr, hok⟩
    exact absurd hok (not_authOk_of_mem_syncs ((mem_marked kept).mp ⟨r, hr, rfl⟩))

/-- INTERNAL: the client sends a request. -/
theorem RetryInv.tracked_post (h : RetryInv o cfg k dataDir n p) (kept : Bool) (d : List UInt8)
    (i : Nat) (d' : List UInt8) (hi : (n.post kept d).requests[i]? = some (d', true)) :
    (i, d') ∈ (n.post kept d).toSrv ∨ ∃ e ∈ n.handled, e.tag = i ∧ e.data = d' := by
  have hkeep : ∀ e ∈ n.toSrv, e ∈ (n.post kept d).toSrv := by
    intro e he
    cases kept with
    | false => exact he
    | true => exact List.mem_append_left _ he
  have hi' : (n.requests ++ [(d, kept)])[i]? = some (d', true) := hi
  rcases Nat.lt_trichotomy i n.requests.length with hlt | heq | hgt
  · rw [List.getElem?_append_left hlt] at hi'
    rcases h.tracked i d' hi' with hto | hdone
    · exact .inl (hkeep _ hto)
    · exact .inr hdone
  · subst heq
    rw [List.getElem?_append_right (Nat.le_refl _), Nat.sub_self] at hi'
    cases hi'
    exact .inl (List.mem_append_right _ List.mem_cons_self)
  · rw [List.getElem?_eq_none (by rw [List.length_append, List.length_singleton]; omega)] at hi'
    cases hi'

theorem RetryInv.received_of_nil (h : RetryInv o cfg k dataDir n p) (hnil : n.toCli = []) :
    ∀ e ∈ n.handled, ∀ r ∈ e.replies, r.2 = true → r.1 ∈ n.received := by
  intro e he r hr hkept
  rcases h.delivered e he r hr hkept with hin | hin
  · rw [hnil] at hin
    cases hin
  · exact hin

theorem RetryInv.delivered_recv (h : RetryInv o cfg k dataDir n p) {d : List UInt8}
    {ds : List (List UInt8)} (hd : n.toCli = d :: ds) :
    ∀ e ∈ n.handled, ∀ r ∈ e.replies, r.2 = true → r.1 ∈ ds ∨ r.1 ∈ n.received ++ [d] := by
  intro e he r hr hkept
  rcases h.delivered e he r hr hkept with hin | hin
  · rw [hd] at hin
    rcases List.mem_cons.mp hin with heq | hin
    · exact .inr (List.mem_append_right _ (List.mem_singleton.mpr heq))
    · exact .inl hin
  · exact .inr (List.mem_append_left _ hin)

/-- INTERNAL: **every move keeps the books.** -/
theorem netMove_retryInv (h : RetryInv o cfg k dataDir n p)
    (hmove : NetMove o cfg k dataDir n p m p' n') : RetryInv o cfg k dataDir n' p' := by
  have hnet := netMove_inv h.net hmove
  cases hmove with
  | client b hcli hok =>
    cases hcli with
    | close kept up =>
      exact ⟨hnet, h.fair, h.tracked_post kept _, h.delivered, fun _ => h.greeting trivial,
        fun _ => h.grant trivial, nofun⟩
    | greet kept up c =>
      exact ⟨hnet, h.fair, h.tracked_post kept _, h.delivered, fun _ => h.greeting trivial,
        fun _ => h.grant trivial, nofun⟩
    | greetReady kept up c hne =>
      exact ⟨hnet, h.fair, h.tracked, h.delivered, fun _ => h.greeting trivial,
        fun _ => h.grant trivial, nofun⟩
    | greetTimeout c hcli hsrv =>
      exact ⟨hnet, h.fair, h.tracked, h.delivered, fun _ => h.greeting trivial,
        fun _ => h.grant trivial, fun _ => ⟨hsrv, h.received_of_nil hcli⟩⟩
    | greetRecv kept up c b' d ds hd =>
      refine ⟨hnet, h.fair, h.tracked, h.delivered_recv hd, fun hp => ?_, fun hp => ?_, fun hp => ?_⟩
      · intro hin
        rcases List.mem_append.mp hin with hin | hin
        · exact h.greeting trivial hin
        · apply ungreeted_greeted hp
          rw [← List.mem_singleton.mp hin]
          exact serverHandshakeChk_handshake o b'
      · intro d' hin hok
        rcases List.mem_append.mp hin with hin | hin
        · exact h.grant trivial d' hin hok
        · rw [List.mem_singleton.mp hin] at hok
          rw [serverHandshakeChk_authOk o b' hok] at hp
          exact ungranted_greeted hp
      · have htime := timedOut_greeted hp
        rcases serverHandshakeChk_range o (Cli.recvInto b' d).1 (Cli.recvInto b' d).2 with hr | hr | hr
        all_goals exact absurd (hr.symm.trans htime) (by decide)
    | login kept up c =>
      exact ⟨hnet, h.fair, h.tracked_post kept _, h.delivered, nofun, fun _ => h.grant trivial, nofun⟩
    | loginReady kept up c hne =>
      exact ⟨hnet, h.fair, h.tracked, h.delivered, nofun, fun _ => h.grant trivial, nofun⟩
    | loginTimeout c hcli hsrv =>
      exact ⟨hnet, h.fair, h.tracked, h.delivered, fun hp => absurd hp (not_ungreeted_answered _ _),
        fun _ => h.grant trivial, fun _ => ⟨hsrv, h.received_of_nil hcli⟩⟩
    | loginRecv kept up c b' d ds hd =>
      refine ⟨hnet, h.fair, h.tracked, h.delivered_recv hd,
        fun hp => absurd hp (not_ungreeted_answered _ _), fun hp => ?_, fun hp => ?_⟩
      · intro d' hin hok
        rcases List.mem_append.mp hin with hin | hin
        · exact h.grant trivial d' hin hok
        · rw [List.mem_singleton.mp hin] at hok
          exact ungranted_answered hp (serverAuthResChk_ok o b' hok)
      · have htime := timedOut_answered hp
        rcases serverAuthResChk_range o (Cli.recvInto b' d).1 (Cli.recvInto b' d).2 with hr | hr | hr
        all_goals exact absurd (hr.symm.trans htime) (by decide)
    | iface kept up iff =>
      refine ⟨hnet, h.fair, h.tracked, h.delivered, ?_, ?_, ?_⟩
      all_goals cases up <;> exact fun hp => absurd hp (by simp [CliPhase.Ungreeted,
        CliPhase.Ungranted, CliPhase.TimedOut, ENETDOWN, ETIMEDOUT])
  | server env kept tag req ds srv out hto hready hreacts =>
    have hhandled : ∀ e ∈ n.handled, e ∈ n.handled ++ [⟨tag, req.datagram cfg,
        n.waitsFor (req.datagram cfg), (view n.srv.st k).map Prod.fst, Net.marked kept out⟩] :=
      fun e he => List.mem_append_left _ he
    refine ⟨hnet, ?_, ?_, ?_, h.greeting, h.grant, fun hp => ?_⟩
    · intro e he
      rcases List.mem_append.mp he with he | he
      · exact h.fair e he
      · rw [List.mem_singleton.mp he]
        exact fair_of_reacts hreacts cfg _ _ _
    · intro i d hi
      rcases h.tracked i d hi with hin | ⟨e, he, htag, hdata⟩
      · rw [hto] at hin
        rcases List.mem_cons.mp hin with heq | hin
        · cases heq
          exact .inr ⟨_, List.mem_append_right _ List.mem_cons_self, rfl, rfl⟩
        · exact .inl hin
      · exact .inr ⟨e, hhandled e he, htag, hdata⟩
    · intro e he r hr hkept
      rcases List.mem_append.mp he with he | he
      · rcases h.delivered e he r hr hkept with hin | hin
        · exact .inl (List.mem_append_left _ hin)
        · exact .inr hin
      · rw [List.mem_singleton.mp he] at hr
        exact .inl (List.mem_append_right _ (mem_through_of_kept hr hkept))
    · have hnil := (h.drained hp).1
      rw [hto] at hnil
      cases hnil
  | beside env inp kept hready hview hkind =>
    refine ⟨hnet, h.fair, h.tracked, ?_, h.greeting, h.grant, h.drained⟩
    intro e he r hr hkept
    rcases h.delivered e he r hr hkept with hin | hin
    · exact .inl (List.mem_append_left _ hin)
    · exact .inr hin

end Moves

/-! ## What a timeout tells -/

/-- A request that found the server one step ahead: its session was there when the HANDSHAKE
arrived, or authenticated when the AUTH arrived; or its reply got lost. -/
def Handled.Unheard (cfg : CliCfg) (e : Handled) : Prop :=
  (e.data = handshakePacket ∧
    (e.before ≠ none ∨ ∃ r ∈ e.replies, r.1 = handshakePacket ∧ r.2 = false)) ∨
  (e.data = authRequest cfg ∧
    (e.before = some true ∨ ∃ r ∈ e.replies, AuthOk r.1 ∧ r.2 = false))

/-- Every request `d` of the client was lost, or handled and unheard. -/
def Net.AllUnheard (cfg : CliCfg) (n : Net) (d : List UInt8) : Prop :=
  ∀ (i : Nat) kept, n.requests[i]? = some (d, kept) →
    kept = false ∨ ∃ e ∈ n.handled, e.tag = i ∧ e.data = d ∧ e.Unheard cfg

/-- The law of the retries: a HANDSHAKE is answered exactly if there was no session, an AUTH,
which always finds one, exactly if it was not authenticated; and a stage times out only if
every one of its requests was lost or went unheard. -/
structure Retried (cfg : CliCfg) (n : Net) : Prop where
  fair : ∀ e ∈ n.handled, e.Fair cfg
  handshake : ∀ out, n.outcome = some out → out.handshake = -ETIMEDOUT →
    n.AllUnheard cfg handshakePacket
  auth : ∀ out, n.outcome = some out → out.auth = some (-ETIMEDOUT) →
    n.AllUnheard cfg (authRequest cfg)

section Timeouts

variable {o : ByteOrder} {cfg : CliCfg} {k : Endpoint} {dataDir : List UInt8} {n : Net} {p : CliPhase}

/-- INTERNAL: what the client has returned is its place. -/
theorem NetInv.place (h : NetInv o cfg k dataDir n p) {out : Cli.Outcome}
    (hout : n.outcome = some out) : p = .done out := by
  obtain ⟨b, hprog⟩ := h.phase
  apply CliPhase.eq_done h.ok (b := b)
  rw [← hprog]
  unfold Net.outcome at hout
  split at hout
  · next heq =>
    cases hout
    exact heq
  · cases hout

/-- INTERNAL: after a timeout every request that was kept has been handled. -/
theorem RetryInv.handled_of_kept (h : RetryInv o cfg k dataDir n p) (htime : p.TimedOut) {i : Nat}
    {d : List UInt8} (hi : n.requests[i]? = some (d, true)) :
    ∃ e ∈ n.handled, e.tag = i ∧ e.data = d := by
  rcases h.tracked i d hi with hin | hdone
  · rw [(h.drained htime).1] at hin
    cases hin
  · exact hdone

theorem RetryInv.greetings_unheard
    (h : RetryInv o cfg k dataDir n (.done ⟨-ETIMEDOUT, none⟩)) : n.AllUnheard cfg handshakePacket := by
  intro i kept hi
  cases kept with
  | false => exact .inl rfl
  | true =>
    obtain ⟨e, he, htag, hdata⟩ := h.handled_of_kept (.inl rfl) hi
    refine .inr ⟨e, he, htag, hdata, .inl ⟨hdata, ?_⟩⟩
    by_cases hbefore : e.before = none
    · obtain ⟨r, hr, hrd⟩ := ((h.fair e he).handshake hdata).mpr hbefore
      refine .inr ⟨r, hr, hrd, ?_⟩
      -- a greeting that got through would have been received
      by_contra hkept
      have hin := (h.drained (.inl rfl)).2 e he r hr ((Bool.not_eq_false _).mp hkept)
      rw [hrd] at hin
      exact h.greeting rfl hin
    · exact .inl hbefore

theorem RetryInv.logins_unheard
    (h : RetryInv o cfg k dataDir n (.done ⟨0, some (-ETIMEDOUT)⟩)) :
    n.AllUnheard cfg (authRequest cfg) := by
  intro i kept hi
  cases kept with
  | false => exact .inl rfl
  | true =>
    obtain ⟨e, he, htag, hdata⟩ := h.handled_of_kept (.inr rfl) hi
    refine .inr ⟨e, he, htag, hdata, .inr ⟨hdata, ?_⟩⟩
    obtain ⟨hsome, hgrant⟩ := (h.fair e he).auth hdata
    cases hbefore : e.before with
    | none => exact absurd hbefore hsome
    | some a =>
      cases a with
      | true => exact .inl rfl
      | false =>
        obtain ⟨r, hr, hok⟩ := hgrant.mpr hbefore
        refine .inr ⟨r, hr, hok, ?_⟩
        by_contra hkept
        have hin := (h.drained (.inr rfl)).2 e he r hr ((Bool.not_eq_false _).mp hkept)
        exact h.grant rfl _ hin hok

theorem RetryInv.retried (h : RetryInv o cfg k dataDir n p) : Retried cfg n := by
  refine ⟨h.fair, ?_, ?_⟩
  · intro out hout htime
    have hp := h.net.place hout
    subst hp
    obtain ⟨hs, auth⟩ := out
    cases htime
    -- a failed handshake is not followed by a login
    rcases h.net.ok with hzero | hnone
    · cases hzero
    · cases hnone
      exact h.greetings_unheard
  · intro out hout htime
    have hp := h.net.place hout
    subst hp
    obtain ⟨hs, auth⟩ := out
    cases htime
    rcases h.net.ok with hzero | hnone
    · cases hzero
      exact h.logins_unheard
    · cases hnone

end Timeouts

/-- INTERNAL: **what a client that times out has met.** From every reachable state of the
server with a slot for the client, over a channel that may lose anything, whatever the
interleaving and whatever the server does beside it short of closing the session, the law of
the retries holds.
SOURCE: client/linux/udp.c:434-624; udp_epoll.c:535-630, 715-783 -/
theorem retries_law {maxConn : UInt16} {dataDir : List UInt8} {o : ByteOrder}
    {pkt zrPkt : ScPkt} {s : Server}
    (h : Server.Reach (fun _ env _ => env.NoEbadmsg) (Server.boot maxConn dataDir o pkt zrPkt) s)
    (k : Endpoint) (hslot : lookupUdpSess s.st k.addr k.port = none → freeSlots s.st ≠ [])
    (o' : ByteOrder) (cfg : CliCfg) (b : Buf) {moves : List Move} {n : Net}
    (hmoves : Schedule.Along (Net.step k) (fun _ m => m.Healthy s.st.dataDir cfg) moves
      (Net.start o' cfg b s))
    (hplay : Schedule.play (Net.step k) moves (Net.start o' cfg b s) = some n) : Retried cfg n := by
  have hready := ready_of_reach h k hslot
  have hstart : RetryInv o' cfg k s.st.dataDir (Net.start o' cfg b s) .close :=
    ⟨start_netInv o' cfg b hready, nofun, nofun, nofun, fun _ => List.not_mem_nil, nofun, nofun⟩
  obtain ⟨p, hend⟩ := Schedule.play_inv (fun n => ∃ p, RetryInv o' cfg k s.st.dataDir n p)
    (fun n m n' ⟨p, hinv⟩ hm hstep => by
      obtain ⟨p', hmove⟩ := step_netMove hinv.net hm hstep
      exact ⟨p', netMove_retryInv hinv hmove⟩) ⟨_, hstart⟩ hmoves hplay
  exact hend.retried

/-- One try of the client whose request the server handles, and which then times out. -/
def triedMoves (kept : Bool) : List Move :=
  [.client true true, .server userEnv fun _ => kept, .timeout]

/-- The reply to the first HANDSHAKE is the only datagram that gets lost. -/
def lostReplyMoves : List Move :=
  [.client true true, .server userEnv fun _ => true] ++ triedMoves false ++ triedMoves true ++
    triedMoves true ++ triedMoves true ++ triedMoves true

theorem healthy_lostReplyMoves {dataDir : List UInt8} (h : Env.Accepts userEnv dataDir userCfg) :
    ∀ m ∈ lostReplyMoves, m.Healthy dataDir userCfg := by
  have htry : ∀ kept, ∀ m ∈ triedMoves kept, m.Healthy dataDir userCfg := by
    intro kept m hm
    simp only [triedMoves, List.mem_cons, List.not_mem_nil, or_false] at hm
    rcases hm with rfl | rfl | rfl
    · trivial
    · exact h
    · trivial
  intro m hm
  simp only [lostReplyMoves, List.mem_append, List.mem_cons, List.not_mem_nil, or_false] at hm
  rcases hm with ((((((rfl | rfl) | hm) | hm) | hm) | hm) | hm)
  · trivial
  · exact h
  all_goals exact htry _ m hm

/-- The network before the client connects to a fresh server with one slot. -/
def firstContact : Net :=
  Net.start .little userCfg (fun _ => 0) (Server.boot 1 [] .little Server.zeroPkt Server.zeroPkt)

theorem along_lostReplyMoves :
    Schedule.Along (Net.step ⟨0x0a000001, 1000⟩) (fun _ m => m.Healthy [] userCfg) lostReplyMoves
      firstContact := by
  have hacc : Env.Accepts userEnv [] userCfg :=
    ⟨⟨by simp [userEnv], by simp [userEnv]⟩, by decide⟩
  exact Schedule.along_of_forall (fun m hm _ => healthy_lostReplyMoves hacc m hm) _

/-- The client gives up its handshake although one datagram only got lost. -/
theorem retries_law_lostReply :
    ∃ n, Schedule.play (Net.step ⟨0x0a000001, 1000⟩) lostReplyMoves firstContact = some n ∧
      n.outcome = some ⟨-ETIMEDOUT, none⟩ ∧ Retried userCfg n := by
  have hrun : (Schedule.play (Net.step ⟨0x0a000001, 1000⟩) lostReplyMoves firstContact).any
      (fun n => decide (n.outcome = some ⟨-ETIMEDOUT, none⟩)) = true := by
    decide +kernel
  obtain ⟨n, hplay, hout⟩ := (Option.any_eq_true _ _).mp hrun
  have hslot : freeSlots (Server.boot 1 [] .little Server.zeroPkt Server.zeroPkt).st ≠ [] := by
    decide
  refine ⟨n, hplay, of_decide_eq_true hout, ?_⟩
  exact retries_law .init ⟨0x0a000001, 1000⟩ (fun _ => hslot) .little userCfg _ along_lostReplyMoves
    hplay

/-- Every HANDSHAKE and every AUTH that reaches the server while the client waits in that stage
is answered. -/
def Net.AlwaysAnswered (cfg : CliCfg) (n : Net) : Prop :=
  ∀ e ∈ n.handled, e.waiting = true →
    (e.data = handshakePacket → ∃ r ∈ e.replies, r.1 = handshakePacket) ∧
    (e.data = authRequest cfg → ∃ r ∈ e.replies, AuthOk r.1)

/-- Every request `d` was lost, or a reply to it was. -/
def Net.AllLost (n : Net) (d : List UInt8) : Prop :=
  ∀ (i : Nat) kept, n.requests[i]? = some (d, kept) →
    kept = false ∨ ∃ e ∈ n.handled, e.tag = i ∧ ∃ r ∈ e.replies, r.2 = false

/-- The second HANDSHAKE of this run reaches the server while the client waits for its reply;
there is none, and the handshake fails with a timeout. -/
theorem lostReply_unanswered :
    ∃ n, Schedule.Along (Net.step ⟨0x0a000001, 1000⟩) (fun _ m => m.Healthy [] userCfg)
        lostReplyMoves firstContact ∧
      Schedule.play (Net.step ⟨0x0a000001, 1000⟩) lostReplyMoves firstContact = some n ∧
      freeSlots firstContact.srv.st ≠ [] ∧
      ¬n.AlwaysAnswered userCfg ∧
      n.outcome = some ⟨-ETIMEDOUT, none⟩ ∧ ¬n.AllLost handshakePacket := by
  -- the third datagram is the second HANDSHAKE: kept, awaited, and without reply
  have hrun : (Schedule.play (Net.step ⟨0x0a000001, 1000⟩) lostReplyMoves firstContact).any
      (fun n => decide (n.handled[2]? = some ⟨2, handshakePacket, true, some false, []⟩ ∧
        (∀ e ∈ n.handled, e.tag = 2 → e.replies = []) ∧
        n.requests[2]? = some (handshakePacket, true) ∧
        n.outcome = some ⟨-ETIMEDOUT, none⟩)) = true := by
    decide +kernel
  obtain ⟨n, hplay, hfacts⟩ := (Option.any_eq_true _ _).mp hrun
  obtain ⟨hthird, hsilent, hsent, hout⟩ := of_decide_eq_true hfacts
  refine ⟨n, along_lostReplyMoves, hplay, by decide, ?_, hout, ?_⟩
  · intro hanswered
    obtain ⟨r, hr, _⟩ := (hanswered _ (List.mem_of_getElem? hthird) rfl).1 rfl
    cases hr
  · intro hlost
    rcases hlost 2 true hsent with hkept | ⟨e, he, htag, r, hr, _⟩
    · cases hkept
    · rw [hsilent e he htag] at hr
      cases hr

end TeaVpn2.Analysis
