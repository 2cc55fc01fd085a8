import TeaVpn2.Analysis.HandlerOps
import TeaVpn2.Analysis.SlotConservation

/-!
# What a step does to the activity of a session

`last_act` of a session and the counter `loop_c` decide when the reaper closes it. Here is
what a step of the server can do to them, seen from one slot that is in use after the step
(`step_outcome`): `last_act` was set during the step, or the slot is as it was, or a datagram
of its session was handled and counted, and the count is no multiple of 32.

The clock does not fail and does not go back. `Ticking t` says so of the readings to come,
the next one being no earlier than `t`.
-/

set_option autoImplicit false

namespace TeaVpn2.Analysis

open TeaVpn2 TeaVpn2.Lib

/-! ## The clock -/

/-- The readings succeed and do not decrease, from `t` to the last one, `clock`. -/
def Ticking (t : Int) : List (Option Int) → Int → Prop
  | [], clock => t ≤ clock
  | none :: _, _ => False
  | some r :: rs, clock => t ≤ r ∧ Ticking r rs clock

/-- The next reading of the clock. -/
def nextReading : List (Option Int) → Int → Int
  | [], clock => clock
  | r :: _, _ => r.getD 0

/-- The time of a step: the first reading of the clock in it. -/
def timeOf (env : Env) : Int := nextReading env.gettimeofday env.clock

theorem Ticking.mono {s t : Int} {rs : List (Option Int)} {clock : Int} (h : Ticking t rs clock)
    (hst : s ≤ t) : Ticking s rs clock := by
  rcases rs with _ | ⟨_ | r, rs⟩
  · exact Int.le_trans hst h
  · exact h.elim
  · exact ⟨Int.le_trans hst h.1, h.2⟩

theorem Ticking.le_next {t : Int} {rs : List (Option Int)} {clock : Int} (h : Ticking t rs clock) :
    t ≤ nextReading rs clock := by
  rcases rs with _ | ⟨_ | r, rs⟩
  · exact h
  · exact h.elim
  · exact h.1

/-- The readings after the next one are no earlier than it. -/
theorem Ticking.tail {t : Int} {rs : List (Option Int)} {clock : Int} (h : Ticking t rs clock) :
    Ticking (nextReading rs clock) rs.tail clock := by
  rcases rs with _ | ⟨_ | r, rs⟩
  · exact Int.le_refl clock
  · exact h.elim
  · exact h.2

theorem Ticking.from_next {t : Int} {rs : List (Option Int)} {clock : Int}
    (h : Ticking t rs clock) : Ticking (nextReading rs clock) rs clock := by
  rcases rs with _ | ⟨_ | r, rs⟩
  · exact Int.le_refl clock
  · exact h.elim
  · exact ⟨Int.le_refl r, h.2⟩

theorem Ticking.le_clock {t : Int} {rs : List (Option Int)} {clock : Int}
    (h : Ticking t rs clock) : t ≤ clock := by
  induction rs generalizing t with
  | nil => exact h
  | cons r rs ih =>
    cases r with
    | none => exact h.elim
    | some r => exact Int.le_trans h.1 (ih h.2)

theorem getUnixTime_of_ticking {w : World} {t : Int}
    (h : Ticking t w.env.gettimeofday w.env.clock) :
    w.getUnixTime = (some (timeOf w.env),
      { w with env := { w.env with gettimeofday := w.env.gettimeofday.tail } }) := by
  unfold World.getUnixTime timeOf
  rcases hg : w.env.gettimeofday with _ | ⟨_ | r, rs⟩
  · simp only [nextReading, List.tail_nil]
    rw [← hg]
  · rw [hg] at h
    exact h.elim
  · rfl

/-! ## One slot -/

/-- What the reaper and the counter look at. -/
def pulse (s : UdpSess) : Bool × Int × UInt8 := (s.isConnected, s.lastAct, s.loopC)

theorem pulse_eq_iff {s : UdpSess} {c : Bool} {t : Int} {n : UInt8} :
    pulse s = (c, t, n) ↔ s.isConnected = c ∧ s.lastAct = t ∧ s.loopC = n := by
  simp [pulse]

/-- The slot `i`, if it is in use, has been active since the time `now`, or it is as `p` says. -/
structure ActiveSince (now : Int) (i : Nat) (p : Bool × Int × UInt8) (w : World) : Prop where
  ticking : Ticking now w.env.gettimeofday w.env.clock
  active : (w.sess i).isConnected = true → now ≤ (w.sess i).lastAct ∨ pulse (w.sess i) = p

variable {now : Int} {i : Nat} {p : Bool × Int × UInt8} {w w' : World}

theorem ActiveSince.congr (h : ActiveSince now i p w)
    (hgtod : w'.env.gettimeofday = w.env.gettimeofday) (hclock : w'.env.clock = w.env.clock)
    (hpulse : pulse (w'.sess i) = pulse (w.sess i)) :
    ActiveSince now i p w' := by
  have hconn : (w'.sess i).isConnected = (w.sess i).isConnected := congrArg Prod.fst hpulse
  have hlast : (w'.sess i).lastAct = (w.sess i).lastAct := congrArg (fun x => x.2.1) hpulse
  refine ⟨by rw [hgtod, hclock]; exact h.ticking, ?_⟩
  rw [hconn, hlast, hpulse]
  exact h.active

theorem pulse_setSess (w : World) (j i : Nat) {f : UdpSess → UdpSess}
    (hf : ∀ s, pulse (f s) = pulse s) : pulse ((w.setSess j f).sess i) = pulse (w.sess i) := by
  unfold World.sess
  rw [World.sessArr_setSess]
  split
  · next hij => rw [hij, hf]
  · rfl

theorem ActiveSince.setSess (h : ActiveSince now i p w) (j : Nat) (f : UdpSess → UdpSess)
    (hf : ∀ s, pulse (f s) = pulse s) : ActiveSince now i p (w.setSess j f) :=
  h.congr rfl rfl (pulse_setSess w j i hf)

theorem sess_setSess_of_ne (w : World) {i j : Nat} (h : i ≠ j) (f : UdpSess → UdpSess) :
    (w.setSess j f).sess i = w.sess i := by
  unfold World.sess
  rw [World.sessArr_setSess, if_neg h]

theorem sess_setSess_self (w : World) (i : Nat) (f : UdpSess → UdpSess) :
    (w.setSess i f).sess i = f (w.sess i) := by
  unfold World.sess
  rw [World.sessArr_setSess, if_pos rfl]

theorem ActiveSince.setSess_of_ne (h : ActiveSince now i p w) {j : Nat} (hij : i ≠ j)
    (f : UdpSess → UdpSess) : ActiveSince now i p (w.setSess j f) :=
  h.congr rfl rfl (by rw [sess_setSess_of_ne w hij])

/-- INTERNAL: `udp_sess_update_last_act` reads the clock once.
SOURCE: udp.h:385-388 -/
theorem updateLastAct_of_ticking (h : Ticking now w.env.gettimeofday w.env.clock) (j : Nat) :
    w.udpSessUpdateLastAct j =
      { w with env := { w.env with gettimeofday := w.env.gettimeofday.tail } }.setSess j
        fun s => { s with lastAct := timeOf w.env } := by
  unfold World.udpSessUpdateLastAct
  rw [getUnixTime_of_ticking h]

theorem ActiveSince.tail (h : ActiveSince now i p w) :
    ActiveSince now i p { w with env := { w.env with gettimeofday := w.env.gettimeofday.tail } } :=
  ⟨h.ticking.tail.mono h.ticking.le_next, h.active⟩

theorem le_lastAct_update (h : Ticking now w.env.gettimeofday w.env.clock) (i : Nat) :
    now ≤ ((w.udpSessUpdateLastAct i).sess i).lastAct := by
  rw [updateLastAct_of_ticking h, sess_setSess_self]
  exact h.le_next

theorem ActiveSince.updateLastAct (h : ActiveSince now i p w) (j : Nat) :
    ActiveSince now i p (w.udpSessUpdateLastAct j) := by
  by_cases hij : i = j
  · subst hij
    have hactive := le_lastAct_update h.ticking i
    rw [updateLastAct_of_ticking h.ticking] at hactive ⊢
    exact ⟨h.tail.ticking, fun _ => .inl hactive⟩
  · rw [updateLastAct_of_ticking h.ticking]
    exact h.tail.setSess_of_ne hij _

/-- INTERNAL: a slot that comes into use is active; another slot is as it was. -/
theorem ActiveSince.connect (h : ActiveSince now i p w) (j : Nat) :
    ActiveSince now i p
      ((w.udpSessUpdateLastAct j).setSess j fun s => { s with isConnected := true }) := by
  have hupdate := h.updateLastAct j
  by_cases hij : i = j
  · subst hij
    refine ⟨hupdate.ticking, fun _ => .inl ?_⟩
    rw [sess_setSess_self]
    exact le_lastAct_update h.ticking i
  · exact hupdate.setSess_of_ne hij _

/-- INTERNAL: a session that is created is active.
SOURCE: udp_session.c:59-100 -/
theorem ActiveSince.createUdpSess (h : ActiveSince now i p w) (addr : UInt32) (port : UInt16) :
    ActiveSince now i p (TeaVpn2.createUdpSess w addr port).2 := by
  rcases createUdpSess_cases w addr port with heq | ⟨j, stk, m, mal, w₁, hw₁, hcases⟩
  · rw [heq]
    exact h
  · have hkeyed : ActiveSince now i p
        ({ w with st := { w.st with sessStk := stk } }.setSess j fun s =>
          { s with srcAddr := addr, srcPort := port }) := by
      apply ActiveSince.setSess
      · exact h.congr rfl rfl rfl
      · intro s
        simp only [pulse]
    have htaken : ActiveSince now i p w₁ := by
      rw [hw₁]
      exact hkeyed.congr rfl rfl rfl
    rcases hcases with ⟨stk', l, _, heq⟩ | ⟨w₂, rfl, heq⟩
    · rw [heq]
      exact htaken.congr rfl rfl rfl
    · have hnamed : ActiveSince now i p
          (w₁.setSess j fun s => { s with strSrcAddr := inetNtop addr }) := by
        apply htaken.setSess
        intro s
        simp only [pulse]
      rw [heq]
      exact (hnamed.connect j).congr rfl rfl rfl

/-- INTERNAL: `delete_udp_session` resets its slot and touches no other one.
SOURCE: udp_session.c:184-197 -/
theorem sess_deleteUdpSession (w : World) (j i : Nat) :
    (deleteUdpSession w j).2.sess i =
      if i = j then resetUdpSession (w.sess j).idx else w.sess i := by
  obtain ⟨stk, l, _, hpush⟩ := pushOrBug_eq w (w.sess j).idx
  simp only [deleteUdpSession, hpush]
  exact Function.update_apply _ _ _ _

theorem ActiveSince.deleteUdpSession (h : ActiveSince now i p w) (j : Nat) :
    ActiveSince now i p (TeaVpn2.deleteUdpSession w j).2 := by
  obtain ⟨stk, l, _, hpush⟩ := pushOrBug_eq w (w.sess j).idx
  refine ⟨by simp only [TeaVpn2.deleteUdpSession, hpush]; exact h.ticking, ?_⟩
  rw [sess_deleteUdpSession]
  split
  · exact fun hconn => Bool.noConfusion hconn
  · exact h.active

/-- INTERNAL: **one operation.** Only the counter of the slot itself is not kept, if the slot
may be as it was.
SOURCE: udp.h:385-388 -/
theorem ActiveSince.exec (h : ActiveSince now i p w) (o : Op)
    (ho : o = .incLoopC i → p.1 = false) : ActiveSince now i p (TeaVpn2.exec o w).2 := by
  cases o with
  | createUdpSess addr port => exact h.createUdpSess addr port
  | deleteUdpSession j => exact h.deleteUdpSession j
  | storeAddr j saddr => exact h.setSess j (fun s => { s with addr := saddr }) fun _ => rfl
  | storeIpv4Iff j addr => exact h.setSess j (fun s => { s with ipv4Iff := addr }) fun _ => rfl
  | storeIsAuthenticated j =>
    exact h.setSess j (fun s => { s with isAuthenticated := true }) fun _ => rfl
  | storeUsername j username =>
    refine h.setSess j (fun s => { s with username := strncpy2 username 256 }) fun s => ?_
    simp only [pulse]
  | updateLastAct j => exact h.updateLastAct j
  | incLoopC j =>
    by_cases hij : i = j
    · subst hij
      refine ⟨h.ticking, ?_⟩
      show (World.sess (World.setSess _ i _) i).isConnected = true → _ ≤
        (World.sess (World.setSess _ i _) i).lastAct ∨ _
      rw [sess_setSess_self]
      intro hconn
      refine .inl ((h.active hconn).resolve_right fun hp => ?_)
      have hdead : (w.sess i).isConnected = false := (congrArg Prod.fst hp).trans (ho rfl)
      rw [show (w.sess i).isConnected = true from hconn] at hdead
      cases hdead
    · exact h.setSess_of_ne hij fun s => { s with loopC := s.loopC + 1 }
  | getUnixTime =>
    simp only [TeaVpn2.exec, getUnixTime_of_ticking h.ticking]
    exact h.tail
  | send j data =>
    obtain ⟨_, _, _, _, _, _, _, heq⟩ := sendToClient_spec w j data
    simp only [TeaVpn2.exec, heq]
    exact h.congr rfl rfl rfl
  | writeTun j data =>
    obtain ⟨_, _, _, _, _, _, _, heq⟩ := writeTun_spec w j data
    simp only [TeaVpn2.exec, heq]
    exact h.congr rfl rfl rfl
  | _ => exact h.congr rfl rfl rfl

/-! ## Handlers -/

/-- The slot is not as it was in any case. -/
def dead : Bool × Int × UInt8 := (false, 0, 0)

theorem ActiveSince.run {α : Type} {P : Op → Prop} {q : Srv α} (h : ActiveSince now i p w)
    (hu : Prog.Uses P q) (hP : ∀ o, P o → o ≠ .incLoopC i) :
    ActiveSince now i p (q.run TeaVpn2.exec w).2 :=
  hu.run_keeps (ActiveSince now i p) (fun o _ ho hw => hw.exec o fun heq => absurd heq (hP o ho)) h

theorem ActiveSince.run_dead {α : Type} (h : ActiveSince now i dead w) (q : Srv α) :
    ActiveSince now i dead (q.run TeaVpn2.exec w).2 :=
  Prog.run_keeps (ActiveSince now i dead) (fun o _ hw => hw.exec o fun _ => rfl) q h

theorem ActiveSince.refl (h : Ticking now w.env.gettimeofday w.env.clock) (i : Nat) :
    ActiveSince now i (pulse (w.sess i)) w :=
  ⟨h, fun _ => .inr rfl⟩

theorem ActiveSince.le_of_dead (h : ActiveSince now i dead w)
    (hconn : (w.sess i).isConnected = true) : now ≤ (w.sess i).lastAct := by
  refine (h.active hconn).resolve_right fun hp => ?_
  rw [show (w.sess i).isConnected = false from congrArg Prod.fst hp] at hconn
  cases hconn

theorem activeSince_dead_update (h : Ticking now w.env.gettimeofday w.env.clock) (i : Nat) :
    ActiveSince now i dead (w.udpSessUpdateLastAct i) :=
  ⟨((ActiveSince.refl h i).updateLastAct i).ticking, fun _ => .inl (le_lastAct_update h i)⟩

theorem ne_incLoopC_of_datagramOp {o : Op} (h : DatagramOp o) (i : Nat) : o ≠ .incLoopC i := by
  rintro rfl
  exact h

/-- INTERNAL: closing a session resets its slot and touches no other one.
SOURCE: udp_epoll.c:323-336, 1049-1064 -/
theorem sess_closeSess (pkt : ScPkt) (j : Nat) (w : World) (i : Nat) :
    ((Srv.closeSess pkt j).run exec w).2.sess i =
      if i = j then resetUdpSession (w.sess j).idx else w.sess i := by
  have hsend : ∀ (w : World) (data : List UInt8), (w.sendToClient j data).2.sess = w.sess := by
    intro w data
    obtain ⟨_, _, _, _, _, _, _, heq⟩ := sendToClient_spec w j data
    rw [heq]
    rfl
  have hrest : ∀ (w' : World), w'.sess = w.sess → ((do
      let _ ← Srv.sendToClient j (sent (srvPprep pkt.raw TSRV_PKT_CLOSE 0 0))
      let ret ← Srv.deleteUdpSession j
      pure (ret, { pkt with raw := (srvPprep pkt.raw TSRV_PKT_CLOSE 0 0).1 }) :
        Srv (Int × ScPkt)).run exec w').2.sess i =
      if i = j then resetUdpSession (w.sess j).idx else w.sess i := by
    intro w' hw'
    simp only [Prog.run_bind, Prog.run_pure]
    show (deleteUdpSession (w'.sendToClient j _).2 j).2.sess i = _
    rw [sess_deleteUdpSession, hsend, hw']
  unfold Srv.closeSess
  rw [Prog.run_bind]
  dsimp only
  split
  · rw [Prog.run_bind]
    exact hrest _ rfl
  · exact hrest _ rfl

/-- INTERNAL: the handlers of SYNC and REQSYNC make the session active.
SOURCE: udp_epoll.c:726-733 -/
theorem activeSince_sync (h : Ticking now w.env.gettimeofday w.env.clock) (o : ByteOrder)
    (pkt : ScPkt) (i : Nat)
    (htype : pktType pkt.raw = TCLI_PKT_SYNC ∨ pktType pkt.raw = TCLI_PKT_REQSYNC) :
    ActiveSince now i dead ((Srv.__handleEventFromUdp o pkt i).run exec w).2 := by
  unfold Srv.__handleEventFromUdp
  rcases htype with htype | htype
  · simp only [htype]
    exact activeSince_dead_update h i
  · simp only [htype]
    rw [if_neg (by decide), if_neg (by decide), if_neg (by decide), if_pos trivial, Prog.run_bind]
    have hsend : Ticking now ((Srv.handleClpktReqsync pkt i).run exec w).2.env.gettimeofday
        ((Srv.handleClpktReqsync pkt i).run exec w).2.env.clock :=
      ((ActiveSince.refl h i).run (P := fun o => ∀ j, o ≠ .incLoopC j)
        ((Prog.Uses.call fun _ => Op.noConfusion).bind fun _ => Prog.Uses.pure _)
        fun o ho => ho i).ticking
    exact activeSince_dead_update hsend i

/-- INTERNAL: the counter, for a slot that is active or as `p` says: every 32nd datagram makes
the session active.
SOURCE: udp_epoll.c:775-780 -/
theorem bumpLoopC_outcome (h : ActiveSince now i p w) (ret : Int) (pkt : ScPkt)
    (hconn : (((Srv.bumpLoopC ret pkt i).run exec w).2.sess i).isConnected = true) :
    now ≤ (((Srv.bumpLoopC ret pkt i).run exec w).2.sess i).lastAct ∨
      pulse (((Srv.bumpLoopC ret pkt i).run exec w).2.sess i) = (p.1, p.2.1, p.2.2 + 1) ∧
        (p.2.2 + 1) % 32 ≠ 0 := by
  have hinc : (Srv.incLoopC i).run exec w = ((w.sess i).loopC + 1,
      w.setSess i fun s => { s with loopC := s.loopC + 1 }) := rfl
  unfold Srv.bumpLoopC at hconn ⊢
  rw [Prog.run_bind, hinc] at hconn ⊢
  dsimp only at hconn ⊢
  by_cases hcount : ((w.sess i).loopC + 1) % 32 = 0
  · rw [if_pos hcount, Prog.run_bind] at hconn ⊢
    have hupdate := activeSince_dead_update
      (w := w.setSess i fun s => { s with loopC := s.loopC + 1 }) h.ticking i
    exact .inl ((hupdate.run_dead _).le_of_dead hconn)
  · rw [if_neg hcount, Prog.run_pure] at hconn ⊢
    rw [sess_setSess_self] at hconn ⊢
    rcases h.active hconn with hactive | hp
    · exact .inl hactive
    · subst hp
      exact .inr ⟨rfl, hcount⟩

/-- INTERNAL: the end of a datagram handler. A slot that is still in use is active, or the
handler has failed and left it as it was, or the datagram was counted.
SOURCE: udp_epoll.c:757-783 -/
theorem finishEvent_outcome (h : ActiveSince now i p w) (ret : Int) (pkt : ScPkt)
    (hconn : (((Srv.finishEvent ret pkt i).run exec w).2.sess i).isConnected = true) :
    now ≤ (((Srv.finishEvent ret pkt i).run exec w).2.sess i).lastAct ∨
      (pulse (((Srv.finishEvent ret pkt i).run exec w).2.sess i) = p ∧
        ((Srv.finishEvent ret pkt i).run exec w).1.1 < 0) ∨
      pulse (((Srv.finishEvent ret pkt i).run exec w).2.sess i) = (p.1, p.2.1, p.2.2 + 1) ∧
        (p.2.2 + 1) % 32 ≠ 0 := by
  unfold Srv.finishEvent at hconn ⊢
  split at hconn
  · next hneg =>
    rw [if_pos hneg]
    split at hconn
    · -- a bad packet: the session is closed
      rw [Prog.run_bind, Prog.run_pure] at hconn
      change (((Srv.closeSess pkt i).run exec w).2.sess i).isConnected = true at hconn
      rw [sess_closeSess, if_pos rfl] at hconn
      cases hconn
    · next hbad =>
      rw [if_neg hbad, Prog.run_pure] at *
      rcases h.active hconn with hactive | hp
      · exact .inl hactive
      · exact .inr (.inl ⟨hp, hneg⟩)
  · next hneg =>
    rw [if_neg hneg]
    rcases bumpLoopC_outcome h ret pkt hconn with hactive | hcounted
    · exact .inl hactive
    · exact .inr (.inr hcounted)

/-! ## Steps -/

/-- A step of the server: the server before it, what the system answers, the input. -/
structure Turn where
  server : Server
  env : Env
  input : Input

namespace Turn

/-- The server after the step. -/
def next (x : Turn) : Server := x.server.step x.env x.input

/-- The packet in the buffer, if the step receives a datagram of the session in slot `i`. -/
def packet (i : Nat) : Turn → Option ScPkt
  | ⟨s, _, .udp saddr data⟩ =>
      if data ≠ [] ∧ lookupUdpSess s.st saddr.addr saddr.port = some i then
        some (Srv.doRecvFrom s.pkt data)
      else none
  | _ => none

/-- What `_handle_event_from_udp` returns. -/
def ret : Turn → Int
  | ⟨s, env, .udp saddr data⟩ =>
      ((Srv._handleEventFromUdp s.st.order (Srv.doRecvFrom s.pkt data) saddr).run exec
        ((s.world env).emit (.recv saddr data))).1.1
  | _ => 0

/-- The step creates the session in slot `i`. -/
def creates (i : Nat) (x : Turn) : Bool :=
  !(x.server.st.sessArr i).isConnected && (x.next.st.sessArr i).isConnected

/-- A SYNC or REQSYNC of the session in slot `i` is handled. -/
def syncs (i : Nat) (x : Turn) : Bool :=
  (x.packet i).any fun pkt =>
    pktType pkt.raw == TCLI_PKT_SYNC || pktType pkt.raw == TCLI_PKT_REQSYNC

/-- A datagram of the session in slot `i` is handled without error. -/
def handled (i : Nat) (x : Turn) : Bool := (x.packet i).isSome && decide (0 ≤ x.ret)

end Turn

/-- The step leaves the slot `i` as it was, and no datagram of its session is handled. -/
def LeavesAlone (x : Turn) (i : Nat) : Prop :=
  pulse (x.next.st.sessArr i) = pulse (x.server.st.sessArr i) ∧ x.syncs i = false ∧
    x.handled i = false

/-- The step counts a datagram of the session in slot `i`. -/
def Counts (x : Turn) (i : Nat) : Prop :=
  pulse (x.next.st.sessArr i) = ((x.server.st.sessArr i).isConnected,
    (x.server.st.sessArr i).lastAct, (x.server.st.sessArr i).loopC + 1) ∧
  ((x.server.st.sessArr i).loopC + 1) % 32 ≠ 0 ∧ x.syncs i = false

theorem leavesAlone_of_packet {x : Turn} (hpacket : x.packet i = none)
    (h : pulse (x.next.st.sessArr i) = pulse (x.server.st.sessArr i)) : LeavesAlone x i := by
  refine ⟨h, ?_, ?_⟩
  · rw [Turn.syncs, hpacket]
    rfl
  · rw [Turn.handled, hpacket]
    rfl

/-- INTERNAL: a datagram of the session in slot `i`.
SOURCE: udp_epoll.c:744-783 -/
theorem step_outcome_known {s : Server} {env : Env} {k : Endpoint} {d : List UInt8}
    (h : Ticking now env.gettimeofday env.clock) (hd : d ≠ [])
    (hlook : lookupUdpSess s.st k.addr k.port = some i)
    (hconn : ((Turn.next ⟨s, env, .udp k d⟩).st.sessArr i).isConnected = true) :
    now ≤ ((Turn.next ⟨s, env, .udp k d⟩).st.sessArr i).lastAct ∨
      LeavesAlone ⟨s, env, .udp k d⟩ i ∨ Counts ⟨s, env, .udp k d⟩ i := by
  have hpacket : Turn.packet i ⟨s, env, .udp k d⟩ = some (Srv.doRecvFrom s.pkt d) :=
    if_pos ⟨hd, hlook⟩
  have hl : lookupUdpSess ((s.world env).emit (.recv k d)).st k.addr k.port = some i := hlook
  have hclock : Ticking now ((s.world env).emit (.recv k d)).env.gettimeofday
      ((s.world env).emit (.recv k d)).env.clock := h
  have hret : Turn.ret ⟨s, env, .udp k d⟩ = _ := congrArg (fun r => r.1.1)
    (run__handleEventFromUdp s.st.order (Srv.doRecvFrom s.pkt d) k
      ((s.world env).emit (.recv k d)))
  have hsync := activeSince_sync hclock s.st.order (Srv.doRecvFrom s.pkt d) i
  have hdispatch := (ActiveSince.refl hclock i).run
    (__handleEventFromUdp_uses s.st.order (Srv.doRecvFrom s.pkt d) i) (by
      rintro o (ho | ⟨⟨_, _, rfl⟩, _⟩)
      · exact ne_incLoopC_of_datagramOp ho i
      · exact Op.noConfusion)
  have hslot : ∀ r, (Srv.__handleEventFromUdp s.st.order (Srv.doRecvFrom s.pkt d) i).run exec
      ((s.world env).emit (.recv k d)) = r → (Turn.next ⟨s, env, .udp k d⟩).st.sessArr i =
        ((Srv.finishEvent r.1.1 r.1.2 i).run exec r.2).2.sess i := by
    rintro r rfl
    show (s.step env (.udp k d)).st.sessArr i = _
    rw [step_udp_known hd hlook]
    rfl
  rw [hl] at hret
  dsimp only at hret
  -- what the dispatcher leaves, whatever it was
  generalize hrun : (Srv.__handleEventFromUdp s.st.order (Srv.doRecvFrom s.pkt d) i).run exec
    ((s.world env).emit (.recv k d)) = r at hret hsync hdispatch
  unfold LeavesAlone Counts
  rw [hslot r hrun] at hconn ⊢
  by_cases htype : pktType (Srv.doRecvFrom s.pkt d).raw = TCLI_PKT_SYNC ∨
      pktType (Srv.doRecvFrom s.pkt d).raw = TCLI_PKT_REQSYNC
  · exact .inl (((hsync htype).run_dead _).le_of_dead hconn)
  · have hnosync : Turn.syncs i ⟨s, env, .udp k d⟩ = false := by
      rw [Turn.syncs, hpacket]
      simpa using htype
    rcases finishEvent_outcome hdispatch _ _ hconn with
      hactive | ⟨hsame, hneg⟩ | ⟨hsame, hcount⟩
    · exact .inl hactive
    · refine .inr (.inl ⟨hsame, hnosync, ?_⟩)
      rw [Turn.handled, hret]
      simpa using fun _ => hneg
    · exact .inr (.inr ⟨hsame, hcount, hnosync⟩)

/-- INTERNAL: **one step**, seen from a slot that is in use after it. -/
theorem step_outcome (x : Turn) (i : Nat) (h : Ticking now x.env.gettimeofday x.env.clock)
    (hconn : (x.next.st.sessArr i).isConnected = true) :
    now ≤ (x.next.st.sessArr i).lastAct ∨ LeavesAlone x i ∨ Counts x i := by
  obtain ⟨s, env, input⟩ := x
  have hscan : ∀ {o : Op}, ScanOp o → o ≠ .incLoopC i := by
    rintro o ho rfl
    exact ho
  have hplain {α : Type} {P : Op → Prop} {q : Srv α} {w : World}
      (hw : pulse (w.sess i) = pulse (s.st.sessArr i))
      (hclock : Ticking now w.env.gettimeofday w.env.clock) (hu : Prog.Uses P q)
      (hP : ∀ o, P o → o ≠ .incLoopC i) (hpacket : Turn.packet i ⟨s, env, input⟩ = none)
      (hnext : (Turn.next ⟨s, env, input⟩).st.sessArr i = (q.run exec w).2.sess i) :
      now ≤ ((Turn.next ⟨s, env, input⟩).st.sessArr i).lastAct ∨
        LeavesAlone ⟨s, env, input⟩ i ∨ Counts ⟨s, env, input⟩ i := by
    rw [hnext] at hconn ⊢
    rcases ((ActiveSince.refl hclock i).run hu hP).active hconn with hactive | hsame
    · exact .inl hactive
    · exact .inr (.inl (leavesAlone_of_packet hpacket (by rw [hnext, hsame, hw])))
  cases input with
  | tun data =>
    exact hplain (w := s.world env) rfl h (handleEventFromTun_uses s.st.maxConn s.pkt data)
      (fun _ => hscan) rfl rfl
  | reap =>
    exact hplain (w := s.world env) rfl h (zombieReaperDoScan_uses s.st.maxConn s.zrPkt)
      (fun _ => hscan) rfl rfl
  | shutdown =>
    exact hplain (w := s.world env) rfl h (closeClientSess_uses s.st.maxConn s.pkt)
      (fun _ => hscan) rfl rfl
  | udp k d =>
    by_cases hd : d = []
    · subst hd
      have hpacket : Turn.packet i ⟨s, env, .udp k []⟩ = none := by simp [Turn.packet]
      exact .inr (.inl (leavesAlone_of_packet hpacket rfl))
    · cases hlook : lookupUdpSess s.st k.addr k.port with
      | none =>
        refine hplain (w := (s.world env).emit (.recv k d)) rfl h
          (handleNewClient_uses s.st.order (Srv.doRecvFrom s.pkt d) k) ?_ ?_ ?_
        · rintro o (ho | ⟨_, _, rfl⟩)
          · exact ne_incLoopC_of_datagramOp ho i
          · exact Op.noConfusion
        · exact if_neg (by simp [hlook])
        · show ((s.step env (.udp k d)).st.sessArr i) = _
          rw [step_udp_new hd hlook]
          rfl
      | some j =>
        by_cases hij : j = i
        · subst hij
          exact step_outcome_known h hd hlook hconn
        · refine hplain (w := (s.world env).emit (.recv k d)) rfl h
            ((__handleEventFromUdp_uses s.st.order (Srv.doRecvFrom s.pkt d) j).mono ?_ |>.bind
              fun r => (finishEvent_uses r.1 r.2 j).mono ?_) (fun _ => id) ?_ ?_
          · rintro o (ho | ⟨⟨_, _, rfl⟩, _⟩)
            · exact ne_incLoopC_of_datagramOp ho i
            · exact Op.noConfusion
          · rintro o (ho | rfl)
            · exact ne_incLoopC_of_datagramOp ho i
            · exact fun heq => hij (Op.incLoopC.inj heq)
          · exact if_neg (by simp [hlook, hij])
          · show ((s.step env (.udp k d)).st.sessArr i) = _
            rw [step_udp_known hd hlook, Prog.run_bind]
            rfl

end TeaVpn2.Analysis
