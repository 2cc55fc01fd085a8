import TeaVpn2.Analysis.Activity

/-!
# The reaper closes idle sessions only

A scan closes a session when `last_act` is older than the timeout. The invariant of a run
(`IdleInv`) says what that means for the steps before: since any moment later than `last_act`
of a slot in use, its session was not created, no SYNC or REQSYNC of it was handled, and at
most `loop_c % 32` of its datagrams were. Which value the counter had when the slot was taken
and whether it wraps around plays no role: 32 divides 256.
-/

set_option autoImplicit false

namespace TeaVpn2.Analysis

open TeaVpn2 TeaVpn2.Lib

/-! ## The steps of a run -/

/-- The steps of a run, with the server before each. -/
def turns : Server → List (Env × Input) → List Turn
  | _, [] => []
  | s, (env, input) :: l => ⟨s, env, input⟩ :: turns (s.step env input) l

/-- The clock does not fail and does not go back during a run that begins at the time `t`. -/
def Clocked : Int → List (Env × Input) → Prop
  | _, [] => True
  | t, (env, _) :: l => Ticking t env.gettimeofday env.clock ∧ Clocked env.clock l

theorem clocked_append {l : List (Env × Input)} {t : Int} {env : Env} {input : Input}
    (h : Clocked t (l ++ [(env, input)])) :
    Clocked t l ∧ ∃ t', Ticking t' env.gettimeofday env.clock := by
  induction l generalizing t with
  | nil => exact ⟨trivial, t, h.1⟩
  | cons x l ih =>
    obtain ⟨hrest, hlast⟩ := ih h.2
    exact ⟨⟨h.1, hrest⟩, hlast⟩

/-- The steps at the time `θ` and later. -/
def sinceTime (θ : Int) (l : List Turn) : List Turn := l.filter fun x => θ ≤ timeOf x.env

/-- At the time `θ` and later the session in slot `i` was not created, no SYNC or REQSYNC of it
was handled, and fewer than `n` of its datagrams were handled without error. -/
structure Idle (l : List Turn) (i : Nat) (θ : Int) (n : Nat) : Prop where
  created : ∀ x ∈ sinceTime θ l, x.creates i = false
  synced : ∀ x ∈ sinceTime θ l, x.syncs i = false
  handled : (sinceTime θ l).countP (Turn.handled i) < n

theorem Idle.mono {l : List Turn} {i : Nat} {θ : Int} {m n : Nat} (h : Idle l i θ m) (hmn : m ≤ n) :
    Idle l i θ n :=
  ⟨h.created, h.synced, Nat.lt_of_lt_of_le h.handled hmn⟩

theorem idle_of_past {l : List Turn} {i : Nat} {θ : Int} {n : Nat} (hn : 0 < n)
    (h : ∀ x ∈ l, timeOf x.env < θ) : Idle l i θ n := by
  have hnone : sinceTime θ l = [] := by
    apply List.filter_eq_nil_iff.mpr
    intro x hx
    have hlt := h x hx
    simp only [decide_eq_true_eq]
    omega
  constructor
  · simp [hnone]
  · simp [hnone]
  · simpa [hnone] using hn

theorem Idle.append {l : List Turn} {i : Nat} {θ : Int} {m n : Nat} (h : Idle l i θ m) {x : Turn}
    (hcreates : x.creates i = false) (hsyncs : x.syncs i = false) (hmn : m ≤ n)
    (hhandled : x.handled i = true → m < n) : Idle (l ++ [x]) i θ n := by
  have hsplit : sinceTime θ (l ++ [x]) = sinceTime θ l ++ sinceTime θ [x] := List.filter_append _ _
  have hlast : ∀ y ∈ sinceTime θ [x], y = x := by
    intro y hy
    exact List.mem_singleton.mp (List.mem_filter.mp hy).1
  constructor
  · intro y hy
    rw [hsplit, List.mem_append] at hy
    rcases hy with hy | hy
    · exact h.created y hy
    · rw [hlast y hy]
      exact hcreates
  · intro y hy
    rw [hsplit, List.mem_append] at hy
    rcases hy with hy | hy
    · exact h.synced y hy
    · rw [hlast y hy]
      exact hsyncs
  · have hold := h.handled
    have hone : (sinceTime θ [x]).countP (Turn.handled i) ≤ if x.handled i then 1 else 0 := by
      refine Nat.le_trans (List.Sublist.countP_le List.filter_sublist) (Nat.le_of_eq ?_)
      rw [List.countP_singleton]
    rw [hsplit, List.countP_append]
    split at hone
    · next hx =>
      have hlt := hhandled hx
      omega
    · omega

/-! ## The invariant of a run -/

/-- All steps are in the past of `t`, and a slot in use is idle since any moment later than its
`last_act`, up to the datagrams that were counted since the counter was a multiple of 32. -/
structure IdleInv (l : List Turn) (t : Int) (s : Server) : Prop where
  past : ∀ x ∈ l, timeOf x.env ≤ t
  idle : ∀ i, (s.st.sessArr i).isConnected = true → ∀ θ, (s.st.sessArr i).lastAct < θ →
    Idle l i θ ((s.st.sessArr i).loopC.toNat % 32 + 1)

/-- The counter wraps around at a multiple of 32. -/
theorem toNat_succ_mod {c : UInt8} (h : (c + 1) % 32 ≠ 0) :
    (c + 1).toNat % 32 = c.toNat % 32 + 1 := by
  have hne : (c + 1).toNat % 32 ≠ 0 := by
    intro hzero
    apply h
    apply UInt8.toNat_inj.mp
    rw [UInt8.toNat_mod]
    exact hzero
  have hadd : (c + 1).toNat = (c.toNat + 1) % 256 := UInt8.toNat_add c 1
  omega

/-- INTERNAL: one step keeps the invariant. -/
theorem IdleInv.step {l : List Turn} {t : Int} {s : Server} (h : IdleInv l t s) {env : Env}
    (hclock : Ticking t env.gettimeofday env.clock) (input : Input) :
    IdleInv (l ++ [⟨s, env, input⟩]) env.clock (s.step env input) := by
  have hnow : t ≤ timeOf env := hclock.le_next
  have hpast : ∀ x ∈ l ++ [⟨s, env, input⟩], timeOf x.env ≤ timeOf env := by
    intro x hx
    rw [List.mem_append, List.mem_singleton] at hx
    rcases hx with hx | rfl
    · exact Int.le_trans (h.past x hx) hnow
    · exact Int.le_refl _
  constructor
  · intro x hx
    exact Int.le_trans (hpast x hx) hclock.from_next.le_clock
  · intro i hconn θ hθ
    rcases step_outcome ⟨s, env, input⟩ i hclock.from_next hconn with
      hactive | ⟨hsame, hsyncs, hhandled⟩ | ⟨hsame, hcount, hsyncs⟩
    · -- the session was active in this step, and all steps are before `θ`
      apply idle_of_past (Nat.succ_pos _)
      intro x hx
      have hle := hpast x hx
      have hlt : timeOf env < θ := Int.lt_of_le_of_lt hactive hθ
      omega
    · obtain ⟨hsame, hlast, hloop⟩ := pulse_eq_iff.mp hsame
      have hwas : (s.st.sessArr i).isConnected = true := hsame.symm.trans hconn
      change ((s.step env input).st.sessArr i).lastAct = (s.st.sessArr i).lastAct at hlast
      change ((s.step env input).st.sessArr i).loopC = (s.st.sessArr i).loopC at hloop
      rw [hlast] at hθ
      rw [hloop]
      apply (h.idle i hwas θ hθ).append ?_ hsyncs (Nat.le_refl _)
      · intro hx
        rw [hhandled] at hx
        cases hx
      · simp [Turn.creates, hwas]
    · obtain ⟨hsame, hlast, hloop⟩ := pulse_eq_iff.mp hsame
      have hwas : (s.st.sessArr i).isConnected = true := hsame.symm.trans hconn
      change ((s.step env input).st.sessArr i).lastAct = (s.st.sessArr i).lastAct at hlast
      change ((s.step env input).st.sessArr i).loopC = (s.st.sessArr i).loopC + 1 at hloop
      rw [hlast] at hθ
      rw [hloop, toNat_succ_mod hcount]
      apply (h.idle i hwas θ hθ).append ?_ hsyncs (Nat.le_succ _)
      · exact fun _ => Nat.lt_succ_self _
      · simp [Turn.creates, hwas]

/-- INTERNAL: a run keeps the invariant. -/
theorem IdleInv.run {l : List Turn} {t : Int} {s : Server} (h : IdleInv l t s)
    (r : List (Env × Input)) (hclock : Clocked t r) :
    ∃ t', IdleInv (l ++ turns s r) t' (s.run r) := by
  induction r generalizing l t s with
  | nil =>
    refine ⟨t, ?_⟩
    rw [turns, List.append_nil]
    exact h
  | cons x r ih =>
    obtain ⟨env, input⟩ := x
    obtain ⟨t', hend⟩ := ih (h.step hclock.1 input) hclock.2
    refine ⟨t', ?_⟩
    rw [List.append_assoc] at hend
    exact hend

/-! ## The scan -/

/-- How long a session may be idle. -/
def timeoutOf (s : UdpSess) : Int :=
  if s.isAuthenticated then Srv.UDP_SESS_TIMEOUT_AUTH else Srv.UDP_SESS_TIMEOUT_NO_AUTH

/-- The reading of the clock that the scan takes for the slot `i`: it takes one for every slot
in use. -/
def scanTime (s : Server) (env : Env) (i : Nat) : Int :=
  nextReading (env.gettimeofday.drop
    ((List.range i).countP fun j => (s.st.sessArr j).isConnected)) env.clock

/-- The sessions and the clock. -/
def slotsAndClock (w : World) : (Nat → UdpSess) × List (Option Int) × Int :=
  (w.st.sessArr, w.env.gettimeofday, w.env.clock)

/-- The clock and all slots but `j` are as they were, and so is `j` unless `D` holds. -/
structure Spares (j : Nat) (D : Prop) (w w' : World) : Prop where
  gettimeofday : w'.env.gettimeofday = w.env.gettimeofday
  clock : w'.env.clock = w.env.clock
  others : ∀ k, k ≠ j → w'.sess k = w.sess k
  slot : w'.sess j = w.sess j ∨ D

theorem spares_of_slotsAndClock {j : Nat} {D : Prop} {w w' : World}
    (h : slotsAndClock w' = slotsAndClock w) : Spares j D w w' := by
  have hslots : w'.sess = w.sess := congrArg Prod.fst h
  refine ⟨congrArg (fun x => x.2.1) h, congrArg (fun x => x.2.2) h, ?_, .inl ?_⟩
  · exact fun k _ => congrFun hslots k
  · exact congrFun hslots j

theorem slotsAndClock_send (w : World) (j : Nat) (data : List UInt8) :
    slotsAndClock (w.sendToClient j data).2 = slotsAndClock w := by
  obtain ⟨_, _, _, _, _, _, _, heq⟩ := sendToClient_spec w j data
  rw [heq]
  rfl

theorem slotsAndClock_zrSendReqsyncs (j n : Nat) (pkt : ScPkt) (w : World) :
    slotsAndClock ((Srv.zrSendReqsyncs j n pkt).run exec w).2 = slotsAndClock w := by
  induction n generalizing pkt w with
  | zero => rfl
  | succ n ih =>
    unfold Srv.zrSendReqsyncs
    rw [Prog.run_bind, ih]
    exact slotsAndClock_send w j _

theorem spares_closeSess {j : Nat} {D : Prop} (hD : D) (pkt : ScPkt) (w : World) :
    Spares j D w ((Srv.closeSess pkt j).run exec w).2 := by
  have hclock : ∀ o (w : World), CloseOp o →
      (slotsAndClock (exec o w).2).2 = (slotsAndClock w).2 := by
    intro o w ho
    cases o with
    | send k data => exact congrArg Prod.snd (slotsAndClock_send w k data)
    | deleteUdpSession k =>
      obtain ⟨stk, l, _, hpush⟩ := pushOrBug_eq w (w.sess k).idx
      simp only [exec, deleteUdpSession, hpush]
      rfl
    | loadIpv4Iff k => rfl
    | delRoute addr => rfl
    | _ => exact ho.elim
  have hrun := (closeSess_closeOp pkt j).run_frame (fun w => (slotsAndClock w).2) hclock w
  refine ⟨congrArg Prod.fst hrun, congrArg Prod.snd hrun, ?_, .inr hD⟩
  intro k hk
  rw [sess_closeSess, if_neg hk]

/-- INTERNAL: the check of one slot closes it only when it has been idle for too long.
SOURCE: udp_epoll.c:1067-1117 -/
theorem spares_zrChk (pkt : ScPkt) (j : Nat) (timeDiff : Int) (w : World) :
    Spares j (Srv.UDP_SESS_TIMEOUT_AUTH < timeDiff) w
        ((Srv.zrChkAuth pkt j timeDiff).run exec w).2 ∧
      Spares j (Srv.UDP_SESS_TIMEOUT_NO_AUTH < timeDiff) w
        ((Srv.zrChkNoAuth pkt j timeDiff).run exec w).2 := by
  constructor
  · unfold Srv.zrChkAuth
    split
    · next hlate =>
      rw [Prog.run_bind]
      exact spares_closeSess hlate pkt w
    iterate 4
      split
      · exact spares_of_slotsAndClock (slotsAndClock_zrSendReqsyncs j _ pkt w)
    exact spares_of_slotsAndClock rfl
  · unfold Srv.zrChkNoAuth
    split
    · next hlate =>
      rw [Prog.run_bind]
      exact spares_closeSess hlate pkt w
    · exact spares_of_slotsAndClock rfl

/-- INTERNAL: the scan of one slot in use.
SOURCE: udp_epoll.c:1120-1139 -/
theorem spares_zrScanSlot (pkt : ScPkt) {j : Nat} {w : World} {t : Int}
    (hclock : Ticking t w.env.gettimeofday w.env.clock) (hconn : (w.sess j).isConnected = true) :
    Spares j (timeoutOf (w.sess j) < timeOf w.env - (w.sess j).lastAct)
      { w with env := { w.env with gettimeofday := w.env.gettimeofday.tail } }
      ((Srv.zrScanSlot pkt j).run exec w).2 := by
  have hread : (Srv.getUnixTime).run exec w = _ := getUnixTime_of_ticking hclock
  have hload : (Srv.loadIsConnected j).run exec w = (true, w) := by
    rw [← hconn]
    rfl
  unfold Srv.zrScanSlot
  rw [Prog.run_bind, hload]
  dsimp only
  rw [if_pos rfl, Prog.run_bind, hread, Prog.run_bind, Prog.run_bind]
  obtain ⟨hauth, hnoauth⟩ := spares_zrChk pkt j (timeOf w.env - (w.sess j).lastAct)
    { w with env := { w.env with gettimeofday := w.env.gettimeofday.tail } }
  show Spares j _ _ ((if (w.sess j).isAuthenticated = true then
    Srv.zrChkAuth pkt j (timeOf w.env - (w.sess j).lastAct)
    else Srv.zrChkNoAuth pkt j (timeOf w.env - (w.sess j).lastAct)).run exec _).2
  unfold timeoutOf
  split
  · exact hauth
  · exact hnoauth

theorem run_zrScanSlot_free (pkt : ScPkt) {j : Nat} {w : World}
    (hfree : (w.sess j).isConnected = false) :
    (Srv.zrScanSlot pkt j).run exec w = (pkt, w) := by
  have hload : (Srv.loadIsConnected j).run exec w = (false, w) := by
    rw [← hfree]
    rfl
  unfold Srv.zrScanSlot
  rw [Prog.run_bind, hload]
  rfl

theorem run_zrScanFrom_cons (j : Nat) (l : List Nat) (pkt : ScPkt) (w : World) :
    (Srv.zrScanFrom (j :: l) pkt).run exec w =
      (Srv.zrScanFrom l ((Srv.zrScanSlot pkt j).run exec w).1).run exec
        ((Srv.zrScanSlot pkt j).run exec w).2 :=
  Prog.run_bind _ _ _

/-- INTERNAL: after the scan of one slot the clock still ticks, one reading later if the slot was
in use, and the other slots are as they were. -/
theorem zrScanSlot_frame (pkt : ScPkt) {j : Nat} {w : World} {t : Int}
    (hclock : Ticking t w.env.gettimeofday w.env.clock) :
    (∃ t', Ticking t' ((Srv.zrScanSlot pkt j).run exec w).2.env.gettimeofday
      ((Srv.zrScanSlot pkt j).run exec w).2.env.clock) ∧
    ((Srv.zrScanSlot pkt j).run exec w).2.env.clock = w.env.clock ∧
    ((Srv.zrScanSlot pkt j).run exec w).2.env.gettimeofday =
      w.env.gettimeofday.drop (if (w.sess j).isConnected then 1 else 0) ∧
    ∀ k, k ≠ j → ((Srv.zrScanSlot pkt j).run exec w).2.sess k = w.sess k := by
  cases hconn : (w.sess j).isConnected with
  | false =>
    rw [run_zrScanSlot_free pkt hconn]
    exact ⟨⟨t, hclock⟩, rfl, rfl, fun _ _ => rfl⟩
  | true =>
    obtain ⟨hgtod, hclk, hothers, _⟩ := spares_zrScanSlot pkt hclock hconn
    refine ⟨⟨timeOf w.env, ?_⟩, hclk, ?_, hothers⟩
    · rw [hgtod, hclk]
      exact hclock.tail
    · rw [hgtod, if_pos rfl, List.drop_one]

/-- The scan touches the slots of its list only. -/
theorem sess_zrScanFrom (l : List Nat) {i : Nat} (hi : i ∉ l) (pkt : ScPkt) {w : World} {t : Int}
    (hclock : Ticking t w.env.gettimeofday w.env.clock) :
    ((Srv.zrScanFrom l pkt).run exec w).2.sess i = w.sess i := by
  induction l generalizing pkt w t with
  | nil => rfl
  | cons j l ih =>
    rw [List.mem_cons, not_or] at hi
    obtain ⟨⟨t', hclock'⟩, _, _, hothers⟩ := zrScanSlot_frame (j := j) pkt hclock
    rw [run_zrScanFrom_cons, ih hi.2 _ hclock', hothers i hi.1]

/-- INTERNAL: a slot that the scan closes has been idle for too long when the scan reads the
clock for it.
SOURCE: udp_epoll.c:1120-1139 -/
theorem zrScanFrom_closed {l₁ l₂ : List Nat} {i : Nat} (hnodup : (l₁ ++ i :: l₂).Nodup)
    (pkt : ScPkt) {w : World} {t : Int} (hclock : Ticking t w.env.gettimeofday w.env.clock)
    (hopen : (w.sess i).isConnected = true)
    (hclosed : (((Srv.zrScanFrom (l₁ ++ i :: l₂) pkt).run exec w).2.sess i).isConnected = false) :
    timeoutOf (w.sess i) < nextReading (w.env.gettimeofday.drop
      (l₁.countP fun j => (w.sess j).isConnected)) w.env.clock - (w.sess i).lastAct := by
  induction l₁ generalizing pkt w t with
  | nil =>
    obtain ⟨⟨t', hclock'⟩, _⟩ := zrScanSlot_frame (j := i) pkt hclock
    have hrest : i ∉ l₂ := (List.nodup_cons.mp hnodup).1
    rw [List.nil_append, run_zrScanFrom_cons, sess_zrScanFrom l₂ hrest _ hclock'] at hclosed
    rcases (spares_zrScanSlot pkt hclock hopen).slot with hsame | hidle
    · rw [hsame] at hclosed
      rw [show (w.sess i).isConnected = false from hclosed] at hopen
      cases hopen
    · exact hidle
  | cons j l₁ ih =>
    obtain ⟨hj, hnodup'⟩ := List.nodup_cons.mp hnodup
    have hij : i ≠ j := by
      rintro rfl
      exact hj (by simp)
    obtain ⟨⟨t', hclock'⟩, hclk, hgtod, hothers⟩ := zrScanSlot_frame (j := j) pkt hclock
    rw [List.cons_append, run_zrScanFrom_cons] at hclosed
    have hslot := hothers i hij
    have hcount : (l₁.countP fun k =>
        (((Srv.zrScanSlot pkt j).run exec w).2.sess k).isConnected) =
        l₁.countP fun k => (w.sess k).isConnected := by
      apply List.countP_congr
      intro k hk
      rw [hothers k]
      rintro rfl
      exact hj (List.mem_append_left _ hk)
    have hlate := ih hnodup' _ hclock' (by rw [hslot]; exact hopen) hclosed
    rw [hslot, hcount, hclk, hgtod, List.drop_drop] at hlate
    rw [List.countP_cons, Nat.add_comm]
    exact hlate

/-- INTERNAL: a session that a scan closes has been idle for too long.
SOURCE: udp_epoll.c:1120-1139 -/
theorem reap_closed {s : Server} {env : Env} {i : Nat} {t : Int}
    (hclock : Ticking t env.gettimeofday env.clock) (hopen : (s.st.sessArr i).isConnected = true)
    (hclosed : ((s.step env .reap).st.sessArr i).isConnected = false) :
    timeoutOf (s.st.sessArr i) < scanTime s env i - (s.st.sessArr i).lastAct := by
  have hload : Srv.loadNOnSess.run exec (s.world env) = (s.st.nOnSess, s.world env) := rfl
  change (((Srv.zombieReaperDoScan s.st.maxConn s.zrPkt).run exec (s.world env)).2.sess
    i).isConnected = false at hclosed
  have hsame : ((s.world env).sess i).isConnected = false → False := by
    intro hfree
    rw [show ((s.world env).sess i).isConnected = true from hopen] at hfree
    cases hfree
  unfold Srv.zombieReaperDoScan at hclosed
  rw [Prog.run_bind, hload] at hclosed
  dsimp only at hclosed
  split at hclosed
  · exact (hsame hclosed).elim
  · by_cases hi : i < s.st.maxConn.toNat
    · have hsplit : List.range s.st.maxConn.toNat =
          List.range i ++ i :: (List.range s.st.maxConn.toNat).drop (i + 1) := by
        have hlen : i < (List.range s.st.maxConn.toNat).length := by simpa using hi
        have hcut := (List.take_append_drop i (List.range s.st.maxConn.toNat)).symm
        rw [List.drop_eq_getElem_cons hlen, List.getElem_range, List.take_range,
          Nat.min_eq_left (Nat.le_of_lt hi)] at hcut
        exact hcut
      have hnodup := List.nodup_range (n := s.st.maxConn.toNat)
      rw [hsplit] at hclosed hnodup
      exact zrScanFrom_closed hnodup s.zrPkt (w := s.world env) hclock hopen hclosed
    · rw [sess_zrScanFrom _ (by simpa using hi) s.zrPkt (w := s.world env) hclock] at hclosed
      exact (hsame hclosed).elim

/-- INTERNAL: **the reaper closes idle sessions only.** In every run from a server without
sessions, at a clock that does not fail and does not go back: a session that a scan closes at
the time `t` was not created at the time `t - T` or later, no SYNC or REQSYNC of it was handled
since then, and fewer than 32 of its datagrams were handled without error, `T` being 180 seconds
for an authenticated session and 30 for another one.
SOURCE: udp_epoll.c:715-783, 1067-1139, udp.h:370-388, udp_session.c:89-95 -/
theorem reaper_closes_idle (s₀ : Server) (hnone : ∀ i, (s₀.st.sessArr i).isConnected = false)
    (t₀ : Int) (l : List (Env × Input)) (env : Env) (hclock : Clocked t₀ (l ++ [(env, .reap)]))
    (i : Nat) (hopen : ((s₀.run l).st.sessArr i).isConnected = true)
    (hclosed : (((s₀.run l).step env .reap).st.sessArr i).isConnected = false) :
    Idle (turns s₀ l) i (scanTime (s₀.run l) env i - timeoutOf ((s₀.run l).st.sessArr i)) 32 := by
  have hinit : IdleInv [] t₀ s₀ := by
    constructor
    · simp
    · intro j hj
      rw [hnone j] at hj
      cases hj
  obtain ⟨hrun, t, hscan⟩ := clocked_append hclock
  obtain ⟨t', hinv⟩ := hinit.run l hrun
  have hlate := reap_closed hscan hopen hclosed
  rw [List.nil_append] at hinv
  apply (hinv.idle i hopen _ (by omega)).mono
  omega

/-- A client shakes hands at the time 100. -/
def lateHandshake : List (Env × Input) :=
  [({ clock := 100 }, .udp ⟨0x0a000001, 1000⟩ handshakeDatagram)]

/-- The scan at the time 131 closes the session, which never logged in. -/
theorem reaper_closes_idle_handshake :
    (((Server.boot 1 [] .little Server.zeroPkt Server.zeroPkt).run lateHandshake).st.sessArr
        0).isConnected = true ∧
      Idle (turns (Server.boot 1 [] .little Server.zeroPkt Server.zeroPkt) lateHandshake) 0
        (131 - 30) 32 := by
  have hopen : (((Server.boot 1 [] .little Server.zeroPkt Server.zeroPkt).run
      lateHandshake).st.sessArr 0).isConnected = true := by
    decide
  have hunauth : timeoutOf (((Server.boot 1 [] .little Server.zeroPkt Server.zeroPkt).run
      lateHandshake).st.sessArr 0) = 30 := by
    decide
  have hidle := reaper_closes_idle (Server.boot 1 [] .little Server.zeroPkt Server.zeroPkt)
    (fun _ => rfl) 0 lateHandshake { clock := 131 }
    ⟨show (0 : Int) ≤ 100 by decide, show (100 : Int) ≤ 131 by decide, trivial⟩ 0 hopen
    (by decide)
  rw [hunauth] at hidle
  exact ⟨hopen, hidle⟩

end TeaVpn2.Analysis
