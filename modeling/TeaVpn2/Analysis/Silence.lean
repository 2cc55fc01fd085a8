import TeaVpn2.Analysis.Isolation
import TeaVpn2.Analysis.Sweeps

/-!
# Silent clients are dropped

The other side of the reaper: a session that a scan leaves open belongs to an endpoint that was heard
within the timeout. `last_act` of a session in use was stored during a step that received a datagram
of its endpoint (`HeardInv`), and a scan leaves no session open whose `last_act` is too old
(`reap_exact`). So a server that nobody sends to has all its slots back after one scan.
-/

set_option autoImplicit false

namespace TeaVpn2.Analysis

open TeaVpn2 TeaVpn2.Lib

/-! ## No stamp lies in the future -/

/-- The clock ticks until `now`, and no session in use has been active later than that. -/
structure Stamped (now : Int) (w : World) : Prop where
  ticking : ∃ t, Ticking t w.env.gettimeofday w.env.clock
  clock : w.env.clock = now
  past : ∀ i, (w.sess i).isConnected = true → (w.sess i).lastAct ≤ now

namespace Stamped

variable {now : Int} {w w' : World}

theorem congr (h : Stamped now w) (hgtod : w'.env.gettimeofday = w.env.gettimeofday)
    (hclock : w'.env.clock = w.env.clock)
    (hpulse : ∀ i, (w'.sess i).isConnected = (w.sess i).isConnected ∧
      (w'.sess i).lastAct = (w.sess i).lastAct) : Stamped now w' := by
  refine ⟨by rw [hgtod, hclock]; exact h.ticking, hclock.trans h.clock, fun i hi => ?_⟩
  obtain ⟨hconn, hlast⟩ := hpulse i
  rw [hconn] at hi
  rw [hlast]
  exact h.past i hi

theorem setSess (h : Stamped now w) (j : Nat) (f : UdpSess → UdpSess)
    (hf : ∀ s, (f s).isConnected = s.isConnected ∧ (f s).lastAct = s.lastAct) :
    Stamped now (w.setSess j f) := by
  refine h.congr rfl rfl fun i => ?_
  by_cases hi : i = j
  · subst hi
    rw [sess_setSess_self]
    exact hf _
  · rw [sess_setSess_of_ne w hi]
    exact ⟨rfl, rfl⟩

theorem tail (h : Stamped now w) :
    Stamped now { w with env := { w.env with gettimeofday := w.env.gettimeofday.tail } } := by
  obtain ⟨t, ht⟩ := h.ticking
  exact ⟨⟨_, ht.tail⟩, h.clock, h.past⟩

/-- INTERNAL: a session that is stamped and perhaps comes into use.
SOURCE: udp.h:385-388 -/
theorem stamp (h : Stamped now w) (j : Nat) (f : UdpSess → UdpSess)
    (hf : ∀ s, (f s).lastAct = s.lastAct) : Stamped now ((w.udpSessUpdateLastAct j).setSess j f) := by
  obtain ⟨t, ht⟩ := h.ticking
  rw [updateLastAct_of_ticking ht]
  refine ⟨h.tail.ticking, h.clock, fun i hi => ?_⟩
  by_cases hij : i = j
  · subst hij
    rw [sess_setSess_self, hf, sess_setSess_self]
    exact Int.le_trans ht.tail.le_clock (Int.le_of_eq h.clock)
  · rw [sess_setSess_of_ne _ hij, sess_setSess_of_ne _ hij] at hi ⊢
    exact h.past i hi

theorem createUdpSess (h : Stamped now w) (addr : UInt32) (port : UInt16) :
    Stamped now (TeaVpn2.createUdpSess w addr port).2 := by
  rcases createUdpSess_cases w addr port with heq | ⟨j, stk, m, mal, w₁, hw₁, hcases⟩
  · rw [heq]
    exact h
  · have hkeyed : Stamped now
        ({ w with st := { w.st with sessStk := stk } }.setSess j fun s =>
          { s with srcAddr := addr, srcPort := port }) := by
      refine setSess ?_ j (fun s => { s with srcAddr := addr, srcPort := port }) fun _ => ⟨rfl, rfl⟩
      exact h.congr rfl rfl fun _ => ⟨rfl, rfl⟩
    have htaken : Stamped now w₁ := by
      rw [hw₁]
      exact hkeyed.congr rfl rfl fun _ => ⟨rfl, rfl⟩
    rcases hcases with ⟨stk', l, _, heq⟩ | ⟨w₂, rfl, heq⟩
    · rw [heq]
      exact htaken.congr rfl rfl fun _ => ⟨rfl, rfl⟩
    · have hnamed : Stamped now (w₁.setSess j fun s => { s with strSrcAddr := inetNtop addr }) :=
        htaken.setSess j (fun s => { s with strSrcAddr := inetNtop addr }) fun _ => ⟨rfl, rfl⟩
      have hopen := hnamed.stamp j (fun s => { s with isConnected := true }) fun _ => rfl
      rw [heq]
      exact hopen.congr rfl rfl fun _ => ⟨rfl, rfl⟩

theorem deleteUdpSession (h : Stamped now w) (j : Nat) :
    Stamped now (TeaVpn2.deleteUdpSession w j).2 := by
  obtain ⟨stk, l, _, hpush⟩ := pushOrBug_eq w (w.sess j).idx
  refine ⟨?_, ?_, fun i hi => ?_⟩
  · simp only [TeaVpn2.deleteUdpSession, hpush]
    exact h.ticking
  · simp only [TeaVpn2.deleteUdpSession, hpush]
    exact h.clock
  · rw [sess_deleteUdpSession] at hi ⊢
    split at hi
    · cases hi
    · next hij =>
      rw [if_neg hij]
      exact h.past i hi

/-- INTERNAL: **one operation** stamps no session in use with a time to come. -/
theorem exec (h : Stamped now w) (o : Op) : Stamped now (TeaVpn2.exec o w).2 := by
  cases o with
  | createUdpSess addr port => exact h.createUdpSess addr port
  | deleteUdpSession j => exact h.deleteUdpSession j
  | storeAddr j saddr => exact h.setSess j (fun s => { s with addr := saddr }) fun _ => ⟨rfl, rfl⟩
  | storeIpv4Iff j addr => exact h.setSess j (fun s => { s with ipv4Iff := addr }) fun _ => ⟨rfl, rfl⟩
  | storeIsAuthenticated j =>
    exact h.setSess j (fun s => { s with isAuthenticated := true }) fun _ => ⟨rfl, rfl⟩
  | storeUsername j username =>
    exact h.setSess j (fun s => { s with username := strncpy2 username 256 }) fun _ => ⟨rfl, rfl⟩
  | incLoopC j => exact h.setSess j (fun s => { s with loopC := s.loopC + 1 }) fun _ => ⟨rfl, rfl⟩
  | updateLastAct j =>
    refine (h.stamp j id fun _ => rfl).congr rfl rfl fun i => ?_
    by_cases hij : i = j
    · subst hij
      rw [sess_setSess_self]
      exact ⟨rfl, rfl⟩
    · rw [sess_setSess_of_ne _ hij]
      exact ⟨rfl, rfl⟩
  | getUnixTime =>
    obtain ⟨t, ht⟩ := h.ticking
    simp only [TeaVpn2.exec, getUnixTime_of_ticking ht]
    exact h.tail
  | send j data =>
    obtain ⟨_, _, _, _, _, _, _, heq⟩ := sendToClient_spec w j data
    simp only [TeaVpn2.exec, heq]
    exact h.congr rfl rfl fun _ => ⟨rfl, rfl⟩
  | writeTun j data =>
    obtain ⟨_, _, _, _, _, _, _, heq⟩ := writeTun_spec w j data
    simp only [TeaVpn2.exec, heq]
    exact h.congr rfl rfl fun _ => ⟨rfl, rfl⟩
  | _ => exact h.congr rfl rfl fun _ => ⟨rfl, rfl⟩

end Stamped

theorem stamped_step {s : Server} {env : Env} {t : Int}
    (hclock : Ticking t env.gettimeofday env.clock)
    (hpast : ∀ i, (s.st.sessArr i).isConnected = true → (s.st.sessArr i).lastAct ≤ t)
    (input : Input) (i : Nat) (hi : ((s.step env input).st.sessArr i).isConnected = true) :
    ((s.step env input).st.sessArr i).lastAct ≤ env.clock := by
  have hrun : ∀ {α : Type} (p : Srv α) (w : World), w.st = s.st → w.env = env →
      Stamped env.clock (p.run exec w).2 := by
    intro α p w hst henv
    refine Prog.run_keeps (Stamped env.clock) (fun o _ hw => hw.exec o) p ⟨?_, ?_, fun j hj => ?_⟩
    · rw [henv]
      exact ⟨t, hclock⟩
    · rw [henv]
    · unfold World.sess at hj ⊢
      rw [hst] at hj ⊢
      exact Int.le_trans (hpast j hj) hclock.le_clock
  cases input with
  | udp k d => exact (hrun _ ((s.world env).emit (.recv k d)) rfl rfl).past i hi
  | tun data => exact (hrun _ (s.world env) rfl rfl).past i hi
  | reap => exact (hrun _ (s.world env) rfl rfl).past i hi
  | shutdown => exact (hrun _ (s.world env) rfl rfl).past i hi

/-! ## Sessions in use have been heard -/

/-- INTERNAL: what a scan, the shutdown and the TUN device leave in use they leave as it was. -/
theorem sess_of_scanOp {o : Op} (ho : ScanOp o) (w : World) (i : Nat)
    (hi : ((exec o w).2.sess i).isConnected = true) : (exec o w).2.sess i = w.sess i := by
  cases o with
  | deleteUdpSession j =>
    have hdel := sess_deleteUdpSession w j i
    change (deleteUdpSession w j).2.sess i = w.sess i
    change ((deleteUdpSession w j).2.sess i).isConnected = true at hi
    rw [hdel] at hi ⊢
    split at hi
    · cases hi
    · next hij => rw [if_neg hij]
  | getUnixTime =>
    obtain ⟨_, _, heq⟩ := getUnixTime_eq w
    simp only [exec, heq]
    rfl
  | send j data =>
    obtain ⟨_, _, _, _, _, _, _, heq⟩ := sendToClient_spec w j data
    simp only [exec, heq]
    rfl
  | loadIsConnected j => rfl
  | loadIsAuthenticated j => rfl
  | loadLastAct j => rfl
  | loadNOnSess => rfl
  | getRoute addr => rfl
  | loadIpv4Iff j => rfl
  | delRoute addr => rfl
  | _ => exact ho.elim

/-- INTERNAL: only a datagram changes a session and leaves it in use. -/
theorem step_same {s : Server} {env : Env} {input : Input} (hinput : ∀ k d, input ≠ .udp k d)
    {i : Nat} (hi : ((s.step env input).st.sessArr i).isConnected = true) :
    (s.step env input).st.sessArr i = s.st.sessArr i := by
  have hrun : ∀ {α : Type} (p : Srv α), Prog.Uses ScanOp p →
      ((p.run exec (s.world env)).2.sess i).isConnected = true →
      (p.run exec (s.world env)).2.sess i = s.st.sessArr i := by
    intro α p hu
    refine hu.run_keeps (fun w : World => (w.sess i).isConnected = true → w.sess i = s.st.sessArr i)
      (fun o w ho hw hc => ?_) fun _ => rfl
    have hsame := sess_of_scanOp ho w i hc
    rw [hsame] at hc ⊢
    exact hw hc
  cases input with
  | udp k d => exact absurd rfl (hinput k d)
  | tun data => exact hrun _ (handleEventFromTun_uses s.st.maxConn s.pkt data) hi
  | reap =>
    exact hrun (Srv.zombieReaperDoScan s.st.maxConn s.zrPkt)
      (zombieReaperDoScan_uses s.st.maxConn s.zrPkt) hi
  | shutdown => exact hrun _ (closeClientSess_uses s.st.maxConn s.pkt) hi

/-- The step receives a datagram of the endpoint `k`. -/
def Turn.hears (k : Endpoint) (x : Turn) : Prop := ∃ d, x.input = .udp k d

/-- INTERNAL: a session in use was stamped when a datagram of its endpoint was received, or before. -/
structure HeardInv (l : List Turn) (t : Int) (s : Server) : Prop where
  slots : Server.SlotInv s
  life : Server.LifeInv s
  past : ∀ x ∈ l, x.env.clock ≤ t
  heard : ∀ i, (s.st.sessArr i).isConnected = true →
    ∃ x ∈ l, x.hears (s.st.sessArr i).key ∧ (s.st.sessArr i).lastAct ≤ x.env.clock

theorem HeardInv.stamps {l : List Turn} {t : Int} {s : Server} (h : HeardInv l t s) (i : Nat)
    (hi : (s.st.sessArr i).isConnected = true) : (s.st.sessArr i).lastAct ≤ t := by
  obtain ⟨x, hx, _, hle⟩ := h.heard i hi
  exact Int.le_trans hle (h.past x hx)

/-- INTERNAL: one step keeps the invariant. -/
theorem HeardInv.step {l : List Turn} {t : Int} {s : Server} (h : HeardInv l t s) {env : Env}
    (hclock : Ticking t env.gettimeofday env.clock) (henv : env.NoEbadmsg) (input : Input) :
    HeardInv (l ++ [⟨s, env, input⟩]) env.clock (s.step env input) := by
  refine ⟨step_slotInv input h.slots henv, step_lifeInv input h.slots h.life henv, ?_, fun i hi => ?_⟩
  · intro x hx
    rcases List.mem_append.mp hx with hx | hx
    · exact Int.le_trans (h.past x hx) hclock.le_clock
    · rw [List.mem_singleton.mp hx]
  have hold : (s.step env input).st.sessArr i = s.st.sessArr i →
      ∃ x ∈ l ++ [⟨s, env, input⟩], x.hears ((s.step env input).st.sessArr i).key ∧
        ((s.step env input).st.sessArr i).lastAct ≤ x.env.clock := by
    intro hsame
    rw [hsame] at hi ⊢
    obtain ⟨x, hx, hheard⟩ := h.heard i hi
    exact ⟨x, List.mem_append_left _ hx, hheard⟩
  have hstamp := stamped_step hclock h.stamps input i hi
  cases input with
  | udp k d =>
    by_cases hk : ((s.step env (.udp k d)).st.sessArr i).key = k
    · refine ⟨⟨s, env, .udp k d⟩, List.mem_append_right _ (List.mem_singleton.mpr rfl), ⟨d, ?_⟩, hstamp⟩
      rw [hk]
    · -- the session of another endpoint
      have honly := step_onlyConcerns h.slots h.life henv k d
      have htab' := (step_slotInv (.udp k d) h.slots henv {} (by simp [Env.NoEbadmsg])).table
      have hlook := (lookupUdpSess_eq_some htab' _ i).mpr ⟨hi, rfl⟩
      exact hold (honly.same _ hk i ((honly.found _ hk).symm.trans hlook))
  | tun data => exact hold (step_same (fun _ _ => Input.noConfusion) hi)
  | reap => exact hold (step_same (fun _ _ => Input.noConfusion) hi)
  | shutdown => exact hold (step_same (fun _ _ => Input.noConfusion) hi)

/-- INTERNAL: a run keeps the invariant. -/
theorem HeardInv.run {l : List Turn} {t : Int} {s : Server} (h : HeardInv l t s)
    (r : List (Env × Input)) (hclock : Clocked t r) (hkernel : ∀ x ∈ r, x.1.NoEbadmsg) :
    ∃ t', HeardInv (l ++ turns s r) t' (s.run r) := by
  induction r generalizing l t s with
  | nil =>
    refine ⟨t, ?_⟩
    rw [turns, List.append_nil]
    exact h
  | cons x r ih =>
    obtain ⟨env, input⟩ := x
    obtain ⟨t', hend⟩ := ih (h.step hclock.1 (hkernel _ List.mem_cons_self) input) hclock.2
      fun y hy => hkernel y (List.mem_cons_of_mem _ hy)
    refine ⟨t', ?_⟩
    rw [List.append_assoc] at hend
    exact hend

/-! ## After a scan -/

theorem Ticking.next_le_drop {t : Int} {rs : List (Option Int)} {clock : Int}
    (h : Ticking t rs clock) (n : Nat) : nextReading rs clock ≤ nextReading (rs.drop n) clock := by
  induction n generalizing t rs with
  | zero => exact Int.le_refl _
  | succ n ih =>
    have hrest := ih h.tail
    rw [List.drop_tail] at hrest
    exact Int.le_trans h.tail.le_next hrest

/-- INTERNAL: a session that a scan leaves in use has not been idle for too long, from the beginning
of the scan on.
SOURCE: udp_epoll.c:1067-1139 -/
theorem reap_survivor {s : Server} {env : Env} {t : Int} (h : TableInv s.st)
    (hclock : Ticking t env.gettimeofday env.clock) {i : Nat}
    (hi : ((s.step env .reap).st.sessArr i).isConnected = true) :
    (s.step env .reap).st.sessArr i = s.st.sessArr i ∧
      timeOf env - timeoutOf (s.st.sessArr i) ≤ (s.st.sessArr i).lastAct := by
  obtain ⟨w, hscan, hst, -⟩ := reap_scanning h hclock
  have hslot := hscan.swept.slots i
  rw [← hst] at hslot
  split at hslot
  · rw [hslot] at hi
    cases hi
  · next hkept =>
    rw [hslot] at hi
    refine ⟨hslot, ?_⟩
    have hearly : ¬timeoutOf (s.st.sessArr i) < idleTime s env i := by
      intro hlate
      refine hkept ⟨h.connected_lt i hi, ?_⟩
      rw [expires, hi, decide_eq_true hlate]
      rfl
    have hlater : timeOf env ≤ scanTime s env i := hclock.next_le_drop _
    unfold idleTime at hearly
    omega

theorem along_kernel {s : Server} {l : List (Env × Input)} (h : ∀ x ∈ l, x.1.NoEbadmsg) :
    Server.Along (fun _ env _ => env.NoEbadmsg) s l := by
  induction l generalizing s with
  | nil => trivial
  | cons x l ih => exact ⟨h x List.mem_cons_self, ih fun y hy => h y (List.mem_cons_of_mem x hy)⟩

/-- INTERNAL: **silent clients are dropped.** In every run from the start of the server, at a clock
that does not fail and does not go back, with a scan of the reaper as its last step, and `T` being the
time at which that scan begins: the endpoint of every session that is still open was heard at the
time `T - 180` or later, or at `T - 30` or later if the session is not authenticated. So if no
datagram was received since `T - 180`, then every slot is free again and no node of the session map
is allocated.
SOURCE: udp_epoll.c:744-783, 1067-1139, udp.h:370-388, udp_session.c:59-197 -/
theorem silent_clients_dropped (maxConn : UInt16) (dataDir : List UInt8) (o : ByteOrder)
    (pkt zrPkt : ScPkt) (t₀ : Int) (l : List (Env × Input)) (env : Env)
    (hclock : Clocked t₀ (l ++ [(env, .reap)])) (hkernel : ∀ x ∈ l ++ [(env, .reap)], x.1.NoEbadmsg) :
    let s := Server.boot maxConn dataDir o pkt zrPkt
    let s' := (s.run l).step env .reap
    (∀ i, (s'.st.sessArr i).isConnected = true → ∃ x ∈ turns s l,
      x.hears (s'.st.sessArr i).key ∧ timeOf env - timeoutOf (s'.st.sessArr i) ≤ x.env.clock) ∧
    ((∀ x ∈ turns s l, ∀ k, x.hears k → x.env.clock < timeOf env - Srv.UDP_SESS_TIMEOUT_AUTH) →
      (∀ i < maxConn.toNat, i ∈ freeSlots s'.st) ∧ ∀ a, s'.st.sessMap.mem (.node a) = none) := by
  intro s s'
  have hinit : HeardInv [] t₀ s := by
    refine ⟨boot_slotInv maxConn dataDir o pkt zrPkt, boot_lifeInv maxConn dataDir o pkt zrPkt, by simp,
      fun i hi => ?_⟩
    cases (show false = true from hi)
  obtain ⟨hrun, t, hscan⟩ := clocked_append hclock
  have hkernel' : ∀ x ∈ l, x.1.NoEbadmsg := fun x hx => hkernel x (List.mem_append_left _ hx)
  obtain ⟨t', hheard⟩ := hinit.run l hrun hkernel'
  rw [List.nil_append] at hheard
  have htab : TableInv (s.run l).st := (hheard.slots {} (by simp [Env.NoEbadmsg])).table
  have hleft : ∀ i, (s'.st.sessArr i).isConnected = true → ∃ x ∈ turns s l,
      x.hears (s'.st.sessArr i).key ∧ timeOf env - timeoutOf (s'.st.sessArr i) ≤ x.env.clock := by
    intro i hi
    obtain ⟨hsame, hlate⟩ := reap_survivor htab hscan hi
    rw [hsame] at hi ⊢
    obtain ⟨x, hx, hfrom, hle⟩ := hheard.heard i hi
    exact ⟨x, hx, hfrom, Int.le_trans hlate hle⟩
  refine ⟨hleft, fun hsilent => ?_⟩
  have hnone : ∀ i, (s'.st.sessArr i).isConnected = false := by
    intro i
    by_contra hi
    obtain ⟨x, hx, hfrom, hle⟩ := hleft i (Bool.eq_true_of_not_eq_false hi)
    have hold := hsilent x hx _ hfrom
    have htimeout : timeoutOf (s'.st.sessArr i) ≤ Srv.UDP_SESS_TIMEOUT_AUTH := by
      unfold timeoutOf
      split
      · exact Int.le_refl _
      · decide
    omega
  have hlast : env.NoEbadmsg := hkernel _ (List.mem_append_right _ (List.mem_singleton.mpr rfl))
  have htab' : TableInv s'.st :=
    (step_slotInv .reap hheard.slots hlast {} (by simp [Env.NoEbadmsg])).table
  have hreach : Server.Reach (fun _ env _ => env.NoEbadmsg) s s' :=
    (Server.Reach.init.run l (along_kernel hkernel')).step env .reap hlast
  refine ⟨fun i hi => (htab'.mem_free i).mpr ⟨?_, hnone i⟩,
    no_nodes htab' (reach_noLostBkt hreach) hnone⟩
  rw [reach_maxConn hreach]
  exact hi

/-- A client shakes hands at the time 100, and a scan at the time 281 drops it. -/
theorem silent_clients_dropped_handshake :
    (((Server.boot 1 [] .little Server.zeroPkt Server.zeroPkt).run lateHandshake).st.sessArr
        0).isConnected = true ∧
      0 ∈ freeSlots (((Server.boot 1 [] .little Server.zeroPkt Server.zeroPkt).run
        lateHandshake).step { clock := 281 } .reap).st := by
  have hdropped := (silent_clients_dropped 1 [] .little Server.zeroPkt Server.zeroPkt 0 lateHandshake
    { clock := 281 } ⟨show (0 : Int) ≤ 100 by decide, show (100 : Int) ≤ 281 by decide, trivial⟩
    (by simp [lateHandshake, Env.NoEbadmsg])).2
  refine ⟨by decide, (hdropped ?_).1 0 (by decide)⟩
  intro x hx _ _
  rw [List.mem_singleton.mp hx]
  decide

end TeaVpn2.Analysis
