import TeaVpn2.Analysis.Buckets
import TeaVpn2.Analysis.Reaper
import TeaVpn2.Analysis.RouteMap

/-!
# What a scan and the shutdown do, slot by slot

The reaper and the shutdown go through the slots in order. `Swept` is the invariant of both loops:
the slots that have been passed are closed or left alone as a predicate says, and the log has grown
by what each of them calls for. From it: a scan closes exactly the sessions that have been idle for
too long and reminds the others as often as their idle time says (`reap_exact`), and the shutdown
reports goodbye to every session and leaves nothing behind (`shutdown_exact`).
-/

set_option autoImplicit false

namespace TeaVpn2.Analysis

open TeaVpn2 TeaVpn2.Lib

/-! ## What is reported -/

/-- An event without the result of the send. -/
def muted : Event → Event
  | .send i dst a data _ => .send i dst a data 0
  | e => e

/-- The CLOSE to the session `s` of slot `i`, and its end. -/
def farewell (i : Nat) (s : UdpSess) : List Event :=
  [.send i s.addr s.isAuthenticated (header TSRV_PKT_CLOSE 0 0) 0, .delete i s.key]

/-- How many REQSYNC a scan sends to a session that has been idle for `idle` seconds. -/
def syncCount (idle : Int) : Nat :=
  if idle > Srv.UDP_SESS_TIMEOUT_AUTH * 4 / 5 then 7
  else if idle > Srv.UDP_SESS_TIMEOUT_AUTH * 3 / 5 then 5
  else if idle > Srv.UDP_SESS_TIMEOUT_AUTH * 2 / 5 then 3
  else if idle > Srv.UDP_SESS_TIMEOUT_AUTH * 1 / 5 then 1
  else 0

/-- The REQSYNC to the session `s` of slot `i`, `n` times. -/
def reminders (i : Nat) (s : UdpSess) (n : Nat) : List Event :=
  List.replicate n (.send i s.addr s.isAuthenticated (header TSRV_PKT_REQSYNC 0 0) 0)

/-! ## One session -/

/-- The session table and the clock. -/
def tableAndClock (w : World) :
    (UInt16 × BtStack × SessMap × (Nat → UdpSess) × UInt16) × List (Option Int) × Int :=
  ((w.st.maxConn, w.st.sessStk, w.st.sessMap, w.st.sessArr, w.st.nOnSess), w.env.gettimeofday,
    w.env.clock)

theorem TableInv.of_tableAndClock {w w' : World} (h : TableInv w.st)
    (hsame : tableAndClock w' = tableAndClock w) : TableInv w'.st := by
  simp only [tableAndClock, Prod.mk.injEq] at hsame
  obtain ⟨⟨hmax, hstk, hmap, harr, hn⟩, _⟩ := hsame
  exact h.congr hmax hstk hmap (fun i => by simp [harr]) hn

/-- INTERNAL: a send touches neither and is reported. -/
theorem send_effect (w : World) (i : Nat) (data : List UInt8) :
    tableAndClock (w.sendToClient i data).2 = tableAndClock w ∧
      (w.sendToClient i data).2.log.map muted = w.log.map muted ++
        [.send i (w.sess i).addr (w.sess i).isAuthenticated data 0] := by
  obtain ⟨_, _, _, _, _, _, _, heq⟩ := sendToClient_spec w i data
  rw [heq]
  exact ⟨rfl, List.map_append⟩

/-- INTERNAL: the reminders of one session.
SOURCE: udp_epoll.c:1035-1046, 1100-1103 -/
theorem reqsyncs_effect (i n : Nat) (pkt : ScPkt) (w : World) :
    tableAndClock ((Srv.zrSendReqsyncs i n pkt).run exec w).2 = tableAndClock w ∧
      ((Srv.zrSendReqsyncs i n pkt).run exec w).2.log.map muted = w.log.map muted ++
        reminders i (w.sess i) n := by
  induction n generalizing pkt w with
  | zero => exact ⟨rfl, (List.append_nil _).symm⟩
  | succ n ih =>
    obtain ⟨htable, hlog⟩ := send_effect w i (sent (srvPprep pkt.raw TSRV_PKT_REQSYNC 0 0))
    obtain ⟨htable', hlog'⟩ := ih { pkt with raw := (srvPprep pkt.raw TSRV_PKT_REQSYNC 0 0).1 }
      (w.sendToClient i (sent (srvPprep pkt.raw TSRV_PKT_REQSYNC 0 0))).2
    have hsess : (w.sendToClient i (sent (srvPprep pkt.raw TSRV_PKT_REQSYNC 0 0))).2.sess i =
        w.sess i := congrFun (congrArg (fun t => t.1.2.2.2.1) htable) i
    rw [hlog, hsess, srvPprep, sent_pprep_zero] at hlog'
    unfold Srv.zrSendReqsyncs
    rw [Prog.run_bind]
    refine ⟨htable'.trans htable, hlog'.trans ?_⟩
    rw [List.append_assoc]
    rfl

/-- INTERNAL: the end of one session.
SOURCE: udp_epoll.c:323-336, 1049-1064 -/
theorem closeSess_effect {w : World} (h : TableInv w.st) {i : Nat}
    (hc : (w.sess i).isConnected = true) (pkt : ScPkt) :
    let w' := ((Srv.closeSess pkt i).run exec w).2
    TableInv w'.st ∧ w'.st.maxConn = w.st.maxConn ∧
      w'.st.sessArr = Function.update w.st.sessArr i (resetUdpSession (UInt16.ofNat i)) ∧
      w'.env.gettimeofday = w.env.gettimeofday ∧ w'.env.clock = w.env.clock ∧
      w'.log.map muted = w.log.map muted ++ farewell i (w.sess i) := by
  -- what comes after the route: the CLOSE, and the session is deleted
  have hrest : ∀ w₁ : World, tableAndClock w₁ = tableAndClock w → w₁.log = w.log →
      let w' := (deleteUdpSession (w₁.sendToClient i (sent (srvPprep pkt.raw TSRV_PKT_CLOSE 0 0))).2
        i).2
      TableInv w'.st ∧ w'.st.maxConn = w.st.maxConn ∧
        w'.st.sessArr = Function.update w.st.sessArr i (resetUdpSession (UInt16.ofNat i)) ∧
        w'.env.gettimeofday = w.env.gettimeofday ∧ w'.env.clock = w.env.clock ∧
        w'.log.map muted = w.log.map muted ++ farewell i (w.sess i) := by
    intro w₁ hw₁ hlog₁
    obtain ⟨htable, hlog⟩ := send_effect w₁ i (sent (srvPprep pkt.raw TSRV_PKT_CLOSE 0 0))
    generalize (w₁.sendToClient i (sent (srvPprep pkt.raw TSRV_PKT_CLOSE 0 0))).2 = w₂ at htable hlog ⊢
    have hsame := htable.trans hw₁
    simp only [tableAndClock, Prod.mk.injEq] at hsame hw₁
    obtain ⟨⟨hmax, _, _, harr, _⟩, hgtod, hclock⟩ := hsame
    obtain ⟨stk, m, st', _, hst, heq, hinv⟩ := deleteUdpSession_spec
      (h.of_tableAndClock (htable.trans (by simpa only [tableAndClock, Prod.mk.injEq] using hw₁)))
      (i := i) (by rw [harr]; exact hc)
    rw [heq]
    refine ⟨hinv, by rw [hst]; exact hmax, by rw [hst, harr], hgtod, hclock, ?_⟩
    show (w₂.log ++ [Event.delete i (w₂.st.sessArr i).key]).map muted = _
    rw [List.map_append, hlog, hlog₁, harr, srvPprep, sent_pprep_zero, List.append_assoc]
    have hsess : w₁.sess i = w.sess i := congrFun hw₁.1.2.2.2.1 i
    rw [hsess]
    rfl
  unfold Srv.closeSess
  simp only [Prog.run_bind]
  split
  · exact hrest _ rfl rfl
  · exact hrest _ rfl rfl

/-! ## The invariant of the loops -/

/-- The slots below `n` have been passed: those that `closes` selects are closed, and the log has
grown by what `reports` gives for each of them. -/
structure Swept (s : Server) (closes : Nat → Bool) (reports : Nat → List Event) (n : Nat) (w : World) :
    Prop where
  table : TableInv w.st
  maxConn : w.st.maxConn = s.st.maxConn
  slots : ∀ i, w.st.sessArr i =
    if i < n ∧ closes i = true then resetUdpSession (UInt16.ofNat i) else s.st.sessArr i
  log : w.log.map muted = s.log.map muted ++ (List.range n).flatMap reports

section Sweep

variable {s : Server} {closes : Nat → Bool} {reports : Nat → List Event} {n : Nat} {w w' : World}

theorem Swept.start {env : Env} (h : TableInv s.st) : Swept s closes reports 0 (s.world env) := by
  refine ⟨h, rfl, fun i => ?_, (List.append_nil _).symm⟩
  rw [if_neg fun hi => Nat.not_lt_zero i hi.1]
  rfl

theorem Swept.here (h : Swept s closes reports n w) : w.sess n = s.st.sessArr n :=
  (h.slots n).trans (if_neg fun hn => Nat.lt_irrefl n hn.1)

/-- INTERNAL: the next slot is left alone. -/
theorem Swept.leave (h : Swept s closes reports n w) (hn : closes n = false)
    (htable : TableInv w'.st) (hmax : w'.st.maxConn = w.st.maxConn)
    (harr : w'.st.sessArr = w.st.sessArr) (hlog : w'.log.map muted = w.log.map muted ++ reports n) :
    Swept s closes reports (n + 1) w' := by
  refine ⟨htable, hmax.trans h.maxConn, fun i => ?_, ?_⟩
  · rw [harr, h.slots i]
    refine if_congr ?_ rfl rfl
    constructor
    · exact fun hi => ⟨Nat.lt_succ_of_lt hi.1, hi.2⟩
    · rintro ⟨hi, hc⟩
      have hne : i ≠ n := by
        rintro rfl
        rw [hn] at hc
        cases hc
      exact ⟨by omega, hc⟩
  · rw [hlog, h.log, List.range_succ, List.flatMap_append, List.flatMap_singleton, List.append_assoc]

/-- INTERNAL: the next slot is closed. -/
theorem Swept.close (h : Swept s closes reports n w) (hn : closes n = true)
    (hc : (s.st.sessArr n).isConnected = true) (hreports : reports n = farewell n (s.st.sessArr n))
    (pkt : ScPkt) : Swept s closes reports (n + 1) ((Srv.closeSess pkt n).run exec w).2 := by
  have hhere := h.here
  obtain ⟨htable, hmax, harr, -, -, hlog⟩ := closeSess_effect h.table (by rw [hhere]; exact hc) pkt
  refine ⟨htable, hmax.trans h.maxConn, fun i => ?_, ?_⟩
  · rw [harr]
    by_cases hi : i = n
    · subst hi
      rw [Function.update_self, if_pos ⟨Nat.lt_succ_self _, hn⟩]
    · rw [Function.update_of_ne hi, h.slots i]
      refine if_congr (and_congr_left fun _ => ?_) rfl rfl
      omega
  · rw [hlog, h.log, hhere, ← hreports, List.range_succ, List.flatMap_append, List.flatMap_singleton,
      List.append_assoc]

end Sweep

/-! ## The scan of the reaper -/

/-- How long the session in slot `i` has been idle when the scan comes to it. -/
def idleTime (s : Server) (env : Env) (i : Nat) : Int := scanTime s env i - (s.st.sessArr i).lastAct

/-- The scan closes the session in slot `i`. -/
def expires (s : Server) (env : Env) (i : Nat) : Bool :=
  (s.st.sessArr i).isConnected && decide (timeoutOf (s.st.sessArr i) < idleTime s env i)

/-- What the scan sends to the session in slot `i`. -/
def scanReport (s : Server) (env : Env) (i : Nat) : List Event :=
  if expires s env i then farewell i (s.st.sessArr i)
  else if (s.st.sessArr i).isConnected ∧ (s.st.sessArr i).isAuthenticated then
    reminders i (s.st.sessArr i) (syncCount (idleTime s env i))
  else []

/-- INTERNAL: the check of an authenticated session, by how long it has been idle.
SOURCE: udp_epoll.c:1067-1103 -/
theorem run_zrChkAuth (pkt : ScPkt) (i : Nat) (idle : Int) (w : World) :
    ((Srv.zrChkAuth pkt i idle).run exec w).2 =
      if Srv.UDP_SESS_TIMEOUT_AUTH < idle then ((Srv.closeSess pkt i).run exec w).2
      else ((Srv.zrSendReqsyncs i (syncCount idle) pkt).run exec w).2 := by
  unfold Srv.zrChkAuth syncCount
  by_cases hlate : idle > Srv.UDP_SESS_TIMEOUT_AUTH
  · rw [if_pos hlate, if_pos hlate, Prog.run_bind]
    rfl
  rw [if_neg hlate, if_neg hlate]
  split
  · rfl
  split
  · rfl
  split
  · rfl
  split
  · rfl
  · rfl

/-- INTERNAL: the check of another session.
SOURCE: udp_epoll.c:1106-1113 -/
theorem run_zrChkNoAuth (pkt : ScPkt) (i : Nat) (idle : Int) (w : World) :
    ((Srv.zrChkNoAuth pkt i idle).run exec w).2 =
      if Srv.UDP_SESS_TIMEOUT_NO_AUTH < idle then ((Srv.closeSess pkt i).run exec w).2 else w := by
  unfold Srv.zrChkNoAuth
  split
  · rw [Prog.run_bind]
    rfl
  · rfl

/-- INTERNAL: the scan of a slot in use: one reading of the clock, and then the session is closed
or reminded.
SOURCE: udp_epoll.c:1120-1139 -/
theorem run_zrScanSlot (pkt : ScPkt) {i : Nat} {w : World} {t : Int}
    (hclock : Ticking t w.env.gettimeofday w.env.clock) (hc : (w.sess i).isConnected = true) :
    let w₁ : World := { w with env := { w.env with gettimeofday := w.env.gettimeofday.tail } }
    let idle := timeOf w.env - (w.sess i).lastAct
    ((Srv.zrScanSlot pkt i).run exec w).2 =
      if timeoutOf (w.sess i) < idle then ((Srv.closeSess pkt i).run exec w₁).2
      else if (w.sess i).isAuthenticated then
        ((Srv.zrSendReqsyncs i (syncCount idle) pkt).run exec w₁).2
      else w₁ := by
  intro w₁ idle
  have hread : (Srv.getUnixTime).run exec w = (some (timeOf w.env), w₁) := getUnixTime_of_ticking hclock
  have hload : (Srv.loadIsConnected i).run exec w = (true, w) := by
    rw [← hc]
    rfl
  unfold Srv.zrScanSlot timeoutOf
  rw [Prog.run_bind, hload]
  dsimp only
  rw [if_pos rfl, Prog.run_bind, hread, Prog.run_bind, Prog.run_bind]
  show ((if (w.sess i).isAuthenticated = true then Srv.zrChkAuth pkt i idle
    else Srv.zrChkNoAuth pkt i idle).run exec w₁).2 = _
  cases hauth : (w.sess i).isAuthenticated with
  | true =>
    rw [if_pos rfl, if_pos rfl, if_pos rfl]
    exact run_zrChkAuth pkt i idle w₁
  | false =>
    rw [if_neg Bool.false_ne_true, if_neg Bool.false_ne_true, if_neg Bool.false_ne_true]
    exact run_zrChkNoAuth pkt i idle w₁

theorem run_zrScanFrom_snoc (l : List Nat) (i : Nat) (pkt : ScPkt) (w : World) :
    (Srv.zrScanFrom (l ++ [i]) pkt).run exec w =
      (Srv.zrScanSlot ((Srv.zrScanFrom l pkt).run exec w).1 i).run exec
        ((Srv.zrScanFrom l pkt).run exec w).2 := by
  induction l generalizing pkt w with
  | nil =>
    rw [List.nil_append, run_zrScanFrom_cons]
    rfl
  | cons j l ih =>
    rw [List.cons_append, run_zrScanFrom_cons, ih, run_zrScanFrom_cons]

/-- The scan has come to the slot `n`, and the clock ticks on. -/
structure Scanning (s : Server) (env : Env) (n : Nat) (w : World) : Prop where
  swept : Swept s (expires s env) (scanReport s env) n w
  ticking : ∃ t, Ticking t w.env.gettimeofday w.env.clock
  clock : w.env.clock = env.clock
  gettimeofday : w.env.gettimeofday =
    env.gettimeofday.drop ((List.range n).countP fun i => (s.st.sessArr i).isConnected)

/-- INTERNAL: the scan of one slot. -/
theorem Scanning.step {s : Server} {env : Env} {n : Nat} {w : World} (h : Scanning s env n w)
    (pkt : ScPkt) : Scanning s env (n + 1) ((Srv.zrScanSlot pkt n).run exec w).2 := by
  obtain ⟨t, hclock⟩ := h.ticking
  have hhere := h.swept.here
  obtain ⟨hticking, hclk, hgtod, -⟩ := zrScanSlot_frame (j := n) pkt hclock
  have htime : timeOf w.env = scanTime s env n := by
    unfold timeOf scanTime
    rw [h.gettimeofday, h.clock]
  refine ⟨?_, hticking, hclk.trans h.clock, ?_⟩
  · cases hc : (s.st.sessArr n).isConnected with
    | false =>
      have hexp : expires s env n = false := by
        rw [expires, hc]
        rfl
      have hreport : scanReport s env n = [] := by
        rw [scanReport, hexp, hc]
        simp
      rw [run_zrScanSlot_free pkt (by rw [hhere]; exact hc)]
      exact h.swept.leave hexp h.swept.table rfl rfl (by rw [hreport, List.append_nil])
    | true =>
      have hexp : expires s env n =
          decide (timeoutOf (s.st.sessArr n) < idleTime s env n) := by
        rw [expires, hc, Bool.true_and]
      have hread : Swept s (expires s env) (scanReport s env) n
          { w with env := { w.env with gettimeofday := w.env.gettimeofday.tail } } :=
        ⟨h.swept.table, h.swept.maxConn, h.swept.slots, h.swept.log⟩
      rw [run_zrScanSlot pkt hclock (by rw [hhere]; exact hc), htime, hhere]
      show Swept s _ _ (n + 1) (if timeoutOf (s.st.sessArr n) < idleTime s env n then _ else _)
      split
      · next hlate =>
        have hclosed : expires s env n = true := by
          rw [hexp]
          exact decide_eq_true hlate
        exact hread.close hclosed hc (if_pos hclosed) pkt
      · next hearly =>
        have hopen : expires s env n = false := by
          rw [hexp]
          exact decide_eq_false hearly
        cases hauth : (s.st.sessArr n).isAuthenticated with
        | true =>
          have hreport : scanReport s env n =
              reminders n (s.st.sessArr n) (syncCount (idleTime s env n)) := by
            rw [scanReport, hopen, hc, hauth]
            simp
          rw [if_pos rfl]
          obtain ⟨htable, hlog⟩ := reqsyncs_effect n (syncCount (idleTime s env n)) pkt
            { w with env := { w.env with gettimeofday := w.env.gettimeofday.tail } }
          refine hread.leave hopen (hread.table.of_tableAndClock htable)
            (congrArg (fun x => x.1.1) htable) (congrArg (fun x => x.1.2.2.2.1) htable) ?_
          refine hlog.trans ?_
          rw [hreport, ← hhere]
          rfl
        | false =>
          have hreport : scanReport s env n = [] := by
            rw [scanReport, hopen, hauth]
            simp
          rw [if_neg Bool.false_ne_true]
          exact hread.leave hopen hread.table rfl rfl (by rw [hreport, List.append_nil])
  · have hconn : (w.sess n).isConnected = (s.st.sessArr n).isConnected := by rw [hhere]
    rw [hgtod, h.gettimeofday, hconn, List.drop_drop, List.range_succ, List.countP_append,
      List.countP_singleton]

/-- INTERNAL: the scan of the first `n` slots. -/
theorem scanning_range {s : Server} {env : Env} {t : Int} (h : TableInv s.st)
    (hclock : Ticking t env.gettimeofday env.clock) (pkt : ScPkt) (n : Nat) :
    Scanning s env n ((Srv.zrScanFrom (List.range n) pkt).run exec (s.world env)).2 := by
  induction n with
  | zero => exact ⟨Swept.start h, ⟨t, hclock⟩, rfl, rfl⟩
  | succ n ih =>
    rw [List.range_succ, run_zrScanFrom_snoc]
    exact ih.step _

/-- INTERNAL: the scan, with the case in which it does not begin: no session is open.
SOURCE: udp_epoll.c:1116-1139 -/
theorem reap_scanning {s : Server} {env : Env} {t : Int} (h : TableInv s.st)
    (hclock : Ticking t env.gettimeofday env.clock) :
    ∃ w, Scanning s env s.st.maxConn.toNat w ∧ (s.step env .reap).st.sessArr = w.st.sessArr ∧
      (s.step env .reap).log = w.log := by
  by_cases hzero : s.st.nOnSess = 0
  · have hskip : (Srv.zombieReaperDoScan s.st.maxConn s.zrPkt).run exec (s.world env) =
        (s.zrPkt, s.world env) := by
      have hload : Srv.loadNOnSess.run exec (s.world env) = (s.st.nOnSess, s.world env) := rfl
      unfold Srv.zombieReaperDoScan
      rw [Prog.run_bind, hload]
      dsimp only
      rw [if_pos hzero]
      rfl
    have hnone : ∀ i, (s.st.sessArr i).isConnected = false := by
      have hcount := h.nOnSess_eq
      rw [hzero] at hcount
      intro i
      by_contra hc
      have hc := Bool.eq_true_of_not_eq_false hc
      exact List.countP_eq_zero.mp hcount.symm i (List.mem_range.mpr (h.connected_lt i hc)) hc
    have hexp : ∀ i, expires s env i = false := by
      intro i
      rw [expires, hnone i]
      rfl
    have hswept : Swept s (expires s env) (scanReport s env) s.st.maxConn.toNat (s.world env) := by
      refine ⟨h, rfl, fun i => ?_, ?_⟩
      · rw [hexp i, if_neg fun hi => Bool.false_ne_true hi.2]
        rfl
      · rw [List.flatMap_eq_nil_iff.mpr, List.append_nil]
        · rfl
        · intro i _
          simp [scanReport, hexp, hnone]
    have hcount : ((List.range s.st.maxConn.toNat).countP fun i => (s.st.sessArr i).isConnected) = 0 :=
      List.countP_eq_zero.mpr fun i _ => by simp [hnone]
    refine ⟨s.world env, ⟨hswept, ⟨t, hclock⟩, rfl, by rw [hcount]; rfl⟩, ?_, ?_⟩
    · show ((Srv.zombieReaperDoScan s.st.maxConn s.zrPkt).run exec (s.world env)).2.st.sessArr = _
      rw [hskip]
    · show ((Srv.zombieReaperDoScan s.st.maxConn s.zrPkt).run exec (s.world env)).2.log = _
      rw [hskip]
  · have hrun : (Srv.zombieReaperDoScan s.st.maxConn s.zrPkt).run exec (s.world env) =
        (Srv.zrScanFrom (List.range s.st.maxConn.toNat) s.zrPkt).run exec (s.world env) := by
      have hload : Srv.loadNOnSess.run exec (s.world env) = (s.st.nOnSess, s.world env) := rfl
      unfold Srv.zombieReaperDoScan
      rw [Prog.run_bind, hload]
      dsimp only
      rw [if_neg hzero]
    refine ⟨_, scanning_range h hclock s.zrPkt s.st.maxConn.toNat, ?_, ?_⟩
    · rw [← hrun]
      rfl
    · rw [← hrun]
      rfl

/-- INTERNAL: **a scan of the reaper, slot by slot.** In every state of every run, at a clock that
does not fail and does not go back during the scan, and whatever becomes of the packets: the scan
resets exactly the slots whose session has been idle for longer than its timeout and leaves every
other slot as it was; and it reports, in the order of the slots, a CLOSE and the end of each session
that it closes and 7, 5, 3, 1 or no REQSYNC for each authenticated one that it does not.
SOURCE: udp_epoll.c:1035-1139 -/
theorem reap_exact {maxConn : UInt16} {dataDir : List UInt8} {o : ByteOrder} {pkt zrPkt : ScPkt}
    {s : Server}
    (h : Server.Reach (fun _ env _ => env.NoEbadmsg) (Server.boot maxConn dataDir o pkt zrPkt) s)
    {env : Env} {t : Int} (hclock : Ticking t env.gettimeofday env.clock) :
    (∀ i, (s.step env .reap).st.sessArr i =
      if expires s env i then resetUdpSession (UInt16.ofNat i) else s.st.sessArr i) ∧
    (s.step env .reap).log.map muted =
      s.log.map muted ++ (List.range maxConn.toNat).flatMap (scanReport s env) := by
  have htab : TableInv s.st := (reach_slotInv h {} (by simp [Env.NoEbadmsg])).table
  obtain ⟨w, hscan, hst, hlog⟩ := reap_scanning htab hclock
  rw [reach_maxConn h] at hscan
  refine ⟨fun i => ?_, by rw [hlog]; exact hscan.swept.log⟩
  rw [hst, hscan.swept.slots i]
  refine if_congr ⟨And.right, fun hexp => ⟨?_, hexp⟩⟩ rfl rfl
  rw [← reach_maxConn h]
  exact htab.connected_lt i ((Bool.and_eq_true _ _).mp hexp).1

/-- A client that has been silent for 80 seconds is reminded three times. -/
theorem reap_exact_reminded :
    ∃ s, Server.Reach (fun _ env _ => env.NoEbadmsg)
        (Server.boot 1 [] .little Server.zeroPkt Server.zeroPkt) s ∧
      (s.st.sessArr 0).isAuthenticated = true ∧
      (s.step { clock := 180 } .reap).log.map muted =
        s.log.map muted ++ reminders 0 (s.st.sessArr 0) 3 := by
  have h₀ : Server.Reach (fun _ env _ => env.NoEbadmsg)
    (Server.boot 1 [] .little Server.zeroPkt Server.zeroPkt) _ := .init
  have h₁ := h₀.step { clock := 100 } (.udp ⟨0x0a000001, 1000⟩ handshakeDatagram)
    (by simp [Env.NoEbadmsg])
  have h₂ := h₁.step { clock := 100, fopen := fun _ => some (userFile "10.5.0.2") }
    (.udp ⟨0x0a000001, 1000⟩ authDatagram) (by simp [Env.NoEbadmsg])
  have hscan := (@reap_exact 1 [] .little Server.zeroPkt Server.zeroPkt _ h₂ { clock := 180 } 0
    (show (0 : Int) ≤ 180 by decide)).2
  refine ⟨_, h₂, by decide +kernel, hscan.trans (congrArg (List.append _) ?_)⟩
  decide +kernel

/-! ## The shutdown -/

/-- What the shutdown sends to the session in slot `i`. -/
def shutdownReport (s : Server) (i : Nat) : List Event :=
  if (s.st.sessArr i).isConnected then farewell i (s.st.sessArr i) else []

theorem run_closeClientSessFrom_cons (i : Nat) (l : List Nat) (pkt : ScPkt) (w : World) :
    ((Srv.closeClientSessFrom (i :: l) pkt).run exec w).2 =
      if (w.sess i).isConnected then
        ((Srv.closeClientSessFrom l ((Srv.closeSess pkt i).run exec w).1.2).run exec
          ((Srv.closeSess pkt i).run exec w).2).2
      else ((Srv.closeClientSessFrom l pkt).run exec w).2 := by
  have hload : (Srv.loadIsConnected i).run exec w = ((w.sess i).isConnected, w) := rfl
  rw [Srv.closeClientSessFrom, Prog.run_bind, hload]
  dsimp only
  split
  · rw [Prog.run_bind]
    rfl
  · rfl

/-- INTERNAL: the shutdown, from the slot `n` on.
SOURCE: udp_epoll.c:1355-1370 -/
theorem swept_closeClientSessFrom {s : Server} (l : List Nat) {n : Nat} {w : World}
    (h : Swept s (fun i => (s.st.sessArr i).isConnected) (shutdownReport s) n w) (pkt : ScPkt) :
    Swept s (fun i => (s.st.sessArr i).isConnected) (shutdownReport s) (n + l.length)
      ((Srv.closeClientSessFrom (List.range' n l.length) pkt).run exec w).2 := by
  induction l generalizing n w pkt with
  | nil => exact h
  | cons j l ih =>
    have hhere := h.here
    rw [List.length_cons, List.range'_succ, run_closeClientSessFrom_cons, hhere,
      show n + (l.length + 1) = n + 1 + l.length by omega]
    split
    · next hc => exact ih (h.close hc hc (if_pos hc) pkt) _
    · next hc =>
      have hfree := Bool.eq_false_of_not_eq_true hc
      exact ih (h.leave hfree h.table rfl rfl (by rw [shutdownReport, if_neg hc, List.append_nil])) _

theorem shutdown_swept {s : Server} (env : Env) (h : TableInv s.st) :
    ∃ w, Swept s (fun i => (s.st.sessArr i).isConnected) (shutdownReport s) s.st.maxConn.toNat w ∧
      (s.step env .shutdown).st.sessArr = w.st.sessArr ∧ (s.step env .shutdown).log = w.log := by
  have hswept := swept_closeClientSessFrom (List.range s.st.maxConn.toNat)
    (show Swept s (fun i => (s.st.sessArr i).isConnected) (shutdownReport s) 0 (s.world env) from
      Swept.start h) s.pkt
  rw [List.length_range, Nat.zero_add, ← List.range_eq_range'] at hswept
  exact ⟨_, hswept, rfl, rfl⟩

/-- INTERNAL: **the shutdown, slot by slot.** In every state of every run, whatever becomes of the
packets: the shutdown sends a CLOSE to each session and ends it, in the order of the slots, and does
nothing else; then no session is open, every slot is on the free stack, the counter of the sessions
is zero and every node of the session map has been freed.
SOURCE: udp_epoll.c:1355-1370 -/
theorem shutdown_exact {maxConn : UInt16} {dataDir : List UInt8} {o : ByteOrder} {pkt zrPkt : ScPkt}
    {s : Server}
    (h : Server.Reach (fun _ env _ => env.NoEbadmsg) (Server.boot maxConn dataDir o pkt zrPkt) s)
    {env : Env} (henv : env.NoEbadmsg) :
    (s.step env .shutdown).log.map muted =
      s.log.map muted ++ (List.range maxConn.toNat).flatMap (shutdownReport s) ∧
    (∀ i, (s.step env .shutdown).st.sessArr i =
      if (s.st.sessArr i).isConnected then resetUdpSession (UInt16.ofNat i) else s.st.sessArr i) ∧
    (∀ i < maxConn.toNat, i ∈ freeSlots (s.step env .shutdown).st) ∧
    (s.step env .shutdown).st.nOnSess = 0 ∧
    ∀ a, (s.step env .shutdown).st.sessMap.mem (.node a) = none := by
  have hstep := h.step env .shutdown henv
  have htab : TableInv (s.step env .shutdown).st :=
    (reach_slotInv hstep {} (by simp [Env.NoEbadmsg])).table
  have hbefore : TableInv s.st := (reach_slotInv h {} (by simp [Env.NoEbadmsg])).table
  have hmax := reach_maxConn h
  have hmax' := reach_maxConn hstep
  obtain ⟨w, hswept, hst, hlog⟩ := shutdown_swept env hbefore
  have hslots : ∀ i, (s.step env .shutdown).st.sessArr i =
      if (s.st.sessArr i).isConnected then resetUdpSession (UInt16.ofNat i) else s.st.sessArr i := by
    intro i
    rw [hst, hswept.slots i]
    exact if_congr ⟨And.right, fun hc => ⟨hbefore.connected_lt i hc, hc⟩⟩ rfl rfl
  have hnone : ∀ i, ((s.step env .shutdown).st.sessArr i).isConnected = false := by
    intro i
    rw [hslots i]
    split
    · rfl
    · next hc => exact Bool.eq_false_of_not_eq_true hc
  refine ⟨by rw [hlog, hswept.log, hmax], hslots, ?_, ?_, no_nodes htab (reach_noLostBkt hstep) hnone⟩
  · intro i hi
    rw [← hmax'] at hi
    exact (htab.mem_free i).mpr ⟨hi, hnone i⟩
  · apply UInt16.toNat_inj.mp
    rw [htab.nOnSess_eq]
    exact List.countP_eq_zero.mpr fun i _ => by simp [hnone i]

/-- The shutdown of a server with one client. -/
theorem shutdown_exact_handshake :
    ∃ s, Server.Reach (fun _ env _ => env.NoEbadmsg)
        (Server.boot 1 [] .little Server.zeroPkt Server.zeroPkt) s ∧
      (s.st.sessArr 0).isConnected = true ∧ 0 ∈ freeSlots (s.step {} .shutdown).st := by
  have h₀ : Server.Reach (fun _ env _ => env.NoEbadmsg)
    (Server.boot 1 [] .little Server.zeroPkt Server.zeroPkt) _ := .init
  have h₁ := h₀.step {} (.udp ⟨0x0a000001, 1000⟩ handshakeDatagram) (by simp [Env.NoEbadmsg])
  exact ⟨_, h₁, by decide,
    (shutdown_exact h₁ (by simp [Env.NoEbadmsg])).2.2.1 0 (by decide)⟩

end TeaVpn2.Analysis
