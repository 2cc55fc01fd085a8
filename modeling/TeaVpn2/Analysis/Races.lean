import TeaVpn2.Analysis.SlotConservation

/-!
# The receiver and the reaper at the same time

The receiver and the zombie reaper share the session table. A mutex-protected section, an
access to a field of a session and a send are one step each; between two steps of a thread
the other may do anything (`Pool.Reach`).

Neither thread keeps the other from deleting the session it is working on: the reaper tests
`is_connected` and the idle time outside of any lock, and `delete_udp_session` tests
nothing. So both may delete the same session, and its slot is on the free stack twice
(`double_release`). This is the only thing that goes wrong: if no thread deletes a session
that the other works on, every session is released once (`released_once`).
-/

set_option autoImplicit false

namespace TeaVpn2.Analysis

open TeaVpn2 TeaVpn2.Lib

/-! ## The system -/

inductive Thread where
  | receiver
  | reaper
deriving DecidableEq, Repr

def Thread.other : Thread → Thread
  | .receiver => .reaper
  | .reaper => .receiver

/-- What is recorded of a run: the sessions created and deleted, and the timeout checks. -/
inductive Act where
  | created (i : Nat)
  | deleted (t : Thread) (i : Nat)
  | checked (t : Thread) (i : Nat)
deriving DecidableEq, Repr

def acts (t : Thread) : (o : Op) → o.Res → List Act
  | .createUdpSess _ _, (r : Except Int Nat) =>
      match r with
      | .ok i => [.created i]
      | .error _ => []
  | .deleteUdpSession i, _ => [.deleted t i]
  | .loadLastAct i, _ => [.checked t i]
  | _, _ => []

/-- The shared state, with the record. -/
structure Shared where
  w : World
  trace : List Act := []

def sharedExec (t : Thread) (o : Op) (s : Shared) : o.Res × Shared :=
  ((exec o s.w).1, { w := (exec o s.w).2, trace := s.trace ++ acts t o (exec o s.w).1 })

/-! ## What the reaper does -/

/-- Where the reaper is in its scan: it has read `last_act` of the slot `i`, or not. -/
inductive Scan where
  | receiver
  | idle
  | checked (i : Nat)
deriving DecidableEq, Repr

/-- The reaper neither looks up nor creates sessions, leaves the counters alone, and
deletes a session only after its timeout check. The receiver may do anything. -/
def scanGuard : Scan → Op → Prop
  | .receiver, _ => True
  | _, .lookupUdpSess _ _ => False
  | _, .createUdpSess _ _ => False
  | _, .incLoopC _ => False
  | u, .deleteUdpSession i => u = .checked i
  | _, _ => True

def scanNext : Scan → Op → Scan
  | .receiver, _ => .receiver
  | _, .loadIsConnected _ => .idle
  | _, .loadLastAct i => .checked i
  | u, _ => u

def scanProtocol : Protocol Op Op.Res Scan where
  guard := scanGuard
  ok _ _ _ := True
  next u o _ := scanNext u o

theorem receiver_conforms {α : Type} (p : Srv α) :
    Conforms scanProtocol p .receiver fun _ u => u = .receiver := by
  induction p with
  | pure a => exact rfl
  | op o k ih => exact ⟨trivial, fun r _ => ih r⟩

theorem closeSess_scan (pkt : ScPkt) (i : Nat) :
    Conforms scanProtocol (Srv.closeSess pkt i) (.checked i) fun _ u => u = .checked i := by
  unfold Srv.closeSess
  refine ⟨trivial, fun (ipv4Iff : UInt32) _ => ?_⟩
  dsimp only [Prog.bind]
  split
  · exact ⟨trivial, fun _ _ => ⟨trivial, fun _ _ => ⟨rfl, fun _ _ => rfl⟩⟩⟩
  · exact ⟨trivial, fun _ _ => ⟨rfl, fun _ _ => rfl⟩⟩

theorem zrSendReqsyncs_scan (i n : Nat) (pkt : ScPkt) :
    Conforms scanProtocol (Srv.zrSendReqsyncs i n pkt) (.checked i) fun _ u => u = .checked i := by
  induction n generalizing pkt with
  | zero => exact rfl
  | succ n ih =>
    unfold Srv.zrSendReqsyncs Srv.zrSendReqsync
    rw [Conforms.bind_iff]
    exact ⟨trivial, fun _ _ => ih _⟩

theorem zrClose_scan (pkt : ScPkt) (i : Nat) :
    Conforms scanProtocol
      (do
        let (_, pkt) ← Srv.zrCloseSess pkt i
        pure pkt : Srv ScPkt) (.checked i) fun _ u => u ≠ .receiver := by
  rw [Conforms.bind_iff]
  refine (closeSess_scan pkt i).mono fun _ u h => ?_
  show u ≠ .receiver
  rw [h]
  simp

/-- INTERNAL: the reaper deletes the session whose timeout it has just checked.
SOURCE: udp_epoll.c:1049-1139 -/
theorem zrScanSlot_scan (pkt : ScPkt) (i : Nat) {u : Scan} (hu : u ≠ .receiver) :
    Conforms scanProtocol (Srv.zrScanSlot pkt i) u fun _ u' => u' ≠ .receiver := by
  have hreq : ∀ n, Conforms scanProtocol (Srv.zrSendReqsyncs i n pkt) (.checked i)
      fun _ u' => u' ≠ .receiver := by
    intro n
    refine (zrSendReqsyncs_scan i n pkt).mono fun _ u' h => ?_
    rw [h]
    simp
  have hidle : Scan.idle ≠ .receiver := by simp
  have hdone : Scan.checked i ≠ .receiver := by simp
  unfold Srv.zrScanSlot
  cases u with
  | receiver => exact absurd rfl hu
  | idle | checked j =>
    refine ⟨trivial, fun (conn : Bool) _ => ?_⟩
    cases conn with
    | false => exact hidle
    | true =>
      refine ⟨trivial, fun now _ => ⟨trivial, fun lastAct _ => ⟨trivial, fun (auth : Bool) _ => ?_⟩⟩⟩
      cases auth with
      | false =>
        show Conforms scanProtocol (Srv.zrChkNoAuth _ _ _) (.checked i) _
        unfold Srv.zrChkNoAuth
        split
        · exact zrClose_scan pkt i
        · exact hdone
      | true =>
        show Conforms scanProtocol (Srv.zrChkAuth _ _ _) (.checked i) _
        unfold Srv.zrChkAuth
        split
        · exact zrClose_scan pkt i
        split
        · exact hreq 7
        split
        · exact hreq 5
        split
        · exact hreq 3
        split
        · exact hreq 1
        · exact hdone

theorem zombieReaperDoScan_scan (maxConn : UInt16) (pkt : ScPkt) :
    Conforms scanProtocol (Srv.zombieReaperDoScan maxConn pkt) .idle fun _ u => u ≠ .receiver := by
  have hfrom : ∀ (l : List Nat) (pkt : ScPkt) (u : Scan), u ≠ .receiver →
      Conforms scanProtocol (Srv.zrScanFrom l pkt) u fun _ u' => u' ≠ .receiver := by
    intro l
    induction l with
    | nil => exact fun pkt u hu => hu
    | cons i l ih =>
      intro pkt u hu
      unfold Srv.zrScanFrom
      rw [Conforms.bind_iff]
      exact (zrScanSlot_scan pkt i hu).mono fun pkt' u' hu' => ih pkt' u' hu'
  unfold Srv.zombieReaperDoScan
  refine ⟨trivial, fun (n : UInt16) _ => ?_⟩
  dsimp only [Prog.bind]
  have hidle : scanProtocol.next .idle .loadNOnSess n ≠ .receiver := by
    show Scan.idle ≠ .receiver
    simp
  split
  · exact hidle
  · exact hfrom _ _ _ hidle

/-! ## The pool -/

/-- A handler whose result is dropped. -/
def discard {α : Type} (p : Srv α) : Srv Unit := p >>= fun _ => pure ()

/-- What the threads are given to do: the receiver a datagram or a packet of the TUN
device, with whatever its buffer holds, the reaper a scan. -/
inductive Job (maxConn : UInt16) (o : ByteOrder) : Thread → Srv Unit → Ghost × Scan → Prop where
  | udp (pkt : ScPkt) (saddr : Endpoint) (data : List UInt8) :
      Job maxConn o .receiver (discard (Srv.handleEventFromUdp o pkt saddr data))
        ({ src := saddr, pkt := Srv.doRecvFrom pkt data, hold := .start }, .receiver)
  | tun (pkt : ScPkt) (data : List UInt8) :
      Job maxConn o .receiver (discard (Srv.handleEventFromTun maxConn pkt data))
        ({ src := ⟨0, 0⟩, pkt := Server.zeroPkt }, .receiver)
  | scan (pkt : ScPkt) :
      Job maxConn o .reaper (discard (Srv.zombieReaperDoScan maxConn pkt))
        ({ src := ⟨0, 0⟩, pkt := Server.zeroPkt }, .idle)

/-- The two threads. The outside world may change what the system calls will answer. A
thread lets go of a session by forgetting what it knows of it. -/
def raceSystem (maxConn : UInt16) (o : ByteOrder) : System Thread Op Op.Res (Ghost × Scan) Shared where
  proto := sessionProtocol.prod scanProtocol
  exec := sharedExec
  Job := Job maxConn o
  Drift s s' := ∃ env : Env, env.NoEbadmsg ∧ s' = { s with w := { s.w with env := env } }
  Rest g := g.1.hold.Rest
  Lets g g' := g' = (g.1.to .idle, g.2)

abbrev RacePool := Pool Thread Op Op.Res (Ghost × Scan) Shared

/-- The server has started and both threads wait. -/
def bootPool (maxConn : UInt16) (dataDir : List UInt8) (o : ByteOrder) : RacePool where
  state := { w := { st := initState maxConn dataDir o } }
  prog _ := pure ()
  ghost
    | .receiver => ({ src := ⟨0, 0⟩, pkt := Server.zeroPkt }, .receiver)
    | .reaper => ({ src := ⟨0, 0⟩, pkt := Server.zeroPkt }, .idle)

/-- The condition on a step: no session is deleted that the other thread works on. -/
def exclusive (c : RacePool) (t : Thread) : Op → Bool
  | .deleteUdpSession i => (c.ghost t.other).1.hold.slot != some i
  | _ => true

/-! ## The property -/

def Act.deletes (i : Nat) : Act → Bool
  | .deleted _ j => j == i
  | _ => false

/-- In the record `l`, the reaper has checked the timeout of slot `i` and no session was
created there since. -/
def CheckedSince (l : List Act) (i : Nat) : Prop :=
  ∃ a b, l = a ++ .checked .reaper i :: b ∧ .created i ∉ b

/-- Every session is released at most once, a slot is handed out only when it has been
released, the free stack has no slot twice, and the reaper deletes only sessions that it
has checked. -/
structure ReleasedOnce (s : Shared) : Prop where
  once : ∀ i, s.trace.countP (Act.deletes i) ≤ s.trace.count (.created i)
  alone : ∀ i, s.trace.count (.created i) ≤ s.trace.countP (Act.deletes i) + 1
  free : (freeSlots s.w.st).Nodup
  checked : ∀ a i b, s.trace = a ++ .deleted .reaper i :: b → CheckedSince a i

/-! ## What one thread does to the other -/

/-- INTERNAL: every operation but creating and deleting leaves the table alone. -/
theorem exec_table (o : Op) (w : World) (hcreate : ∀ addr port, o ≠ .createUdpSess addr port)
    (hdelete : ∀ i, o ≠ .deleteUdpSession i) (j : Nat) :
    ((exec o w).2.st.sessArr j).isConnected = (w.st.sessArr j).isConnected ∧
    ((exec o w).2.st.sessArr j).key = (w.st.sessArr j).key ∧
    ((∀ i, o ≠ .incLoopC i) → ((exec o w).2.st.sessArr j).loopC = (w.st.sessArr j).loopC) := by
  have hset : ∀ (i : Nat) (f : UdpSess → UdpSess),
      (∀ s, (f s).isConnected = s.isConnected ∧ (f s).key = s.key ∧ (f s).loopC = s.loopC) →
      ((w.setSess i f).st.sessArr j).isConnected = (w.st.sessArr j).isConnected ∧
      ((w.setSess i f).st.sessArr j).key = (w.st.sessArr j).key ∧
      ((w.setSess i f).st.sessArr j).loopC = (w.st.sessArr j).loopC := by
    intro i f hf
    by_cases hj : j = i
    · subst hj
      simpa [World.setSess] using hf (w.st.sessArr j)
    · simp [World.setSess, hj]
  have hkeep : ∀ {a b : Prop}, (a ∧ b ∧ ((exec o w).2.st.sessArr j).loopC = (w.st.sessArr j).loopC) →
      a ∧ b ∧ ((∀ i, o ≠ .incLoopC i) →
        ((exec o w).2.st.sessArr j).loopC = (w.st.sessArr j).loopC) :=
    fun h => ⟨h.1, h.2.1, fun _ => h.2.2⟩
  cases o with
  | createUdpSess addr port => exact absurd rfl (hcreate addr port)
  | deleteUdpSession i => exact absurd rfl (hdelete i)
  | storeAddr i saddr => exact hkeep (hset i _ fun s => ⟨rfl, rfl, rfl⟩)
  | storeIpv4Iff i addr => exact hkeep (hset i _ fun s => ⟨rfl, rfl, rfl⟩)
  | storeIsAuthenticated i => exact hkeep (hset i _ fun s => ⟨rfl, rfl, rfl⟩)
  | storeUsername i username => exact hkeep (hset i _ fun s => ⟨rfl, rfl, rfl⟩)
  | updateLastAct i =>
    obtain ⟨gtod, t, _, heq⟩ := udpSessUpdateLastAct_eq w i
    apply hkeep
    simp only [exec, heq]
    exact hset i (fun s => { s with lastAct := t }) fun s => ⟨rfl, rfl, rfl⟩
  | incLoopC i =>
    refine ⟨?_, ?_, fun hne => absurd rfl (hne i)⟩
    · by_cases hj : j = i
      · subst hj; simp [exec, World.setSess]
      · simp [exec, World.setSess, hj]
    · by_cases hj : j = i
      · subst hj; simp [exec, World.setSess, UdpSess.key]
      · simp [exec, World.setSess, hj]
  | getUnixTime =>
    obtain ⟨r, gtod, heq⟩ := getUnixTime_eq w
    simp [exec, heq]
  | send i data =>
    obtain ⟨_, _, _, _, _, _, _, heq⟩ := sendToClient_spec w i data
    simp [exec, heq]
  | writeTun i data =>
    obtain ⟨_, _, _, _, _, _, _, heq⟩ := writeTun_spec w i data
    simp [exec, heq]
  | _ => exact ⟨rfl, rfl, fun _ => rfl⟩

/-- INTERNAL: a session stays connected until it is deleted. -/
theorem exec_connected {w : World} {g : Ghost} {o : Op} (hw : SlotInv w g.hold) (hg : opGuard g o)
    {i : Nat} (hc : (w.st.sessArr i).isConnected = true) (hdelete : o ≠ .deleteUdpSession i) :
    ((exec o w).2.st.sessArr i).isConnected = true := by
  by_cases hcre : ∃ addr port, o = .createUdpSess addr port
  · obtain ⟨addr, port, rfl⟩ := hcre
    -- only the slot that was free has changed
    have hne : ∀ j, j ∈ freeSlots w.st → i ≠ j := by
      rintro j hj rfl
      rw [((hw.table.mem_free i).mp hj).2] at hc
      cases hc
    rcases createUdpSess_spec hw.table (hw.absent _ hg) with ⟨_, heq⟩ |
      ⟨j, _, _, st', _, hin, hst, heq, _⟩ | ⟨j, _, _, _, _, _, st', _, _, hin, hst, heq, _⟩
    · simp only [exec, heq]
      exact hc
    · simp only [exec, heq, hst, Function.update_of_ne (hne j hin)]
      exact hc
    · simp only [exec, heq, hst, Function.update_of_ne (hne j hin)]
      exact hc
  · by_cases hdel : ∃ j, o = .deleteUdpSession j
    · obtain ⟨j, rfl⟩ := hdel
      have hij : i ≠ j := by
        rintro rfl
        exact hdelete rfl
      have hcj := hw.held j (by rw [show g.hold = _ from hg]; rfl)
      obtain ⟨_, _, st', _, hst, heq, _⟩ := deleteUdpSession_spec hw.table hcj
      simp only [exec, heq, hst, Function.update_of_ne hij]
      exact hc
    · rw [(exec_table o w (fun a p h => hcre ⟨a, p, h⟩) (fun j h => hdel ⟨j, h⟩) i).1]
      exact hc

/-- INTERNAL: a session that is connected was connected before, if none was created. -/
theorem exec_connected_of {w : World} {g : Ghost} {o : Op} (hw : SlotInv w g.hold)
    (hg : opGuard g o) (hcreate : ∀ addr port, o ≠ .createUdpSess addr port) {i : Nat}
    (hc : ((exec o w).2.st.sessArr i).isConnected = true) :
    (w.st.sessArr i).isConnected = true ∧
      ((exec o w).2.st.sessArr i).key = (w.st.sessArr i).key := by
  by_cases hdel : ∃ j, o = .deleteUdpSession j
  · obtain ⟨j, rfl⟩ := hdel
    have hcj := hw.held j (by rw [show g.hold = _ from hg]; rfl)
    obtain ⟨_, _, st', _, hst, heq, _⟩ := deleteUdpSession_spec hw.table hcj
    simp only [exec, heq, hst] at hc ⊢
    have hij : i ≠ j := by
      rintro rfl
      simp [resetUdpSession] at hc
    simpa [Function.update_of_ne hij] using hc
  · have ht := exec_table o w hcreate (fun j h => hdel ⟨j, h⟩) i
    rw [ht.1] at hc
    exact ⟨hc, ht.2.1⟩

/-- INTERNAL: **what an operation of one thread leaves to the other.** -/
theorem slotInv_other {w : World} {g : Ghost} {o : Op} {h : Hold} (hw : SlotInv w g.hold)
    (hg : opGuard g o) (hh : SlotInv w h)
    (hdelete : ∀ i, o = .deleteUdpSession i → h.slot ≠ some i)
    (hcreate : ∀ addr port, o = .createUdpSess addr port →
      (∀ k, h ≠ .absent k) ∧ ∀ i, h ≠ .dead i)
    (hinc : ∀ i, o = .incLoopC i → ∀ j, h ≠ .dead j) : SlotInv (exec o w).2 h := by
  obtain ⟨_, hnew⟩ := slotInv_exec o hw hg
  refine ⟨hnew.table, hnew.kernel, hnew.noBug, hnew.clean, ?_, ?_, ?_⟩
  · intro i hi
    exact exec_connected hw hg (hh.held i hi) fun he => hdelete i he hi
  · intro k hk i hc
    obtain ⟨hc', hkey⟩ := exec_connected_of hw hg (fun a p he => (hcreate a p he).1 k hk) hc
    rw [hkey]
    exact hh.absent k hk i hc'
  · intro i hi
    obtain ⟨hdisc, hloop⟩ := hh.dead i hi
    have hcre : ∀ a p, o ≠ .createUdpSess a p := fun a p he => (hcreate a p he).2 i hi
    by_cases hdel : ∃ j, o = .deleteUdpSession j
    · obtain ⟨j, rfl⟩ := hdel
      have hcj := hw.held j (by rw [show g.hold = _ from hg]; rfl)
      have hij : i ≠ j := by
        rintro rfl
        rw [hdisc] at hcj
        cases hcj
      obtain ⟨_, _, st', _, hst, heq, _⟩ := deleteUdpSession_spec hw.table hcj
      simp only [exec, heq, hst, Function.update_of_ne hij]
      exact ⟨hdisc, hloop⟩
    · obtain ⟨h₁, _, h₂⟩ := exec_table o w hcre (fun j he => hdel ⟨j, he⟩) i
      rw [h₁, h₂ fun j he => hinc j he i hi]
      exact ⟨hdisc, hloop⟩

/-! ## The invariant -/

/-- A session the reaper has deleted may be in use again: it knows nothing of it. -/
def settle : Hold → Hold
  | .dead _ => .idle
  | h => h

theorem settle_of_ne {h : Hold} (hne : ∀ i, h ≠ .dead i) : settle h = h := by
  cases h with
  | dead i => exact absurd rfl (hne i)
  | _ => rfl

theorem settle_ne_dead (h : Hold) (i : Nat) : settle h ≠ .dead i := by
  cases h <;> simp [settle]

theorem settle_slot (h : Hold) : (settle h).slot = h.slot := by
  cases h <;> rfl

theorem SlotInv.settle {w : World} {h : Hold} (hw : SlotInv w h) : SlotInv w (settle h) := by
  cases h with
  | dead i => exact hw.rehold_free rfl (by simp [Analysis.settle]) (by simp [Analysis.settle])
  | _ => exact hw

/-- INTERNAL: the invariant of the two threads and of the record. -/
structure RaceInv (s : Shared) (gs : Thread → Ghost × Scan) : Prop where
  receiver : SlotInv s.w (gs .receiver).1.hold
  reaper : SlotInv s.w (settle (gs .reaper).1.hold)
  role : (gs .receiver).2 = .receiver ∧ (gs .reaper).2 ≠ .receiver
  noLookup : (∀ k, (gs .reaper).1.hold ≠ .absent k) ∧ (gs .reaper).1.hold ≠ .start
  balance : ∀ i, s.trace.count (.created i) = s.trace.countP (Act.deletes i) +
    if (s.w.st.sessArr i).isConnected then 1 else 0
  since : ∀ i, (gs .reaper).1.hold.slot = some i → (gs .reaper).2 = .checked i →
    CheckedSince s.trace i
  checked : ∀ a i b, s.trace = a ++ .deleted .reaper i :: b → CheckedSince a i

theorem RaceInv.releasedOnce {s : Shared} {gs : Thread → Ghost × Scan} (h : RaceInv s gs) :
    ReleasedOnce s := by
  refine ⟨fun i => ?_, fun i => ?_, h.receiver.table.free_nodup, h.checked⟩
  · rw [h.balance i]
    omega
  · rw [h.balance i]
    split <;> omega

/-- INTERNAL: the record stays balanced: a session that is created was not connected, one
that is deleted was. -/
theorem balance_exec {s : Shared} {g : Ghost} {o : Op} (t : Thread) (hw : SlotInv s.w g.hold)
    (hg : opGuard g o)
    (h : ∀ i, s.trace.count (.created i) = s.trace.countP (Act.deletes i) +
      if (s.w.st.sessArr i).isConnected then 1 else 0) (i : Nat) :
    (sharedExec t o s).2.trace.count (.created i) =
      (sharedExec t o s).2.trace.countP (Act.deletes i) +
        if ((sharedExec t o s).2.w.st.sessArr i).isConnected then 1 else 0 := by
  have hi := h i
  by_cases hcre : ∃ addr port, o = .createUdpSess addr port
  · obtain ⟨addr, port, rfl⟩ := hcre
    rcases createUdpSess_spec hw.table (hw.absent _ hg) with ⟨_, heq⟩ |
      ⟨j, _, _, st', _, hin, hst, heq, _⟩ | ⟨j, _, _, _, _, _, st', _, _, hin, hst, heq, _⟩
    · simp only [sharedExec, exec, heq, acts, List.append_nil]
      exact hi
    · simp only [sharedExec, exec, heq, acts, List.append_nil, hst]
      by_cases hij : i = j
      · subst hij
        simpa using hi
      · simpa [hij] using hi
    · have hdisc := ((hw.table.mem_free j).mp hin).2
      simp only [sharedExec, exec, heq, acts, hst, List.count_append, List.countP_append,
        List.count_singleton, List.countP_singleton, Act.deletes, Bool.false_eq_true, if_false]
      by_cases hij : i = j
      · subst hij
        rw [hdisc] at hi
        simp only [Function.update_self, createdSess]
        simp at hi ⊢
        omega
      · have hne : ¬j = i := fun e => hij e.symm
        simpa [hij, hne] using hi
  · by_cases hdel : ∃ j, o = .deleteUdpSession j
    · obtain ⟨j, rfl⟩ := hdel
      have hcj := hw.held j (by rw [show g.hold = _ from hg]; rfl)
      obtain ⟨_, _, st', _, hst, heq, _⟩ := deleteUdpSession_spec hw.table hcj
      simp only [sharedExec, exec, heq, acts, hst, List.count_append, List.countP_append,
        List.count_singleton, List.countP_singleton, Act.deletes]
      by_cases hij : i = j
      · subst hij
        rw [hcj] at hi
        simp only [Function.update_self, resetUdpSession]
        simp at hi ⊢
        omega
      · have hne : ¬j = i := fun e => hij e.symm
        simpa [hij, hne] using hi
    · have ht := (exec_table o s.w (fun a p e => hcre ⟨a, p, e⟩) (fun j e => hdel ⟨j, e⟩) i).1
      have hacts : (acts t o (exec o s.w).1).count (.created i) = 0 ∧
          (acts t o (exec o s.w).1).countP (Act.deletes i) = 0 := by
        cases o with
        | createUdpSess addr port => exact absurd ⟨addr, port, rfl⟩ hcre
        | deleteUdpSession j => exact absurd ⟨j, rfl⟩ hdel
        | loadLastAct j => simp [acts, Act.deletes]
        | _ => exact ⟨rfl, rfl⟩
      simp only [sharedExec, List.count_append, List.countP_append, hacts.1, hacts.2, ht]
      exact hi

/-- INTERNAL: only the lookup leaves a thread with an endpoint that has no session. -/
theorem opNext_noLookup {g : Ghost} {o : Op} (hg : opGuard g o) (r : o.Res)
    (hlookup : ∀ addr port, o ≠ .lookupUdpSess addr port)
    (h : (∀ k, g.hold ≠ .absent k) ∧ g.hold ≠ .start) :
    (∀ k, opNext g.hold o r ≠ .absent k) ∧ opNext g.hold o r ≠ .start := by
  cases o with
  | lookupUdpSess addr port => exact absurd rfl (hlookup addr port)
  | createUdpSess addr port => exact absurd hg (h.1 _)
  | loadIsConnected j => simp only [opNext]; split <;> simp
  | loadIsAuthenticated j =>
    simp only [opNext]
    split
    · split <;> simp
    · split
      · split <;> simp
      · split <;> simp
  | incLoopC j => rcases hg with hg | hg | hg <;> rw [hg] <;> simp [opNext]
  | addRoute addr idx =>
    obtain ⟨j, hg, _⟩ := hg
    simp [hg, opNext]
  | delRoute addr =>
    obtain ⟨_, j, hg⟩ := hg
    simp [hg, opNext]
  | getRoute addr =>
    rw [show g.hold = _ from hg]
    simp only [opNext]
    split <;> simp
  | send j data =>
    have hs : sendGuard g j (kindOf data) := hg
    refine ⟨(sendNext_slot hs r).2.1, ?_⟩
    simp only [opNext]
    cases hk : kindOf data with
    | none => exact h.2
    | some kind =>
      rw [hk] at hs
      cases kind with
      | handshake => simp only [sendNext]; split <;> simp
      | authOk =>
        obtain ⟨addr, hs⟩ := hs
        simp only [sendNext, hs]
        split <;> simp
      | handshakeReject => simp [sendNext]
      | authReject => simp [sendNext]
      | close => simp [sendNext]
      | _ => exact h.2
  | auth j username password =>
    simp only [opNext]
    split <;> simp
  | deleteUdpSession j => simp [opNext]
  | loadIpv4Iff j => simp [opNext]
  | storeAddr j saddr => simp [opNext]
  | storeIpv4Iff j addr => simp [opNext]
  | storeIsAuthenticated j => simp [opNext]
  | _ => exact h

theorem CheckedSince.append {l l' : List Act} {i : Nat} (h : CheckedSince l i)
    (hl' : .created i ∉ l') : CheckedSince (l ++ l') i := by
  obtain ⟨a, b, rfl, hb⟩ := h
  refine ⟨a, b ++ l', by simp, ?_⟩
  intro hin
  rcases List.mem_append.mp hin with hin | hin
  · exact hb hin
  · exact hl' hin

/-- INTERNAL: the deletions of the reaper in a longer record. -/
theorem checked_append {l l' : List Act}
    (h : ∀ a i b, l = a ++ .deleted .reaper i :: b → CheckedSince a i)
    (hl' : l' = [] ∨ ∃ x, l' = [x] ∧ ∀ i, x = .deleted .reaper i → CheckedSince l i)
    (a : List Act) (i : Nat) (b : List Act) (hab : l ++ l' = a ++ .deleted .reaper i :: b) :
    CheckedSince a i := by
  rcases hl' with rfl | ⟨x, rfl, hx⟩
  · exact h a i b (by simpa using hab)
  · rcases List.eq_nil_or_concat b with rfl | ⟨b', y, rfl⟩
    · obtain ⟨rfl, he⟩ := List.append_inj' hab rfl
      cases he
      exact hx i rfl
    · rw [List.concat_eq_append, ← List.cons_append, ← List.append_assoc] at hab
      exact h a i b' (List.append_inj' hab rfl).1

/-- INTERNAL: an operation is recorded once, and a creation only of a slot that was free. -/
theorem acts_spec {w : World} {g : Ghost} {o : Op} (t : Thread) (hw : SlotInv w g.hold)
    (hg : opGuard g o) :
    (acts t o (exec o w).1 = [] ∨ ∃ x, acts t o (exec o w).1 = [x] ∧
      ∀ t' i, x = .deleted t' i → t' = t ∧ o = .deleteUdpSession i) ∧
    ∀ i, (w.st.sessArr i).isConnected = true → .created i ∉ acts t o (exec o w).1 := by
  cases o with
  | createUdpSess addr port =>
    rcases createUdpSess_spec hw.table (hw.absent _ hg) with ⟨_, heq⟩ |
      ⟨j, _, _, st', _, hin, hst, heq, _⟩ | ⟨j, _, _, _, _, _, st', _, _, hin, hst, heq, _⟩
    · simp [exec, heq, acts]
    · simp [exec, heq, acts]
    · simp only [exec, heq, acts]
      refine ⟨.inr ⟨.created j, rfl, by simp⟩, fun i hc hmem => ?_⟩
      have hij : i = j := by simpa using hmem
      rw [hij, ((hw.table.mem_free j).mp hin).2] at hc
      cases hc
  | deleteUdpSession i =>
    refine ⟨.inr ⟨.deleted t i, rfl, ?_⟩, fun j _ => by simp [acts]⟩
    rintro t' j ⟨rfl, rfl⟩
    exact ⟨rfl, rfl⟩
  | loadLastAct i => exact ⟨.inr ⟨.checked t i, rfl, by simp⟩, fun j _ => by simp [acts]⟩
  | _ => exact ⟨.inl rfl, fun _ _ => by simp [acts]⟩

/-- INTERNAL: a step of the receiver. -/
theorem raceInv_receiver {c : RacePool} {o : Op} (hJ : RaceInv c.state c.ghost)
    (hg : opGuard (c.ghost .receiver).1 o) (hx : exclusive c .receiver o = true) (u : Scan)
    (hu : u = .receiver) :
    opOk (c.ghost .receiver).1 o (exec o c.state.w).1 ∧
    RaceInv (sharedExec .receiver o c.state).2 (Function.update c.ghost .receiver
      ((c.ghost .receiver).1.to (opNext (c.ghost .receiver).1.hold o (exec o c.state.w).1), u)) := by
  obtain ⟨hok, hown⟩ := slotInv_exec o hJ.receiver hg
  obtain ⟨hone, hfree⟩ := acts_spec .receiver hJ.receiver hg
  have hother : SlotInv (exec o c.state.w).2 (settle (c.ghost .reaper).1.hold) := by
    refine slotInv_other hJ.receiver hg hJ.reaper ?_ ?_ fun _ _ => settle_ne_dead _
    · rintro i rfl
      rw [settle_slot]
      simpa [exclusive, Thread.other] using hx
    · refine fun _ _ _ => ⟨fun k hk => ?_, settle_ne_dead _⟩
      have habs := hJ.noLookup.1 k
      cases hh : (c.ghost .reaper).1.hold with
      | absent k' =>
        rw [hh] at hk habs
        exact habs hk
      | dead j =>
        rw [hh] at hk
        cases hk
      | _ =>
        rw [hh] at hk
        cases hk
  refine ⟨hok, ?_⟩
  refine ⟨hown, hother, ⟨hu, hJ.role.2⟩, hJ.noLookup, balance_exec .receiver hJ.receiver hg hJ.balance,
    ?_, ?_⟩
  · intro i hslot hscan
    have hslot' : (c.ghost .reaper).1.hold.slot = some i := hslot
    apply (hJ.since i hslot' hscan).append
    exact hfree i (hJ.reaper.held i (by rw [settle_slot]; exact hslot'))
  · apply checked_append hJ.checked
    rcases hone with hnil | ⟨x, hx', hdel⟩
    · exact .inl hnil
    · refine .inr ⟨x, hx', fun i hi => ?_⟩
      cases (hdel _ _ hi).1

/-- INTERNAL: what a thread may do after it has deleted a session. -/
theorem guard_of_dead {g : Ghost} {o : Op} {i : Nat} (hg : opGuard g o) (hh : g.hold = .dead i) :
    (∃ j, o = .incLoopC j) ∨ (∃ j, o = .loadIsConnected j) ∨ o = .getUnixTime ∨
      o = .loadNOnSess ∨ o = .loadRejMsg := by
  cases o with
  | incLoopC j => exact .inl ⟨j, rfl⟩
  | loadIsConnected j => exact .inr (.inl ⟨j, rfl⟩)
  | getUnixTime => exact .inr (.inr (.inl rfl))
  | loadNOnSess => exact .inr (.inr (.inr (.inl rfl)))
  | loadRejMsg => exact .inr (.inr (.inr (.inr rfl)))
  | send j data =>
    have hs : sendGuard g j (kindOf data) := hg
    cases hk : kindOf data with
    | none =>
      rw [hk] at hs
      exact hs.elim
    | some kind =>
      rw [hk] at hs
      cases kind <;> simp [sendGuard, hh] at hs
  | _ => simp [opGuard, hh] at hg

theorem scanGuard_reaper {u : Scan} {o : Op} (hu : u ≠ .receiver) (hs : scanGuard u o) :
    (∀ addr port, o ≠ .lookupUdpSess addr port) ∧ (∀ i, o ≠ .incLoopC i) ∧
      ∀ i, o = .deleteUdpSession i → u = .checked i := by
  refine ⟨?_, ?_, ?_⟩
  · rintro addr port rfl
    cases u <;> simp_all [scanGuard]
  · rintro i rfl
    cases u <;> simp_all [scanGuard]
  · rintro i rfl
    cases u <;> simp_all [scanGuard]

theorem scanNext_reaper {u : Scan} (o : Op) (hu : u ≠ .receiver) :
    scanNext u o ≠ .receiver ∧ ∀ i, scanNext u o = .checked i →
      o = .loadLastAct i ∨ u = .checked i ∧ ∀ j, o ≠ .loadIsConnected j := by
  cases u with
  | receiver => exact absurd rfl hu
  | idle => cases o <;> simp [scanNext]
  | checked k => cases o <;> simp [scanNext]

/-- INTERNAL: a step of the reaper. -/
theorem raceInv_reaper {c : RacePool} {o : Op} (hJ : RaceInv c.state c.ghost)
    (hg : opGuard (c.ghost .reaper).1 o) (hscan : scanGuard (c.ghost .reaper).2 o)
    (hx : exclusive c .reaper o = true) :
    opOk (c.ghost .reaper).1 o (exec o c.state.w).1 ∧
    RaceInv (sharedExec .reaper o c.state).2 (Function.update c.ghost .reaper
      ((c.ghost .reaper).1.to (opNext (c.ghost .reaper).1.hold o (exec o c.state.w).1),
        scanNext (c.ghost .reaper).2 o)) := by
  have hrole := hJ.role.2
  obtain ⟨hlookup, hinc, hdelete⟩ := scanGuard_reaper hrole hscan
  obtain ⟨hnext, hsince⟩ := scanNext_reaper o hrole
  have hcreate : ∀ addr port, o ≠ .createUdpSess addr port := by
    rintro addr port rfl
    exact hJ.noLookup.1 _ hg
  -- the reaper may as well have forgotten the session it deleted
  have hforget : opGuard ((c.ghost .reaper).1.to (settle (c.ghost .reaper).1.hold)) o ∧
      ∀ r, settle (opNext (settle (c.ghost .reaper).1.hold) o r) =
        settle (opNext (c.ghost .reaper).1.hold o r) := by
    cases hh : (c.ghost .reaper).1.hold with
    | dead i =>
      rcases guard_of_dead hg hh with ⟨j, rfl⟩ | ⟨j, rfl⟩ | rfl | rfl | rfl
      · exact absurd rfl (hinc j)
      · exact ⟨.inl rfl, fun _ => rfl⟩
      · exact ⟨trivial, fun _ => rfl⟩
      · exact ⟨trivial, fun _ => rfl⟩
      · exact ⟨trivial, fun _ => rfl⟩
    | _ =>
      have hne : settle (c.ghost .reaper).1.hold = (c.ghost .reaper).1.hold :=
        settle_of_ne (by simp [hh])
      rw [← hh, hne]
      exact ⟨hg, fun _ => rfl⟩
  obtain ⟨hg', hsettle⟩ := hforget
  obtain ⟨hok, hown⟩ := slotInv_exec o hJ.reaper hg'
  obtain ⟨hone, hfree⟩ := acts_spec .reaper hJ.reaper hg'
  have hown' : SlotInv (exec o c.state.w).2
      (settle (opNext (c.ghost .reaper).1.hold o (exec o c.state.w).1)) := by
    rw [← hsettle]
    exact hown.settle
  have hother : SlotInv (exec o c.state.w).2 (c.ghost .receiver).1.hold := by
    refine slotInv_other hJ.reaper hg' hJ.receiver ?_ (fun a p e => absurd e (hcreate a p))
      (fun i e => absurd e (hinc i))
    rintro i rfl
    simpa [exclusive, Thread.other] using hx
  have hok' : opOk (c.ghost .reaper).1 o (exec o c.state.w).1 := by
    cases o with
    | incLoopC j => exact absurd rfl (hinc j)
    | _ => exact hok
  refine ⟨hok', hother, hown', ⟨hJ.role.1, hnext⟩, opNext_noLookup hg _ hlookup hJ.noLookup,
    balance_exec .reaper hJ.reaper hg' hJ.balance, ?_, ?_⟩
  · intro i hslot hsc
    have hslot' : (opNext (c.ghost .reaper).1.hold o (exec o c.state.w).1).slot = some i := hslot
    rcases hsince i hsc with rfl | ⟨hchecked, htest⟩
    · -- the check is made now
      exact ⟨c.state.trace, [], rfl, by simp⟩
    · have hold := opNext_slot hg _ hlookup hcreate htest hslot'
      apply (hJ.since i hold hchecked).append
      exact hfree i (hJ.reaper.held i (by rw [settle_slot]; exact hold))
  · apply checked_append hJ.checked
    rcases hone with hnil | ⟨x, hx', hdel⟩
    · exact .inl hnil
    · refine .inr ⟨x, hx', fun i hi => ?_⟩
      obtain rfl := (hdel _ _ hi).2
      have hclosed : (c.ghost .reaper).1.hold = .closed i := hg
      exact hJ.since i (by rw [hclosed]; rfl) (hdelete i rfl)

theorem raceInv_boot (maxConn : UInt16) (dataDir : List UInt8) (o : ByteOrder) :
    RaceInv (bootPool maxConn dataDir o).state (bootPool maxConn dataDir o).ghost := by
  have hslot := boot_slotInv maxConn dataDir o Server.zeroPkt Server.zeroPkt {}
    (by simp [Env.NoEbadmsg])
  refine ⟨hslot, hslot, ⟨rfl, by simp [bootPool]⟩, by simp [bootPool], ?_, by simp [bootPool, Hold.slot],
    by simp [bootPool]⟩
  intro i
  rfl

theorem job_conforms {maxConn : UInt16} {o : ByteOrder} {t : Thread} {p : Srv Unit}
    {g : Ghost × Scan} (h : Job maxConn o t p g) :
    Conforms (sessionProtocol.prod scanProtocol) p g fun _ g' => g'.1.hold.Rest := by
  have hdiscard : ∀ {α : Type} {q : Srv α} {g : Ghost} {u : Scan} {R : Scan → Prop},
      Conforms sessionProtocol q g (fun _ g' => g'.hold.Rest) →
      Conforms scanProtocol q u (fun _ u' => R u') →
      Conforms (sessionProtocol.prod scanProtocol) (discard q) (g, u)
        fun _ g' => g'.1.hold.Rest := by
    intro α q g u R hq hu
    unfold discard
    rw [Conforms.bind_iff]
    exact (hq.prod hu).mono fun _ _ h => h.1
  cases h with
  | udp pkt saddr data =>
    exact hdiscard (handleEventFromUdp_conforms o pkt saddr data) (receiver_conforms _)
  | tun pkt data =>
    exact hdiscard (handleEventFromTun_conforms maxConn pkt data rfl) (receiver_conforms _)
  | scan pkt =>
    exact hdiscard (zombieReaperDoScan_conforms maxConn pkt rfl)
      (zombieReaperDoScan_scan maxConn pkt)

/-- INTERNAL: **every session is released once**, in every interleaving of the receiver and
the reaper in which no thread deletes a session that the other works on.
SOURCE: udp_epoll.c:323-336, 1049-1139, udp_session.c:59-100, 184-197 -/
theorem released_once {maxConn : UInt16} {dataDir : List UInt8} {o : ByteOrder} {c : RacePool}
    (hc : Pool.Reach (raceSystem maxConn o) (fun c t op => exclusive c t op = true)
      (bootPool maxConn dataDir o) c) : ReleasedOnce c.state := by
  have hinv := Pool.reach_inv (S := raceSystem maxConn o) RaceInv (raceInv_boot maxConn dataDir o)
    (fun t => by cases t <;> exact trivial) (fun t p g hj => job_conforms hj) ?_ ?_ ?_ ?_ hc
  · exact hinv.1.releasedOnce
  · intro c t op hJ hg hx
    cases t with
    | receiver =>
      obtain ⟨hok, hJ'⟩ := raceInv_receiver hJ hg.1 hx
        (scanNext (c.ghost .receiver).2 op) (by rw [hJ.role.1]; rfl)
      exact ⟨⟨hok, trivial⟩, hJ'⟩
    | reaper =>
      obtain ⟨hok, hJ'⟩ := raceInv_reaper hJ hg.1 hg.2 hx
      exact ⟨⟨hok, trivial⟩, hJ'⟩
  · -- a thread starts with no session in its hands
    intro s gs t p g hJ hrest hjob
    cases hjob with
    | udp pkt saddr data =>
      exact ⟨hJ.receiver.rehold_free rfl (by simp) (by simp), hJ.reaper, ⟨rfl, hJ.role.2⟩,
        hJ.noLookup, hJ.balance, hJ.since, hJ.checked⟩
    | tun pkt data =>
      exact ⟨hJ.receiver.idle, hJ.reaper, ⟨rfl, hJ.role.2⟩, hJ.noLookup, hJ.balance, hJ.since,
        hJ.checked⟩
    | scan pkt =>
      exact ⟨hJ.receiver, hJ.reaper.idle, ⟨hJ.role.1, by simp⟩, by simp, hJ.balance,
        by simp [Hold.slot], hJ.checked⟩
  · rintro s s' gs hJ ⟨env, henv, rfl⟩
    have hdrift : ∀ {h : Hold}, SlotInv s.w h → SlotInv { s.w with env := env } h :=
      fun hw => ⟨hw.table, henv, hw.noBug, hw.clean, hw.held, hw.absent, hw.dead⟩
    exact ⟨hdrift hJ.receiver, hdrift hJ.reaper, hJ.role, hJ.noLookup, hJ.balance, hJ.since,
      hJ.checked⟩
  · rintro s gs t g hJ rfl
    cases t with
    | receiver =>
      exact ⟨hJ.receiver.idle, hJ.reaper, hJ.role, hJ.noLookup, hJ.balance, hJ.since, hJ.checked⟩
    | reaper =>
      exact ⟨hJ.receiver, hJ.reaper.idle, hJ.role, by simp, hJ.balance, by simp [Hold.slot],
        hJ.checked⟩

/-! ## Two interleavings -/

/-- A thread that has finished lets go of the session it worked on. -/
def letGo (t : Thread) (c : RacePool) : RacePool :=
  match c.prog t with
  | .pure _ => { c with ghost := Function.update c.ghost t ((c.ghost t).1.to .idle, (c.ghost t).2) }
  | .op _ _ => c

/-- The receiver handles a datagram. -/
def receive (ok : RacePool → Thread → Op → Bool) (saddr : Endpoint) (data : List UInt8)
    (c : RacePool) : RacePool :=
  letGo .receiver
    ((c.launch .receiver (discard (Srv.handleEventFromUdp .little Server.zeroPkt saddr data))
      ({ src := saddr, pkt := Srv.doRecvFrom Server.zeroPkt data, hold := .start }, .receiver)).advance
      (raceSystem 2 .little) ok .receiver 16)

/-- The clock shows `t`. -/
def clockAt (t : Int) (c : RacePool) : RacePool :=
  { c with state := { c.state with w := { c.state.w with env := { clock := t } } } }

/-- The reaper starts a scan, or goes on with it, and makes `n` steps. -/
def scan (ok : RacePool → Thread → Op → Bool) (n : Nat) (c : RacePool) : RacePool :=
  (c.launch .reaper (discard (Srv.zombieReaperDoScan 2 Server.zeroPkt))
    ({ src := ⟨0, 0⟩, pkt := Server.zeroPkt }, .idle)).advance (raceSystem 2 .little) ok .reaper n

section

variable {ok : RacePool → Thread → Op → Bool} {c₀ c : RacePool}

theorem reach_receive (saddr : Endpoint) (data : List UInt8)
    (h : Pool.Reach (raceSystem 2 .little) (fun c t o => ok c t o = true) c₀ c) :
    Pool.Reach (raceSystem 2 .little) (fun c t o => ok c t o = true) c₀ (receive ok saddr data c) := by
  have hrun := (h.launch (i := Thread.receiver) (.udp Server.zeroPkt saddr data)).advance
    Thread.receiver 16
  unfold receive letGo
  split
  · next hprog =>
    apply hrun.release Thread.receiver _ rfl
    rw [hprog]
    exact trivial
  · exact hrun

theorem reach_clockAt (t : Int)
    (h : Pool.Reach (raceSystem 2 .little) (fun c t o => ok c t o = true) c₀ c) :
    Pool.Reach (raceSystem 2 .little) (fun c t o => ok c t o = true) c₀ (clockAt t c) :=
  h.drift _ ⟨{ clock := t }, by simp [Env.NoEbadmsg], rfl⟩

theorem reach_scan (n : Nat)
    (h : Pool.Reach (raceSystem 2 .little) (fun c t o => ok c t o = true) c₀ c) :
    Pool.Reach (raceSystem 2 .little) (fun c t o => ok c t o = true) c₀ (scan ok n c) :=
  (h.launch (i := Thread.reaper) (.scan Server.zeroPkt)).advance Thread.reaper n

end

theorem released_once_timeout :
    ∃ c, Pool.Reach (raceSystem 2 .little) (fun c t op => exclusive c t op = true)
        (bootPool 2 [] .little) c ∧
      c.state.trace = [.created 0, .checked .reaper 0, .deleted .reaper 0] ∧
      ReleasedOnce c.state := by
  have hinit : Pool.Reach (raceSystem 2 .little) (fun c t op => exclusive c t op = true)
    (bootPool 2 [] .little) (bootPool 2 [] .little) := .init
  have h := reach_scan 16 (reach_clockAt 31
    (reach_receive ⟨0x0a000001, 1000⟩ handshakeDatagram hinit))
  exact ⟨_, h, by decide, released_once h⟩

/-- Two clients are connected and the session of the first has timed out. The reaper is
about to delete it; the receiver handles its CLOSE; then the reaper goes on. -/
def racedPool : RacePool :=
  let any : RacePool → Thread → Op → Bool := fun _ _ _ => true
  scan any 1 (receive any ⟨0x0a000001, 1000⟩ [TCLI_PKT_CLOSE, 0, 0, 0] (scan any 7 (clockAt 31
    (receive any ⟨0x0a000002, 1000⟩ handshakeDatagram
      (receive any ⟨0x0a000001, 1000⟩ handshakeDatagram (bootPool 2 [] .little))))))

/-- INTERNAL: **the receiver and the reaper can release the same session twice**, and then
its slot is on the free stack twice. -/
theorem double_release :
    Pool.Reach (raceSystem 2 .little) (fun _ _ _ => True) (bootPool 2 [] .little) racedPool ∧
      racedPool.state.trace = [.created 0, .created 1, .checked .reaper 0, .deleted .receiver 0,
        .deleted .reaper 0] ∧
      freeSlots racedPool.state.w.st = [0, 0] ∧ ¬ReleasedOnce racedPool.state := by
  have hinit : Pool.Reach (raceSystem 2 .little)
    (fun c t op => (fun _ _ _ => true : RacePool → Thread → Op → Bool) c t op = true)
    (bootPool 2 [] .little) (bootPool 2 [] .little) := .init
  have h := reach_receive ⟨0x0a000002, 1000⟩ handshakeDatagram
    (reach_receive ⟨0x0a000001, 1000⟩ handshakeDatagram hinit)
  have hraced := reach_scan 1 (reach_receive ⟨0x0a000001, 1000⟩ [TCLI_PKT_CLOSE, 0, 0, 0]
    (reach_scan 7 (reach_clockAt 31 h)))
  have hfree : freeSlots racedPool.state.w.st = [0, 0] := by decide +kernel
  refine ⟨hraced.mono fun _ _ _ _ => trivial, by decide +kernel, hfree, fun hr => ?_⟩
  have hnodup := hr.free
  rw [hfree] at hnodup
  simp at hnodup

end TeaVpn2.Analysis
