import TeaVpn2.Analysis.SlotConservation

/-!
# What a datagram is dispatched on

While a datagram is handled, what the thread found out about its session is what was true
when the datagram arrived: the session it looked up is the one of the source endpoint, and
the login it decides on is one of a session that was not authenticated. `Seen` records
this, so that conditions on a step of a run can be stated about the state before it.
-/

set_option autoImplicit false

namespace TeaVpn2.Analysis

open TeaVpn2 TeaVpn2.Lib

/-- The logins: which sessions are authenticated, and with which address. -/
def logins (st : SrvUdpState) (i : Nat) : Bool × UInt32 :=
  ((st.sessArr i).isAuthenticated, (st.sessArr i).ipv4Iff)

/-- INTERNAL: a store into a session that is no login leaves the logins alone. -/
theorem logins_update {st st' : SrvUdpState} {i : Nat} {v : UdpSess}
    (hst : st'.sessArr = Function.update st.sessArr i v)
    (hv : v.isAuthenticated = (st.sessArr i).isAuthenticated ∧ v.ipv4Iff = (st.sessArr i).ipv4Iff) :
    logins st' = logins st := by
  funext j
  simp only [logins, hst]
  by_cases hj : j = i
  · subst hj; simp [hv.1, hv.2]
  · simp [hj]

/-- The datagram is not empty and its source has the session `i`. -/
def AskedOf (s : Server) (g : Ghost) (i : Nat) : Prop :=
  g.pkt.len ≠ 0 ∧ lookupUdpSess s.st g.src.addr g.src.port = some i

/-- INTERNAL: what is still as it was when the server `s` was given the input `inp`. -/
structure Seen (s : Server) (env : Env) (inp : Input) (w : World) (g : Ghost) : Prop where
  pkt : g.pkt = (startGhost s inp).pkt
  src : g.src = (startGhost s inp).src
  fopen : w.env.fopen = env.fopen
  dataDir : w.st.dataDir = s.st.dataDir
  start : g.hold = .start → w.st = s.st
  found : ∀ i, g.hold = .found i → AskedOf s g i ∧ logins w.st = logins s.st
  candidate : ∀ i, g.hold = .candidate i → AskedOf s g i ∧
    (s.st.sessArr i).isAuthenticated = false ∧ logins w.st = logins s.st

theorem seen_start (s : Server) (env : Env) (inp : Input) :
    Seen s env inp (startWorld s env inp) (startGhost s inp) := by
  cases inp <;> exact ⟨rfl, rfl, rfl, rfl, by simp [startGhost, startWorld, World.emit, Server.world],
    by simp [startGhost], by simp [startGhost]⟩

namespace Seen

variable {s : Server} {env : Env} {inp : Input} {w w' : World} {g : Ghost} {h' : Hold}

/-- INTERNAL: a step after which the thread is past the lookup and the decision. -/
theorem past (h : Seen s env inp w g) (hcfg : config w' = config w) (hs : h' ≠ .start)
    (hf : ∀ i, h' ≠ .found i) (hc : ∀ i, h' ≠ .candidate i) : Seen s env inp w' (g.to h') := by
  simp only [config, Prod.mk.injEq] at hcfg
  exact ⟨h.pkt, h.src, hcfg.2.2.2.trans h.fopen, hcfg.2.1.trans h.dataDir, fun e => absurd e hs,
    fun i e => absurd e (hf i), fun i e => absurd e (hc i)⟩

/-- INTERNAL: a step that leaves what is known as it is, and the logins. -/
theorem stay (h : Seen s env inp w g) (hcfg : config w' = config w)
    (hs : g.hold = .start → w'.st = w.st) (hl : logins w'.st = logins w.st) :
    Seen s env inp w' (g.to g.hold) := by
  simp only [config, Prod.mk.injEq] at hcfg
  refine ⟨h.pkt, h.src, hcfg.2.2.2.trans h.fopen, hcfg.2.1.trans h.dataDir,
    fun e => (hs e).trans (h.start e), fun i e => ?_, fun i e => ?_⟩
  · exact ⟨(h.found i e).1, hl.trans (h.found i e).2⟩
  · exact ⟨(h.candidate i e).1, (h.candidate i e).2.1, hl.trans (h.candidate i e).2.2⟩

/-- INTERNAL: **every guarded operation keeps the snapshot.** -/
theorem step (h : Seen s env inp w g) (o : Op) (hg : opGuard g o) :
    Seen s env inp (exec o w).2 (g.to (opNext g.hold o (exec o w).1)) := by
  have hcfg := config_exec o w
  cases o with
  | lookupUdpSess addr port =>
    have hst := h.start hg.1
    cases hl : lookupUdpSess w.st addr port with
    | none =>
      simp only [exec, hl, opNext]
      exact h.past rfl (by simp) (by simp) (by simp)
    | some i =>
      simp only [exec, hl, opNext]
      refine ⟨h.pkt, h.src, h.fopen, h.dataDir, by simp, ?_, by simp⟩
      rintro j ⟨rfl⟩
      rw [hst] at hl ⊢
      refine ⟨⟨hg.2.2, ?_⟩, rfl⟩
      rw [show (g.to (.found i)).src = ⟨addr, port⟩ from hg.2.1]
      exact hl
  | createUdpSess addr port =>
    simp only [opNext]
    split <;> exact h.past hcfg (by simp) (by simp) (by simp)
  | deleteUdpSession i => exact h.past hcfg (by simp [opNext]) (by simp [opNext]) (by simp [opNext])
  | loadIsConnected i =>
    simp only [opNext]
    split <;> exact h.past hcfg (by simp) (by simp) (by simp)
  | loadIsAuthenticated i =>
    cases hauth : (w.st.sessArr i).isAuthenticated with
    | true =>
      simp only [exec, World.sess, hauth, opNext, if_true]
      split
      · exact h.past rfl (by simp) (by simp) (by simp)
      · split <;> exact h.past rfl (by simp) (by simp) (by simp)
    | false =>
      simp only [exec, World.sess, hauth, opNext, Bool.false_eq_true, if_false]
      split
      · next hf =>
        -- the flag read now is the flag of the state before the input
        obtain ⟨hl, hsame⟩ := h.found i hf
        refine ⟨h.pkt, h.src, h.fopen, h.dataDir, by simp, by simp, ?_⟩
        rintro j ⟨rfl⟩
        exact ⟨hl, (congrArg Prod.fst (congrFun hsame i)).symm.trans hauth, hsame⟩
      · split <;> exact h.past rfl (by simp) (by simp) (by simp)
  | loadIpv4Iff i => exact h.past hcfg (by simp [opNext]) (by simp [opNext]) (by simp [opNext])
  | storeAddr i saddr => exact h.past hcfg (by simp [opNext]) (by simp [opNext]) (by simp [opNext])
  | storeIpv4Iff i addr => exact h.past hcfg (by simp [opNext]) (by simp [opNext]) (by simp [opNext])
  | storeIsAuthenticated i =>
    exact h.past hcfg (by simp [opNext]) (by simp [opNext]) (by simp [opNext])
  | storeUsername i username =>
    have hg : g.hold = .authed i := hg
    exact h.stay hcfg (by simp [hg]) (logins_update rfl ⟨rfl, rfl⟩)
  | updateLastAct i =>
    obtain ⟨gtod, t, _, heq⟩ := udpSessUpdateLastAct_eq w i
    refine h.stay hcfg ?_ ?_
    · rcases hg with hg | hg <;> simp [hg]
    · simp only [exec, heq]
      exact logins_update rfl ⟨rfl, rfl⟩
  | incLoopC i =>
    rcases hg with hg | hg | hg
    · simp only [opNext, hg]
      rw [← hg]
      exact h.stay hcfg (by simp [hg]) (logins_update rfl ⟨rfl, rfl⟩)
    · simp only [opNext, hg]
      exact h.past hcfg (by simp) (by simp) (by simp)
    · simp only [opNext, hg]
      exact h.past hcfg (by simp) (by simp) (by simp)
  | addRoute addr idx =>
    obtain ⟨i, hg, _⟩ := hg
    simp only [opNext, hg]
    exact h.past hcfg (by simp) (by simp) (by simp)
  | delRoute addr =>
    obtain ⟨_, i, hg⟩ := hg
    simp only [opNext, hg]
    exact h.past hcfg (by simp) (by simp) (by simp)
  | getRoute addr =>
    have hg : g.hold = .idle := hg
    simp only [opNext, hg]
    split <;> exact h.past hcfg (by simp) (by simp) (by simp)
  | auth i username password =>
    simp only [opNext]
    split <;> exact h.past hcfg (by simp) (by simp) (by simp)
  | getUnixTime =>
    obtain ⟨r, gtod, heq⟩ := getUnixTime_eq w
    simp only [exec, heq, opNext]
    exact h.stay rfl (fun _ => rfl) rfl
  | send i data =>
    obtain ⟨ret, stop, em, poll, rs, _, _, heq⟩ := sendToClient_spec w i data
    have hg : sendGuard g i (kindOf data) := hg
    simp only [exec, heq] at hcfg
    simp only [exec, heq, opNext]
    cases hk : kindOf data with
    | none =>
      rw [hk] at hg
      exact hg.elim
    | some kind =>
      rw [hk] at hg
      have hkeep : g.hold ≠ .start →
          Seen s env inp { st := { w.st with stop := stop, inEmergency := em }
                           env := { w.env with poll := poll, sendto := rs }
                           log := w.log ++ [.send i (w.st.sessArr i).addr
                            (w.st.sessArr i).isAuthenticated data ret] } (g.to g.hold) :=
        fun hne => h.stay hcfg (fun e => absurd e hne) rfl
      cases kind with
      | handshake =>
        by_cases hr : ret < 0 <;> simp only [sendNext, hr, if_true, if_false] <;>
          exact h.past hcfg (by simp) (by simp) (by simp)
      | authOk =>
        obtain ⟨addr, hg⟩ := hg
        by_cases hr : ret < 0 <;> simp only [sendNext, hr, if_true, if_false, hg] <;>
          exact h.past hcfg (by simp) (by simp) (by simp)
      | tunData => exact hkeep (by rw [show g.hold = _ from hg]; simp)
      | reqsync => exact hkeep (by rw [show g.hold = _ from hg]; simp)
      | sync => exact hkeep (by rcases hg with hg | hg <;> simp [hg])
      | close => exact h.past hcfg (by simp [sendNext]) (by simp [sendNext]) (by simp [sendNext])
      | handshakeReject =>
        exact h.past hcfg (by simp [sendNext]) (by simp [sendNext]) (by simp [sendNext])
      | authReject =>
        exact h.past hcfg (by simp [sendNext]) (by simp [sendNext]) (by simp [sendNext])
  | writeTun i data =>
    obtain ⟨ret, stop, em, poll, rs, tried, _, heq⟩ := writeTun_spec w i data
    simp only [exec, heq] at hcfg
    simp only [exec, heq, opNext]
    exact h.stay hcfg (by simp [hg.1]) rfl
  | loadLastAct i => exact h.stay rfl (fun _ => rfl) rfl
  | loadIdx i => exact h.stay rfl (fun _ => rfl) rfl
  | loadWiu i => exact h.stay rfl (fun _ => rfl) rfl
  | loadNOnSess => exact h.stay rfl (fun _ => rfl) rfl
  | loadRejMsg => exact h.stay rfl (fun _ => rfl) rfl

end Seen

end TeaVpn2.Analysis
