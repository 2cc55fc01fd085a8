import Mathlib.Data.Fintype.Basic
import TeaVpn2.Analysis.ReplyLanguage
import TeaVpn2.Analysis.SlotConservation

/-!
# The life cycle of a session

Three facts about every run, read off the log: how a session that is connected was opened,
when it is authenticated, and which packets its endpoint was sent (`life_cycle`).

The invariant `LifeInv` is one statement `SlotLife` per connected slot. What it says
depends on what the running thread is doing with that slot: its `Stage`. The slots the
thread does not work on are `steady`, and an operation on another slot leaves them so
(`SlotLife.append`); the operations of the thread move its own slot from stage to stage.
-/

set_option autoImplicit false

namespace TeaVpn2.Analysis

open TeaVpn2 TeaVpn2.Lib

/-! ## Reading the log -/

def Event.creates (i : Nat) : Event → Bool
  | .create j _ => j == i
  | _ => false

/-- What has happened since the slot `i` was last handed out. -/
def life (i : Nat) (log : List Event) : List Event :=
  log.foldl (fun l e => if Event.creates i e then [] else l ++ [e]) []

theorem life_append (i : Nat) (log : List Event) (e : Event) :
    life i (log ++ [e]) = if Event.creates i e then [] else life i log ++ [e] := by
  simp [life, List.foldl_append]

/-- The datagrams that open a session. -/
structure OpeningDatagram (d : List UInt8) : Prop where
  len : 100 ≤ d.length
  type : d[0]? = some TCLI_PKT_HANDSHAKE
  dataLen : d[2]? = some 0 ∧ d[3]? = some 96
  version : d[4]? = some VERSION ∧ d[5]? = some PATCHLEVEL ∧ d[6]? = some SUBLEVEL

/-- A piece of a log without datagrams. -/
def NoRecv (l : List Event) : Prop := ∀ src d, Event.recv src d ∉ l

/-- Somewhere in `l`, `teavpn2_auth` accepted an AUTH packet of the endpoint `k`, the last
datagram received before, and the AUTH_OK was sent. -/
def LoggedIn (i : Nat) (k : Endpoint) (l : List Event) : Prop :=
  ∃ l₁ d l₂ a data ret l₃,
    l = l₁ ++ .recv k d :: l₂ ++ .auth i k true :: .send i k a data ret :: l₃ ∧ NoRecv l₂ ∧
      d[0]? = some TCLI_PKT_AUTH ∧ kindOf data = some .authOk ∧ 0 ≤ ret

theorem LoggedIn.append {i : Nat} {k : Endpoint} {l : List Event} (h : LoggedIn i k l) (e : Event) :
    LoggedIn i k (l ++ [e]) := by
  obtain ⟨l₁, d, l₂, a, data, ret, l₃, rfl, hrest⟩ := h
  exact ⟨l₁, d, l₂, a, data, ret, l₃ ++ [e], by simp, hrest⟩

/-- The event that completes a login. -/
def Completes (i : Nat) (k : Endpoint) (e : Event) : Prop :=
  ∃ a data ret, e = .send i k a data ret ∧ kindOf data = some .authOk ∧ 0 ≤ ret

/-- INTERNAL: a login is complete with its AUTH_OK and not before. -/
theorem loggedIn_append_iff {i : Nat} {k : Endpoint} {l : List Event} {e : Event}
    (he : ¬Completes i k e) : LoggedIn i k (l ++ [e]) ↔ LoggedIn i k l := by
  refine ⟨?_, fun h => h.append e⟩
  rintro ⟨l₁, d, l₂, a, data, ret, l₃, hl, hno, hd, hk, hret⟩
  rcases List.eq_nil_or_concat l₃ with rfl | ⟨l₃, x, rfl⟩
  · -- the AUTH_OK would be the last event
    have hlast := congrArg List.getLast? hl
    simp only [List.getLast?_append, List.getLast?_cons, Option.some_or,
      List.getLast?_nil, Option.getD_none, Option.getD_some, Option.some.injEq] at hlast
    exact absurd ⟨a, data, ret, hlast, hk, hret⟩ he
  · refine ⟨l₁, d, l₂, a, data, ret, l₃, ?_, hno, hd, hk, hret⟩
    have hl' : l ++ [e] = (l₁ ++ .recv k d :: l₂ ++ .auth i k true :: .send i k a data ret :: l₃) ++ [x] := by
      rw [hl]
      simp
    exact (List.append_inj' hl' rfl).1

/-! ## What a thread is doing with a slot -/

inductive Stage where
  | steady
  | born
  | fresh
  | asked
  | deciding
  | accepted
  | refused
  | granting
  | member
  | leaving
  | gone
deriving DecidableEq, Repr

instance : Fintype Phase where
  elems := {.new, .opened, .authed, .rejected, .closed}
  complete p := by cases p <;> decide

namespace Stage

/-- The phases a session may be in, by the stage and the flag `is_authenticated`. -/
def allows : Stage → Bool → Phase → Bool
  | .steady, auth, p | .asked, auth, p => p == if auth then .authed else .opened
  | .born, auth, p | .fresh, auth, p => !auth && p == .new
  | .deciding, auth, p | .accepted, auth, p | .refused, auth, p => !auth && p == .opened
  | .granting, _, p => p == .authed
  | .member, auth, p => auth && p == .authed
  | .leaving, _, p => p == .opened || p == .authed || p == .rejected
  | .gone, _, p => p == .closed

/-- The datagram in the buffer is the one that created the session. -/
def young (s : Stage) : Bool := s == .born || s == .fresh

/-- The session is to be deleted. -/
def ending (s : Stage) : Bool := s == .leaving || s == .gone

/-- The datagram in the buffer was received from the session. -/
def asks (s : Stage) : Bool := s == .asked || s == .deciding

/-- What is known in stage `a` is enough for stage `b`. -/
def Le (auth : Bool) (a b : Stage) : Prop :=
  (a = .born → b = .born) ∧ (∀ p, a.allows auth p → b.allows auth p) ∧ (b.young → a.young) ∧
    (b.asks → a.asks) ∧ (b = .accepted → a = .accepted) ∧
    (!b.ending → !a.ending ∧ (a.young → b.young) ∧ (b = .granting ↔ a = .granting))

instance (auth : Bool) (a b : Stage) : Decidable (Le auth a b) :=
  inferInstanceAs (Decidable (_ ∧ _ ∧ _ ∧ _ ∧ _ ∧ _))

theorem Le.refl (auth : Bool) (a : Stage) : Le auth a a := by
  refine ⟨id, fun _ => id, id, id, id, fun h => ⟨h, id, Iff.rfl⟩⟩

end Stage

/-- The slot a thread works on, and the stage it is in. -/
def Hold.working : Hold → Option (Nat × Stage)
  | .start | .idle | .absent _ | .dead _ | .target _ | .opened _ | .unauth _ => none
  | .found i => some (i, .asked)
  | .candidate i => some (i, .deciding)
  | .created i _ => some (i, .born)
  | .fresh i => some (i, .fresh)
  | .authed i => some (i, .member)
  | .accepted i _ => some (i, .accepted)
  | .denied i => some (i, .refused)
  | .granted i _ | .addressed i _ | .routed i _ => some (i, .granting)
  | .closing i | .closingIff i _ | .unrouted i => some (i, .leaving)
  | .closed i => some (i, .gone)

def Hold.stage (h : Hold) (i : Nat) : Stage :=
  match h.working with
  | some (j, s) => if j = i then s else .steady
  | none => .steady

theorem Hold.stage_self {h : Hold} {i : Nat} {s : Stage} (hw : h.working = some (i, s)) :
    h.stage i = s := by
  simp [Hold.stage, hw]

theorem Hold.stage_of_ne {h : Hold} {i j : Nat} {s : Stage} (hw : h.working = some (i, s))
    (hj : j ≠ i) : h.stage j = .steady := by
  simp [Hold.stage, hw, Ne.symm hj]

theorem Hold.stage_of_none {h : Hold} (hw : h.working = none) (i : Nat) : h.stage i = .steady := by
  simp [Hold.stage, hw]

/-! ## The invariant of one slot -/

/-- INTERNAL: what the log says of the session `s` in slot `i`, in the stage `stg`; `pkt`
is the datagram the thread handles. -/
structure SlotLife (pkt : ScPkt) (log : List Event) (s : UdpSess) (i : Nat) (stg : Stage) :
    Prop where
  addr : stg ≠ .born → s.addr = s.key
  phase : ∃ p, track (sights s.key log) = some (some p) ∧ stg.allows s.isAuthenticated p
  opened : ∃ pre d, log = pre ++ .recv s.key d :: .create i s.key :: life i log ∧
    (stg.young → ∃ b, pkt = Srv.doRecvFrom b d) ∧
    (!stg.young → !stg.ending → OpeningDatagram d)
  kept : ∀ k, .delete i k ∉ life i log
  asked : stg.asks → ∃ l₁ b d l₂, life i log = l₁ ++ .recv s.key d :: l₂ ∧ NoRecv l₂ ∧
    pkt = Srv.doRecvFrom b d ∧ d ≠ []
  accepted : stg = .accepted → ∃ l₁ d l₂,
    life i log = l₁ ++ .recv s.key d :: l₂ ++ [.auth i s.key true] ∧ NoRecv l₂ ∧
      d[0]? = some TCLI_PKT_AUTH
  login : !stg.ending → (LoggedIn i s.key (life i log) ↔ s.isAuthenticated = true ∨ stg = .granting)

namespace SlotLife

variable {pkt : ScPkt} {log : List Event} {s : UdpSess} {i : Nat} {stg stg' : Stage}

/-- INTERNAL: to a stage that asks for less. -/
theorem weaken (h : SlotLife pkt log s i stg) (hle : Stage.Le s.isAuthenticated stg stg') :
    SlotLife pkt log s i stg' := by
  obtain ⟨hborn, hphase, hyoung, hasks, hacc, hend⟩ := hle
  obtain ⟨p, hp, hallow⟩ := h.phase
  obtain ⟨pre, d, hlog, hbuf, hopen⟩ := h.opened
  refine ⟨fun hne => h.addr fun hb => hne (hborn hb), ⟨p, hp, hphase p hallow⟩,
    ⟨pre, d, hlog, fun hy => hbuf (hyoung hy), ?_⟩, h.kept, fun ha => h.asked (hasks ha),
    fun ha => h.accepted (hacc ha), ?_⟩
  · intro hny hne
    obtain ⟨hne', hy, _⟩ := hend hne
    apply hopen _ hne'
    cases hst : stg.young with
    | false => rfl
    | true =>
      rw [hy hst] at hny
      cases hny
  · intro hne
    obtain ⟨hne', _, hgr⟩ := hend hne
    rw [h.login hne', hgr]

/-- INTERNAL: a session whose key, address and flag are the same. -/
theorem congr {s' : UdpSess} (h : SlotLife pkt log s i stg) (hkey : s'.key = s.key)
    (haddr : s'.addr = s.addr) (hauth : s'.isAuthenticated = s.isAuthenticated) :
    SlotLife pkt log s' i stg := by
  refine ⟨?_, ?_, ?_, h.kept, ?_, ?_, ?_⟩
  · rw [hkey, haddr]
    exact h.addr
  · rw [hkey, hauth]
    exact h.phase
  · rw [hkey]
    exact h.opened
  · rw [hkey]
    exact h.asked
  · rw [hkey]
    exact h.accepted
  · rw [hkey, hauth]
    exact h.login

/-- INTERNAL: a slot no thread works on does not depend on the packet buffer. -/
theorem steady_pkt (h : SlotLife pkt log s i .steady) (pkt' : ScPkt) :
    SlotLife pkt' log s i .steady := by
  obtain ⟨pre, d, hlog, _, hopen⟩ := h.opened
  exact ⟨h.addr, h.phase, ⟨pre, d, hlog, nofun, hopen⟩, h.kept, nofun, nofun, h.login⟩

/-- INTERNAL: **an event is appended**, which moves the session from phase `p` to `p'`. -/
theorem append (h : SlotLife pkt log s i stg) {e : Event}
    (hcreate : Event.creates i e = false) (hdelete : ∀ k, e ≠ .delete i k)
    (hphase : ∀ p, track (sights s.key log) = some (some p) → stg.allows s.isAuthenticated p →
      ∃ p', track (sights s.key (log ++ [e])) = some (some p') ∧ stg'.allows s.isAuthenticated p')
    (hborn : stg' ≠ .born → stg ≠ .born) (hyoung : stg'.young → stg.young)
    (hmature : ∀ d, (stg.young → ∃ b, pkt = Srv.doRecvFrom b d) →
      (!stg.young → !stg.ending → OpeningDatagram d) → !stg'.young → !stg'.ending →
      OpeningDatagram d)
    (hasks : stg'.asks → stg.asks ∧ ∀ src d, e ≠ .recv src d)
    (haccepted : stg' = .accepted → stg.asks ∧ e = .auth i s.key true ∧
      ∀ b d, pkt = Srv.doRecvFrom b d → d ≠ [] → d[0]? = some TCLI_PKT_AUTH)
    (hlogin : !stg'.ending → (LoggedIn i s.key (life i log ++ [e]) ↔
      s.isAuthenticated = true ∨ stg' = .granting)) :
    SlotLife pkt (log ++ [e]) s i stg' := by
  have hlife : life i (log ++ [e]) = life i log ++ [e] := by simp [life_append, hcreate]
  obtain ⟨p, hp, hallow⟩ := h.phase
  obtain ⟨pre, d, hlog, hbuf, hopen⟩ := h.opened
  refine ⟨fun hne => h.addr (hborn hne), hphase p hp hallow, ?_, ?_, ?_, ?_, ?_⟩
  · refine ⟨pre, d, ?_, fun hy => hbuf (hyoung hy), hmature d hbuf hopen⟩
    rw [hlife]
    nth_rewrite 1 [hlog]
    simp
  · intro k hk
    rw [hlife] at hk
    rcases List.mem_append.mp hk with hk | hk
    · exact h.kept k hk
    · exact hdelete k (List.mem_singleton.mp hk).symm
  · intro ha
    obtain ⟨l₁, b, d', l₂, hl, hno, hpkt, hd⟩ := h.asked (hasks ha).1
    refine ⟨l₁, b, d', l₂ ++ [e], by rw [hlife, hl]; simp, ?_, hpkt, hd⟩
    intro src d'' hin
    rcases List.mem_append.mp hin with hin | hin
    · exact hno src d'' hin
    · exact (hasks ha).2 src d'' (List.mem_singleton.mp hin).symm
  · intro ha
    obtain ⟨hasks', he, htype⟩ := haccepted ha
    obtain ⟨l₁, b, d', l₂, hl, hno, hpkt, hd⟩ := h.asked hasks'
    exact ⟨l₁, d', l₂, by rw [hlife, hl, he], hno, htype b d' hpkt hd⟩
  · rw [hlife]
    exact hlogin

/-- INTERNAL: an event that does not concern the session leaves it in its stage. -/
theorem append_quiet (h : SlotLife pkt log s i stg) {e : Event}
    (hcreate : Event.creates i e = false) (hdelete : ∀ k, e ≠ .delete i k)
    (hsight : sight s.key e = none) (hlogin : ¬Completes i s.key e)
    (hacc : stg ≠ .accepted) (hasks : stg.asks → ∀ src d, e ≠ .recv src d) :
    SlotLife pkt (log ++ [e]) s i stg := by
  refine h.append hcreate hdelete ?_ id id (fun d _ hop => hop) (fun ha => ⟨ha, hasks ha⟩)
    (fun ha => absurd ha hacc) ?_
  · intro p hp hallow
    rw [sights_append_of_none hsight]
    exact ⟨p, hp, hallow⟩
  · intro hne
    rw [loggedIn_append_iff hlogin]
    exact h.login hne

/-- What a packet of the kind `kind` does to the stage of the session it is sent to. -/
def Sends (auth : Bool) (a : Stage) (kind : PktKind) (b : Stage) : Prop :=
  a ≠ .born ∧ (∀ p, a.allows auth p → ∃ p', p.next kind = some p' ∧ b.allows auth p') ∧
    !b.young ∧ (b.asks → a.asks) ∧ b ≠ .accepted ∧
    (!b.ending → !a.ending ∧ (if kind = .authOk then a = .accepted ∧ b = .granting
      else (b = .granting ↔ a = .granting)))

instance (auth : Bool) (a : Stage) (kind : PktKind) (b : Stage) : Decidable (Sends auth a kind b) :=
  inferInstanceAs (Decidable (_ ∧ _ ∧ _ ∧ _ ∧ _ ∧ _))

theorem opening_of_good {b : ScPkt} {d : List UInt8} (h : GoodHandshake (Srv.doRecvFrom b d)) :
    OpeningDatagram d := by
  have hlen : 100 ≤ (Srv.doRecvFrom b d).len := h.len
  have hbyte : ∀ j, j < 100 → d[j]? = some ((Srv.doRecvFrom b d).raw j) :=
    fun j hj => doRecvFrom_raw (by omega)
  have hbe : (Srv.doRecvFrom b d).raw 2 = 0 ∧ (Srv.doRecvFrom b d).raw 3 = 96 := by
    have hhi := ((Srv.doRecvFrom b d).raw 2).toNat_lt
    have hlo := ((Srv.doRecvFrom b d).raw 3).toNat_lt
    have hval := h.dataLen
    simp only [pktLen, be16, UInt16.toNat_ofNat', sizeofHandshake] at hval
    constructor <;> apply UInt8.toNat_inj.mp <;> simp <;> omega
  have hver := h.version
  simp only [Srv.versionOk, Bool.and_eq_true, beq_iff_eq] at hver
  refine ⟨?_, ?_, ⟨?_, ?_⟩, ?_, ?_, ?_⟩
  · simp only [Srv.doRecvFrom, List.length_take] at hlen
    omega
  · rw [hbyte 0 (by omega)]
    exact congrArg some h.type
  · rw [hbyte 2 (by omega), hbe.1]
  · rw [hbyte 3 (by omega), hbe.2]
  · rw [hbyte 4 (by omega), hver.1.1]
  · rw [hbyte 5 (by omega), hver.1.2]
  · rw [hbyte 6 (by omega), hver.2]

/-- INTERNAL: **a packet is sent to the session.** -/
theorem send (h : SlotLife pkt log s i stg) {kind : PktKind} {data : List UInt8}
    (hk : kindOf data = some kind) (hne : kind ≠ .tunData) (a : Bool) (ret : Int)
    (hsends : Sends s.isAuthenticated stg kind stg')
    (hgood : stg.young → !stg'.ending → GoodHandshake pkt)
    (hret : kind = .authOk → !stg'.ending → 0 ≤ ret) :
    SlotLife pkt (log ++ [.send i s.addr a data ret]) s i stg' := by
  obtain ⟨hborn, hphase, hyoung, hasks, hacc, hend⟩ := hsends
  have haddr := h.addr hborn
  have hsight : sight s.key (.send i s.addr a data ret) = some (.pkt (some kind)) := by
    simp [sight, haddr, hk, hne]
  refine h.append rfl (by simp) ?_ (fun _ => hborn) ?_ ?_ (fun ha => ⟨hasks ha, by simp⟩)
    (fun ha => absurd ha hacc) ?_
  · intro p hp hallow
    obtain ⟨p', hp', hallow'⟩ := hphase p hallow
    refine ⟨p', ?_, hallow'⟩
    rw [sights_append_of_some hsight, track_append_of_eq hp]
    simp [trackStep, hp']
  · intro hy
    rw [hy] at hyoung
    cases hyoung
  · intro d hbuf hopen _ hne'
    cases hy : stg.young with
    | true =>
      obtain ⟨b, hb⟩ := hbuf hy
      have hg := hgood hy hne'
      rw [hb] at hg
      exact opening_of_good hg
    | false => exact hopen (by rw [hy]; rfl) (hend hne').1
  · intro hne'
    obtain ⟨hne'', hkind⟩ := hend hne'
    split at hkind
    · next hok =>
      -- the AUTH_OK completes the login
      obtain ⟨l₁, d, l₂, hl, hno, hd⟩ := h.accepted hkind.1
      refine ⟨fun _ => .inr hkind.2, fun _ => ?_⟩
      refine ⟨l₁, d, l₂, a, data, ret, [], ?_, hno, hd, hok ▸ hk, hret hok hne'⟩
      rw [hl, haddr]
      simp
    · next hok =>
      rw [loggedIn_append_iff, h.login hne'', hkind]
      rintro ⟨a', data', ret', he, hk', _⟩
      simp only [Event.send.injEq] at he
      rw [← he.2.2.2.1, hk] at hk'
      exact hok (Option.some.inj hk')

end SlotLife

/-! ## The invariant of a run -/

/-- INTERNAL: the invariant while a thread with the ghost state `g` runs. -/
structure LifeInv (w : World) (g : Ghost) : Prop where
  slots : ∀ i, (w.st.sessArr i).isConnected = true →
    SlotLife g.pkt w.log (w.st.sessArr i) i (g.hold.stage i)
  absent : ∀ k, Absent w.st k → track (sights k w.log) = some none
  last : (g.hold = .start ∨ ∃ k, g.hold = .absent k) →
    ∃ pre b d, w.log = pre ++ [.recv g.src d] ∧ g.pkt = Srv.doRecvFrom b d
  source : ∀ k, g.hold = .absent k → k = g.src
  created : ∀ i k, g.hold = .created i k → (w.st.sessArr i).key = k

/-- What the invariant reads of a session. -/
def face (s : UdpSess) : Bool × Endpoint × Endpoint × Bool :=
  (s.isConnected, s.key, s.addr, s.isAuthenticated)

/-- The thread is past the lookup and the creation of a session. -/
structure Hold.Settled (h : Hold) : Prop where
  start : h ≠ .start
  absent : ∀ k, h ≠ .absent k
  created : ∀ i k, h ≠ .created i k

theorem Hold.Settled.past {h : Hold} (hset : h.Settled) : ¬(h = .start ∨ ∃ k, h = .absent k) := by
  rintro (hh | ⟨k, hh⟩)
  · exact hset.start hh
  · exact hset.absent k hh

namespace LifeInv

variable {w w' : World} {g : Ghost} {h' : Hold}

theorem absent_congr (hface : ∀ i, face (w'.st.sessArr i) = face (w.st.sessArr i)) {k : Endpoint}
    (h : Absent w'.st k) : Absent w.st k := by
  intro i hc
  have hf := hface i
  simp only [face, Prod.mk.injEq] at hf
  rw [← hf.2.1]
  exact h i (hf.1.trans hc)

/-- INTERNAL: while the thread works on no session all of them are steady. -/
theorem steady (hl : LifeInv w g) (hnone : g.hold.working = none) {i : Nat}
    (hc : (w.st.sessArr i).isConnected = true) :
    SlotLife g.pkt w.log (w.st.sessArr i) i .steady := by
  have hi := hl.slots i hc
  rwa [Hold.stage_of_none hnone] at hi

/-- INTERNAL: a step that is not logged and leaves what the invariant reads. -/
theorem frame (hl : LifeInv w g) (hlog : w'.log = w.log)
    (hface : ∀ i, face (w'.st.sessArr i) = face (w.st.sessArr i))
    (hstage : ∀ i, Stage.Le (w.st.sessArr i).isAuthenticated (g.hold.stage i) (h'.stage i))
    (hset : h'.Settled ∨ h' = g.hold) : LifeInv w' (g.to h') := by
  refine ⟨?_, ?_, ?_, ?_, ?_⟩
  · intro i hc
    have hf := hface i
    simp only [face, Prod.mk.injEq] at hf
    rw [hf.1] at hc
    rw [hlog]
    exact ((hl.slots i hc).weaken (hstage i)).congr hf.2.1 hf.2.2.1 hf.2.2.2
  · intro k hk
    rw [hlog]
    exact hl.absent k (absent_congr hface hk)
  · intro hh
    rw [hlog]
    rcases hset with hset | rfl
    · exact absurd hh hset.past
    · exact hl.last hh
  · intro k hh
    rcases hset with hset | rfl
    · exact absurd hh (hset.absent k)
    · exact hl.source k hh
  · intro i k hh
    have hf := hface i
    simp only [face, Prod.mk.injEq] at hf
    rcases hset with hset | rfl
    · exact absurd hh (hset.created i k)
    · rw [hf.2.1]
      exact hl.created i k hh

/-- INTERNAL: the same when what the thread knows stays. -/
theorem frame_same (hl : LifeInv w g) (hlog : w'.log = w.log)
    (hface : ∀ i, face (w'.st.sessArr i) = face (w.st.sessArr i)) : LifeInv w' (g.to g.hold) :=
  hl.frame hlog hface (fun _ => Stage.Le.refl _ _) (.inr rfl)

/-- INTERNAL: a store into the session the thread works on. -/
theorem store (hl : LifeInv w g) {i : Nat} (f : UdpSess → UdpSess) (h' : Hold) {a b : Stage}
    (ha : g.hold.working = some (i, a)) (hb : h'.working = some (i, b))
    (hf : ∀ s, (f s).isConnected = s.isConnected ∧ (f s).key = s.key)
    (hslot : SlotLife g.pkt w.log (w.st.sessArr i) i a →
      SlotLife g.pkt w.log (f (w.st.sessArr i)) i b)
    (hset : h'.Settled) : LifeInv (w.setSess i f) (g.to h') := by
  refine ⟨?_, ?_, fun hh => absurd hh hset.past, fun k hh => absurd hh (hset.absent k),
    fun i k hh => absurd hh (hset.created i k)⟩
  · intro j hj
    rw [World.sessArr_setSess] at hj ⊢
    show SlotLife g.pkt w.log _ j (h'.stage j)
    by_cases hji : j = i
    · subst hji
      rw [if_pos rfl] at hj ⊢
      rw [Hold.stage_self hb]
      apply hslot
      rw [← Hold.stage_self ha]
      exact hl.slots j ((hf _).1.symm.trans hj)
    · rw [if_neg hji] at hj ⊢
      rw [Hold.stage_of_ne hb hji]
      have hj' := hl.slots j hj
      rwa [Hold.stage_of_ne ha hji] at hj'
  · intro k hk
    apply hl.absent k
    intro j hj
    have hk' := hk j
    rw [World.sessArr_setSess] at hk'
    split at hk'
    · next hji =>
      subst hji
      rw [(hf _).1, (hf _).2] at hk'
      exact hk' hj
    · exact hk' hj

/-- INTERNAL: **an event of the session `i` is appended**: it is not seen elsewhere. -/
theorem emit (hl : LifeInv w g) (ht : TableInv w.st) {i : Nat} {e : Event}
    (hlog : w'.log = w.log ++ [e]) (hface : ∀ j, face (w'.st.sessArr j) = face (w.st.sessArr j))
    (hc : (w.st.sessArr i).isConnected = true)
    (hother : ∀ j, j ≠ i → g.hold.stage j = .steady ∧ h'.stage j = .steady)
    (hsight : ∀ k, k ≠ (w.st.sessArr i).key → sight k e = none)
    (hcreate : ∀ j, Event.creates j e = false) (hdelete : ∀ j k, e ≠ .delete j k)
    (hlogin : ∀ j k, j ≠ i → ¬Completes j k e)
    (hslot : SlotLife g.pkt (w.log ++ [e]) (w.st.sessArr i) i (h'.stage i))
    (hset : h'.Settled) : LifeInv w' (g.to h') := by
  refine ⟨?_, ?_, fun hh => absurd hh hset.past, fun k hh => absurd hh (hset.absent k),
    fun i k hh => absurd hh (hset.created i k)⟩
  · intro j hj
    have hf := hface j
    simp only [face, Prod.mk.injEq] at hf
    rw [hf.1] at hj
    rw [hlog]
    refine SlotLife.congr ?_ hf.2.1 hf.2.2.1 hf.2.2.2
    by_cases hji : j = i
    · subst hji
      exact hslot
    · obtain ⟨hst, hst'⟩ := hother j hji
      have hj' := hl.slots j hj
      rw [hst] at hj'
      show SlotLife g.pkt _ _ j (h'.stage j)
      rw [hst']
      refine hj'.append_quiet (hcreate j) (hdelete j) (hsight _ ?_) (hlogin j _ hji) (by decide)
        nofun
      intro hkey
      exact hji (ht.key_inj j i hj hc hkey)
  · intro k hk
    have hk' := absent_congr hface hk
    rw [hlog, sights_append_of_none (hsight k fun e => hk' i hc e.symm)]
    exact hl.absent k hk'

/-- INTERNAL: events that nobody sees and that end no login. -/
theorem emit_quiet (hl : LifeInv w g) {e : Event} (hlog : w'.log = w.log ++ [e])
    (hface : ∀ j, face (w'.st.sessArr j) = face (w.st.sessArr j))
    (hsight : ∀ k, sight k e = none) (hcreate : ∀ j, Event.creates j e = false)
    (hdelete : ∀ j k, e ≠ .delete j k) (hlogin : ∀ j k, ¬Completes j k e)
    (hrecv : ∀ src d, e ≠ .recv src d) (hacc : ∀ j, g.hold.stage j ≠ .accepted)
    (hset : g.hold.Settled) : LifeInv w' (g.to g.hold) := by
  refine ⟨?_, ?_, fun hh => absurd hh hset.past, fun k hh => absurd hh (hset.absent k),
    fun i k hh => absurd hh (hset.created i k)⟩
  · intro j hj
    have hf := hface j
    simp only [face, Prod.mk.injEq] at hf
    rw [hf.1] at hj
    rw [hlog]
    refine SlotLife.congr ?_ hf.2.1 hf.2.2.1 hf.2.2.2
    exact (hl.slots j hj).append_quiet (hcreate j) (hdelete j) (hsight _) (hlogin j _) (hacc j)
      fun _ => hrecv
  · intro k hk
    rw [hlog, sights_append_of_none (hsight k)]
    exact hl.absent k (absent_congr hface hk)

end LifeInv

theorem face_setSess (w : World) (i : Nat) (f : UdpSess → UdpSess)
    (hf : ∀ s, face (f s) = face s) (j : Nat) :
    face ((w.setSess i f).st.sessArr j) = face (w.st.sessArr j) := by
  rw [World.sessArr_setSess]
  split
  · next hj =>
    rw [hf, hj]
  · rfl

/-- INTERNAL: a thread goes on with the slot `i`: the other slots are steady. -/
theorem stage_le {st : SrvUdpState} {h h' : Hold} {i : Nat} {a b : Stage}
    (ha : h.working = some (i, a) ∨ h.working = none ∧ a = .steady)
    (hb : h'.working = some (i, b) ∨ h'.working = none ∧ b = .steady)
    (hle : Stage.Le (st.sessArr i).isAuthenticated a b) (j : Nat) :
    Stage.Le (st.sessArr j).isAuthenticated (h.stage j) (h'.stage j) := by
  have hself : ∀ {h : Hold} {a : Stage}, (h.working = some (i, a) ∨ h.working = none ∧ a = .steady) →
      h.stage i = a ∧ ∀ j, j ≠ i → h.stage j = .steady := by
    rintro h a (ha | ⟨ha, rfl⟩)
    · exact ⟨Hold.stage_self ha, fun j hj => Hold.stage_of_ne ha hj⟩
    · exact ⟨Hold.stage_of_none ha i, fun j _ => Hold.stage_of_none ha j⟩
  by_cases hj : j = i
  · subst hj
    rw [(hself ha).1, (hself hb).1]
    exact hle
  · rw [(hself ha).2 j hj, (hself hb).2 j hj]
    exact Stage.Le.refl _ _

theorem stage_le_none {st : SrvUdpState} {h h' : Hold} (ha : h.working = none)
    (hb : h'.working = none) (j : Nat) :
    Stage.Le (st.sessArr j).isAuthenticated (h.stage j) (h'.stage j) := by
  rw [Hold.stage_of_none ha, Hold.stage_of_none hb]
  exact Stage.Le.refl _ _

theorem le_steady (auth : Bool) : Stage.Le auth .asked .steady ∧ Stage.Le auth .member .steady := by
  cases auth <;> decide

theorem le_leaving (auth : Bool) : Stage.Le auth .steady .leaving ∧ Stage.Le auth .asked .leaving ∧
    Stage.Le auth .member .leaving := by
  cases auth <;> decide

theorem other_steady {h h' : Hold} {i : Nat} {a b : Stage} (ha : h.working = some (i, a))
    (hb : h'.working = some (i, b) ∨ h'.working = none) (j : Nat) (hj : j ≠ i) :
    h.stage j = .steady ∧ h'.stage j = .steady := by
  refine ⟨Hold.stage_of_ne ha hj, ?_⟩
  rcases hb with hb | hb
  · exact Hold.stage_of_ne hb hj
  · exact Hold.stage_of_none hb j

/-! ## One operation -/

/-- INTERNAL: the lookup finds the session the datagram came from, or none. -/
theorem lifeInv_lookup {w : World} {g : Ghost} (addr : UInt32) (port : UInt16)
    (hs : SlotInv w g.hold) (hl : LifeInv w g) (hg : opGuard g (.lookupUdpSess addr port)) :
    LifeInv (exec (.lookupUdpSess addr port) w).2
      (g.to (opNext g.hold (.lookupUdpSess addr port) (exec (.lookupUdpSess addr port) w).1)) := by
  obtain ⟨hstart, hsrc, hlen⟩ := hg
  have hnone : g.hold.working = none := by rw [hstart]; rfl
  obtain ⟨pre, b, d, hlog, hpkt⟩ := hl.last (.inl hstart)
  cases hlook : lookupUdpSess w.st addr port with
  | none =>
    simp only [exec, hlook, opNext]
    refine ⟨fun _ => hl.steady hnone, hl.absent, fun _ => ⟨pre, b, d, hlog, hpkt⟩, ?_, by simp⟩
    rintro k ⟨rfl⟩
    exact hsrc.symm
  | some i =>
    have hkey := ((lookupUdpSess_eq_some hs.table ⟨addr, port⟩ i).mp hlook).2
    simp only [exec, hlook, opNext]
    refine ⟨?_, hl.absent, by simp, by simp, by simp⟩
    intro j hc
    have hj := hl.steady hnone hc
    by_cases hji : j = i
    · subst hji
      have hstage : (Hold.found j).stage j = .asked := Hold.stage_self rfl
      show SlotLife g.pkt _ _ j ((Hold.found j).stage j)
      rw [hstage]
      have hasked : ∃ l₁ b d l₂, life j w.log = l₁ ++ .recv (w.st.sessArr j).key d :: l₂ ∧
          NoRecv l₂ ∧ g.pkt = Srv.doRecvFrom b d ∧ d ≠ [] := by
        refine ⟨life j pre, b, d, [], ?_, by simp [NoRecv], hpkt, ?_⟩
        · rw [hlog, life_append, hkey, ← hsrc]
          rfl
        · rintro rfl
          rw [hpkt] at hlen
          exact hlen rfl
      obtain ⟨pre', d', hlog', _, hopen⟩ := hj.opened
      exact ⟨fun _ => hj.addr (by decide), hj.phase,
        ⟨pre', d', hlog', by simp [Stage.young], hopen⟩, hj.kept,
        fun _ => hasked, by simp, fun _ => by simpa using hj.login rfl⟩
    · show SlotLife g.pkt _ _ j ((Hold.found i).stage j)
      rw [Hold.stage_of_ne (h := .found i) rfl hji]
      exact hj

/-- INTERNAL: a session is created by the datagram in the buffer. -/
theorem lifeInv_create {w : World} {g : Ghost} (addr : UInt32) (port : UInt16)
    (hs : SlotInv w g.hold) (hl : LifeInv w g) (hg : opGuard g (.createUdpSess addr port)) :
    LifeInv (exec (.createUdpSess addr port) w).2
      (g.to (opNext g.hold (.createUdpSess addr port) (exec (.createUdpSess addr port) w).1)) := by
  have hg : g.hold = .absent ⟨addr, port⟩ := hg
  have hnone : g.hold.working = none := by rw [hg]; rfl
  have habs := hs.absent _ hg
  have hidle : Hold.Settled .idle := ⟨by simp, by simp, by simp⟩
  rcases createUdpSess_spec hs.table habs with ⟨_, heq⟩ |
    ⟨i, stk, mal, st', _, hin, hst, heq, _⟩ | ⟨i, stk, m, mal, gtod, t, st', _, _, hin, hst, heq, _⟩
  · simp only [exec, heq, opNext]
    exact hl.frame rfl (fun _ => rfl) (stage_le_none hnone rfl) (.inl hidle)
  · -- the key of a free slot has changed
    have hdisc := ((hs.table.mem_free i).mp hin).2
    have hrest : ∀ j, j ≠ i → st'.sessArr j = w.st.sessArr j := by
      intro j hji
      rw [hst]
      exact Function.update_of_ne hji _ _
    simp only [exec, heq, opNext]
    refine ⟨?_, ?_, by simp, by simp, by simp⟩
    · intro j hj
      have hji : j ≠ i := by
        rintro rfl
        rw [hst] at hj
        simp [hdisc] at hj
      rw [hrest j hji] at hj ⊢
      exact hl.steady hnone hj
    · intro k hk
      exact hl.absent k (hk.of_update i hrest (by simp [hdisc]))
  · have hdisc := ((hs.table.mem_free i).mp hin).2
    have hclean := hs.clean i hdisc
    obtain ⟨pre, b, d, hlog, hpkt⟩ := hl.last (.inr ⟨_, hg⟩)
    have hsrc := hl.source _ hg
    have hrest : ∀ j, j ≠ i → st'.sessArr j = w.st.sessArr j := by
      intro j hji
      rw [hst]
      exact Function.update_of_ne hji _ _
    have hself : st'.sessArr i = createdSess (w.st.sessArr i) ⟨addr, port⟩ t := by
      rw [hst]
      simp
    simp only [exec, heq, opNext]
    refine ⟨?_, ?_, by simp, by simp, ?_⟩
    · intro j hj
      by_cases hji : j = i
      · subst hji
        have hlife : life j (w.log ++ [.create j ⟨addr, port⟩]) = [] := by
          simp [life_append, Event.creates]
        show SlotLife g.pkt _ (st'.sessArr j) j ((Hold.created j ⟨addr, port⟩).stage j)
        rw [Hold.stage_self (h := .created j ⟨addr, port⟩) rfl, hself]
        have hauth : (createdSess (w.st.sessArr j) ⟨addr, port⟩ t).isAuthenticated = false :=
          hclean.isAuthenticated
        refine ⟨by simp, ⟨.new, ?_, by rw [hauth]; rfl⟩,
          ⟨pre, d, ?_, fun _ => ⟨b, hpkt⟩, by simp [Stage.young]⟩, ?_, by simp [Stage.asks],
          by simp, ?_⟩
        · have hsight : sight ⟨addr, port⟩ (.create j ⟨addr, port⟩) = some .create := by simp [sight]
          show track (sights ⟨addr, port⟩ _) = _
          rw [sights_append_of_some hsight, track_append_of_eq (hl.absent _ habs)]
          rfl
        · rw [hlife, hlog, ← hsrc]
          simp [createdSess, UdpSess.key]
        · simp [hlife]
        · intro _
          rw [hlife, hauth]
          simp [LoggedIn]
      · show SlotLife g.pkt _ (st'.sessArr j) j ((Hold.created i ⟨addr, port⟩).stage j)
        rw [Hold.stage_of_ne (h := .created i ⟨addr, port⟩) rfl hji]
        rw [hrest j hji] at hj ⊢
        refine (hl.steady hnone hj).append_quiet ?_ (by simp) ?_ ?_ (by decide) (by simp)
        · simp [Event.creates, Ne.symm hji]
        · exact if_neg fun e => habs j hj e.symm
        · rintro ⟨_, _, _, he, _⟩
          cases he
    · intro k hk
      have hne : (⟨addr, port⟩ : Endpoint) ≠ k := by
        have := hk i (by rw [hself]; rfl)
        rw [hself] at this
        exact this
      rw [sights_append_of_none (by simp [sight, hne])]
      exact hl.absent k (hk.of_update i hrest (by simp [hdisc]))
    · rintro j k ⟨rfl, rfl⟩
      show (st'.sessArr i).key = _
      rw [hself]
      rfl

/-- INTERNAL: a session is deleted after its CLOSE. -/
theorem lifeInv_delete {w : World} {g : Ghost} (i : Nat)
    (hs : SlotInv w g.hold) (hl : LifeInv w g) (hg : opGuard g (.deleteUdpSession i)) :
    LifeInv (exec (.deleteUdpSession i) w).2 (g.to (.dead i)) := by
  have hg : g.hold = .closed i := hg
  have hc := hs.held i (by rw [hg]; rfl)
  have hgone := hl.slots i hc
  rw [hg, Hold.stage_self (h := .closed i) rfl] at hgone
  obtain ⟨stk, m, st', _, hst, heq, _⟩ := deleteUdpSession_spec hs.table hc
  have hrest : ∀ j, j ≠ i → st'.sessArr j = w.st.sessArr j := by
    intro j hji
    rw [hst]
    exact Function.update_of_ne hji _ _
  simp only [exec, heq]
  refine ⟨?_, ?_, by simp, by simp, by simp⟩
  · intro j hj
    have hji : j ≠ i := by
      rintro rfl
      rw [hst] at hj
      simp [resetUdpSession] at hj
    rw [hrest j hji] at hj ⊢
    have hj' := hl.slots j hj
    rw [hg, Hold.stage_of_ne (h := .closed i) rfl hji] at hj'
    refine hj'.append_quiet rfl (fun k he => ?_) ?_ ?_ (by decide) (by simp)
    · simp only [Event.delete.injEq] at he
      exact hji he.1.symm
    · exact if_neg fun e => hji (hs.table.key_inj j i hj hc e.symm)
    · rintro ⟨_, _, _, he, _⟩
      cases he
  · intro k hk
    by_cases hkey : (w.st.sessArr i).key = k
    · -- its own endpoint has no session any more
      subst hkey
      obtain ⟨p, hp, hallow⟩ := hgone.phase
      have hclosed : p = .closed := by simpa [Stage.allows] using hallow
      have hsight : sight (w.st.sessArr i).key (.delete i (w.st.sessArr i).key) = some .delete := by
        simp [sight]
      rw [sights_append_of_some hsight, track_append_of_eq hp, hclosed]
      rfl
    · rw [sights_append_of_none (by simp [sight, hkey])]
      exact hl.absent k (hk.of_update i hrest fun _ => hkey)

/-- INTERNAL: **a packet goes out to the session the thread works on** and moves it from the stage
`a` to the stage `b`; the other sessions do not see it. -/
theorem lifeInv_send_own {w : World} {g : Ghost} {i : Nat} {data : List UInt8} {kind : PktKind}
    (hs : SlotInv w g.hold) (hl : LifeInv w g) (hk : kindOf data = some kind)
    (hkind : kind ≠ .tunData) {a b : Stage} {h' : Hold} {ret : Int} (stop em : Bool)
    (poll rs : List Int) (hslot : g.hold.slot = some i) (ha : g.hold.working = some (i, a))
    (hb : h'.working = some (i, b) ∨ h'.working = none ∧ b = .steady) (hset : h'.Settled)
    (hsends : ∀ auth, SlotLife.Sends auth a kind b)
    (hgood : a.young → !b.ending → GoodHandshake g.pkt)
    (hret : kind = .authOk → !b.ending → 0 ≤ ret) :
    LifeInv { st := { w.st with stop := stop, inEmergency := em }
              env := { w.env with poll := poll, sendto := rs }
              log := w.log ++ [.send i (w.st.sessArr i).addr (w.st.sessArr i).isAuthenticated data ret] }
      (g.to h') := by
  have hc := hs.held i hslot
  have hi := hl.slots i hc
  rw [Hold.stage_self ha] at hi
  have haddr := hi.addr (hsends (w.st.sessArr i).isAuthenticated).1
  have hstage : h'.stage i = b := by
    rcases hb with hb | ⟨hb, rfl⟩
    · exact Hold.stage_self hb
    · exact Hold.stage_of_none hb i
  refine hl.emit hs.table rfl (fun _ => rfl) hc
    (other_steady ha (hb.imp_right And.left)) ?_ (fun _ => rfl) (by simp) ?_ ?_ hset
  · intro k hne
    have hdst : (w.st.sessArr i).addr ≠ k := by
      rw [haddr]
      exact Ne.symm hne
    simp [sight, hdst]
  · rintro j k hji ⟨_, _, _, he, _⟩
    simp only [Event.send.injEq] at he
    exact hji he.1.symm
  · rw [hstage]
    exact hi.send hk hkind _ _ (hsends _) hgood hret

/-- INTERNAL: a packet goes out, and moves the session it is sent to to its next stage. -/
theorem lifeInv_send {w : World} {g : Ghost} (i : Nat) (data : List UInt8)
    (hs : SlotInv w g.hold) (hl : LifeInv w g) (hg : opGuard g (.send i data)) :
    LifeInv (exec (.send i data) w).2
      (g.to (opNext g.hold (.send i data) (exec (.send i data) w).1)) := by
  obtain ⟨ret, stop, em, poll, rs, _, _, heq⟩ := sendToClient_spec w i data
  have hg : sendGuard g i (kindOf data) := hg
  simp only [exec, heq, opNext]
  cases hk : kindOf data with
  | none =>
    rw [hk] at hg
    exact hg.elim
  | some kind =>
  rw [hk] at hg
  cases kind with
  | tunData =>
    -- the packets of the TUN device are not looked at
    have hg : g.hold = .target i := hg
    refine hl.emit_quiet rfl (fun _ => rfl) (fun k => ?_) (fun _ => rfl) (by simp) ?_ (by simp) ?_ ?_
    · simp [sight, hk]
    · rintro j k ⟨_, _, _, he, hk', _⟩
      simp only [Event.send.injEq] at he
      rw [← he.2.2.2.1, hk] at hk'
      cases hk'
    · intro j
      rw [Hold.stage_of_none (by rw [hg]; rfl)]
      decide
    · rw [hg]
      exact ⟨by simp, by simp, by simp⟩
  | handshake =>
    obtain ⟨hg, hgood⟩ := hg
    have hslot : g.hold.slot = some i := by rw [hg]; rfl
    have hwork : g.hold.working = some (i, .fresh) := by rw [hg]; rfl
    simp only [sendNext]
    split
    · exact lifeInv_send_own (b := .leaving) hs hl hk (by simp) stop em poll rs hslot hwork
        (.inl rfl) ⟨by simp, by simp, by simp⟩ (by decide) (fun _ _ => hgood) (by simp)
    · exact lifeInv_send_own (b := .steady) hs hl hk (by simp) stop em poll rs hslot hwork
        (.inr ⟨rfl, rfl⟩) ⟨by simp, by simp, by simp⟩ (by decide) (fun _ _ => hgood) (by simp)
  | handshakeReject =>
    have hg : g.hold = .fresh i := hg
    have hslot : g.hold.slot = some i := by rw [hg]; rfl
    have hwork : g.hold.working = some (i, .fresh) := by rw [hg]; rfl
    exact lifeInv_send_own (b := .leaving) hs hl hk (by simp) stop em poll rs hslot hwork
      (.inl rfl) ⟨by simp [sendNext], by simp [sendNext], by simp [sendNext]⟩ (by decide)
      (by simp [Stage.ending]) (by simp)
  | authOk =>
    obtain ⟨addr, hg⟩ := hg
    have hslot : g.hold.slot = some i := by rw [hg]; rfl
    have hwork : g.hold.working = some (i, .accepted) := by rw [hg]; rfl
    simp only [sendNext, hg]
    split
    · exact lifeInv_send_own (b := .leaving) hs hl hk (by simp) stop em poll rs hslot hwork
        (.inl rfl) ⟨by simp, by simp, by simp⟩ (by decide)
        (by simp [Stage.young]) (by simp [Stage.ending])
    · next hpos =>
      exact lifeInv_send_own (b := .granting) hs hl hk (by simp) stop em poll rs hslot hwork
        (.inl rfl) ⟨by simp, by simp, by simp⟩ (by decide)
        (by simp [Stage.young]) fun _ _ => not_lt.mp hpos
  | authReject =>
    have hg : g.hold = .denied i := hg
    have hslot : g.hold.slot = some i := by rw [hg]; rfl
    have hwork : g.hold.working = some (i, .refused) := by rw [hg]; rfl
    exact lifeInv_send_own (b := .leaving) hs hl hk (by simp) stop em poll rs hslot hwork
      (.inl rfl) ⟨by simp [sendNext], by simp [sendNext], by simp [sendNext]⟩ (by decide)
      (by simp [Stage.young]) (by simp)
  | close =>
    have hslot : g.hold.slot = some i := by rcases hg with hg | hg <;> rw [hg] <;> rfl
    have hwork : g.hold.working = some (i, .leaving) := by
      rcases hg with hg | hg <;> rw [hg] <;> rfl
    exact lifeInv_send_own (b := .gone) hs hl hk (by simp) stop em poll rs hslot hwork (.inl rfl)
      ⟨by simp [sendNext], by simp [sendNext], by simp [sendNext]⟩ (by decide)
      (by simp [Stage.young]) (by simp)
  | reqsync =>
    have hg : g.hold = .authed i := hg
    have hslot : g.hold.slot = some i := by rw [hg]; rfl
    have hwork : g.hold.working = some (i, .member) := by rw [hg]; rfl
    have hset : g.hold.Settled := by
      rw [hg]
      exact ⟨by simp, by simp, by simp⟩
    exact lifeInv_send_own hs hl hk (by simp) stop em poll rs hslot hwork (.inl hwork) hset
      (by decide) (by simp [Stage.young]) (by simp)
  | sync =>
    -- the answer to a REQSYNC, authenticated or not
    have hset : g.hold.Settled := by
      rcases hg with hg | hg <;> rw [hg] <;> exact ⟨by simp, by simp, by simp⟩
    have hslot : g.hold.slot = some i := by rcases hg with hg | hg <;> rw [hg] <;> rfl
    rcases hg with hg | hg
    · have hwork : g.hold.working = some (i, .asked) := by rw [hg]; rfl
      exact lifeInv_send_own hs hl hk (by simp) stop em poll rs hslot hwork (.inl hwork) hset
        (by decide) (by simp [Stage.young]) (by simp)
    · have hwork : g.hold.working = some (i, .member) := by rw [hg]; rfl
      exact lifeInv_send_own hs hl hk (by simp) stop em poll rs hslot hwork (.inl hwork) hset
        (by decide) (by simp [Stage.young]) (by simp)

/-- INTERNAL: `teavpn2_auth` decides on the credentials in the buffer. -/
theorem lifeInv_auth {w : World} {g : Ghost} (i : Nat) (username password : List UInt8)
    (hs : SlotInv w g.hold) (hl : LifeInv w g) (hg : opGuard g (.auth i username password)) :
    LifeInv (exec (.auth i username password) w).2
      (g.to (opNext g.hold (.auth i username password) (exec (.auth i username password) w).1)) := by
  obtain ⟨hg, htype, _⟩ := hg
  have hc := hs.held i (by rw [hg]; rfl)
  have hwork : g.hold.working = some (i, .deciding) := by rw [hg]; rfl
  have hi := hl.slots i hc
  rw [Hold.stage_self hwork] at hi
  have hauth : (w.st.sessArr i).isAuthenticated = false := by
    obtain ⟨p, _, hp⟩ := hi.phase
    simp only [Stage.allows, Bool.and_eq_true, Bool.not_eq_true', beq_iff_eq] at hp
    exact hp.1
  have hemit : ∀ {b : Stage} {h' : Hold} (ok : Bool), h'.working = some (i, b) → h'.Settled →
      (b = .accepted ∧ ok = true ∨ b = .refused) →
      LifeInv (w.emit (.auth i (w.sess i).key ok)) (g.to h') := by
    intro b h' ok hb hset hok
    refine hl.emit hs.table rfl (fun _ => rfl) hc (other_steady hwork (.inl hb)) (fun _ _ => rfl)
      (fun _ => rfl) (by simp) ?_ ?_ hset
    · rintro j k _ ⟨_, _, _, he, _⟩
      cases he
    · rw [Hold.stage_self hb]
      refine hi.append rfl (by simp) ?_ (fun _ => by decide) ?_ ?_ ?_ ?_ ?_
      · intro p hp hallow
        rw [sights_append_of_none rfl]
        refine ⟨p, hp, ?_⟩
        rcases hok with ⟨rfl, _⟩ | rfl <;> exact hallow
      · rcases hok with ⟨rfl, _⟩ | rfl <;> nofun
      · intro d _ hopen _ _
        exact hopen rfl rfl
      · rcases hok with ⟨rfl, _⟩ | rfl <;> nofun
      · intro hacc
        have htrue : ok = true := by
          rcases hok with ⟨_, h⟩ | rfl
          · exact h
          · cases hacc
        subst htrue
        refine ⟨rfl, rfl, ?_⟩
        intro buf d hpkt hd
        rw [hpkt] at htype
        rw [@doRecvFrom_raw buf d 0, ← hpkt]
        · rw [← hpkt] at htype
          exact congrArg some htype
        · have hlen := mt (doRecvFrom_len_eq_zero buf d).mp hd
          omega
      · intro _
        rw [loggedIn_append_iff, hi.login rfl]
        · rcases hok with ⟨rfl, _⟩ | rfl <;> simp
        · rintro ⟨_, _, _, he, _⟩
          cases he
  simp only [exec, opNext]
  split
  · next iff heq =>
    rw [heq]
    exact hemit true rfl ⟨by simp, by simp, by simp⟩ (.inl ⟨rfl, rfl⟩)
  · next heq =>
    rw [heq]
    exact hemit false rfl ⟨by simp, by simp, by simp⟩ (.inr rfl)

/-- INTERNAL: the writes to the TUN device are not seen by any client. -/
theorem lifeInv_writeTun {w : World} {g : Ghost} (i : Nat) (data : List UInt8)
    (hl : LifeInv w g) (hg : opGuard g (.writeTun i data)) :
    LifeInv (exec (.writeTun i data) w).2 g := by
  obtain ⟨ret, stop, em, poll, rs, tried, -, heq⟩ := writeTun_spec w i data
  have hwork : g.hold.working = some (i, .asked) := by rw [hg.1]; rfl
  have hset : g.hold.Settled := by
    rw [hg.1]
    exact ⟨by simp, by simp, by simp⟩
  have hacc : ∀ j, g.hold.stage j ≠ .accepted := by
    intro j
    by_cases hj : j = i
    · subst hj
      rw [Hold.stage_self hwork]
      decide
    · rw [Hold.stage_of_ne hwork hj]
      decide
  simp only [exec, heq]
  clear heq
  -- one attempt after the other
  induction tried using List.reverseRecOn with
  | nil =>
    refine hl.frame_same ?_ fun _ => rfl
    simp
  | append_singleton tried r ih =>
    refine LifeInv.emit_quiet (e := .tunWrite (w.st.sessArr i).key (w.st.sessArr i).isAuthenticated
      data r) ih ?_ (fun _ => rfl) (fun _ => rfl) (fun _ => rfl) (by simp) ?_ (by simp) hacc hset
    · simp
    · rintro j k ⟨_, _, _, he, _⟩
      cases he

/-- INTERNAL: **every guarded operation keeps the life cycle.** -/
theorem lifeInv_exec {w : World} {g : Ghost} (o : Op) (hs : SlotInv w g.hold) (hl : LifeInv w g)
    (hg : opGuard g o) : LifeInv (exec o w).2 (g.to (opNext g.hold o (exec o w).1)) := by
  cases o with
  | lookupUdpSess addr port => exact lifeInv_lookup addr port hs hl hg
  | createUdpSess addr port => exact lifeInv_create addr port hs hl hg
  | deleteUdpSession i => exact lifeInv_delete i hs hl hg
  | send i data => exact lifeInv_send i data hs hl hg
  | auth i username password => exact lifeInv_auth i username password hs hl hg
  | writeTun i data => exact lifeInv_writeTun i data hl hg
  | loadIsConnected i =>
    -- the slots of a scan: the last one was authenticated, or is left alone
    have hstage : ∀ h' : Hold, h'.working = none → ∀ j,
        Stage.Le (w.st.sessArr j).isAuthenticated (g.hold.stage j) (h'.stage j) := by
      intro h' hb
      rcases hg with hg | ⟨j, hg | hg | hg | hg⟩
      · exact stage_le_none (by rw [hg]; rfl) hb
      · exact stage_le_none (by rw [hg]; rfl) hb
      · exact stage_le_none (by rw [hg]; rfl) hb
      · exact stage_le (a := .member) (b := .steady) (.inl (by rw [hg]; rfl)) (.inr ⟨hb, rfl⟩)
          (le_steady _).2
      · exact stage_le_none (by rw [hg]; rfl) hb
    simp only [opNext]
    split
    · exact hl.frame rfl (fun _ => rfl) (hstage _ rfl) (.inl ⟨by simp, by simp, by simp⟩)
    · exact hl.frame rfl (fun _ => rfl) (hstage _ rfl) (.inl ⟨by simp, by simp, by simp⟩)
  | loadIsAuthenticated i =>
    have hnone : g.hold ≠ .found i → g.hold.working = none := by
      intro hne
      rcases hg with hg | hg | hg | ⟨j, hg⟩
      · exact absurd hg hne
      · rw [hg]; rfl
      · rw [hg]; rfl
      · rw [hg]; rfl
    cases hauth : (w.st.sessArr i).isAuthenticated <;>
      simp only [exec, World.sess, hauth, opNext, Bool.false_eq_true, if_true, if_false] <;> split
    · next hf =>
      refine hl.frame rfl (fun _ => rfl) (stage_le (a := .asked) (b := .deciding)
        (.inl (by rw [hf]; rfl)) (.inl rfl) ?_) (.inl ⟨by simp, by simp, by simp⟩)
      rw [hauth]
      decide
    · next hf =>
      split <;> exact hl.frame rfl (fun _ => rfl) (stage_le_none (hnone hf) rfl)
        (.inl ⟨by simp, by simp, by simp⟩)
    · next hf =>
      refine hl.frame rfl (fun _ => rfl) (stage_le (a := .asked) (b := .member)
        (.inl (by rw [hf]; rfl)) (.inl rfl) ?_) (.inl ⟨by simp, by simp, by simp⟩)
      rw [hauth]
      decide
    · next hf =>
      split
      · refine hl.frame rfl (fun _ => rfl) (stage_le (a := .steady) (b := .member)
          (.inr ⟨hnone hf, rfl⟩) (.inl rfl) ?_) (.inl ⟨by simp, by simp, by simp⟩)
        rw [hauth]
        decide
      · exact hl.frame rfl (fun _ => rfl) (stage_le_none (hnone hf) rfl)
          (.inl ⟨by simp, by simp, by simp⟩)
  | loadIpv4Iff i =>
    have hle := le_leaving (w.st.sessArr i).isAuthenticated
    have hset : (Hold.closingIff i (exec (.loadIpv4Iff i) w).1).Settled := ⟨by simp, by simp, by simp⟩
    rcases hg with hg | hg | hg | hg | hg
    · exact hl.frame rfl (fun _ => rfl) (stage_le (a := .asked) (.inl (by rw [hg]; rfl)) (.inl rfl)
        hle.2.1) (.inl hset)
    · exact hl.frame rfl (fun _ => rfl) (stage_le (a := .steady) (.inr ⟨by rw [hg]; rfl, rfl⟩)
        (.inl rfl) hle.1) (.inl hset)
    · exact hl.frame rfl (fun _ => rfl) (stage_le (a := .steady) (.inr ⟨by rw [hg]; rfl, rfl⟩)
        (.inl rfl) hle.1) (.inl hset)
    · exact hl.frame rfl (fun _ => rfl) (stage_le (a := .member) (.inl (by rw [hg]; rfl)) (.inl rfl)
        hle.2.2) (.inl hset)
    · exact hl.frame rfl (fun _ => rfl) (stage_le (a := .leaving) (.inl (by rw [hg]; rfl)) (.inl rfl)
        (Stage.Le.refl _ _)) (.inl hset)
  | storeAddr i saddr =>
    have hg : g.hold = .created i saddr := hg
    have hkey := hl.created i saddr hg
    refine hl.store (fun s => { s with addr := saddr }) (.fresh i) (a := .born) (by rw [hg]; rfl) rfl
      (fun _ => ⟨rfl, rfl⟩) (fun hborn => ?_) ⟨by simp, by simp, by simp⟩
    obtain ⟨pre, d, hlog, hbuf, _⟩ := hborn.opened
    have hlogin : LoggedIn i (w.st.sessArr i).key (life i w.log) ↔
        (w.st.sessArr i).isAuthenticated = true := by simpa using hborn.login rfl
    refine ⟨fun _ => hkey.symm, hborn.phase,
      ⟨pre, d, hlog, fun _ => hbuf rfl, by simp [Stage.young]⟩, hborn.kept, by simp [Stage.asks],
      by simp, fun _ => hlogin.trans ?_⟩
    simp
  | storeIpv4Iff i addr =>
    have hg : g.hold = .granted i addr := hg
    exact hl.frame rfl (face_setSess w i _ fun _ => rfl) (stage_le (a := .granting)
      (.inl (by rw [hg]; rfl)) (.inl rfl) (Stage.Le.refl _ _))
      (.inl ⟨by simp [opNext], by simp [opNext], by simp [opNext]⟩)
  | storeIsAuthenticated i =>
    obtain ⟨addr, hg⟩ := hg
    refine hl.store (fun s => { s with isAuthenticated := true }) (.authed i) (a := .granting)
      (by rw [hg]; rfl) rfl (fun _ => ⟨rfl, rfl⟩) (fun hgr => ?_) ⟨by simp, by simp, by simp⟩
    obtain ⟨pre, d, hlog, _, hopen⟩ := hgr.opened
    exact ⟨fun _ => hgr.addr (by decide), hgr.phase,
      ⟨pre, d, hlog, by simp [Stage.young], fun _ _ => hopen rfl rfl⟩, hgr.kept,
      by simp [Stage.asks], by simp,
      fun _ => ⟨fun _ => .inl rfl, fun _ => (hgr.login rfl).mpr (.inr rfl)⟩⟩
  | storeUsername i username => exact hl.frame_same rfl (face_setSess w i _ fun _ => rfl)
  | updateLastAct i =>
    obtain ⟨gtod, t, _, heq⟩ := udpSessUpdateLastAct_eq w i
    simp only [exec, heq, opNext]
    exact hl.frame_same rfl (face_setSess w i (fun s => { s with lastAct := t }) fun _ => rfl)
  | incLoopC i =>
    have hface := face_setSess w i (fun s => { s with loopC := s.loopC + 1 }) fun _ => rfl
    rcases hg with hg | hg | hg
    · have hnext : opNext g.hold (.incLoopC i) (exec (.incLoopC i) w).1 = g.hold := by rw [hg]; rfl
      rw [hnext]
      exact hl.frame_same rfl hface
    · have hnext : opNext g.hold (.incLoopC i) (exec (.incLoopC i) w).1 = g.hold := by rw [hg]; rfl
      rw [hnext]
      exact hl.frame_same rfl hface
    · have hnext : opNext g.hold (.incLoopC i) (exec (.incLoopC i) w).1 = .idle := by rw [hg]; rfl
      rw [hnext]
      exact hl.frame rfl hface (stage_le_none (by rw [hg]; rfl) rfl) (.inl ⟨by simp, by simp, by simp⟩)
  | addRoute addr idx =>
    obtain ⟨i, hg, _⟩ := hg
    simp only [opNext, hg]
    exact hl.frame rfl (fun _ => rfl) (stage_le (a := .granting) (.inl (by rw [hg]; rfl)) (.inl rfl)
      (Stage.Le.refl _ _)) (.inl ⟨by simp, by simp, by simp⟩)
  | delRoute addr =>
    obtain ⟨_, i, hg⟩ := hg
    simp only [opNext, hg]
    exact hl.frame rfl (fun _ => rfl) (stage_le (a := .leaving) (.inl (by rw [hg]; rfl)) (.inl rfl)
      (Stage.Le.refl _ _)) (.inl ⟨by simp, by simp, by simp⟩)
  | getRoute addr =>
    have hg : g.hold = .idle := hg
    simp only [opNext]
    split
    · exact hl.frame_same rfl fun _ => rfl
    · exact hl.frame rfl (fun _ => rfl) (stage_le_none (by rw [hg]; rfl) rfl)
        (.inl ⟨by simp, by simp, by simp⟩)
  | getUnixTime =>
    obtain ⟨r, gtod, heq⟩ := getUnixTime_eq w
    simp only [exec, heq, opNext]
    exact hl.frame_same rfl fun _ => rfl
  | loadLastAct i => exact hl
  | loadIdx i => exact hl
  | loadWiu i => exact hl
  | loadNOnSess => exact hl
  | loadRejMsg => exact hl

/-! ## Runs -/

/-- INTERNAL: between two inputs every slot is steady. -/
def Server.LifeInv (s : Server) : Prop :=
  ∀ env, Analysis.LifeInv (s.world env) { src := ⟨0, 0⟩, pkt := Server.zeroPkt }

/-- INTERNAL: what a handler leaves of its own slot is as good as steady. -/
theorem LifeInv.rest {s : Server} {env env' : Env} {g : Ghost} (hl : LifeInv (s.world env) g)
    (hrest : g.hold.Rest) : LifeInv (s.world env') { src := ⟨0, 0⟩, pkt := Server.zeroPkt } := by
  refine ⟨?_, hl.absent, by simp, by simp, by simp⟩
  intro i hc
  have hle : ∀ auth, Stage.Le auth (g.hold.stage i) .steady := by
    intro auth
    cases hh : g.hold with
    | found j =>
      simp only [Hold.stage, Hold.working]
      split
      · exact (le_steady auth).1
      · exact Stage.Le.refl _ _
    | authed j =>
      simp only [Hold.stage, Hold.working]
      split
      · exact (le_steady auth).2
      · exact Stage.Le.refl _ _
    | start => exact Stage.Le.refl _ _
    | idle => exact Stage.Le.refl _ _
    | absent k => exact Stage.Le.refl _ _
    | opened j => exact Stage.Le.refl _ _
    | unauth j => exact Stage.Le.refl _ _
    | dead j => exact Stage.Le.refl _ _
    | target j => exact Stage.Le.refl _ _
    | _ =>
      rw [hh] at hrest
      exact hrest.elim
  exact ((hl.slots i hc).weaken (hle _)).steady_pkt _

theorem LifeInv.start {s : Server} {env : Env} (inp : Input) (hl : Server.LifeInv s) :
    LifeInv (startWorld s env inp) (startGhost s inp) := by
  cases inp with
  | udp saddr data =>
    have hw := hl env
    refine ⟨?_, ?_, fun _ => ⟨s.log, s.pkt, data, rfl, rfl⟩, by simp [startGhost], by simp [startGhost]⟩
    · intro i hc
      refine ((hw.slots i hc).steady_pkt _).append_quiet rfl (by simp) rfl ?_ (by decide)
        (by simp [Stage.asks])
      rintro ⟨_, _, _, he, _⟩
      cases he
    · intro k hk
      have hlog : (startWorld s env (.udp saddr data)).log = s.log ++ [.recv saddr data] := rfl
      rw [hlog, sights_append_of_none rfl]
      exact hw.absent k hk
  | tun data => exact hl env
  | reap => exact hl env
  | shutdown => exact hl env

theorem step_lifeInv {s : Server} {env : Env} (inp : Input) (hs : Server.SlotInv s)
    (hl : Server.LifeInv s) (henv : env.NoEbadmsg) : Server.LifeInv (s.step env inp) := by
  obtain ⟨env', g, hrest, _, hI⟩ := step_inv (fun w g => SlotInv w g.hold ∧ LifeInv w g)
    (fun w g o hw hg => ⟨(slotInv_exec o hw.1 hg).1, (slotInv_exec o hw.1 hg).2,
      lifeInv_exec o hw.1 hw.2 hg⟩) ⟨(hs env henv).start inp, LifeInv.start inp hl⟩
  exact fun env'' => hI.rest hrest

theorem boot_lifeInv (maxConn : UInt16) (dataDir : List UInt8) (o : ByteOrder)
    (pkt zrPkt : ScPkt) : Server.LifeInv (Server.boot maxConn dataDir o pkt zrPkt) := by
  intro env
  refine ⟨?_, fun _ _ => rfl, by simp, by simp, by simp⟩
  intro i hc
  cases hc

theorem reach_lifeInv {maxConn : UInt16} {dataDir : List UInt8} {o : ByteOrder}
    {pkt zrPkt : ScPkt} {s : Server}
    (h : Server.Reach (fun _ env _ => env.NoEbadmsg) (Server.boot maxConn dataDir o pkt zrPkt) s) :
    Server.LifeInv s := by
  have hinv : Server.SlotInv s ∧ Server.LifeInv s := by
    refine h.inv (fun s => Server.SlotInv s ∧ Server.LifeInv s)
      ⟨boot_slotInv maxConn dataDir o pkt zrPkt, boot_lifeInv maxConn dataDir o pkt zrPkt⟩ ?_
    intro s env inp hs henv
    exact ⟨step_slotInv inp hs.1 henv, step_lifeInv inp hs.1 hs.2 henv⟩
  exact hinv.2

/-- INTERNAL: **the life cycle of the sessions.** In every state of every run, with any
outcome of `teavpn2_auth` and of the system calls except `EBADMSG` from `sendto`:
a connected session was created by a datagram that is a good handshake, and has not been
deleted since; it is authenticated exactly if, since then, `teavpn2_auth` accepted an AUTH
packet of its endpoint and the AUTH_OK was sent; and what an endpoint sees is a sequence of
complete lives, followed by the open life of its session if it has one.
SOURCE: udp_epoll.c:420-630, 715-783, 1035-1139 -/
theorem life_cycle {maxConn : UInt16} {dataDir : List UInt8} {o : ByteOrder}
    {pkt zrPkt : ScPkt} {s : Server}
    (h : Server.Reach (fun _ env _ => env.NoEbadmsg) (Server.boot maxConn dataDir o pkt zrPkt) s) :
    (∀ i, (s.st.sessArr i).isConnected = true → ∃ pre d,
      s.log = pre ++ .recv (s.st.sessArr i).key d :: .create i (s.st.sessArr i).key :: life i s.log ∧
      (∀ k, .delete i k ∉ life i s.log) ∧ OpeningDatagram d) ∧
    (∀ i, (s.st.sessArr i).isAuthenticated = true ↔
      (s.st.sessArr i).isConnected = true ∧ LoggedIn i (s.st.sessArr i).key (life i s.log)) ∧
    ∀ k, ∃ (lives : List (List PktKind)) (cur : Option (List PktKind)),
      sights k s.log = lives.flatMap completeSights ++ cur.elim [] openSights ∧
      (∀ l ∈ lives, CompleteLife l) ∧ (∀ l ∈ cur, OpenLife l) ∧
      (cur.isSome ↔ ∃ i, (s.st.sessArr i).isConnected = true ∧ (s.st.sessArr i).key = k) := by
  have hslot := reach_slotInv h {} (by simp [Env.NoEbadmsg])
  have hlife := reach_lifeInv h {}
  have hsteady : ∀ i, (s.st.sessArr i).isConnected = true →
      SlotLife Server.zeroPkt s.log (s.st.sessArr i) i .steady := hlife.slots
  refine ⟨?_, ?_, ?_⟩
  · intro i hc
    obtain ⟨pre, d, hlog, _, hopen⟩ := (hsteady i hc).opened
    exact ⟨pre, d, hlog, (hsteady i hc).kept, hopen rfl rfl⟩
  · intro i
    constructor
    · intro hauth
      have hc : (s.st.sessArr i).isConnected = true := hslot.connected_of_authenticated hauth
      exact ⟨hc, ((hsteady i hc).login rfl).mpr (.inl hauth)⟩
    · rintro ⟨hc, hlog⟩
      exact (((hsteady i hc).login rfl).mp hlog).resolve_right (by simp)
  · intro k
    by_cases habs : Absent s.st k
    · obtain ⟨lives, cur, hv, hlives⟩ := track_lives (hlife.absent k habs)
      cases hlives with
      | none hc =>
        refine ⟨lives, none, hv, hc, by simp, by simp, ?_⟩
        rintro ⟨i, hc, hkey⟩
        exact absurd hkey (habs i hc)
    · simp only [Absent, not_forall, not_not] at habs
      obtain ⟨i, hc, hkey⟩ := habs
      obtain ⟨p, hp, hallow⟩ := (hsteady i hc).phase
      rw [hkey] at hp
      obtain ⟨lives, cur, hv, hlives⟩ := track_lives hp
      cases hlives with
      | @some l _ hcomp hword =>
        refine ⟨lives, some l, hv, hcomp, ?_, fun _ => ⟨i, hc, hkey⟩, fun _ => rfl⟩
        rintro l' ⟨rfl⟩
        apply hword.openLife
        simp only [Stage.allows, beq_iff_eq] at hallow
        rw [hallow]
        split
        · exact .inr (.inr rfl)
        · exact .inr (.inl rfl)

theorem life_cycle_handshake :
    ∃ s, Server.Reach (fun _ env _ => env.NoEbadmsg)
        (Server.boot 2 [] .little Server.zeroPkt Server.zeroPkt) s ∧
      (s.st.sessArr 0).isConnected = true ∧
      ∃ pre d, s.log = pre ++ .recv (s.st.sessArr 0).key d :: .create 0 (s.st.sessArr 0).key ::
        life 0 s.log ∧ (∀ k, .delete 0 k ∉ life 0 s.log) ∧ OpeningDatagram d := by
  have h₀ : Server.Reach (fun _ env _ => env.NoEbadmsg)
    (Server.boot 2 [] .little Server.zeroPkt Server.zeroPkt) _ := .init
  have h := h₀.step {} (.udp ⟨0x0a000001, 1000⟩ handshakeDatagram) (by simp [Env.NoEbadmsg])
  have hc : ((Server.boot 2 [] .little Server.zeroPkt Server.zeroPkt).step {}
    (.udp ⟨0x0a000001, 1000⟩ handshakeDatagram)).st.sessArr 0 |>.isConnected := by decide
  exact ⟨_, h, hc, (life_cycle h).1 0 hc⟩

end TeaVpn2.Analysis
