import Mathlib.Data.List.Induction
import TeaVpn2.Analysis.SessionProtocol

/-!
# The language of the replies

What an endpoint sees of the server, packets of the TUN device apart, is a sequence of
sessions: each is created, receives packets and is deleted. `ReplyLaw` says which packets
may follow which within a session, `CompleteLife` that a session has ended properly and
`OpenLife` that it has not ended. `track` reads what an endpoint sees with a small automaton;
`track_lives` is the connection: whatever the automaton accepts is a sequence of complete
lives, and at most one open life behind them.
-/

set_option autoImplicit false

namespace TeaVpn2.Analysis

open TeaVpn2 TeaVpn2.Lib

/-! ## What an endpoint sees -/

inductive Sight where
  | create
  | delete
  | pkt (kind : Option PktKind)
deriving DecidableEq, Repr

/-- What the endpoint `k` sees of an event. Packets of the TUN device are left out. -/
def sight (k : Endpoint) : Event → Option Sight
  | .create _ key => if key = k then some .create else none
  | .delete _ key => if key = k then some .delete else none
  | .send _ dst _ data _ =>
      if dst = k ∧ kindOf data ≠ some .tunData then some (.pkt (kindOf data)) else none
  | _ => none

def sights (k : Endpoint) (log : List Event) : List Sight := log.filterMap (sight k)

theorem sights_append_of_none {k : Endpoint} {e : Event} (h : sight k e = none)
    (log : List Event) : sights k (log ++ [e]) = sights k log := by
  simp [sights, List.filterMap_append, h]

theorem sights_append_of_some {k : Endpoint} {e : Event} {x : Sight} (h : sight k e = some x)
    (log : List Event) : sights k (log ++ [e]) = sights k log ++ [x] := by
  simp [sights, List.filterMap_append, h]

/-! ## The law -/

/-- The packets of one session, in the order in which they are sent: the first is HANDSHAKE
or HANDSHAKE_REJECT, there is one AUTH_OK at most and no REQSYNC before it, and after a
reject or a CLOSE there is at most a CLOSE, or nothing. -/
structure ReplyLaw (l : List PktKind) : Prop where
  first : ∀ p ∈ l.head?, p = .handshake ∨ p = .handshakeReject
  authOk : l.count .authOk ≤ 1
  reqsync : ∀ a b, l = a ++ .reqsync :: b → .authOk ∈ a
  reject : ∀ a p b, l = a ++ p :: b → p = .handshakeReject ∨ p = .authReject →
    ∀ q ∈ b, q = .close
  close : ∀ a b, l = a ++ .close :: b → b = []

/-- A session that has been deleted: it obeyed the law and ended with its only CLOSE. -/
structure CompleteLife (l : List PktKind) : Prop extends ReplyLaw l where
  last : l.getLast? = some .close
  once : l.count .close = 1

/-- A session that is open obeys the law and has not been sent a CLOSE or a reject. -/
structure OpenLife (l : List PktKind) : Prop extends ReplyLaw l where
  unfinished : .close ∉ l ∧ .handshakeReject ∉ l ∧ .authReject ∉ l

/-- What an endpoint sees of a session that has been deleted, and of one that has not. -/
def completeSights (l : List PktKind) : List Sight :=
  .create :: l.map (fun p => .pkt (some p)) ++ [.delete]

def openSights (l : List PktKind) : List Sight := .create :: l.map (fun p => .pkt (some p))

/-! ## The automaton -/

/-- How far a session has come, by the packets that were sent to it. -/
inductive Phase where
  | new
  | opened
  | authed
  | rejected
  | closed
deriving DecidableEq, Repr

def Phase.next : Phase → PktKind → Option Phase
  | .new, .handshake => some .opened
  | .new, .handshakeReject => some .rejected
  | .opened, .sync => some .opened
  | .opened, .authOk => some .authed
  | .opened, .authReject => some .rejected
  | .opened, .close => some .closed
  | .authed, .sync => some .authed
  | .authed, .reqsync => some .authed
  | .authed, .close => some .closed
  | .rejected, .close => some .closed
  | _, _ => none

namespace Phase

variable {p p' : Phase} {q : PktKind}

/-! What a packet says about the phase it is sent in. -/

theorem of_next_new (h : Phase.new.next q = some p') : q = .handshake ∨ q = .handshakeReject := by
  cases q <;> simp [Phase.next] at h ⊢

theorem of_next_authOk (h : p.next .authOk = some p') : p = .opened := by
  cases p <;> simp [Phase.next] at h ⊢

theorem of_next_reqsync (h : p.next .reqsync = some p') : p = .authed := by
  cases p <;> simp [Phase.next] at h ⊢

theorem next_closed (q : PktKind) : Phase.closed.next q = none := by
  cases q <;> rfl

/-- After a reject only a CLOSE can follow. -/
theorem eq_close_of_next (hp : ¬(p = .new ∨ p = .opened ∨ p = .authed)) (h : p.next q = some p') :
    q = .close := by
  cases p with
  | rejected => cases q <;> simp [Phase.next] at h ⊢
  | closed =>
    rw [next_closed] at h
    cases h
  | _ => simp at hp

end Phase

/-- One step of the automaton; the state is the phase of the session of the endpoint. -/
def trackStep : Option Phase → Sight → Option (Option Phase)
  | none, .create => some (some .new)
  | some p, .pkt (some q) => (p.next q).map some
  | some .closed, .delete => some none
  | _, _ => none

def track (l : List Sight) : Option (Option Phase) := l.foldlM trackStep none

theorem track_append (l : List Sight) (x : Sight) :
    track (l ++ [x]) = (track l).bind fun p => trackStep p x := by
  simp [track, List.foldlM_append]

theorem track_append_of_eq {l : List Sight} {p : Option Phase} (h : track l = some p) (x : Sight) :
    track (l ++ [x]) = trackStep p x := by
  rw [track_append, h]
  rfl

/-! ## The automaton accepts what the law allows -/

/-- The packets of a session, and the phase they lead to. -/
inductive Word : List PktKind → Phase → Prop where
  | nil : Word [] .new
  | snoc {l : List PktKind} {p p' : Phase} {q : PktKind} :
      Word l p → p.next q = some p' → Word (l ++ [q]) p'

/-- INTERNAL: which packets have been sent by the time a phase is reached. -/
theorem Word.mem_phase {l : List PktKind} {p : Phase} (h : Word l p) :
    (p = .new ↔ l = []) ∧ (p = .closed ↔ .close ∈ l) ∧
    ((p = .new ∨ p = .opened) → l.count .authOk = 0) ∧
    (p = .authed → .authOk ∈ l) ∧
    ((p = .new ∨ p = .opened ∨ p = .authed) → .handshakeReject ∉ l ∧ .authReject ∉ l) := by
  induction h with
  | nil => simp
  | @snoc l p p' q _ hq ih =>
    cases p <;> cases q <;> simp only [Phase.next, reduceCtorEq, Option.some.injEq] at hq <;>
      subst hq <;> simp_all

/-- INTERNAL: **every word of the automaton obeys the law.** -/
theorem Word.law {l : List PktKind} {p : Phase} (h : Word l p) : ReplyLaw l := by
  induction h with
  | nil => exact ⟨by simp, by simp, by simp, by simp, by simp⟩
  | @snoc l p p' q hw hq ih =>
    obtain ⟨hnew, hclosed, hcount, hauth, hrej⟩ := hw.mem_phase
    -- a split of `l ++ [q]` is a split of `l`, or `q` is the packet in question
    have hsplit : ∀ {a b : List PktKind} {x : PktKind}, l ++ [q] = a ++ x :: b →
        (b = [] ∧ a = l ∧ x = q) ∨ ∃ b', b = b' ++ [q] ∧ l = a ++ x :: b' := by
      intro a b x hab
      rcases List.eq_nil_or_concat b with rfl | ⟨b', y, rfl⟩
      · obtain ⟨rfl, hx⟩ := List.append_inj' hab rfl
        cases hx
        exact .inl ⟨rfl, rfl, rfl⟩
      · rw [List.concat_eq_append, ← List.cons_append, ← List.append_assoc] at hab
        obtain ⟨rfl, hy⟩ := List.append_inj' hab rfl
        cases hy
        exact .inr ⟨b', by simp, rfl⟩
    refine ⟨?_, ?_, ?_, ?_, ?_⟩
    · intro x hx
      cases l with
      | nil =>
        have hp : p = .new := hnew.mpr rfl
        subst hp
        cases hx
        exact Phase.of_next_new hq
      | cons y l => exact ih.first x hx
    · rw [List.count_append]
      by_cases hqa : q = .authOk
      · subst hqa
        rw [hcount (.inr (Phase.of_next_authOk hq))]
        decide
      · simpa [List.count_singleton, hqa] using ih.authOk
    · intro a b hab
      rcases hsplit hab with ⟨_, rfl, rfl⟩ | ⟨b', _, hl⟩
      · exact hauth (Phase.of_next_reqsync hq)
      · exact ih.reqsync a b' hl
    · intro a x b hab hx y hy
      rcases hsplit hab with ⟨rfl, _, _⟩ | ⟨b', rfl, hl⟩
      · cases hy
      · rcases List.mem_append.mp hy with hy | hy
        · exact ih.reject a x b' hl hx y hy
        · -- a reject was sent before, so only CLOSE can follow
          obtain rfl := List.mem_singleton.mp hy
          have hin : x ∈ l := by
            rw [hl]
            simp
          have hp : ¬(p = .new ∨ p = .opened ∨ p = .authed) := by
            intro hp
            obtain ⟨h₁, h₂⟩ := hrej hp
            rcases hx with rfl | rfl
            · exact h₁ hin
            · exact h₂ hin
          exact Phase.eq_close_of_next hp hq
    · intro a b hab
      rcases hsplit hab with ⟨rfl, _, _⟩ | ⟨b', _, hl⟩
      · rfl
      · have hp : p = .closed := by
          apply hclosed.mpr
          rw [hl]
          simp
        subst hp
        rw [Phase.next_closed] at hq
        cases hq

theorem Word.complete {l : List PktKind} (h : Word l .closed) : CompleteLife l := by
  have hlaw := h.law
  have hin : PktKind.close ∈ l := h.mem_phase.2.1.mp rfl
  -- nothing follows the CLOSE, and nothing before it is one
  obtain ⟨a, b, hab⟩ := List.append_of_mem hin
  have hb := hlaw.close a b hab
  subst hb
  refine ⟨hlaw, by simp [hab], ?_⟩
  have ha : PktKind.close ∉ a := by
    intro hmem
    obtain ⟨c, d, hcd⟩ := List.append_of_mem hmem
    have hd := hlaw.close c (d ++ [.close]) (by rw [hab, hcd]; simp)
    simp at hd
  rw [hab, List.count_append, List.count_eq_zero_of_not_mem ha]
  decide

theorem Word.openLife {l : List PktKind} {p : Phase} (h : Word l p)
    (hp : p = .new ∨ p = .opened ∨ p = .authed) : OpenLife l := by
  obtain ⟨_, hclosed, _, _, hrej⟩ := h.mem_phase
  refine ⟨h.law, ?_, hrej hp⟩
  intro hin
  have := hclosed.mpr hin
  subst this
  simp at hp

/-- What the automaton has read: complete lives, and the word of the life that is open. -/
inductive Lives : List (List PktKind) → Option (List PktKind) → Option Phase → Prop where
  | none {lives : List (List PktKind)} : (∀ l ∈ lives, CompleteLife l) → Lives lives none none
  | some {lives : List (List PktKind)} {l : List PktKind} {p : Phase} :
      (∀ l ∈ lives, CompleteLife l) → Word l p → Lives lives (some l) (some p)

/-- INTERNAL: **what the automaton accepts is a sequence of lives.** -/
theorem track_lives {v : List Sight} {p : Option Phase} (h : track v = some p) :
    ∃ lives cur, v = lives.flatMap completeSights ++ cur.elim [] openSights ∧ Lives lives cur p := by
  induction v using List.reverseRecOn generalizing p with
  | nil =>
    cases h
    exact ⟨[], none, rfl, .none (by simp)⟩
  | append_singleton v x ih =>
    rw [track_append] at h
    obtain ⟨p', hp', hstep⟩ := Option.bind_eq_some_iff.mp h
    obtain ⟨lives, cur, hv, hlives⟩ := ih hp'
    subst hv
    cases hlives with
    | none hc =>
      -- outside of a session only a creation is read
      cases x with
      | create =>
        cases hstep
        exact ⟨lives, some [], by simp [openSights], .some hc .nil⟩
      | delete => cases hstep
      | pkt q => cases hstep
    | @some l p' hc hw =>
      cases x with
      | create => cases p' <;> cases hstep
      | delete =>
        cases p' with
        | closed =>
          cases hstep
          refine ⟨lives ++ [l], none, by simp [openSights, completeSights], .none ?_⟩
          intro l' hl'
          rcases List.mem_append.mp hl' with hl' | hl'
          · exact hc l' hl'
          · obtain rfl := List.mem_singleton.mp hl'
            exact hw.complete
        | _ => cases hstep
      | pkt q =>
        cases q with
        | none => cases p' <;> cases hstep
        | some q =>
          have hstep' : (p'.next q).map some = some p := by
            cases p' <;> exact hstep
          obtain ⟨p'', hn, rfl⟩ := Option.map_eq_some_iff.mp hstep'
          refine ⟨lives, some (l ++ [q]), by simp [openSights], .some hc (.snoc hw hn)⟩

end TeaVpn2.Analysis
