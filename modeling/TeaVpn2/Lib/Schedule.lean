import Mathlib.Tactic.Common

/-!
# Schedules of deterministic actors

A system of actors `ι` over a state `σ`: `step i s` is the state after the next step of
actor `i`, or `none` when it cannot move. A schedule is a list of actors, and `play` runs
it. When the steps of two different actors commute wherever both are enabled, the order
in which they are taken does not matter: if one schedule ends in a state in which nobody
can move, every schedule can be completed to that state, with the same number of steps
(`play_complete`), so every schedule that cannot be prolonged ends there (`play_stuck`).
-/

set_option autoImplicit false

namespace TeaVpn2.Lib

namespace Schedule

variable {ι σ : Type}

/-- Let the actors of a schedule move, one after the other. -/
def play (step : ι → σ → Option σ) : List ι → σ → Option σ
  | [], s => some s
  | i :: l, s => (step i s).bind (play step l)

/-- Nobody can move. -/
def Stuck (step : ι → σ → Option σ) (s : σ) : Prop := ∀ i, step i s = none

/-- Different actors that can both move may do so in either order. -/
def Commute (step : ι → σ → Option σ) : Prop :=
  ∀ i j s a b, i ≠ j → step i s = some a → step j s = some b →
    ∃ d, step j a = some d ∧ step i b = some d

variable {step : ι → σ → Option σ}

theorem play_cons {i : ι} {l : List ι} {s t : σ} :
    play step (i :: l) s = some t ↔ ∃ a, step i s = some a ∧ play step l a = some t := by
  simp only [play, Option.bind_eq_some_iff]

theorem play_append {l m : List ι} {s a t : σ} (hl : play step l s = some a)
    (hm : play step m a = some t) : play step (l ++ m) s = some t := by
  induction l generalizing s with
  | nil =>
    cases hl
    exact hm
  | cons i l ih =>
    obtain ⟨b, hb, hrest⟩ := play_cons.mp hl
    exact play_cons.mpr ⟨b, hb, ih hrest⟩

/-- Every move of a schedule meets `P`, stated about the state before the move. -/
def Along (step : ι → σ → Option σ) (P : σ → ι → Prop) : List ι → σ → Prop
  | [], _ => True
  | i :: l, s => P s i ∧ ∀ a, step i s = some a → Along step P l a

theorem along_of_forall {P : σ → ι → Prop} {l : List ι} (h : ∀ i ∈ l, ∀ s, P s i) (s : σ) :
    Along step P l s := by
  induction l generalizing s with
  | nil => trivial
  | cons i l ih =>
    exact ⟨h i List.mem_cons_self s, fun a _ => ih (fun j hj => h j (List.mem_cons_of_mem i hj)) a⟩

/-- `Along`, checked while the schedule is played. -/
def checkAlong (step : ι → σ → Option σ) (p : σ → ι → Bool) : List ι → σ → Bool
  | [], _ => true
  | i :: l, s => p s i && ((step i s).map (checkAlong step p l)).getD true

theorem along_of_checkAlong {P : σ → ι → Prop} {p : σ → ι → Bool} (hp : ∀ s i, p s i = true → P s i)
    {l : List ι} {s : σ} (h : checkAlong step p l s = true) : Along step P l s := by
  induction l generalizing s with
  | nil => trivial
  | cons i l ih =>
    obtain ⟨hi, hrest⟩ := (Bool.and_eq_true _ _).mp h
    refine ⟨hp s i hi, fun a ha => ih ?_⟩
    rwa [ha] at hrest

/-- INTERNAL: the invariant rule. -/
theorem play_inv {P : σ → ι → Prop} (I : σ → Prop)
    (hstep : ∀ s i a, I s → P s i → step i s = some a → I a) {l : List ι} {s t : σ}
    (hs : I s) (hl : Along step P l s) (hplay : play step l s = some t) : I t := by
  induction l generalizing s with
  | nil =>
    cases hplay
    exact hs
  | cons i l ih =>
    obtain ⟨a, ha, hrest⟩ := play_cons.mp hplay
    exact ih (hstep s i a hs hl.1 ha) (hl.2 a ha) hrest

/-- Every state of a schedule satisfies `I`. -/
def Always (step : ι → σ → Option σ) (I : σ → Prop) : List ι → σ → Prop
  | [], s => I s
  | i :: l, s => I s ∧ ∀ a, step i s = some a → Always step I l a

/-- INTERNAL: **the exact invariant rule.** If a move leaves `I` intact exactly when it meets
`P`, then `I` holds in every state of a schedule exactly when every move meets `P`. -/
theorem always_iff_along {P : σ → ι → Prop} {I : σ → Prop}
    (hstep : ∀ s i a, I s → step i s = some a → (I a ↔ P s i)) {l : List ι} {s t : σ}
    (hs : I s) (hplay : play step l s = some t) : Always step I l s ↔ Along step P l s := by
  induction l generalizing s with
  | nil => exact ⟨fun _ => trivial, fun _ => hs⟩
  | cons i l ih =>
    obtain ⟨a, ha, hrest⟩ := play_cons.mp hplay
    have hmove := hstep s i a hs ha
    have honly {b : σ} (hb : step i s = some b) : b = a := Option.some.inj (hb.symm.trans ha)
    unfold Always Along
    constructor
    · rintro ⟨_, hall⟩
      have hI : I a := by
        have hfirst := hall a ha
        cases l with
        | nil => exact hfirst
        | cons j l => exact hfirst.1
      refine ⟨hmove.mp hI, fun b hb => ?_⟩
      rw [honly hb]
      exact (ih hI hrest).mp (hall a ha)
    · rintro ⟨hP, hall⟩
      refine ⟨hs, fun b hb => ?_⟩
      rw [honly hb]
      exact (ih (hmove.mpr hP) hrest).mpr (hall a ha)

variable [DecidableEq ι]

/-- INTERNAL: whoever moves first, the rest of a complete schedule can still be played,
in one step less. -/
theorem play_first (hc : Commute step) {l : List ι} {s a t : σ} {i : ι}
    (hplay : play step l s = some t) (hstuck : Stuck step t) (hi : step i s = some a) :
    ∃ l', play step l' a = some t ∧ l'.length + 1 = l.length := by
  induction l generalizing s a with
  | nil =>
    cases hplay
    rw [hstuck i] at hi
    cases hi
  | cons j l ih =>
    obtain ⟨b, hb, hrest⟩ := play_cons.mp hplay
    by_cases hij : i = j
    · subst hij
      rw [hi] at hb
      cases hb
      exact ⟨l, hrest, rfl⟩
    · -- the two first moves commute, and the induction moves `i` to the front of the rest
      obtain ⟨d, hd, hd'⟩ := hc i j s a b hij hi hb
      obtain ⟨l', hl', hlen⟩ := ih hrest hd'
      refine ⟨j :: l', play_cons.mpr ⟨d, hd, hl'⟩, ?_⟩
      simp only [List.length_cons]
      omega

/-- INTERNAL: **every schedule can be completed** to the state in which one complete
schedule ends, and all complete schedules have the same length. -/
theorem play_complete (hc : Commute step) {l m : List ι} {s a t : σ}
    (hplay : play step l s = some t) (hstuck : Stuck step t) (hm : play step m s = some a) :
    ∃ rest, play step rest a = some t ∧ m.length + rest.length = l.length := by
  induction m generalizing s l with
  | nil =>
    cases hm
    exact ⟨l, hplay, by simp⟩
  | cons i m ih =>
    obtain ⟨b, hb, hrest⟩ := play_cons.mp hm
    obtain ⟨l', hl', hlen⟩ := play_first hc hplay hstuck hb
    obtain ⟨rest, hrest', hlen'⟩ := ih hl' hrest
    refine ⟨rest, hrest', ?_⟩
    simp only [List.length_cons]
    omega

/-- INTERNAL: a schedule that cannot be prolonged ends where the complete one ends. -/
theorem play_stuck (hc : Commute step) {l m : List ι} {s a t : σ}
    (hplay : play step l s = some t) (hstuck : Stuck step t) (hm : play step m s = some a)
    (ha : Stuck step a) : a = t := by
  obtain ⟨rest, hrest, _⟩ := play_complete hc hplay hstuck hm
  cases rest with
  | nil => exact Option.some.inj hrest
  | cons i rest =>
    obtain ⟨b, hb, _⟩ := play_cons.mp hrest
    rw [ha i] at hb
    cases hb

end Schedule

end TeaVpn2.Lib
