import Mathlib.Data.Multiset.AddSub
import TeaVpn2.Lib.Prog

/-!
# Runs with a log, and ledgers of resources

`answer env` runs a program against a system that may take everything that happened into
account: the answer to an operation is any function of the log of the operations before it and
their answers. `account` folds the log into a summary. A program is reasoned about through the
protocol whose ghost state is that summary (`Protocol.account`); `Conforms.run_account` carries
the result to the log of every run.

A `Ledger` is a summary for things that are obtained and have to be given back once: the multiset
of what is held, or `none` once something was given back that was not held.
-/

set_option autoImplicit false

namespace TeaVpn2.Lib

section Log

variable {Op : Type} {Res : Op → Type} {α G : Type}

/-- The operations of a run with their answers, in order. -/
abbrev Log (Op : Type) (Res : Op → Type) : Type := List (Σ o : Op, Res o)

/-- The system answers from what happened so far. -/
def answer (env : Log Op Res → (o : Op) → Res o) (o : Op) (log : Log Op Res) :
    Res o × Log Op Res :=
  (env log o, log ++ [⟨o, env log o⟩])

/-- The summary of a log that starts from `g`. -/
def account (f : G → (o : Op) → Res o → G) (g : G) (log : Log Op Res) : G :=
  log.foldl (fun g x => f g x.1 x.2) g

/-- The protocol that allows everything and keeps the summary. -/
def Protocol.account (f : G → (o : Op) → Res o → G) : Protocol Op Res G where
  guard _ _ := True
  ok _ _ _ := True
  next := f

variable {f : G → (o : Op) → Res o → G}

/-- INTERNAL: what holds of the summary for all answers holds of the log of every run. -/
theorem Conforms.run_account {p : Prog Op Res α} {g g₀ : G} {Q : α → G → Prop}
    (hp : Conforms (Protocol.account f) p g Q) (env : Log Op Res → (o : Op) → Res o)
    {log : Log Op Res} (hg : account f g₀ log = g) :
    Q (p.run (answer env) log).1 (account f g₀ (p.run (answer env) log).2) := by
  have hstep : ∀ (log : Log Op Res) (g : G) (o : Op), account f g₀ log = g →
      account f g₀ (answer env o log).2 = f g o (answer env o log).1 := by
    intro log g o hI
    rw [← hI, answer, account, List.foldl_append]
    rfl
  obtain ⟨g', hQ, hI⟩ := Conforms.run_inv (fun (log : Log Op Res) g => account f g₀ log = g)
    (fun log g o hI _ => ⟨trivial, hstep log g o hI⟩) hp hg
  rw [hI]
  exact hQ

/-- INTERNAL: a program that issues only operations that the summary ignores. -/
theorem Conforms.of_uses {P : Op → Prop} {p : Prog Op Res α} (hu : Prog.Uses P p)
    (hf : ∀ g o r, P o → f g o r = g) {g : G} {Q : α → G → Prop} (hQ : ∀ a, Q a g) :
    Conforms (Protocol.account f) p g Q := by
  unfold Prog.Uses at hu
  induction p with
  | pure a => exact hQ a
  | op o k ih =>
    refine ⟨trivial, fun r _ => ?_⟩
    have hsame : (Protocol.account f).next g o r = g := hf g o r hu.1
    rw [hsame]
    exact ih r (hu.2 r trivial)

/-- INTERNAL: the log of a run has no other operations than those the program can issue. -/
theorem Prog.Uses.run_log {P : Op → Prop} {p : Prog Op Res α} (hu : Uses P p)
    (env : Log Op Res → (o : Op) → Res o) {log : Log Op Res} (hlog : ∀ x ∈ log, P x.1) :
    ∀ x ∈ (p.run (answer env) log).2, P x.1 := by
  refine hu.run_keeps (fun log : Log Op Res => ∀ x ∈ log, P x.1) (fun o log ho hI => ?_) hlog
  intro x hx
  rcases List.mem_append.mp hx with h | h
  · exact hI x h
  · rw [List.mem_singleton.mp h]
    exact ho

end Log

/-! ## Ledgers -/

/-- What is held; `none` after something was given back that was not held. -/
abbrev Ledger (α : Type) : Type := Option (Multiset α)

namespace Ledger

variable {α : Type}

def obtain (l : Ledger α) (x : α) : Ledger α := l.map fun s => x ::ₘ s

def release [DecidableEq α] (l : Ledger α) (x : α) : Ledger α :=
  l.bind fun s => if x ∈ s then some (s.erase x) else none

@[simp] theorem obtain_some (s : Multiset α) (x : α) : obtain (some s) x = some (x ::ₘ s) := rfl

@[simp] theorem release_cons [DecidableEq α] (s : Multiset α) (x : α) :
    release (some (x ::ₘ s)) x = some s := by
  simp [release]

end Ledger

end TeaVpn2.Lib
