import Mathlib.Logic.Function.Basic
import Mathlib.Tactic.Common

/-!
# Programs of atomic operations

`Prog Op Res α` is a program that issues operations `o : Op`, receives an answer in
`Res o` for each, and returns an `α`. The operations are the unit of atomicity: `run`
executes a program alone, one operation after the other, and `Pool` interleaves the
programs of several threads over one shared state, at every operation.

The programs are reasoned about through a typestate protocol. A `Protocol` keeps a
local ghost state `g : G` for the thread that runs the program: `guard g o` says that
the operation `o` may be issued in `g`, `ok g o r` what may be assumed of the answer `r`,
`next g o r` the ghost state after it. `Conforms` says that a program respects the
protocol, whatever the answers; it is a statement about the text of the program and does
not mention the shared state. `Conforms.run_inv` (one thread) and `Pool.reach_inv`
(any interleaving) turn it into invariants of the shared state: it is enough that every
guarded operation keeps the invariant.
-/

set_option autoImplicit false

namespace TeaVpn2.Lib

/-- A program over the operations `Op`, each answered in `Res o`. -/
inductive Prog (Op : Type) (Res : Op → Type) (α : Type) : Type where
  | pure (a : α)
  | op (o : Op) (k : Res o → Prog Op Res α)

namespace Prog

variable {Op : Type} {Res : Op → Type} {α β σ G : Type}

/-- Sequential composition: the second program is grafted onto every leaf of the first. -/
def bind : Prog Op Res α → (α → Prog Op Res β) → Prog Op Res β
  | .pure a, f => f a
  | .op o k, f => .op o fun r => (k r).bind f

instance : Monad (Prog Op Res) where
  pure := Prog.pure
  bind := Prog.bind

/-- The program that issues one operation and returns its answer. -/
def call (o : Op) : Prog Op Res (Res o) := .op o .pure

theorem bind_assoc {γ : Type} (p : Prog Op Res α) (f : α → Prog Op Res β)
    (g : β → Prog Op Res γ) : p >>= f >>= g = p >>= fun a => f a >>= g := by
  show (p.bind f).bind g = p.bind fun a => (f a).bind g
  induction p with
  | pure a => rfl
  | op o k ih => exact congrArg (Prog.op o) (funext ih)

/-! ## Running one program alone -/

/-- The sequential meaning: the state after every operation, in order. -/
def run (exec : (o : Op) → σ → Res o × σ) : Prog Op Res α → σ → α × σ
  | .pure a, s => (a, s)
  | .op o k, s => run exec (k (exec o s).1) (exec o s).2

variable {exec : (o : Op) → σ → Res o × σ}

@[simp] theorem run_pure (a : α) (s : σ) :
    run exec (Pure.pure a : Prog Op Res α) s = (a, s) := rfl

@[simp] theorem run_call (o : Op) (s : σ) : run exec (call o : Prog Op Res _) s = exec o s := rfl

@[simp] theorem run_bind (p : Prog Op Res α) (f : α → Prog Op Res β) (s : σ) :
    run exec (p >>= f) s = run exec (f (run exec p s).1) (run exec p s).2 := by
  show run exec (p.bind f) s = _
  induction p generalizing s with
  | pure a => rfl
  | op o k ih => exact ih (exec o s).1 (exec o s).2

/-- INTERNAL: what no operation changes, no program changes. -/
theorem run_frame {γ : Type} (f : σ → γ) (h : ∀ o s, f (exec o s).2 = f s)
    (p : Prog Op Res α) (s : σ) : f (run exec p s).2 = f s := by
  induction p generalizing s with
  | pure a => rfl
  | op o k ih => exact (ih (exec o s).1 (exec o s).2).trans (h o s)

/-- INTERNAL: what every operation keeps, every program keeps. -/
theorem run_keeps (I : σ → Prop) (h : ∀ o s, I s → I (exec o s).2) (p : Prog Op Res α) {s : σ}
    (hs : I s) : I (run exec p s).2 := by
  induction p generalizing s with
  | pure a => exact hs
  | op o k ih => exact ih (exec o s).1 (h o s hs)

/-- What is observed of the operations of a run, in order. -/
def observed (exec : (o : Op) → σ → Res o × σ) (obs : (o : Op) → σ → List β) :
    Prog Op Res α → σ → List β
  | .pure _, _ => []
  | .op o k, s => obs o s ++ observed exec obs (k (exec o s).1) (exec o s).2

/-- INTERNAL: a quantity that every operation changes as the observations of it say is changed
by a run as the observations of the run say. -/
theorem run_foldl {γ : Type} {obs : (o : Op) → σ → List β} (m : σ → γ) (f : γ → β → γ)
    (h : ∀ o s, m (exec o s).2 = (obs o s).foldl f (m s)) (p : Prog Op Res α) (s : σ) :
    m (run exec p s).2 = (p.observed exec obs s).foldl f (m s) := by
  induction p generalizing s with
  | pure a => rfl
  | op o k ih =>
    show m (run exec (k (exec o s).1) (exec o s).2).2 = _
    rw [ih, h o s, observed, List.foldl_append]

/-! ## Two programs side by side -/

/-- Started in the state `s`, the two programs leave the same state and results that are
related by `R`. -/
def Agree (exec : (o : Op) → σ → Res o × σ) (R : α → β → Prop) (p : Prog Op Res α)
    (q : Prog Op Res β) (s : σ) : Prop :=
  (p.run exec s).2 = (q.run exec s).2 ∧ R (p.run exec s).1 (q.run exec s).1

variable {γ δ : Type}

theorem Agree.bind {R : α → β → Prop} {S : γ → δ → Prop} {p : Prog Op Res α} {q : Prog Op Res β}
    {f : α → Prog Op Res γ} {g : β → Prog Op Res δ} {s : σ} (h : Agree exec R p q s)
    (hk : ∀ a b s', R a b → Agree exec S (f a) (g b) s') : Agree exec S (p >>= f) (q >>= g) s := by
  unfold Agree
  rw [run_bind, run_bind, h.1]
  exact hk _ _ _ h.2

/-- INTERNAL: both programs issue an operation with the same effect. -/
theorem Agree.of_exec {S : γ → δ → Prop} {o o' : Op} {f : Res o → Prog Op Res γ}
    {g : Res o' → Prog Op Res δ} {s : σ} (heff : (exec o s).2 = (exec o' s).2)
    (hk : Agree exec S (f (exec o s).1) (g (exec o' s).1) (exec o s).2) :
    Agree exec S (call o >>= f) (call o' >>= g) s := by
  unfold Agree at hk ⊢
  rw [run_bind, run_bind, run_call, run_call, ← heff]
  exact hk

/-- INTERNAL: both programs issue the same operation. -/
theorem Agree.call_bind {S : γ → δ → Prop} (o : Op) {f : Res o → Prog Op Res γ}
    {g : Res o → Prog Op Res δ} {s : σ} (hk : ∀ r s', Agree exec S (f r) (g r) s') :
    Agree exec S (call o >>= f) (call o >>= g) s :=
  .of_exec rfl (hk (exec o s).1 (exec o s).2)

end Prog

/-! ## Typestate protocols -/

/-- What a thread may do in a ghost state, what it may assume of the answer, and the
ghost state it is in afterwards. -/
structure Protocol (Op : Type) (Res : Op → Type) (G : Type) where
  guard : G → Op → Prop
  ok : G → (o : Op) → Res o → Prop
  next : G → (o : Op) → Res o → G

/-- The program respects the protocol from ghost state `g` on and ends in `Q`. -/
def Conforms {Op : Type} {Res : Op → Type} {α G : Type} (T : Protocol Op Res G) :
    Prog Op Res α → G → (α → G → Prop) → Prop
  | .pure a, g, Q => Q a g
  | .op o k, g, Q => T.guard g o ∧ ∀ r, T.ok g o r → Conforms T (k r) (T.next g o r) Q

namespace Conforms

variable {Op : Type} {Res : Op → Type} {α β σ G : Type} {T : Protocol Op Res G}

@[simp] theorem pure_iff (a : α) (g : G) (Q : α → G → Prop) :
    Conforms T (Pure.pure a : Prog Op Res α) g Q ↔ Q a g := Iff.rfl

@[simp] theorem call_iff (o : Op) (g : G) (Q : Res o → G → Prop) :
    Conforms T (Prog.call o) g Q ↔ T.guard g o ∧ ∀ r, T.ok g o r → Q r (T.next g o r) := Iff.rfl

@[simp] theorem bind_iff (p : Prog Op Res α) (f : α → Prog Op Res β) (g : G)
    (Q : β → G → Prop) :
    Conforms T (p >>= f) g Q ↔ Conforms T p g fun a g' => Conforms T (f a) g' Q := by
  show Conforms T (p.bind f) g Q ↔ _
  induction p generalizing g with
  | pure a => rfl
  | op o k ih => simp only [Prog.bind, Conforms, ih]

/-- INTERNAL: the rule for one operation and what follows it. -/
theorem call_bind {o : Op} {k : Res o → Prog Op Res α} {g : G} {Q : α → G → Prop}
    (hg : T.guard g o) (h : ∀ r, T.ok g o r → Conforms T (k r) (T.next g o r) Q) :
    Conforms T (Prog.call o >>= k) g Q := ⟨hg, h⟩

/-- INTERNAL: the rule of consequence. -/
theorem mono {p : Prog Op Res α} {g : G} {Q R : α → G → Prop} (h : Conforms T p g Q)
    (hQR : ∀ a g', Q a g' → R a g') : Conforms T p g R := by
  induction p generalizing g with
  | pure a => exact hQR a g h
  | op o k ih => exact ⟨h.1, fun r hr => ih r (h.2 r hr)⟩

/-- INTERNAL: **soundness for one thread.** If every guarded operation answers as the
protocol assumes and keeps `I`, a conforming program keeps `I`, in the ghost state its
postcondition describes. -/
theorem run_inv {exec : (o : Op) → σ → Res o × σ} (I : σ → G → Prop)
    (hstep : ∀ s g o, I s g → T.guard g o →
      T.ok g o (exec o s).1 ∧ I (exec o s).2 (T.next g o (exec o s).1))
    {p : Prog Op Res α} {g : G} {Q : α → G → Prop} (hp : Conforms T p g Q)
    {s : σ} (hs : I s g) :
    ∃ g', Q (p.run exec s).1 g' ∧ I (p.run exec s).2 g' := by
  induction p generalizing g s with
  | pure a => exact ⟨g, hp, hs⟩
  | op o k ih =>
    obtain ⟨hok, hI⟩ := hstep s g o hs hp.1
    exact ih _ (hp.2 _ hok) hI

end Conforms

/-- Two protocols at once. -/
def Protocol.prod {Op : Type} {Res : Op → Type} {G H : Type} (T : Protocol Op Res G)
    (U : Protocol Op Res H) : Protocol Op Res (G × H) where
  guard g o := T.guard g.1 o ∧ U.guard g.2 o
  ok g o r := T.ok g.1 o r ∧ U.ok g.2 o r
  next g o r := (T.next g.1 o r, U.next g.2 o r)

/-- INTERNAL: a program that respects two protocols respects both at once. -/
theorem Conforms.prod {Op : Type} {Res : Op → Type} {α G H : Type} {T : Protocol Op Res G}
    {U : Protocol Op Res H} {p : Prog Op Res α} {g : G} {u : H} {Q : α → G → Prop}
    {R : α → H → Prop} (hT : Conforms T p g Q) (hU : Conforms U p u R) :
    Conforms (T.prod U) p (g, u) fun a x => Q a x.1 ∧ R a x.2 := by
  induction p generalizing g u with
  | pure a => exact ⟨hT, hU⟩
  | op o k ih => exact ⟨⟨hT.1, hU.1⟩, fun r hr => ih r (hT.2 r hr.1) (hU.2 r hr.2)⟩

/-! ## The operations a program can issue -/

/-- The protocol without knowledge: every operation satisfies `P`. -/
def Protocol.only {Op : Type} {Res : Op → Type} (P : Op → Prop) : Protocol Op Res Unit where
  guard _ o := P o
  ok _ _ _ := True
  next _ _ _ := ()

/-- All operations the program can issue, whatever it is answered, satisfy `P`. -/
def Prog.Uses {Op : Type} {Res : Op → Type} {α : Type} (P : Op → Prop) (p : Prog Op Res α) : Prop :=
  Conforms (Protocol.only P) p () fun _ _ => True

namespace Prog.Uses

variable {Op : Type} {Res : Op → Type} {α β : Type} {P Q : Op → Prop}

theorem pure (a : α) : Uses P (Pure.pure a : Prog Op Res α) := trivial

theorem call {o : Op} (h : P o) : Uses P (Prog.call o : Prog Op Res (Res o)) :=
  ⟨h, fun _ _ => trivial⟩

theorem bind {p : Prog Op Res α} {f : α → Prog Op Res β} (hp : Uses P p)
    (hf : ∀ a, Uses P (f a)) : Uses P (p >>= f) := by
  unfold Uses
  rw [Conforms.bind_iff]
  exact Conforms.mono hp fun a _ _ => hf a

theorem mono {p : Prog Op Res α} (hp : Uses P p) (h : ∀ o, P o → Q o) : Uses Q p := by
  unfold Uses at hp ⊢
  induction p with
  | pure a => trivial
  | op o k ih => exact ⟨h o hp.1, fun r hr => ih r (hp.2 r hr)⟩

/-- INTERNAL: what no operation of the program changes, the program does not change. -/
theorem run_frame {σ γ : Type} {exec : (o : Op) → σ → Res o × σ} {p : Prog Op Res α}
    (hu : Uses P p) (f : σ → γ) (h : ∀ o s, P o → f (exec o s).2 = f s) (s : σ) :
    f (p.run exec s).2 = f s := by
  unfold Uses at hu
  induction p generalizing s with
  | pure a => rfl
  | op o k ih => exact (ih _ (hu.2 _ trivial) _).trans (h o s hu.1)

/-- INTERNAL: what every operation of the program keeps, the program keeps. -/
theorem run_keeps {σ : Type} {exec : (o : Op) → σ → Res o × σ} {p : Prog Op Res α}
    (hu : Uses P p) (I : σ → Prop) (h : ∀ o s, P o → I s → I (exec o s).2) {s : σ} (hs : I s) :
    I (p.run exec s).2 := by
  unfold Uses at hu
  induction p generalizing s with
  | pure a => exact hs
  | op o k ih => exact ih _ (hu.2 _ trivial) (h o s hu.1 hs)

/-- INTERNAL: soundness for one thread: the operations a program does not use need not keep
the invariant. -/
theorem run_inv {σ G : Type} {T : Protocol Op Res G} {exec : (o : Op) → σ → Res o × σ}
    {p : Prog Op Res α} {g : G} {R : α → G → Prop} (hu : Uses P p) (hp : Conforms T p g R)
    (I : σ → G → Prop)
    (hstep : ∀ s g o, I s g → T.guard g o → P o →
      T.ok g o (exec o s).1 ∧ I (exec o s).2 (T.next g o (exec o s).1))
    {s : σ} (hs : I s g) : ∃ g', R (p.run exec s).1 g' ∧ I (p.run exec s).2 g' := by
  have hboth : Conforms (T.prod (Protocol.only P)) p (g, ()) fun a x => R a x.1 ∧ True :=
    Conforms.prod hp hu
  obtain ⟨⟨g', _⟩, ⟨hR, _⟩, hI⟩ := Conforms.run_inv (fun s (x : G × Unit) => I s x.1)
    (fun s x o hI hg => by
      obtain ⟨hok, hI'⟩ := hstep s x.1 o hI hg.1 hg.2
      exact ⟨⟨hok, trivial⟩, hI'⟩) hboth hs
  exact ⟨g', hR, hI⟩

/-- INTERNAL: a program keeps a protocol that allows all its operations at any time. -/
theorem conforms {G : Type} {T : Protocol Op Res G} {p : Prog Op Res α} (hu : Uses P p)
    (h : ∀ g o, P o → T.guard g o) (g : G) : Conforms T p g fun _ _ => True := by
  unfold Uses at hu
  induction p generalizing g with
  | pure a => trivial
  | op o k ih => exact ⟨h g o hu.1, fun r _ => ih r (hu.2 r trivial) _⟩

end Prog.Uses

/-! ## The results a program can return -/

/-- All results of the program, whatever it is answered, satisfy `P`. -/
def Prog.Returns {Op : Type} {Res : Op → Type} {α : Type} (P : α → Prop) : Prog Op Res α → Prop
  | .pure a => P a
  | .op _ k => ∀ r, Returns P (k r)

namespace Prog.Returns

variable {Op : Type} {Res : Op → Type} {α β : Type} {P : α → Prop} {Q : β → Prop}

theorem any (p : Prog Op Res α) : Returns (fun _ => True) p := by
  induction p with
  | pure a => trivial
  | op o k ih => exact ih

theorem bind {p : Prog Op Res α} {f : α → Prog Op Res β} (hp : Returns P p)
    (hf : ∀ a, P a → Returns Q (f a)) : Returns Q (p >>= f) := by
  show Returns Q (p.bind f)
  induction p with
  | pure a => exact hf a hp
  | op o k ih => exact fun r => ih r (hp r)

theorem mono {R : α → Prop} {p : Prog Op Res α} (hp : Returns P p) (h : ∀ a, P a → R a) :
    Returns R p := by
  induction p with
  | pure a => exact h a hp
  | op o k ih => exact fun r => ih r (hp r)

/-- INTERNAL: the result of the first program does not matter. -/
theorem after (p : Prog Op Res α) {f : α → Prog Op Res β} (hf : ∀ a, Returns Q (f a)) :
    Returns Q (p >>= f) :=
  bind (any p) fun a _ => hf a

theorem run {σ : Type} {exec : (o : Op) → σ → Res o × σ} {p : Prog Op Res α} (hp : Returns P p)
    (s : σ) : P (p.run exec s).1 := by
  induction p generalizing s with
  | pure a => exact hp
  | op o k ih => exact ih _ (hp _) _

end Prog.Returns

/-! ## Interleaving the programs of several threads -/

/-- A system of threads over one shared state. `Job` are the programs a thread may start,
with the ghost state they start in; `Drift` is what the outside world may change between
two operations; `Rest` are the ghost states a program may end in. A thread may let go of
ghost knowledge, by `Lets`, that the rest of its program does not need. -/
structure System (ι Op : Type) (Res : Op → Type) (G σ : Type) where
  proto : Protocol Op Res G
  exec : ι → (o : Op) → σ → Res o × σ
  Job : ι → Prog Op Res Unit → G → Prop
  Drift : σ → σ → Prop
  Rest : G → Prop
  Lets : G → G → Prop

/-- A pool of threads: the shared state, the rest of each thread's program and its ghost
state. -/
structure Pool (ι Op : Type) (Res : Op → Type) (G σ : Type) where
  state : σ
  prog : ι → Prog Op Res Unit
  ghost : ι → G

namespace Pool

variable {ι Op : Type} {Res : Op → Type} {G σ : Type} [DecidableEq ι]

/-- Thread `i` issues its next operation `o`, the rest of its program being `k`. -/
def perform (S : System ι Op Res G σ) (c : Pool ι Op Res G σ) (i : ι) (o : Op)
    (k : Res o → Prog Op Res Unit) : Pool ι Op Res G σ where
  state := (S.exec i o c.state).2
  prog := Function.update c.prog i (k (S.exec i o c.state).1)
  ghost := Function.update c.ghost i (S.proto.next (c.ghost i) o (S.exec i o c.state).1)

/-- Thread `i` starts the program `p` in ghost state `g`. -/
def start (c : Pool ι Op Res G σ) (i : ι) (p : Prog Op Res Unit) (g : G) :
    Pool ι Op Res G σ where
  state := c.state
  prog := Function.update c.prog i p
  ghost := Function.update c.ghost i g

/-- The states some interleaving reaches from `c₀`. A thread that has finished may start
a job; an operation may be issued where `Cond` allows it. -/
inductive Reach (S : System ι Op Res G σ) (Cond : Pool ι Op Res G σ → ι → Op → Prop)
    (c₀ : Pool ι Op Res G σ) : Pool ι Op Res G σ → Prop where
  | init : Reach S Cond c₀ c₀
  | perform {c : Pool ι Op Res G σ} (i : ι) (o : Op) (k : Res o → Prog Op Res Unit) :
      Reach S Cond c₀ c → c.prog i = .op o k → Cond c i o → Reach S Cond c₀ (c.perform S i o k)
  | start {c : Pool ι Op Res G σ} (i : ι) (p : Prog Op Res Unit) (g : G) :
      Reach S Cond c₀ c → c.prog i = .pure () → S.Job i p g → Reach S Cond c₀ (c.start i p g)
  | drift {c : Pool ι Op Res G σ} (s : σ) :
      Reach S Cond c₀ c → S.Drift c.state s → Reach S Cond c₀ { c with state := s }
  | release {c : Pool ι Op Res G σ} (i : ι) (g : G) :
      Reach S Cond c₀ c → S.Lets (c.ghost i) g →
      Conforms S.proto (c.prog i) g (fun _ g' => S.Rest g') →
      Reach S Cond c₀ { c with ghost := Function.update c.ghost i g }

/-- INTERNAL: **soundness for every interleaving.** If the programs conform, an invariant
of the shared state and the ghost states that every guarded and allowed operation keeps,
with the answers the protocol assumes, and that starting a job, letting go and the outside
world keep, holds in every reachable state of the pool. -/
theorem reach_inv {S : System ι Op Res G σ} {Cond : Pool ι Op Res G σ → ι → Op → Prop}
    {c₀ : Pool ι Op Res G σ} (J : σ → (ι → G) → Prop)
    (hinit : J c₀.state c₀.ghost)
    (hconf : ∀ i, Conforms S.proto (c₀.prog i) (c₀.ghost i) fun _ g => S.Rest g)
    (hjob : ∀ i p g, S.Job i p g → Conforms S.proto p g fun _ g' => S.Rest g')
    (hperform : ∀ c : Pool ι Op Res G σ, ∀ i o, J c.state c.ghost →
      S.proto.guard (c.ghost i) o → Cond c i o →
        S.proto.ok (c.ghost i) o (S.exec i o c.state).1 ∧
        J (S.exec i o c.state).2
          (Function.update c.ghost i (S.proto.next (c.ghost i) o (S.exec i o c.state).1)))
    (hstart : ∀ s gs i p g, J s gs → S.Rest (gs i) → S.Job i p g → J s (Function.update gs i g))
    (hdrift : ∀ s s' gs, J s gs → S.Drift s s' → J s' gs)
    (hrelease : ∀ s gs i g, J s gs → S.Lets (gs i) g → J s (Function.update gs i g))
    {c : Pool ι Op Res G σ} (hc : Reach S Cond c₀ c) :
    J c.state c.ghost ∧ ∀ i, Conforms S.proto (c.prog i) (c.ghost i) fun _ g => S.Rest g := by
  induction hc with
  | init => exact ⟨hinit, hconf⟩
  | @perform c i o k _ hprog hcond ih =>
    obtain ⟨hJ, hC⟩ := ih
    have hi := hC i
    rw [hprog] at hi
    obtain ⟨hok, hJ'⟩ := hperform c i o hJ hi.1 hcond
    refine ⟨hJ', fun j => ?_⟩
    by_cases hj : j = i
    · subst hj
      simpa [Pool.perform] using hi.2 _ hok
    · simpa [Pool.perform, hj] using hC j
  | @start c i p g _ hprog hJob ih =>
    obtain ⟨hJ, hC⟩ := ih
    have hi := hC i
    rw [hprog] at hi
    refine ⟨hstart _ _ i p g hJ hi hJob, fun j => ?_⟩
    by_cases hj : j = i
    · subst hj
      simpa [Pool.start] using hjob j p g hJob
    · simpa [Pool.start, hj] using hC j
  | drift s _ hdr ih => exact ⟨hdrift _ _ _ ih.1 hdr, ih.2⟩
  | @release c i g _ hlet hrest ih =>
    obtain ⟨hJ, hC⟩ := ih
    refine ⟨hrelease _ _ i g hJ hlet, fun j => ?_⟩
    by_cases hj : j = i
    · subst hj
      simpa using hrest
    · simpa [hj] using hC j

/-- Let thread `i` issue its next `n` operations, as long as `ok` allows them. -/
def advance (S : System ι Op Res G σ) (ok : Pool ι Op Res G σ → ι → Op → Bool) (i : ι) :
    Nat → Pool ι Op Res G σ → Pool ι Op Res G σ
  | 0, c => c
  | n + 1, c =>
      match c.prog i with
      | .pure _ => c
      | .op o k => if ok c i o then advance S ok i n (c.perform S i o k) else c

theorem Reach.advance {S : System ι Op Res G σ} {ok : Pool ι Op Res G σ → ι → Op → Bool}
    {c₀ : Pool ι Op Res G σ} (i : ι) (n : Nat) {c : Pool ι Op Res G σ}
    (h : Reach S (fun c i o => ok c i o = true) c₀ c) :
    Reach S (fun c i o => ok c i o = true) c₀ (c.advance S ok i n) := by
  induction n generalizing c with
  | zero => exact h
  | succ n ih =>
    unfold Pool.advance
    split
    · exact h
    · next o k hprog =>
      split
      · next hok => exact ih (h.perform i o k hprog hok)
      · exact h

/-- Let thread `i` start the program `p`, if it has finished. -/
def launch (c : Pool ι Op Res G σ) (i : ι) (p : Prog Op Res Unit) (g : G) : Pool ι Op Res G σ :=
  match c.prog i with
  | .pure _ => c.start i p g
  | .op _ _ => c

theorem Reach.launch {S : System ι Op Res G σ} {Cond : Pool ι Op Res G σ → ι → Op → Prop}
    {c₀ c : Pool ι Op Res G σ} (h : Reach S Cond c₀ c) {i : ι} {p : Prog Op Res Unit} {g : G}
    (hjob : S.Job i p g) : Reach S Cond c₀ (c.launch i p g) := by
  unfold Pool.launch
  split
  · next hprog => exact h.start i p g hprog hjob
  · exact h

theorem Reach.mono {S : System ι Op Res G σ} {Cond Cond' : Pool ι Op Res G σ → ι → Op → Prop}
    (hsub : ∀ c i o, Cond c i o → Cond' c i o) {c₀ c : Pool ι Op Res G σ}
    (h : Reach S Cond c₀ c) : Reach S Cond' c₀ c := by
  induction h with
  | init => exact .init
  | perform i o k _ hprog hcond ih => exact ih.perform i o k hprog (hsub _ _ _ hcond)
  | start i p g _ hprog hjob ih => exact ih.start i p g hprog hjob
  | drift s _ hdr ih => exact ih.drift s hdr
  | release i g _ hlet hrest ih => exact ih.release i g hlet hrest

end Pool

end TeaVpn2.Lib
