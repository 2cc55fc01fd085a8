import Mathlib.Algebra.Order.Group.Multiset
import Mathlib.Data.List.Induction
import Mathlib.Data.Multiset.Filter
import TeaVpn2.Program.Startup

/-!
# Descriptors from the first line of a run to its return

What a run does with its descriptors is read off its log: a ledger of what `socket`, `tun_alloc`
and `epoll_create` returned and `close` took back, with the number of queues that `tun_alloc`
opened (`DescAccount`). The functions of `Program.Startup` have one lemma each that says how they
change it.

Between the stages the program owns the socket and the queues of its state (`Owns`). The server
closes all of them in `destroy_state`. The client closes the socket only, so what it has opened
successfully it leaves open.
-/

set_option autoImplicit false

namespace TeaVpn2.Analysis

open TeaVpn2.Lib Start

/-! ## The account of a run -/

abbrev StartLog : Type := Log StartOp StartOp.Res

/-- What a log says about descriptors: those held, how many calls of `tun_alloc` succeeded,
whether a call of `fd_set_nonblock` failed, and whether `wait_for_threads_to_exit` gave up. -/
structure DescAccount where
  held : Ledger Int := some 0
  queues : Nat := 0
  nonblockFailed : Bool := false
  wontExit : Bool := false

namespace DescAccount

def obtained (g : DescAccount) : Except Errno Nat → DescAccount
  | .error _ => g
  | .ok fd => { g with held := g.held.obtain fd }

def queueOpened (g : DescAccount) : Except Errno Nat → DescAccount
  | .error _ => g
  | .ok fd => { g with held := g.held.obtain fd, queues := g.queues + 1 }

def next (g : DescAccount) : (o : StartOp) → o.Res → DescAccount
  | .socket, r => g.obtained r
  | .epollCreate, r => g.obtained r
  | .tunAlloc _, r => g.queueOpened r
  | .fdSetNonblock _, (ret : Int) => { g with nonblockFailed := g.nonblockFailed || ret < 0 }
  | .waitForThreadsToExit, (exited : Bool) => { g with wontExit := g.wontExit || !exited }
  | .close fd, _ => { g with held := g.held.release fd }
  | _, _ => g

end DescAccount

def descriptors (log : StartLog) : DescAccount := account DescAccount.next {} log

/-- Every descriptor that was obtained has been closed, each once, and nothing else has. -/
def Released (log : StartLog) : Prop := (descriptors log).held = some 0

/-- The protocol of the account. -/
abbrev D : Protocol StartOp StartOp.Res DescAccount := Protocol.account DescAccount.next

/-- A call that does not concern descriptors. -/
def Plain : StartOp → Prop
  | .socket | .epollCreate | .tunAlloc _ | .fdSetNonblock _ | .waitForThreadsToExit | .close _ =>
      False
  | _ => True

theorem next_plain (g : DescAccount) (o : StartOp) (r : o.Res) (h : Plain o) : g.next o r = g := by
  cases o <;> first | rfl | exact h.elim

/-! ## The calls a function can make -/

section Calls

variable {P : StartOp → Prop} {α : Type}

theorem uses_firstError {ps : List (Start Int)} (h : ∀ p ∈ ps, Prog.Uses P p) :
    Prog.Uses P (firstError ps) := by
  induction ps with
  | nil => exact Prog.Uses.pure 0
  | cons p ps ih =>
    apply Prog.Uses.bind (h p (List.mem_cons_self ..))
    intro ret
    split
    · exact Prog.Uses.pure ret
    · exact ih fun q hq => h q (List.mem_cons_of_mem p hq)

theorem uses_tried {p : Start (Except Errno Unit)} (h : Prog.Uses P p) : Prog.Uses P (tried p) :=
  Prog.Uses.bind h fun r => Prog.Uses.pure (retOf r)

theorem uses_net (h : ∀ o, P (.net o)) (p : Cli α) : Prog.Uses P (net p) := by
  induction p with
  | pure a => exact Prog.Uses.pure a
  | op o k ih => exact ⟨h o, fun r _ => ih r⟩

theorem uses_setSignals (h : P .signal) : Prog.Uses P setSignals := by
  apply uses_firstError
  intro p hp
  have hp : p = tried signal := by simpa using hp
  rw [hp]
  exact uses_tried (Prog.Uses.call h)

theorem uses_socketSetup (out : Errno → Int) {fd : Int} (h : ∀ opt y, P (.setsockopt fd opt y)) :
    Prog.Uses P (socketSetup out fd) := by
  apply uses_firstError
  intro p hp
  obtain ⟨o, -, rfl⟩ := List.mem_map.mp hp
  apply Prog.Uses.bind (Prog.Uses.call (h o.1 o.2))
  intro r
  cases r <;> exact Prog.Uses.pure _

theorem uses_spawnThread (hcreate : P .pthreadCreate) (hdetach : P .pthreadDetach) :
    Prog.Uses P spawnThread := by
  apply uses_firstError
  intro p hp
  obtain rfl | rfl : p = _ ∨ p = _ := by simpa using hp
  · exact Prog.Uses.bind (Prog.Uses.call hcreate) fun _ => Prog.Uses.pure _
  · exact Prog.Uses.bind (Prog.Uses.call hdetach) fun _ => Prog.Uses.pure _

end Calls

/-! ## Closing -/

/-- The descriptors of an array. -/
def fdsOf (l : List Int) : Multiset Int := (l.filter (· ≠ -1) : List Int)

@[simp] theorem fdsOf_nil : fdsOf [] = 0 := rfl

theorem fdsOf_cons (x : Int) (l : List Int) : fdsOf (x :: l) = fdsOf [x] + fdsOf l := by
  by_cases h : x = -1 <;> simp [fdsOf, h]

theorem fdsOf_append (l r : List Int) : fdsOf (l ++ r) = fdsOf l + fdsOf r := by
  simp [fdsOf]

@[simp] theorem fdsOf_neg_one : fdsOf [-1] = 0 := rfl

theorem fdsOf_singleton {x : Int} (h : x ≠ -1) : fdsOf [x] = {x} := by
  simp [fdsOf, h]

@[simp] theorem fdsOf_replicate (n : Nat) : fdsOf (List.replicate n (-1)) = 0 := by
  simp [fdsOf]

theorem natCast_ne_neg_one (n : Nat) : (n : Int) ≠ -1 := by omega

variable {g : DescAccount} {m : Multiset Int}

theorem conforms_act (o : StartOp) (Q : o.Res → DescAccount → Prop) :
    Conforms D (act o) g Q ↔ ∀ r, Q r (g.next o r) :=
  ⟨fun h r => h.2 r trivial, fun h => ⟨trivial, fun r _ => h r⟩⟩

theorem conforms_close (fd : Int) (Q : Unit → DescAccount → Prop) :
    Conforms D (close fd) g Q ↔ Q () { g with held := g.held.release fd } :=
  (conforms_act (.close fd) Q).trans ⟨fun h => h (), fun h _ => h⟩

theorem closeFds_spec {l : List Int} (hheld : g.held = some (fdsOf l + m)) :
    Conforms D (closeFds l) g fun _ g' => g' = { g with held := some m } := by
  induction l generalizing g with
  | nil =>
    rw [fdsOf_nil, zero_add] at hheld
    show g = { g with held := some m }
    rw [← hheld]
  | cons x l ih =>
    rw [closeFds]
    by_cases hx : x = -1
    · subst hx
      rw [fdsOf_cons, fdsOf_neg_one, zero_add] at hheld
      simpa using ih hheld
    · rw [fdsOf_cons, fdsOf_singleton hx, add_assoc, Multiset.singleton_add] at hheld
      rw [if_pos hx, Conforms.bind_iff, conforms_close, hheld, Ledger.release_cons]
      exact ih rfl

theorem coe_concat_add (l : List Int) (x : Int) (m : Multiset Int) :
    ((l ++ [x] : List Int) : Multiset Int) + m = x ::ₘ ((l : Multiset Int) + m) := by
  rw [← Multiset.coe_add, Multiset.coe_singleton, add_comm (l : Multiset Int), add_assoc,
    Multiset.singleton_add]

/-- INTERNAL: the queues opened so far are closed from the last one on. -/
theorem unwind_spec {opened : List Int} {rest : List Int}
    (hheld : g.held = some ((opened : Multiset Int) + m)) :
    Conforms D (unwind opened.length (opened ++ rest)) g fun tunFds g' =>
      tunFds = List.replicate opened.length (-1) ++ rest ∧ g' = { g with held := some m } := by
  induction opened using List.reverseRecOn generalizing rest g with
  | nil =>
    rw [Multiset.coe_nil, zero_add] at hheld
    refine ⟨rfl, ?_⟩
    rw [← hheld]
  | append_singleton l x ih =>
    have hget : (l ++ [x] ++ rest).getD l.length (-1) = x := by simp
    have hset : (l ++ [x] ++ rest).set l.length (-1) = l ++ (-1 :: rest) := by simp
    rw [List.length_append, List.length_singleton, unwind, hget, hset, Conforms.bind_iff,
      conforms_close, hheld, coe_concat_add, Ledger.release_cons]
    refine (ih rfl).mono fun tunFds g' h => ⟨?_, h.2⟩
    rw [h.1, List.replicate_succ', List.append_assoc, List.singleton_append]

/-! ## Opening the queues -/

/-- What the loop of `init_iface` leaves behind, for `nn` queues of which `n` were still to be
opened: at the label `err` nothing is open, and a call failed; behind the loop all queues are. -/
def QueuesPost (nn n : Nat) (m : Multiset Int) (g g' : DescAccount) :
    Except (Int × List Int) (Int × List Int) → Prop
  | .error (ret, tunFds) =>
      ret ≠ 0 ∧ tunFds = List.replicate nn (-1) ∧ g'.held = some m ∧
        (g'.queues < g.queues + n ∨ g'.nonblockFailed = true)
  | .ok (_, tunFds) =>
      tunFds.length = nn ∧ (∀ fd ∈ tunFds, fd ≠ -1) ∧ g'.held = some ((tunFds : Multiset Int) + m) ∧
        g'.queues = g.queues + n ∧ g'.nonblockFailed = g.nonblockFailed

/-- INTERNAL: a call fails; the queues opened before are closed. -/
theorem unwind_queues {nn n : Nat} {opened : List Int} {g₀ : DescAccount} {ret : Int}
    (hheld : g.held = some ((opened : Multiset Int) + m)) (hlen : opened.length + n = nn)
    (hret : ret ≠ 0) (hwont : g.wontExit = g₀.wontExit)
    (hfail : g.queues < g₀.queues + n ∨ g.nonblockFailed = true) :
    Conforms D (do
        let tunFds ← unwind opened.length (opened ++ List.replicate n (-1))
        pure (.error (ret, tunFds) : Except (Int × List Int) (Int × List Int))) g
      fun r g' => g'.wontExit = g₀.wontExit ∧ QueuesPost nn n m g₀ g' r := by
  rw [Conforms.bind_iff]
  refine (unwind_spec hheld).mono fun tunFds g' h => ?_
  obtain ⟨rfl, rfl⟩ := h
  refine ⟨hwont, hret, ?_, rfl, hfail⟩
  rw [← hlen, List.replicate_add]

theorem setNonblock_spec (evtLoop : EvtLoop) (fd ret : Int) :
    Conforms D (setNonblock evtLoop fd ret) g fun ret g' =>
      g' = { g with nonblockFailed := g.nonblockFailed || decide (evtLoop ≠ .ioUring ∧ ret < 0) } := by
  unfold setNonblock
  by_cases h : evtLoop = .ioUring
  · simp [h]
  · rw [if_pos h]
    refine (conforms_act (.fdSetNonblock fd) _).mpr fun (ret : Int) => ?_
    have hbad : (evtLoop ≠ .ioUring ∧ ret < 0) = (ret < 0) := by simp [h]
    simp only [hbad]
    rfl

theorem QueuesPost.succ {nn n : Nat} {g₁ g' : DescAccount} (hqueues : g₁.queues = g.queues + 1)
    (hnonblock : g₁.nonblockFailed = g.nonblockFailed)
    {r : Except (Int × List Int) (Int × List Int)} (h : QueuesPost nn n m g₁ g' r) :
    QueuesPost nn (n + 1) m g g' r := by
  have hsum : g₁.queues + n = g.queues + (n + 1) := by omega
  cases r with
  | error e =>
    obtain ⟨hret, htun, hheld, hfail⟩ := h
    rw [hsum] at hfail
    exact ⟨hret, htun, hheld, hfail⟩
  | ok e =>
    obtain ⟨hlen, hfds, hheld, hq, hnb⟩ := h
    exact ⟨hlen, hfds, hheld, hq.trans hsum, hnb.trans hnonblock⟩

/-- INTERNAL: the loop, by induction on the queues still to open. -/
theorem openQueues_spec {evtLoop : EvtLoop} {dev : List UInt8} {nn n : Nat} {opened : List Int}
    {ret : Int} (hlen : opened.length + n = nn) (hfds : ∀ fd ∈ opened, fd ≠ -1)
    (hheld : g.held = some ((opened : Multiset Int) + m)) :
    Conforms D (openQueues evtLoop dev n opened.length (opened ++ List.replicate n (-1)) ret) g
      fun r g' => g'.wontExit = g.wontExit ∧ QueuesPost nn n m g g' r := by
  induction n generalizing opened ret g with
  | zero =>
    rw [List.replicate_zero, List.append_nil, openQueues]
    exact ⟨rfl, hlen, hfds, hheld, rfl, rfl⟩
  | succ n ih =>
    rw [openQueues, Conforms.bind_iff]
    refine (conforms_act (.tunAlloc dev) _).mpr fun r => ?_
    cases r with
    | error err =>
      refine unwind_queues hheld hlen ?_ rfl (.inl ?_)
      · have := err.2
        omega
      · show g.queues < g.queues + (n + 1)
        omega
    | ok fd =>
      show Conforms D (setNonblock evtLoop fd ret >>= fun ret => _) (g.queueOpened (.ok fd)) _
      have hheld₁ : (g.queueOpened (.ok fd)).held =
          some ((fd : Int) ::ₘ ((opened : Multiset Int) + m)) := by
        rw [DescAccount.queueOpened, hheld, Ledger.obtain_some]
      rw [Conforms.bind_iff]
      refine (setNonblock_spec evtLoop fd ret).mono fun ret g₁ hg₁ => ?_
      by_cases hbad : evtLoop ≠ .ioUring ∧ ret < 0
      · -- the label `err` after this queue has been closed
        rw [if_pos hbad, Conforms.bind_iff, conforms_close, hg₁]
        refine unwind_queues ?_ hlen (by omega) rfl (.inr ?_)
        · show Ledger.release (g.queueOpened (.ok fd)).held fd = _
          rw [hheld₁, Ledger.release_cons]
        · simp [hbad]
      · have hset : (opened ++ List.replicate (n + 1) (-1)).set opened.length (fd : Int) =
            (opened ++ [(fd : Int)]) ++ List.replicate n (-1) := by
          simp [List.replicate_succ]
        have hg₁ : g₁ = g.queueOpened (.ok fd) := by
          rw [hg₁, decide_eq_false hbad, Bool.or_false]
        rw [if_neg hbad, hset, hg₁]
        have hlen' : (opened ++ [(fd : Int)]).length = opened.length + 1 := by simp
        rw [← hlen']
        have hqueues : (g.queueOpened (.ok fd)).queues = g.queues + 1 := rfl
        have hnonblock : (g.queueOpened (.ok fd)).nonblockFailed = g.nonblockFailed := rfl
        refine (ih ?_ ?_ ?_).mono fun r g' h => ⟨h.1, h.2.succ hqueues hnonblock⟩
        · rw [hlen', ← hlen]
          omega
        · intro x hx
          rcases List.mem_append.mp hx with h | h
          · exact hfds x h
          · rw [List.mem_singleton.mp h]
            exact natCast_ne_neg_one fd
        · rw [hheld₁, coe_concat_add]

/-! ## What the program owns between its stages -/

/-- The queues of the state. -/
def queueFds (s : State) : List Int := s.tunFds.getD []

/-- In `init_state`: nothing is open, and the array of the queues may be there. -/
structure Fresh (nn : Nat) (s : State) (g : DescAccount) : Prop where
  account : g = {}
  udpFd : s.udpFd = -1
  tunFds : s.tunFds = none ∨ s.tunFds = some (List.replicate nn (-1))
  epollFds : s.epollFds = none
  running : s.threadsWontExit = false

/-- Before the queues are opened: the socket is all that is held. -/
structure Unopened (s : State) (g : DescAccount) : Prop where
  held : g.held = some (fdsOf [s.udpFd])
  tunFds : fdsOf (queueFds s) = 0
  queues : g.queues = 0
  nonblockFailed : g.nonblockFailed = false
  epollFds : s.epollFds = none
  running : s.threadsWontExit = false ∧ g.wontExit = false

/-- The socket and the queues are held, unless threads were left running. There are no queues
exactly if a call for one of them was not made or failed. -/
structure Owns (nn : Nat) (s : State) (g : DescAccount) : Prop where
  held : g.wontExit = false → g.held = some (fdsOf [s.udpFd] + fdsOf (queueFds s))
  queues : fdsOf (queueFds s) = 0 ↔ nn = 0 ∨ g.queues < nn ∨ g.nonblockFailed = true
  wontExit : s.threadsWontExit = g.wontExit

/-- From `init_iface` to the event loop. -/
structure SetUp (nn : Nat) (s : State) (g : DescAccount) : Prop extends Owns nn s g where
  epollFds : s.epollFds = none
  running : g.wontExit = false

theorem Fresh.unopened {nn : Nat} {s : State} (h : Fresh nn s g) : Unopened s g where
  held := by rw [h.account, h.udpFd, fdsOf_neg_one]
  tunFds := by
    unfold queueFds
    rcases h.tunFds with h | h <;> rw [h]
    · rfl
    · exact fdsOf_replicate nn
  queues := by rw [h.account]
  nonblockFailed := by rw [h.account]
  epollFds := h.epollFds
  running := ⟨h.running, by rw [h.account]⟩

theorem Unopened.setUp {s : State} (h : Unopened s g) (nn : Nat) : SetUp nn s g where
  held _ := by rw [h.tunFds, add_zero, h.held]
  queues := by
    have hq := h.queues
    simp only [h.tunFds, h.nonblockFailed, true_iff, Bool.false_eq_true, or_false]
    omega
  wontExit := by rw [h.running.1, h.running.2]
  epollFds := h.epollFds
  running := h.running.2

/-- The rule for a stage that is not the last one. -/
theorem stages_cons {init : State → Start (Int × State)} {inits : List (State → Start (Int × State))}
    {s : State} {Q R : Int × State → DescAccount → Prop} (hinit : Conforms D (init s) g R)
    (hout : ∀ ret s' g', ret ≠ 0 → R (ret, s') g' → Q (ret, s') g')
    (hnext : ∀ s' g', R (0, s') g' → Conforms D (stages inits s') g' Q) :
    Conforms D (stages (init :: inits) s) g Q := by
  rw [stages, Conforms.bind_iff]
  refine hinit.mono fun r g' hR => ?_
  obtain ⟨ret, s'⟩ := r
  by_cases h : ret = 0
  · subst h
    simpa using hnext s' g' hR
  · simpa [h] using hout ret s' g' h hR

/-- INTERNAL: stages that all keep `I`. -/
theorem stages_keep {I : State → DescAccount → Prop} {inits : List (State → Start (Int × State))}
    (h : ∀ init ∈ inits, ∀ s g, I s g → Conforms D (init s) g fun r g' => I r.2 g')
    {s : State} (hs : I s g) : Conforms D (stages inits s) g fun r g' => I r.2 g' := by
  induction inits generalizing s g with
  | nil => exact hs
  | cons init inits ih =>
    apply stages_cons (h init (List.mem_cons_self ..) s g hs)
    · intro ret s' g' _ h'
      exact h'
    · intro s' g' h'
      exact ih (fun i hi => h i (List.mem_cons_of_mem init hi)) h'

/-- A stage that leaves the state as it is and makes plain calls. -/
theorem stage_spec {p : Start Int} (hp : Prog.Uses Plain p) (s : State) :
    Conforms D (stage p s) g fun r g' => r.2 = s ∧ g' = g := by
  rw [stage, Conforms.bind_iff]
  exact Conforms.of_uses hp next_plain fun ret => ⟨rfl, rfl⟩

/-! ## The stages -/

/-- What `init_state` leaves behind: on success the array of the queues is there. -/
def InitPost (nn : Nat) (r : Int × State) (g : DescAccount) : Prop :=
  Fresh nn r.2 g ∧ (r.1 = 0 → r.2.tunFds = some (List.replicate nn (-1)))

theorem allocTunFdsArray_spec {nn : Nat} {s : State} (h : Fresh nn s g) :
    Conforms D (allocTunFdsArray nn s) g (InitPost nn) := by
  rw [allocTunFdsArray, Conforms.bind_iff]
  refine (conforms_act .alloc _).mpr fun r => ?_
  cases r with
  | error err =>
    refine ⟨h, fun hret => ?_⟩
    have hret : -err.1 = 0 := hret
    have := err.2
    omega
  | ok _ => exact ⟨{ h with tunFds := .inr rfl }, fun _ => rfl⟩

theorem selectEventLoop_spec {nn : Nat} {s : State} (evtl : List UInt8) (h : Fresh nn s g)
    (htun : s.tunFds = some (List.replicate nn (-1))) :
    Conforms D (selectEventLoop evtl s) g (InitPost nn) := by
  unfold selectEventLoop
  split
  · exact ⟨{ h with }, fun _ => htun⟩
  · split
    · exact ⟨{ h with }, fun _ => htun⟩
    · exact ⟨h, fun _ => htun⟩

/-- INTERNAL: `init_state`, with the plain calls at its end. -/
theorem initState_spec {nn : Nat} {evtl : List UInt8} {ps : List (Start Int)} {s : State}
    (hps : ∀ p ∈ ps, Prog.Uses Plain p) (h : Fresh nn s g) :
    Conforms D (stages (allocTunFdsArray nn :: selectEventLoop evtl :: ps.map stage) s) g
      (InitPost nn) := by
  apply stages_cons (allocTunFdsArray_spec h)
  · intro ret s' g' _ h'
    exact h'
  · intro s₁ g₁ h₁
    apply stages_cons (selectEventLoop_spec evtl h₁.1 (h₁.2 rfl))
    · intro ret s' g' _ h'
      exact h'
    · intro s₂ g₂ h₂
      refine (stages_keep (fun init hinit s g (hs : Fresh nn s g ∧
        s.tunFds = some (List.replicate nn (-1))) => ?_) ⟨h₂.1, h₂.2 rfl⟩).mono
          fun r g' h' => ⟨h'.1, fun _ => h'.2⟩
      obtain ⟨p, hp, rfl⟩ := List.mem_map.mp hinit
      refine (stage_spec (hps p hp) s).mono fun r g' h' => ?_
      rw [h'.1, h'.2]
      exact hs

/-- What `init_socket` leaves behind. -/
def SocketPost (nn : Nat) (r : Int × State) (g : DescAccount) : Prop :=
  Unopened r.2 g ∧ r.2.tunFds = some (List.replicate nn (-1))

theorem initSocketWith_spec {nn : Nat} {setup : Int → Start Int}
    {attach : Int → Start (Except Errno Unit)} {s : State} (hsetup : ∀ fd, Prog.Uses Plain (setup fd))
    (hattach : ∀ fd, Prog.Uses Plain (attach fd)) (h : Fresh nn s g)
    (htun : s.tunFds = some (List.replicate nn (-1))) :
    Conforms D (initSocketWith setup attach s) g (SocketPost nn) := by
  rw [initSocketWith, Conforms.bind_iff]
  refine (conforms_act .socket _).mpr fun r => ?_
  cases r with
  | error err => exact ⟨h.unopened, htun⟩
  | ok fd =>
    show Conforms D (firstError [setup fd, tried (attach fd)] >>= fun ret => _)
      (g.obtained (.ok fd)) _
    have hheld : (g.obtained (.ok fd)).held = some {(fd : Int)} := by
      rw [DescAccount.obtained, h.account]
      rfl
    have huses : Prog.Uses Plain (firstError [setup fd, tried (attach fd)]) := by
      apply uses_firstError
      intro p hp
      obtain rfl | rfl : p = _ ∨ p = _ := by simpa using hp
      · exact hsetup fd
      · exact uses_tried (hattach fd)
    rw [Conforms.bind_iff]
    refine Conforms.of_uses huses next_plain fun ret => ?_
    by_cases hret : ret = 0
    · -- the socket goes into the state
      rw [if_neg (not_not.mpr hret)]
      refine ⟨{ h.unopened with held := ?_ }, htun⟩
      rw [hheld, fdsOf_singleton (natCast_ne_neg_one fd)]
    · rw [if_pos hret, Conforms.bind_iff, conforms_close, hheld]
      refine ⟨{ h.unopened with held := ?_ }, htun⟩
      show Ledger.release (some ((fd : Int) ::ₘ 0)) fd = _
      rw [Ledger.release_cons, h.udpFd, fdsOf_neg_one]

theorem fdsOf_eq_coe {l : List Int} (h : ∀ fd ∈ l, fd ≠ -1) : fdsOf l = l := by
  rw [fdsOf, List.filter_eq_self.mpr (by simpa using h)]

/-- INTERNAL: the loop of `init_iface` decides what there is to own. -/
theorem QueuesPost.setUp {nn : Nat} {s : State} {g' : DescAccount}
    {r : Except (Int × List Int) (Int × List Int)} (h : Unopened s g)
    (hwont : g'.wontExit = g.wontExit) (hpost : QueuesPost nn nn (fdsOf [s.udpFd]) g g' r) :
    SetUp nn { s with tunFds := some (match r with | .error e => e.2 | .ok e => e.2) } g' := by
  have hq := h.queues
  have hnb := h.nonblockFailed
  cases r with
  | error e =>
    obtain ⟨-, htun, hheld, hfail⟩ := hpost
    have hnone : fdsOf e.2 = 0 := by rw [htun, fdsOf_replicate]
    rw [hq, zero_add] at hfail
    refine ⟨⟨fun _ => ?_, ?_, ?_⟩, h.epollFds, hwont.trans h.running.2⟩
    · show g'.held = some (fdsOf [s.udpFd] + fdsOf e.2)
      rw [hheld, hnone, add_zero]
    · show fdsOf e.2 = 0 ↔ _
      exact ⟨fun _ => .inr hfail, fun _ => hnone⟩
    · rw [hwont, h.running.1, h.running.2]
  | ok e =>
    obtain ⟨hlen, hfds, hheld, hqueues, hnonblock⟩ := hpost
    rw [hq, zero_add] at hqueues
    rw [hnb] at hnonblock
    refine ⟨⟨fun _ => ?_, ?_, ?_⟩, h.epollFds, hwont.trans h.running.2⟩
    · show g'.held = some (fdsOf [s.udpFd] + fdsOf e.2)
      rw [hheld, fdsOf_eq_coe hfds, add_comm]
    · show fdsOf e.2 = 0 ↔ _
      rw [fdsOf_eq_coe hfds, Multiset.coe_eq_zero, ← List.length_eq_zero_iff, hlen, hqueues,
        hnonblock]
      simp
    · rw [hwont, h.running.1, h.running.2]

theorem initIfaceWith_spec {nn : Nat} {dev : List UInt8} {up : Int → State → Start (Int × State)}
    {s : State}
    (hup : ∀ ret s g, SetUp nn s g → Conforms D (up ret s) g fun r g' => SetUp nn r.2 g')
    (h : Unopened s g) (htun : s.tunFds = some (List.replicate nn (-1))) :
    Conforms D (initIfaceWith nn dev up s) g fun r g' => SetUp nn r.2 g' := by
  unfold initIfaceWith
  split
  · exact h.setUp nn
  · rw [Conforms.bind_iff, htun]
    have hheld : g.held = some ((([] : List Int) : Multiset Int) + fdsOf [s.udpFd]) := by
      rw [h.held, Multiset.coe_nil, zero_add]
    have hloop : Conforms D (openQueues s.evtLoop dev nn ([] : List Int).length
        ([] ++ List.replicate nn (-1)) 0) g fun r g' =>
          g'.wontExit = g.wontExit ∧ QueuesPost nn nn (fdsOf [s.udpFd]) g g' r :=
      openQueues_spec (Nat.zero_add nn) (by simp) hheld
    refine hloop.mono fun r g' hr => ?_
    have hsetUp := hr.2.setUp h hr.1
    cases r with
    | error e => exact hsetUp
    | ok e => exact hup e.1 _ g' hsetUp

/-! ## The event loop -/

theorem initEpollThread_spec (nn i : Nat) (s : State) (hheld : g.held = some m) :
    Conforms D (initEpollThread nn i s) g fun r g' =>
      g' = { g with held := some (fdsOf [r.2] + m) } := by
  rw [initEpollThread, Conforms.bind_iff]
  refine (conforms_act .epollCreate _).mpr fun r => ?_
  cases r with
  | error err =>
    show g = { g with held := some (fdsOf [-1] + m) }
    rw [fdsOf_neg_one, zero_add, ← hheld]
  | ok epollFd =>
    show Conforms D (firstError _ >>= fun ret => _) (g.obtained (.ok epollFd)) _
    rw [Conforms.bind_iff]
    refine Conforms.of_uses (uses_firstError fun p hp => ?_) next_plain fun ret => ?_
    · obtain ⟨fd, -, rfl⟩ := List.mem_map.mp hp
      exact uses_tried (Prog.Uses.call trivial)
    · show g.obtained (.ok epollFd) = { g with held := some (fdsOf [(epollFd : Int)] + m) }
      rw [fdsOf_singleton (natCast_ne_neg_one epollFd), Multiset.singleton_add,
        DescAccount.obtained, hheld, Ledger.obtain_some]

/-- INTERNAL: the loop over the threads; the descriptors in the array are those held. -/
theorem initEpollThreads_spec {nn n : Nat} {s : State} {opened : List Int}
    (hheld : g.held = some (fdsOf opened + m)) :
    Conforms D (initEpollThreads nn s n opened.length (opened ++ List.replicate n (-1))) g
      fun r g' => g' = { g with held := some (fdsOf r.2 + m) } := by
  induction n generalizing opened g with
  | zero =>
    rw [List.replicate_zero, List.append_nil]
    show g = { g with held := some (fdsOf opened + m) }
    rw [← hheld]
  | succ n ih =>
    rw [initEpollThreads, Conforms.bind_iff]
    refine (initEpollThread_spec nn opened.length s hheld).mono fun r g₁ hg₁ => ?_
    obtain ⟨ret, epollFd⟩ := r
    have hset : (opened ++ List.replicate (n + 1) (-1)).set opened.length epollFd =
        (opened ++ [epollFd]) ++ List.replicate n (-1) := by
      simp [List.replicate_succ]
    have hfds : fdsOf (opened ++ [epollFd]) + m = fdsOf [epollFd] + (fdsOf opened + m) := by
      rw [fdsOf_append, add_comm (fdsOf opened), add_assoc]
    have hall : fdsOf ((opened ++ [epollFd]) ++ List.replicate n (-1)) + m =
        fdsOf [epollFd] + (fdsOf opened + m) := by
      rw [fdsOf_append, fdsOf_replicate, add_zero, hfds]
    simp only [hset]
    split
    · show g₁ = _
      rw [hall]
      exact hg₁
    · rw [Conforms.bind_iff]
      refine (conforms_act .alloc _).mpr fun r => ?_
      cases r with
      | error err =>
        show g₁ = _
        rw [hall]
        exact hg₁
      | ok _ =>
        have hlen : (opened ++ [epollFd]).length = opened.length + 1 := by simp
        show Conforms D (initEpollThreads nn s n (opened.length + 1) _) g₁ _
        rw [← hlen]
        refine (ih ?_).mono fun r g' hg' => ?_
        · rw [hg₁, hfds]
        · rw [hg', hg₁]

theorem initEpollThreadArray_spec {nn : Nat} {s : State} (hheld : g.held = some m)
    (hnone : s.epollFds = none) :
    Conforms D (initEpollThreadArray nn s) g fun r g' =>
      (∃ e, r.2 = { s with epollFds := e }) ∧
        g' = { g with held := some (fdsOf (r.2.epollFds.getD []) + m) } := by
  rw [initEpollThreadArray, Conforms.bind_iff]
  refine (conforms_act .alloc _).mpr fun r => ?_
  cases r with
  | error err =>
    refine ⟨⟨s.epollFds, rfl⟩, ?_⟩
    show g = { g with held := some (fdsOf (s.epollFds.getD []) + m) }
    rw [hnone, Option.getD_none, fdsOf_nil, zero_add, ← hheld]
  | ok _ =>
    have hloop : Conforms D (initEpollThreads nn s nn ([] : List Int).length
        ([] ++ List.replicate nn (-1))) g fun r g' => g' = { g with held := some (fdsOf r.2 + m) } :=
      initEpollThreads_spec (by rw [hheld, fdsOf_nil, zero_add])
    show Conforms D (initEpollThreads nn s nn 0 (List.replicate nn (-1)) >>= fun r => _) g _
    rw [Conforms.bind_iff]
    exact hloop.mono fun r g' hg' => ⟨⟨some r.2, rfl⟩, hg'⟩

/-- What `destroy_epoll` leaves behind: the instances are closed, or threads are running. -/
theorem destroyEpoll_spec {s : State} (hheld : g.held = some (fdsOf (s.epollFds.getD []) + m)) :
    Conforms D (destroyEpoll s) g fun s' g' =>
      (s' = s ∧ g' = { g with held := some m }) ∨
        (s' = { s with threadsWontExit := true } ∧ g' = { g with wontExit := true }) := by
  have hclose : Conforms D (closeEpollFds s) g fun _ g' => g' = { g with held := some m } := by
    unfold closeEpollFds
    cases he : s.epollFds with
    | none =>
      rw [he, Option.getD_none, fdsOf_nil, zero_add] at hheld
      show g = { g with held := some m }
      rw [← hheld]
    | some epollFds =>
      rw [he] at hheld
      exact closeFds_spec hheld
  rw [destroyEpoll, Conforms.bind_iff]
  refine (conforms_act .waitForThreadsToExit _).mpr fun (exited : Bool) => ?_
  cases exited with
  | false => exact .inr ⟨rfl, by simp [DescAccount.next]⟩
  | true =>
    have hsame : g.next .waitForThreadsToExit true = g := by simp [DescAccount.next]
    rw [hsame]
    show Conforms D (closeEpollFds s >>= fun _ => pure s) g _
    rw [Conforms.bind_iff]
    exact hclose.mono fun _ g' hg' => .inl ⟨rfl, hg'⟩

theorem uses_runEventLoop (nn : Nat) : Prog.Uses Plain (runEventLoop nn) := by
  apply Prog.Uses.bind
  · apply uses_firstError
    intro p hp
    rw [(List.mem_replicate.mp hp).2]
    exact uses_spawnThread trivial trivial
  · intro ret
    split
    · exact Prog.Uses.pure _
    · split
      · exact Prog.Uses.pure _
      · exact Prog.Uses.bind (Prog.Uses.call trivial) fun ret => Prog.Uses.pure _

/-- INTERNAL: behind `destroy_epoll` the program owns what it owned before the event loop. -/
theorem destroyEpoll_owns {nn : Nat} {s : State} (h : SetUp nn s g) (e : Option (List Int)) (ret : Int)
    {g₁ : DescAccount}
    (hg₁ : g₁ = { g with
      held := some (fdsOf (e.getD []) + (fdsOf [s.udpFd] + fdsOf (queueFds s))) }) :
    Conforms D (do
      let s ← destroyEpoll { s with epollFds := e }
      pure (some ret, s)) g₁ fun r g' => r.1.isSome → Owns nn r.2 g' := by
  rw [Conforms.bind_iff]
  refine (destroyEpoll_spec (m := fdsOf [s.udpFd] + fdsOf (queueFds s)) ?_).mono
    fun s' g' h' _ => ?_
  · rw [hg₁]
  · rcases h' with ⟨rfl, rfl⟩ | ⟨rfl, rfl⟩
    · rw [hg₁]
      exact ⟨fun _ => rfl, h.queues, h.wontExit⟩
    · rw [hg₁]
      exact ⟨fun hfalse => Bool.noConfusion hfalse, h.queues, rfl⟩

/-- INTERNAL: the epoll instances come and go inside the event loop. -/
theorem runEpoll_spec {nn : Nat} {s : State} (h : SetUp nn s g) :
    Conforms D (runEpoll nn s) g fun r g' => r.1.isSome → Owns nn r.2 g' := by
  rw [runEpoll, Conforms.bind_iff]
  refine (initEpollThreadArray_spec (h.held h.running) h.epollFds).mono fun r g₁ hr => ?_
  obtain ⟨ret, s₁⟩ := r
  obtain ⟨⟨e, rfl⟩, hg₁⟩ := hr
  show Conforms D (if ret ≠ 0 then _ else _) g₁ _
  by_cases hret : ret = 0
  · rw [if_neg (not_not.mpr hret), Conforms.bind_iff]
    refine Conforms.of_uses (uses_runEventLoop nn) next_plain fun r => ?_
    cases r with
    | none => exact fun hnone => Bool.noConfusion hnone
    | some ret => exact destroyEpoll_owns h e ret hg₁
  · rw [if_pos hret]
    exact destroyEpoll_owns h e ret hg₁

/-! ## The whole run -/

/-- INTERNAL: `E` holds of the account at the return, if it holds behind the label `out` and of
a run that could not even allocate its state. -/
theorem udpRun_spec {nn : Nat} {nomem : Errno → Int} {inits : List (State → Start (Int × State))}
    {loop : State → Start (Option Int × State)} {out : State → Start Unit}
    {E : DescAccount → Prop} (hnomem : E {})
    (hinits : Conforms D (stages inits {}) {} fun r g' => SetUp nn r.2 g')
    (hloop : ∀ s g, SetUp nn s g →
      Conforms D (loop s) g fun r g' => r.1.isSome → Owns nn r.2 g')
    (hout : ∀ s g, Owns nn s g → Conforms D (out s) g fun _ g' => E g') :
    Conforms D (udpRun nomem inits loop out) {} fun r g' => r.isSome → E g' := by
  rw [udpRun, Conforms.bind_iff]
  refine (conforms_act .alloc _).mpr fun r => ?_
  cases r with
  | error err => exact fun _ => hnomem
  | ok _ =>
    show Conforms D (stages inits {} >>= fun r => _) {} _
    rw [Conforms.bind_iff]
    refine hinits.mono fun r g₁ h₁ => ?_
    obtain ⟨ret, s₁⟩ := r
    show Conforms D (if ret ≠ 0 then _ else _) g₁ _
    split
    · rw [Conforms.bind_iff]
      exact (hout s₁ g₁ h₁.toOwns).mono fun _ g' hE _ => hE
    · rw [Conforms.bind_iff]
      refine (hloop s₁ g₁ h₁).mono fun r g₂ h₂ => ?_
      obtain ⟨_ | ret, s₂⟩ := r
      · exact fun hnone => Bool.noConfusion hnone
      · show Conforms D (out s₂ >>= fun _ => pure (some ret)) g₂ _
        rw [Conforms.bind_iff]
        exact (hout s₂ g₂ (h₂ rfl)).mono fun _ g' hE _ => hE

/-- INTERNAL: the stages up to `init_iface`, with the rest of them. -/
theorem inits_spec {nn : Nat} {evtl dev : List UInt8} (ps : List (Start Int))
    {setup : Int → Start Int} {attach : Int → Start (Except Errno Unit)}
    {up : Int → State → Start (Int × State)} {rest : List (State → Start (Int × State))}
    (hps : ∀ p ∈ ps, Prog.Uses Plain p) (hsetup : ∀ fd, Prog.Uses Plain (setup fd))
    (hattach : ∀ fd, Prog.Uses Plain (attach fd))
    (hup : ∀ ret s g, SetUp nn s g → Conforms D (up ret s) g fun r g' => SetUp nn r.2 g')
    (hrest : ∀ init ∈ rest, ∀ s g, SetUp nn s g →
      Conforms D (init s) g fun r g' => SetUp nn r.2 g') :
    Conforms D
      (stages (stages (allocTunFdsArray nn :: selectEventLoop evtl :: ps.map stage) ::
        initSocketWith setup attach :: initIfaceWith nn dev up :: rest) {}) {}
      fun r g' => SetUp nn r.2 g' := by
  have hfresh : Fresh nn {} {} := ⟨rfl, rfl, .inl rfl, rfl, rfl⟩
  apply stages_cons (initState_spec hps hfresh)
  · intro ret s' g' _ h'
    exact h'.1.unopened.setUp nn
  · intro s₁ g₁ h₁
    apply stages_cons (initSocketWith_spec hsetup hattach h₁.1 (h₁.2 rfl))
    · intro ret s' g' _ h'
      exact h'.1.setUp nn
    · intro s₂ g₂ h₂
      apply stages_cons (initIfaceWith_spec hup h₂.1 h₂.2)
      · intro ret s' g' _ h'
        exact h'
      · intro s₃ g₃ h₃
        exact stages_keep hrest h₃

theorem stage_setUp {nn : Nat} {p : Start Int} (hp : Prog.Uses Plain p) (s : State)
    (g : DescAccount) (h : SetUp nn s g) :
    Conforms D (stage p s) g fun r g' => SetUp nn r.2 g' := by
  refine (stage_spec hp s).mono fun r g' h' => ?_
  rw [h'.1, h'.2]
  exact h

/-! ### The server -/

theorem uses_allocAndMutex : Prog.Uses Plain
    (firstError [tried alloc, do pure (-(← mutexInit))] : Start Int) := by
  apply uses_firstError
  intro p hp
  obtain rfl | rfl : p = _ ∨ p = _ := by simpa using hp
  · exact uses_tried (Prog.Uses.call trivial)
  · exact Prog.Uses.bind (Prog.Uses.call trivial) fun _ => Prog.Uses.pure _

theorem srv_inits_spec (cfg : Srv.Cfg) :
    Conforms D (stages [Srv.initState cfg, Srv.initSocket, Srv.initIface cfg,
      stage Srv.initUdpSessionArray, stage Srv.initUdpSessionMap, stage Srv.initUdpSessionStack,
      stage Srv.initIpv4Map] {}) {} fun r g' => SetUp cfg.sys.threadNum.toNat r.2 g' := by
  refine inits_spec [setSignals] ?_ ?_ ?_ ?_ ?_
  · intro p hp
    rw [List.mem_singleton.mp hp]
    exact uses_setSignals trivial
  · intro fd
    exact uses_socketSetup _ fun _ _ => trivial
  · intro fd
    exact Prog.Uses.call trivial
  · intro ret s g h
    rw [Conforms.bind_iff]
    refine (conforms_act (.teavpnIfaceUp cfg.iface.iff) _).mpr fun (up : Bool) => ?_
    cases up
    · exact h
    · exact { h with }
  · intro init hinit
    simp only [List.mem_cons, List.not_mem_nil, or_false] at hinit
    rcases hinit with rfl | rfl | rfl | rfl
    · exact stage_setUp (uses_tried (Prog.Uses.call trivial))
    · exact stage_setUp uses_allocAndMutex
    · exact stage_setUp uses_allocAndMutex
    · exact stage_setUp (uses_tried (Prog.Uses.call trivial))

theorem runServerEventLoop_spec {cfg : Srv.Cfg} {s : State} (h : SetUp cfg.sys.threadNum.toNat s g) :
    Conforms D (Srv.runServerEventLoop cfg s) g fun r g' =>
      r.1.isSome → Owns cfg.sys.threadNum.toNat r.2 g' := by
  unfold Srv.runServerEventLoop
  split
  · split
    · exact fun hnone => Bool.noConfusion hnone
    · exact runEpoll_spec h
  · exact fun _ => h.toOwns
  · exact fun hnone => Bool.noConfusion hnone

theorem srv_destroyState_spec {nn : Nat} {s : State} (h : Owns nn s g) :
    Conforms D (Srv.destroyState s) g fun _ g' => g'.wontExit = false → g'.held = some 0 := by
  unfold Srv.destroyState
  cases hwont : s.threadsWontExit with
  | true =>
    intro hfalse
    rw [← h.wontExit, hwont] at hfalse
    exact Bool.noConfusion hfalse
  | false =>
    rw [if_neg Bool.false_ne_true, Conforms.bind_iff]
    have hheld := h.held (h.wontExit.symm.trans hwont)
    refine (closeFds_spec hheld).mono fun _ g₁ hg₁ => ?_
    unfold Srv.closeTunFds
    cases htun : s.tunFds with
    | none =>
      intro _
      rw [hg₁, queueFds, htun, Option.getD_none, fdsOf_nil]
    | some tunFds =>
      have hheld₁ : g₁.held = some (fdsOf tunFds + 0) := by
        rw [hg₁, queueFds, htun, Option.getD_some, add_zero]
      refine (closeFds_spec hheld₁).mono fun _ g' hg' _ => ?_
      rw [hg']

/-- INTERNAL: the server closes what it opens, on every path. -/
theorem teavpn2ServerUdpRun_spec (cfg : Srv.Cfg) :
    Conforms D (Srv.teavpn2ServerUdpRun cfg) {} fun r g' =>
      r.isSome → g'.wontExit = false → g'.held = some 0 :=
  udpRun_spec (fun _ => rfl) (srv_inits_spec cfg) (fun _ _ => runServerEventLoop_spec)
    fun _ _ => srv_destroyState_spec

/-! ### The client -/

/-- What the client does in the end: the queues are still open. -/
def QueuesLeft (nn : Nat) (g : DescAccount) : Prop :=
  g.wontExit = false → (g.held = some 0 ↔ nn = 0 ∨ g.queues < nn ∨ g.nonblockFailed = true)

theorem handshakeAndAuth_spec {nn : Nat} (o : ByteOrder) (cfg : Cli.Cfg) {s : State}
    (h : SetUp nn s g) :
    Conforms D (Cli.handshakeAndAuth o cfg s) g fun r g' => SetUp nn r.2 g' := by
  rw [Cli.handshakeAndAuth, Conforms.bind_iff]
  refine Conforms.of_uses (uses_net (fun _ => trivial) _) next_plain fun r => ?_
  obtain ⟨ret, b⟩ := r
  show Conforms D (if ret ≠ 0 then _ else _) g _
  split
  · exact h
  · rw [Conforms.bind_iff]
    exact Conforms.of_uses (uses_net (fun _ => trivial) _) next_plain fun r => { h with }

theorem cli_inits_spec (o : ByteOrder) (cfg : Cli.Cfg) :
    Conforms D (stages [Cli.initState cfg, Cli.initSocket, Cli.initIface cfg,
      Cli.handshakeAndAuth o cfg] {}) {} fun r g' => SetUp cfg.sys.threadNum.toNat r.2 g' := by
  refine inits_spec [tried alloc, setSignals] ?_ ?_ ?_ ?_ ?_
  · intro p hp
    obtain rfl | rfl : p = _ ∨ p = _ := by simpa using hp
    · exact uses_tried (Prog.Uses.call trivial)
    · exact uses_setSignals trivial
  · intro fd
    exact uses_socketSetup _ fun _ _ => trivial
  · intro fd
    exact Prog.Uses.call trivial
  · intro ret s g h
    exact { h with }
  · intro init hinit s g h
    rw [List.mem_singleton.mp hinit]
    exact handshakeAndAuth_spec o cfg h

theorem runClientEventLoop_spec {cfg : Cli.Cfg} {s : State} (h : SetUp cfg.sys.threadNum.toNat s g) :
    Conforms D (Cli.runClientEventLoop cfg s) g fun r g' =>
      r.1.isSome → Owns cfg.sys.threadNum.toNat r.2 g' := by
  unfold Cli.runClientEventLoop
  split
  · exact runEpoll_spec h
  · exact fun _ => h.toOwns
  · exact fun hnone => Bool.noConfusion hnone

theorem uses_removeIff (s : State) : Prog.Uses Plain (Cli.removeIff s) := by
  unfold Cli.removeIff
  split
  · exact Prog.Uses.call trivial
  · exact Prog.Uses.pure ()

theorem cli_destroyState_spec {nn : Nat} {s : State} (h : Owns nn s g) :
    Conforms D (Cli.destroyState s) g fun _ g' => QueuesLeft nn g' := by
  rw [Cli.destroyState, Conforms.bind_iff]
  refine Conforms.of_uses (uses_removeIff s) next_plain fun _ => ?_
  cases hwont : s.threadsWontExit with
  | true =>
    intro hfalse
    rw [← h.wontExit, hwont] at hfalse
    exact Bool.noConfusion hfalse
  | false =>
    have hheld := h.held (h.wontExit.symm.trans hwont)
    show Conforms D (closeFds [s.udpFd]) g _
    refine (closeFds_spec hheld).mono fun _ g' hg' _ => ?_
    rw [hg']
    show some (fdsOf (queueFds s)) = some 0 ↔ _
    rw [Option.some_inj]
    exact h.queues

theorem out_spec {nn : Nat} {s : State} (h : Owns nn s g) :
    Conforms D (Cli.out s) g fun _ g' => QueuesLeft nn g' := by
  unfold Cli.out
  split
  · rw [Conforms.bind_iff]
    refine Conforms.of_uses (uses_net (fun _ => trivial) _) next_plain fun _ => ?_
    exact cli_destroyState_spec h
  · exact cli_destroyState_spec h

/-- INTERNAL: the client closes everything but the queues. -/
theorem teavpn2ClientUdpRun_spec (o : ByteOrder) (cfg : Cli.Cfg) :
    Conforms D (Cli.teavpn2ClientUdpRun o cfg) {} fun r g' =>
      r.isSome → QueuesLeft cfg.sys.threadNum.toNat g' := by
  refine udpRun_spec ?_ (cli_inits_spec o cfg) (fun _ _ => runClientEventLoop_spec)
    fun _ _ => out_spec
  intro _
  simp only [true_iff, Bool.false_eq_true, or_false]
  omega

/-! ### Runs that come back -/

/-- An event loop has been selected. -/
def Selected (s : State) : Prop := s.evtLoop ≠ .nop

/-- INTERNAL: stages that all keep a property of the state. -/
theorem returns_stages {I : State → Prop} {inits : List (State → Start (Int × State))}
    (h : ∀ init ∈ inits, ∀ s, I s → Prog.Returns (fun r => I r.2) (init s)) {s : State} (hs : I s) :
    Prog.Returns (fun r => I r.2) (stages inits s) := by
  induction inits generalizing s with
  | nil => exact hs
  | cons init inits ih =>
    apply Prog.Returns.bind (h init (List.mem_cons_self ..) s hs)
    intro r hr
    obtain ⟨ret, s'⟩ := r
    show Prog.Returns _ (if ret ≠ 0 then pure (ret, s') else stages inits s')
    split
    · exact hr
    · exact ih (fun i hi => h i (List.mem_cons_of_mem init hi)) hr

theorem returns_stage (p : Start Int) (s : State) (h : Selected s) :
    Prog.Returns (fun r => Selected r.2) (stage p s) :=
  Prog.Returns.after p fun _ => h

/-- A stage before the rest, of which only the successful end matters. -/
theorem returns_stages_cons {init : State → Start (Int × State)}
    {inits : List (State → Start (Int × State))} {s : State} {P : State → Prop}
    (hinit : Prog.Returns (fun r => r.1 = 0 → P r.2) (init s))
    (hnext : ∀ s', P s' → Prog.Returns (fun r => r.1 = 0 → Selected r.2) (stages inits s')) :
    Prog.Returns (fun r => r.1 = 0 → Selected r.2) (stages (init :: inits) s) := by
  apply Prog.Returns.bind hinit
  intro r hr
  obtain ⟨ret, s'⟩ := r
  show Prog.Returns _ (if ret ≠ 0 then pure (ret, s') else stages inits s')
  split
  · next hret => exact fun hzero => absurd hzero hret
  · next hret => exact hnext s' (hr (not_not.mp hret))

theorem returns_selectEventLoop (evtl : List UInt8) (s : State) :
    Prog.Returns (fun r => r.1 = 0 → Selected r.2) (selectEventLoop evtl s) := by
  unfold selectEventLoop
  split
  · exact fun _ => EvtLoop.noConfusion
  · split
    · exact fun _ => EvtLoop.noConfusion
    · intro hret
      have hne : -EINVAL ≠ 0 := by decide
      exact absurd hret hne

/-- INTERNAL: if all stages succeed, an event loop has been selected. -/
theorem returns_inits {nn : Nat} {evtl : List UInt8} (ps : List (Start Int))
    {rest : List (State → Start (Int × State))}
    (hrest : ∀ init ∈ rest, ∀ s, Selected s → Prog.Returns (fun r => Selected r.2) (init s)) :
    Prog.Returns (fun r => r.1 = 0 → Selected r.2)
      (stages (stages (allocTunFdsArray nn :: selectEventLoop evtl :: ps.map stage) :: rest) {}) := by
  have hdone : ∀ {inits : List (State → Start (Int × State))},
      (∀ init ∈ inits, ∀ s, Selected s → Prog.Returns (fun r => Selected r.2) (init s)) →
      ∀ s, Selected s → Prog.Returns (fun r => r.1 = 0 → Selected r.2) (stages inits s) :=
    fun hall s hs => (returns_stages hall hs).mono fun _ hr _ => hr
  refine returns_stages_cons (returns_stages_cons (P := fun _ => True) ?_ fun s _ => ?_)
    (hdone hrest)
  · exact (Prog.Returns.any _).mono fun _ _ _ => trivial
  · refine returns_stages_cons (returns_selectEventLoop evtl s) (hdone fun init hinit s hs => ?_)
    obtain ⟨p, -, rfl⟩ := List.mem_map.mp hinit
    exact returns_stage p s hs

theorem returns_initSocketWith (setup : Int → Start Int) (attach : Int → Start (Except Errno Unit))
    (s : State) (h : Selected s) :
    Prog.Returns (fun r => Selected r.2) (initSocketWith setup attach s) := by
  apply Prog.Returns.after
  intro r
  cases r with
  | error err => exact h
  | ok fd =>
    apply Prog.Returns.after
    intro ret
    split
    · exact Prog.Returns.after _ fun _ => h
    · exact h

theorem returns_initIfaceWith {nn : Nat} {dev : List UInt8}
    {up : Int → State → Start (Int × State)}
    (hup : ∀ ret s, Selected s → Prog.Returns (fun r => Selected r.2) (up ret s)) (s : State)
    (h : Selected s) : Prog.Returns (fun r => Selected r.2) (initIfaceWith nn dev up s) := by
  unfold initIfaceWith
  split
  · exact h
  · apply Prog.Returns.after
    intro r
    cases r with
    | error e => exact h
    | ok e => exact hup e.1 _ h

theorem returns_runEpoll {nn : Nat} (hnn : nn ≠ 0) (s : State) :
    Prog.Returns (fun r => r.1.isSome) (runEpoll nn s) := by
  have hloop : Prog.Returns (fun r : Option Int => r.isSome) (runEventLoop nn) := by
    apply Prog.Returns.after
    intro ret
    split
    · rfl
    · exact Prog.Returns.after _ fun _ => rfl
  apply Prog.Returns.after
  intro r
  obtain ⟨ret, s₁⟩ := r
  show Prog.Returns _ (if ret ≠ 0 then _ else _)
  split
  · exact Prog.Returns.after _ fun _ => rfl
  · apply Prog.Returns.bind hloop
    intro r hr
    cases r with
    | none => exact Bool.noConfusion hr
    | some ret => exact Prog.Returns.after _ fun _ => rfl

/-- INTERNAL: a run returns if its event loop does. -/
theorem returns_udpRun {nomem : Errno → Int} {inits : List (State → Start (Int × State))}
    {loop : State → Start (Option Int × State)} {out : State → Start Unit}
    (hinits : Prog.Returns (fun r => r.1 = 0 → Selected r.2) (stages inits {}))
    (hloop : ∀ s, Selected s → Prog.Returns (fun r => r.1.isSome) (loop s)) :
    Prog.Returns (fun r => r.isSome) (udpRun nomem inits loop out) := by
  apply Prog.Returns.after
  intro r
  cases r with
  | error err => rfl
  | ok _ =>
    apply Prog.Returns.bind hinits
    intro r hr
    obtain ⟨ret, s₁⟩ := r
    show Prog.Returns _ (if ret ≠ 0 then _ else _)
    split
    · exact Prog.Returns.after _ fun _ => rfl
    · next hret =>
      apply Prog.Returns.bind (hloop s₁ (hr (not_not.mp hret)))
      intro r hr
      obtain ⟨_ | ret, s₂⟩ := r
      · exact Bool.noConfusion hr
      · exact Prog.Returns.after _ fun _ => rfl

/-- With a thread the server does not panic. -/
theorem returns_teavpn2ServerUdpRun {cfg : Srv.Cfg} (hnn : cfg.sys.threadNum.toNat ≠ 0) :
    Prog.Returns (fun r => r.isSome) (Srv.teavpn2ServerUdpRun cfg) := by
  apply returns_udpRun
  · apply returns_inits [setSignals]
    intro init hinit
    simp only [List.mem_cons, List.not_mem_nil, or_false] at hinit
    rcases hinit with rfl | rfl | rfl | rfl | rfl | rfl
    · exact returns_initSocketWith _ _
    · refine returns_initIfaceWith fun ret s hs => Prog.Returns.after _ fun (up : Bool) => ?_
      cases up <;> exact hs
    all_goals exact returns_stage _
  · intro s hs
    unfold Srv.runServerEventLoop
    have hone : ¬ cfg.sys.threadNum < 1 := by
      rw [UInt8.lt_iff_toNat_lt]
      show ¬ cfg.sys.threadNum.toNat < 1
      omega
    rw [if_neg hone]
    split
    · exact returns_runEpoll hnn s
    · rfl
    · next hnop => exact absurd hnop hs

/-- With a thread the client does not run without an element of its array. -/
theorem returns_teavpn2ClientUdpRun (o : ByteOrder) {cfg : Cli.Cfg}
    (hnn : cfg.sys.threadNum.toNat ≠ 0) :
    Prog.Returns (fun r => r.isSome) (Cli.teavpn2ClientUdpRun o cfg) := by
  apply returns_udpRun
  · apply returns_inits [tried alloc, setSignals]
    intro init hinit
    simp only [List.mem_cons, List.not_mem_nil, or_false] at hinit
    rcases hinit with rfl | rfl | rfl
    · exact returns_initSocketWith _ _
    · exact returns_initIfaceWith fun ret s hs => hs
    · intro s hs
      apply Prog.Returns.after
      intro r
      obtain ⟨ret, b⟩ := r
      show Prog.Returns _ (if ret ≠ 0 then _ else _)
      split
      · exact hs
      · exact Prog.Returns.after _ fun _ => hs
  · intro s hs
    unfold Cli.runClientEventLoop
    split
    · exact returns_runEpoll hnn s
    · rfl
    · next hnop => exact absurd hnop hs

/-! ## Every run -/

/-- The result and the log of a run against a system that answers by `env`. -/
def startRun (env : StartLog → (o : StartOp) → o.Res) (p : Start (Option Int)) :
    Option Int × StartLog :=
  p.run (answer env) []

/-- INTERNAL: **when descriptors are closed exactly once.** Let the calls succeed and fail in any
way. When the server returns, and its threads have exited, all that it obtained has been closed,
each descriptor once. For the client that is so exactly if it did not get all its queues: it has
no threads, fewer calls of `tun_alloc` succeeded than it has threads, or a call of
`fd_set_nonblock` failed.
SOURCE: server/linux/udp.c:184-498, client/linux/udp.c:194-336, client/linux/udp.c:644-729 -/
theorem descriptors_closed_once_iff (env : StartLog → (o : StartOp) → o.Res) :
    (∀ cfg : Srv.Cfg,
      (startRun env (Srv.teavpn2ServerUdpRun cfg)).1.isSome →
      (descriptors (startRun env (Srv.teavpn2ServerUdpRun cfg)).2).wontExit = false →
        Released (startRun env (Srv.teavpn2ServerUdpRun cfg)).2) ∧
    (∀ (o : ByteOrder) (cfg : Cli.Cfg),
      (startRun env (Cli.teavpn2ClientUdpRun o cfg)).1.isSome →
      (descriptors (startRun env (Cli.teavpn2ClientUdpRun o cfg)).2).wontExit = false →
        (Released (startRun env (Cli.teavpn2ClientUdpRun o cfg)).2 ↔
          cfg.sys.threadNum.toNat = 0 ∨
          (descriptors (startRun env (Cli.teavpn2ClientUdpRun o cfg)).2).queues <
            cfg.sys.threadNum.toNat ∨
          (descriptors (startRun env (Cli.teavpn2ClientUdpRun o cfg)).2).nonblockFailed = true)) :=
  ⟨fun cfg => (teavpn2ServerUdpRun_spec cfg).run_account env rfl,
    fun o cfg => (teavpn2ClientUdpRun_spec o cfg).run_account env rfl⟩

/-- A system on which everything works until the client sends its first packet: the network is
unreachable. -/
def offline (log : StartLog) : (o : StartOp) → o.Res
  | .alloc => Except.ok ()
  | .signal => Except.ok ()
  | .socket => Except.ok log.length
  | .setsockopt _ _ _ => Except.ok ()
  | .bind _ => Except.ok ()
  | .connect _ => Except.ok ()
  | .tunAlloc _ => Except.ok log.length
  | .fdSetNonblock _ => (0 : Int)
  | .teavpnIfaceUp _ => true
  | .teavpnIfaceDown => ()
  | .mutexInit => (0 : Int)
  | .epollCreate => Except.ok log.length
  | .epollCtl _ _ => Except.ok ()
  | .pthreadCreate => (0 : Int)
  | .pthreadDetach => (0 : Int)
  | .eventLoop => (0 : Int)
  | .waitForThreadsToExit => true
  | .net (.sendto _) => (-101 : Int)
  | .net .poll => []
  | .net .recvfrom => Except.error EAGAIN
  | .net (.teavpnIfaceUp _) => false
  | .close _ => ()

theorem descriptors_closed_once_iff_offline :
    Released (startRun offline (Srv.teavpn2ServerUdpRun Srv.Cfg.default)).2 ∧
    (Released (startRun offline (Cli.teavpn2ClientUdpRun .little Cli.Cfg.default)).2 ↔
      (2 : Nat) = 0 ∨ 2 < 2 ∨ false = true) :=
  ⟨(descriptors_closed_once_iff offline).1 Srv.Cfg.default (by decide) (by decide),
    (descriptors_closed_once_iff offline).2 .little Cli.Cfg.default (by decide)
      (by decide)⟩

/-- The client with two threads and no network returns an error and leaves its two queues open. -/
theorem client_leaves_queues_open :
    (startRun offline (Cli.teavpn2ClientUdpRun .little Cli.Cfg.default)).1 = some (-101) ∧
    (descriptors (startRun offline (Cli.teavpn2ClientUdpRun .little Cli.Cfg.default)).2).wontExit =
      false ∧
    ¬ Released (startRun offline (Cli.teavpn2ClientUdpRun .little Cli.Cfg.default)).2 := by
  unfold Released
  refine ⟨?_, ?_, ?_⟩ <;> decide

end TeaVpn2.Analysis
