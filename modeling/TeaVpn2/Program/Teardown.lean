import TeaVpn2.Program.Workers

/-!
# From the first thread to the last (server/linux/udp_epoll.c:1142-1417, client/linux/udp_epoll.c:464-768)

`run_event_loop` creates the threads and `destroy_epoll` waits for them, on both sides in the same
way: one helper thread (the zombie reaper of the server, the timer of the client) and the workers,
of which the main thread is the first. All of them are detached, so the main thread waits by looking
at `is_online` of the helper and at `n_on_threads`, and it frees what they use when it has seen that
they are gone. A move is a step of one thread, or a run of the signal handler.

`pthread_kill` only makes the signal handler run, now or later. A thread is online from the moment
it has said so; what it does before that is part of its first move, and what it does when it has
said that it leaves does not touch the state.
-/

set_option autoImplicit false

namespace TeaVpn2

/-- Where the helper stands: not created; created, but not yet online; at the condition of its loop;
in the body; behind the loop. -/
inductive HelperPos where
  | absent
  | created
  | head
  | working
  | gone
deriving DecidableEq, Repr

/-- Where the main thread stands. -/
inductive MainPos where
  | spawnHelper
  | spawn (i : Nat)
  | looping
  | lookHelper
  | waitHelper (waitC : Nat)
  | countThreads
  | waitThreads (waitC : Nat)
  | released
  | wontExit
deriving DecidableEq, Repr

/-- How `pthread_create` and `pthread_detach` end. -/
inductive Spawned where
  | ok
  | notDetached
  | notCreated
deriving DecidableEq, Repr

structure Teardown where
  workers : Workers := {}
  created : Nat → Bool := fun _ => false
  helper : HelperPos := .absent
  helperOnline : Bool := false
  /-- `state->sig != -1`. -/
  sig : Bool := false
  main : MainPos := .spawnHelper

/-- `helperStart raised`: the reaper sets `state->stop` when it has no memory for its packet;
`helperWork raised`: a scan or a tick sets it. -/
inductive TeardownMove where
  | worker (m : WorkerMove)
  | helperStart (raised : Bool)
  | helperCheck
  | helperWork (raised : Bool)
  | signal
  | spawnHelper (res : Spawned)
  | spawn (res : Spawned)
  | returned
  | lookHelper
  | waitHelper
  | countThreads
  | waitThreads
deriving Repr

namespace Teardown

/-- A worker can begin when it has been created; the main thread calls its loop itself. The stop flag
is not set from outside the moves below. -/
def mayMove (s : Teardown) : WorkerMove → Bool
  | .start i => if i = 0 then s.main == .looping else s.created i
  | .stop => false
  | _ => true

/-- `state->stop = true`, if the code sets it. -/
def raise (s : Teardown) (raised : Bool) : Teardown :=
  { s with workers := { s.workers with stop := s.workers.stop || raised } }

/-- The `for` loop that creates the workers. -/
def spawnFrom (threadNum i : Nat) : MainPos := if i < threadNum then .spawn i else .looping

/-- One move of a program with `threadNum` threads; `none` where it is not enabled. -/
def step (side : Side) (threadNum : Nat) : TeardownMove → Teardown → Option Teardown
  | .worker m, s =>
      if s.mayMove m then
        (Workers.step side threadNum m s.workers).map fun w => { s with workers := w }
      else none
  | .helperStart raised, s =>
      if s.helper = .created ∧ (raised = true → side = .server) then
        some { s.raise raised with helper := .head, helperOnline := true }
      else none
  | .helperCheck, s =>
      if s.helper = .head then
        some (if s.workers.stop then { s with helper := .gone, helperOnline := false }
          else { s with helper := .working })
      else none
  | .helperWork raised, s =>
      if s.helper = .working then some { s.raise raised with helper := .head } else none
  | .signal, s => some (if s.sig then s else { s.raise true with sig := true })
  | .spawnHelper res, s =>
      if s.main = .spawnHelper then
        match res with
        | .ok => some { s with helper := .created, main := spawnFrom threadNum 1 }
        | .notDetached => some { s with helper := .created, main := .lookHelper }
        | .notCreated => some { s with main := .lookHelper }
      else none
  | .spawn res, s =>
      match s.main with
      | .spawn i =>
          let created := Function.update s.created i true
          match res with
          | .ok => some { s with created := created, main := spawnFrom threadNum (i + 1) }
          | .notDetached => some { s with created := created, main := .lookHelper }
          | .notCreated => some { s with main := .lookHelper }
      | _ => none
  | .returned, s =>
      match s.main, s.workers.pos 0 with
      | .looping, .left _ => some { s with main := .lookHelper }
      | _, _ => none
  | .lookHelper, s =>
      if s.main = .lookHelper then
        some { s with main := if s.helperOnline then .waitHelper 0 else .countThreads }
      else none
  | .waitHelper, s =>
      match s.main with
      | .waitHelper c =>
          some { s with main :=
            if s.helperOnline then if c > 1000 then .wontExit else .waitHelper (c + 1)
            else .countThreads }
      | _ => none
  | .countThreads, s =>
      if s.main = .countThreads then
        some { s with main := if s.workers.nOnThreads = 0 then .released else .waitThreads 0 }
      else none
  | .waitThreads, s =>
      match s.main with
      | .waitThreads c =>
          some { s with main :=
            if s.workers.nOnThreads = 0 then .released
            else if c > 1000 then .wontExit
            else .waitThreads (c + 1) }
      | _ => none

end Teardown

/-- The move is one of a thread that the main thread waits for; it touches the state. -/
def TeardownMove.byThread : TeardownMove → Bool
  | .worker _ | .helperStart _ | .helperCheck | .helperWork _ => true
  | _ => false

end TeaVpn2
