import Mathlib.Logic.Function.Basic
import TeaVpn2.Model.Bytes

/-!
# The worker threads (server/linux/udp_epoll.c:966-1032, client/linux/udp_epoll.c:396-490)

The loops of the server and of the client are the same but for one line: when a handler or
`epoll_wait` fails, the client sets `state->stop` before it leaves the loop. A move is a
step of one thread, or the setting of `state->stop` from outside the loops (a signal, the
zombie reaper, the timer). What a handler returns, and whether it sets `state->stop`
itself, is part of the move.
-/

set_option autoImplicit false

namespace TeaVpn2

/-- Whose loop it is. -/
inductive Side where
  | server
  | client
deriving DecidableEq, Repr

/-- Where a thread stands in `*_udp_epoll_run_event_loop`: before it, in `thread_wait`, at the
condition of the loop, in `epoll_wait`, with `n` events still to handle, in the error branch
of the client, behind the loop. -/
inductive WorkerPos where
  | spawned
  | waiting
  | head
  | polling
  | handling (n : Nat)
  | failed (ret : Int)
  | left (ret : Int)
deriving DecidableEq, Repr

/-- The fields of the state that the loops share, and the positions of the threads. -/
structure Workers where
  stop : Bool := false
  nOnThreads : Nat := 0
  releaseSubThread : Bool := false
  pos : Nat → WorkerPos := fun _ => .spawned

/-- A step of the thread `i`: it starts, it returns from `thread_wait`, it looks at
`state->stop`, `epoll_wait` returns `ret`, a handler returns `ret` and has set `state->stop` or
not, the client sets `state->stop` after an error. The last one is `state->stop` set from
outside. -/
inductive WorkerMove where
  | start (i : Nat)
  | released (i : Nat)
  | check (i : Nat)
  | polled (i : Nat) (ret : Int)
  | handled (i : Nat) (ret : Int) (raised : Bool)
  | giveUp (i : Nat)
  | stop
deriving Repr

namespace Workers

def setPos (w : Workers) (i : Nat) (p : WorkerPos) : Workers :=
  { w with pos := Function.update w.pos i p }

@[simp] theorem setPos_pos_self (w : Workers) (i : Nat) (p : WorkerPos) :
    (w.setPos i p).pos i = p := by
  simp only [setPos, Function.update_self]

theorem setPos_pos_of_ne (w : Workers) {i j : Nat} (h : j ≠ i) (p : WorkerPos) :
    (w.setPos i p).pos j = w.pos j := by
  simp only [setPos, Function.update_of_ne h]

/-- Behind the loop: `atomic_fetch_sub(&state->n_on_threads, 1)`. -/
def leave (w : Workers) (i : Nat) (ret : Int) : Workers :=
  { w.setPos i (.left ret) with nOnThreads := w.nOnThreads - 1 }

@[simp] theorem leave_pos_self (w : Workers) (i : Nat) (ret : Int) :
    (w.leave i ret).pos i = .left ret :=
  w.setPos_pos_self i (.left ret)

/-- `thread_wait`: the main thread waits until all threads are there and releases the others;
both give up waiting when the program is to stop. -/
def threadWait (threadNum : Nat) (w : Workers) (i : Nat) : Option Workers :=
  if i = 0 then
    if w.nOnThreads = threadNum then some { w.setPos i .head with releaseSubThread := true }
    else if w.stop then some (w.setPos i .head)
    else none
  else if w.releaseSubThread || w.stop then some (w.setPos i .head)
  else none

/-- The loop body has returned zero, or has `n` events left. -/
def afterEvents : Nat → WorkerPos
  | 0 => .head
  | n + 1 => .handling (n + 1)

/-- The loop body has returned `ret`, which is not zero: the server breaks, the client is in
its error branch. -/
def fail (side : Side) (w : Workers) (i : Nat) (ret : Int) : Workers :=
  match side with
  | .server => w.leave i ret
  | .client => w.setPos i (.failed ret)

/-- One move of a program with `threadNum` threads; `none` where it is not enabled. -/
def step (side : Side) (threadNum : Nat) : WorkerMove → Workers → Option Workers
  | .start i, w =>
      if w.pos i = .spawned ∧ i < threadNum then
        some { w.setPos i .waiting with nOnThreads := w.nOnThreads + 1 }
      else none
  | .released i, w => if w.pos i = .waiting then threadWait threadNum w i else none
  | .check i, w =>
      if w.pos i = .head then some (if w.stop then w.leave i 0 else w.setPos i .polling)
      else none
  | .polled i ret, w =>
      if w.pos i = .polling then
        some (if 0 ≤ ret then w.setPos i (afterEvents ret.toNat)
          else if ret = -EINTR then w.setPos i .head
          else w.fail side i ret)
      else none
  | .handled i ret raised, w =>
      match w.pos i with
      | .handling (n + 1) =>
          let w := { w with stop := w.stop || raised }
          some (if ret ≠ 0 then w.fail side i ret else w.setPos i (afterEvents n))
      | _ => none
  | .giveUp i, w =>
      match w.pos i with
      | .failed ret => some { w.leave i ret with stop := true }
      | _ => none
  | .stop, w => some { w with stop := true }

end Workers

/-! ## Descriptors (server/linux/udp_epoll.c:58-109) -/

/-- The socket and the queues of the TUN device. -/
inductive Fd where
  | udp
  | tun (queue : Nat)
deriving DecidableEq, Repr

/-- What `init_epoll_fd_add` registers with the thread `i`. -/
def initEpollFdAdd (threadNum i : Nat) : List Fd :=
  if i = 0 then if threadNum = 1 then [.udp, .tun 0] else [.udp]
  else if i = 1 then [.tun i, .tun 0]
  else [.tun i]

end TeaVpn2
