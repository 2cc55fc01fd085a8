import TeaVpn2.Lib.Ledger
import TeaVpn2.Model.Config
import TeaVpn2.Program.Client
import TeaVpn2.Program.Workers

/-!
# Setting up and tearing down (server/linux/udp.c, client/linux/udp.c, udp_epoll.c)

`teavpn2_server_udp_run` and `teavpn2_client_udp_run` from their first line to their return, as
programs over the calls that can fail and the calls on descriptors. What the threads do in the
event loop is one operation with the value of the main thread's loop as its answer; they neither
open nor close a descriptor. The handshake and the authentication of the client are the programs
of `Program.Client`.

Most functions stand in both files with the same text and are stated once; `Srv` and `Cli` hold
those that differ. A descriptor that is not open is `-1`, as in the source. Memory that is freed
and messages are left out.
-/

set_option autoImplicit false

namespace TeaVpn2

open TeaVpn2.Lib

def EOPNOTSUPP : Int := 95

/-- The options of `socket_setup`. -/
inductive SockOpt where
  | priority
  | rcvbufforce
  | sndbufforce
  | busyPoll
deriving DecidableEq, Repr

/-! ## System calls -/

/-- `errno` after a call that failed. -/
abbrev Errno : Type := { e : Int // 0 < e }

/-- What the two programs ask of the system. `alloc` is every allocation, `waitForThreadsToExit`
the function of that name, `eventLoop` the loop of the main thread. -/
inductive StartOp where
  | alloc
  | signal
  | socket
  | setsockopt (fd : Int) (opt : SockOpt) (y : Int)
  | bind (fd : Int)
  | connect (fd : Int)
  | tunAlloc (dev : List UInt8)
  | fdSetNonblock (fd : Int)
  | teavpnIfaceUp (iff : IfInfo)
  | teavpnIfaceDown
  | mutexInit
  | epollCreate
  | epollCtl (epollFd fd : Int)
  | pthreadCreate
  | pthreadDetach
  | eventLoop
  | waitForThreadsToExit
  | net (o : CliOp)
  | close (fd : Int)

/-- The answers: an `errno` or success, with the descriptor where there is one; the value
returned where the source looks at that. -/
def StartOp.Res : StartOp → Type
  | .alloc => Except Errno Unit
  | .signal => Except Errno Unit
  | .socket => Except Errno Nat
  | .setsockopt _ _ _ => Except Errno Unit
  | .bind _ => Except Errno Unit
  | .connect _ => Except Errno Unit
  | .tunAlloc _ => Except Errno Nat
  | .fdSetNonblock _ => Int
  | .teavpnIfaceUp _ => Bool
  | .teavpnIfaceDown => Unit
  | .mutexInit => Int
  | .epollCreate => Except Errno Nat
  | .epollCtl _ _ => Except Errno Unit
  | .pthreadCreate => Int
  | .pthreadDetach => Int
  | .eventLoop => Int
  | .waitForThreadsToExit => Bool
  | .net o => o.Res
  | .close _ => Unit

/-- A piece of the code that sets up or tears down. -/
abbrev Start := Prog StartOp StartOp.Res

namespace Start

/-- Issue one call. -/
abbrev act (o : StartOp) : Start o.Res := Prog.call o

abbrev alloc : Start (Except Errno Unit) := act .alloc
abbrev signal : Start (Except Errno Unit) := act .signal
abbrev socket : Start (Except Errno Nat) := act .socket
abbrev setsockopt (fd : Int) (opt : SockOpt) (y : Int) : Start (Except Errno Unit) :=
  act (.setsockopt fd opt y)
abbrev bind (fd : Int) : Start (Except Errno Unit) := act (.bind fd)
abbrev connect (fd : Int) : Start (Except Errno Unit) := act (.connect fd)
abbrev tunAlloc (dev : List UInt8) : Start (Except Errno Nat) := act (.tunAlloc dev)
abbrev fdSetNonblock (fd : Int) : Start Int := act (.fdSetNonblock fd)
abbrev teavpnIfaceUp (iff : IfInfo) : Start Bool := act (.teavpnIfaceUp iff)
abbrev teavpnIfaceDown : Start Unit := act .teavpnIfaceDown
abbrev mutexInit : Start Int := act .mutexInit
abbrev epollCreate : Start (Except Errno Nat) := act .epollCreate
abbrev epollCtl (epollFd fd : Int) : Start (Except Errno Unit) := act (.epollCtl epollFd fd)
abbrev pthreadCreate : Start Int := act .pthreadCreate
abbrev pthreadDetach : Start Int := act .pthreadDetach
abbrev eventLoop : Start Int := act .eventLoop
abbrev waitForThreadsToExit : Start Bool := act .waitForThreadsToExit
abbrev close (fd : Int) : Start Unit := act (.close fd)

/-- The calls of the handshake and the authentication. -/
def net {α : Type} : Cli α → Start α
  | .pure a => .pure a
  | .op o k => .op (.net o) fun r => net (k r)

/-- `-errno`, or 0. -/
def retOf {α : Type} : Except Errno α → Int
  | .error err => -err.1
  | .ok _ => 0

/-- `ret = f(); if (ret) return ret;`, one function after the other. -/
def firstError : List (Start Int) → Start Int
  | [] => pure 0
  | p :: ps => do
      let ret ← p
      if ret ≠ 0 then pure ret else firstError ps

/-! ## The state -/

/-- The event loops. -/
inductive EvtLoop where
  | nop
  | epoll
  | ioUring
deriving DecidableEq, Repr

/-- The fields of `struct srv_udp_state` and `struct cli_udp_state` that are read here. An array
that is `NULL` is `none`; `epollFds` are the fields `epoll_fd` of `epl_threads`. -/
structure State where
  udpFd : Int := -1
  tunFds : Option (List Int) := none
  evtLoop : EvtLoop := .nop
  epollFds : Option (List Int) := none
  needRemoveIff : Bool := false
  threadsWontExit : Bool := false
deriving DecidableEq, Repr

/-- `ret = init(state); if (ret) goto out;`, one stage after the other. -/
def stages : List (State → Start (Int × State)) → State → Start (Int × State)
  | [], s => pure (0, s)
  | init :: inits, s => do
      let (ret, s) ← init s
      if ret ≠ 0 then pure (ret, s) else stages inits s

/-- A stage that leaves the state as it is. -/
def stage (p : Start Int) (s : State) : Start (Int × State) := do
  let ret ← p
  pure (ret, s)

/-! ## `init_state` (server/linux/udp.c:34-120, client/linux/udp.c:37-130) -/

def allocTunFdsArray (nn : Nat) (s : State) : Start (Int × State) := do
  match ← alloc with
  | .error err => pure (-err.1, s)
  | .ok _ => pure (0, { s with tunFds := some (List.replicate nn (-1)) })

def selectEventLoop (evtl : List UInt8) (s : State) : Start (Int × State) :=
  if evtl = [] ∨ evtl = ascii "epoll" then pure (0, { s with evtLoop := .epoll })
  else if evtl = ascii "io_uring" ∨ evtl = ascii "io uring" ∨ evtl = ascii "iouring" ∨
      evtl = ascii "uring" then
    pure (0, { s with evtLoop := .ioUring })
  else pure (-EINVAL, s)

/-- One call that returns an `errno`. -/
def tried (p : Start (Except Errno Unit)) : Start Int := do
  let r ← p
  pure (retOf r)

/-- The handlers for `SIGINT`, `SIGTERM`, `SIGHUP` and `SIGPIPE`. -/
def setSignals : Start Int := firstError [tried signal, tried signal, tried signal, tried signal]

/-! ## `init_socket` (server/linux/udp.c:123-238, client/linux/udp.c:133-250) -/

/-- The options that `socket_setup` sets, in order. -/
def sockOpts : List (SockOpt × Int) :=
  [(.priority, 6), (.rcvbufforce, 1024 * 1024 * 50), (.sndbufforce, 1024 * 1024 * 100),
    (.busyPoll, 50000)]

/-- `socket_setup`; `out` is the value it returns after a call that failed. -/
def socketSetup (out : Errno → Int) (fd : Int) : Start Int :=
  firstError (sockOpts.map fun o => do
    match ← setsockopt fd o.1 o.2 with
    | .error err => pure (out err)
    | .ok _ => pure 0)

/-- `init_socket`, with the value returned when `socket_setup` fails and the call that comes
after it. -/
def initSocketWith (setup : Int → Start Int) (attach : Int → Start (Except Errno Unit))
    (s : State) : Start (Int × State) := do
  match ← socket with
  | .error err => pure (-err.1, s)
  | .ok fd =>
      let ret ← firstError [setup fd, tried (attach fd)]
      if ret ≠ 0 then
        close fd
        pure (ret, s)
      else pure (0, { s with udpFd := fd })

/-! ## `init_iface` (server/linux/udp.c:241-300, client/linux/udp.c:283-336) -/

/-- The loop at the label `err`: `while (i--)`. -/
def unwind : Nat → List Int → Start (List Int)
  | 0, tunFds => pure tunFds
  | i + 1, tunFds => do
      close (tunFds.getD i (-1))
      unwind i (tunFds.set i (-1))

/-- A queue is made non-blocking except for io_uring; `ret` is what the variable holds before. -/
def setNonblock (evtLoop : EvtLoop) (fd : Int) (ret : Int) : Start Int :=
  if evtLoop ≠ .ioUring then fdSetNonblock fd else pure ret

/-- The loop over the queues, from queue `i` on with `n` to go; `.error` is the label `err`. -/
def openQueues (evtLoop : EvtLoop) (dev : List UInt8) :
    Nat → Nat → List Int → Int → Start (Except (Int × List Int) (Int × List Int))
  | 0, _, tunFds, ret => pure (.ok (ret, tunFds))
  | n + 1, i, tunFds, ret => do
      match ← tunAlloc dev with
      | .error err =>
          let tunFds ← unwind i tunFds
          pure (.error (-err.1, tunFds))
      | .ok fd =>
          let ret ← setNonblock evtLoop fd ret
          if evtLoop ≠ .ioUring ∧ ret < 0 then
            close fd
            let tunFds ← unwind i tunFds
            pure (.error (ret, tunFds))
          else openQueues evtLoop dev n (i + 1) (tunFds.set i fd) ret

/-- `init_iface`; `up` is what follows the loop. -/
def initIfaceWith (nn : Nat) (dev : List UInt8) (up : Int → State → Start (Int × State))
    (s : State) : Start (Int × State) := do
  if dev = [] then pure (-EINVAL, s)
  else
    match ← openQueues s.evtLoop dev nn 0 (s.tunFds.getD []) 0 with
    | .error (ret, tunFds) => pure (ret, { s with tunFds := some tunFds })
    | .ok (ret, tunFds) => up ret { s with tunFds := some tunFds }

/-! ## The epoll instances (udp_epoll.c) -/

/-- The descriptor that `init_epoll_fd_add` or `do_epoll_fd_registration` names. -/
def fdOf (s : State) : Fd → Int
  | .udp => s.udpFd
  | .tun queue => (s.tunFds.getD []).getD queue (-1)

/-- `init_epoll_thread`: the value returned and the field `epoll_fd`. -/
def initEpollThread (nn i : Nat) (s : State) : Start (Int × Int) := do
  match ← epollCreate with
  | .error err => pure (-err.1, -1)
  | .ok epollFd =>
      let ret ← firstError ((initEpollFdAdd nn i).map fun fd => tried (epollCtl epollFd (fdOf s fd)))
      pure (ret, epollFd)

/-- The loop of `init_epoll_thread_array`, from thread `i` on with `n` to go. -/
def initEpollThreads (nn : Nat) (s : State) : Nat → Nat → List Int → Start (Int × List Int)
  | 0, _, epollFds => pure (0, epollFds)
  | n + 1, i, epollFds => do
      let (ret, epollFd) ← initEpollThread nn i s
      let epollFds := epollFds.set i epollFd
      if ret ≠ 0 then pure (ret, epollFds)
      else
        match ← alloc with
        | .error err => pure (-err.1, epollFds)
        | .ok _ => initEpollThreads nn s n (i + 1) epollFds

/-- `init_epoll_thread_array` behind the check of the number of threads. -/
def initEpollThreadArray (nn : Nat) (s : State) : Start (Int × State) := do
  match ← alloc with
  | .error err => pure (-err.1, s)
  | .ok _ =>
      let (ret, epollFds) ← initEpollThreads nn s nn 0 (List.replicate nn (-1))
      pure (ret, { s with epollFds := some epollFds })

/-- `spawn_*_thread`: create and detach. -/
def spawnThread : Start Int :=
  firstError [do pure (-(← pthreadCreate)), do pure (-(← pthreadDetach))]

/-- `run_event_loop`: the zombie reaper or the timer, the threads `1` to `nn - 1`, the loop of
the main thread, which is the thread 0. With no threads there is no element 0 of the array:
`none`. -/
def runEventLoop (nn : Nat) : Start (Option Int) := do
  let ret ← firstError (List.replicate (1 + (nn - 1)) spawnThread)
  if ret ≠ 0 then pure (some ret)
  else if nn = 0 then pure none
  else pure (some (← eventLoop))

/-- Close the descriptors that are not `-1`. -/
def closeFds : List Int → Start Unit
  | [] => pure ()
  | fd :: fds => do
      if fd ≠ -1 then close fd
      closeFds fds

/-- `close_epoll_fds`. -/
def closeEpollFds (s : State) : Start Unit :=
  match s.epollFds with
  | none => pure ()
  | some epollFds => closeFds epollFds

/-- `destroy_epoll`. -/
def destroyEpoll (s : State) : Start State := do
  if ← waitForThreadsToExit then
    closeEpollFds s
    pure s
  else pure { s with threadsWontExit := true }

/-- `teavpn2_udp_server_epoll` and `teavpn2_udp_client_epoll`, behind the check of the number of
threads. -/
def runEpoll (nn : Nat) (s : State) : Start (Option Int × State) := do
  let (ret, s) ← initEpollThreadArray nn s
  if ret ≠ 0 then
    let s ← destroyEpoll s
    pure (some ret, s)
  else
    match ← runEventLoop nn with
    | none => pure (none, s)
    | some ret =>
        let s ← destroyEpoll s
        pure (some ret, s)

/-- `close_udp_fd`. -/
def closeUdpFd (s : State) : Start Unit := closeFds [s.udpFd]

/-- `teavpn2_server_udp_run` and `teavpn2_client_udp_run`: the stages, the event loop, and what
stands behind the label `out`. The result is `none` if the event loop is never left. -/
def udpRun (nomem : Errno → Int) (inits : List (State → Start (Int × State)))
    (loop : State → Start (Option Int × State)) (out : State → Start Unit) : Start (Option Int) := do
  match ← alloc with
  | .error err => pure (some (nomem err))
  | .ok _ =>
      let (ret, s) ← stages inits {}
      if ret ≠ 0 then
        out s
        pure (some ret)
      else
        match ← loop s with
        | (none, _) => pure none
        | (some ret, s) =>
            out s
            pure (some ret)

end Start

/-! ## The server (server/linux/udp.c) -/

namespace Srv

open Start (State EvtLoop firstError tried stage stages)

/-- server/linux/udp.c:85-120. -/
def initState (cfg : Cfg) : State → Start (Int × State) :=
  stages [Start.allocTunFdsArray cfg.sys.threadNum.toNat, Start.selectEventLoop cfg.sock.eventLoop,
    stage Start.setSignals]

/-- server/linux/udp.c:123-238: after an error `socket_setup` returns -1, so `init_socket`
returns 1. -/
def initSocket : State → Start (Int × State) :=
  Start.initSocketWith (Start.socketSetup fun _ => 1) Start.bind

/-- server/linux/udp.c:241-300. -/
def initIface (cfg : Cfg) : State → Start (Int × State) :=
  Start.initIfaceWith cfg.sys.threadNum.toNat cfg.iface.dev fun ret s => do
    if ← Start.teavpnIfaceUp cfg.iface.iff then pure (ret, { s with needRemoveIff := true })
    else pure (-ENETDOWN, s)

/-- server/linux/udp.c:303-319. -/
def initUdpSessionArray : Start Int := tried Start.alloc

/-- server/linux/udp.c:322-339; `mutex_init` returns the error. -/
def initUdpSessionMap : Start Int :=
  firstError [tried Start.alloc, do pure (-(← Start.mutexInit))]

/-- server/linux/udp.c:342-369. -/
def initUdpSessionStack : Start Int :=
  firstError [tried Start.alloc, do pure (-(← Start.mutexInit))]

/-- server/linux/udp.c:372-382. -/
def initIpv4Map : Start Int := tried Start.alloc

/-- server/linux/udp.c:385-399; `none` is the panic in `init_epoll_thread_array`
(server/linux/udp_epoll.c:161-164). -/
def runServerEventLoop (cfg : Cfg) (s : State) : Start (Option Int × State) :=
  match s.evtLoop with
  | .epoll =>
      if cfg.sys.threadNum < 1 then pure (none, s) else Start.runEpoll cfg.sys.threadNum.toNat s
  | .ioUring => pure (some (-EOPNOTSUPP), s)
  | .nop => pure (none, s)

/-- server/linux/udp.c:413-429. -/
def closeTunFds (s : State) : Start Unit :=
  match s.tunFds with
  | none => pure ()
  | some tunFds => Start.closeFds tunFds

/-- server/linux/udp.c:432-460. -/
def destroyState (s : State) : Start Unit := do
  if s.threadsWontExit then pure ()
  else
    Start.closeUdpFd s
    closeTunFds s

/-- server/linux/udp.c:463-498; `none` is a panic. -/
def teavpn2ServerUdpRun (cfg : Cfg) : Start (Option Int) :=
  Start.udpRun (fun err => -err.1)
    [initState cfg, initSocket, initIface cfg, stage initUdpSessionArray, stage initUdpSessionMap,
      stage initUdpSessionStack, stage initIpv4Map]
    (runServerEventLoop cfg) destroyState

end Srv

/-! ## The client (client/linux/udp.c) -/

namespace Cli

open Start (State EvtLoop tried stage stages)

/-- The fields that the handshake and the authentication read. -/
def Cfg.read (cfg : Cfg) : CliCfg where
  username := cfg.auth.username
  password := cfg.auth.password
  dev := cfg.iface.dev
  serverAddr := cfg.sock.serverAddr
  overrideDefault := cfg.iface.overrideDefault

/-- client/linux/udp.c:88-130: here the packet buffer is allocated too. -/
def initState (cfg : Cfg) : State → Start (Int × State) :=
  stages [Start.allocTunFdsArray cfg.sys.threadNum.toNat, Start.selectEventLoop cfg.sock.eventLoop,
    stage (tried Start.alloc), stage Start.setSignals]

/-- client/linux/udp.c:133-250. -/
def initSocket : State → Start (Int × State) :=
  Start.initSocketWith (Start.socketSetup fun err => -err.1) Start.connect

/-- client/linux/udp.c:283-336. -/
def initIface (cfg : Cfg) : State → Start (Int × State) :=
  Start.initIfaceWith cfg.sys.threadNum.toNat cfg.iface.dev fun ret s =>
    pure (ret, { s with needRemoveIff := false })

/-- `do_handshake` and `do_auth`; the second stage starts from the buffer that the first leaves.
`bring_up_iface` sets `need_remove_iff` where the authentication succeeds. -/
def handshakeAndAuth (o : ByteOrder) (cfg : Cfg) (s : State) : Start (Int × State) := do
  let (ret, b) ← Start.net (doHandshake o fun _ => 0)
  if ret ≠ 0 then pure (ret, s)
  else
    let (ret, _) ← Start.net (doAuth o cfg.read b)
    pure (ret, { s with needRemoveIff := s.needRemoveIff || ret == 0 })

/-- client/linux/udp.c:627-641. -/
def runClientEventLoop (cfg : Cfg) (s : State) : Start (Option Int × State) :=
  match s.evtLoop with
  | .epoll => Start.runEpoll cfg.sys.threadNum.toNat s
  | .ioUring => pure (some (-EOPNOTSUPP), s)
  | .nop => pure (none, s)

/-- client/linux/udp.c:644-658: the loop prints the descriptors and closes none. -/
def closeTunFds (_ : State) : Start Unit := pure ()

/-- The interface is taken down if it is up. -/
def removeIff (s : State) : Start Unit :=
  if s.needRemoveIff then Start.teavpnIfaceDown else pure ()

/-- client/linux/udp.c:671-685. -/
def destroyState (s : State) : Start Unit := do
  removeIff s
  if s.threadsWontExit then pure ()
  else
    closeTunFds s
    Start.closeUdpFd s

/-- The label `out` (client/linux/udp.c:716-728). The four bytes of the close packet do not depend on
the buffer. -/
def out (s : State) : Start Unit := do
  if s.udpFd ≠ -1 then
    let _ ← Start.net (sendClosePacket fun _ => 0)
  destroyState s

/-- client/linux/udp.c:688-729; `none` is the access to the element 0 of an empty array. -/
def teavpn2ClientUdpRun (o : ByteOrder) (cfg : Cfg) : Start (Option Int) :=
  Start.udpRun (fun _ => -ENOMEM)
    [initState cfg, initSocket, initIface cfg, handshakeAndAuth o cfg]
    (runClientEventLoop cfg) out

end Cli

end TeaVpn2
