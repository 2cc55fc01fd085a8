import TeaVpn2.Program.System

/-!
# The event loop of the receiver (udp_epoll.c:908-1032)

`epoll_wait` reports a list of readable descriptors; their handlers run one after the
other until one of them returns something other than zero, which ends the loop and with it
the server. Each event comes with what reading from its descriptor gives and with an
environment of its own, as the inputs of `Server.step` do.
-/

set_option autoImplicit false

namespace TeaVpn2

/-- A readable descriptor, and what `recvfrom` or `read` gives: an error is the `errno`. -/
inductive EpollEvent where
  | udp (recv : Except Int (Endpoint × List UInt8))
  | tun (read : Except Int (List UInt8))

/-- udp_epoll.c:908-921, with the failing reads of `handle_event_from_udp` (339-385, 786-797)
and `handle_event_from_tun` (883-905). -/
def Srv.handleEvent (o : ByteOrder) (maxConn : UInt16) (pkt : ScPkt) :
    EpollEvent → Srv (Int × ScPkt)
  | .udp (.error errno) =>
      pure (if errno = EAGAIN then (0, { pkt with len := 0 }) else (-errno, pkt))
  | .udp (.ok (saddr, data)) => handleEventFromUdp o pkt saddr data
  | .tun (.error errno) => pure (if errno = EAGAIN then 0 else -errno, pkt)
  | .tun (.ok data) => handleEventFromTun maxConn pkt data

namespace Server

/-- The world in which the handler of an event runs: a datagram has been received. -/
def eventWorld (s : Server) (env : Env) : EpollEvent → World
  | .udp (.ok (saddr, data)) => (s.world env).emit (.recv saddr data)
  | _ => s.world env

/-- One event: what its handler returns, and the server it leaves. -/
def handleEvent (s : Server) (env : Env) (event : EpollEvent) : Int × Server :=
  let (r, w) := (Srv.handleEvent s.st.order s.st.maxConn s.pkt event).run exec
    (s.eventWorld env event)
  (r.1, { s with st := w.st, pkt := r.2, log := w.log })

/-- The loop over the events of one `epoll_wait`. -/
def handleEvents (s : Server) : List (Env × EpollEvent) → Int × Server
  | [] => (0, s)
  | (env, event) :: events =>
      let (tmp, s) := s.handleEvent env event
      if tmp ≠ 0 then (tmp, s) else s.handleEvents events

/-- udp_epoll.c:924-963, on the result of `epoll_wait`. -/
def __runEventLoop (s : Server) : Except Int (List (Env × EpollEvent)) → Int × Server
  | .error errno => (if errno = EINTR then 0 else -errno, s)
  | .ok events => s.handleEvents events

/-- Whether the thread is still in its loop, or has left it with a return value. -/
inductive Loop where
  | running
  | left (ret : Int)
deriving DecidableEq, Repr

/-- udp_epoll.c:1010-1032, on the results of the successive calls of `epoll_wait`. -/
def serverUdpEpollRunEventLoop (s : Server) :
    List (Except Int (List (Env × EpollEvent))) → Loop × Server
  | [] => (.running, s)
  | wait :: waits =>
      if s.st.stop then (.left 0, s)
      else
        let (ret, s) := s.__runEventLoop wait
        if ret ≠ 0 then (.left ret, s) else s.serverUdpEpollRunEventLoop waits

end Server

end TeaVpn2
