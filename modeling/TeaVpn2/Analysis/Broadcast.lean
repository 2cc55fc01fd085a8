import TeaVpn2.Analysis.Survival
import TeaVpn2.Analysis.Unicast

/-!
# Who receives a broadcast

`broadcast_packet` walks over the slots and sends to the authenticated ones. It returns at
the first send that fails, and its value becomes the value of the handler, which ends the
event loop. `broadcast_reaches_iff`: every authenticated session is tried exactly once and
the loop goes on exactly when all the sends succeed.

The sends share one queue of answers of the kernel, so whether they all succeed is read off
that queue (`AllSent`), one `send_to_client` after the other.
-/

set_option autoImplicit false

namespace TeaVpn2.Analysis

open TeaVpn2 TeaVpn2.Lib

/-! ## The sends -/

/-- The next `n` sends of `len` bytes succeed, with the answers `rs` of `sendto` and the flags
and `poll` results `f`. -/
def AllSent (len : Nat) : Nat → List Int → IoFlags → Prop
  | 0, _, _ => True
  | n + 1, rs, f =>
      0 ≤ (sendAgain len rs f).1 ∧ AllSent len n (sendAgain len rs f).2.1 (sendAgain len rs f).2.2

/-- The authenticated sessions among the slots `slots`. -/
def receivers (w : World) (slots : List Nat) : List Nat :=
  slots.filter fun i => (w.st.sessArr i).isAuthenticated

/-- The slot that the packet `pkt` was sent to. -/
def sentTo (pkt : List UInt8) : Event → Option Nat
  | .send i _ _ data _ => if data = pkt then some i else none
  | _ => none

/-- INTERNAL: a send of a packet that is not empty: its result, the answers that are left,
and what is recorded. -/
theorem sendToClient_eq (w : World) (i : Nat) {data : List UInt8} (h : data.length ≠ 0) :
    (w.sendToClient i data).1 = (sendAgain data.length w.env.sendto w.ioFlags).1 ∧
      (w.sendToClient i data).2.env.sendto =
        (sendAgain data.length w.env.sendto w.ioFlags).2.1 ∧
      (w.sendToClient i data).2.ioFlags = (sendAgain data.length w.env.sendto w.ioFlags).2.2 ∧
      (w.sendToClient i data).2.st.sessArr = w.st.sessArr ∧
      (w.sendToClient i data).2.log = w.log ++ [.send i (w.st.sessArr i).addr
        (w.st.sessArr i).isAuthenticated data (w.sendToClient i data).1] := by
  have heq : w.sendToClient i data =
      ((sendAgain data.length w.env.sendto w.ioFlags).1,
        ({ w.setIoFlags (sendAgain data.length w.env.sendto w.ioFlags).2.2 with
            env := { (w.setIoFlags (sendAgain data.length w.env.sendto w.ioFlags).2.2).env with
              sendto := (sendAgain data.length w.env.sendto w.ioFlags).2.1 } } : World).emit
          (.send i (w.st.sessArr i).addr (w.st.sessArr i).isAuthenticated data
            (sendAgain data.length w.env.sendto w.ioFlags).1)) := by
    unfold World.sendToClient
    exact if_neg h
  rw [heq]
  exact ⟨rfl, rfl, rfl, rfl, rfl⟩

/-- INTERNAL: what the loop does with one slot. -/
theorem run_broadcastFrom_cons (data : List UInt8) (i : Nat) (is : List Nat) (w : World) :
    (Srv.broadcastFrom data (i :: is)).run exec w =
      if (w.st.sessArr i).isAuthenticated = true then
        if (w.sendToClient i data).1 < 0 then w.sendToClient i data
        else (Srv.broadcastFrom data is).run exec (w.sendToClient i data).2
      else (Srv.broadcastFrom data is).run exec w := by
  rw [Srv.broadcastFrom, Prog.run_bind]
  show (Prog.run exec (if (w.st.sessArr i).isAuthenticated = true then _ else _) w) = _
  split
  · rw [Prog.run_bind]
    show (Prog.run exec (if (w.sendToClient i data).1 < 0 then _ else _)
      (w.sendToClient i data).2) = _
    split
    · rfl
    · rfl
  · rfl

/-- INTERNAL: **the loop over the slots**: if all sends succeed, it returns zero and has tried
every receiver once, in order; if not, it returns the error of the first that fails.
SOURCE: udp_epoll.c:827-851 -/
theorem run_broadcastFrom {data : List UInt8} (hdata : data.length ≠ 0) (slots : List Nat)
    (w : World) :
    (AllSent data.length (receivers w slots).length w.env.sendto w.ioFlags →
      ((Srv.broadcastFrom data slots).run exec w).1 = 0 ∧
        ∃ new, ((Srv.broadcastFrom data slots).run exec w).2.log = w.log ++ new ∧
          new.map (sentTo data) = (receivers w slots).map some) ∧
      (¬AllSent data.length (receivers w slots).length w.env.sendto w.ioFlags →
        ((Srv.broadcastFrom data slots).run exec w).1 < 0) := by
  induction slots generalizing w with
  | nil =>
    refine ⟨fun _ => ⟨rfl, [], by simp [Srv.broadcastFrom], rfl⟩, fun h => absurd trivial h⟩
  | cons i is ih =>
    rw [run_broadcastFrom_cons]
    by_cases hauth : (w.st.sessArr i).isAuthenticated = true
    · -- the next receiver takes the next answers
      obtain ⟨hret, hrs, hflags, harr, hlog⟩ := sendToClient_eq w i hdata
      have hrecv : receivers w (i :: is) = i :: receivers w is := by simp [receivers, hauth]
      have hrest : receivers (w.sendToClient i data).2 is = receivers w is := by
        unfold receivers
        rw [harr]
      obtain ⟨ihok, ihfail⟩ := ih (w.sendToClient i data).2
      rw [hrest, hrs, hflags] at ihok ihfail
      rw [if_pos hauth, hrecv, List.length_cons, AllSent, ← hret]
      by_cases hneg : (w.sendToClient i data).1 < 0
      · rw [if_pos hneg]
        exact ⟨fun h => absurd h.1 (by omega), fun _ => hneg⟩
      · rw [if_neg hneg]
        refine ⟨fun h => ?_, fun h => ihfail fun hall => h ⟨by omega, hall⟩⟩
        obtain ⟨hzero, new, hnew, hslots⟩ := ihok h.2
        refine ⟨hzero, .send i (w.st.sessArr i).addr (w.st.sessArr i).isAuthenticated data
          (w.sendToClient i data).1 :: new, ?_, ?_⟩
        · rw [hnew, hlog, List.append_assoc]
          rfl
        · rw [List.map_cons, List.map_cons, hslots]
          simp [sentTo]
    · rw [if_neg hauth]
      have hrecv : receivers w (i :: is) = receivers w is := by simp [receivers, hauth]
      rw [hrecv]
      exact ih w

/-! ## The handler -/

/-- The packet that the handler of the TUN device prepares, and its length. -/
def preparedTun (s : Server) (data : List UInt8) : Buf × Nat :=
  srvPprep (s.pkt.raw.write 4 (data.take 4096)) TSRV_PKT_TUN_DATA
    (UInt16.ofNat (data.take 4096).length) 0

/-- The world in which `broadcast_packet` is called, if it is: at once for a packet that is
not IPv4, and after `route_ipv4_packet` has returned `-ENOENT`. -/
def broadcastWorld (s : Server) (env : Env) (data : List UInt8) : Option World :=
  if Srv.ipVersion (preparedTun s data).1 = 4 then
    let r := (Srv.routeIpv4Packet (Srv.ipDaddr (preparedTun s data).1)
      (sent (preparedTun s data))).run exec (s.world env)
    if r.1 = -ENOENT then some r.2 else none
  else some (s.world env)

/-- INTERNAL: the handler of the device ends with the broadcast.
SOURCE: udp_epoll.c:854-905 -/
theorem run_routePacket {s : Server} {env : Env} {data : List UInt8} {w : World}
    (h : broadcastWorld s env data = some w) :
    (Srv._routePacket s.st.maxConn (preparedTun s data).1 (sent (preparedTun s data))).run exec
        (s.world env) =
      (Srv.broadcastPacket s.st.maxConn (sent (preparedTun s data))).run exec w := by
  unfold broadcastWorld at h
  unfold Srv._routePacket
  split at h
  · next hver =>
    rw [if_pos hver, Prog.run_bind]
    simp only [Option.ite_none_right_eq_some, Option.some.injEq] at h
    rw [h.1, h.2, if_neg (by simp)]
  · next hver =>
    cases h
    rw [if_neg hver]

theorem handleEvent_broadcast {s : Server} {env : Env} {data : List UInt8} {w : World}
    (h : broadcastWorld s env data = some w) :
    (s.handleEvent env (.tun (.ok data))).1 =
        ((Srv.broadcastPacket s.st.maxConn (sent (preparedTun s data))).run exec w).1 ∧
      (s.handleEvent env (.tun (.ok data))).2.log =
        ((Srv.broadcastPacket s.st.maxConn (sent (preparedTun s data))).run exec w).2.log := by
  have hrun := run_routePacket h
  simp only [Server.handleEvent, Srv.handleEvent, Srv.handleEventFromTun, Server.eventWorld,
    Prog.run_bind, Prog.run_pure]
  unfold preparedTun at hrun
  rw [hrun]
  exact ⟨rfl, rfl⟩

/-- The broadcast of the packet `data`, begun in the world `w`, reaches everyone: each
authenticated session is tried exactly once, nothing else is done, and the worker goes on. -/
structure BroadcastReaches (s : Server) (env : Env) (data : List UInt8) (w : World) : Prop where
  sends : ∃ new, (s.handleEvent env (.tun (.ok data))).2.log = w.log ++ new ∧
    new.map (sentTo (sent (preparedTun s data))) =
      (receivers w (List.range s.st.maxConn.toNat)).map some
  ret : (s.handleEvent env (.tun (.ok data))).1 = 0
  loop : s.st.stop = false → ∀ waits,
    s.serverUdpEpollRunEventLoop (.ok [(env, .tun (.ok data))] :: waits) =
      (s.handleEvent env (.tun (.ok data))).2.serverUdpEpollRunEventLoop waits

theorem length_preparedTun (s : Server) (data : List UInt8) :
    (sent (preparedTun s data)).length ≠ 0 := by
  unfold preparedTun srvPprep
  rw [sent_pprep]
  simp [header]

/-- INTERNAL: **when a broadcast reaches everyone**, in every state of the server and for every
pattern of answers: exactly when all the sends to the authenticated sessions succeed.
SOURCE: udp_epoll.c:291-320, 827-869, 946-963 -/
theorem broadcast_reaches_iff (s : Server) (env : Env) (data : List UInt8) (w : World)
    (h : broadcastWorld s env data = some w) :
    BroadcastReaches s env data w ↔
      AllSent (sent (preparedTun s data)).length
        (receivers w (List.range s.st.maxConn.toNat)).length w.env.sendto w.ioFlags := by
  obtain ⟨hret, hlog⟩ := handleEvent_broadcast h
  obtain ⟨hok, hfail⟩ := run_broadcastFrom (length_preparedTun s data)
    (List.range s.st.maxConn.toNat) w
  constructor
  · intro hreach
    by_contra hnot
    have hneg := hfail hnot
    have hzero := hreach.ret
    rw [hret] at hzero
    unfold Srv.broadcastPacket at hzero
    omega
  · intro hall
    obtain ⟨hzero, new, hnew, hslots⟩ := hok hall
    have hzero' : (s.handleEvent env (.tun (.ok data))).1 = 0 := hret.trans hzero
    refine ⟨⟨new, hlog.trans hnew, hslots⟩, hzero', fun hstop waits => ?_⟩
    exact loop_continues hstop hzero' waits

/-- A server with two clients that have logged in. -/
def twoClients : Server :=
  (Server.boot 2 [] .little Server.zeroPkt Server.zeroPkt).run
    [({}, .udp (client 1) handshakeDatagram),
      ({ fopen := fun _ => some (userFile "10.5.0.2") }, .udp (client 1) authDatagram),
      ({}, .udp (client 2) handshakeDatagram),
      ({ fopen := fun _ => some (userFile "10.5.0.3") }, .udp (client 2) authDatagram)]

theorem reach_twoClients : Server.Reach (fun _ _ _ => True)
    (Server.boot 2 [] .little Server.zeroPkt Server.zeroPkt) twoClients := by
  apply Server.Reach.init.run
  exact ⟨trivial, trivial, trivial, trivial, trivial⟩

/-- A packet of the device that is not IPv4. -/
def ipv6Packet : List UInt8 := [0x60, 0, 0, 0]

theorem broadcast_reaches_iff_twoClients :
    receivers (twoClients.world {}) [0, 1] = [0, 1] ∧
      BroadcastReaches twoClients {} ipv6Packet (twoClients.world {}) := by
  have hrecv : receivers (twoClients.world {}) [0, 1] = [0, 1] := by decide +kernel
  have hconn : twoClients.st.maxConn.toNat = 2 := by decide +kernel
  have hver : Srv.ipVersion (preparedTun twoClients ipv6Packet).1 ≠ 4 := by decide
  refine ⟨hrecv, ?_⟩
  apply (broadcast_reaches_iff twoClients {} ipv6Packet (twoClients.world {}) (if_neg hver)).mpr
  rw [hconn, show List.range 2 = [0, 1] from rfl, hrecv]
  exact ⟨Int.natCast_nonneg _, Int.natCast_nonneg _, trivial⟩

/-- The kernel refuses the packet to the first client: the second is not tried, and the
worker leaves its loop. -/
theorem broadcast_stops_twoClients :
    Server.Reach (fun _ _ _ => True) (Server.boot 2 [] .little Server.zeroPkt Server.zeroPkt)
        twoClients ∧
      broadcastWorld twoClients { sendto := [-EACCES] } ipv6Packet =
        some (twoClients.world { sendto := [-EACCES] }) ∧
      receivers (twoClients.world { sendto := [-EACCES] }) [0, 1] = [0, 1] ∧
      (twoClients.handleEvent { sendto := [-EACCES] } (.tun (.ok ipv6Packet))).2.log.length =
        twoClients.log.length + 1 ∧
      ¬BroadcastReaches twoClients { sendto := [-EACCES] } ipv6Packet
        (twoClients.world { sendto := [-EACCES] }) := by
  have hver : Srv.ipVersion (preparedTun twoClients ipv6Packet).1 ≠ 4 := by decide
  refine ⟨reach_twoClients, if_neg hver, by decide +kernel, by decide +kernel, ?_⟩
  intro h
  have hret := h.ret
  revert hret
  decide +kernel

end TeaVpn2.Analysis
