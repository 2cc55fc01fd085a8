import TeaVpn2.Analysis.Isolation
import TeaVpn2.Analysis.TunInjection
import TeaVpn2.Program.EventLoop

/-!
# Payloads that the TUN device rejects

The bytes a client sends as TUN data go to the device, which may refuse them. The error of
`write` becomes the return value of the handler, and any value but zero ends the event
loop; only `-EBADMSG` is taken to concern the client alone. `device_error_survived_iff`
says exactly which errors of the device the server survives.
-/

set_option autoImplicit false

namespace TeaVpn2.Analysis

open TeaVpn2 TeaVpn2.Lib

/-- The TUN device rejects the payload with the error `r`, after some calls that had to wait
and could wait. -/
structure DeviceRejects (env : Env) (stop : Bool) (r : Int) : Prop where
  waits : ∃ n rest, env.write = List.replicate n (-EAGAIN) ++ r :: rest ∧
    (0 < n → stop = false) ∧ ∀ p ∈ env.poll.take n, 0 < p
  error : r < 0
  other : r ≠ -EAGAIN

/-- INTERNAL: a wait for a descriptor that becomes writable.
SOURCE: udp_epoll.c:112-136, 231-289 -/
theorem emergencyWait_ready {f : IoFlags} (hstop : f.stop = false)
    (hpoll : ∀ p ∈ f.poll.take 1, 0 < p) :
    (emergencyWait f).1 = 0 ∧ (emergencyWait f).2.stop = false ∧
      (emergencyWait f).2.poll = f.poll.drop 1 := by
  have hret : (waitForFdBeWritable f.poll).1 = 0 ∧
      (waitForFdBeWritable f.poll).2 = f.poll.drop 1 := by
    cases hp : f.poll with
    | nil => exact ⟨rfl, rfl⟩
    | cons p ps =>
      have hpos : 0 < p := hpoll p (by simp [hp])
      refine ⟨?_, rfl⟩
      show (if p = 0 then -ETIMEDOUT else if p < 0 then p else 0) = 0
      rw [if_neg (by omega), if_neg (by omega)]
  unfold emergencyWait
  rw [hstop]
  simp only [Bool.false_eq_true, if_false, hret.1, if_true]
  exact ⟨trivial, trivial, hret.2⟩

/-- INTERNAL: the loop `write_again` returns the error of the device.
SOURCE: udp_epoll.c:661-691 -/
theorem writeAgain_rejects (len : Nat) (n : Nat) {r : Int} (rest : List Int) {f : IoFlags}
    (hstop : 0 < n → f.stop = false) (hpoll : ∀ p ∈ f.poll.take n, 0 < p) (hr : r < 0)
    (hne : r ≠ -EAGAIN) :
    (writeAgain len (List.replicate n (-EAGAIN) ++ r :: rest) f).1 = r := by
  induction n generalizing f with
  | zero =>
    show (writeAgain len (r :: rest) f).1 = r
    rw [writeAgain, if_neg hne, if_pos hr]
  | succ n ih =>
    have hstop : f.stop = false := hstop (by omega)
    obtain ⟨hzero, hstop', hpoll'⟩ := emergencyWait_ready hstop (by
      intro p hp
      exact hpoll p (List.take_subset_take_left f.poll (by omega) hp))
    rw [List.replicate_succ, List.cons_append, writeAgain, if_pos rfl]
    have hwait : (emergencyWaitForTunFdBeWritable f).1 = 0 := hzero
    simp only [hwait, if_true]
    refine ih (f := (emergencyWait f).2) (fun _ => hstop') ?_
    intro p hp
    rw [hpoll', List.drop_one] at hp
    apply hpoll p
    cases hf : f.poll with
    | nil => rw [hf] at hp; simp at hp
    | cons q qs =>
      rw [hf] at hp
      exact List.mem_cons_of_mem _ hp

/-- INTERNAL: what the handler of a datagram of TUN data returns, if the device rejects it:
the error, except that `-EBADMSG` closes the session of the sender.
SOURCE: udp_epoll.c:633-691, 744-797 -/
theorem handleEvent_rejected {s : Server} {env : Env} {k : Endpoint} {d : List UInt8} {slot : Nat}
    {r : Int} (hw : WritesFor s (.udp k d) slot) (hdev : DeviceRejects env s.st.stop r) :
    (s.handleEvent env (.udp (.ok (k, d)))).1 = if r = -EBADMSG then 0 else r := by
  obtain ⟨hd, htype, hlen, hl⟩ := hw
  obtain ⟨⟨n, rest, hwrite, hstop, hpoll⟩, hneg, hne⟩ := hdev
  have hlen' : (Srv.doRecvFrom s.pkt d).len ≠ 0 :=
    fun h => hd ((doRecvFrom_len_eq_zero s.pkt d).mp h)
  have hret : (((s.world env).emit (.recv k d)).writeTun slot
      ((Srv.doRecvFrom s.pkt d).raw.read 4 (pktLen (Srv.doRecvFrom s.pkt d).raw).toNat)).1 = r := by
    show (writeAgain _ env.write ⟨s.st.stop, s.st.inEmergency, env.poll⟩).1 = r
    rw [hwrite]
    exact writeAgain_rejects _ n rest hstop hpoll hneg hne
  have hrun : (s.handleEvent env (.udp (.ok (k, d)))).1 =
      ((Srv._handleEventFromUdp s.st.order (Srv.doRecvFrom s.pkt d) k).run exec
        ((s.world env).emit (.recv k d))).1.1 := by
    simp only [Server.handleEvent, Srv.handleEvent, Srv.handleEventFromUdp, if_neg hlen']
    rfl
  have hl' : lookupUdpSess ((s.world env).emit (.recv k d)).st k.addr k.port = some slot := hl
  rw [hrun, run__handleEventFromUdp, hl']
  dsimp only
  rw [__handleEventFromUdp_tunData s.st.order slot htype hlen, Prog.run_bind]
  have hact : ((Srv.writeTun slot ((Srv.doRecvFrom s.pkt d).raw.read 4
      (pktLen (Srv.doRecvFrom s.pkt d).raw).toNat)).run exec
        ((s.world env).emit (.recv k d))).1 = r := hret
  simp only [Prog.run_pure, hact, Srv.finishEvent, if_pos hneg]
  split
  · rw [Prog.run_bind]
    rfl
  · rfl

/-! ## Which errors the server survives -/

/-- The server has survived the datagram `d` of the endpoint `k`: its handler returned zero,
so the event loop goes on, and the sessions of all other endpoints are as they were. -/
structure Survives (s : Server) (env : Env) (k : Endpoint) (d : List UInt8) : Prop where
  ret : (s.handleEvent env (.udp (.ok (k, d)))).1 = 0
  loop : s.st.stop = false → ∀ waits,
    s.serverUdpEpollRunEventLoop (.ok [(env, .udp (.ok (k, d)))] :: waits) =
      (s.step env (.udp k d)).serverUdpEpollRunEventLoop waits
  others : OnlyConcerns k s (s.step env (.udp k d))

/-- INTERNAL: an event whose handler returns zero leaves the thread in its loop.
SOURCE: udp_epoll.c:946-963, 1010-1032 -/
theorem loop_continues {s : Server} (hstop : s.st.stop = false) {env : Env} {event : EpollEvent}
    (hret : (s.handleEvent env event).1 = 0) (waits : List (Except Int (List (Env × EpollEvent)))) :
    s.serverUdpEpollRunEventLoop (.ok [(env, event)] :: waits) =
      (s.handleEvent env event).2.serverUdpEpollRunEventLoop waits := by
  have hevents : s.handleEvents [(env, event)] = (0, (s.handleEvent env event).2) := by
    simp only [Server.handleEvents, hret]
    rfl
  simp [Server.serverUdpEpollRunEventLoop, hstop, Server.__runEventLoop, hevents]

/-- INTERNAL: **exactly which rejected payloads the server survives.** In every state of every
run and for every datagram: that the server survives whatever error the device rejects the
forwarded payload with is to say that the error is `EBADMSG`.
SOURCE: udp_epoll.c:633-691, 744-797, 946-963, 1010-1032 -/
theorem device_error_survived_iff {maxConn : UInt16} {dataDir : List UInt8} {o : ByteOrder}
    {pkt zrPkt : ScPkt} {s : Server}
    (h : Server.Reach (fun _ env _ => env.NoEbadmsg) (Server.boot maxConn dataDir o pkt zrPkt) s)
    {env : Env} (henv : env.NoEbadmsg) (k : Endpoint) (d : List UInt8) :
    (∀ slot r, WritesFor s (.udp k d) slot → DeviceRejects env s.st.stop r → Survives s env k d) ↔
      ∀ slot r, WritesFor s (.udp k d) slot → DeviceRejects env s.st.stop r → r = -EBADMSG := by
  constructor
  · intro hsurv slot r hw hdev
    have hret := (hsurv slot r hw hdev).ret
    rw [handleEvent_rejected hw hdev] at hret
    by_contra hne
    rw [if_neg hne] at hret
    have := hdev.error
    omega
  · intro hbad slot r hw hdev
    have hret : (s.handleEvent env (.udp (.ok (k, d)))).1 = 0 := by
      rw [handleEvent_rejected hw hdev, if_pos (hbad slot r hw hdev)]
    exact ⟨hret, fun hstop waits => loop_continues hstop hret waits,
      step_onlyConcerns (reach_slotInv h) (reach_lifeInv h) henv k d⟩

/-- A server with one client that has shaken hands. -/
theorem reach_handshake : Server.Reach (fun _ env _ => env.NoEbadmsg)
    (Server.boot 1 [] .little Server.zeroPkt Server.zeroPkt)
    ((Server.boot 1 [] .little Server.zeroPkt Server.zeroPkt).step {}
      (.udp ⟨0x0a000001, 1000⟩ handshakeDatagram)) :=
  Server.Reach.init.step {} (.udp ⟨0x0a000001, 1000⟩ handshakeDatagram) (by simp [Env.NoEbadmsg])

/-- One byte of TUN data that is no IP packet. -/
def noIpDatagram : List UInt8 := [TCLI_PKT_TUN_DATA, 0, 0, 1, 0]

theorem device_error_survived_ebadmsg :
    ∃ s, Server.Reach (fun _ env _ => env.NoEbadmsg)
        (Server.boot 1 [] .little Server.zeroPkt Server.zeroPkt) s ∧
      DeviceRejects { write := [-EBADMSG] } s.st.stop (-EBADMSG) ∧
      Survives s { write := [-EBADMSG] } ⟨0x0a000001, 1000⟩ noIpDatagram := by
  have hdev : DeviceRejects { write := [-EBADMSG] } ((Server.boot 1 [] .little Server.zeroPkt
      Server.zeroPkt).step {} (.udp ⟨0x0a000001, 1000⟩ handshakeDatagram)).st.stop (-EBADMSG) :=
    ⟨⟨0, [], rfl, by simp, by simp⟩, by decide, by decide⟩
  refine ⟨_, reach_handshake, hdev, ?_⟩
  refine (device_error_survived_iff reach_handshake (by simp [Env.NoEbadmsg]) _ _).mpr ?_ 0
    (-EBADMSG) ⟨by decide, by decide, by decide, by decide⟩ hdev
  -- the device has one answer
  rintro slot r _ ⟨⟨n, rest, hwrite, _, _⟩, _, hne⟩
  cases n with
  | zero =>
    have hhead : (-EBADMSG :: []) = r :: rest := hwrite
    cases hhead
    rfl
  | succ n =>
    have hhead : (-EBADMSG :: []) = -EAGAIN :: (List.replicate n (-EAGAIN) ++ r :: rest) := hwrite
    cases (List.cons_eq_cons.mp hhead).1

/-- The kernel answers `EINVAL` to a payload that is no IP packet. -/
theorem device_error_fatal :
    ¬∀ (maxConn : UInt16) (dataDir : List UInt8) (o : ByteOrder) (pkt zrPkt : ScPkt) (s : Server),
      Server.Reach (fun _ env _ => env.NoEbadmsg) (Server.boot maxConn dataDir o pkt zrPkt) s →
      ∀ env : Env, env.NoEbadmsg → ∀ (k : Endpoint) (d : List UInt8) (slot : Nat) (r : Int),
        WritesFor s (.udp k d) slot → DeviceRejects env s.st.stop r → Survives s env k d := by
  intro h
  have hw : WritesFor ((Server.boot 1 [] .little Server.zeroPkt Server.zeroPkt).step {}
      (.udp ⟨0x0a000001, 1000⟩ handshakeDatagram)) (.udp ⟨0x0a000001, 1000⟩ noIpDatagram) 0 :=
    ⟨by decide, by decide, by decide, by decide⟩
  have hdev : DeviceRejects { write := [-EINVAL] } ((Server.boot 1 [] .little Server.zeroPkt
      Server.zeroPkt).step {} (.udp ⟨0x0a000001, 1000⟩ handshakeDatagram)).st.stop (-EINVAL) :=
    ⟨⟨0, [], rfl, by simp, by simp⟩, by decide, by decide⟩
  have hret := (h _ _ _ _ _ _ reach_handshake _ (by simp [Env.NoEbadmsg]) _ _ 0 _ hw hdev).ret
  rw [handleEvent_rejected hw hdev] at hret
  revert hret
  decide

end TeaVpn2.Analysis
