import TeaVpn2.Analysis.ControlPackets
import TeaVpn2.Analysis.Isolation

/-!
# The server as one endpoint sees it

Of all the state of the server, what it answers to an endpoint depends on the session of
that endpoint alone: whether there is one, whether it is authenticated, and its loop
counter. `view` is that much of the state, `wire` the packets a step puts on the wire for
the endpoint. For a server whose sends and allocations succeed, the theorems below say how
a CLOSE, a HANDSHAKE and an AUTH datagram change the view and what is sent back.

`Serving` and `Closed` are the assertions with which the handlers are followed from one
operation to the next.
-/

set_option autoImplicit false

namespace TeaVpn2.Analysis

open TeaVpn2 TeaVpn2.Lib

/-! ## The view of an endpoint -/

/-- The flag `is_authenticated` and the loop counter of the session of `k`. -/
def view (st : SrvUdpState) (k : Endpoint) : Option (Bool × UInt8) :=
  (lookupUdpSess st k.addr k.port).map fun i =>
    ((st.sessArr i).isAuthenticated, (st.sessArr i).loopC)

/-- The packet of an event that puts one on the wire for `k`. -/
def Event.packetTo (k : Endpoint) : Event → Option (List UInt8)
  | .send _ dst _ data ret => if dst = k ∧ 0 ≤ ret then some data else none
  | _ => none

/-- The packets for `k` between two states of the server. -/
def wire (k : Endpoint) (s s' : Server) : List (List UInt8) :=
  (s'.log.drop s.log.length).filterMap (Event.packetTo k)

/-- The system calls of the server succeed: packets are sent and memory is there. -/
structure Env.Healthy (env : Env) : Prop where
  sendto : ∀ r ∈ env.sendto, 0 < r
  malloc : ∀ b ∈ env.malloc, b = true

theorem Env.Healthy.noEbadmsg {env : Env} (h : Env.Healthy env) : env.NoEbadmsg := by
  intro r hr heq
  have hpos := h.sendto r hr
  have hneg : (-EBADMSG : Int) < 0 := by decide
  omega

/-- INTERNAL: a send that finds the socket writable succeeds.
SOURCE: udp_epoll.c:206-320 -/
theorem sendToClient_healthy {w : World} (h : Env.Healthy w.env) (i : Nat) {data : List UInt8}
    (hd : data ≠ []) :
    ∃ ret stop em poll rs, 0 < ret ∧ rs <:+ w.env.sendto ∧
      w.sendToClient i data =
        (ret, { st := { w.st with stop := stop, inEmergency := em }
                env := { w.env with poll := poll, sendto := rs }
                log := w.log ++
                  [.send i (w.st.sessArr i).addr (w.st.sessArr i).isAuthenticated data ret] }) := by
  have hlen : 0 < data.length := List.length_pos_iff.mpr hd
  obtain ⟨ret, stop, em, poll, rs, hsuf, _, heq⟩ := sendToClient_spec w i data
  refine ⟨ret, stop, em, poll, rs, ?_, hsuf, heq⟩
  have hret : (w.sendToClient i data).1 = ret := by rw [heq]
  rw [← hret]
  unfold World.sendToClient
  dsimp only
  rw [if_neg (by omega)]
  have hpos := h.sendto
  cases hs : w.env.sendto with
  | nil =>
    show (0 : Int) < data.length
    omega
  | cons r rs =>
    have hr : 0 < r := hpos r (by rw [hs]; exact List.mem_cons_self)
    have hagain : r ≠ -EAGAIN := by
      have hneg : (-EAGAIN : Int) < 0 := by decide
      omega
    simp only [sendAgain, if_neg hagain, if_neg (show ¬r < 0 by omega),
      if_neg (show ¬r = 0 by omega)]
    exact hr

/-! ## Assertions -/

/-- What has been put on the wire for `k` since `w₀` is `out`, and the world is still one in
which system calls succeed, with the configuration of `w₀`. -/
structure Since (k : Endpoint) (w₀ : World) (out : List (List UInt8)) (w : World) : Prop where
  table : TableInv w.st
  healthy : Env.Healthy w.env
  same : config w = config w₀
  logged : ∃ l, w.log = w₀.log ++ l ∧ l.filterMap (Event.packetTo k) = out

/-- INTERNAL: slot `i` is the session of `k`, with the flag `a` and the counter `c`. -/
structure Serving (k : Endpoint) (w₀ : World) (i : Nat) (a : Bool) (c : UInt8)
    (out : List (List UInt8)) (w : World) : Prop extends Since k w₀ out w where
  connected : (w.st.sessArr i).isConnected = true
  key : (w.st.sessArr i).key = k
  addr : (w.st.sessArr i).addr = k
  auth : (w.st.sessArr i).isAuthenticated = a
  loopC : (w.st.sessArr i).loopC = c

/-- INTERNAL: `k` has no session, and slot `i` is free and has counted `c` datagrams. -/
structure Closed (k : Endpoint) (w₀ : World) (i : Nat) (c : UInt8) (out : List (List UInt8))
    (w : World) : Prop extends Since k w₀ out w where
  absent : Absent w.st k
  free : i ∈ freeSlots w.st
  loopC : (w.st.sessArr i).loopC = c

namespace Since

variable {k : Endpoint} {w₀ w w' : World} {out : List (List UInt8)}

/-- INTERNAL: events that put nothing on the wire for `k`. -/
theorem log_quiet (h : Since k w₀ out w) {es : List Event} (hlog : w'.log = w.log ++ es)
    (hes : es.filterMap (Event.packetTo k) = []) :
    ∃ l, w'.log = w₀.log ++ l ∧ l.filterMap (Event.packetTo k) = out := by
  obtain ⟨l, hl, hout⟩ := h.logged
  refine ⟨l ++ es, ?_, ?_⟩
  · rw [hlog, hl, List.append_assoc]
  · rw [List.filterMap_append, hout, hes, List.append_nil]

end Since

namespace Serving

variable {k : Endpoint} {w₀ w w' : World} {i : Nat} {a : Bool} {c : UInt8}
  {out : List (List UInt8)}

/-- INTERNAL: what is not written into the table and sends nothing keeps the assertion. -/
theorem frame (h : Serving k w₀ i a c out w) (hmax : w'.st.maxConn = w.st.maxConn)
    (hstk : w'.st.sessStk = w.st.sessStk) (hmap : w'.st.sessMap = w.st.sessMap)
    (hn : w'.st.nOnSess = w.st.nOnSess) (harr : w'.st.sessArr = w.st.sessArr)
    (henv : Env.Healthy w'.env) (hsame : config w' = config w)
    (hwire : ∃ l, w'.log = w₀.log ++ l ∧ l.filterMap (Event.packetTo k) = out) :
    Serving k w₀ i a c out w' := by
  refine ⟨⟨?_, henv, hsame.trans h.same, hwire⟩, ?_, ?_, ?_, ?_, ?_⟩
  · apply h.table.congr hmax hstk hmap (fun j => ?_) hn
    rw [harr]
    exact ⟨rfl, rfl, rfl, rfl⟩
  · rw [harr]
    exact h.connected
  · rw [harr]
    exact h.key
  · rw [harr]
    exact h.addr
  · rw [harr]
    exact h.auth
  · rw [harr]
    exact h.loopC

/-- INTERNAL: a store into the session that leaves its place in the table alone. -/
theorem store (h : Serving k w₀ i a c out w) (f : UdpSess → UdpSess)
    (hf : ∀ s, (f s).isConnected = s.isConnected ∧ (f s).idx = s.idx ∧
      (f s).srcAddr = s.srcAddr ∧ (f s).srcPort = s.srcPort ∧ (f s).addr = s.addr) :
    Serving k w₀ i (f (w.st.sessArr i)).isAuthenticated (f (w.st.sessArr i)).loopC out
      (w.setSess i f) := by
  have harr : (w.setSess i f).st.sessArr i = f (w.st.sessArr i) := Function.update_self ..
  obtain ⟨hc, hi, ha, hp, hd⟩ := hf (w.st.sessArr i)
  refine ⟨⟨?_, h.healthy, h.same, h.logged⟩, ?_, ?_, ?_, ?_, ?_⟩
  · refine h.table.congr rfl rfl rfl (fun j => ?_) rfl
    by_cases hj : j = i
    · subst hj
      rw [harr]
      exact ⟨hc, hi, ha, hp⟩
    · have hother : (w.setSess i f).st.sessArr j = w.st.sessArr j := Function.update_of_ne hj ..
      rw [hother]
      exact ⟨rfl, rfl, rfl, rfl⟩
  · rw [harr, hc]
    exact h.connected
  · rw [harr, UdpSess.key, ha, hp]
    exact h.key
  · rw [harr, hd]
    exact h.addr
  · rw [harr]
  · rw [harr]

/-- INTERNAL: a packet goes out. -/
theorem send (h : Serving k w₀ i a c out w) {data : List UInt8} (hd : data ≠ []) :
    0 < (w.sendToClient i data).1 ∧
      Serving k w₀ i a c (out ++ [data]) (w.sendToClient i data).2 := by
  obtain ⟨ret, stop, em, poll, rs, hpos, hsuf, heq⟩ := sendToClient_healthy h.healthy i hd
  rw [heq]
  refine ⟨hpos, ⟨?_, ⟨?_, h.healthy.malloc⟩, h.same, ?_⟩, h.connected, h.key, h.addr, h.auth,
    h.loopC⟩
  · exact h.table.congr rfl rfl rfl (fun _ => ⟨rfl, rfl, rfl, rfl⟩) rfl
  · intro r hr
    exact h.healthy.sendto r (hsuf.subset hr)
  · obtain ⟨l, hl, hout⟩ := h.logged
    refine ⟨l ++ [.send i k (w.st.sessArr i).isAuthenticated data ret], ?_, ?_⟩
    · rw [hl, h.addr, List.append_assoc]
    · have hone : Event.packetTo k (.send i k (w.st.sessArr i).isAuthenticated data ret) =
          some data := if_pos ⟨rfl, by omega⟩
      rw [List.filterMap_append, hout, List.filterMap_cons, hone]
      rfl

/-- INTERNAL: the session is found under its key. -/
theorem view_eq (h : Serving k w₀ i a c out w) : view w.st k = some (a, c) := by
  have hlook := (lookupUdpSess_eq_some h.table k i).mpr ⟨h.connected, h.key⟩
  rw [view, hlook, Option.map_some, h.auth, h.loopC]

end Serving

theorem Closed.view_eq {k : Endpoint} {w₀ w : World} {i : Nat} {c : UInt8}
    {out : List (List UInt8)} (h : Closed k w₀ i c out w) : view w.st k = none := by
  rw [view, (lookupUdpSess_eq_none h.table k).mpr h.absent]
  rfl

/-! ## The handlers -/

section Handlers

variable {k : Endpoint} {w₀ w : World} {i : Nat} {a : Bool} {c : UInt8} {out : List (List UInt8)}

/-- The packets without payload. -/
def closePacket : List UInt8 := header TSRV_PKT_CLOSE 0 0
def syncPacket : List UInt8 := header TSRV_PKT_SYNC 0 0

/-- The periodic sync when the counter has become `c`. -/
def syncs (c : UInt8) : List (List UInt8) := if c % 32 = 0 then [syncPacket] else []

/-- INTERNAL: the datagram is counted.
SOURCE: udp_epoll.c:770-780 -/
theorem run_bumpLoopC (h : Serving k w₀ i a c out w) (ret : Int) (pkt : ScPkt) :
    Serving k w₀ i a (c + 1) (out ++ syncs (c + 1)) ((Srv.bumpLoopC ret pkt i).run exec w).2 := by
  have hcount : Serving k w₀ i a (c + 1) out
      (w.setSess i fun s => { s with loopC := s.loopC + 1 }) := by
    have hstore := h.store (fun s => { s with loopC := s.loopC + 1 })
      fun _ => ⟨rfl, rfl, rfl, rfl, rfl⟩
    rw [show (w.st.sessArr i).isAuthenticated = a from h.auth,
      show (w.st.sessArr i).loopC = c from h.loopC] at hstore
    exact hstore
  have hinc : (Srv.incLoopC i).run exec w =
      (c + 1, w.setSess i fun s => { s with loopC := s.loopC + 1 }) :=
    Prod.ext (congrArg (· + 1) h.loopC) rfl
  unfold Srv.bumpLoopC
  rw [Prog.run_bind, hinc]
  by_cases hsync : (c + 1) % 32 = 0
  · rw [if_pos hsync, Prog.run_bind, Prog.run_bind]
    obtain ⟨gtod, t, _, heq⟩ := udpSessUpdateLastAct_eq
      (w.setSess i fun s => { s with loopC := s.loopC + 1 }) i
    have hclock : Serving k w₀ i a (c + 1) out
        ((w.setSess i fun s => { s with loopC := s.loopC + 1 }).udpSessUpdateLastAct i) := by
      rw [heq]
      have hstore := hcount.store (fun s => { s with lastAct := t })
        fun _ => ⟨rfl, rfl, rfl, rfl, rfl⟩
      rw [hcount.auth, hcount.loopC] at hstore
      exact hstore.frame rfl rfl rfl rfl rfl ⟨hcount.healthy.sendto, hcount.healthy.malloc⟩ rfl
        hstore.logged
    have hpkt : sent (srvPprepSync pkt.raw) = syncPacket := sent_pprep_zero _ _ _
    rw [hpkt, syncs, if_pos hsync]
    exact (hclock.send (by simp [syncPacket, header])).2
  · rw [if_neg hsync, syncs, if_neg hsync, List.append_nil]
    exact hcount

/-- INTERNAL: the session is closed.
SOURCE: udp_epoll.c:323-336 -/
theorem run_closeSess (h : Serving k w₀ i a c out w) (pkt : ScPkt) :
    Closed k w₀ i 0 (out ++ [closePacket]) ((Srv.closeSess pkt i).run exec w).2 := by
  -- from the send on, with or without a route to remove
  have hrest : ∀ w, Serving k w₀ i a c out w → Closed k w₀ i 0 (out ++ [closePacket])
      ((do
        let _ ← Srv.sendToClient i (sent (srvPprep pkt.raw TSRV_PKT_CLOSE 0 0))
        let ret ← Srv.deleteUdpSession i
        pure (ret, { pkt with raw := (srvPprep pkt.raw TSRV_PKT_CLOSE 0 0).1 }) :
          Srv (Int × ScPkt)).run exec w).2 := by
    intro w h
    have hpkt : sent (srvPprep pkt.raw TSRV_PKT_CLOSE 0 0) = closePacket := sent_pprep_zero _ _ _
    have hsent := (h.send (show closePacket ≠ [] by simp [closePacket, header])).2
    obtain ⟨stk, m, st', hfree, hst, heq, htab⟩ :=
      deleteUdpSession_spec hsent.table hsent.connected
    have hdel : (Srv.deleteUdpSession i).run exec (w.sendToClient i closePacket).2 = _ := heq
    rw [hpkt, Prog.run_bind, Prog.run_bind,
      show (Srv.sendToClient i closePacket).run exec w = w.sendToClient i closePacket from rfl, hdel,
      Prog.run_pure]
    dsimp only
    have harr : ∀ j, j ≠ i → st'.sessArr j = (w.sendToClient i closePacket).2.st.sessArr j := by
      intro j hj
      rw [hst]
      exact Function.update_of_ne hj ..
    have hself : st'.sessArr i = resetUdpSession (UInt16.ofNat i) := by
      rw [hst]
      exact Function.update_self ..
    refine ⟨⟨htab, hsent.healthy, ?_, hsent.log_quiet rfl rfl⟩, ?_, ?_, ?_⟩
    · rw [hst]
      exact hsent.same
    · intro j hc hk
      by_cases hj : j = i
      · subst hj
        rw [hself] at hc
        cases hc
      · rw [harr j hj] at hc hk
        exact hj (hsent.table.key_inj j i hc hsent.connected (hk.trans hsent.key.symm))
    · rw [hfree]
      exact List.mem_cons_self
    · rw [hself]
      rfl
  unfold Srv.closeSess
  rw [Prog.run_bind]
  split
  · rw [Prog.run_bind]
    apply hrest
    exact h.frame rfl rfl rfl rfl rfl h.healthy rfl h.logged
  · exact hrest w h

/-- INTERNAL: the datagram that closed the session is counted in the slot it has left.
SOURCE: udp_epoll.c:770-780 -/
theorem run_bumpLoopC_closed (h : Closed k w₀ i 0 out w) (ret : Int) (pkt : ScPkt) :
    Closed k w₀ i 1 out ((Srv.bumpLoopC ret pkt i).run exec w).2 := by
  have hinc : (Srv.incLoopC i).run exec w =
      ((1 : UInt8), w.setSess i fun s => { s with loopC := s.loopC + 1 }) :=
    Prod.ext (congrArg (· + 1) h.loopC) rfl
  have harr : ∀ j, ∃ c', (w.setSess i fun s => { s with loopC := s.loopC + 1 }).st.sessArr j =
      { w.st.sessArr j with loopC := c' } := by
    intro j
    by_cases hj : j = i
    · subst hj
      exact ⟨_, Function.update_self ..⟩
    · exact ⟨_, Function.update_of_ne hj ..⟩
  unfold Srv.bumpLoopC
  rw [Prog.run_bind, hinc]
  dsimp only
  rw [if_neg (by decide), Prog.run_pure]
  refine ⟨⟨?_, h.healthy, h.same, h.logged⟩, ?_, h.free, ?_⟩
  · refine h.table.congr rfl rfl rfl (fun j => ?_) rfl
    obtain ⟨c', hc'⟩ := harr j
    rw [hc']
    exact ⟨rfl, rfl, rfl, rfl⟩
  · intro j hc hk
    obtain ⟨c', hc'⟩ := harr j
    rw [hc'] at hc hk
    exact h.absent j hc hk
  · show (Function.update w.st.sessArr i _ i).loopC = 1
    rw [Function.update_self, h.loopC]
    rfl

/-- INTERNAL: accepted credentials are granted.
SOURCE: udp_epoll.c:562-610 -/
theorem run_handleClpktAuth (h : Serving k w₀ i false c out w) (o : ByteOrder) (pkt : ScPkt)
    {iff : IfInfo} (hacc : teavpn2Auth w.st.dataDir w.env.fopen (Srv.authUsername pkt.raw)
      (Srv.authPassword pkt.raw) = some iff) :
    ((Srv.handleClpktAuth o pkt i).run exec w).1.1 = 0 ∧
      Serving k w₀ i true c (out ++ [authOkPacket o pkt.raw iff])
        ((Srv.handleClpktAuth o pkt i).run exec w).2 := by
  have hload : (Srv.loadIsAuthenticated i).run exec w = (false, w) := Prod.ext h.auth rfl
  set w₁ := w.emit (.auth i (w.sess i).key true) with hw₁
  have hauth : (Srv.teavpn2Auth i (Srv.authUsername pkt.raw) (Srv.authPassword pkt.raw)).run exec w =
      (some iff, w₁) := by
    show (teavpn2Auth _ _ _ _, w.emit _) = _
    rw [hacc]
    rfl
  have h₁ : Serving k w₀ i false c out w₁ :=
    h.frame rfl rfl rfl rfl rfl h.healthy rfl (h.log_quiet rfl rfl)
  obtain ⟨hpos, h₂⟩ := h₁.send (show authOkPacket o pkt.raw iff ≠ [] by simp [authOkPacket, header])
  set r := w₁.sendToClient i (authOkPacket o pkt.raw iff) with hr
  have hsend : (Srv.sendToClient i (authOkPacket o pkt.raw iff)).run exec w₁ = r := rfl
  unfold Srv.handleClpktAuth
  rw [Prog.run_bind, hload]
  simp only [Bool.false_eq_true, if_false]
  rw [Prog.run_bind, hauth]
  dsimp only
  rw [sent_authOk, Prog.run_bind, hsend, if_neg (by omega)]
  refine ⟨rfl, ?_⟩
  -- the stores that follow the AUTH_OK
  have h₃ := h₂.store (fun s => { s with ipv4Iff := inetAddr iff.ipv4 })
    fun _ => ⟨rfl, rfl, rfl, rfl, rfl⟩
  have h₄ : Serving k w₀ i _ _ _ (exec (.addRoute (inetAddr iff.ipv4)
      ((r.2.setSess i fun s => { s with ipv4Iff := inetAddr iff.ipv4 }).sess i).idx)
      (r.2.setSess i fun s => { s with ipv4Iff := inetAddr iff.ipv4 })).2 :=
    h₃.frame rfl rfl rfl rfl rfl h₃.healthy rfl h₃.logged
  have h₅ := h₄.store (fun s => { s with isAuthenticated := true })
    fun _ => ⟨rfl, rfl, rfl, rfl, rfl⟩
  have h₆ := h₅.store (fun s => { s with username := strncpy2 (Srv.authUsername pkt.raw) 256 })
    fun _ => ⟨rfl, rfl, rfl, rfl, rfl⟩
  rw [h₅.auth, h₅.loopC, h₄.loopC, h₂.loopC] at h₆
  exact h₆

/-- INTERNAL: a good first datagram takes the accept branch.
SOURCE: udp_epoll.c:420-495 -/
theorem handleClientHandshake_of_good (o : ByteOrder) {pkt : ScPkt} (hgood : GoodHandshake pkt)
    (i : Nat) : ∃ pkt', Srv.handleClientHandshake o pkt i = Srv.sendHandshake pkt' i := by
  obtain ⟨htype, hver⟩ := patched_fields o pkt
  have hlen := hgood.len
  unfold Srv.handleClientHandshake
  rw [if_neg (by omega)]
  dsimp only
  rw [if_neg (not_not.mpr hgood.dataLen), htype, if_neg (not_not.mpr hgood.type)]
  simp only [hver, hgood.version, if_true]
  exact ⟨_, rfl⟩

theorem run_sendHandshake (h : Serving k w₀ i a c out w) (pkt : ScPkt) :
    ((Srv.sendHandshake pkt i).run exec w).1.1 = 0 ∧
      Serving k w₀ i a c (out ++ [handshakePacket]) ((Srv.sendHandshake pkt i).run exec w).2 := by
  obtain ⟨hpos, hsent⟩ := h.send (show handshakePacket ≠ [] by simp [handshakePacket, header])
  have hsend : (Srv.sendToClient i handshakePacket).run exec w = w.sendToClient i handshakePacket :=
    rfl
  unfold Srv.sendHandshake
  dsimp only
  rw [sent_srvPprepHandshake, Prog.run_bind, hsend, if_neg (by omega)]
  exact ⟨rfl, hsent⟩

/-- INTERNAL: **a new client is greeted**: the top of the free stack is opened for it.
SOURCE: udp_epoll.c:420-559 -/
theorem run_handleNewClient (h : Since k w₀ out w) (habs : Absent w.st k)
    (hfree : freeSlots w.st ≠ [])
    (hclean : ∀ i ∈ freeSlots w.st, Clean (w.st.sessArr i)) (o : ByteOrder) {pkt : ScPkt}
    (hgood : GoodHandshake pkt) :
    ∃ i c, c ≤ 1 ∧ Serving k w₀ i false c (out ++ [handshakePacket])
      ((Srv.handleNewClient o pkt k).run exec w).2 := by
  rcases createUdpSess_spec h.table habs with ⟨hnil, _⟩ | ⟨_, _, mal, _, hmal, _⟩ |
    ⟨i, stk, m, mal, gtod, t, st', hsuf, _, hin, hst, heq, htab⟩
  · exact absurd hnil hfree
  · have hfail := h.healthy.malloc false (by rw [hmal]; exact List.mem_cons_self)
    cases hfail
  have hcl := hclean i hin
  refine ⟨i, (w.st.sessArr i).loopC, hcl.loopC, ?_⟩
  have hcreate : (Srv.createUdpSess k.addr k.port).run exec w = _ := heq
  set w₁ : World := { st := st'
                      env := { w.env with malloc := mal, gettimeofday := gtod }
                      log := w.log ++ [.create i k] } with hw₁
  have hskip : Srv.skipSessionCreation pkt = false := by
    simp only [Srv.skipSessionCreation, hgood.type]
    rfl
  have hself : w₁.st.sessArr i = createdSess (w.st.sessArr i) k t := by
    show st'.sessArr i = _
    rw [hst]
    exact Function.update_self ..
  -- the session under its address
  have h₂ : Serving k w₀ i false (w.st.sessArr i).loopC out
      (w₁.setSess i fun s => { s with addr := k }) := by
    have harr : (w₁.setSess i fun s => { s with addr := k }).st.sessArr i =
        { createdSess (w.st.sessArr i) k t with addr := k } := by
      rw [← hself]
      exact Function.update_self ..
    refine ⟨⟨?_, ⟨h.healthy.sendto, fun b hb => h.healthy.malloc b (hsuf.subset hb)⟩, ?_, ?_⟩,
      ?_, ?_, ?_, ?_, ?_⟩
    · refine htab.congr rfl rfl rfl (fun j => ?_) rfl
      by_cases hj : j = i
      · subst hj
        rw [harr, ← hself]
        exact ⟨by rw [hself], by rw [hself], by rw [hself], by rw [hself]⟩
      · have hother : (w₁.setSess i fun s => { s with addr := k }).st.sessArr j = st'.sessArr j :=
          Function.update_of_ne hj ..
        rw [hother]
        exact ⟨rfl, rfl, rfl, rfl⟩
    · rw [← h.same, config, config]
      show (st'.maxConn, st'.dataDir, st'.order, w.env.fopen) = _
      rw [hst]
    · exact h.log_quiet rfl rfl
    · rw [harr]
      rfl
    · rw [harr]
      rfl
    · rw [harr]
    · rw [harr]
      exact hcl.isAuthenticated
    · rw [harr]
      rfl
  obtain ⟨pkt', hshake⟩ := handleClientHandshake_of_good o hgood i
  obtain ⟨hret, h₃⟩ := run_sendHandshake h₂ pkt'
  have hstore : (Srv.storeAddr i k).run exec w₁ = ((), w₁.setSess i fun s => { s with addr := k }) :=
    rfl
  unfold Srv.handleNewClient
  rw [hskip, if_neg (by decide), Prog.run_bind, hcreate]
  dsimp only
  unfold Srv._handleNewClient
  rw [Prog.run_bind, hstore, Prog.run_bind, hshake]
  dsimp only
  rw [hret, if_neg (by decide)]
  exact h₃

end Handlers

/-! ## The reaction to a request -/

/-- What the client sends before its event loop. -/
inductive Request where
  | close
  | handshake
  | auth
deriving DecidableEq, Repr

/-- The AUTH datagram with the configured credentials. -/
def authRequest (cfg : CliCfg) : List UInt8 :=
  header TCLI_PKT_AUTH 512 0 ++
    (charArray (strncpy2 cfg.username 256) 256 ++ charArray (strncpy2 cfg.password 256) 256)

def Request.datagram (cfg : CliCfg) : Request → List UInt8
  | .close => header TCLI_PKT_CLOSE 0 0
  | .handshake => handshakePacket
  | .auth => authRequest cfg

/-- The AUTH_OK packets. -/
def AuthOk (p : List UInt8) : Prop := ∃ o raw iff, p = authOkPacket o raw iff

/-- **The server as one client sees it**: a session that is not known is opened, a known one
ignores further HANDSHAKEs, and an authenticated one further AUTHs. An AUTH without session
is left out. The counter of a new session is what its slot had counted after it was
released. -/
inductive Reacts : Option (Bool × UInt8) → Request → Option (Bool × UInt8) →
    List (List UInt8) → Prop where
  | unknown : Reacts none .close none []
  | leave (a : Bool) (c : UInt8) : Reacts (some (a, c)) .close none [closePacket]
  | greet (c : UInt8) : c ≤ 1 → Reacts none .handshake (some (false, c)) [handshakePacket]
  | known (a : Bool) (c : UInt8) :
      Reacts (some (a, c)) .handshake (some (a, c + 1)) (syncs (c + 1))
  | grant (c : UInt8) (p : List UInt8) : AuthOk p →
      Reacts (some (false, c)) .auth (some (true, c + 1)) (p :: syncs (c + 1))
  | repeated (c : UInt8) : Reacts (some (true, c)) .auth (some (true, c + 1)) (syncs (c + 1))

/-- INTERNAL: after a HANDSHAKE or an AUTH there is a session. -/
theorem Reacts.known_after {v v' : Option (Bool × UInt8)} {req : Request}
    {out : List (List UInt8)} (h : Reacts v req v' out) (hreq : req ≠ .close) : v' ≠ none := by
  cases h with
  | unknown => exact absurd rfl hreq
  | leave a c => exact absurd rfl hreq
  | _ => exact Option.some_ne_none _

theorem Reacts.close_out {v v' : Option (Bool × UInt8)} {out : List (List UInt8)}
    (h : Reacts v .close v' out) : ∀ d ∈ out, d = closePacket := by
  cases h with
  | unknown => exact nofun
  | leave a c => exact fun d hd => List.mem_singleton.mp hd

/-- A server that works, and whose user files accept the credentials. -/
structure Env.Accepts (env : Env) (dataDir : List UInt8) (cfg : CliCfg) : Prop where
  healthy : Env.Healthy env
  accepted : (teavpn2Auth dataDir env.fopen ((cstr cfg.username).take 255)
    ((cstr cfg.password).take 255)).isSome = true

section Step

variable {s : Server} {env : Env} {k : Endpoint} {d : List UInt8}

theorem Since.start (hs : Server.SlotInv s) (henv : Env.Healthy env) (k : Endpoint)
    (d : List UInt8) : Since k (s.world env) [] ((s.world env).emit (.recv k d)) :=
  ⟨(hs env henv.noEbadmsg).table, henv, rfl, [.recv k d], rfl, rfl⟩

/-- INTERNAL: when a datagram arrives, its session is as the view says. -/
theorem Serving.start (hs : Server.SlotInv s) (hl : Server.LifeInv s) (henv : Env.Healthy env)
    {i : Nat} (hlook : lookupUdpSess s.st k.addr k.port = some i) (d : List UInt8) :
    Serving k (s.world env) i (s.st.sessArr i).isAuthenticated (s.st.sessArr i).loopC []
      ((s.world env).emit (.recv k d)) := by
  have hsince := Since.start hs henv k d
  obtain ⟨hc, hk⟩ := (lookupUdpSess_eq_some hsince.table k i).mp hlook
  have haddr : (s.st.sessArr i).addr = (s.st.sessArr i).key :=
    ((hl env).slots i hc).addr (by simp [Hold.stage, Hold.working])
  exact ⟨hsince, hc, hk, haddr.trans hk, rfl, rfl⟩

theorem Since.wire_eq {s' : Server} {w : World} {out : List (List UInt8)}
    (h : Since k (s.world env) out w) (hlog : s'.log = w.log) : wire k s s' = out := by
  obtain ⟨l, hl, hout⟩ := h.logged
  have hdrop : (s.log ++ l).drop s.log.length = l := List.drop_left
  rw [wire, hlog, hl]
  show ((s.log ++ l).drop s.log.length).filterMap _ = out
  rw [hdrop, hout]

theorem pktType_doRecvFrom (pkt : ScPkt) {t : UInt8} {rest : List UInt8} :
    pktType (Srv.doRecvFrom pkt (t :: rest)).raw = t := by
  have hpos : 0 < (Srv.doRecvFrom pkt (t :: rest)).len := by
    simp [Srv.doRecvFrom]
  have hbyte := doRecvFrom_raw hpos
  exact (Option.some.inj hbyte).symm

/-- INTERNAL: a datagram that its dispatcher finishes with `0` is counted. -/
theorem step_udp_counted (hd : d ≠ []) {i : Nat} (hlook : lookupUdpSess s.st k.addr k.port = some i)
    {pkt : ScPkt} {w : World}
    (hrun : (Srv.__handleEventFromUdp s.st.order (Srv.doRecvFrom s.pkt d) i).run exec
      ((s.world env).emit (.recv k d)) = ((0, pkt), w)) :
    s.step env (.udp k d) =
      let r := (Srv.bumpLoopC 0 pkt i).run exec w
      { s with st := r.2.st, pkt := r.1.2, log := r.2.log } := by
  rw [step_udp_known hd hlook, hrun]
  rfl

/-- INTERNAL: a session that is still served after its datagram: a sync may follow. -/
theorem step_counted (hd : d ≠ []) {i : Nat} (hlook : lookupUdpSess s.st k.addr k.port = some i)
    {a : Bool} {c : UInt8} {out : List (List UInt8)} {pkt : ScPkt} {w : World}
    (hrun : (Srv.__handleEventFromUdp s.st.order (Srv.doRecvFrom s.pkt d) i).run exec
      ((s.world env).emit (.recv k d)) = ((0, pkt), w))
    (hend : Serving k (s.world env) i a c out w) :
    view (s.step env (.udp k d)).st k = some (a, c + 1) ∧
      wire k s (s.step env (.udp k d)) = out ++ syncs (c + 1) := by
  have hbump := run_bumpLoopC hend 0 pkt
  rw [step_udp_counted hd hlook hrun]
  exact ⟨hbump.view_eq, hbump.wire_eq rfl⟩

theorem handleEventFromUdp_close (o : ByteOrder) {pkt : ScPkt} (i : Nat)
    (htype : pktType pkt.raw = TCLI_PKT_CLOSE) :
    Srv.__handleEventFromUdp o pkt i = (do
      let (_, pkt) ← Srv.closeSess pkt i
      pure (0, pkt)) := by
  unfold Srv.__handleEventFromUdp
  simp only [htype]
  rfl

/-- INTERNAL: the reaction to a CLOSE. -/
theorem step_close (hs : Server.SlotInv s) (hl : Server.LifeInv s) (henv : Env.Healthy env)
    (hfree : view s.st k = none → freeSlots s.st ≠ []) (cfg : CliCfg) :
    Reacts (view s.st k) .close (view (s.step env (.udp k (Request.datagram cfg .close))).st k)
        (wire k s (s.step env (.udp k (Request.datagram cfg .close)))) ∧
      freeSlots (s.step env (.udp k (Request.datagram cfg .close))).st ≠ [] := by
  have hd : Request.datagram cfg .close ≠ [] := by simp [Request.datagram, header]
  have htype : pktType (Srv.doRecvFrom s.pkt (Request.datagram cfg .close)).raw = TCLI_PKT_CLOSE :=
    pktType_doRecvFrom s.pkt
  cases hlook : lookupUdpSess s.st k.addr k.port with
  | none =>
    have hview : view s.st k = none := by rw [view, hlook]; rfl
    have hskip : Srv.skipSessionCreation (Srv.doRecvFrom s.pkt (Request.datagram cfg .close)) =
        true := by
      simp only [Srv.skipSessionCreation, htype]
      rfl
    have hstep : s.step env (.udp k (Request.datagram cfg .close)) = _ := step_udp_new hd hlook
    have hstart := Since.start hs henv k (Request.datagram cfg .close)
    unfold Srv.handleNewClient at hstep
    rw [hskip, if_pos rfl, Prog.run_pure] at hstep
    rw [hstep, hview]
    refine ⟨?_, hfree hview⟩
    rw [hstart.wire_eq rfl]
    show Reacts none .close (view s.st k) []
    rw [hview]
    exact .unknown
  | some i =>
    have hview : view s.st k = some ((s.st.sessArr i).isAuthenticated, (s.st.sessArr i).loopC) := by
      rw [view, hlook]
      rfl
    have hclosed := run_closeSess
      (Serving.start hs hl henv hlook (Request.datagram cfg .close))
      (Srv.doRecvFrom s.pkt (Request.datagram cfg .close))
    have hrun : ∃ pkt, (Srv.__handleEventFromUdp s.st.order
        (Srv.doRecvFrom s.pkt (Request.datagram cfg .close)) i).run exec
          ((s.world env).emit (.recv k (Request.datagram cfg .close))) = ((0, pkt),
        ((Srv.closeSess (Srv.doRecvFrom s.pkt (Request.datagram cfg .close)) i).run exec
          ((s.world env).emit (.recv k (Request.datagram cfg .close)))).2) := by
      rw [handleEventFromUdp_close s.st.order i htype, Prog.run_bind]
      exact ⟨_, rfl⟩
    obtain ⟨pkt, hrun⟩ := hrun
    have hcount := run_bumpLoopC_closed hclosed 0 pkt
    have hstep := step_udp_counted hd hlook hrun
    have hview' : view (s.step env (.udp k (Request.datagram cfg .close))).st k = none := by
      rw [hstep]
      exact hcount.view_eq
    have hwire : wire k s (s.step env (.udp k (Request.datagram cfg .close))) = [closePacket] := by
      rw [hstep]
      exact hcount.wire_eq rfl
    rw [hview', hwire, hview, hstep]
    exact ⟨.leave _ _, List.ne_nil_of_mem hcount.free⟩

/-- INTERNAL: the reaction to a HANDSHAKE. -/
theorem step_handshake (hs : Server.SlotInv s) (hl : Server.LifeInv s) (henv : Env.Healthy env)
    (hfree : view s.st k = none → freeSlots s.st ≠ []) :
    Reacts (view s.st k) .handshake (view (s.step env (.udp k handshakePacket)).st k)
      (wire k s (s.step env (.udp k handshakePacket))) := by
  have hd : handshakePacket ≠ [] := by simp [handshakePacket, header]
  have hgood : GoodHandshake (Srv.doRecvFrom s.pkt handshakePacket) :=
    (goodHandshake_iff s.pkt handshakePacket).mpr handshakeDatagram_packet
  cases hlook : lookupUdpSess s.st k.addr k.port with
  | none =>
    have hview : view s.st k = none := by rw [view, hlook]; rfl
    have hstart := Since.start hs henv k handshakePacket
    have hclean : ∀ i ∈ freeSlots s.st, Clean (s.st.sessArr i) := by
      intro i hi
      have hw := hs env henv.noEbadmsg
      exact hw.clean i ((hw.table.mem_free i).mp hi).2
    obtain ⟨i, c, hc, hopen⟩ := run_handleNewClient hstart
      ((lookupUdpSess_eq_none hstart.table k).mp hlook) (hfree hview) hclean s.st.order hgood
    rw [step_udp_new hd hlook, hview]
    dsimp only
    rw [hopen.wire_eq rfl, hopen.view_eq]
    exact .greet c hc
  | some i =>
    have hview : view s.st k = some ((s.st.sessArr i).isAuthenticated, (s.st.sessArr i).loopC) := by
      rw [view, hlook]
      rfl
    have hdisp : Srv.__handleEventFromUdp s.st.order (Srv.doRecvFrom s.pkt handshakePacket) i =
        pure (0, Srv.doRecvFrom s.pkt handshakePacket) := by
      unfold Srv.__handleEventFromUdp
      simp only [hgood.type]
      rfl
    have hstart := Serving.start hs hl henv hlook handshakePacket
    obtain ⟨hv, hw⟩ := step_counted hd hlook (by rw [hdisp]; rfl) hstart
    rw [hv, hw, hview]
    exact .known _ _

/-- INTERNAL: the reaction to an AUTH of a known session. -/
theorem step_auth (hs : Server.SlotInv s) (hl : Server.LifeInv s) {cfg : CliCfg}
    (hacc : Env.Accepts env s.st.dataDir cfg) (hknown : view s.st k ≠ none) :
    Reacts (view s.st k) .auth (view (s.step env (.udp k (authRequest cfg))).st k)
      (wire k s (s.step env (.udp k (authRequest cfg)))) := by
  have hd : authRequest cfg ≠ [] := by simp [authRequest, header]
  have htype : pktType (Srv.doRecvFrom s.pkt (authRequest cfg)).raw = TCLI_PKT_AUTH :=
    pktType_doRecvFrom s.pkt
  cases hlook : lookupUdpSess s.st k.addr k.port with
  | none =>
    have hview : view s.st k = none := by rw [view, hlook]; rfl
    exact absurd hview hknown
  | some i =>
    have hstart := Serving.start hs hl hacc.healthy hlook (authRequest cfg)
    have hview : view s.st k = some ((s.st.sessArr i).isAuthenticated, (s.st.sessArr i).loopC) := by
      rw [view, hlook]
      rfl
    have hdisp : Srv.__handleEventFromUdp s.st.order (Srv.doRecvFrom s.pkt (authRequest cfg)) i =
        Srv.handleClpktAuth s.st.order (Srv.doRecvFrom s.pkt (authRequest cfg)) i := by
      unfold Srv.__handleEventFromUdp
      simp only [htype]
      rfl
    cases hauth : (s.st.sessArr i).isAuthenticated with
    | true =>
      rw [hauth] at hstart hview
      have hload : (Srv.loadIsAuthenticated i).run exec
          ((s.world env).emit (.recv k (authRequest cfg))) =
          (true, (s.world env).emit (.recv k (authRequest cfg))) := Prod.ext hauth rfl
      have hrun : (Srv.handleClpktAuth s.st.order (Srv.doRecvFrom s.pkt (authRequest cfg)) i).run
          exec ((s.world env).emit (.recv k (authRequest cfg))) =
          ((0, Srv.doRecvFrom s.pkt (authRequest cfg)),
            (s.world env).emit (.recv k (authRequest cfg))) := by
        unfold Srv.handleClpktAuth
        rw [Prog.run_bind, hload]
        rfl
      obtain ⟨hv, hw⟩ := step_counted hd hlook (by rw [hdisp, hrun]) hstart
      rw [hv, hw, hview]
      exact .repeated _
    | false =>
      rw [hauth] at hstart hview
      obtain ⟨huser, hpass⟩ := credentials_arrive (fun _ => 0) cfg.username cfg.password s.pkt
      rw [sent_cliPprepAuth] at huser hpass
      obtain ⟨iff, hiff⟩ := Option.isSome_iff_exists.mp hacc.accepted
      rw [← huser, ← hpass] at hiff
      obtain ⟨hret, hend⟩ := run_handleClpktAuth hstart s.st.order _ hiff
      obtain ⟨hv, hw⟩ := step_counted hd hlook
        (by rw [hdisp]; exact Prod.ext (Prod.ext hret rfl) rfl) hend
      rw [hv, hw, hview]
      exact .grant _ _ ⟨_, _, _, rfl⟩

/-- INTERNAL: **the server refines its view.** A server that works answers the requests of an
endpoint as `Reacts` says, if a new client finds a free slot and credentials come from a known
session.
SOURCE: udp_epoll.c:420-630, 715-797 -/
theorem step_reacts (hs : Server.SlotInv s) (hl : Server.LifeInv s) {cfg : CliCfg}
    (hacc : Env.Accepts env s.st.dataDir cfg)
    (hfree : view s.st k = none → freeSlots s.st ≠ []) (req : Request)
    (hknown : req = .auth → view s.st k ≠ none) :
    Reacts (view s.st k) req (view (s.step env (.udp k (req.datagram cfg))).st k)
        (wire k s (s.step env (.udp k (req.datagram cfg)))) ∧
      (view (s.step env (.udp k (req.datagram cfg))).st k = none →
        freeSlots (s.step env (.udp k (req.datagram cfg))).st ≠ []) := by
  cases req with
  | close =>
    obtain ⟨hr, hf⟩ := step_close hs hl hacc.healthy hfree cfg
    exact ⟨hr, fun _ => hf⟩
  | handshake =>
    have hr := step_handshake hs hl hacc.healthy hfree
    exact ⟨hr, fun hnone => absurd hnone (hr.known_after nofun)⟩
  | auth =>
    have hr := step_auth hs hl hacc (hknown rfl)
    exact ⟨hr, fun hnone => absurd hnone (hr.known_after nofun)⟩

end Step

/-! ## What happens beside the datagrams -/

/-- The inputs that do not come from a client: packets of the TUN device and scans. -/
def Background : Input → Bool
  | .tun _ | .reap => true
  | _ => false

/-- INTERNAL: while such an input is handled that arrived when the server was `s`: sessions
are left alone or closed, and nobody is greeted or granted. -/
structure Beside (s : Server) (w : World) (g : Ghost) : Prop where
  slots : SlotInv w g.hold
  survivors : ∀ i, (w.st.sessArr i).isConnected = true → w.st.sessArr i = s.st.sessArr i
  plain : (∀ i, g.hold ≠ .fresh i) ∧ ∀ i addr, g.hold ≠ .accepted i addr
  packets : ∃ l, w.log = s.log ++ l ∧ ∀ i dst auth data ret,
    Event.send i dst auth data ret ∈ l → kindOf data ≠ some .handshake ∧ kindOf data ≠ some .authOk

theorem sendNext_plain {g : Ghost} {i : Nat} {kind : Option PktKind} (ret : Int)
    (hplain : (∀ j, g.hold ≠ .fresh j) ∧ ∀ j addr, g.hold ≠ .accepted j addr)
    (hg : sendGuard g i kind) : kind ≠ some .handshake ∧ kind ≠ some .authOk ∧
      (∀ j, sendNext g.hold i ret kind ≠ .fresh j) ∧
      ∀ j addr, sendNext g.hold i ret kind ≠ .accepted j addr := by
  cases kind with
  | none => exact hg.elim
  | some kind =>
    cases kind with
    | handshake => exact absurd hg.1 (hplain.1 i)
    | authOk =>
      obtain ⟨addr, hg⟩ := hg
      exact absurd hg (hplain.2 i addr)
    | handshakeReject => exact absurd hg (hplain.1 i)
    | authReject => exact ⟨nofun, nofun, nofun, nofun⟩
    | close => exact ⟨nofun, nofun, nofun, nofun⟩
    | _ => exact ⟨nofun, nofun, hplain⟩

theorem Beside.exec {s : Server} {w : World} {g : Ghost} (h : Beside s w g) (o : Op)
    (hg : opGuard g o) (ho : ScanOp o) :
    opOk g o (exec o w).1 ∧ Beside s (exec o w).2 (g.to (opNext g.hold o (exec o w).1)) := by
  obtain ⟨hok, hslots⟩ := slotInv_exec o h.slots hg
  refine ⟨hok, hslots, ?_, ?_, ?_⟩
  · cases o with
    | send i data =>
      obtain ⟨_, _, _, _, _, _, _, heq⟩ := sendToClient_spec w i data
      simp only [TeaVpn2.exec, heq]
      exact h.survivors
    | getUnixTime =>
      obtain ⟨_, _, heq⟩ := getUnixTime_eq w
      simp only [TeaVpn2.exec, heq]
      exact h.survivors
    | deleteUdpSession i =>
      have hc : (w.st.sessArr i).isConnected = true := by
        apply h.slots.held
        rw [show g.hold = _ from hg]
        rfl
      obtain ⟨_, _, st', _, hst, heq, _⟩ := deleteUdpSession_spec h.slots.table hc
      simp only [TeaVpn2.exec, heq]
      intro j hj
      by_cases hji : j = i
      · subst hji
        rw [hst] at hj
        simp only [Function.update_self] at hj
        cases hj
      · rw [hst] at hj ⊢
        simp only [Function.update_of_ne hji] at hj ⊢
        exact h.survivors j hj
    | _ => first | exact h.survivors | exact ho.elim
  · cases o with
    | send i data => exact (sendNext_plain _ h.plain hg).2.2
    | loadIsConnected i =>
      simp only [opNext, Ghost.to]
      split <;> exact ⟨by simp, by simp⟩
    | loadIsAuthenticated i =>
      simp only [opNext, Ghost.to]
      repeat' split
      all_goals exact ⟨by simp, by simp⟩
    | deleteUdpSession i => exact ⟨by simp [opNext], by simp [opNext]⟩
    | loadIpv4Iff i => exact ⟨by simp [opNext], by simp [opNext]⟩
    | delRoute addr =>
      obtain ⟨_, i, hold⟩ := hg
      simp only [opNext, Ghost.to, hold]
      exact ⟨by simp, by simp⟩
    | getRoute addr =>
      simp only [opNext, Ghost.to]
      split
      · exact h.plain
      · exact ⟨by simp, by simp⟩
    | _ => first | exact h.plain | exact ho.elim
  · obtain ⟨l, hl, hkind⟩ := h.packets
    obtain ⟨l', hl', hsend⟩ := exec_sends o h.slots hg
    refine ⟨l ++ l', by rw [hl', hl, List.append_assoc], ?_⟩
    intro i dst auth data ret hin
    rcases List.mem_append.mp hin with hin | hin
    · exact hkind i dst auth data ret hin
    · obtain ⟨rfl, _⟩ := hsend i dst auth data ret hin
      obtain ⟨h₁, h₂, _⟩ := sendNext_plain 0 h.plain hg
      exact ⟨h₁, h₂⟩

theorem Beside.start {s : Server} (hs : Server.SlotInv s) {env : Env} (henv : env.NoEbadmsg) :
    Beside s (s.world env) ⟨⟨0, 0⟩, s.pkt, .idle⟩ :=
  ⟨hs env henv, fun _ _ => rfl, ⟨nofun, nofun⟩, [], (List.append_nil _).symm, nofun⟩

theorem step_beside {s : Server} (hs : Server.SlotInv s) {env : Env} (henv : env.NoEbadmsg)
    {inp : Input} (hinp : Background inp = true) :
    ∃ env' g, Beside s ((s.step env inp).world env') g := by
  cases inp with
  | udp k d => cases hinp
  | shutdown => cases hinp
  | tun data =>
    obtain ⟨g, _, hend⟩ := (handleEventFromTun_uses s.st.maxConn s.pkt data).run_inv
      (handleEventFromTun_conforms (g := ⟨⟨0, 0⟩, s.pkt, .idle⟩) s.st.maxConn s.pkt data rfl)
      (Beside s) (fun w g o hI hg ho => hI.exec o hg ho) (Beside.start hs henv)
    exact ⟨_, g, hend⟩
  | reap =>
    obtain ⟨g, _, hend⟩ := (zombieReaperDoScan_uses s.st.maxConn s.zrPkt).run_inv
      (zombieReaperDoScan_conforms (g := ⟨⟨0, 0⟩, s.pkt, .idle⟩) s.st.maxConn s.zrPkt rfl)
      (Beside s) (fun w g o hI hg ho => hI.exec o hg ho) (Beside.start hs henv)
    exact ⟨_, g, hend⟩

/-- INTERNAL: **an input that leaves the session of `k` open leaves it alone**, takes no free
slot, and sends neither HANDSHAKE nor AUTH_OK.
SOURCE: udp_epoll.c:800-905, 1035-1139 -/
theorem step_background {s : Server} (hs : Server.SlotInv s) {env : Env} (henv : env.NoEbadmsg)
    {inp : Input} (hinp : Background inp = true) {k : Endpoint}
    (hopen : lookupUdpSess (s.step env inp).st k.addr k.port = lookupUdpSess s.st k.addr k.port) :
    view (s.step env inp).st k = view s.st k ∧
      (freeSlots s.st ≠ [] → freeSlots (s.step env inp).st ≠ []) ∧
      ∀ data ∈ wire k s (s.step env inp),
        kindOf data ≠ some .handshake ∧ kindOf data ≠ some .authOk := by
  obtain ⟨env', g, hend⟩ := step_beside hs henv hinp
  have htab : TableInv s.st := (hs env henv).table
  have htab' : TableInv (s.step env inp).st := hend.slots.table
  have hsurv : ∀ i, ((s.step env inp).st.sessArr i).isConnected = true →
    (s.step env inp).st.sessArr i = s.st.sessArr i := hend.survivors
  refine ⟨?_, ?_, ?_⟩
  · unfold view
    rw [hopen]
    cases hl : lookupUdpSess s.st k.addr k.port with
    | none => rfl
    | some i =>
      have hc := ((lookupUdpSess_eq_some htab' k i).mp (hopen.trans hl)).1
      rw [Option.map_some, Option.map_some, hsurv i hc]
  · intro hfree
    obtain ⟨i, hi⟩ := List.exists_mem_of_ne_nil _ hfree
    obtain ⟨hlt, hdisc⟩ := (htab.mem_free i).mp hi
    apply List.ne_nil_of_mem
    refine (htab'.mem_free i).mpr ⟨?_, ?_⟩
    · rw [(config_step s env inp).1]
      exact hlt
    · by_contra hc
      have hc' := (Bool.not_eq_false _).mp hc
      rw [hsurv i hc', hdisc] at hc'
      cases hc'
  · intro data hin
    obtain ⟨l, hl, hkind⟩ := hend.packets
    have hlog : (s.step env inp).log = s.log ++ l := hl
    rw [wire, hlog, List.drop_left] at hin
    obtain ⟨e, he, hpkt⟩ := List.mem_filterMap.mp hin
    cases e with
    | send i dst auth data' ret =>
      simp only [Event.packetTo, Option.ite_none_right_eq_some] at hpkt
      rw [← Option.some.inj hpkt.2]
      exact hkind i dst auth data' ret he
    | _ => cases hpkt

end TeaVpn2.Analysis
