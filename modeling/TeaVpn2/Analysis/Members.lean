import TeaVpn2.Analysis.RouteMap
import TeaVpn2.Analysis.Silence
import TeaVpn2.Analysis.Vpn

/-!
# Who is logged in

A session is authenticated because `teavpn2_auth` once accepted the credentials in an AUTH packet
which came from the endpoint of that session, and the address of the session is the one that
`teavpn2_auth` returned then. In the whole network this means for an honest machine that it logged
in itself, with the credentials it was started with.

`Granted` says so of a state, for any notion `Ok` of an address that an endpoint may have, and
`Deciding` of the thread that is about to grant a login. A packet with a route is then seen by the
machine to which its address was given, and by nobody else.
-/

set_option autoImplicit false

namespace TeaVpn2.Analysis

open TeaVpn2 TeaVpn2.Lib TeaVpn2.Lib.Schedule

/-! ## One operation -/

/-- Every session that is authenticated has an address that its endpoint may have. -/
def Granted (Ok : Endpoint → UInt32 → Prop) (st : SrvUdpState) : Prop :=
  ∀ i, (st.sessArr i).isAuthenticated = true → Ok (st.sessArr i).key (st.sessArr i).ipv4Iff

/-- INTERNAL: what a thread knows that decides on a login, from the decision until it counts. -/
structure Deciding (Ok : UInt32 → Prop) (st : SrvUdpState) (h : Hold) : Prop where
  assigned : ∀ i a, h.assigned = some (i, a) → Ok a
  stored : ∀ i a, h.stored = some (i, a) → (st.sessArr i).ipv4Iff = a
  pending : ∀ i, h.pending = some i → (st.sessArr i).isAuthenticated = false

section Operations

variable {Ok : Endpoint → UInt32 → Prop} {k : Endpoint} {w : World} {g : Ghost}

theorem Granted.update {st st' : SrvUdpState} (h : Granted Ok st) {i : Nat} {v : UdpSess}
    (harr : st'.sessArr = Function.update st.sessArr i v)
    (hv : v.isAuthenticated = true → Ok v.key v.ipv4Iff) : Granted Ok st' := by
  intro j hj
  rw [harr] at hj ⊢
  by_cases hji : j = i
  · subst hji
    rw [Function.update_self] at hj ⊢
    exact hv hj
  · rw [Function.update_of_ne hji] at hj ⊢
    exact h j hj

theorem Deciding.of_plain {ok : UInt32 → Prop} {st : SrvUdpState} {h : Hold} (hp : h.Plain) :
    Deciding ok st h :=
  ⟨by simp [hp.assigned], by simp [hp.stored], by simp [hp.pending]⟩

theorem Deciding.congr {ok : UInt32 → Prop} {st st' : SrvUdpState} {h : Hold}
    (hd : Deciding ok st h) (hst : logins st' = logins st) : Deciding ok st' h := by
  refine ⟨hd.assigned, fun i a hi => ?_, fun i hi => ?_⟩
  · exact (congrArg Prod.snd (congrFun hst i)).trans (hd.stored i a hi)
  · exact (congrArg Prod.fst (congrFun hst i)).trans (hd.pending i hi)

/-- INTERNAL: **an operation grants nothing else** than what the thread has decided on.
SOURCE: udp_epoll.c:562-630 -/
theorem Granted.exec (h : Granted Ok w.st) (o : Op) (hslots : SlotInv w g.hold) (hg : opGuard g o)
    (hd : Deciding (Ok k) w.st g.hold)
    (hown : ∀ i, g.hold.slot = some i → (w.st.sessArr i).key = k) :
    Granted Ok (exec o w).2.st := by
  cases o with
  | createUdpSess addr port =>
    rcases createUdpSess_spec hslots.table (hslots.absent _ hg) with ⟨_, heq⟩ |
      ⟨i, stk, mal, st', _, hin, hst, heq, _⟩ |
      ⟨i, stk, m, mal, gtod, t, st', _, _, hin, hst, heq, _⟩
    · simp only [TeaVpn2.exec, heq]
      exact h
    · have hclean := hslots.clean i ((hslots.table.mem_free i).mp hin).2
      simp only [TeaVpn2.exec, heq]
      refine h.update (congrArg SrvUdpState.sessArr hst) fun hv => ?_
      cases hclean.isAuthenticated.symm.trans hv
    · have hclean := hslots.clean i ((hslots.table.mem_free i).mp hin).2
      simp only [TeaVpn2.exec, heq]
      refine h.update (congrArg SrvUdpState.sessArr hst) fun hv => ?_
      cases hclean.isAuthenticated.symm.trans hv
  | deleteUdpSession i =>
    have hs : g.hold.slot = some i := by rw [show g.hold = _ from hg]; rfl
    obtain ⟨stk, m, st', _, hst, heq, _⟩ := deleteUdpSession_spec hslots.table (hslots.held i hs)
    simp only [TeaVpn2.exec, heq]
    refine h.update (congrArg SrvUdpState.sessArr hst) fun hv => ?_
    cases hv
  | storeAddr i saddr => exact h.update rfl (h i)
  | storeUsername i username => exact h.update rfl (h i)
  | incLoopC i => exact h.update rfl (h i)
  | updateLastAct i =>
    obtain ⟨gtod, t, _, heq⟩ := udpSessUpdateLastAct_eq w i
    refine h.update (congrArg (fun w' => w'.st.sessArr) heq) ?_
    exact h i
  | storeIpv4Iff i addr =>
    have hauth := hd.pending i (by rw [show g.hold = _ from hg]; rfl)
    refine h.update rfl fun hv => ?_
    cases hauth.symm.trans hv
  | storeIsAuthenticated i =>
    -- the login counts from here on
    obtain ⟨addr, hg⟩ := hg
    refine h.update rfl fun _ => ?_
    show Ok (w.st.sessArr i).key (w.st.sessArr i).ipv4Iff
    rw [hown i (by rw [hg]; rfl), hd.stored i addr (by rw [hg]; rfl)]
    exact hd.assigned i addr (by rw [hg]; rfl)
  | getUnixTime =>
    obtain ⟨_, _, heq⟩ := getUnixTime_eq w
    simp only [TeaVpn2.exec, heq]
    exact h
  | send i data =>
    obtain ⟨_, _, _, _, _, _, _, heq⟩ := sendToClient_spec w i data
    simp only [TeaVpn2.exec, heq]
    exact h
  | writeTun i data =>
    obtain ⟨_, _, _, _, _, _, _, heq⟩ := writeTun_spec w i data
    simp only [TeaVpn2.exec, heq]
    exact h
  | _ => exact h

theorem Deciding.send {ok : UInt32 → Prop} (hd : Deciding ok w.st g.hold) (i : Nat)
    (data : List UInt8) (ret : Int) (hg : sendGuard g i (kindOf data)) :
    Deciding ok w.st (sendNext g.hold i ret (kindOf data)) := by
  cases hk : kindOf data with
  | none =>
    rw [hk] at hg
    exact hg.elim
  | some kind =>
    rw [hk] at hg
    cases kind with
    | handshake =>
      simp only [sendNext]
      split
      · exact .of_plain (plain_closing i)
      · exact .of_plain (plain_opened i)
    | authOk =>
      obtain ⟨addr, hg⟩ := hg
      simp only [sendNext, hg]
      split
      · exact .of_plain (plain_closing i)
      · refine ⟨?_, by simp [Hold.stored], ?_⟩
        · rintro j a ⟨rfl, rfl⟩
          exact hd.assigned i addr (by rw [hg]; rfl)
        · rintro j ⟨rfl⟩
          exact hd.pending i (by rw [hg]; rfl)
    | close => exact ⟨by simp [sendNext, Hold.assigned], by simp [sendNext, Hold.stored],
        by simp [sendNext, Hold.pending]⟩
    | handshakeReject => exact .of_plain (plain_closing i)
    | authReject => exact .of_plain (plain_closing i)
    | tunData => exact hd
    | reqsync => exact hd
    | sync => exact hd

/-- INTERNAL: **the decision**: an operation keeps what the thread knows about the login, if
`teavpn2_auth` assigns an address that is right.
SOURCE: udp_epoll.c:562-630 -/
theorem Deciding.exec {ok : UInt32 → Prop} (hd : Deciding ok w.st g.hold) (o : Op)
    (hg : opGuard g o) (hacc : ∀ iff, pktType g.pkt.raw = TCLI_PKT_AUTH →
      teavpn2Auth w.st.dataDir w.env.fopen (Srv.authUsername g.pkt.raw)
        (Srv.authPassword g.pkt.raw) = some iff → ok (inetAddr iff.ipv4)) :
    Deciding ok (exec o w).2.st (opNext g.hold o (exec o w).1) := by
  cases o with
  | lookupUdpSess addr port =>
    simp only [opNext]
    split
    · exact .of_plain ⟨rfl, rfl, rfl, rfl, rfl⟩
    · exact .of_plain (plain_found _)
  | createUdpSess addr port =>
    simp only [opNext]
    split
    · exact .of_plain ⟨rfl, rfl, rfl, rfl, rfl⟩
    · exact .of_plain plain_idle
  | deleteUdpSession i =>
    exact ⟨by simp [opNext, Hold.assigned], by simp [opNext, Hold.stored],
      by simp [opNext, Hold.pending]⟩
  | loadIsConnected i =>
    simp only [opNext]
    split
    · exact .of_plain (plain_opened i)
    · exact .of_plain plain_idle
  | loadIsAuthenticated i =>
    cases ha : (w.st.sessArr i).isAuthenticated with
    | true =>
      simp only [TeaVpn2.exec, World.sess, ha, opNext, if_true]
      split
      · exact .of_plain (plain_authed i)
      split
      · exact .of_plain (plain_authed i)
      · exact ⟨by simp [Hold.assigned], by simp [Hold.stored], by simp [Hold.pending]⟩
    | false =>
      simp only [TeaVpn2.exec, World.sess, ha, opNext, Bool.false_eq_true, if_false]
      split
      · refine ⟨by simp [Hold.assigned], by simp [Hold.stored], ?_⟩
        rintro j ⟨rfl⟩
        exact ha
      split
      · exact .of_plain ⟨rfl, rfl, rfl, rfl, rfl⟩
      · exact .of_plain plain_idle
  | loadIpv4Iff i =>
    refine ⟨by simp [opNext, Hold.assigned], ?_, by simp [opNext, Hold.pending]⟩
    rintro j a ⟨rfl, rfl⟩
    rfl
  | storeAddr i saddr => exact .of_plain ⟨rfl, rfl, rfl, rfl, rfl⟩
  | storeIsAuthenticated i => exact .of_plain (plain_authed i)
  | storeUsername i username => exact hd.congr (logins_update rfl ⟨rfl, rfl⟩)
  | updateLastAct i =>
    obtain ⟨gtod, t, _, heq⟩ := udpSessUpdateLastAct_eq w i
    refine hd.congr ?_
    simp only [TeaVpn2.exec, heq]
    exact logins_update rfl ⟨rfl, rfl⟩
  | incLoopC i =>
    have hsame : logins (TeaVpn2.exec (.incLoopC i) w).2.st = logins w.st :=
      logins_update rfl ⟨rfl, rfl⟩
    simp only [opNext]
    split
    · exact .of_plain plain_idle
    · exact hd.congr hsame
  | getUnixTime =>
    obtain ⟨_, _, heq⟩ := getUnixTime_eq w
    simp only [TeaVpn2.exec, heq]
    exact hd
  | storeIpv4Iff i addr =>
    have hg : g.hold = .granted i addr := hg
    have hself : (TeaVpn2.exec (.storeIpv4Iff i addr) w).2.st.sessArr i =
        { w.st.sessArr i with ipv4Iff := addr } := by simp [TeaVpn2.exec, World.setSess]
    refine ⟨?_, ?_, ?_⟩
    · rintro j a ⟨rfl, rfl⟩
      exact hd.assigned i addr (by rw [hg]; rfl)
    · rintro j a ⟨rfl, rfl⟩
      rw [hself]
    · rintro j ⟨rfl⟩
      rw [hself]
      exact hd.pending i (by rw [hg]; rfl)
  | addRoute addr idx =>
    obtain ⟨i, hg, -⟩ := hg
    simp only [TeaVpn2.exec, opNext, hg]
    refine ⟨?_, ?_, by simp [Hold.pending]⟩
    · rintro j a ⟨rfl, rfl⟩
      exact hd.assigned i addr (by rw [hg]; rfl)
    · rintro j a ⟨rfl, rfl⟩
      exact hd.stored i addr (by rw [hg]; rfl)
  | delRoute addr =>
    obtain ⟨-, i, hg⟩ := hg
    simp only [opNext, hg]
    exact ⟨by simp [Hold.assigned], by simp [Hold.stored], by simp [Hold.pending]⟩
  | getRoute addr =>
    simp only [opNext]
    split
    · exact hd
    · exact ⟨by simp [Hold.assigned], by simp [Hold.stored], by simp [Hold.pending]⟩
  | send i data =>
    obtain ⟨ret, stop, em, poll, rs, _, _, heq⟩ := sendToClient_spec w i data
    simp only [TeaVpn2.exec, heq, opNext]
    exact (hd.send i data ret hg).congr rfl
  | writeTun i data =>
    obtain ⟨_, _, _, _, _, _, _, heq⟩ := writeTun_spec w i data
    simp only [TeaVpn2.exec, heq]
    exact hd.congr rfl
  | auth i username password =>
    obtain ⟨hg, htype, hu, hp⟩ := hg
    have hauth := hd.pending i (by rw [hg]; rfl)
    simp only [TeaVpn2.exec, opNext]
    split
    · next iff hsome =>
      refine ⟨?_, by simp [Hold.stored], ?_⟩
      · rintro j a ⟨rfl, rfl⟩
        rw [hu, hp] at hsome
        exact hacc iff htype hsome
      · rintro j ⟨rfl⟩
        exact hauth
    · refine ⟨by simp [Hold.assigned], by simp [Hold.stored], ?_⟩
      rintro j ⟨rfl⟩
      exact hauth
  | _ => exact hd

end Operations

/-! ## One step of the server -/

/-- INTERNAL: while a datagram `d` of `k` is handled. -/
structure Granting (Ok : Endpoint → UInt32 → Prop) (s : Server) (env : Env) (k : Endpoint)
    (d : List UInt8) (w : World) (g : Ghost) : Prop where
  isolated : Isolated s k w g
  pkt : g.pkt = Srv.doRecvFrom s.pkt d
  config : Analysis.config w = Analysis.config (s.world env)
  granted : Granted Ok w.st
  deciding : Deciding (Ok k) w.st g.hold

section Step

variable {Ok : Endpoint → UInt32 → Prop} {s : Server} {env : Env}

theorem Granting.exec {k : Endpoint} {d : List UInt8} {w : World} {g : Ghost}
    (h : Granting Ok s env k d w g) (hacc : ∀ iff,
      AcceptsAs s.st.dataDir env (Srv.doRecvFrom s.pkt d) iff → Ok k (inetAddr iff.ipv4))
    (o : Op) (hg : opGuard g o) (ho : ReceiverOp o) :
    opOk g o (exec o w).1 ∧
      Granting Ok s env k d (TeaVpn2.exec o w).2 (g.to (opNext g.hold o (TeaVpn2.exec o w).1)) := by
  obtain ⟨hok, hiso⟩ := h.isolated.exec o hg ho
  have hdir : w.st.dataDir = s.st.dataDir := congrArg (fun c => c.2.1) h.config
  have hfopen : w.env.fopen = env.fopen := congrArg (fun c => c.2.2.2) h.config
  refine ⟨hok, hiso, h.pkt, (config_exec o w).trans h.config,
    h.granted.exec o h.isolated.slots hg h.deciding h.isolated.own,
    h.deciding.exec o hg fun iff htype hauth => ?_⟩
  rw [h.pkt] at htype hauth
  rw [hdir, hfopen] at hauth
  exact hacc iff ⟨htype, hauth⟩

/-- INTERNAL: **one step of the server** authenticates a session only if it receives an AUTH packet
of that endpoint which `teavpn2_auth` accepts, and with the address it assigns.
SOURCE: udp_epoll.c:498-905, 1035-1139, 1355-1370 -/
theorem step_granted (hs : Server.SlotInv s) (hl : Server.LifeInv s) (henv : env.NoEbadmsg)
    (inp : Input) (h : Granted Ok s.st) (hacc : ∀ k d iff, inp = .udp k d →
      AcceptsAs s.st.dataDir env (Srv.doRecvFrom s.pkt d) iff → Ok k (inetAddr iff.ipv4)) :
    Granted Ok (s.step env inp).st := by
  have hslots := step_slotInv inp hs henv
  have hquiet : (∀ k d, inp ≠ .udp k d) → Granted Ok (s.step env inp).st := by
    intro hinp i hi
    have hconn : ((s.step env inp).st.sessArr i).isConnected = true :=
      (hslots {} (by simp [Env.NoEbadmsg])).connected_of_authenticated hi
    have hsame := step_same hinp hconn
    rw [hsame] at hi ⊢
    exact h i hi
  cases inp with
  | udp k d =>
    have hstart : Granting Ok s env k d (startWorld s env (.udp k d)) (startGhost s (.udp k d)) := by
      refine ⟨⟨(hs env henv).start _, LifeInv.start _ hl, rfl, by simp [startGhost, Hold.slot],
        fun _ _ => rfl, [.recv k d], rfl, by simp⟩, rfl, rfl, h, ?_⟩
      exact Deciding.of_plain ⟨rfl, rfl, rfl, rfl, rfl⟩
    obtain ⟨g, -, hend⟩ := (handleEventFromUdp_uses s.st.order s.pkt k d).run_inv
      (handleEventFromUdp_conforms s.st.order s.pkt k d) (Granting Ok s env k d)
      (fun w g o hI hg ho => hI.exec (fun iff => hacc k d iff rfl) o hg ho) hstart
    exact hend.granted
  | tun p => exact hquiet fun _ _ => Input.noConfusion
  | reap => exact hquiet fun _ _ => Input.noConfusion
  | shutdown => exact hquiet fun _ _ => Input.noConfusion

end Step

/-! ## Runs of the server -/

/-- One of the steps received an AUTH packet of `k` that `teavpn2_auth` accepted with `addr`. -/
def LoginIn (dataDir : List UInt8) (l : List Turn) (k : Endpoint) (addr : UInt32) : Prop :=
  ∃ x ∈ l, ∃ d iff, x.input = .udp k d ∧
    AcceptsAs dataDir x.env (Srv.doRecvFrom x.server.pkt d) iff ∧ addr = inetAddr iff.ipv4

theorem LoginIn.mono {dataDir : List UInt8} {l l' : List Turn} (hsub : ∀ x ∈ l, x ∈ l')
    {k : Endpoint} {addr : UInt32} (h : LoginIn dataDir l k addr) : LoginIn dataDir l' k addr := by
  obtain ⟨x, hx, hlogin⟩ := h
  exact ⟨x, hsub x hx, hlogin⟩

/-- INTERNAL: a run keeps the reason of each login. -/
theorem run_granted {dataDir : List UInt8} {l : List Turn} {s : Server} (hs : Server.SlotInv s)
    (hl : Server.LifeInv s) (hdir : s.st.dataDir = dataDir) (h : Granted (LoginIn dataDir l) s.st)
    (r : List (Env × Input)) (hkernel : ∀ x ∈ r, x.1.NoEbadmsg) :
    Granted (LoginIn dataDir (l ++ turns s r)) (s.run r).st := by
  induction r generalizing l s with
  | nil =>
    rw [turns, List.append_nil]
    exact h
  | cons x r ih =>
    obtain ⟨env, inp⟩ := x
    have henv : env.NoEbadmsg := hkernel _ List.mem_cons_self
    have hnext : Granted (LoginIn dataDir (l ++ [⟨s, env, inp⟩])) (s.step env inp).st := by
      refine step_granted hs hl henv inp ?_ ?_
      · exact fun i hi => (h i hi).mono fun y hy => List.mem_append_left _ hy
      · rintro k d iff rfl hacc
        rw [hdir] at hacc
        exact ⟨_, List.mem_append_right _ (List.mem_singleton.mpr rfl), d, iff, rfl, hacc, rfl⟩
    have hrun := ih (step_slotInv inp hs henv) (step_lifeInv inp hs hl henv)
      ((later_step s env inp).dataDir.trans hdir) hnext fun y hy => hkernel y (List.mem_cons_of_mem _ hy)
    rw [List.append_assoc] at hrun
    exact hrun

/-- INTERNAL: **every session has logged in.** After every run of the server, whatever datagrams,
packets, scans and shutdowns come in any order: for each authenticated session there was a step which
received a datagram of the endpoint of the session, that datagram was an AUTH packet, `teavpn2_auth`
accepted the user name and the password in it, and the address of the session is the one of that
user.
SOURCE: udp_epoll.c:498-905, auth.c:112-184 -/
theorem sessions_logged_in (maxConn : UInt16) (dataDir : List UInt8) (o : ByteOrder)
    (pkt zrPkt : ScPkt) (l : List (Env × Input)) (hkernel : ∀ x ∈ l, x.1.NoEbadmsg) :
    let s := Server.boot maxConn dataDir o pkt zrPkt
    ∀ i, ((s.run l).st.sessArr i).isAuthenticated = true → ∃ x ∈ turns s l, ∃ d iff,
      x.input = .udp ((s.run l).st.sessArr i).key d ∧
      AcceptsAs dataDir x.env (Srv.doRecvFrom x.server.pkt d) iff ∧
      ((s.run l).st.sessArr i).ipv4Iff = inetAddr iff.ipv4 := by
  intro s
  have hstart : Granted (LoginIn dataDir []) s.st := by
    intro i hi
    cases (show false = true from hi)
  have hrun := run_granted (boot_slotInv maxConn dataDir o pkt zrPkt)
    (boot_lifeInv maxConn dataDir o pkt zrPkt) rfl hstart l hkernel
  rw [List.nil_append] at hrun
  exact hrun

/-- A client shakes hands and logs in. -/
def loginRun : List (Env × Input) :=
  [({}, .udp ⟨0x0a000001, 1000⟩ handshakeDatagram),
    ({ fopen := fun _ => some (userFile "10.5.0.2") }, .udp ⟨0x0a000001, 1000⟩ authDatagram)]

theorem sessions_logged_in_client :
    let s := Server.boot 1 [] .little Server.zeroPkt Server.zeroPkt
    ((s.run loginRun).st.sessArr 0).isAuthenticated = true ∧ ∃ x ∈ turns s loginRun, ∃ d iff,
      x.input = .udp ((s.run loginRun).st.sessArr 0).key d ∧
      AcceptsAs [] x.env (Srv.doRecvFrom x.server.pkt d) iff ∧
      ((s.run loginRun).st.sessArr 0).ipv4Iff = inetAddr iff.ipv4 := by
  have hauth : (((Server.boot 1 [] .little Server.zeroPkt Server.zeroPkt).run loginRun).st.sessArr
      0).isAuthenticated = true := by
    decide +kernel
  exact ⟨hauth, sessions_logged_in 1 [] .little Server.zeroPkt Server.zeroPkt loginRun
    (by simp [loginRun, Env.NoEbadmsg]) 0 hauth⟩

/-! ## Runs of the network -/

/-- An honest machine has an address of a user with whose credentials it was started. -/
def MemberAddr (honest : Endpoint → Bool) (moves : List VpnMove) (dataDir : List UInt8)
    (k : Endpoint) (addr : UInt32) : Prop :=
  honest k = true → ∃ iff, Entitled moves dataDir k iff ∧ addr = inetAddr iff.ipv4

section Network

variable {honest : Endpoint → Bool} {moves : List VpnMove} {dataDir : List UInt8} {o : ByteOrder}
  {v v' : Vpn}

/-- INTERNAL: only an input of the server changes the server. -/
theorem srv_of_step {m : VpnMove} (hm : ∀ env inp, m ≠ .server env inp)
    (hstep : Vpn.step honest m v = some v') : v'.srv = v.srv := by
  cases m with
  | launch k o' cfg b =>
    simp only [Vpn.step] at hstep
    split at hstep
    · cases hstep
      rfl
    · cases hstep
  | call k a =>
    simp only [Vpn.step, Option.ite_none_right_eq_some, Option.map_eq_some_iff] at hstep
    obtain ⟨_, p, _, rfl⟩ := hstep
    rfl
  | enter k pkt env =>
    simp only [Vpn.step, Option.map_eq_some_iff] at hstep
    obtain ⟨p, _, rfl⟩ := hstep
    rfl
  | event k thread env event =>
    simp only [Vpn.step, Option.ite_none_right_eq_some, Option.map_eq_some_iff] at hstep
    obtain ⟨_, p, _, rfl⟩ := hstep
    rfl
  | tick k env =>
    simp only [Vpn.step, Option.map_eq_some_iff] at hstep
    obtain ⟨p, _, rfl⟩ := hstep
    rfl
  | quit k ret =>
    simp only [Vpn.step, Option.map_eq_some_iff] at hstep
    obtain ⟨p, _, rfl⟩ := hstep
    rfl
  | crash k =>
    cases hstep
    rfl
  | server env inp => exact absurd rfl (hm env inp)

/-- INTERNAL: one move of the network. -/
theorem members_step {m : VpnMove} (h : VpnInv honest moves dataDir o v)
    (hg : Granted (MemberAddr honest moves dataDir) v.srv.st) (hmem : m ∈ moves)
    (hkernel : ∀ env inp, m = .server env inp → env.NoEbadmsg)
    (hstep : Vpn.step honest m v = some v') :
    Granted (MemberAddr honest moves dataDir) v'.srv.st := by
  by_cases hm : ∃ env inp, m = .server env inp
  · obtain ⟨env, inp, rfl⟩ := hm
    simp only [Vpn.step, Option.ite_none_right_eq_some, Option.some.injEq] at hstep
    obtain ⟨hnet, rfl⟩ := hstep
    refine step_granted h.slots h.life (hkernel env inp rfl) inp hg ?_
    rintro k d iff rfl hacc hk
    have hent := h.entitled hk hmem hnet hacc
    rw [h.dataDir] at hent
    exact ⟨iff, hent, rfl⟩
  · rw [srv_of_step (fun env inp hs => hm ⟨env, inp, hs⟩) hstep]
    exact hg

end Network

/-- INTERNAL: **the members of the network are genuine.** In every run of the network, a session of
an honest machine that is authenticated is one for which the machine was started with credentials
that the user files accepted, and the server keeps for it the address of that user: nobody else can
log in as the machine, and nobody can give it another address.
SOURCE: server/linux/udp_epoll.c:498-905, client/linux/udp.c:504-624, auth.c:47-184 -/
theorem members_genuine (honest : Endpoint → Bool) (maxConn : UInt16) (dataDir : List UInt8)
    (o : ByteOrder) (pkt zrPkt : ScPkt) (moves : List VpnMove) (v : Vpn)
    (hrun : play (Vpn.step honest) moves (Vpn.boot maxConn dataDir o pkt zrPkt) = some v)
    (hkernel : ∀ env inp, VpnMove.server env inp ∈ moves → env.NoEbadmsg) (i : Nat)
    (hi : (v.srv.st.sessArr i).isAuthenticated = true)
    (hk : honest (v.srv.st.sessArr i).key = true) :
    ∃ iff, Entitled moves dataDir (v.srv.st.sessArr i).key iff ∧
      (v.srv.st.sessArr i).ipv4Iff = inetAddr iff.ipv4 := by
  have hstart : Granted (MemberAddr honest moves dataDir)
      (Vpn.boot maxConn dataDir o pkt zrPkt).srv.st := by
    intro j hj
    cases (show false = true from hj)
  have hend := vpn_run_inv
    (fun v => VpnInv honest moves dataDir o v ∧ Granted (MemberAddr honest moves dataDir) v.srv.st)
    (fun _ _ _ hv hm hkern hs => ⟨vpnInv_step hv.1 hm hkern hs, members_step hv.1 hv.2 hm hkern hs⟩)
    ⟨vpnInv_boot honest moves maxConn dataDir o pkt zrPkt, hstart⟩ hrun hkernel
  exact hend.2 i hi hk

/-- The machine of `dialogue`, when its login has been accepted. -/
theorem loggedIn_dialogue :
    ∃ v, play (Vpn.step fun k => k == client 1) (dialogue.take 9)
        (Vpn.boot 2 [] .little Server.zeroPkt Server.zeroPkt) = some v ∧
      (v.srv.st.sessArr 0).isAuthenticated = true ∧ (v.srv.st.sessArr 0).key = client 1 ∧
      getIpv4RouteMap v.srv.st.ipv4Map 0x0a050002 = some 0 := by
  have hend : (loggedInVpn.srv.st.sessArr 0).isAuthenticated = true ∧
      (loggedInVpn.srv.st.sessArr 0).key = client 1 ∧
      getIpv4RouteMap loggedInVpn.srv.st.ipv4Map 0x0a050002 = some 0 := by
    decide +kernel
  exact ⟨loggedInVpn, play_loggedInVpn, hend⟩

theorem members_genuine_dialogue :
    ∃ v, play (Vpn.step fun k => k == client 1) (dialogue.take 9)
        (Vpn.boot 2 [] .little Server.zeroPkt Server.zeroPkt) = some v ∧
      (v.srv.st.sessArr 0).isAuthenticated = true ∧
      ∃ iff, Entitled (dialogue.take 9) [] (v.srv.st.sessArr 0).key iff ∧
        (v.srv.st.sessArr 0).ipv4Iff = inetAddr iff.ipv4 := by
  obtain ⟨v, hplay, hauth, hkey, -⟩ := loggedIn_dialogue
  exact ⟨v, hplay, hauth, members_genuine (fun k => k == client 1) 2 [] .little Server.zeroPkt
    Server.zeroPkt (dialogue.take 9) v hplay
    (fun _ _ h => noEbadmsg_dialogue (List.mem_of_mem_take h)) 0 hauth (by rw [hkey]; rfl)⟩

/-! ## Packets to a member -/

/-- No file that the server can open assigns the address zero. -/
def FilesAssign (moves : List VpnMove) : Prop :=
  ∀ env inp, VpnMove.server env inp ∈ moves → ∀ path file, env.fopen path = some file →
    inetAddr (file.entries.foldl userfileParser {}).iff.ipv4 ≠ 0

/-- INTERNAL: an accepted login gets the settings of a file. -/
theorem file_of_teavpn2Auth {dataDir : List UInt8} {fopen : List UInt8 → Option IniFile}
    {username password : List UInt8} {iff : IfInfo}
    (h : teavpn2Auth dataDir fopen username password = some iff) :
    ∃ path file, fopen path = some file ∧ iff = (file.entries.foldl userfileParser {}).iff := by
  unfold teavpn2Auth at h
  split at h
  · split at h
    · cases h
    · next file hopen =>
      refine ⟨_, file, hopen, ?_⟩
      unfold _teavpn2Auth at h
      dsimp only at h
      split at h
      · cases h
      split at h
      · cases h
      · cases h
        rfl
  · cases h

/-- INTERNAL: one move of the network keeps the route map sound. -/
theorem routes_step {honest : Endpoint → Bool} {moves : List VpnMove} {dataDir : List UInt8}
    {o : ByteOrder} {v v' : Vpn} {m : VpnMove} (h : VpnInv honest moves dataDir o v)
    (hr : Server.RouteInv v.srv) (hfiles : FilesAssign moves) (hmem : m ∈ moves)
    (hkernel : ∀ env inp, m = .server env inp → env.NoEbadmsg)
    (hstep : Vpn.step honest m v = some v') : Server.RouteInv v'.srv := by
  by_cases hm : ∃ env inp, m = .server env inp
  · obtain ⟨env, inp, rfl⟩ := hm
    simp only [Vpn.step, Option.ite_none_right_eq_some, Option.some.injEq] at hstep
    obtain ⟨-, rfl⟩ := hstep
    refine step_routeInv inp h.slots hr (hkernel env inp rfl) fun slot addr hlogin => ?_
    cases inp with
    | udp k d =>
      obtain ⟨_, _, _, _, iff, hauth, rfl⟩ := hlogin
      obtain ⟨path, file, hopen, rfl⟩ := file_of_teavpn2Auth hauth
      exact hfiles env _ hmem path file hopen
    | tun p => exact hlogin.elim
    | reap => exact hlogin.elim
    | shutdown => exact hlogin.elim
  · rw [srv_of_step (fun env inp hs => hm ⟨env, inp, hs⟩) hstep]
    exact hr

/-- INTERNAL: a packet for which there is a route goes to the slot of the route, and to no other.
SOURCE: udp_epoll.c:805-905 -/
theorem step_tun_routed {s : Server} {env : Env} (henv : Env.NoEnoent env) {data : List UInt8}
    {dst : UInt32} (hip : IsIpv4 data dst) {idx : UInt16}
    (hget : getIpv4RouteMap s.st.ipv4Map dst = some idx) :
    ∃ ret, (s.step env (.tun data)).log = s.log ++ [.send idx.toNat (s.st.sessArr idx.toNat).addr
      (s.st.sessArr idx.toNat).isAuthenticated (tunPacket data) ret] := by
  obtain ⟨hsent, hver, hdaddr⟩ := tunPacket_fields s.pkt hip
  rcases run_routeIpv4Packet (s.world env) dst (tunPacket data) with
    ⟨hnone, _⟩ | ⟨idx', ret, hidx, hret, hval, hlog⟩
  · cases hnone.symm.trans hget
  · cases hidx.symm.trans hget
    have hne : (if ret < 0 then ret else 0) ≠ -ENOENT := by
      split
      · rcases hret with hin | rfl | rfl
        · exact henv ret hin
        · simp only [ENOENT]
          omega
        · decide
      · decide
    refine ⟨ret, ?_⟩
    have hrun : (s.step env (.tun data)).log =
        ((Srv._routePacket s.st.maxConn (srvPprep (s.pkt.raw.write 4 (data.take 4096))
          TSRV_PKT_TUN_DATA (UInt16.ofNat (data.take 4096).length) 0).1
          (tunPacket data)).run exec (s.world env)).2.log := by
      simp only [Server.step, Srv.handleEventFromTun, Prog.run_bind, Prog.run_pure, hsent]
    rw [hrun, Srv._routePacket, if_pos hver, hdaddr, Prog.run_bind, hval, if_pos hne]
    exact hlog

/-- INTERNAL: **a packet to a member is seen by that member only.** In every run of the network in
which the user files assign no address zero, an IPv4 packet from the TUN device of the server, for
which there is a route, is sent to one endpoint only. A session of it is logged in, its address has
the low 16 bits of the destination, and if it is an honest machine, then the user files gave that
address for credentials with which the machine was started.
SOURCE: server/linux/udp_epoll.c:562-630, 805-905, udp.h:391-445 -/
theorem packets_private (honest : Endpoint → Bool) (maxConn : UInt16) (dataDir : List UInt8)
    (o : ByteOrder) (pkt zrPkt : ScPkt) (moves : List VpnMove) (v : Vpn)
    (hrun : play (Vpn.step honest) moves (Vpn.boot maxConn dataDir o pkt zrPkt) = some v)
    (hkernel : ∀ env inp, VpnMove.server env inp ∈ moves → env.NoEbadmsg)
    (hfiles : FilesAssign moves) (env : Env) (henv : Env.NoEnoent env) (data : List UInt8)
    (dst : UInt32) (hip : IsIpv4 data dst) (idx : UInt16)
    (hget : getIpv4RouteMap v.srv.st.ipv4Map dst = some idx) :
    let s := v.srv.st.sessArr idx.toNat
    (∃ ret, (v.srv.step env (.tun data)).log =
      v.srv.log ++ [.send idx.toNat s.key true (tunPacket data) ret]) ∧
    low16 s.ipv4Iff = low16 dst ∧
    (honest s.key = true → ∃ iff, Entitled moves dataDir s.key iff ∧
      low16 (inetAddr iff.ipv4) = low16 dst) := by
  intro s
  have hstart : Granted (MemberAddr honest moves dataDir)
      (Vpn.boot maxConn dataDir o pkt zrPkt).srv.st := by
    intro j hj
    cases (show false = true from hj)
  obtain ⟨hinv, hmembers, hroutes⟩ := vpn_run_inv
    (fun v => VpnInv honest moves dataDir o v ∧
      Granted (MemberAddr honest moves dataDir) v.srv.st ∧ Server.RouteInv v.srv)
    (fun _ _ _ hv hm hkern hs => ⟨vpnInv_step hv.1 hm hkern hs,
      members_step hv.1 hv.2.1 hm hkern hs, routes_step hv.1 hv.2.2 hfiles hm hkern hs⟩)
    ⟨vpnInv_boot honest moves maxConn dataDir o pkt zrPkt, hstart,
      boot_routeInv maxConn dataDir o pkt zrPkt⟩ hrun hkernel
  -- the entry points to a session that has logged in
  have hentry : s.isAuthenticated = true ∧ low16 s.ipv4Iff = low16 dst := by
    have hmap := hget
    unfold getIpv4RouteMap at hmap
    split at hmap
    · cases hmap
    · next hb =>
      cases hmap
      obtain ⟨-, hauth, hiff, -⟩ := (hroutes {}).entry (low16 dst) hb
      exact ⟨hauth.resolve_right (by simp [Hold.routing]), hiff⟩
  obtain ⟨hauth, hiff⟩ := hentry
  refine ⟨?_, hiff, fun hk => ?_⟩
  · obtain ⟨ret, hlog⟩ := step_tun_routed henv hip hget
    have hconn : s.isConnected = true :=
      (hinv.slots {} (by simp [Env.NoEbadmsg])).connected_of_authenticated hauth
    have haddr : s.addr = s.key :=
      ((hinv.life {}).slots idx.toNat hconn).addr (by simp [Hold.stage, Hold.working])
    refine ⟨ret, ?_⟩
    rw [hlog, show (v.srv.st.sessArr idx.toNat).addr = s.key from haddr,
      show (v.srv.st.sessArr idx.toNat).isAuthenticated = true from hauth]
  · obtain ⟨iff, hent, haddr⟩ := hmembers idx.toNat hauth hk
    exact ⟨iff, hent, haddr ▸ hiff⟩

/-- A packet to the machine of `dialogue`. -/
theorem packets_private_dialogue :
    ∃ v, play (Vpn.step fun k => k == client 1) (dialogue.take 9)
        (Vpn.boot 2 [] .little Server.zeroPkt Server.zeroPkt) = some v ∧
      ∃ ret, (v.srv.step {} (.tun (ipv4PacketTo 10 5 0 2))).log =
        v.srv.log ++ [.send 0 (client 1) true (tunPacket (ipv4PacketTo 10 5 0 2)) ret] := by
  obtain ⟨v, hplay, -, hkey, hget⟩ := loggedIn_dialogue
  have hfiles : FilesAssign (dialogue.take 9) := by
    intro env inp hin path file hopen
    rcases env_dialogue (List.mem_of_mem_take hin) with rfl | rfl
    · cases hopen
      decide +kernel
    · cases hopen
  have hsent := (packets_private (fun k => k == client 1) 2 [] .little Server.zeroPkt
    Server.zeroPkt (dialogue.take 9) v hplay
    (fun _ _ h => noEbadmsg_dialogue (List.mem_of_mem_take h)) hfiles {} (by simp [Env.NoEnoent])
    (ipv4PacketTo 10 5 0 2) 0x0a050002 ⟨by decide, by decide, by decide +kernel⟩ 0 hget).1
  rw [show (v.srv.st.sessArr (0 : UInt16).toNat).key = client 1 from hkey] at hsent
  exact ⟨v, hplay, hsent⟩

end TeaVpn2.Analysis
