import TeaVpn2.Program.System

/-!
# The discipline the handlers follow

What a thread may do to a slot depends on what it knows of it: `Hold` is that knowledge,
from the lookup or creation of a session to its deletion. `sessionProtocol` says which
operation may be issued in which state of knowledge and what is known afterwards: a
session is deleted once, after its route and its CLOSE; AUTH_OK goes out only for accepted
credentials; a route is entered only for an address that was stored; and so on.

Every handler of udp_epoll.c conforms (`handleEventFromUdp_conforms`,
`handleEventFromTun_conforms`, `zombieReaperDoScan_conforms`,
`closeClientSess_conforms`). The invariants of the server are derived from this and from
what one operation does.
-/

set_option autoImplicit false

namespace TeaVpn2.Analysis

open TeaVpn2 TeaVpn2.Lib

/-! ## Kinds of server packets -/

inductive PktKind where
  | handshake
  | authOk
  | tunData
  | reqsync
  | sync
  | close
  | handshakeReject
  | authReject
deriving DecidableEq, Repr

def kindOfType (t : UInt8) : Option PktKind :=
  if t = TSRV_PKT_HANDSHAKE then some .handshake
  else if t = TSRV_PKT_AUTH_OK then some .authOk
  else if t = TSRV_PKT_TUN_DATA then some .tunData
  else if t = TSRV_PKT_REQSYNC then some .reqsync
  else if t = TSRV_PKT_SYNC then some .sync
  else if t = TSRV_PKT_CLOSE then some .close
  else if t = TSRV_PKT_HANDSHAKE_REJECT then some .handshakeReject
  else if t = TSRV_PKT_AUTH_REJECT then some .authReject
  else none

/-- The kind of a packet, by its first byte. -/
def kindOf (data : List UInt8) : Option PktKind := data.head?.bind kindOfType

@[simp] theorem kindOf_sent_pprep (b : Buf) (t : UInt8) (n : UInt16) (p : UInt8) :
    kindOf (sent (pprep b t n p)) = kindOfType t := by
  rw [kindOf, head?_sent_pprep]
  rfl

/-! ## What a thread knows -/

/-- What a thread knows of the slot it works on. -/
inductive Hold where
  | start
  | idle
  | absent (k : Endpoint)
  | found (i : Nat)
  | candidate (i : Nat)
  | created (i : Nat) (k : Endpoint)
  | fresh (i : Nat)
  | opened (i : Nat)
  | unauth (i : Nat)
  | authed (i : Nat)
  | accepted (i : Nat) (addr : UInt32)
  | denied (i : Nat)
  | granted (i : Nat) (addr : UInt32)
  | addressed (i : Nat) (addr : UInt32)
  | routed (i : Nat) (addr : UInt32)
  | closing (i : Nat)
  | closingIff (i : Nat) (addr : UInt32)
  | unrouted (i : Nat)
  | closed (i : Nat)
  | dead (i : Nat)
  | target (i : Nat)
deriving DecidableEq, Repr

/-- The slot a thread works on and will release itself, if anybody does. -/
def Hold.slot : Hold → Option Nat
  | .start | .idle | .absent _ | .dead _ | .target _ => none
  | .found i | .candidate i | .created i _ | .fresh i | .opened i | .unauth i | .authed i
  | .accepted i _ | .denied i | .granted i _ | .addressed i _ | .routed i _ | .closing i
  | .closingIff i _ | .unrouted i | .closed i => some i

/-- A handler may end here: nothing it started is left undone. -/
def Hold.Rest : Hold → Prop
  | .start | .idle | .absent _ | .found _ | .opened _ | .unauth _ | .authed _ | .dead _ | .target _ => True
  | _ => False

/-- The ghost state of a thread: the datagram it handles, as it lies in the packet buffer,
and what it knows. -/
structure Ghost where
  src : Endpoint
  pkt : ScPkt
  hold : Hold := .idle

/-- A datagram that opens a session. -/
structure GoodHandshake (pkt : ScPkt) : Prop where
  len : PKT_MIN_LEN + sizeofHandshake ≤ pkt.len
  type : pktType pkt.raw = TCLI_PKT_HANDSHAKE
  dataLen : (pktLen pkt.raw).toNat = sizeofHandshake
  version : Srv.versionOk pkt.raw = true

theorem doRecvFrom_len_eq_zero (pkt : ScPkt) (data : List UInt8) :
    (Srv.doRecvFrom pkt data).len = 0 ↔ data = [] := by
  cases data <;> simp [Srv.doRecvFrom]

/-- INTERNAL: the bytes of the buffer that were received are those of the datagram. -/
theorem doRecvFrom_raw {pkt : ScPkt} {data : List UInt8} {j : Nat}
    (h : j < (Srv.doRecvFrom pkt data).len) :
    data[j]? = some ((Srv.doRecvFrom pkt data).raw j) := Buf.getElem?_of_write_take pkt.raw h

/-! ## The protocol -/

def sendGuard (g : Ghost) (i : Nat) : Option PktKind → Prop
  | some .handshake => g.hold = .fresh i ∧ GoodHandshake g.pkt
  | some .handshakeReject => g.hold = .fresh i
  | some .authOk => ∃ addr, g.hold = .accepted i addr
  | some .authReject => g.hold = .denied i
  | some .close => g.hold = .unrouted i ∨ g.hold = .closingIff i 0
  | some .reqsync => g.hold = .authed i
  | some .sync => g.hold = .found i ∨ g.hold = .authed i
  | some .tunData => g.hold = .target i
  | none => False

def opGuard (g : Ghost) : Op → Prop
  | .lookupUdpSess addr port => g.hold = .start ∧ g.src = ⟨addr, port⟩ ∧ g.pkt.len ≠ 0
  | .createUdpSess addr port => g.hold = .absent ⟨addr, port⟩
  | .deleteUdpSession i => g.hold = .closed i
  | .loadIsConnected _ => g.hold = .idle ∨
      ∃ j, g.hold = .opened j ∨ g.hold = .unauth j ∨ g.hold = .authed j ∨ g.hold = .dead j
  | .loadIsAuthenticated i => g.hold = .found i ∨ g.hold = .opened i ∨ g.hold = .idle ∨
      ∃ j, g.hold = .target j
  | .loadLastAct i => g.hold = .opened i
  | .loadIpv4Iff i => g.hold = .found i ∨ g.hold = .opened i ∨ g.hold = .unauth i ∨
      g.hold = .authed i ∨ g.hold = .closing i
  | .loadIdx i => ∃ addr, g.hold = .addressed i addr
  | .loadWiu i => g.hold = .fresh i
  | .storeAddr i saddr => g.hold = .created i saddr
  | .storeIpv4Iff i addr => g.hold = .granted i addr
  | .storeIsAuthenticated i => ∃ addr, g.hold = .routed i addr
  | .storeUsername i _ => g.hold = .authed i
  | .updateLastAct i => g.hold = .found i ∨ g.hold = .authed i
  | .incLoopC i => g.hold = .found i ∨ g.hold = .authed i ∨ g.hold = .dead i
  | .getUnixTime => True
  | .loadNOnSess => True
  | .addRoute addr idx => ∃ i, g.hold = .addressed i addr ∧ idx = UInt16.ofNat i
  | .delRoute addr => addr ≠ 0 ∧ ∃ i, g.hold = .closingIff i addr
  | .getRoute _ => g.hold = .idle
  | .send i data => sendGuard g i (kindOf data)
  | .writeTun i data => g.hold = .found i ∧ pktType g.pkt.raw = TCLI_PKT_TUN_DATA ∧
      pktLen g.pkt.raw ≠ 0 ∧ data = g.pkt.raw.read 4 (pktLen g.pkt.raw).toNat
  | .auth i username password => g.hold = .candidate i ∧ pktType g.pkt.raw = TCLI_PKT_AUTH ∧
      username = Srv.authUsername g.pkt.raw ∧ password = Srv.authPassword g.pkt.raw
  | .loadRejMsg => True

/-- What a thread may assume of an answer: a slot knows its index, `sendto` does not fail
with `EBADMSG`, and a session that was just deleted starts its counter afresh. -/
def opOk (g : Ghost) : (o : Op) → o.Res → Prop
  | .loadIdx i, (r : UInt16) => r = UInt16.ofNat i
  | .send _ _, (r : Int) => r ≠ -EBADMSG
  | .incLoopC i, (r : UInt8) => g.hold = .dead i → r = 1
  | _, _ => True

def sendNext (h : Hold) (i : Nat) (ret : Int) : Option PktKind → Hold
  | some .handshake => if ret < 0 then .closing i else .opened i
  | some .handshakeReject => .closing i
  | some .authOk =>
      if ret < 0 then .closing i
      else match h with
        | .accepted _ addr => .granted i addr
        | h => h
  | some .authReject => .closing i
  | some .close => .closed i
  | _ => h

def opNext (h : Hold) : (o : Op) → o.Res → Hold
  | .lookupUdpSess addr port, (r : Option Nat) =>
      match r with
      | none => .absent ⟨addr, port⟩
      | some i => .found i
  | .createUdpSess addr port, (r : Except Int Nat) =>
      match r with
      | .ok i => .created i ⟨addr, port⟩
      | .error _ => .idle
  | .deleteUdpSession i, _ => .dead i
  | .loadIsConnected i, (r : Bool) => if r then .opened i else .idle
  | .loadIsAuthenticated i, (r : Bool) =>
      if h = .found i then if r then .authed i else .candidate i
      else if h = .opened i then if r then .authed i else .unauth i
      else if r then .target i else .idle
  | .loadIpv4Iff i, (r : UInt32) => .closingIff i r
  | .storeAddr i _, _ => .fresh i
  | .storeIpv4Iff i addr, _ => .addressed i addr
  | .storeIsAuthenticated i, _ => .authed i
  | .incLoopC _, _ =>
      match h with
      | .dead _ => .idle
      | h => h
  | .addRoute addr _, _ =>
      match h with
      | .addressed i _ => .routed i addr
      | h => h
  | .delRoute _, _ =>
      match h with
      | .closingIff i _ => .unrouted i
      | h => h
  | .getRoute _, (r : Option UInt16) =>
      match r with
      | none => h
      | some idx => .target idx.toNat
  | .send i data, (r : Int) => sendNext h i r (kindOf data)
  | .auth i _ _, (r : Option IfInfo) =>
      match r with
      | some iff => .accepted i (inetAddr iff.ipv4)
      | none => .denied i
  | _, _ => h

/-- The protocol of the session operations. -/
def sessionProtocol : Protocol Op Op.Res Ghost where
  guard := opGuard
  ok := opOk
  next g o r := { g with hold := opNext g.hold o r }

/-- The ghost state `g` with other knowledge. -/
def Ghost.to (g : Ghost) (h : Hold) : Ghost := { g with hold := h }

@[simp] theorem Ghost.to_hold (g : Ghost) (h : Hold) : (g.to h).hold = h := rfl
@[simp] theorem Ghost.to_pkt (g : Ghost) (h : Hold) : (g.to h).pkt = g.pkt := rfl
@[simp] theorem Ghost.to_src (g : Ghost) (h : Hold) : (g.to h).src = g.src := rfl
@[simp] theorem Ghost.to_to (g : Ghost) (h h' : Hold) : (g.to h).to h' = g.to h' := rfl

/-- INTERNAL: the rule for one operation. -/
theorem act_conforms {o : Op} {g : Ghost} {Q : o.Res → Ghost → Prop} (hg : opGuard g o)
    (h : ∀ r, opOk g o r → Q r (g.to (opNext g.hold o r))) :
    Conforms sessionProtocol (Srv.act o) g Q := ⟨hg, h⟩

/-- INTERNAL: the rule for one operation and what follows it. -/
theorem act_bind_conforms {α : Type} {o : Op} {k : o.Res → Srv α} {g : Ghost}
    {Q : α → Ghost → Prop} (hg : opGuard g o)
    (h : ∀ r, opOk g o r → Conforms sessionProtocol (k r) (g.to (opNext g.hold o r)) Q) :
    Conforms sessionProtocol (Srv.act o >>= k) g Q := by
  rw [Conforms.bind_iff]
  exact act_conforms hg h

/-- INTERNAL: the rule for sending a packet whose kind is known. -/
theorem send_bind_conforms {α : Type} {i : Nat} {data : List UInt8} (kind : PktKind)
    {k : Int → Srv α} {g : Ghost} {Q : α → Ghost → Prop} (hkind : kindOf data = some kind)
    (hg : sendGuard g i (some kind))
    (h : ∀ r : Int, r ≠ -EBADMSG →
      Conforms sessionProtocol (k r) (g.to (sendNext g.hold i r (some kind))) Q) :
    Conforms sessionProtocol (Srv.sendToClient i data >>= k) g Q := by
  rw [← hkind] at hg h
  exact act_bind_conforms (o := .send i data) hg h

/-- INTERNAL: the rule for a callee and what follows it. -/
theorem bind_conforms {α β : Type} {p : Srv α} {k : α → Srv β} {g : Ghost}
    {P : α → Ghost → Prop} {Q : β → Ghost → Prop} (hp : Conforms sessionProtocol p g P)
    (h : ∀ a g', P a g' → Conforms sessionProtocol (k a) g' Q) :
    Conforms sessionProtocol (p >>= k) g Q := by
  rw [Conforms.bind_iff]
  exact hp.mono h

/-! ## Closing -/

/-- INTERNAL: closing a session ends with the session deleted.
SOURCE: udp_epoll.c:323-336, 1049-1064 -/
theorem closeSess_conforms (pkt : ScPkt) {i : Nat} {g : Ghost}
    (hg : g.hold = .found i ∨ g.hold = .opened i ∨ g.hold = .unauth i ∨ g.hold = .authed i ∨
      g.hold = .closing i) :
    Conforms sessionProtocol (Srv.closeSess pkt i) g fun _ g' => g' = g.to (.dead i) := by
  have hsend : ∀ g', g'.hold = .unrouted i ∨ g'.hold = .closingIff i 0 →
      Conforms sessionProtocol
        (do
          let _ ← Srv.sendToClient i (sent (srvPprep pkt.raw TSRV_PKT_CLOSE 0 0))
          let ret ← Srv.deleteUdpSession i
          pure (ret, { pkt with raw := (srvPprep pkt.raw TSRV_PKT_CLOSE 0 0).1 }) :
            Srv (Int × ScPkt))
        g' fun _ g'' => g'' = g'.to (.dead i) := by
    intro g' hg'
    refine send_bind_conforms .close (kindOf_sent_pprep _ _ _ _) hg' fun _ _ => ?_
    exact act_bind_conforms rfl fun _ _ => rfl
  unfold Srv.closeSess
  refine act_bind_conforms hg fun addr _ => ?_
  split
  · next hne =>
    exact act_bind_conforms ⟨hne, i, rfl⟩ fun _ _ => hsend _ (.inl rfl)
  · next heq =>
    have hzero : addr = (0 : UInt32) := not_not.mp heq
    refine hsend _ (.inr ?_)
    rw [hzero]
    rfl

/-! ## The handshake -/

theorem rejectHandshake_conforms (pkt : ScPkt) {i : Nat} (reason : UInt8) (msg : List UInt8)
    {g : Ghost} (hg : g.hold = .fresh i) :
    Conforms sessionProtocol (Srv.rejectHandshake pkt i reason msg) g
      fun a g' => a.1 = -EBADMSG ∧ g' = g.to (.closing i) := by
  unfold Srv.rejectHandshake Srv.sendHandshakeReject
  rw [Conforms.bind_iff]
  exact send_bind_conforms .handshakeReject (kindOf_sent_pprep _ _ _ _) hg fun _ _ => ⟨rfl, rfl⟩

theorem sendHandshake_conforms (pkt : ScPkt) {i : Nat} {g : Ghost} (hg : g.hold = .fresh i)
    (hgood : GoodHandshake g.pkt) :
    Conforms sessionProtocol (Srv.sendHandshake pkt i) g fun a g' =>
      (a.1 = 0 ∧ g' = g.to (.opened i)) ∨ (a.1 ≠ 0 ∧ g' = g.to (.closing i)) := by
  unfold Srv.sendHandshake
  refine send_bind_conforms .handshake (kindOf_sent_pprep _ _ _ _) ⟨hg, hgood⟩ fun r _ => ?_
  by_cases hr : r < 0
  · exact .inr ⟨by simp [hr]; omega, by simp [sendNext, hr]⟩
  · exact .inl ⟨by simp [hr], by simp [sendNext, hr]⟩

/-- INTERNAL: the handshake sends exactly one packet: HANDSHAKE on a good datagram, and
otherwise a reject after which the session has to be closed.
SOURCE: udp_epoll.c:420-495 -/
theorem handleClientHandshake_conforms (o : ByteOrder) {i : Nat} {g : Ghost}
    (hg : g.hold = .fresh i) :
    Conforms sessionProtocol (Srv.handleClientHandshake o g.pkt i) g fun a g' =>
      (a.1 = 0 ∧ g' = g.to (.opened i)) ∨ (a.1 ≠ 0 ∧ g' = g.to (.closing i)) := by
  have hreject : ∀ pkt reason msg, Conforms sessionProtocol (Srv.rejectHandshake pkt i reason msg) g
      fun a g' => (a.1 = 0 ∧ g' = g.to (.opened i)) ∨ (a.1 ≠ 0 ∧ g' = g.to (.closing i)) := by
    intro pkt reason msg
    refine (rejectHandshake_conforms pkt reason msg hg).mono fun a g' h => .inr ⟨?_, h.2⟩
    rw [h.1]
    decide
  -- reading the name of the session or the stack leaves the ghost state as it is
  have hload : ∀ (op : Op) (k : op.Res → Srv (Int × ScPkt)) Q, opGuard g op →
      (∀ r, opNext g.hold op r = g.hold) → (∀ r, Conforms sessionProtocol (k r) g Q) →
      Conforms sessionProtocol (Srv.act op >>= k) g Q := by
    intro op k Q hguard hnext hk
    refine act_bind_conforms hguard fun r _ => ?_
    rw [hnext]
    exact hk r
  unfold Srv.handleClientHandshake
  split
  · exact hload (.loadWiu i) _ _ hg (fun _ => rfl) fun wiu => hreject _ _ _
  next hlen =>
  dsimp only
  split
  · exact hload (.loadWiu i) _ _ hg (fun _ => rfl) fun wiu => hreject _ _ _
  next hcli =>
  have htype : pktType (Srv.storeHostLen o g.pkt).raw = pktType g.pkt.raw :=
    Buf.write_of_lt g.pkt.raw (hostBytes o (pktLen g.pkt.raw)) (by omega : 0 < 2)
  split
  · exact hload (.loadWiu i) _ _ hg (fun _ => rfl) fun wiu => hreject _ _ _
  next hty =>
  have hver : Srv.versionOk ((Srv.storeHostLen o g.pkt).raw.write 35 [0]) =
      Srv.versionOk g.pkt.raw := by
    have hbyte : ∀ n, 4 ≤ n → n < 7 →
        ((Srv.storeHostLen o g.pkt).raw.write 35 [0]) n = g.pkt.raw n := by
      intro n h₁ h₂
      rw [Buf.write_of_lt _ _ (by omega)]
      exact Buf.write_of_ge _ _ (by rw [length_hostBytes]; omega)
    simp [Srv.versionOk, hbyte]
  simp only [hver]
  split
  · next hv =>
    rw [htype] at hty
    exact sendHandshake_conforms _ hg ⟨by omega, not_not.mp hty, not_not.mp hcli, hv⟩
  · exact hload .loadRejMsg _ _ trivial (fun _ => rfl) fun msg => hreject _ _ _

/-- INTERNAL: a new session is open or deleted when its handler returns.
SOURCE: udp_epoll.c:498-519 -/
theorem _handleNewClient_conforms (o : ByteOrder) {i : Nat} {g : Ghost} (hg : g.hold = .fresh i) :
    Conforms sessionProtocol (Srv._handleNewClient o g.pkt i) g
      fun _ g' => g' = g.to (.opened i) ∨ g' = g.to (.dead i) := by
  unfold Srv._handleNewClient
  apply bind_conforms (handleClientHandshake_conforms o hg)
  rintro ⟨ret, pkt⟩ g' (⟨h0, rfl⟩ | ⟨hne, rfl⟩)
  · have hret : ret = 0 := h0
    simp only [hret, ne_eq, not_true_eq_false, if_false]
    exact .inl rfl
  · simp only [if_pos hne]
    refine bind_conforms (closeSess_conforms _ (.inr (.inr (.inr (.inr rfl))))) fun _ g'' h => ?_
    exact .inr h

theorem handleNewClient_conforms (o : ByteOrder) {g : Ghost} (hg : g.hold = .absent g.src) :
    Conforms sessionProtocol (Srv.handleNewClient o g.pkt g.src) g fun _ g' => g'.hold.Rest := by
  unfold Srv.handleNewClient
  split
  · show g.hold.Rest
    rw [hg]
    trivial
  · refine act_bind_conforms hg fun r _ => ?_
    cases r with
    | error err => exact trivial
    | ok i =>
      refine act_bind_conforms rfl fun _ _ => ?_
      refine (_handleNewClient_conforms (g := g.to (.fresh i)) o rfl).mono fun _ g' h => ?_
      rcases h with rfl | rfl <;> exact trivial

/-! ## Packets of a known session -/

theorem zero_ne_ebadmsg : (0 : Int) ≠ -EBADMSG := by decide

/-- INTERNAL: an AUTH packet leaves the session as it is, authenticated or deleted; when
it was deleted the handler does not return `-EBADMSG`.
SOURCE: udp_epoll.c:562-630 -/
theorem handleClpktAuth_conforms (o : ByteOrder) {i : Nat} {g : Ghost} (hg : g.hold = .found i)
    (htype : pktType g.pkt.raw = TCLI_PKT_AUTH) :
    Conforms sessionProtocol (Srv.handleClpktAuth o g.pkt i) g fun a g' =>
      a.1 ≠ -EBADMSG ∧ (g' = g.to (.authed i) ∨ g' = g.to (.dead i)) := by
  unfold Srv.handleClpktAuth
  refine act_bind_conforms (.inl hg) fun (auth : Bool) _ => ?_
  have hnext : opNext g.hold (.loadIsAuthenticated i) auth =
      if auth then .authed i else .candidate i := by
    rw [hg]
    exact if_pos rfl
  rw [hnext]
  cases auth with
  | true => exact ⟨zero_ne_ebadmsg, .inl rfl⟩
  | false =>
    simp only [Bool.false_eq_true, if_false]
    refine act_bind_conforms ⟨rfl, htype, rfl, rfl⟩ fun r _ => ?_
    cases r with
    | none =>
      refine send_bind_conforms .authReject (kindOf_sent_pprep _ _ _ _) rfl fun ret hret => ?_
      refine bind_conforms (closeSess_conforms _ (.inr (.inr (.inr (.inr rfl))))) fun _ g' h => ?_
      refine ⟨?_, .inr h⟩
      show (if ret < 0 then ret else 0) ≠ -EBADMSG
      split
      · exact hret
      · exact zero_ne_ebadmsg
    | some iff =>
      refine send_bind_conforms .authOk (kindOf_sent_pprep _ _ _ _) ⟨_, rfl⟩ fun ret hret => ?_
      split
      · next hneg =>
        have hclosing : sendNext (.accepted i (inetAddr iff.ipv4)) i ret (some .authOk) =
            .closing i := if_pos hneg
        refine bind_conforms (closeSess_conforms _ (.inr (.inr (.inr (.inr hclosing))))) fun _ g' h => ?_
        exact ⟨hret, .inr h⟩
      · next hpos =>
        have hgranted : sendNext (.accepted i (inetAddr iff.ipv4)) i ret (some .authOk) =
            .granted i (inetAddr iff.ipv4) := if_neg hpos
        refine act_bind_conforms hgranted fun _ _ => ?_
        refine act_bind_conforms ⟨_, rfl⟩ fun idx hidx => ?_
        refine act_bind_conforms ⟨i, rfl, hidx⟩ fun _ _ => ?_
        refine act_bind_conforms ⟨_, rfl⟩ fun _ _ => ?_
        refine act_bind_conforms rfl fun _ _ => ?_
        exact ⟨zero_ne_ebadmsg, .inl rfl⟩

/-- INTERNAL: what the dispatcher can leave: the session as found, authenticated or deleted,
and if it is deleted the return value is not `-EBADMSG`.
SOURCE: udp_epoll.c:715-741 -/
theorem __handleEventFromUdp_conforms (o : ByteOrder) {i : Nat} {g : Ghost}
    (hg : g.hold = .found i) :
    Conforms sessionProtocol (Srv.__handleEventFromUdp o g.pkt i) g fun a g' =>
      g' = g.to (.found i) ∨ g' = g.to (.authed i) ∨
        (a.1 ≠ -EBADMSG ∧ g' = g.to (.dead i)) := by
  have hto : g = g.to (.found i) := by
    cases g
    cases hg
    rfl
  unfold Srv.__handleEventFromUdp
  dsimp only
  split
  · exact .inl hto
  split
  · next htype =>
    refine (handleClpktAuth_conforms o hg htype).mono fun a g' h => .inr ?_
    rcases h with ⟨h, rfl | rfl⟩
    · exact .inl rfl
    · exact .inr ⟨h, rfl⟩
  split
  · -- the data of a TUN packet goes to the device
    next htype =>
    unfold Srv.handleClpktTunData
    rw [Conforms.bind_iff]
    dsimp only
    split
    · exact .inl hto
    · next hlen =>
      refine act_conforms ⟨hg, htype, hlen, rfl⟩ fun ret _ => .inl ?_
      exact congrArg g.to hg
  split
  · unfold Srv.handleClpktReqsync
    rw [Conforms.bind_iff]
    refine send_bind_conforms .sync (kindOf_sent_pprep _ _ _ _) (.inl hg) fun ret _ => ?_
    refine act_bind_conforms (.inl hg) fun _ _ => .inl ?_
    exact congrArg g.to hg
  split
  · refine act_bind_conforms (.inl hg) fun _ _ => .inl ?_
    exact congrArg g.to hg
  split
  · refine bind_conforms (closeSess_conforms _ (.inl hg)) fun _ g' h => ?_
    exact .inr (.inr ⟨zero_ne_ebadmsg, h⟩)
  · exact .inl hto

/-- INTERNAL: the periodic sync. After a deletion the counter of the slot becomes 1, so
nothing is sent.
SOURCE: udp_epoll.c:770-780 -/
theorem bumpLoopC_conforms (ret : Int) (pkt : ScPkt) {i : Nat} {g : Ghost}
    (hg : g.hold = .found i ∨ g.hold = .authed i ∨ g.hold = .dead i) :
    Conforms sessionProtocol (Srv.bumpLoopC ret pkt i) g fun _ g' => g'.hold.Rest := by
  unfold Srv.bumpLoopC
  refine act_bind_conforms hg fun loopC hok => ?_
  have hlive : g.hold ≠ .dead i → opNext g.hold (.incLoopC i) loopC = g.hold := by
    intro hne
    rcases hg with h | h | h
    · rw [h]; rfl
    · rw [h]; rfl
    · exact absurd h hne
  by_cases hdead : g.hold = .dead i
  · have hone : loopC = (1 : UInt8) := hok hdead
    subst hone
    rw [if_neg (by decide), hdead]
    exact trivial
  · rw [hlive hdead]
    have hopen : g.hold = .found i ∨ g.hold = .authed i := by tauto
    have hrest : g.hold.Rest := by
      rcases hopen with h | h <;> rw [h] <;> trivial
    split
    · refine act_bind_conforms hopen fun _ _ => ?_
      exact send_bind_conforms .sync (kindOf_sent_pprep _ _ _ _) hopen fun _ _ => hrest
    · exact hrest

/-- INTERNAL: a datagram in the buffer is handled by the rules.
SOURCE: udp_epoll.c:744-783 -/
theorem _handleEventFromUdp_conforms (o : ByteOrder) {g : Ghost} (hg : g.hold = .start)
    (hlen : g.pkt.len ≠ 0) :
    Conforms sessionProtocol (Srv._handleEventFromUdp o g.pkt g.src) g
      fun _ g' => g'.hold.Rest := by
  unfold Srv._handleEventFromUdp
  refine act_bind_conforms ⟨hg, rfl, hlen⟩ fun r _ => ?_
  cases r with
  | none => exact handleNewClient_conforms (g := g.to (.absent g.src)) o rfl
  | some i =>
    apply bind_conforms (__handleEventFromUdp_conforms (g := g.to (.found i)) o rfl)
    rintro ⟨ret, pkt⟩ g' h
    dsimp only
    unfold Srv.finishEvent
    split
    · split
      · next hbad =>
        -- the session was not closed in the callee, so it is closed once
        refine bind_conforms (closeSess_conforms (i := i) _ ?_) fun _ g'' h' => ?_
        · rcases h with rfl | rfl | ⟨hne, _⟩
          · exact .inl rfl
          · exact .inr (.inr (.inr (.inl rfl)))
          · exact absurd hbad hne
        · rw [h']
          exact trivial
      · rcases h with rfl | rfl | ⟨_, rfl⟩ <;> exact trivial
    · apply bumpLoopC_conforms
      rcases h with rfl | rfl | ⟨_, rfl⟩
      · exact .inl rfl
      · exact .inr (.inl rfl)
      · exact .inr (.inr rfl)

/-- INTERNAL: **every datagram is handled by the rules.**
SOURCE: udp_epoll.c:786-797 -/
theorem handleEventFromUdp_conforms (o : ByteOrder) (pkt : ScPkt) (saddr : Endpoint)
    (data : List UInt8) :
    Conforms sessionProtocol (Srv.handleEventFromUdp o pkt saddr data)
      { src := saddr, pkt := Srv.doRecvFrom pkt data, hold := .start } fun _ g' => g'.hold.Rest := by
  unfold Srv.handleEventFromUdp
  split
  · exact trivial
  · next hlen =>
    exact _handleEventFromUdp_conforms (g := ⟨saddr, Srv.doRecvFrom pkt data, .start⟩) o rfl hlen

/-! ## Packets from the TUN device -/

/-- A thread that routes a packet holds no session. -/
def Hold.Routing (h : Hold) : Prop := h = .idle ∨ ∃ j, h = .target j

theorem Hold.Routing.rest {h : Hold} (hr : h.Routing) : h.Rest := by
  rcases hr with rfl | ⟨j, rfl⟩ <;> trivial

/-- INTERNAL: the loop over the slots: it holds no session at any slot.
SOURCE: udp_epoll.c:827-851 -/
theorem broadcastFrom_conforms {data : List UInt8} (hkind : kindOf data = some .tunData)
    (l : List Nat) {g : Ghost} (hg : g.hold.Routing) :
    Conforms sessionProtocol (Srv.broadcastFrom data l) g fun _ g' => g'.hold.Rest := by
  induction l generalizing g with
  | nil => exact hg.rest
  | cons i l ih =>
    have hne : g.hold ≠ .found i ∧ g.hold ≠ .opened i := by
      rcases hg with h | ⟨j, h⟩ <;> simp [h]
    unfold Srv.broadcastFrom
    refine act_bind_conforms (.inr (.inr hg)) fun (auth : Bool) _ => ?_
    have hnext : opNext g.hold (.loadIsAuthenticated i) auth =
        if auth then .target i else .idle := by
      simp only [opNext, if_neg hne.1, if_neg hne.2]
    rw [hnext]
    cases auth with
    | false => exact ih (.inl rfl)
    | true =>
      refine send_bind_conforms .tunData hkind rfl fun ret _ => ?_
      split
      · exact trivial
      · exact ih (.inr ⟨i, rfl⟩)

theorem routeIpv4Packet_conforms {data : List UInt8} (hkind : kindOf data = some .tunData)
    (dst : UInt32) {g : Ghost} (hg : g.hold = .idle) :
    Conforms sessionProtocol (Srv.routeIpv4Packet dst data) g fun _ g' => g'.hold.Routing := by
  unfold Srv.routeIpv4Packet
  refine act_bind_conforms hg fun (r : Option UInt16) _ => ?_
  cases r with
  | none => exact .inl hg
  | some idx =>
    exact send_bind_conforms .tunData hkind rfl fun _ _ => .inr ⟨idx.toNat, rfl⟩

/-- INTERNAL: **every packet of the TUN device is handled by the rules.**
SOURCE: udp_epoll.c:854-905 -/
theorem handleEventFromTun_conforms (maxConn : UInt16) (pkt : ScPkt) (data : List UInt8)
    {g : Ghost} (hg : g.hold = .idle) :
    Conforms sessionProtocol (Srv.handleEventFromTun maxConn pkt data) g
      fun _ g' => g'.hold.Rest := by
  unfold Srv.handleEventFromTun
  rw [Conforms.bind_iff]
  have hkind := kindOf_sent_pprep (pkt.raw.write 4 (data.take 4096)) TSRV_PKT_TUN_DATA
    (UInt16.ofNat (data.take 4096).length) 0
  unfold Srv._routePacket
  split
  · refine bind_conforms (routeIpv4Packet_conforms hkind _ hg) fun ret g' hg' => ?_
    split
    · exact hg'.rest
    · exact broadcastFrom_conforms hkind _ hg'
  · exact broadcastFrom_conforms hkind _ (.inl hg)

/-! ## The reaper and the shutdown -/

/-- Between two slots of a scan. -/
def Hold.Scanning (h : Hold) : Prop :=
  h = .idle ∨ ∃ j, h = .opened j ∨ h = .unauth j ∨ h = .authed j ∨ h = .dead j

theorem Hold.Scanning.rest {h : Hold} (hs : h.Scanning) : h.Rest := by
  rcases hs with rfl | ⟨j, rfl | rfl | rfl | rfl⟩ <;> trivial

theorem zrSendReqsyncs_conforms {i : Nat} (n : Nat) (pkt : ScPkt) {g : Ghost}
    (hg : g.hold = .authed i) :
    Conforms sessionProtocol (Srv.zrSendReqsyncs i n pkt) g fun _ g' => g'.hold = .authed i := by
  induction n generalizing pkt g with
  | zero => exact hg
  | succ n ih =>
    unfold Srv.zrSendReqsyncs Srv.zrSendReqsync
    rw [Conforms.bind_iff]
    exact send_bind_conforms .reqsync (kindOf_sent_pprep _ _ _ _) hg fun _ _ => ih _ hg

/-- INTERNAL: a session closed by the scan, authenticated or not. -/
theorem zrClose_conforms (pkt : ScPkt) {i : Nat} {g : Ghost}
    (hg : g.hold = .unauth i ∨ g.hold = .authed i) :
    Conforms sessionProtocol
      (do
        let (_, pkt) ← Srv.zrCloseSess pkt i
        pure pkt : Srv ScPkt) g fun _ g' => g'.hold.Scanning := by
  refine bind_conforms (closeSess_conforms (i := i) _ (by tauto)) fun _ g' h => ?_
  rw [h]
  exact .inr ⟨i, .inr (.inr (.inr rfl))⟩

/-- INTERNAL: the scan of one slot.
SOURCE: udp_epoll.c:1067-1139 -/
theorem zrScanSlot_conforms (pkt : ScPkt) (i : Nat) {g : Ghost} (hg : g.hold.Scanning) :
    Conforms sessionProtocol (Srv.zrScanSlot pkt i) g fun _ g' => g'.hold.Scanning := by
  unfold Srv.zrScanSlot
  refine act_bind_conforms hg fun (conn : Bool) _ => ?_
  cases conn with
  | false => exact .inl rfl
  | true =>
    simp only [if_true]
    refine act_bind_conforms trivial fun now _ => ?_
    refine act_bind_conforms rfl fun lastAct _ => ?_
    refine act_bind_conforms (.inr (.inl rfl)) fun (auth : Bool) _ => ?_
    have hnext : opNext (.opened i) (.loadIsAuthenticated i) auth =
        if auth then .authed i else .unauth i := by simp [opNext]
    cases auth with
    | false =>
      simp only [Bool.false_eq_true, if_false]
      unfold Srv.zrChkNoAuth
      split
      · exact zrClose_conforms pkt (.inl hnext)
      · exact .inr ⟨i, .inr (.inl hnext)⟩
    | true =>
      have hreq : ∀ n (g' : Ghost), g'.hold = .authed i →
          Conforms sessionProtocol (Srv.zrSendReqsyncs i n pkt) g' fun _ g' => g'.hold.Scanning := by
        intro n g' hg'
        refine (zrSendReqsyncs_conforms n pkt hg').mono fun _ g'' h => ?_
        exact .inr ⟨i, .inr (.inr (.inl h))⟩
      simp only [if_true]
      unfold Srv.zrChkAuth
      split
      · exact zrClose_conforms pkt (.inr hnext)
      split
      · exact hreq 7 _ hnext
      split
      · exact hreq 5 _ hnext
      split
      · exact hreq 3 _ hnext
      split
      · exact hreq 1 _ hnext
      · exact .inr ⟨i, .inr (.inr (.inl hnext))⟩

theorem zrScanFrom_conforms (l : List Nat) (pkt : ScPkt) {g : Ghost} (hg : g.hold.Scanning) :
    Conforms sessionProtocol (Srv.zrScanFrom l pkt) g fun _ g' => g'.hold.Rest := by
  induction l generalizing pkt g with
  | nil => exact hg.rest
  | cons i l ih =>
    unfold Srv.zrScanFrom
    exact bind_conforms (zrScanSlot_conforms pkt i hg) fun pkt' g' hg' => ih pkt' hg'

/-- INTERNAL: **a scan of the reaper follows the rules.**
SOURCE: udp_epoll.c:1117-1139 -/
theorem zombieReaperDoScan_conforms (maxConn : UInt16) (pkt : ScPkt) {g : Ghost}
    (hg : g.hold = .idle) :
    Conforms sessionProtocol (Srv.zombieReaperDoScan maxConn pkt) g fun _ g' => g'.hold.Rest := by
  unfold Srv.zombieReaperDoScan
  refine act_bind_conforms trivial fun n _ => ?_
  have hrest : (g.to (opNext g.hold .loadNOnSess n)).hold.Scanning := .inl hg
  split
  · exact hrest.rest
  · exact zrScanFrom_conforms _ _ hrest

theorem closeClientSessFrom_conforms (l : List Nat) (pkt : ScPkt) {g : Ghost}
    (hg : g.hold.Scanning) :
    Conforms sessionProtocol (Srv.closeClientSessFrom l pkt) g fun _ g' => g'.hold.Rest := by
  induction l generalizing pkt g with
  | nil => exact hg.rest
  | cons i l ih =>
    unfold Srv.closeClientSessFrom
    refine act_bind_conforms hg fun (conn : Bool) _ => ?_
    cases conn with
    | false => exact ih _ (.inl rfl)
    | true =>
      refine bind_conforms (closeSess_conforms (i := i) _ (.inr (.inl rfl))) fun _ g' h => ?_
      apply ih
      rw [h]
      exact .inr ⟨i, .inr (.inr (.inr rfl))⟩

/-- INTERNAL: **the shutdown follows the rules.**
SOURCE: udp_epoll.c:1355-1370 -/
theorem closeClientSess_conforms (maxConn : UInt16) (pkt : ScPkt) {g : Ghost}
    (hg : g.hold = .idle) :
    Conforms sessionProtocol (Srv.closeClientSess maxConn pkt) g fun _ g' => g'.hold.Rest :=
  closeClientSessFrom_conforms _ _ (.inl hg)

end TeaVpn2.Analysis
