import TeaVpn2.Model.State

/-!
# Creating, finding and deleting sessions (server/linux/udp_session.c)

The loops over a chain of buckets run on the memory of the map. They carry a fuel that
bounds the cells they visit; a chain never has more cells than there are sessions plus
one, so `bktFuel` does not cut a loop short (`lookupUdpSess_eq`, `mapInsertUdpSess_spec`
and `removeSessFromBkt_spec` are proved for the functions with this fuel).

`create_udp_sess` and `delete_udp_session` hold `sess_stk_lock` throughout and
`lookup_udp_sess` holds `sess_map_lock`: each is one atomic step of the server.
-/

set_option autoImplicit false

namespace TeaVpn2

/-- udp_session.c:11-18. -/
def addrToBkt (addr : UInt32) : BktPtr := .head (byte0 addr) (byte1 addr)

/-- A bound on the length of every chain. -/
def bktFuel (st : SrvUdpState) : Nat := st.maxConn.toNat + 1

/-! ## Insertion (udp_session.c:21-56) -/

/-- `while (bkt->next) bkt = bkt->next;` -/
def lastBkt (m : SessMap) : Nat → BktPtr → BktPtr
  | 0, bkt => bkt
  | fuel + 1, bkt =>
      match (m.deref bkt).next with
      | none => bkt
      | some next => lastBkt m fuel next

def mapInsertUdpSess (w : World) (addr : UInt32) (sess : Nat) : Option Nat × World :=
  let m := w.st.sessMap
  let bkt := addrToBkt addr
  match (m.deref bkt).val with
  | none =>
      -- an empty head has no successor; if it had one, it would be dropped with a warning
      let m' := { m with mem := Function.update m.mem bkt (some ⟨none, some sess⟩) }
      (some sess, { w with st := { w.st with sessMap := m' } })
  | some _ =>
      match w.malloc with
      | (false, w) => (none, w)
      | (true, w) =>
          let newBkt := BktPtr.node m.brk
          let last := lastBkt m (bktFuel w.st) bkt
          let m' : SessMap :=
            { mem := Function.update (Function.update m.mem newBkt (some ⟨none, some sess⟩)) last
                (some { m.deref last with next := some newBkt })
              brk := m.brk + 1 }
          (some sess, { w with st := { w.st with sessMap := m' } })

/-- `BUG_ON(bt_stack_push(&state->sess_stk, idx) == -1)`. -/
def pushOrBug (w : World) (idx : UInt16) : World :=
  match btStackPush w.st.sessStk idx with
  | some stk => { w with st := { w.st with sessStk := stk } }
  | none => w.emit .bug

/-- udp_session.c:59-100; an error is the `errno` left for the caller. -/
def createUdpSess (w : World) (addr : UInt32) (port : UInt16) : Except Int Nat × World :=
  match btStackPop w.st.sessStk with
  | none => (.error EAGAIN, w)
  | some (idx, stk) =>
      let w := { w with st := { w.st with sessStk := stk } }
      let w := w.setSess idx.toNat fun s => { s with srcAddr := addr, srcPort := port }
      match mapInsertUdpSess w addr idx.toNat with
      | (none, w) => (.error ENOMEM, pushOrBug w idx)
      | (some sess, w) =>
          let w := w.setSess sess fun s => { s with strSrcAddr := inetNtop addr }
          let w := w.udpSessUpdateLastAct sess
          let w := w.setSess sess fun s => { s with isConnected := true }
          let w := { w with st := { w.st with nOnSess := w.st.nOnSess + 1 } }
          (.ok sess, w.emit (.create sess ⟨addr, port⟩))

/-! ## Lookup (udp_session.c:103-127) -/

def lookupLoop (st : SrvUdpState) (addr : UInt32) (port : UInt16) : Nat → BktPtr → Option Nat
  | 0, _ => none
  | fuel + 1, bkt =>
      let rest := match (st.sessMap.deref bkt).next with
        | none => none
        | some next => lookupLoop st addr port fuel next
      match (st.sessMap.deref bkt).val with
      | some ret =>
          if (st.sessArr ret).srcAddr = addr ∧ (st.sessArr ret).srcPort = port then some ret
          else rest
      | none => rest

def lookupUdpSess (st : SrvUdpState) (addr : UInt32) (port : UInt16) : Option Nat :=
  lookupLoop st addr port (bktFuel st) (addrToBkt addr)

/-! ## Removal (udp_session.c:130-197) -/

/-- The loop that finds the bucket of `curSess`: its predecessor and the bucket. -/
def findBkt (m : SessMap) (curSess : Nat) :
    Nat → Option BktPtr → BktPtr → Option (Option BktPtr × BktPtr)
  | 0, _, _ => none
  | fuel + 1, prev, cur =>
      if (m.deref cur).val = some curSess then some (prev, cur)
      else match (m.deref cur).next with
        | none => none
        | some next => findBkt m curSess fuel (some cur) next

def removeSessFromBkt (st : SrvUdpState) (curSess : Nat) : Int × SessMap :=
  let m := st.sessMap
  match findBkt m curSess (bktFuel st) none (addrToBkt (st.sessArr curSess).srcAddr) with
  | none => (-ENOENT, m)
  | some (none, cur) =>
      -- the head is embedded and must not be freed
      match (m.deref cur).next with
      | some next =>
          (0, { m with mem := Function.update (Function.update m.mem next none) cur
                        (some (m.deref next)) })
      | none => (0, { m with mem := Function.update m.mem cur (some ⟨none, none⟩) })
  | some (some prev, cur) =>
      (0, { m with mem := Function.update (Function.update m.mem cur none) prev
                    (some { m.deref prev with next := (m.deref cur).next }) })

/-- udp_session.c:184-197. -/
def deleteUdpSession (w : World) (sess : Nat) : Int × World :=
  let key := (w.sess sess).key
  let w := pushOrBug w (w.sess sess).idx
  let (ret, m) := removeSessFromBkt w.st sess
  let w := { w with st := { w.st with sessMap := m } }
  let w := w.setSess sess fun s => resetUdpSession s.idx
  let w := { w with st := { w.st with nOnSess := w.st.nOnSess - 1 } }
  (ret, w.emit (.delete sess key))

end TeaVpn2
