import TeaVpn2.Lib.Chain
import TeaVpn2.Model.Auth
import TeaVpn2.Model.Stack

/-!
# The state of the server (server/linux/udp.h)

`SrvUdpState` is `struct srv_udp_state` as far as the session code uses it. A pointer to a
session is its index in `sess_arr`. The session map is memory: 256 × 256 bucket heads
embedded in the table and nodes that came from `malloc`, linked by pointers.

The outside world is `Env`: the results the system calls will give, in the order in which
they are made, and the user files. A list that has run out means success, so a finite
list describes any terminating execution, also one that waits for a writable socket any
number of times. What the server does that can be observed is appended to `World.log`.
-/

set_option autoImplicit false

namespace TeaVpn2

open TeaVpn2.Lib

/-! ## Sessions -/

/-- A UDP endpoint, in host byte order. -/
structure Endpoint where
  addr : UInt32
  port : UInt16
deriving DecidableEq, Repr

/-- `struct udp_sess` (udp.h:46-98). -/
structure UdpSess where
  ipv4Iff : UInt32 := 0
  srcAddr : UInt32 := 0
  srcPort : UInt16 := 0
  idx : UInt16 := 0
  lastAct : Int := 0
  addr : Endpoint := ⟨0, 0⟩
  username : List UInt8 := []
  strSrcAddr : List UInt8 := []
  loopC : UInt8 := 0
  errC : UInt8 := 0
  isAuthenticated : Bool := false
  isConnected : Bool := false
deriving DecidableEq, Repr

/-- The key under which a session is found. -/
def UdpSess.key (s : UdpSess) : Endpoint := ⟨s.srcAddr, s.srcPort⟩

/-- udp.h:306-311. -/
def resetUdpSession (idx : UInt16) : UdpSess := { username := [95], idx := idx }

/-- The arguments of the `PRWIU` format: address, port, username and index. -/
def UdpSess.wiu (s : UdpSess) : List UInt8 :=
  s.strSrcAddr ++ ascii ":" ++ decimal s.srcPort.toNat ++ ascii " (" ++ s.username ++
    ascii ") (cli_idx=" ++ decimal s.idx.toNat ++ ascii ")"

/-! ## The session map -/

/-- A pointer to a bucket: an embedded head `sess_map[i][j]` or an allocated node. -/
inductive BktPtr where
  | head (i j : UInt8)
  | node (a : Nat)
deriving DecidableEq, Repr

/-- `struct udp_map_bucket`; the value of a cell is its `sess` pointer. -/
abbrev UdpMapBucket := Cell BktPtr Nat

/-- The memory of the session map, and the address of the next node `malloc` returns. -/
structure SessMap where
  mem : Heap BktPtr Nat
  brk : Nat

/-- `*bkt`. -/
def SessMap.deref (m : SessMap) (bkt : BktPtr) : UdpMapBucket := (m.mem bkt).getD ⟨none, none⟩

/-! ## The server -/

/-- `struct srv_udp_state`: the fields the session and packet code reads or writes, with
`cfg->sock.max_conn`, `data_dir` and the byte order of the machine. -/
structure SrvUdpState where
  maxConn : UInt16
  dataDir : List UInt8 := []
  order : ByteOrder := .little
  stop : Bool := false
  inEmergency : Bool := false
  sessStk : BtStack
  sessMap : SessMap
  sessArr : Nat → UdpSess
  nOnSess : UInt16 := 0
  ipv4Map : UInt8 → UInt8 → UInt16 := fun _ _ => 0

/-- The low two bytes of an address: the indices of the session map and the route map. -/
def byte0 (addr : UInt32) : UInt8 := ((addr >>> 0) &&& 0xff).toUInt8
def byte1 (addr : UInt32) : UInt8 := ((addr >>> 8) &&& 0xff).toUInt8

/-- udp.h:394-411. -/
def addIpv4RouteMap (map : UInt8 → UInt8 → UInt16) (addr : UInt32) (idx : UInt16) :
    UInt8 → UInt8 → UInt16 :=
  fun i j => if i = byte0 addr ∧ j = byte1 addr then idx + 1 else map i j

/-- udp.h:414-429. -/
def delIpv4RouteMap (map : UInt8 → UInt8 → UInt16) (addr : UInt32) : UInt8 → UInt8 → UInt16 :=
  fun i j => if i = byte0 addr ∧ j = byte1 addr then 0 else map i j

/-- udp.h:432-445; `none` is `-ENOENT`. -/
def getIpv4RouteMap (map : UInt8 → UInt8 → UInt16) (addr : UInt32) : Option UInt16 :=
  if map (byte0 addr) (byte1 addr) = 0 then none else some (map (byte0 addr) (byte1 addr) - 1)

/-! ## Initialisation (server/linux/udp.c:303-383) -/

def initUdpSessionArray : Nat → UdpSess := fun i => resetUdpSession (UInt16.ofNat i)

def initUdpSessionMap : SessMap where
  mem
    | .head _ _ => some ⟨none, none⟩
    | .node _ => none
  brk := 0

/-- The loop `for (i = max_conn; i--;)`; `none` is the panic on a failing push. -/
def fillSessionStack : Nat → BtStack → Option BtStack
  | 0, stk => some stk
  | i + 1, stk => (btStackPush stk (UInt16.ofNat i)).bind (fillSessionStack i)

def initUdpSessionStack (maxConn : UInt16) : Option BtStack :=
  fillSessionStack maxConn.toNat (btStackInit maxConn)

/-- The state before the event loop starts. The stack is the one the fill loop leaves
(`initUdpSessionStack_eq` shows that it does not panic). -/
def initState (maxConn : UInt16) (dataDir : List UInt8) (order : ByteOrder) : SrvUdpState where
  maxConn := maxConn
  dataDir := dataDir
  order := order
  sessStk := (initUdpSessionStack maxConn).getD (btStackInit maxConn)
  sessMap := initUdpSessionMap
  sessArr := initUdpSessionArray

/-! ## The outside world -/

/-- The results of the system calls to come, and the file system.

* `malloc`: whether the next allocations succeed;
* `sendto`, `write`, `poll`: raw results, negative for `-errno`;
* `gettimeofday`: the next readings (`none` is a failing call), then `clock`;
* `fopen`: the user files;
* `rejMsg`: what the stack holds where `handle_client_handshake` puts `rej_msg`. -/
structure Env where
  malloc : List Bool := []
  sendto : List Int := []
  write : List Int := []
  poll : List Int := []
  gettimeofday : List (Option Int) := []
  clock : Int := 0
  fopen : List UInt8 → Option IniFile := fun _ => none
  rejMsg : Buf := fun _ => 0

/-- What can be observed of the server, with the slot and the endpoint it concerns.
`send` and `tunWrite` record whether the session was authenticated at that moment; `bug`
is a `BUG_ON` that fired. -/
inductive Event where
  | recv (src : Endpoint) (data : List UInt8)
  | create (slot : Nat) (key : Endpoint)
  | delete (slot : Nat) (key : Endpoint)
  | auth (slot : Nat) (key : Endpoint) (accepted : Bool)
  | send (slot : Nat) (dst : Endpoint) (authenticated : Bool) (data : List UInt8) (ret : Int)
  | tunWrite (src : Endpoint) (authenticated : Bool) (data : List UInt8) (ret : Int)
  | bug
deriving DecidableEq, Repr

structure World where
  st : SrvUdpState
  env : Env := {}
  log : List Event := []

namespace World

def sess (w : World) (i : Nat) : UdpSess := w.st.sessArr i

def setSess (w : World) (i : Nat) (f : UdpSess → UdpSess) : World :=
  { w with st := { w.st with sessArr := Function.update w.st.sessArr i (f (w.st.sessArr i)) } }

theorem sessArr_setSess (w : World) (i : Nat) (f : UdpSess → UdpSess) (j : Nat) :
    (w.setSess i f).st.sessArr j = if j = i then f (w.st.sessArr i) else w.st.sessArr j :=
  Function.update_apply _ _ _ _

def emit (w : World) (e : Event) : World := { w with log := w.log ++ [e] }

/-- `malloc(sizeof(struct udp_map_bucket)) != NULL`. -/
def malloc (w : World) : Bool × World :=
  match w.env.malloc with
  | [] => (true, w)
  | b :: bs => (b, { w with env := { w.env with malloc := bs } })

/-- `get_unix_time` (udp.h:370-382): `none` leaves the caller's variable as it was. -/
def getUnixTime (w : World) : Option Int × World :=
  match w.env.gettimeofday with
  | [] => (some w.env.clock, w)
  | t :: ts => (t, { w with env := { w.env with gettimeofday := ts } })

/-- `udp_sess_update_last_act` (udp.h:385-388). -/
def udpSessUpdateLastAct (w : World) (i : Nat) : World :=
  match w.getUnixTime with
  | (some t, w) => w.setSess i fun s => { s with lastAct := t }
  | (none, w) => w

end World

end TeaVpn2
