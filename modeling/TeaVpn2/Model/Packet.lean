import TeaVpn2.Model.Bytes

/-!
# The wire format

Every datagram is a four-byte header (type, padding length, big-endian data length)
followed by a payload (packet.h:92-148). The payload structures have fixed offsets, which
the source asserts at compile time; the functions below write the same offsets.

`struct sc_pkt` is one buffer that a thread receives into and sends from. It is passed
through the functions of the model as a value: a function returns the buffer it leaves.
-/

set_option autoImplicit false

namespace TeaVpn2

/-! ## Packet types and version -/

def TCLI_PKT_HANDSHAKE : UInt8 := 0
def TCLI_PKT_AUTH : UInt8 := 1
def TCLI_PKT_TUN_DATA : UInt8 := 2
def TCLI_PKT_REQSYNC : UInt8 := 3
def TCLI_PKT_SYNC : UInt8 := 4
def TCLI_PKT_CLOSE : UInt8 := 5

def TSRV_PKT_HANDSHAKE : UInt8 := 0
def TSRV_PKT_AUTH_OK : UInt8 := 1
def TSRV_PKT_TUN_DATA : UInt8 := 2
def TSRV_PKT_REQSYNC : UInt8 := 3
def TSRV_PKT_SYNC : UInt8 := 4
def TSRV_PKT_CLOSE : UInt8 := 5
def TSRV_PKT_HANDSHAKE_REJECT : UInt8 := 6
def TSRV_PKT_AUTH_REJECT : UInt8 := 7

def TSRV_HREJECT_INVALID : UInt8 := 1
def TSRV_HREJECT_VERSION_NOT_SUPPORTED : UInt8 := 2

/-- `VERSION`, `PATCHLEVEL`, `SUBLEVEL` and `EXTRAVERSION` of the top-level Makefile. -/
def VERSION : UInt8 := 0
def PATCHLEVEL : UInt8 := 1
def SUBLEVEL : UInt8 := 2
def EXTRAVERSION : List UInt8 := ascii "-rc1"

def PKT_MIN_LEN : Nat := 4

/-- `sizeof(struct pkt_handshake)`, `sizeof(struct pkt_auth)` and
`sizeof(struct pkt_auth_res)`. -/
def sizeofHandshake : Nat := 96
def sizeofAuth : Nat := 512
def sizeofAuthRes : Nat := 84

/-! ## Byte order -/

/-- The byte order of a machine. -/
inductive ByteOrder where
  | little
  | big
deriving DecidableEq, Repr

def hiByte (x : UInt16) : UInt8 := UInt8.ofNat (x.toNat / 256)
def loByte (x : UInt16) : UInt8 := UInt8.ofNat (x.toNat % 256)

/-- The number whose bytes are `hi` and `lo`, most significant first. -/
def be16 (hi lo : UInt8) : UInt16 := UInt16.ofNat (hi.toNat * 256 + lo.toNat)

/-- The memory image of a `uint16_t` on a machine of the given byte order. -/
def hostBytes (o : ByteOrder) (x : UInt16) : List UInt8 :=
  match o with
  | .little => [loByte x, hiByte x]
  | .big => [hiByte x, loByte x]

/-- The `uint16_t` that a machine of the given byte order reads from two bytes. -/
def hostValue (o : ByteOrder) (a b : UInt8) : UInt16 :=
  match o with
  | .little => be16 b a
  | .big => be16 a b

@[simp] theorem length_hostBytes (o : ByteOrder) (x : UInt16) : (hostBytes o x).length = 2 := by
  cases o <;> rfl

@[simp] theorem be16_bytes (x : UInt16) : be16 (hiByte x) (loByte x) = x := by
  have hx := x.toNat_lt
  apply UInt16.toNat_inj.mp
  simp only [be16, hiByte, loByte, UInt16.toNat_ofNat', UInt8.toNat_ofNat']
  omega

/-! ## Buffers of a thread -/

/-- `struct sc_pkt`: the number of bytes last received and the packet buffer. -/
structure ScPkt where
  len : Nat
  raw : Buf

/-- The `type` and the (big-endian) `len` field of the packet in a buffer. -/
def pktType (b : Buf) : UInt8 := b 0
def pktLen (b : Buf) : UInt16 := be16 (b 2) (b 3)

/-- The four header bytes. -/
def header (type : UInt8) (dataLen : UInt16) (padLen : UInt8) : List UInt8 :=
  [type, padLen, hiByte dataLen, loByte dataLen]

/-- Fill in the header; the result is the length to send. `srv_pprep` and `cli_pprep`
have the same body (server/linux/udp.h:314-321, client/linux/udp.h:166-173). -/
def pprep (b : Buf) (type : UInt8) (dataLen : UInt16) (padLen : UInt8) : Buf × Nat :=
  (b.write 0 (header type dataLen padLen), dataLen.toNat + PKT_MIN_LEN)

def srvPprep (b : Buf) (type : UInt8) (dataLen : UInt16) (padLen : UInt8) : Buf × Nat :=
  pprep b type dataLen padLen

def cliPprep (b : Buf) (type : UInt8) (dataLen : UInt16) (padLen : UInt8) : Buf × Nat :=
  pprep b type dataLen padLen

/-- `struct pkt_handshake` as both sides fill it in: the current version, zeros for the
supported range. -/
def handshakeBytes : List UInt8 :=
  [VERSION, PATCHLEVEL, SUBLEVEL] ++ charArray (strncpy2 EXTRAVERSION 29) 29 ++
    List.replicate 64 0

/-- udp.h:341-355. -/
def srvPprepHandshake (b : Buf) : Buf × Nat :=
  srvPprep (b.write 4 handshakeBytes) TSRV_PKT_HANDSHAKE 96 0

/-- udp.h:324-338. -/
def srvPprepHandshakeReject (b : Buf) (reason : UInt8) (msg : Option (List UInt8)) : Buf × Nat :=
  let text := match msg with
    | none => List.replicate 511 0
    | some m => charArray (strncpy2 m 511) 511
  srvPprep (b.write 4 (reason :: text)) TSRV_PKT_HANDSHAKE_REJECT 512 0

def srvPprepSync (b : Buf) : Buf × Nat := srvPprep b TSRV_PKT_SYNC 0 0

def srvPprepReqsync (b : Buf) : Buf × Nat := srvPprep b TSRV_PKT_REQSYNC 0 0

/-- client/linux/udp.h:176-190. -/
def cliPprepHandshake (b : Buf) : Buf × Nat :=
  cliPprep (b.write 4 handshakeBytes) TCLI_PKT_HANDSHAKE 96 0

/-- client/linux/udp.h:193-202. -/
def cliPprepAuth (b : Buf) (user pass : List UInt8) : Buf × Nat :=
  cliPprep
    (b.write 4 (charArray (strncpy2 user 256) 256 ++ charArray (strncpy2 pass 256) 256))
    TCLI_PKT_AUTH 512 0

/-! ## Interface information -/

/-- `struct if_info` (common.h:133-149); the arrays hold C strings. -/
structure IfInfo where
  dev : List UInt8 := []
  ipv4Pub : List UInt8 := []
  ipv4 : List UInt8 := []
  ipv4Netmask : List UInt8 := []
  ipv4Dgateway : List UInt8 := []
  ipv4Mtu : UInt16 := 0
deriving DecidableEq, Repr

/-- The memory image of an `if_info`: the five arrays of sixteen bytes, then `ipv4_mtu`
in the byte order of the machine. -/
def IfInfo.bytes (o : ByteOrder) (iff : IfInfo) : List UInt8 :=
  charArray iff.dev 16 ++ charArray iff.ipv4Pub 16 ++ charArray iff.ipv4 16 ++
    charArray iff.ipv4Netmask 16 ++ charArray iff.ipv4Dgateway 16 ++ hostBytes o iff.ipv4Mtu

/-- The `if_info` that a machine of byte order `o` finds in a memory area. -/
def IfInfo.ofBytes (o : ByteOrder) (l : List UInt8) : IfInfo where
  dev := cstr (l.take 16)
  ipv4Pub := cstr ((l.drop 16).take 16)
  ipv4 := cstr ((l.drop 32).take 16)
  ipv4Netmask := cstr ((l.drop 48).take 16)
  ipv4Dgateway := cstr ((l.drop 64).take 16)
  ipv4Mtu := hostValue o (l.getD 80 0) (l.getD 81 0)

/-! ## What is sent -/

/-- The packet that `send_to_client(thread, sess, &pkt->srv, send_len)` hands to the
socket, from the buffer and length a `pprep` returned. -/
def sent (p : Buf × Nat) : List UInt8 := p.1.read 0 p.2

@[simp] theorem length_header (t : UInt8) (n : UInt16) (p : UInt8) :
    (header t n p).length = 4 := rfl

@[simp] theorem length_handshakeBytes : handshakeBytes.length = 96 := by
  simp [handshakeBytes]

@[simp] theorem length_ifInfo_bytes (o : ByteOrder) (iff : IfInfo) :
    (iff.bytes o).length = 82 := by
  simp [IfInfo.bytes]

/-- INTERNAL: a prepared packet is its header followed by the payload bytes of the
buffer. -/
theorem sent_pprep (b : Buf) (t : UInt8) (n : UInt16) (p : UInt8) :
    sent (pprep b t n p) = header t n p ++ b.read 4 n.toNat := by
  simp only [sent, pprep, PKT_MIN_LEN]
  have hhead := Buf.read_write_same b 0 (header t n p)
  rw [length_header] at hhead
  rw [Nat.add_comm, Buf.read_add, hhead]
  congr 1
  apply Buf.read_congr
  intro i h _
  exact Buf.write_of_ge _ _ (by simpa using h)

/-- INTERNAL: the first byte of a prepared packet is its type. -/
theorem head?_sent_pprep (b : Buf) (t : UInt8) (n : UInt16) (p : UInt8) :
    (sent (pprep b t n p)).head? = some t := by
  rw [sent_pprep]
  rfl

/-- INTERNAL: a packet whose payload was just written is its header followed by that
payload, whatever the buffer held before. -/
theorem sent_pprep_write (b : Buf) (t : UInt8) (n : UInt16) (p : UInt8) (bytes : List UInt8)
    (h : bytes.length = n.toNat) :
    sent (pprep (b.write 4 bytes) t n p) = header t n p ++ bytes := by
  rw [sent_pprep, ← h, Buf.read_write_same]

/-- INTERNAL: a packet without payload is its header. -/
theorem sent_pprep_zero (b : Buf) (t p : UInt8) : sent (pprep b t 0 p) = header t 0 p := by
  rw [sent_pprep]
  rfl

end TeaVpn2
