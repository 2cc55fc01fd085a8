import TeaVpn2.Program.Ops

/-!
# The server threads (server/linux/udp_epoll.c)

The handlers of the UDP receiver and the zombie reaper, as programs over the atomic
operations of `TeaVpn2.Program.Ops`. A handler takes the packet buffer of its thread and
returns the buffer it leaves, beside the value the C function returns. Messages printed to
the log are left out; the texts that are sent to a client are not.

The build is the default one (`NDEBUG`), so the assertion after `create_udp_sess` in
`handle_new_client` is not part of the program.
-/

set_option autoImplicit false

namespace TeaVpn2.Srv

/-! ## Closing a session (udp_epoll.c:323-336, 1049-1064) -/

/-- `close_udp_session` and `zr_close_sess` have the same body, on the packet buffers of
the two threads. -/
def closeSess (pkt : ScPkt) (sess : Nat) : Srv (Int × ScPkt) := do
  let ipv4Iff ← loadIpv4Iff sess
  if ipv4Iff ≠ 0 then
    delIpv4RouteMap ipv4Iff
  let p := srvPprep pkt.raw TSRV_PKT_CLOSE 0 0
  let _ ← sendToClient sess (sent p)
  let ret ← deleteUdpSession sess
  pure (ret, { pkt with raw := p.1 })

def closeUdpSession (pkt : ScPkt) (sess : Nat) : Srv (Int × ScPkt) := closeSess pkt sess

def zrCloseSess (pkt : ScPkt) (sess : Nat) : Srv (Int × ScPkt) := closeSess pkt sess

/-! ## The handshake (udp_epoll.c:388-519) -/

def sendHandshake (pkt : ScPkt) (sess : Nat) : Srv (Int × ScPkt) := do
  let p := srvPprepHandshake pkt.raw
  let sendRet ← sendToClient sess (sent p)
  pure (if sendRet < 0 then sendRet else 0, { pkt with raw := p.1 })

def sendHandshakeReject (pkt : ScPkt) (sess : Nat) (reason : UInt8) (msg : List UInt8) :
    Srv (Int × ScPkt) := do
  let p := srvPprepHandshakeReject pkt.raw reason (some msg)
  let sendRet ← sendToClient sess (sent p)
  pure (if sendRet < 0 then sendRet else 0, { pkt with raw := p.1 })

/-- The label `reject`: the message goes out and the handler returns `-EBADMSG`. -/
def rejectHandshake (pkt : ScPkt) (sess : Nat) (reason : UInt8) (msg : List UInt8) :
    Srv (Int × ScPkt) := do
  let (_, pkt) ← sendHandshakeReject pkt sess reason msg
  pure (-EBADMSG, pkt)

def rejMsgShort (wiu : List UInt8) (len : Nat) : List UInt8 :=
  snprintf 512 (ascii "Invalid handshake packet length from " ++ wiu ++
    ascii " (expected at least " ++ decimal (PKT_MIN_LEN + sizeofHandshake) ++
    ascii " bytes; actual = " ++ decimal len ++ ascii " bytes)")

def rejMsgLen (wiu : List UInt8) (len : UInt16) : List UInt8 :=
  snprintf 512 (ascii "Invalid handshake packet length from " ++ wiu ++ ascii " (expected = " ++
    decimal sizeofHandshake ++ ascii "; actual: cli_pkt->len = " ++ decimal len.toNat ++ ascii ")")

def rejMsgType (wiu : List UInt8) (type : UInt8) : List UInt8 :=
  snprintf 512 (ascii "Invalid first packet type from " ++ wiu ++
    ascii " (expected = TCLI_PKT_HANDSHAKE (" ++ decimal TCLI_PKT_HANDSHAKE.toNat ++
    ascii "); actual = " ++ decimal type.toNat ++ ascii ")")

/-- `cli_pkt->len = ntohs(cli_pkt->len)`, in the memory of a machine of byte order `o`. -/
def storeHostLen (o : ByteOrder) (pkt : ScPkt) : ScPkt :=
  { pkt with raw := pkt.raw.write 2 (hostBytes o (pktLen pkt.raw)) }

/-- The version triple of the handshake in a buffer. -/
def versionOk (b : Buf) : Bool := b 4 == VERSION && b 5 == PATCHLEVEL && b 6 == SUBLEVEL

/-- udp_epoll.c:420-495. `rej_msg` is formatted on every reject path but the last, where
it is sent as the stack left it. -/
def handleClientHandshake (o : ByteOrder) (pkt : ScPkt) (sess : Nat) : Srv (Int × ScPkt) := do
  if pkt.len < PKT_MIN_LEN + sizeofHandshake then
    let wiu ← loadWiu sess
    rejectHandshake pkt sess TSRV_HREJECT_INVALID (rejMsgShort wiu pkt.len)
  else
    let cliLen := pktLen pkt.raw
    let pkt := storeHostLen o pkt
    if cliLen.toNat ≠ sizeofHandshake then
      let wiu ← loadWiu sess
      rejectHandshake pkt sess TSRV_HREJECT_INVALID (rejMsgLen wiu cliLen)
    else if pktType pkt.raw ≠ TCLI_PKT_HANDSHAKE then
      let wiu ← loadWiu sess
      rejectHandshake pkt sess TSRV_HREJECT_INVALID (rejMsgType wiu (pktType pkt.raw))
    else
      -- `cur->extra[sizeof(cur->extra) - 1] = '\0'`
      let pkt := { pkt with raw := pkt.raw.write 35 [0] }
      if versionOk pkt.raw then
        sendHandshake pkt sess
      else
        let rejMsg ← loadRejMsg
        rejectHandshake pkt sess TSRV_HREJECT_VERSION_NOT_SUPPORTED rejMsg

def _handleNewClient (o : ByteOrder) (pkt : ScPkt) (sess : Nat) : Srv (Int × ScPkt) := do
  let (ret, pkt) ← handleClientHandshake o pkt sess
  if ret ≠ 0 then
    let (_, pkt) ← closeUdpSession pkt sess
    -- a bad handshake packet is the client's fault, the server is still fine
    pure (if ret = -EBADMSG then 0 else ret, pkt)
  else pure (ret, pkt)

/-- udp_epoll.c:522-532. -/
def skipSessionCreation (pkt : ScPkt) : Bool :=
  let type := pktType pkt.raw
  type == TCLI_PKT_TUN_DATA || type == TCLI_PKT_REQSYNC || type == TCLI_PKT_SYNC ||
    type == TCLI_PKT_CLOSE

/-- udp_epoll.c:535-559. -/
def handleNewClient (o : ByteOrder) (pkt : ScPkt) (saddr : Endpoint) : Srv (Int × ScPkt) := do
  if skipSessionCreation pkt then
    pure (0, pkt)
  else
    match ← createUdpSess saddr.addr saddr.port with
    | .error err => pure (if err = EAGAIN then 0 else -err, pkt)
    | .ok sess =>
        storeAddr sess saddr
        _handleNewClient o pkt sess

/-! ## Packets of a known session (udp_epoll.c:562-741) -/

/-- The credentials of an AUTH packet, NUL-terminated at their last byte. -/
def authUsername (b : Buf) : List UInt8 := cstr (b.read 4 255)
def authPassword (b : Buf) : List UInt8 := cstr (b.read 260 255)

/-- udp_epoll.c:562-630. The response is built over the request: `status` and the byte
behind it are not written. -/
def handleClpktAuth (o : ByteOrder) (pkt : ScPkt) (sess : Nat) : Srv (Int × ScPkt) := do
  if ← loadIsAuthenticated sess then
    pure (0, pkt)
  else
    match ← teavpn2Auth sess (authUsername pkt.raw) (authPassword pkt.raw) with
    | some iff =>
        let p := srvPprep (pkt.raw.write 6 (iff.bytes o)) TSRV_PKT_AUTH_OK
          (UInt16.ofNat sizeofAuthRes) 0
        let sendRet ← sendToClient sess (sent p)
        let pkt' := { pkt with raw := p.1 }
        if sendRet < 0 then
          let (_, pkt') ← closeUdpSession pkt' sess
          pure (sendRet, pkt')
        else
          storeIpv4Iff sess (inetAddr iff.ipv4)
          let idx ← loadIdx sess
          addIpv4RouteMap (inetAddr iff.ipv4) idx
          storeIsAuthenticated sess
          storeUsername sess (authUsername pkt.raw)
          pure (0, pkt')
    | none =>
        let p := srvPprep pkt.raw TSRV_PKT_AUTH_REJECT 0 0
        let sendRet ← sendToClient sess (sent p)
        let (_, pkt') ← closeUdpSession { pkt with raw := p.1 } sess
        pure (if sendRet < 0 then sendRet else 0, pkt')

/-- udp_epoll.c:633-691: the length comes from the header of the packet. -/
def handleClpktTunData (pkt : ScPkt) (sess : Nat) : Srv Int := do
  let dataLen := pktLen pkt.raw
  if dataLen = 0 then
    pure 0
  else
    writeTun sess (pkt.raw.read 4 dataLen.toNat)

/-- udp_epoll.c:694-712. -/
def handleClpktReqsync (pkt : ScPkt) (sess : Nat) : Srv (Int × ScPkt) := do
  let p := srvPprepSync pkt.raw
  let sendRet ← sendToClient sess (sent p)
  pure (if sendRet < 0 then sendRet else 0, { pkt with raw := p.1 })

/-- udp_epoll.c:715-741. -/
def __handleEventFromUdp (o : ByteOrder) (pkt : ScPkt) (sess : Nat) : Srv (Int × ScPkt) := do
  let type := pktType pkt.raw
  if type = TCLI_PKT_HANDSHAKE then
    pure (0, pkt)
  else if type = TCLI_PKT_AUTH then
    handleClpktAuth o pkt sess
  else if type = TCLI_PKT_TUN_DATA then
    let ret ← handleClpktTunData pkt sess
    pure (ret, pkt)
  else if type = TCLI_PKT_REQSYNC then
    let (ret, pkt) ← handleClpktReqsync pkt sess
    udpSessUpdateLastAct sess
    pure (ret, pkt)
  else if type = TCLI_PKT_SYNC then
    udpSessUpdateLastAct sess
    pure (0, pkt)
  else if type = TCLI_PKT_CLOSE then
    let (_, pkt) ← closeUdpSession pkt sess
    pure (0, pkt)
  else
    pure (-EBADMSG, pkt)

/-- The periodic sync at the end of `_handle_event_from_udp`. -/
def bumpLoopC (ret : Int) (pkt : ScPkt) (sess : Nat) : Srv (Int × ScPkt) := do
  let loopC ← incLoopC sess
  if loopC % 32 = 0 then
    udpSessUpdateLastAct sess
    let p := srvPprepSync pkt.raw
    let _ ← sendToClient sess (sent p)
    pure (ret, { pkt with raw := p.1 })
  else
    pure (ret, pkt)

/-- What `_handle_event_from_udp` does with the result of the dispatcher: a bad packet
closes the session. -/
def finishEvent (ret : Int) (pkt : ScPkt) (sess : Nat) : Srv (Int × ScPkt) := do
  if ret < 0 then
    if ret = -EBADMSG then
      let (_, pkt) ← closeUdpSession pkt sess
      pure (0, pkt)
    else
      pure (ret, pkt)
  else
    bumpLoopC ret pkt sess

/-- udp_epoll.c:744-783. -/
def _handleEventFromUdp (o : ByteOrder) (pkt : ScPkt) (saddr : Endpoint) :
    Srv (Int × ScPkt) := do
  match ← lookupUdpSess saddr.addr saddr.port with
  | none => handleNewClient o pkt saddr
  | some sess =>
      let (ret, pkt) ← __handleEventFromUdp o pkt sess
      finishEvent ret pkt sess

/-- `do_recv_from`: the datagram lands in the buffer, cut to the 4096 bytes asked for. -/
def doRecvFrom (pkt : ScPkt) (data : List UInt8) : ScPkt where
  len := (data.take 4096).length
  raw := pkt.raw.write 0 (data.take 4096)

/-- udp_epoll.c:786-797: an empty datagram is ignored. -/
def handleEventFromUdp (o : ByteOrder) (pkt : ScPkt) (saddr : Endpoint) (data : List UInt8) :
    Srv (Int × ScPkt) :=
  if (doRecvFrom pkt data).len = 0 then pure (0, doRecvFrom pkt data)
  else _handleEventFromUdp o (doRecvFrom pkt data) saddr

/-! ## Packets from the TUN device (udp_epoll.c:800-905) -/

/-- udp_epoll.c:805-824; `none` is `-ENOENT` from the route map. -/
def routeIpv4Packet (dstAddr : UInt32) (data : List UInt8) : Srv Int := do
  match ← getIpv4RouteMap dstAddr with
  | none => pure (-ENOENT)
  | some idx =>
      let sendRet ← sendToClient idx.toNat data
      pure (if sendRet < 0 then sendRet else 0)

/-- udp_epoll.c:827-851: the loop over the slots stops at the first failing send. -/
def broadcastFrom (data : List UInt8) : List Nat → Srv Int
  | [] => pure 0
  | i :: is => do
      if ← loadIsAuthenticated i then
        let sendRet ← sendToClient i data
        if sendRet < 0 then pure sendRet else broadcastFrom data is
      else broadcastFrom data is

def broadcastPacket (maxConn : UInt16) (data : List UInt8) : Srv Int :=
  broadcastFrom data (List.range maxConn.toNat)

/-- The fields of the IP header at the start of the payload. -/
def ipVersion (b : Buf) : UInt8 := b 4 >>> 4
def ipDaddr (b : Buf) : UInt32 :=
  UInt32.ofNat ((((b 20).toNat * 256 + (b 21).toNat) * 256 + (b 22).toNat) * 256 + (b 23).toNat)

/-- udp_epoll.c:854-869. -/
def _routePacket (maxConn : UInt16) (raw : Buf) (data : List UInt8) : Srv Int := do
  if ipVersion raw = 4 then
    let ret ← routeIpv4Packet (ipDaddr raw) data
    if ret ≠ -ENOENT then pure ret else broadcastPacket maxConn data
  else broadcastPacket maxConn data

/-- udp_epoll.c:872-905, for a packet of the TUN device (at most 4096 bytes are read). -/
def handleEventFromTun (maxConn : UInt16) (pkt : ScPkt) (data : List UInt8) :
    Srv (Int × ScPkt) := do
  let raw := pkt.raw.write 4 (data.take 4096)
  let p := srvPprep raw TSRV_PKT_TUN_DATA (UInt16.ofNat (data.take 4096).length) 0
  let ret ← _routePacket maxConn p.1 (sent p)
  pure (ret, { len := (data.take 4096).length, raw := p.1 })

/-! ## The zombie reaper (udp_epoll.c:1035-1139) -/

def UDP_SESS_TIMEOUT_NO_AUTH : Int := 30
def UDP_SESS_TIMEOUT_AUTH : Int := 180

def zrSendReqsync (pkt : ScPkt) (sess : Nat) : Srv ScPkt := do
  let p := srvPprep pkt.raw TSRV_PKT_REQSYNC 0 0
  let _ ← sendToClient sess (sent p)
  pure { pkt with raw := p.1 }

/-- `while (i-- > 0) zr_send_reqsync(state, sess);` -/
def zrSendReqsyncs (sess : Nat) : Nat → ScPkt → Srv ScPkt
  | 0, pkt => pure pkt
  | i + 1, pkt => do
      let pkt ← zrSendReqsync pkt sess
      zrSendReqsyncs sess i pkt

def zrChkAuth (pkt : ScPkt) (sess : Nat) (timeDiff : Int) : Srv ScPkt := do
  if timeDiff > UDP_SESS_TIMEOUT_AUTH then
    let (_, pkt) ← zrCloseSess pkt sess
    pure pkt
  else if timeDiff > UDP_SESS_TIMEOUT_AUTH * 4 / 5 then zrSendReqsyncs sess 7 pkt
  else if timeDiff > UDP_SESS_TIMEOUT_AUTH * 3 / 5 then zrSendReqsyncs sess 5 pkt
  else if timeDiff > UDP_SESS_TIMEOUT_AUTH * 2 / 5 then zrSendReqsyncs sess 3 pkt
  else if timeDiff > UDP_SESS_TIMEOUT_AUTH * 1 / 5 then zrSendReqsyncs sess 1 pkt
  else pure pkt

def zrChkNoAuth (pkt : ScPkt) (sess : Nat) (timeDiff : Int) : Srv ScPkt := do
  if timeDiff > UDP_SESS_TIMEOUT_NO_AUTH then
    let (_, pkt) ← zrCloseSess pkt sess
    pure pkt
  else pure pkt

/-- The body of the scan for one slot. A failing clock leaves `time_diff` at zero. -/
def zrScanSlot (pkt : ScPkt) (sess : Nat) : Srv ScPkt := do
  if ← loadIsConnected sess then
    let now ← getUnixTime
    let lastAct ← loadLastAct sess
    let timeDiff := now.getD 0 - lastAct
    if ← loadIsAuthenticated sess then zrChkAuth pkt sess timeDiff
    else zrChkNoAuth pkt sess timeDiff
  else pure pkt

def zrScanFrom : List Nat → ScPkt → Srv ScPkt
  | [], pkt => pure pkt
  | i :: is, pkt => do
      let pkt ← zrScanSlot pkt i
      zrScanFrom is pkt

def zombieReaperDoScan (maxConn : UInt16) (pkt : ScPkt) : Srv ScPkt := do
  let n ← loadNOnSess
  if n = 0 then pure pkt
  else zrScanFrom (List.range maxConn.toNat) pkt

/-! ## Shutdown (udp_epoll.c:1355-1370) -/

def closeClientSessFrom : List Nat → ScPkt → Srv ScPkt
  | [], pkt => pure pkt
  | i :: is, pkt => do
      if ← loadIsConnected i then
        let (_, pkt) ← closeUdpSession pkt i
        closeClientSessFrom is pkt
      else closeClientSessFrom is pkt

def closeClientSess (maxConn : UInt16) (pkt : ScPkt) : Srv ScPkt :=
  closeClientSessFrom (List.range maxConn.toNat) pkt

end TeaVpn2.Srv
