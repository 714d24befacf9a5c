import LorawanServer.Datagram
import LorawanServer.PacketHandler

/-!
# The UDP listener

`UDPListener::parseBuffer` for one received datagram. Its effect is the list
of calls it makes, in order, to the packet handler and to the gateway list;
both and the logger are attached. Log texts and statistics dumps stay outside.
-/

namespace LorawanServer.Listener

open CppRuntime FrameCrypto Records Datagram PacketHandler

/-- A call of the listener to one of its collaborators. The socket and the
gateway address are the same for all calls of a datagram. -/
inductive Call where
  /-- `handler->ack`. -/
  | ack (dataPrefix : SemtechPrefixGw)
  /-- `handler->put`. -/
  | put (time : Timeval) (value : SemtechUDPPacket)
  /-- `handler->join`. -/
  | join (time : Timeval) (value : SemtechUDPPacket)
  /-- `gatewayList->setSocketAddress`. -/
  | setSocketAddress (gwId : DEVEUI)
  /-- `gatewayList->copyId`. -/
  | copyId (gatewayStat : GatewayStat)
  deriving DecidableEq

/-- Position of a text in another from the given position on. -/
def findFrom (text pattern : Bytes) (position : ℕ) : Option ℕ :=
  ((List.range (text.length+1)).filter fun i => position≤ i && pattern.isPrefixOf (text.drop i)).head?

/-- Names of the transmission errors; the position is the code. -/
def txAckCodes : List String :=
  ["","TOO_LATE","TOO_EARLY","FULL","EMPTY","COLLISION_PACKET","COLLISION_BEACON","TX_FREQ","TX_POWER",
    "GPS_UNLOCKED","UNKNOWN"]

/-- `extractTXAckCode`. The string behind the prefix is made with the size of
the whole datagram. -/
def extractTXAckCode (buffer : Bytes) (sz : ℕ) : Except Fault ℕ :=
  if sz<12 ∨ buffer.getD 3 0≠5 then .ok 0
  else do
    let s ← readBytes (buffer.drop 12) sz
    match (findFrom s (ascii "txpk_ack") 0).bind (findFrom s (ascii "error")) with
    | none => return 0
    | some p =>
      let found := (List.range 11).filter fun i =>
        1≤ i && (findFrom s (ascii (txAckCodes.getD i "")) p).isSome
      return found.headD 0

/-- Codes for which `parseBuffer` only writes to the log, or does nothing. -/
def isSilent (pr : ℤ) : Bool :=
  decide (pr∈[ERR_CODE_IS_JOIN,ERR_CODE_PACKET_TOO_SHORT,ERR_CODE_INVALID_PROTOCOL_VERSION,
    ERR_CODE_NO_GATEWAY_STAT,ERR_CODE_INVALID_STAT,ERR_CODE_INVALID_PACKET,ERR_CODE_INVALID_JSON,
    ERR_CODE_PULLOUT])

/-- The last part of `parseBuffer`: the data packets go to the handler, packets
with an error code only to the log. -/
def putPackets (time : Timeval) (packets : List SemtechUDPPacket) (pr : ℤ) : List Call :=
  if isSilent pr then [] else (packets.filter fun packet => packet.errcode=LORA_OK).map (Call.put time)

/-- Behind the packets the statistics of a PUSH_DATA go to the gateway list. The
other tags leave no statistics. -/
def reflectStat (gatewayStat : GatewayStat) (pr : ℤ) : List Call :=
  if isSilent pr then [] else if gatewayStat.errcode=0 then [.copyId gatewayStat] else []

/-- What the listener does at once for a PUSH_DATA: it acknowledges, and the
first packet is handed over as the join request. -/
def answerPushData (time : Timeval) (result : ParseResult) : List Call :=
  if result.code=LORA_OK then [.ack result.retPrefix]
  else if result.code=ERR_CODE_IS_JOIN then
    .ack result.retPrefix::(result.retPackets.head?.map (Call.join time)).toList
  else []

/-- Calls and returned code of `parseBuffer`. -/
structure BufferResult where
  /-- Calls to the collaborators. -/
  calls : List Call
  /-- The returned code. -/
  code : ℤ
  deriving DecidableEq

/-- `UDPListener::parseBuffer` over the received bytes. -/
def parseBuffer (host : Host) (crypto : Crypto) (identityService : Option IdentityService)
    (receivedTime : Timeval) (buffer : Bytes) : Except Fault BufferResult :=
  if buffer.length<4 then .ok ⟨putPackets receivedTime [] ERR_CODE_PACKET_TOO_SHORT,ERR_CODE_PACKET_TOO_SHORT⟩
  else match (buffer.getD 3 0).toNat with
    | 0 => do
      let result ← parse host crypto identityService host.dataPrefix GatewayStat.empty buffer
      return ⟨answerPushData receivedTime result++putPackets receivedTime result.retPackets result.code++
        reflectStat result.retGWStat result.code,result.code⟩
    | 2 =>
      let (dataPrefix,pr) := parsePrefixGw host.dataPrefix buffer
      let calls := if pr=LORA_OK then [.ack dataPrefix,.setSocketAddress dataPrefix.mac] else []
      .ok ⟨calls++putPackets receivedTime [] pr,pr⟩
    | 5 =>
      let (_,pr) := parsePrefixGw host.dataPrefix buffer
      if pr≠LORA_OK then .ok ⟨putPackets receivedTime [] pr,pr⟩
      else do
        -- the code only selects the log text
        let _ ← extractTXAckCode buffer buffer.length
        return ⟨putPackets receivedTime [] LORA_OK,LORA_OK⟩
    | _ => .ok ⟨putPackets receivedTime [] ERR_CODE_INVALID_PACKET,ERR_CODE_INVALID_PACKET⟩

end LorawanServer.Listener
