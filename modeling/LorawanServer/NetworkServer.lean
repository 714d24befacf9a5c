import LorawanServer.JoinReplies
import LorawanServer.PacketQueue
import LorawanServer.ReceivedFrames
import LorawanServer.StepRun

/-!
# The network server

Listener, packet handler, packet queue and sender together, for any number of
gateways. The listener hands the packets of a datagram to the handler, which pushes
into the queue; the sender takes what is due and answers through a gateway of the
list. The two threads meet at the queue, so that datagrams may come between the
call that takes an item and its reply. Other threads may change the stored
identities at any time.
-/

namespace LorawanServer.NetworkServer

open CppRuntime FrameCrypto Records DataFrame FrameBuilders DeviceHistory PacketHandler PacketReplies JoinReplies
open PacketQueue Listener ReceivedFrames StepRun
open Datagram hiding GatewayStat

variable {Address : Type*}

/-- What stays the same while the server runs. The identity service and the gateways
of the handler and of the sender are those of the state. -/
structure Config where
  /-- What the listener takes from its host. -/
  host : Host
  /-- The packet handler. -/
  processor : LoraPacketProcessor
  /-- Content of the frequency that the handler does not initialise without a plan. -/
  uninitialised : UInt32
  /-- What the sender finds around the queue. -/
  env : JoinEnvironment

/-- Content of a datagram of the server. -/
inductive Message where
  /-- An acknowledgement. -/
  | ack (datagram : Bytes)
  /-- A reply for an item of the queue. -/
  | reply (item : SemtechUDPPacketItem) (response : Option PullResp)
  deriving DecidableEq

/-- A call of `sendto`. -/
structure Sent (Address : Type*) where
  /-- The socket. -/
  socket : ℤ
  /-- Where the datagram goes. -/
  address : Address
  /-- The datagram. -/
  message : Message

/-- The state of the server. -/
structure Server (Address : Type*) where
  /-- The gateway list. -/
  gateways : Std.TreeMap UInt64 GatewayStat
  /-- The member `sockaddr` of each gateway of the list. -/
  sockaddr : UInt64 → Address
  /-- The identity service. -/
  identityService : Option IdentityService
  /-- The device history. -/
  history : Storage
  /-- Packets pushed into the receiver queue. -/
  receiver : List (SemtechUDPPacket×Timeval)
  /-- The packet queue. -/
  queue : Queue
  /-- The item that the sender took and has not answered, with the time it read. -/
  item : Option (SemtechUDPPacketItem×Timeval)
  /-- Datagrams sent, oldest first. -/
  sent : List (Sent Address)
  /-- Whether the process is still there. -/
  alive : Bool

/-- The server before its first datagram. -/
def Server.start (gateways : Std.TreeMap UInt64 GatewayStat) (sockaddr : UInt64 → Address)
    (identityService : Option IdentityService) (history : Storage) : Server Address :=
  ⟨gateways,sockaddr,identityService,history,[],.empty,none,[],true⟩

/-- What happens to the server. -/
inductive Event (Address : Type*) where
  /-- The listener reads a datagram. -/
  | datagram (socket : ℤ) (address : Address) (receivedTime : Timeval) (buffer : Bytes)
  /-- The sender calls `getFirstExpired`. -/
  | take (now : Timeval)
  /-- The sender answers the item that it took. -/
  | reply
  /-- Identities are stored or removed. -/
  | identities (identityService : Option IdentityService)

/-- The packet handler at this moment. -/
def processor (config : Config) (s : Server Address) : LoraPacketProcessor :=
  {config.processor with identityService := s.identityService}

/-- What the sender finds at this moment. -/
def environment (config : Config) (s : Server Address) : JoinEnvironment :=
  {config.env with identityService := s.identityService,gatewayList := some s.gateways}

/-- What the handler works on. -/
def services (s : Server Address) : Services := ⟨some s.history,[],s.receiver⟩

/-- The server behind a call of the handler. A fault ends the process. -/
def handled (s : Server Address) : Except Fault (Services×SemtechUDPPacket×ℤ) → Server Address
  | .ok (services,_,_) => {s with
      history := services.history.getD s.history
      receiver := services.receiver
      queue := services.queue.foldl push s.queue}
  | .error _ => {s with alive := false}

/-- `GatewayList::setSocketAddress`. -/
def setSocketAddress (s : Server Address) (socket : ℤ) (address : Address) (gwId : UInt64) : Server Address :=
  match s.gateways[gwId]? with
  | none => s
  | some stat => {s with
      gateways := s.gateways.insert gwId {stat with socket := socket}
      sockaddr := Function.update s.sockaddr gwId address}

/-- A call of the listener, as long as the process is there. -/
def call (config : Config) (socket : ℤ) (address : Address) (s : Server Address) (c : Call) : Server Address :=
  if s.alive=false then s
  else match c with
    | .ack dataPrefix => {s with sent := s.sent++[⟨socket,address,.ack (PacketQueue.ack dataPrefix)⟩]}
    | .put time value => handled s (PacketHandler.put (processor config s) (services s) time value)
    | .join time value =>
      handled s (PacketHandler.join (processor config s) config.uninitialised (services s) time value)
    | .setSocketAddress gwId => setSocketAddress s socket address gwId
    | .copyId _ => s

/-- `UDPListener::parseBuffer` and its calls. The read behind a transmission
acknowledgement stays in the memory of the buffer and chooses a log text only; the
other faults end the process. -/
def receive (config : Config) (s : Server Address) (socket : ℤ) (address : Address) (receivedTime : Timeval)
    (buffer : Bytes) : Server Address :=
  match parseBuffer config.host config.env.crypto s.identityService receivedTime buffer with
  | .ok result => result.calls.foldl (call config socket address) s
  | .error .readOutside => s
  | .error _ => {s with alive := false}

/-- The next `getFirstExpired` of `PacketQueue::runner`, behind the last reply. -/
def take (s : Server Address) (now : Timeval) : Server Address :=
  match s.item with
  | some _ => s
  | none =>
    let taken := getFirstExpired s.queue now
    {s with item := taken.1.map (fun item => (item,now)),queue := taken.2}

/-- The gateway through which an item is answered. A control packet may name one. -/
def replyGateway (item : SemtechUDPPacketItem) : UInt64 :=
  match item.processMode with
  | .controlNs =>
    if (controlPacket item.packet.payload).gwid=0 then getBestGatewayAddress item.packet
    else (controlPacket item.packet.payload).gwid
  | _ => getBestGatewayAddress item.packet

/-- The `switch` of `PacketQueue::runner`: the history behind it and what is sent.
Nothing pushes an item of the two other modes. -/
def answer (config : Config) (s : Server Address) (item : SemtechUDPPacketItem) (t : Timeval) :
    Storage×Option SendTo :=
  match item.processMode with
  | .replyMac =>
    let reply := replyMAC (environment config s).toEnvironment s.history item t
    (reply.storage,reply.sendto)
  | .joinResponse =>
    let reply := replyJoinRequest (environment config s) (some s.history) item t
    (reply.history.getD s.history,reply.sendto)
  | .controlNs =>
    let reply := replyControl (environment config s).toEnvironment s.history item t
    (reply.storage,reply.sendto)
  | .ack | .none => (s.history,none)

/-- The sender answers the item that it took. -/
def reply (config : Config) (s : Server Address) : Server Address :=
  match s.item with
  | none => s
  | some (item,t) =>
    let answered := answer config s item t
    {s with
      item := none
      history := answered.1
      sent := s.sent++(answered.2.map fun sendto =>
        ⟨sendto.socket,s.sockaddr (replyGateway item),.reply item sendto.response⟩).toList}

/-- The server behind an event. -/
def step (config : Config) (s : Server Address) (e : Event Address) : Server Address :=
  if s.alive=false then s
  else match e with
    | .datagram socket address receivedTime buffer => receive config s socket address receivedTime buffer
    | .take now => take s now
    | .reply => reply config s
    | .identities identityService => {s with identityService := identityService}

end LorawanServer.NetworkServer
