import LorawanServer.Listener

/-!
# The USB listener

The callback `onUpstream` of an attached gateway builds its packet with a
constructor of its own. The configured gateway identifier goes into the prefix
in network order and is turned back for the reception; the structure
`SEMTECH_PROTOCOL_METADATA` has the members of `rfmMetaData`. The log text and
the statistics of the callback stay outside.
-/

namespace LorawanServer.UsbListener

open CppRuntime FrameCrypto Records DataFrame Datagram PacketHandler Listener

/-- `deveui2int`. -/
def deveui2int (value : DEVEUI) : UInt64 := UInt64.ofNat (swapBytes 8 value.toNat)

/-- `int2deveui`. -/
def int2deveui (value : UInt64) : DEVEUI := UInt64.ofNat (swapBytes 8 value.toNat)

/-- The reversed identifier is reversed back. -/
theorem deveui2int_int2deveui (value : UInt64) : deveui2int (int2deveui value)=value := by
  have hs : (UInt64.ofNat (swapBytes 8 value.toNat)).toNat=swapBytes 8 value.toNat := by
    rw [UInt64.toNat_ofNat']
    exact Nat.mod_eq_of_lt (swapBytes_lt 8 value.toNat)
  rw [deveui2int,int2deveui,hs,swapBytes_swapBytes value.toNat_lt,UInt64.ofNat_toNat]

/-- The prefix that `onUpstream` makes up for the configured gateway. -/
def usbPrefix (gatewayId : UInt64) : SemtechPrefixGw := ⟨2,0,0,int2deveui gatewayId⟩

/-- The constructor of `SemtechUDPPacket` behind a prefix and the reception of
the attached gateway. -/
def upstreamPacket (crypto : Crypto) (identityService : Option IdentityService) (aPrefix : SemtechPrefixGw)
    (m : RfmMetaData) (payload : Bytes) : Except Fault SemtechUDPPacket := do
  let packet := {newPacket aPrefix m with metadata := [{m with gatewayId := deveui2int aPrefix.mac}]}
  let result ← parseData crypto identityService packet payload
  return {result.1 with errcode := result.2}

/-- `onUpstream`: the calls to the packet handler. `putUnidentified` only writes
to the log. -/
def onUpstream (crypto : Crypto) (identityService : Option IdentityService) (receivedTime : Timeval)
    (gatewayId : UInt64) (m : RfmMetaData) (payload : Bytes) : Except Fault (List Call) := do
  let packet ← upstreamPacket crypto identityService (usbPrefix gatewayId) m payload
  return if packet.errcode≠LORA_OK then [] else [.put receivedTime packet]

/-- The packet of the attached gateway is the one of a datagram from the same
gateway, but for its prefix. -/
theorem upstreamPacket_eq (crypto : Crypto) (identityService : Option IdentityService) {gw : SemtechPrefixGw}
    {gatewayId : UInt64} (hg : gw.mac=gatewayId) (m : RfmMetaData) (payload : Bytes) :
    upstreamPacket crypto identityService (usbPrefix gatewayId) m payload=
      (received crypto identityService gw m payload).map fun packet =>
        {packet with gwPrefix := usbPrefix gatewayId} := by
  have hp : ({newPacket (usbPrefix gatewayId) m with
      metadata := [{m with gatewayId := deveui2int (usbPrefix gatewayId).mac}]} : SemtechUDPPacket)=
      withOrigin (newPacket gw m).metadata (usbPrefix gatewayId) (newPacket gw m) := by
    have hm : deveui2int (usbPrefix gatewayId).mac=gw.mac := by
      rw [hg]
      exact deveui2int_int2deveui gatewayId
    rw [hm]
    rfl
  unfold upstreamPacket received
  rw [hp]
  dsimp only
  rw [parseData_withOrigin]
  cases hr : parseData crypto identityService (newPacket gw m) payload with
  | error fault => rfl
  | ok result =>
    have ho := (parseData_origin hr).1
    change Except.ok _=Except.ok _
    rw [←ho]
    rfl

end LorawanServer.UsbListener
