import LorawanServer.CppRuntime
import LorawanServer.Records
import LorawanServer.Keystream
import LorawanServer.FrameCrypto
import LorawanServer.DataFrame
import LorawanServer.FrameAuthenticity
import LorawanServer.FrameBuilders
import LorawanServer.FrameRoundTrip
import LorawanServer.DeviceHistory
import LorawanServer.StepRun
import LorawanServer.PacketHandler
import LorawanServer.FieldBoundaries
import LorawanServer.PacketReplies
import LorawanServer.ReplyCounters
import LorawanServer.CounterInterleaving
import LorawanServer.Base64
import LorawanServer.Datagram
import LorawanServer.Listener
import LorawanServer.DatagramSafety
import LorawanServer.PacketDispatch
import LorawanServer.SimulatedUplink
import LorawanServer.PacketQueue
import LorawanServer.QueueService
import LorawanServer.KeyedFifo
import LorawanServer.QueueOrder
import LorawanServer.Acknowledgement
import LorawanServer.UsbListener
import LorawanServer.PacketSources
import LorawanServer.JoinReplies
import LorawanServer.ReplyReception
import LorawanServer.JoinWindows
import LorawanServer.JoinAnswers
import LorawanServer.BitFields
import LorawanServer.DeviceAddress
import LorawanServer.FreeSearch
import LorawanServer.IdentityStore
import LorawanServer.AddressAllocation
import LorawanServer.JoinBinding
import LorawanServer.LmdbStore
import LorawanServer.IdentityLookups
import LorawanServer.IdentityText
import LorawanServer.JsonEvents
import LorawanServer.IdentityFile
import LorawanServer.IdentityRights
import LorawanServer.JsonLexing
import LorawanServer.IdentityRoundTrip
import LorawanServer.IdentityNames
import LorawanServer.Deduplication
import LorawanServer.DatabaseDelivery
import LorawanServer.ReceiverQueueFile
import LorawanServer.ReceiverQueueRoundTrip
import LorawanServer.DatabasePass
import LorawanServer.StoredFirst
import LorawanServer.LoggingEffects
import LorawanServer.DeliverableHead
import LorawanServer.QueueCollision
import LorawanServer.PreparedPayloads
import LorawanServer.QueueDrain
import LorawanServer.StatFile
import LorawanServer.DirTxtQueue
import LorawanServer.QueueAgreement
import LorawanServer.JsonWriting
import LorawanServer.ChannelPlan
import LorawanServer.ChannelPlanFile
import LorawanServer.ChannelPlanIndex
import LorawanServer.ChannelPlanMoves
import LorawanServer.ChannelPlanArrays
import LorawanServer.ChannelPlanRoundTrip
import LorawanServer.MacCommands
import LorawanServer.StreamCutting
import LorawanServer.MacReencoding
import LorawanServer.MacPointers
import LorawanServer.AddressParts
import LorawanServer.AddressOwnership
import LorawanServer.LongPayloads
import LorawanServer.JoinAcceptCipher
import LorawanServer.KeyDerivation
import LorawanServer.JoinIntegrity
import LorawanServer.AppendedMacs
import LorawanServer.AddressSteps
import LorawanServer.RefusedAddresses
import LorawanServer.JsonTree
import LorawanServer.FrequencyText
import LorawanServer.ReceptionText
import LorawanServer.BestReception
import LorawanServer.QueueTimeout
import LorawanServer.QueueRunner
import LorawanServer.TextSearch
import LorawanServer.TxAcknowledgement
import LorawanServer.ListWindows
import LorawanServer.Paging
import LorawanServer.OrderedMaps
import LorawanServer.PositionalAccess
import LorawanServer.Gateways
import LorawanServer.GatewayFile
import LorawanServer.SkippedNumbers
import LorawanServer.GpsTime
import LorawanServer.MacSetters
import LorawanServer.MacRequests
import LorawanServer.BaseNumbers
import LorawanServer.CommandLines
import LorawanServer.MacCommandLine
import LorawanServer.DeviceHistoryFile
import LorawanServer.ServerConfiguration
import LorawanServer.SendTimes
import LorawanServer.IdentifierCodecs
import LorawanServer.PlanDocument
import LorawanServer.PlanPlaces
import LorawanServer.PlanDocumentMoves
import LorawanServer.PlanOrder
import LorawanServer.GatewayConcentrator
import LorawanServer.ConcentratorRewriting
import LorawanServer.ConcentratorChannels
import LorawanServer.GatewaySections
import LorawanServer.GatewayRewriting
import LorawanServer.ClockCircle
import LorawanServer.JustInTime
import LorawanServer.SwapRemoval
import LorawanServer.JitNodes
import LorawanServer.JitRuns
import LorawanServer.JitAirtime
import LorawanServer.JitOrder
import LorawanServer.JitPeek
import LorawanServer.JitRunner
import LorawanServer.JitMissed
import LorawanServer.JitSlots
import LorawanServer.XorLinear
import LorawanServer.Aes
import LorawanServer.Cmac
import LorawanServer.CyclicCode
import LorawanServer.Beacon
import LorawanServer.BeaconSchedule
import LorawanServer.TxPackets
import LorawanServer.UpstreamBatches
import LorawanServer.ReceivedFrames
import LorawanServer.NetworkServer
import LorawanServer.ServerRouting
import LorawanServer.ServerReplies
