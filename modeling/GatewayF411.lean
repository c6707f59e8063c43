import GatewayF411.SenderCheck
import GatewayF411.ValveControl
import GatewayF411.DeviceMap
import GatewayF411.MainLimit
import GatewayF411.PowerLoss
import GatewayF411.Reboot
import GatewayF411.SyncReply
import GatewayF411.OtaCommit
import GatewayF411.OtaImage
import GatewayF411.RadioFifo
import GatewayF411.FrameFields
import GatewayF411.Orphans
import GatewayF411.PresenceRun
import GatewayF411.UartRing
import GatewayF411.UartRoundTrip
import GatewayF411.MainCount
import GatewayF411.OtaAck
import GatewayF411.Registration
import GatewayF411.SlotReuse
import GatewayF411.Rebind
import GatewayF411.FactoryReset
import GatewayF411.SyncBudget
import GatewayF411.HeartRounds
import GatewayF411.RadioReceive
import GatewayF411.RadioChunks
import GatewayF411.RadioPower
import GatewayF411.RadioEncoder
import GatewayF411.SubdevList
import GatewayF411.MirrorBound
import GatewayF411.UartFrames
import GatewayF411.DataIssued
import GatewayF411.KeyResponse
import GatewayF411.KeySystem
import GatewayF411.CJsonRoundTrip
import GatewayF411.CloudLink
import GatewayF411.CloudOrders
