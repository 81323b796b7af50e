import NiusZigbee.Library.ByteCodec
import NiusZigbee.Library.OutBuffer
import NiusZigbee.Library.ByteSize
import NiusZigbee.Library.Delimited
import NiusZigbee.Library.SlotTable
import NiusZigbee.Library.BoundedSet
import NiusZigbee.Library.FifoSet
import NiusZigbee.Library.HighWater
import NiusZigbee.Library.Descent
import NiusZigbee.Library.Relaxation
import NiusZigbee.Library.Runs
import NiusZigbee.Library.Clock
import NiusZigbee.Library.Recency
import NiusZigbee.Library.Shortlist
import NiusZigbee.Library.Transducer
import NiusZigbee.Library.Windows
import NiusZigbee.Library.Records
import NiusZigbee.Library.Latest
import NiusZigbee.Library.Ccm
import NiusZigbee.Library.Crc
import NiusZigbee.Library.Scratch
import NiusZigbee.Library.MontgomeryCurve
import NiusZigbee.Library.MontgomeryLadder
import NiusZigbee.Library.Limbs
import NiusZigbee.Library.LittleEndian
import NiusZigbee.Library.WireFormat
import NiusZigbee.Nwk.DataFrame
import NiusZigbee.Nwk.Command
import NiusZigbee.Nwk.Bounds
import NiusZigbee.Nwk.Payload
import NiusZigbee.Nwk.RoundTrip
import NiusZigbee.Nwk.BroadcastTable
import NiusZigbee.Routing.SourceRouteTable
import NiusZigbee.Routing.SourceRoute
import NiusZigbee.Routing.RouteTable
import NiusZigbee.Routing.Discovery
import NiusZigbee.Routing.RouteCost
import NiusZigbee.Routing.DiscoveryRuns
import NiusZigbee.Routing.Network
import NiusZigbee.Routing.ReversePath
import NiusZigbee.Routing.ForwardPath
import NiusZigbee.Routing.ShortestPaths
import NiusZigbee.Radio.Limits
import NiusZigbee.Routing.DataPlane
import NiusZigbee.Routing.ReturnPath
import NiusZigbee.Routing.RouteRecord
import NiusZigbee.Routing.DiscoveredRoutes
import NiusZigbee.Security.CcmStar
import NiusZigbee.Security.Aes128
import NiusZigbee.Security.NwkSecurity
import NiusZigbee.Security.OpenSecured
import NiusZigbee.Security.Replay
import NiusZigbee.Security.KeyRotation
import NiusZigbee.Security.PeerReset
import NiusZigbee.Security.AuthCoverage
import NiusZigbee.Security.CcmLoops
import NiusZigbee.Security.CcmMode
import NiusZigbee.Security.Curve25519
import NiusZigbee.Security.Curve25519Prime
import NiusZigbee.Security.Curve25519Ladder
import NiusZigbee.Security.Curve25519Checked
import NiusZigbee.Security.X25519
import NiusZigbee.Security.Speke
import NiusZigbee.Security.AesMmo
import NiusZigbee.Security.InstallCode
import NiusZigbee.Security.InstallCodeErrors
import NiusZigbee.Security.TcLinkKeyStore
import NiusZigbee.Security.Aes128Decrypt
import NiusZigbee.Security.Touchlink
import NiusZigbee.Security.TouchlinkCommands
import NiusZigbee.Mac.Frame
import NiusZigbee.Mac.Codec
import NiusZigbee.Mac.RoundTrip
import NiusZigbee.Mac.InterPan
import NiusZigbee.Mac.IndirectQueue
import NiusZigbee.Aps.Frame
import NiusZigbee.Aps.Retransmit
import NiusZigbee.Aps.DuplicateTable
import NiusZigbee.Aps.AckedDelivery
import NiusZigbee.Aps.RetransmitRuns
import NiusZigbee.Aps.Fragment
import NiusZigbee.Aps.Reassembly
import NiusZigbee.Aps.FragmentParsers
import NiusZigbee.Aps.FragmentCover
import NiusZigbee.Aps.Security
import NiusZigbee.Aps.KeyCommands
import NiusZigbee.Aps.SecureJoin
import NiusZigbee.Aps.KeyDelivery
import NiusZigbee.Aps.KeySchedule
import NiusZigbee.Aps.BindingTable
import NiusZigbee.Aps.FindingBinding
import NiusZigbee.Zcl.Frame
import NiusZigbee.Zcl.Clusters
import NiusZigbee.Zcl.GroupSet
import NiusZigbee.Zcl.Light
import NiusZigbee.Zcl.ReadAttributes
import NiusZigbee.Zcl.Reporting
import NiusZigbee.Zcl.Ota
import NiusZigbee.Zcl.OtaUpgrade
import NiusZigbee.Zcl.Thermostat
import NiusZigbee.Zdo.Frame
import NiusZigbee.Zdo.Device
import NiusZigbee.Zdo.Bounds
import NiusZigbee.Zdo.Payload
import NiusZigbee.Zdo.RoundTrip
import NiusZigbee.Zdo.MatchDescriptor
import NiusZigbee.Radio.SecuredNpdu
import NiusZigbee.Radio.Driver
import NiusZigbee.Radio.SecurityGate
import NiusZigbee.Radio.Host
import NiusZigbee.Radio.PassiveCallbacks
import NiusZigbee.Radio.Reentry
import NiusZigbee.Radio.Uart
import NiusZigbee.Radio.Firmware
import NiusZigbee.Radio.UartLink
import NiusZigbee.Radio.Delivery
import NiusZigbee.Radio.ZnpFraming
import NiusZigbee.Radio.ZnpBuffer
import NiusZigbee.Radio.FirmwareTx
import NiusZigbee.Radio.Promiscuous
import NiusZigbee.Radio.Transmit
import NiusZigbee.Radio.PowerCycles
import NiusZigbee.Radio.Listening
import NiusZigbee.Routing.DriverLink
import NiusZigbee.Network.NeighborTable
import NiusZigbee.Network.AddressAllocator
import NiusZigbee.Network.Membership
import NiusZigbee.Network.ChildAddresses
import NiusZigbee.Network.Admission
import NiusZigbee.Network.AddressPool
import NiusZigbee.Network.Formation
import NiusZigbee.Network.PermitJoin
import NiusZigbee.Network.NeighborKeys
import NiusZigbee.Network.Eviction
import NiusZigbee.Network.Displacement
import NiusZigbee.Network.ParentLoss
import NiusZigbee.Network.ParentSelection
import NiusZigbee.Network.NetworkUpdate
import NiusZigbee.Network.UpdateParsers
import NiusZigbee.Network.PanIdSelection
import NiusZigbee.Network.LinkStatus
import NiusZigbee.Network.Persistence
import NiusZigbee.Network.Commissioning
import NiusZigbee.GreenPower.Gpdf
import NiusZigbee.GreenPower.SinkTable
import NiusZigbee.GreenPower.Cluster
import NiusZigbee.GreenPower.Proxy
import NiusZigbee.GreenPower.EndToEnd
import NiusZigbee.GreenPower.SinkSecurity
import NiusZigbee.GreenPower.RejectedNotification
import NiusZigbee.GreenPower.GpdfHeader
import NiusZigbee.GreenPower.GpdfRoundTrip
import NiusZigbee.GreenPower.ClusterRoundTrip
import NiusZigbee.GreenPower.ProxyForward
import NiusZigbee.GreenPower.ProxyCounter
import NiusZigbee.Network.ValidFlags
