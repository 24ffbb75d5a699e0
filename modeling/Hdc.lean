import Hdc.Aead
import Hdc.AppDaemon
import Hdc.AppHost
import Hdc.AppPack
import Hdc.ArgPanics
import Hdc.AuthGate
import Hdc.AuthNops
import Hdc.AuthTlv
import Hdc.Backoff
import Hdc.Bytes
import Hdc.ChannelHandshake
import Hdc.ChannelMessages
import Hdc.CharBoundary
import Hdc.ClientLoops
import Hdc.CommandHop
import Hdc.CommandSearch
import Hdc.CompleteMessages
import Hdc.Config
import Hdc.ConnectMap
import Hdc.DaemonForward
import Hdc.DaemonProcess
import Hdc.DaemonReceive
import Hdc.DaemonRelease
import Hdc.DaemonSessions
import Hdc.DaemonTasks
import Hdc.Decimal
import Hdc.DispatchTask
import Hdc.EchoPaths
import Hdc.Encrypt
import Hdc.Feed
import Hdc.Feeder
import Hdc.FileChunk
import Hdc.FileDaemon
import Hdc.FileExchange
import Hdc.FileHost
import Hdc.FilePaths
import Hdc.FileReceive
import Hdc.FileSendOrder
import Hdc.FlashdExchange
import Hdc.ForwardCopy
import Hdc.ForwardLink
import Hdc.ForwardMap
import Hdc.ForwardMessages
import Hdc.ForwardRegistrations
import Hdc.ForwardRemoval
import Hdc.ForwardSession
import Hdc.ForwardSetup
import Hdc.ForwardSlot
import Hdc.ForwardTable
import Hdc.Fport
import Hdc.Handshake
import Hdc.HandshakeAgreement
import Hdc.InstallCleanup
import Hdc.InstallExchange
import Hdc.ListenAddr
import Hdc.LiveSessions
import Hdc.Lts
import Hdc.Messages
import Hdc.NetAddr
import Hdc.Nonces
import Hdc.OneShot
import Hdc.Packet
import Hdc.Parser
import Hdc.PtyBridge
import Hdc.ReaderRouting
import Hdc.ReconnectHistory
import Hdc.Records
import Hdc.ResolvedSessions
import Hdc.RoundTrip
import Hdc.Rport
import Hdc.RportFaithful
import Hdc.RportLink
import Hdc.RportSetup
import Hdc.RustStd
import Hdc.SecureChannel
import Hdc.ServerFork
import Hdc.ServerHandlers
import Hdc.ServerMaps
import Hdc.SessionExchange
import Hdc.SessionIds
import Hdc.SessionReader
import Hdc.SessionTeardown
import Hdc.Tcp
import Hdc.TcpBookkeeping
import Hdc.TcpConnect
import Hdc.Tlv
import Hdc.TransportIndependence
import Hdc.Undelivered
import Hdc.Usb
import Hdc.UsbFraming
import Hdc.UsbMonitor
import Hdc.Varint
