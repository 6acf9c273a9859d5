import RustyRouter.Octets
import RustyRouter.OnesComplement
import RustyRouter.Checked
import RustyRouter.HashMap
import RustyRouter.NetAddr
import RustyRouter.ProtoCommon
import RustyRouter.ChecksumClass
import RustyRouter.PartialSum
import RustyRouter.IncrementalChecksum
import RustyRouter.OspfHeader
import RustyRouter.OspfChecksum
import RustyRouter.OspfRead
import RustyRouter.OspfAcceptance
import RustyRouter.OspfHello
import RustyRouter.OspfHelloRoundTrip
import RustyRouter.OspfHelloAcceptance
import RustyRouter.OspfHelloEncoding
import RustyRouter.Ipv4Header
import RustyRouter.Ipv4RoundTrip
import RustyRouter.Ipv4Layout
import RustyRouter.Ipv4Checksum
import RustyRouter.ParserSafety
import RustyRouter.NetlinkMessage
import RustyRouter.NetlinkSocket
import RustyRouter.NetlinkReceive
import RustyRouter.NetlinkDump
import RustyRouter.KeyedStore
import RustyRouter.RouterModel
import RustyRouter.NetlinkProcessor
import RustyRouter.StatusTable
import RustyRouter.Removal
import RustyRouter.StatusCoherence
import RustyRouter.Eviction
import RustyRouter.InterfacePoll
import RustyRouter.InterfaceListener
import RustyRouter.Reconciliation
import RustyRouter.PolledLinks
import RustyRouter.PolledInterfaces
import RustyRouter.ManagerStep
import RustyRouter.ManagerInvariant
import RustyRouter.IndexlessInterfaces
import RustyRouter.LinkEvents
import RustyRouter.PollReference
import RustyRouter.AntiEntropy
import RustyRouter.ConfiguredListed
import RustyRouter.NewerEvents
import RustyRouter.Subscribers
import RustyRouter.PublishOrder
import RustyRouter.Delivery
import RustyRouter.EventEntries
import RustyRouter.EventsCommute
import RustyRouter.AddressSets
import RustyRouter.ConnectIpv4
import RustyRouter.TablesAgree
import RustyRouter.GoneAnnounced
import RustyRouter.KernelState
import RustyRouter.KernelChange
import RustyRouter.EventsAgree
import RustyRouter.Poller
import RustyRouter.Registrations
import RustyRouter.LockSystem
import RustyRouter.LockLogic
import RustyRouter.ManagerTasks
import RustyRouter.ManagerLocks
import RustyRouter.NetlinkSession
import RustyRouter.WorkerSession
import RustyRouter.Ipv4Send
import RustyRouter.Settling
import RustyRouter.PollerSteps
import RustyRouter.PollerOwners
import RustyRouter.SocketClosing
import RustyRouter.OspfResponder
import RustyRouter.ResponderRest
import RustyRouter.LinkListing
