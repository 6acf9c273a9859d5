/-
# Kernel events (`InterfaceManagerNetlinkSocketListener::message_received`)

An event is a netlink message with the clock readings of the items it makes.
Its handling, all under the database lock, gives the next database and the
updates that are sent to the subscribers: only `NewLink` sends any.
-/
import RustyRouter.InterfacePoll

namespace RustyRouter

/-- A message of the kernel, and the clock readings of a link item and of an interface item made
while it is handled. -/
structure Event where
  message : NetlinkMessage
  linkNow : Instant
  interfaceNow : Instant

namespace InterfaceManagerNetlinkSocketListener

/-- The interface stored under an index, if it is on a device. -/
def interfaceOnDevice (db : InterfaceManagerDatabase) (index : UInt64) (device : String) :
    Option InterfaceItem :=
  (db.getInterfaceStatusItemByDeviceIndex index).filter fun interface =>
    interface.status.networkLinkStatus.device = device

/-- An interface with a new index and a new link status. -/
def updatedInterface (index : Option UInt64) (link : NetworkLinkStatus) (now : Instant)
    (interface : InterfaceItem) : InterfaceItem :=
  ⟨⟨index, interface.status.name, some interface.status.networkLinkStatus.device⟩,
    ⟨interface.status.name, interface.status.addresses, link⟩, now⟩

/-- The handling of `NewLink`. -/
def newLinkReceived (event : Event) (index : UInt64) (link : NetworkLinkStatus)
    (db : InterfaceManagerDatabase) : InterfaceManagerDatabase × List NetworkStatusUpdate :=
  let link : LinkItem := ⟨⟨some index, link.name, some link.device⟩, link, event.linkNow⟩
  let (db, _) := db.setLinkStatusItem link
  match interfaceOnDevice db index link.status.device with
  -- the interface takes over the status of its link and is sent after it
  | some interface =>
    let interface := updatedInterface (some index) link.status event.interfaceNow interface
    let (db, _) := db.setInterfaceStatusItem interface
    (db, [.link link.status, .interface interface.status])
  | none => (db, [.link link.status])

/-- The first half of the handling of `DelLink`: a configured link is stored as not found, another
is removed. -/
def deleteLink (event : Event) (link : NetworkLinkStatus) (db : InterfaceManagerDatabase) :
    InterfaceManagerDatabase × LinkItem :=
  let id : CanonicalNetworkId := ⟨none, link.name, some link.device⟩
  match id.name with
  | some _ =>
    let link : LinkItem := ⟨id, ⟨link.name, link.device, .notFound⟩, event.linkNow⟩
    ((db.setLinkStatusItem link).1, link)
  -- the id has neither an index nor a name here: the link is found by its device alone
  | none => ((db.removeLinkStatusItem id []).1, ⟨id, link, event.linkNow⟩)

/-- The second half of the handling of `DelLink`, for the interface on the link. -/
def deleteInterface (event : Event) (index : UInt64) (link : NetworkLinkStatus)
    (db : InterfaceManagerDatabase) : InterfaceManagerDatabase :=
  -- `link` is the status as stored for a configured link and as received for another
  match interfaceOnDevice db index link.device with
  | some interface =>
    let interface := updatedInterface none link event.interfaceNow interface
    match interface.id.name with
    | some _ => (db.setInterfaceStatusItem interface).1
    | none => (db.removeInterfaceStatusItem interface.id []).1
  | none => db

/-- The handling of `DelLink`. -/
def delLinkReceived (event : Event) (index : UInt64) (link : NetworkLinkStatus)
    (db : InterfaceManagerDatabase) : InterfaceManagerDatabase :=
  let (db, link) := deleteLink event link db
  deleteInterface event index link.status db

/-- The addresses of an interface with one more. -/
def withAddress (address : IpAddress) (addresses : List IpAddress) : List IpAddress :=
  (addresses ++ [address]).insertionSort (· ≤ ·)

/-- The addresses of an interface without the first occurrence of one. -/
def withoutAddress (address : IpAddress) (addresses : List IpAddress) : List IpAddress :=
  addresses.erase address

/-- The handling of `NewAddress` and `DelAddress`, which differ in `change`. -/
def addressReceived (change : List IpAddress → List IpAddress) (event : Event) (index : UInt64)
    (db : InterfaceManagerDatabase) : InterfaceManagerDatabase :=
  match db.getInterfaceStatusItemByDeviceIndex index with
  | some interface =>
    let addresses := change interface.status.addresses
    (db.setInterfaceStatusItem ⟨interface.id,
      ⟨interface.status.name, addresses, interface.status.networkLinkStatus⟩,
      event.interfaceNow⟩).1
  | none => db

/-- `message_received`. -/
def messageReceived (processor : NetlinkMessageProcessor) (event : Event)
    (db : InterfaceManagerDatabase) : InterfaceManagerDatabase × List NetworkStatusUpdate :=
  match event.message.payload with
  | .innerMessage (.newLink _) =>
    match processor.processLinkMessage event.message with
    | some (index, link) => newLinkReceived event index link db
    | none => (db, [])
  | .innerMessage (.delLink _) =>
    match processor.processLinkMessage event.message with
    | some (index, link) => (delLinkReceived event index link db, [])
    | none => (db, [])
  | .innerMessage (.newAddress _) =>
    match NetlinkMessageProcessor.processAddressMessage event.message with
    | some (index, address) => (addressReceived (withAddress address) event index db, [])
    | none => (db, [])
  | .innerMessage (.delAddress _) =>
    match NetlinkMessageProcessor.processAddressMessage event.message with
    | some (index, address) => (addressReceived (withoutAddress address) event index db, [])
    | none => (db, [])
  | _ => (db, [])

end InterfaceManagerNetlinkSocketListener

/-! ## Runs of the interface manager -/

/-- A step that changes the database. -/
inductive ManagerStep : Type where
  | poll (input : PollInput)
  | event (event : Event)

namespace ManagerStep

/-- The database after a step. -/
def apply (config : Router) (db : InterfaceManagerDatabase) : ManagerStep →
    InterfaceManagerDatabase
  | poll input => InterfaceManagerWorker.poll config input db
  | event e =>
    (InterfaceManagerNetlinkSocketListener.messageReceived (.new config) e db).1

end ManagerStep

namespace InterfaceManager

/-- The database after a run from the empty one. -/
def run (config : Router) (steps : List ManagerStep) : InterfaceManagerDatabase :=
  steps.foldl (ManagerStep.apply config) InterfaceManagerDatabase.new

end InterfaceManager

end RustyRouter
