/-
# The anti-entropy poll (`InterfaceManagerWorker::try_poll`)

A poll fetches a dump of the links and one of the addresses, joins them with the
configuration into a view of what should be listed, and reconciles the tables of
the database with the view.  An old item with exactly the id of a new one stays
unless it is older by more than the hold period and says something else.

Maps that a poll builds are drained in some order, given with the dumps
(`PollInput`), as are the clock readings: of two items created with one id the
later overwrites the earlier, so there is one reading an id.
-/
import RustyRouter.NetlinkProcessor
import RustyRouter.StatusTable

namespace RustyRouter

open HashMap (Shuffle)

/-- An item of the link table. -/
abbrev LinkItem : Type := NetworkStatusItem NetworkLinkStatus

/-- An item of the interface table. -/
abbrev InterfaceItem : Type := NetworkStatusItem NetworkInterfaceStatus

/-- `ENTROPY_HOLD_PERIOD_SECONDS`. -/
def entropyHoldPeriod : Instant := 5 * 10 ^ 9

/-- What a poll is given by the kernel, the clock and the maps it drains. -/
structure PollInput where
  linkData : Except Error (List NetlinkMessage)
  networkData : Except Error (List NetlinkMessage)
  linkNow : CanonicalNetworkId → Instant
  interfaceNow : CanonicalNetworkId → Instant
  unmappedLinks : Shuffle (String × String)
  networkAddresses : Shuffle (UInt64 × List IpAddress)
  missingNetworkInterfaces : Shuffle (CanonicalNetworkId × InterfaceItem)
  networkLinks : Shuffle (CanonicalNetworkId × LinkItem)
  networkInterfaces : Shuffle (CanonicalNetworkId × InterfaceItem)
  takenLinks : Shuffle (ℕ × LinkItem)
  takenInterfaces : Shuffle (ℕ × InterfaceItem)

namespace InterfaceManagerWorker

/-! ## The view of the links -/

/-- The maps the link dump is read into. -/
structure LinkMaps where
  mappedDevices : HashMap UInt64 LinkItem
  mappedLinks : HashMap String LinkItem
  networkLinks : HashMap CanonicalNetworkId LinkItem
  unmappedLinks : HashMap String String

/-- The id of a reported link. -/
def reportedId (index : UInt64) (networkLink : NetworkLinkStatus) : CanonicalNetworkId :=
  ⟨some index, networkLink.name, some networkLink.device⟩

/-- What is done with a link that a message of the dump reports. -/
def addReportedLink (now : CanonicalNetworkId → Instant) (maps : LinkMaps)
    (reported : UInt64 × NetworkLinkStatus) : LinkMaps :=
  let (index, networkLink) := reported
  let id := reportedId index networkLink
  let item : LinkItem := ⟨id, networkLink, now id⟩
  let maps :=
    match item.status.name with
    -- a link that is reported under its configured name is not missing
    | some name =>
      { maps with
        unmappedLinks := maps.unmappedLinks.erase name
        mappedLinks := maps.mappedLinks.insert name item }
    | none => maps
  { maps with
    mappedDevices := maps.mappedDevices.insert index item
    networkLinks := maps.networkLinks.insert id item }

/-- The loop over the link dump. -/
def readLinkData (processor : NetlinkMessageProcessor) (now : CanonicalNetworkId → Instant)
    (unmappedLinks : HashMap String String) (linkData : List NetlinkMessage) : LinkMaps :=
  linkData.foldl
    (fun maps response =>
      match processor.processLinkMessage response with
      | some reported => addReportedLink now maps reported
      | none => maps)
    ⟨∅, ∅, ∅, unmappedLinks⟩

/-- The status of a configured link that the dump does not report. -/
def missingLinkStatus (name device : String) : NetworkLinkStatus :=
  ⟨some name, device, .notFound⟩

/-- The loop over the configured links that the dump does not report. -/
def addMissingLink (linkNow interfaceNow : CanonicalNetworkId → Instant)
    (linkNetworkInterfaces : HashMap String String)
    (maps : HashMap CanonicalNetworkId LinkItem × HashMap CanonicalNetworkId InterfaceItem)
    (unmapped : String × String) :
    HashMap CanonicalNetworkId LinkItem × HashMap CanonicalNetworkId InterfaceItem :=
  let (networkLinks, missingNetworkInterfaces) := maps
  let (name, device) := unmapped
  let id : CanonicalNetworkId := ⟨none, some name, some device⟩
  let networkLinkStatus := missingLinkStatus name device
  let networkLinks := networkLinks.insert id ⟨id, networkLinkStatus, linkNow id⟩
  match linkNetworkInterfaces.lookup name with
  | some interfaceName =>
    let interfaceId : CanonicalNetworkId := ⟨none, some interfaceName, some device⟩
    (networkLinks, missingNetworkInterfaces.insert interfaceId
      ⟨interfaceId, ⟨some interfaceName, [], networkLinkStatus⟩, interfaceNow interfaceId⟩)
  | none => (networkLinks, missingNetworkInterfaces)

/-! ## The view of the interfaces -/

/-- The loop over the address dump. -/
def readNetworkData (networkData : List NetlinkMessage) : HashMap UInt64 (List IpAddress) :=
  networkData.foldl
    (fun networkAddresses response =>
      match NetlinkMessageProcessor.processAddressMessage response with
      | some (index, address) =>
        networkAddresses.insert index ((networkAddresses.lookup index).getD [] ++ [address])
      | none => networkAddresses)
    ∅

/-- The loop over the configured interfaces, which uses up the addresses it attaches. -/
def addConfiguredInterface (config : Router) (now : CanonicalNetworkId → Instant)
    (mappedLinks : HashMap String LinkItem)
    (maps : HashMap UInt64 (List IpAddress) × HashMap CanonicalNetworkId InterfaceItem)
    (configured : String × NetworkInterface) :
    HashMap UInt64 (List IpAddress) × HashMap CanonicalNetworkId InterfaceItem :=
  let (networkAddresses, networkInterfaces) := maps
  let (networkInterfaceName, networkInterface) := configured
  match mappedLinks.lookup networkInterface.networkLink with
  | some networkLink =>
    let id : CanonicalNetworkId :=
      ⟨networkLink.id.id, some networkInterfaceName, networkLink.id.device⟩
    let (interfaceAddresses, networkAddresses) :=
      match networkLink.id.id with
      | some index => ((networkAddresses.lookup index).getD [], networkAddresses.erase index)
      | none => ([], networkAddresses)
    let interfaceAddresses := interfaceAddresses.insertionSort (· ≤ ·)
    (networkAddresses, networkInterfaces.insert id
      ⟨id, ⟨some networkInterfaceName, interfaceAddresses, networkLink.status⟩, now id⟩)
  -- configured but not reported: the interface is listed without an index
  | none =>
    match config.networkLinks.lookup networkInterface.networkLink with
    | some networkLink =>
      let id : CanonicalNetworkId := ⟨none, some networkInterfaceName, some networkLink.device⟩
      (networkAddresses, networkInterfaces.insert id
        ⟨id, ⟨some networkInterfaceName, [],
          ⟨some networkInterface.networkLink, networkLink.device, .misconfigured⟩⟩, now id⟩)
    -- the link of the interface is not configured, so that there is no device to list
    | none =>
      let id : CanonicalNetworkId := ⟨none, some networkInterfaceName, none⟩
      (networkAddresses, networkInterfaces.insert id
        ⟨id, ⟨some networkInterfaceName, [],
          ⟨some networkInterface.networkLink, "", .misconfigured⟩⟩, now id⟩)

/-- The loop over the addresses that are left. -/
def addUnnamedInterface (now : CanonicalNetworkId → Instant)
    (mappedDevices : HashMap UInt64 LinkItem)
    (networkInterfaces : HashMap CanonicalNetworkId InterfaceItem)
    (addressed : UInt64 × List IpAddress) : HashMap CanonicalNetworkId InterfaceItem :=
  let (index, addresses) := addressed
  match mappedDevices.lookup index with
  | some networkLink =>
    let addresses := addresses.insertionSort (· ≤ ·)
    let id : CanonicalNetworkId := ⟨some index, none, some networkLink.status.device⟩
    networkInterfaces.insert id ⟨id, ⟨none, addresses, networkLink.status⟩, now id⟩
  | none => networkInterfaces

/-! ## The whole view -/

/-- What should be listed. -/
structure View where
  networkLinks : HashMap CanonicalNetworkId LinkItem
  networkInterfaces : HashMap CanonicalNetworkId InterfaceItem

/-- `unmapped_links` at first: the devices of the configured links. -/
def configuredDevices (config : Router) : HashMap String String :=
  HashMap.collect (config.networkLinks.iter.map fun (name, link) => (name, link.device))

/-- `link_network_interfaces`: the interfaces of the links. -/
def linkNetworkInterfaces (config : Router) : HashMap String String :=
  HashMap.collect
    (config.networkInterfaces.iter.map fun (name, interface) => (interface.networkLink, name))

/-- The links to be listed, and the interfaces of those that are missing. -/
def linkView (config : Router) (input : PollInput) (maps : LinkMaps) :
    HashMap CanonicalNetworkId LinkItem × HashMap CanonicalNetworkId InterfaceItem :=
  (input.unmappedLinks.order maps.unmappedLinks.iter).foldl
    (addMissingLink input.linkNow input.interfaceNow (linkNetworkInterfaces config))
    (maps.networkLinks, ∅)

/-- The interfaces to be listed. -/
def interfaceView (config : Router) (input : PollInput) (maps : LinkMaps)
    (missingNetworkInterfaces : HashMap CanonicalNetworkId InterfaceItem)
    (networkData : List NetlinkMessage) : HashMap CanonicalNetworkId InterfaceItem :=
  let networkAddresses := readNetworkData networkData
  let (networkAddresses, networkInterfaces) :=
    config.networkInterfaces.iter.foldl
      (addConfiguredInterface config input.interfaceNow maps.mappedLinks) (networkAddresses, ∅)
  let networkInterfaces :=
    (input.networkAddresses.order networkAddresses.iter).foldl
      (addUnnamedInterface input.interfaceNow maps.mappedDevices) networkInterfaces
  (input.missingNetworkInterfaces.order missingNetworkInterfaces.iter).foldl
    (fun networkInterfaces (id, interface) => networkInterfaces.insert id interface)
    networkInterfaces

/-- The view that a poll builds from the configuration and the two dumps. -/
def view (config : Router) (input : PollInput) (linkData networkData : List NetlinkMessage) :
    View :=
  let maps := readLinkData (.new config) input.linkNow (configuredDevices config) linkData
  let (networkLinks, missingNetworkInterfaces) := linkView config input maps
  ⟨networkLinks, interfaceView config input maps missingNetworkInterfaces networkData⟩

/-! ## Reconciling -/

section Reconcile

variable {T : Type} [DecidableEq T]

/-- The hold rule: whether an old item gives way to a new one of its id. -/
def replaces (item new : NetworkStatusItem T) : Bool :=
  item.refreshed + entropyHoldPeriod < new.refreshed && item.status != new.status

/-- The state of the loop over the view: the table, and the items to publish and to store. -/
structure Reconciliation (T : Type) where
  table : StatusTable T
  notify : List (NetworkStatusItem T)
  established : List (NetworkStatusItem T)

/-- One turn of the loop over the view. -/
def reconcileItem (s : Reconciliation T) (entry : CanonicalNetworkId × NetworkStatusItem T) :
    Reconciliation T :=
  let (id, new) := entry
  let (table, deletedItems) := s.table.removeStatusItem id []
  -- only an item with exactly this id can be kept; the others that clash with it are dropped
  match deletedItems.find? fun item => item.id = id with
  | none => ⟨table, s.notify ++ [new], s.established ++ [new]⟩
  | some item =>
    if replaces item new then ⟨table, s.notify ++ [new], s.established ++ [new]⟩
    else ⟨table, s.notify, s.established ++ [item]⟩

/-- The outcome of reconciling a table: the table, the new items and the deleted ones. -/
structure Reconciled (T : Type) where
  table : StatusTable T
  notify : List (NetworkStatusItem T)
  notifyDeleted : List (NetworkStatusItem T)

/-- Reconciles a table with the entries of a view. -/
def reconcile (table : StatusTable T) (entries : List (CanonicalNetworkId × NetworkStatusItem T))
    (taken : Shuffle (ℕ × NetworkStatusItem T)) : Reconciled T :=
  let s := entries.foldl reconcileItem ⟨table, [], []⟩
  let (table, notifyDeleted) := s.table.takeStatusItems taken
  ⟨s.established.foldl (fun table item => (table.setStatusItem item).1) table, s.notify,
    notifyDeleted⟩

end Reconcile

/-! ## The poll -/

/-- What a poll publishes about an interface that it deletes. -/
def deletedInterfaceStatus (item : InterfaceItem) : NetworkInterfaceStatus :=
  ⟨item.status.name, item.status.addresses,
    ⟨item.status.networkLinkStatus.name, item.status.networkLinkStatus.device, .notFound⟩⟩

/-- The updates of a poll, in the order in which they are sent. -/
def updates (links : Reconciled NetworkLinkStatus) (interfaces : Reconciled NetworkInterfaceStatus) :
    List NetworkStatusUpdate :=
  links.notifyDeleted.map (fun message => .link message.status) ++
    links.notify.map (fun message => .link message.status) ++
    interfaces.notifyDeleted.map (fun message => .interface (deletedInterfaceStatus message)) ++
    interfaces.notify.map (fun message => .interface message.status)

/-- The part of a poll under the database lock. -/
def commit (input : PollInput) (polled : View) (db : InterfaceManagerDatabase) :
    InterfaceManagerDatabase × List NetworkStatusUpdate :=
  let links :=
    reconcile db.networkLinks (input.networkLinks.order polled.networkLinks.iter) input.takenLinks
  let interfaces :=
    reconcile db.networkInterfaces (input.networkInterfaces.order polled.networkInterfaces.iter)
      input.takenInterfaces
  (⟨links.table, interfaces.table⟩, updates links interfaces)

/-- `try_poll`: the database and the updates to be sent to the subscribers. -/
def tryPoll (config : Router) (input : PollInput) (db : InterfaceManagerDatabase) :
    Except Error (InterfaceManagerDatabase × List NetworkStatusUpdate) := do
  let linkData ← input.linkData
  let networkData ← input.networkData
  return commit input (view config input linkData networkData) db

/-- `poll`: a failed poll is logged and changes nothing. -/
def poll (config : Router) (input : PollInput) (db : InterfaceManagerDatabase) :
    InterfaceManagerDatabase :=
  match tryPoll config input db with
  | .ok (db, _) => db
  | .error _ => db

end InterfaceManagerWorker

end RustyRouter
