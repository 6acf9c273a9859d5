/-
# Reading link and address messages (`netlink/processor.rs`)

A link message of family 0 that names its device becomes the status of a link,
with the name that the configuration gives the device; an address message
becomes an address.  Where attributes repeat, the last one counts.
-/
import RustyRouter.NetlinkMessage
import RustyRouter.RouterModel

namespace RustyRouter

open Octets

/-- `NetlinkMessageProcessor`. -/
structure NetlinkMessageProcessor where
  deviceLinks : HashMap String String

namespace NetlinkMessageProcessor

/-- `NetlinkMessageProcessor::new`. -/
def new (config : Router) : NetlinkMessageProcessor :=
  ⟨HashMap.collect (config.networkLinks.iter.map fun (name, link) => (link.device, name))⟩

/-- The operational state that an attribute gives. -/
def operationalStateOf : OperState → NetworkLinkOperationalState
  | .up => .up
  | .down => .down
  | _ => .unknown

/-- One turn of the loop over the attributes of a link message. -/
def readLinkAttribute (acc : Option String × NetworkLinkOperationalState) (nla : LinkNla) :
    Option String × NetworkLinkOperationalState :=
  match nla with
  | .ifName ifname => (some ifname, acc.2)
  | .operState operationalState => (acc.1, operationalStateOf operationalState)
  | .other => acc

/-- `process_link_message`. -/
def processLinkMessage (self : NetlinkMessageProcessor) (message : NetlinkMessage) :
    Option (UInt64 × NetworkLinkStatus) :=
  match message.payload with
  | .innerMessage (.newLink msg) | .innerMessage (.delLink msg) =>
    if msg.interfaceFamily ≠ 0 then none
    else
      let index := msg.index.toUInt64
      let (device, state) := msg.nlas.foldl readLinkAttribute (none, .unknown)
      device.map fun device => (index, ⟨self.deviceLinks.lookup device, device, state⟩)
  | _ => none

/-- The address family `AF_INET`. -/
def AF_INET : UInt16 := 2

/-- The address family `AF_INET6`. -/
def AF_INET6 : UInt16 := 10

/-- One turn of the loop over the attributes of an `AF_INET` address message. -/
def readIpv4Attribute (address : Option IpAddr) (nla : AddressNla) : Option IpAddr :=
  match nla with
  | .address data =>
    if data.length = 4 then some (.v4 ⟨UInt32.ofNat (beNat data)⟩) else address
  | .other => address

/-- One turn of the loop over the attributes of an `AF_INET6` address message. -/
def readIpv6Attribute (address : Option IpAddr) (nla : AddressNla) : Option IpAddr :=
  match nla with
  | .address data =>
    if data.length = 16 then some (.v6 ⟨BitVec.ofNat 128 (beNat data)⟩) else address
  | .other => address

/-- `process_address_message`. -/
def processAddressMessage (message : NetlinkMessage) : Option (UInt64 × IpAddress) :=
  match message.payload with
  | .innerMessage (.newAddress msg) | .innerMessage (.delAddress msg) =>
    let index := msg.index.toUInt64
    let prefixLength := msg.prefixLen.toUInt64
    let address : Option IpAddr := none
    let address :=
      if msg.family.toUInt16 = AF_INET then msg.nlas.foldl readIpv4Attribute address else address
    let address :=
      if msg.family.toUInt16 = AF_INET6 then msg.nlas.foldl readIpv6Attribute address else address
    address.map fun address => (index, ⟨address, prefixLength⟩)
  | _ => none

/-! ## Devices and their links -/

section DeviceLinks

variable {config : Router}

/-- A device is mapped to a configured link that names it. -/
theorem link_of_lookup_deviceLinks {device name : String}
    (h : (new config).deviceLinks.lookup device = some name) :
    ∃ link, config.networkLinks.lookup name = some link ∧ link.device = device := by
  have hmem := HashMap.mem_of_lookup_collect h
  obtain ⟨⟨name', link⟩, hlink, heq⟩ := List.mem_map.mp hmem
  cases heq
  exact ⟨link, HashMap.mem_iter.mp hlink, rfl⟩

/-- When no two links name one device, the device of a configured link is mapped to it. -/
theorem lookup_deviceLinks (hdistinct : config.DistinctDevices) {name : String}
    {link : NetworkLink} (hlink : config.networkLinks.lookup name = some link) :
    (new config).deviceLinks.lookup link.device = some name := by
  have hpair : (link.device, name) ∈
      config.networkLinks.iter.map fun (name, link) => (link.device, name) :=
    List.mem_map.mpr ⟨(name, link), HashMap.mem_iter.mpr hlink, rfl⟩
  obtain ⟨name', hname'⟩ := HashMap.lookup_collect_isSome hpair
  obtain ⟨link', hlink', hdevice⟩ := link_of_lookup_deviceLinks hname'
  rw [hdistinct.name_eq hlink hlink' hdevice.symm]
  exact hname'

/-- Devices of one name are one device. -/
theorem deviceLinks_injective {device device' name : String}
    (h : (new config).deviceLinks.lookup device = some name)
    (h' : (new config).deviceLinks.lookup device' = some name) : device = device' := by
  obtain ⟨link, hlink, rfl⟩ := link_of_lookup_deviceLinks h
  obtain ⟨link', hlink', rfl⟩ := link_of_lookup_deviceLinks h'
  rw [hlink, Option.some.injEq] at hlink'
  rw [hlink']

end DeviceLinks

theorem reported_foldl_readLinkAttribute (nlas : List LinkNla)
    (acc : Option String × NetworkLinkOperationalState) (hacc : acc.2.reported) :
    (nlas.foldl readLinkAttribute acc).2.reported := by
  induction nlas generalizing acc with
  | nil => exact hacc
  | cons nla nlas ih =>
    apply ih
    cases nla with
    | ifName ifname => exact hacc
    | operState operationalState => cases operationalState <;> rfl
    | other => exact hacc

/-- What a link message says of its device. -/
theorem processLinkMessage_eq_some {self : NetlinkMessageProcessor} {message : NetlinkMessage}
    {index : UInt64} {link : NetworkLinkStatus}
    (h : self.processLinkMessage message = some (index, link)) :
    link.name = self.deviceLinks.lookup link.device ∧ link.operationalState.reported := by
  unfold processLinkMessage at h
  split at h
  case h_3 => contradiction
  all_goals
    split_ifs at h
    obtain ⟨device, -, heq⟩ := Option.map_eq_some_iff.mp h
    cases heq
    exact ⟨rfl, reported_foldl_readLinkAttribute _ _ rfl⟩

end NetlinkMessageProcessor

end RustyRouter
