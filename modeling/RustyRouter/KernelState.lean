/-
# What a poll of the kernel lists

The kernel has devices, by index, no two of one name.  What a poll of it stores
into an empty database is a union over device names: of each name the tables say
something that depends only on whether a device of that name is there and on what
it is (`linksAt`, `interfacesAt`, `poll_new_entries`).  An interface whose link is
not configured is listed in any case.

Since every entry is about one name, two such unions are equal exactly when they
are equal name by name (`about_inj`).
-/
import RustyRouter.AddressSets
import RustyRouter.AntiEntropy

namespace RustyRouter

open KeyedStore HashMap InterfaceManagerWorker

/-! ## The kernel -/

/-- A device of the kernel. -/
structure KernelDevice where
  device : String
  state : NetworkLinkOperationalState
  reported : state.reported = true
  addresses : Finset IpAddress

/-- The devices of the kernel by index, no two of one name. -/
structure KernelState where
  devices : UInt64 → Option KernelDevice
  distinct : ∀ index index' d d', devices index = some d → devices index' = some d' →
    d.device = d'.device → index = index'

/-- The link status of a device. -/
def KernelDevice.status (config : Router) (d : KernelDevice) : NetworkLinkStatus :=
  ⟨(NetlinkMessageProcessor.new config).deviceLinks.lookup d.device, d.device, d.state⟩

/-- The dumps of a kernel: its devices, each once, and their addresses, each once. -/
structure DumpOf (config : Router) (kernel : KernelState) (linkData networkData : List NetlinkMessage) :
    Prop where
  reports : DistinctReports (reportedLinks config linkData)
  mem_reportedLinks : ∀ index link, (index, link) ∈ reportedLinks config linkData ↔
    ∃ d, kernel.devices index = some d ∧ link = d.status config
  nodup_addresses : ∀ index, (addressesOf networkData index).Nodup
  mem_addresses : ∀ index d, kernel.devices index = some d →
    ∀ address, address ∈ addressesOf networkData index ↔ address ∈ d.addresses

/-- A poll is given dumps of a kernel. -/
def PollOf (config : Router) (kernel : KernelState) (input : PollInput) : Prop :=
  ∃ linkData networkData, Dumps linkData networkData input ∧
    DumpOf config kernel linkData networkData

namespace KernelState

open Classical in
/-- The device of a name, with its index. -/
noncomputable def find (kernel : KernelState) (device : String) : Option (UInt64 × KernelDevice) :=
  if h : ∃ p : UInt64 × KernelDevice, kernel.devices p.1 = some p.2 ∧ p.2.device = device then
    some h.choose
  else none

/-- A device that is found is in the kernel, under its index. -/
theorem find_eq_some {kernel : KernelState} {device : String} {index : UInt64} {d : KernelDevice} :
    kernel.find device = some (index, d) ↔ kernel.devices index = some d ∧ d.device = device := by
  unfold find
  constructor
  · intro hfind
    split_ifs at hfind with h
    have hchoose := h.choose_spec
    rw [Option.some.inj hfind] at hchoose
    exact hchoose
  · rintro ⟨hd, hdevice⟩
    have h : ∃ p : UInt64 × KernelDevice, kernel.devices p.1 = some p.2 ∧ p.2.device = device :=
      ⟨(index, d), hd, hdevice⟩
    obtain ⟨hd', hdevice'⟩ := h.choose_spec
    have hindex := kernel.distinct _ _ _ _ hd' hd (hdevice'.trans hdevice.symm)
    rw [hindex, hd, Option.some.injEq] at hd'
    rw [dif_pos h]
    exact congrArg some (Prod.ext hindex hd'.symm)

/-- A device that is not found is not in the kernel. -/
theorem find_eq_none {kernel : KernelState} {device : String} :
    kernel.find device = none ↔ ∀ index d, kernel.devices index = some d → d.device ≠ device := by
  constructor
  · intro hnone index d hd hdevice
    rw [find_eq_some.mpr ⟨hd, hdevice⟩] at hnone
    cases hnone
  · intro habsent
    rw [Option.eq_none_iff_forall_ne_some]
    rintro ⟨index, d⟩ hfind
    obtain ⟨hd, hdevice⟩ := find_eq_some.mp hfind
    exact habsent index d hd hdevice

end KernelState

/-! ## Entries by device name -/

section About

variable {T : Type}

/-- The entries of a family, each about its device name. -/
def about (family : String → Set (CanonicalNetworkId × T)) : Set (CanonicalNetworkId × T) :=
  {e | ∃ device, e.1.device = some device ∧ e ∈ family device}

variable {family family' : String → Set (CanonicalNetworkId × T)}

/-- The entries about a device, of those that say which device they are about. -/
theorem mem_about_iff {e : CanonicalNetworkId × T} {device : String}
    (hdevice : e.1.device = some device) : e ∈ about family ↔ e ∈ family device := by
  constructor
  · rintro ⟨device', hdevice', he⟩
    rw [hdevice, Option.some.injEq] at hdevice'
    exact hdevice' ▸ he
  · intro he
    exact ⟨device, hdevice, he⟩

/-- Families of entries about their names are equal if all they say is equal. -/
theorem about_inj (h : ∀ device, ∀ e ∈ family device, e.1.device = some device)
    (h' : ∀ device, ∀ e ∈ family' device, e.1.device = some device) :
    about family = about family' ↔ ∀ device, family device = family' device := by
  constructor
  · intro heq device
    ext e
    constructor
    · intro he
      rw [← mem_about_iff (h device e he), ← heq, mem_about_iff (h device e he)]
      exact he
    · intro he
      rw [← mem_about_iff (h' device e he), heq, mem_about_iff (h' device e he)]
      exact he
  · intro heq
    rw [funext heq]

end About

/-- What is listed of the links on a device name: the device of that name, or that it is missing if
it is configured. -/
def linksAt (config : Router) (device : String) :
    Option (UInt64 × KernelDevice) → Set (CanonicalNetworkId × NetworkLinkStatus)
  | some (index, d) => {(reportedId index (d.status config), d.status config)}
  | none => {e | ∃ name,
      (NetlinkMessageProcessor.new config).deviceLinks.lookup device = some name ∧
        e = (⟨none, some name, some device⟩, missingLinkStatus name device)}

/-- A configured interface is on the link of a device name. -/
def InterfaceNamed (config : Router) (device name : String) : Prop :=
  ∃ interface, config.networkInterfaces.lookup name = some interface ∧
    (NetlinkMessageProcessor.new config).deviceLinks.lookup device = some interface.networkLink

/-- Some configured interface is on the link of a device name. -/
def HasInterface (config : Router) (device : String) : Prop := ∃ name, InterfaceNamed config device name

/-- The interface of a name, or an unnamed one, on a device that is there. -/
def foundInterface (config : Router) (index : UInt64) (d : KernelDevice) (name : Option String) :
    CanonicalNetworkId × NetworkInterfaceStatus :=
  (⟨some index, name, some d.device⟩, ⟨name, d.addresses.sort, d.status config⟩)

/-- The interface of a name on the missing device of a link. -/
def missingInterface (device link name : String) : CanonicalNetworkId × NetworkInterfaceStatus :=
  (⟨none, some name, some device⟩, ⟨some name, [], missingLinkStatus link device⟩)

/-- What is listed of the interfaces on a device name: the configured one, or an unnamed one if the
device of that name has addresses. -/
def interfacesAt (config : Router) (device : String) :
    Option (UInt64 × KernelDevice) → Set (CanonicalNetworkId × NetworkInterfaceStatus)
  | some (index, d) => {e |
      (∃ name, InterfaceNamed config d.device name ∧ e = foundInterface config index d (some name)) ∨
      (¬ HasInterface config d.device ∧ d.addresses.Nonempty ∧
        e = foundInterface config index d none)}
  | none => {e | ∃ name link, InterfaceNamed config device name ∧
      (NetlinkMessageProcessor.new config).deviceLinks.lookup device = some link ∧
      e = missingInterface device link name}

/-- What is listed of the interfaces whose link is not configured. -/
def unlinkedInterfaces (config : Router) : Set (CanonicalNetworkId × NetworkInterfaceStatus) :=
  {e | ∃ name interface, config.networkInterfaces.lookup name = some interface ∧
    config.networkLinks.lookup interface.networkLink = none ∧
    e = (⟨none, some name, none⟩, ⟨some name, [], ⟨some interface.networkLink, "", .misconfigured⟩⟩)}

/-- The link at a device is on it. -/
theorem device_of_mem_linksAt {config : Router} {device : String}
    {found : Option (UInt64 × KernelDevice)}
    (hfound : ∀ index d, found = some (index, d) → d.device = device)
    {e : CanonicalNetworkId × NetworkLinkStatus} (h : e ∈ linksAt config device found) :
    e.1.device = some device ∧ e.2.device = device := by
  cases found with
  | some p =>
    have hdevice := hfound p.1 p.2 rfl
    rw [linksAt, Set.mem_singleton_iff] at h
    rw [h]
    exact ⟨congrArg some hdevice, hdevice⟩
  | none =>
    obtain ⟨name, -, rfl⟩ := h
    exact ⟨rfl, rfl⟩

/-- The interfaces at a device are on it. -/
theorem device_of_mem_interfacesAt {config : Router} {device : String}
    {found : Option (UInt64 × KernelDevice)}
    (hfound : ∀ index d, found = some (index, d) → d.device = device)
    {e : CanonicalNetworkId × NetworkInterfaceStatus} (h : e ∈ interfacesAt config device found) :
    e.1.device = some device ∧ e.2.networkLinkStatus.device = device := by
  cases found with
  | some p =>
    have hdevice := hfound p.1 p.2 rfl
    rcases h with ⟨name, -, rfl⟩ | ⟨-, -, rfl⟩
    · exact ⟨congrArg some hdevice, hdevice⟩
    · exact ⟨congrArg some hdevice, hdevice⟩
  | none =>
    obtain ⟨name, link, -, -, rfl⟩ := h
    exact ⟨rfl, rfl⟩

/-! ## A poll of a kernel -/

section Poll

/-- What a table that was empty says after a poll is the view. -/
theorem InterfaceManagerWorker.Reconciles.entries_of_nil {T : Type} [DecidableEq T]
    {view : CanonicalNetworkId → T → Prop} {now : CanonicalNetworkId → Instant}
    {outcome : Reconciled T} (h : Reconciles view now [] outcome) :
    entries outcome.table.content = {e | view e.1 e.2} := by
  ext ⟨id, status⟩
  constructor
  · rintro ⟨item, hitem, heq⟩
    obtain ⟨id', status', hview, rfl⟩ := (h.polled.mem_iff item).mp hitem
    cases heq
    exact hview
  · intro hview
    exact ⟨_, (h.polled.mem_iff _).mpr ⟨id, status, hview, rfl⟩, rfl⟩

variable {config : Router} (hdevices : config.DistinctDevices) {kernel : KernelState}
  {linkData networkData : List NetlinkMessage} (hdump : DumpOf config kernel linkData networkData)

include hdump in
/-- A link that the dump does not report is on a device that the kernel does not have. -/
theorem DumpOf.unreported_iff {device link : String}
    (hlink : (NetlinkMessageProcessor.new config).deviceLinks.lookup device = some link) :
    Unreported (reportedLinks config linkData) link ↔ kernel.find device = none := by
  rw [KernelState.find_eq_none]
  constructor
  · rintro hunreported index d hd rfl
    exact hunreported (index, d.status config) ((hdump.mem_reportedLinks _ _).mpr ⟨d, hd, rfl⟩) hlink
  · rintro habsent ⟨index, status⟩ hr hname
    obtain ⟨d, hd, rfl⟩ := (hdump.mem_reportedLinks _ _).mp hr
    exact habsent index d hd (NetlinkMessageProcessor.deviceLinks_injective hname hlink)

include hdevices hdump in
/-- The links of a view, name by name. -/
theorem viewLink_iff {id : CanonicalNetworkId} {status : NetworkLinkStatus} :
    ViewLink config (reportedLinks config linkData) id status ↔
      (id, status) ∈ about fun device => linksAt config device (kernel.find device) := by
  constructor
  · intro hview
    cases hview with
    | @reported index _ hr =>
      obtain ⟨d, hd, rfl⟩ := (hdump.mem_reportedLinks _ _).mp hr
      refine ⟨d.device, rfl, ?_⟩
      show _ ∈ linksAt config d.device (kernel.find d.device)
      rw [KernelState.find_eq_some.mpr ⟨hd, rfl⟩]
      exact Set.mem_singleton _
    | @missing name link hlink hunreported =>
      -- a configured link that is not reported is on a device that the kernel does not have
      have hmapped := NetlinkMessageProcessor.lookup_deviceLinks hdevices hlink
      refine ⟨link.device, rfl, ?_⟩
      show _ ∈ linksAt config link.device (kernel.find link.device)
      rw [(hdump.unreported_iff hmapped).mp hunreported]
      exact ⟨name, hmapped, rfl⟩
  · rintro ⟨device, hdevice, he⟩
    change _ ∈ linksAt config device (kernel.find device) at he
    cases hfind : kernel.find device with
    | some p =>
      obtain ⟨hd, -⟩ := KernelState.find_eq_some.mp hfind
      rw [hfind, linksAt, Set.mem_singleton_iff] at he
      cases he
      exact .reported ((hdump.mem_reportedLinks _ _).mpr ⟨p.2, hd, rfl⟩)
    | none =>
      rw [hfind] at he
      obtain ⟨name, hmapped, heq⟩ := he
      cases heq
      obtain ⟨link, hlink, rfl⟩ := NetlinkMessageProcessor.link_of_lookup_deviceLinks hmapped
      exact .missing hlink ((hdump.unreported_iff hmapped).mpr hfind)

/-- A list without duplicates is sorted to the set of its addresses. -/
theorem insertionSort_eq_sort {addresses : List IpAddress} {s : Finset IpAddress}
    (hnodup : addresses.Nodup) (hmem : ∀ address, address ∈ addresses ↔ address ∈ s) :
    addresses.insertionSort (· ≤ ·) = s.sort := by
  refine (sortedLT_insertionSort hnodup).eq_of_mem_iff s.sortedLT_sort fun address => ?_
  rw [List.mem_insertionSort, Finset.mem_sort]
  exact hmem address

include hdump in
/-- The addresses of a device in the dump, sorted. -/
theorem DumpOf.sort_eq {index : UInt64} {d : KernelDevice} (hd : kernel.devices index = some d) :
    (addressesOf networkData index).insertionSort (· ≤ ·) = d.addresses.sort :=
  insertionSort_eq_sort (hdump.nodup_addresses index) (hdump.mem_addresses index d hd)

include hdump in
/-- A dump has addresses of a device exactly when the device has some. -/
theorem DumpOf.addresses_ne_nil_iff {index : UInt64} {d : KernelDevice}
    (hd : kernel.devices index = some d) :
    addressesOf networkData index ≠ [] ↔ d.addresses.Nonempty := by
  rw [← List.length_pos_iff, List.length_pos_iff_exists_mem]
  exact exists_congr (hdump.mem_addresses index d hd)

include hdevices hdump in
/-- The interfaces of a view, name by name. -/
theorem viewInterface_iff {id : CanonicalNetworkId} {status : NetworkInterfaceStatus} :
    ViewInterface config (reportedLinks config linkData) (addressesOf networkData) id status ↔
      (id, status) ∈ unlinkedInterfaces config ∪
        about fun device => interfacesAt config device (kernel.find device) := by
  constructor
  · intro hview
    cases hview with
    | @reported name interface index _ hinterface hr hname =>
      obtain ⟨d, hd, rfl⟩ := (hdump.mem_reportedLinks _ _).mp hr
      refine Or.inr ⟨d.device, rfl, ?_⟩
      show _ ∈ interfacesAt config d.device (kernel.find d.device)
      rw [KernelState.find_eq_some.mpr ⟨hd, rfl⟩, hdump.sort_eq hd]
      exact Or.inl ⟨name, ⟨interface, hinterface, hname⟩, rfl⟩
    | @missing name interface link hinterface hlink hunreported =>
      have hmapped := NetlinkMessageProcessor.lookup_deviceLinks hdevices hlink
      refine Or.inr ⟨link.device, rfl, ?_⟩
      show _ ∈ interfacesAt config link.device (kernel.find link.device)
      rw [(hdump.unreported_iff hmapped).mp hunreported]
      exact ⟨name, interface.networkLink, ⟨interface, hinterface, hmapped⟩, hmapped, rfl⟩
    | misconfigured hinterface hlink => exact Or.inl ⟨_, _, hinterface, hlink, rfl⟩
    | @unnamed index _ hr hne hfree =>
      obtain ⟨d, hd, rfl⟩ := (hdump.mem_reportedLinks _ _).mp hr
      refine Or.inr ⟨d.device, rfl, ?_⟩
      show _ ∈ interfacesAt config d.device (kernel.find d.device)
      rw [KernelState.find_eq_some.mpr ⟨hd, rfl⟩, hdump.sort_eq hd]
      refine Or.inr ⟨?_, (hdump.addresses_ne_nil_iff hd).mp hne, rfl⟩
      rintro ⟨name, interface, hinterface, hname⟩
      exact hfree name interface hinterface hname
  · rintro (⟨name, interface, hinterface, hlink, heq⟩ | ⟨device, hdevice, he⟩)
    · cases heq
      exact .misconfigured hinterface hlink
    · change _ ∈ interfacesAt config device (kernel.find device) at he
      -- the device tells which of the three rules lists the interface
      cases hfind : kernel.find device with
      | some p =>
        obtain ⟨index, d⟩ := p
        obtain ⟨hd, rfl⟩ := KernelState.find_eq_some.mp hfind
        have hr := (hdump.mem_reportedLinks index _).mpr ⟨d, hd, rfl⟩
        rw [hfind] at he
        rcases he with ⟨name, ⟨interface, hinterface, hname⟩, heq⟩ | ⟨hfree, hne, heq⟩
        · cases heq
          rw [← hdump.sort_eq hd]
          exact .reported hinterface hr hname
        · cases heq
          rw [← hdump.sort_eq hd]
          refine .unnamed hr ((hdump.addresses_ne_nil_iff hd).mpr hne) ?_
          intro name interface hinterface hname
          exact hfree ⟨name, interface, hinterface, hname⟩
      | none =>
        rw [hfind] at he
        obtain ⟨name, link, ⟨interface, hinterface, hname⟩, hmapped, heq⟩ := he
        cases heq
        rw [hmapped, Option.some.injEq] at hname
        subst hname
        obtain ⟨networkLink, hlink, rfl⟩ :=
          NetlinkMessageProcessor.link_of_lookup_deviceLinks hmapped
        exact .missing hinterface hlink ((hdump.unreported_iff hmapped).mpr hfind)

end Poll

/-- **What a poll of a kernel stores into an empty database.** -/
theorem poll_new_entries {config : Router} (hdevices : config.DistinctDevices)
    (hlinks : config.DistinctLinks) {kernel : KernelState} {input : PollInput}
    (hpoll : PollOf config kernel input) :
    entries (poll config input InterfaceManagerDatabase.new).networkLinks.content =
        about (fun device => linksAt config device (kernel.find device)) ∧
      entries (poll config input InterfaceManagerDatabase.new).networkInterfaces.content =
        unlinkedInterfaces config ∪
          about fun device => interfacesAt config device (kernel.find device) := by
  obtain ⟨linkData, networkData, hdumps, hdump⟩ := hpoll
  have hcoherent := InterfaceManagerDatabase.coherent_new
  rw [poll_of_dumps hdumps]
  constructor
  · refine (reconciles_networkLinks hdevices hdump.reports hcoherent input
      networkData).entries_of_nil.trans ?_
    ext ⟨id, status⟩
    exact viewLink_iff hdevices hdump
  · refine (reconciles_networkInterfaces hdevices hdump.reports hcoherent input networkData
      hlinks).entries_of_nil.trans ?_
    ext ⟨id, status⟩
    exact viewInterface_iff hdevices hdump

/-! ## Kernels of one device -/

namespace KernelState

/-- The kernel without devices. -/
def empty : KernelState where
  devices _ := none
  distinct := by
    intro index index' d d' hd
    cases hd

/-- The kernel with one device. -/
def single (index : UInt64) (d : KernelDevice) : KernelState where
  devices := Function.update empty.devices index (some d)
  distinct := by
    have hindex : ∀ index' d', Function.update empty.devices index (some d) index' = some d' →
        index' = index := by
      intro index' d' hd'
      by_contra hne
      rw [Function.update_of_ne hne] at hd'
      cases hd'
    intro index' index'' d' d'' hd' hd'' _
    rw [hindex index' d' hd', hindex index'' d'' hd'']

/-- The one device of a kernel. -/
theorem single_devices_iff {index index' : UInt64} {d d' : KernelDevice} :
    (single index d).devices index' = some d' ↔ index' = index ∧ d' = d := by
  show Function.update empty.devices index (some d) index' = some d' ↔ _
  by_cases heq : index' = index
  · rw [heq, Function.update_self, Option.some.injEq, eq_comm]
    exact (and_iff_right rfl).symm
  · rw [Function.update_of_ne heq]
    exact iff_of_false (by rintro ⟨⟩) fun h => heq h.1

end KernelState

/-- Dumps without a link are those of a kernel without devices. -/
theorem pollOf_empty {config : Router} {linkData networkData : List NetlinkMessage}
    (hlinks : reportedLinks config linkData = [])
    (hnodup : ∀ index, (addressesOf networkData index).Nodup) (now : Instant) :
    PollOf config .empty (pollAt now linkData networkData) := by
  refine ⟨linkData, networkData, ⟨rfl, rfl⟩, ?_, ?_, hnodup, ?_⟩
  · rw [hlinks]
    exact ⟨List.nodup_nil, List.nodup_nil⟩
  · intro index link
    rw [hlinks]
    exact iff_of_false List.not_mem_nil (by rintro ⟨d, hd, -⟩; cases hd)
  · intro index d hd
    cases hd

/-- Dumps with one link are those of a kernel with one device. -/
theorem pollOf_single {config : Router} {linkData networkData : List NetlinkMessage}
    {index : UInt64} {d : KernelDevice}
    (hlinks : reportedLinks config linkData = [(index, d.status config)])
    (hnodup : ∀ index, (addressesOf networkData index).Nodup)
    (haddresses : (addressesOf networkData index).toFinset = d.addresses) (now : Instant) :
    PollOf config (.single index d) (pollAt now linkData networkData) := by
  refine ⟨linkData, networkData, ⟨rfl, rfl⟩, ?_, ?_, hnodup, ?_⟩
  · rw [hlinks]
    exact ⟨List.nodup_singleton _, List.nodup_singleton _⟩
  · intro index' link
    rw [hlinks, List.mem_singleton, Prod.mk.injEq]
    constructor
    · rintro ⟨rfl, rfl⟩
      exact ⟨d, KernelState.single_devices_iff.mpr ⟨rfl, rfl⟩, rfl⟩
    · rintro ⟨d', hd', rfl⟩
      obtain ⟨rfl, rfl⟩ := KernelState.single_devices_iff.mp hd'
      exact ⟨rfl, rfl⟩
  · intro index' d' hd' address
    obtain ⟨rfl, rfl⟩ := KernelState.single_devices_iff.mp hd'
    rw [← haddresses, List.mem_toFinset]

end RustyRouter
