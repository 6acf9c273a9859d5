/-
# Identity and status agree

Ids and statuses are built apart from each other, by the poll and by the event
handlers.  In every run they agree (`run_agrees`): an id has the name and the
device of its status, and it has a device index exactly when the status is one
that the kernel reports.  An interface whose link is not configured has no
device.

The invariant needs two more facts about an interface that has an index: its
link is configured, and if it is named then its device is that of a configured
link, so that `DelLink` cannot leave it a status that the kernel reported.
-/
import RustyRouter.ManagerStep

namespace RustyRouter

open KeyedStore InterfaceManagerWorker InterfaceManagerNetlinkSocketListener

/-- The name is that of an interface whose link is not configured. -/
def Unlinked (config : Router) (name : Option String) : Prop :=
  ∃ interfaceName interface, name = some interfaceName ∧
    config.networkInterfaces.lookup interfaceName = some interface ∧
    config.networkLinks.lookup interface.networkLink = none

/-- The id and the status of a link agree. -/
structure LinkAgrees (item : LinkItem) : Prop where
  name_eq : item.id.name = item.status.name
  device_eq : item.id.device = some item.status.device
  index_iff : item.id.id.isSome ↔ item.status.operationalState.reported

/-- The id and the status of an interface agree. -/
structure InterfaceAgrees (config : Router) (item : InterfaceItem) : Prop where
  name_eq : item.id.name = item.status.name
  device_eq : ¬ Unlinked config item.id.name →
    item.id.device = some item.status.networkLinkStatus.device
  unlinked : Unlinked config item.id.name →
    item.id.device = none ∧ item.status.networkLinkStatus.device = ""
  index_iff : item.id.id.isSome ↔ item.status.networkLinkStatus.operationalState.reported

/-- What is kept about a link: agreement, and where a name comes from. -/
structure LinkInvariant (config : Router) (item : LinkItem) : Prop extends LinkAgrees item where
  configured : item.status.operationalState ≠ .misconfigured
  link_of_name : ∀ name, item.status.name = some name →
    ∃ link, config.networkLinks.lookup name = some link ∧ link.device = item.status.device
  unmapped_of_unnamed : item.status.name = none →
    (NetlinkMessageProcessor.new config).deviceLinks.lookup item.status.device = none

/-- What is kept about an interface: agreement, and where an index comes from. -/
structure InterfaceInvariant (config : Router) (item : InterfaceItem) : Prop
    extends InterfaceAgrees config item where
  linked_of_index : item.id.id.isSome → ¬ Unlinked config item.id.name
  mapped_of_index : item.id.id.isSome → item.id.name.isSome →
    ((NetlinkMessageProcessor.new config).deviceLinks.lookup
      item.status.networkLinkStatus.device).isSome

/-- The invariant of the interface manager. -/
structure ManagerInvariant (config : Router) (db : InterfaceManagerDatabase) : Prop where
  coherent : InterfaceManagerDatabase.Coherent db
  links : ∀ item ∈ db.networkLinks.content, LinkInvariant config item
  interfaces : ∀ item ∈ db.networkInterfaces.content, InterfaceInvariant config item

section Items

variable {config : Router} {linkData : List NetlinkMessage}

theorem not_unlinked_none : ¬ Unlinked config none := by
  rintro ⟨_, _, hname, -, -⟩
  cases hname

theorem not_unlinked_of_link {name : String} {interface : NetworkInterface} {link : NetworkLink}
    (h : config.networkInterfaces.lookup name = some interface)
    (hlink : config.networkLinks.lookup interface.networkLink = some link) :
    ¬ Unlinked config (some name) := by
  rintro ⟨name', interface', hname, h', hlink'⟩
  cases hname
  rw [h, Option.some.injEq] at h'
  rw [← h', hlink] at hlink'
  cases hlink'

/-- A link of the name that its device is mapped to satisfies the invariant if it agrees. -/
theorem LinkAgrees.invariant {item : LinkItem} (h : LinkAgrees item)
    (hstate : item.status.operationalState ≠ .misconfigured)
    (hname : item.status.name =
      (NetlinkMessageProcessor.new config).deviceLinks.lookup item.status.device) :
    LinkInvariant config item := by
  refine ⟨h, hstate, fun name hsome => ?_, fun hnone => ?_⟩
  · rw [hname] at hsome
    exact NetlinkMessageProcessor.link_of_lookup_deviceLinks hsome
  · rw [← hname]
    exact hnone

/-- The name of a stored link is the one that its device is mapped to. -/
theorem LinkInvariant.name_eq_lookup (hdevices : config.DistinctDevices) {item : LinkItem}
    (h : LinkInvariant config item) :
    item.id.name =
      (NetlinkMessageProcessor.new config).deviceLinks.lookup item.status.device := by
  rw [h.name_eq]
  cases hname : item.status.name with
  | none => exact (h.unmapped_of_unnamed hname).symm
  | some name =>
    obtain ⟨link, hlink, hdevice⟩ := h.link_of_name name hname
    rw [← hdevice, NetlinkMessageProcessor.lookup_deviceLinks hdevices hlink]

/-- What is held for an id is on the device of the id. -/
theorem device_heldItem {old : List LinkItem} (hold : ∀ item ∈ old, LinkInvariant config item)
    {id : CanonicalNetworkId} {status : NetworkLinkStatus} (hdevice : id.device = some status.device)
    (now : Instant) : (heldItem old (id, ⟨id, status, now⟩)).status.device = status.device := by
  rcases heldItem_eq_or_mem old (id, ⟨id, status, now⟩) with heq | ⟨hmem, hid⟩
  · rw [heq]
  · have hagrees := (hold _ hmem).device_eq
    rw [hid, hdevice, Option.some.injEq] at hagrees
    exact hagrees.symm

theorem ne_misconfigured_of_reported {state : NetworkLinkOperationalState} (h : state.reported) :
    state ≠ .misconfigured := by
  rintro rfl
  cases h

/-- Every link that is to be listed satisfies the invariant. -/
theorem linkInvariant_of_viewLink {id : CanonicalNetworkId} {status : NetworkLinkStatus}
    (h : ViewLink config (reportedLinks config linkData) id status) (now : Instant) :
    LinkInvariant config ⟨id, status, now⟩ := by
  cases h with
  | @reported index _ hr =>
    have hreported := reported_of_mem_reportedLinks hr
    have hagrees : LinkAgrees ⟨reportedId index status, status, now⟩ :=
      ⟨rfl, rfl, by simp [reportedId, hreported]⟩
    exact hagrees.invariant (ne_misconfigured_of_reported hreported) (name_of_mem_reportedLinks hr)
  | missing hlink hunreported =>
    refine ⟨⟨rfl, rfl, by simp [missingLinkStatus, NetworkLinkOperationalState.reported]⟩,
      (fun hstate => by cases hstate), fun name hname => ?_, (fun hname => by cases hname)⟩
    cases hname
    exact ⟨_, hlink, rfl⟩

/-- Every interface that a view can have satisfies the invariant. -/
theorem interfaceInvariant_of_candidate {id : CanonicalNetworkId} {status : NetworkInterfaceStatus}
    (h : Candidate config (reportedLinks config linkData) id status) (now : Instant) :
    InterfaceInvariant config ⟨id, status, now⟩ := by
  -- one case for each way in which a poll makes an interface
  cases h with
  | @reported name interface index link addresses hinterface hr hname =>
    obtain ⟨networkLink, hlink, -⟩ := link_of_mem_reportedLinks hr hname
    have hlinked := not_unlinked_of_link hinterface hlink
    have hmapped := name_of_mem_reportedLinks hr
    rw [hname] at hmapped
    exact ⟨⟨rfl, fun _ => rfl, fun hunlinked => absurd hunlinked hlinked,
      by simp [reported_of_mem_reportedLinks hr]⟩, fun _ => hlinked, fun _ _ => by simp [← hmapped]⟩
  | misconfigured hinterface hlink =>
    exact ⟨⟨rfl, fun _ => rfl,
      fun hunlinked => absurd hunlinked (not_unlinked_of_link hinterface hlink),
      by simp [NetworkLinkOperationalState.reported]⟩, (fun hid => by cases hid), (fun hid => by cases hid)⟩
  | unlinked hinterface hlink =>
    exact ⟨⟨rfl, fun hlinked => absurd ⟨_, _, rfl, hinterface, hlink⟩ hlinked, fun _ => ⟨rfl, rfl⟩,
      by simp [NetworkLinkOperationalState.reported]⟩, (fun hid => by cases hid), (fun hid => by cases hid)⟩
  | unnamed hr =>
    exact ⟨⟨rfl, fun _ => rfl, fun hunlinked => absurd hunlinked not_unlinked_none,
      by simp [reported_of_mem_reportedLinks hr]⟩, fun _ => not_unlinked_none,
      (fun _ hname => by cases hname)⟩
  | missing hinterface hlink =>
    exact ⟨⟨rfl, fun _ => rfl,
      fun hunlinked => absurd hunlinked (not_unlinked_of_link hinterface hlink),
      by simp [missingLinkStatus, NetworkLinkOperationalState.reported]⟩, (fun hid => by cases hid),
      (fun hid => by cases hid)⟩

end Items

/-! ## Events -/

section Events

variable {config : Router} {message : NetlinkMessage} {index : UInt64} {link : NetworkLinkStatus}
  (hlink : (NetlinkMessageProcessor.new config).processLinkMessage message = some (index, link))
include hlink

/-- `NewLink` gives an interface of its index and device the status of the link. -/
theorem interfaceInvariant_newLink {item : InterfaceItem} (h : InterfaceInvariant config item)
    (hindex : item.id.id = some index) (hdevice : item.status.networkLinkStatus.device = link.device)
    (now : Instant) : InterfaceInvariant config (updatedInterface (some index) link now item) := by
  have hsome : item.id.id.isSome := by rw [hindex]; rfl
  have hlinked : ¬ Unlinked config item.status.name := h.name_eq ▸ h.linked_of_index hsome
  refine ⟨⟨rfl, fun _ => ?_, fun hunlinked => absurd hunlinked hlinked, ?_⟩, fun _ => hlinked,
    fun _ hname => ?_⟩
  · rw [updatedInterface, hdevice]
  · simp [updatedInterface, (NetlinkMessageProcessor.processLinkMessage_eq_some hlink).2]
  · have hmapped := h.mapped_of_index hsome (by rw [h.name_eq]; exact hname)
    rw [hdevice] at hmapped
    exact hmapped

/-- `DelLink` gives a named interface of its index and device a status that is not found. -/
theorem interfaceInvariant_delLink {item : InterfaceItem} (h : InterfaceInvariant config item)
    (hindex : item.id.id = some index) (hdevice : item.status.networkLinkStatus.device = link.device)
    (hname : item.status.name.isSome) (now : Instant) :
    InterfaceInvariant config (updatedInterface none (deletedLinkStatus link) now item) := by
  have hsome : item.id.id.isSome := by rw [hindex]; rfl
  have hlinked : ¬ Unlinked config item.status.name := h.name_eq ▸ h.linked_of_index hsome
  have hmapped := h.mapped_of_index hsome (by rw [h.name_eq]; exact hname)
  rw [hdevice, ← (NetlinkMessageProcessor.processLinkMessage_eq_some hlink).1] at hmapped
  obtain ⟨linkName, hlinkName⟩ := Option.isSome_iff_exists.mp hmapped
  have hdeleted := deletedLinkStatus_of_name hlinkName
  refine ⟨⟨rfl, fun _ => ?_, fun hunlinked => absurd hunlinked hlinked, ?_⟩,
    (fun hid => by cases hid), (fun hid => by cases hid)⟩
  · rw [updatedInterface, device_deletedLinkStatus, hdevice]
  · simp [updatedInterface, hdeleted, missingLinkStatus, NetworkLinkOperationalState.reported]

/-- The item that `NewLink` stores satisfies the invariant. -/
theorem linkInvariant_newLinkItem (event : Event) :
    LinkInvariant config (newLinkItem event index link) := by
  obtain ⟨hname, hreported⟩ := NetlinkMessageProcessor.processLinkMessage_eq_some hlink
  have hagrees : LinkAgrees (newLinkItem event index link) :=
    ⟨rfl, rfl, by simp [reportedId, hreported]⟩
  exact hagrees.invariant (ne_misconfigured_of_reported hreported) hname

/-- The item that `DelLink` stores satisfies the invariant. -/
theorem linkInvariant_deletedLink (hname : link.name.isSome) (now : Instant) :
    LinkInvariant config ⟨deletedLinkId link, deletedLinkStatus link, now⟩ := by
  obtain ⟨hmapped, -⟩ := NetlinkMessageProcessor.processLinkMessage_eq_some hlink
  obtain ⟨name, hname⟩ := Option.isSome_iff_exists.mp hname
  rw [deletedLinkStatus_of_name hname]
  have hagrees : LinkAgrees ⟨deletedLinkId link, missingLinkStatus name link.device, now⟩ :=
    ⟨hname, rfl, by simp [missingLinkStatus, NetworkLinkOperationalState.reported]⟩
  exact hagrees.invariant (fun hstate => by cases hstate) (hname.symm.trans hmapped)

end Events

/-- Changing addresses keeps the invariant. -/
theorem interfaceInvariant_address {config : Router} {item : InterfaceItem}
    (h : InterfaceInvariant config item) (addresses : List IpAddress) (now : Instant) :
    InterfaceInvariant config
      ⟨item.id, ⟨item.status.name, addresses, item.status.networkLinkStatus⟩, now⟩ :=
  ⟨⟨h.name_eq, h.device_eq, h.unlinked, h.index_iff⟩, h.linked_of_index, h.mapped_of_index⟩

/-- The keys of an interface that changes are those that it had. -/
theorem keys_updatedInterface {config : Router} {item : InterfaceItem} (h : InterfaceInvariant config item)
    {index : UInt64} (hindex : item.id.id = some index) {index' : Option UInt64}
    (hindex' : index' = some index ∨ index' = none) (link : NetworkLinkStatus) (now : Instant) :
    (updatedInterface index' link now item).id.keys ⊆ item.id.keys := by
  have hdevice := h.device_eq (h.linked_of_index (by rw [hindex]; rfl))
  have hname := h.name_eq
  intro key hkey
  cases key with
  | name name =>
    rw [CanonicalNetworkId.name_mem_keys] at hkey ⊢
    rw [hname]
    exact hkey
  | device device =>
    rw [CanonicalNetworkId.device_mem_keys] at hkey ⊢
    rw [hdevice]
    exact hkey
  | index i =>
    rw [CanonicalNetworkId.index_mem_keys] at hkey ⊢
    rw [hindex]
    rcases hindex' with rfl | rfl
    · exact hkey
    · cases hkey

/-! ## Runs -/

namespace ManagerInvariant

variable {config : Router} {db : InterfaceManagerDatabase}

theorem new (config : Router) : ManagerInvariant config InterfaceManagerDatabase.new :=
  ⟨InterfaceManagerDatabase.coherent_new, fun _ hitem => absurd hitem List.not_mem_nil,
    fun _ hitem => absurd hitem List.not_mem_nil⟩

theorem forall_mem_put {T : Type} {p : NetworkStatusItem T → Prop} {item : NetworkStatusItem T}
    {content : List (NetworkStatusItem T)} (hitem : p item) (h : ∀ item ∈ content, p item) :
    ∀ item' ∈ putItem item content, p item' := by
  intro item' hitem'
  rcases mem_put.mp hitem' with rfl | ⟨hold, -⟩
  · exact hitem
  · exact h item' hold

theorem forall_mem_evict {T : Type} {p : NetworkStatusItem T → Prop} {id : CanonicalNetworkId}
    {content : List (NetworkStatusItem T)} (h : ∀ item ∈ content, p item) :
    ∀ item' ∈ evictId id content, p item' :=
  fun item' hitem' => h item' (mem_evict.mp hitem').1

theorem poll (h : ManagerInvariant config db) (input : PollInput) :
    ManagerInvariant config (InterfaceManagerWorker.poll config input db) := by
  rcases poll_cases config input db with hpoll | ⟨linkData, networkData, -, -, hpoll⟩
  · rw [hpoll]
    exact h
  -- an item after a poll is one of the view or was stored before
  · obtain ⟨hcoherent, hlinks, hinterfaces⟩ :=
      commit_coherent config input linkData networkData h.coherent
    rw [hpoll]
    refine ⟨hcoherent, fun item hitem => ?_, fun item hitem => ?_⟩
    · rcases hlinks item hitem with ⟨id, status, hview, rfl⟩ | hold
      · exact linkInvariant_of_viewLink hview _
      · exact h.links item hold
    · rcases hinterfaces item hitem with ⟨id, status, hview, heq⟩ | hold
      · rw [show item = ⟨id, status, input.interfaceNow id⟩ from heq]
        exact interfaceInvariant_of_candidate hview _
      · exact h.interfaces item hold

theorem newLink (h : ManagerInvariant config db) {event : Event} {index : UInt64}
    {link : NetworkLinkStatus}
    (hlink : (NetlinkMessageProcessor.new config).processLinkMessage event.message =
      some (index, link)) :
    ManagerInvariant config (newLinkReceived event index link db).1 := by
  obtain ⟨db', updates, hreceived, hcoherent, hlinks, hinterfaces⟩ :=
    newLinkReceived_spec h.coherent event index link
  rw [hreceived]
  refine ⟨hcoherent, ?_, ?_⟩
  · rw [hlinks]
    exact forall_mem_put (linkInvariant_newLinkItem hlink event) h.links
  · rcases hinterfaces with ⟨heq, -⟩ | ⟨item, hitem, hindex, hdevice, heq, -⟩
    · rw [heq]
      exact h.interfaces
    · rw [heq]
      exact forall_mem_put
        (interfaceInvariant_newLink hlink (h.interfaces item hitem) hindex hdevice _) h.interfaces

theorem delLink (h : ManagerInvariant config db) {event : Event} {index : UInt64}
    {link : NetworkLinkStatus}
    (hlink : (NetlinkMessageProcessor.new config).processLinkMessage event.message =
      some (index, link)) :
    ManagerInvariant config (delLinkReceived event index link db) := by
  obtain ⟨hcoherent, hlinks, hinterfaces⟩ := delLinkReceived_spec h.coherent event index link
  refine ⟨hcoherent, ?_, ?_⟩
  · rw [hlinks]
    split_ifs with hname
    · exact forall_mem_put (linkInvariant_deletedLink hlink hname _) h.links
    · exact forall_mem_evict h.links
  · rcases hinterfaces with ⟨heq, -⟩ | ⟨item, hitem, hindex, hdevice, heq⟩
    · rw [heq]
      exact h.interfaces
    · rw [heq]
      split_ifs with hname
      · exact forall_mem_put
          (interfaceInvariant_delLink hlink (h.interfaces item hitem) hindex hdevice hname _)
          h.interfaces
      · exact forall_mem_evict h.interfaces

theorem address (h : ManagerInvariant config db) (change : List IpAddress → List IpAddress)
    (event : Event) (index : UInt64) :
    ManagerInvariant config (addressReceived change event index db) := by
  obtain ⟨hcoherent, hlinks, hinterfaces⟩ := addressReceived_spec h.coherent event index change
  refine ⟨hcoherent, ?_, ?_⟩
  · rw [hlinks]
    exact h.links
  · rcases hinterfaces with ⟨heq, -⟩ | ⟨item, hitem, -, heq⟩
    · rw [heq]
      exact h.interfaces
    · rw [heq]
      exact forall_mem_put (interfaceInvariant_address (h.interfaces item hitem) _ _) h.interfaces

/-- An event keeps the invariant. -/
theorem event (h : ManagerInvariant config db) (event : Event) :
    ManagerInvariant config (messageReceived (.new config) event db).1 := by
  rcases messageReceived_cases (.new config) event db with
    hsame | ⟨index, link, hlink, ⟨-, -, hnew⟩ | ⟨-, -, hdel⟩⟩ | ⟨change, index, haddress⟩
  · rw [hsame]
    exact h
  · rw [hnew]
    exact h.newLink hlink
  · rw [hdel]
    exact h.delLink hlink
  · rw [haddress]
    exact h.address change event index

/-- A step keeps the invariant. -/
theorem apply (h : ManagerInvariant config db) (step : ManagerStep) :
    ManagerInvariant config (step.apply config db) := by
  cases step with
  | poll input => exact h.poll input
  | event event => exact h.event event

/-- Every database that a run reaches satisfies the invariant. -/
theorem run (config : Router) (steps : List ManagerStep) :
    ManagerInvariant config (InterfaceManager.run config steps) :=
  List.foldlRecOn steps _ (new config) fun _ h step _ => h.apply step

end ManagerInvariant

theorem InterfaceManager.run_append_singleton (config : Router) (steps : List ManagerStep)
    (step : ManagerStep) : run config (steps ++ [step]) = step.apply config (run config steps) := by
  rw [run, List.foldl_append]
  rfl

/-- What holds of a new database and is kept by the commit of a view and by an event holds of every
database that a run reaches. -/
theorem InterfaceManager.run_induction {config : Router} {P : InterfaceManagerDatabase → Prop}
    (hnew : P .new)
    (hcommit : ∀ db input linkData networkData, ManagerInvariant config db → P db →
      P (commit input (view config input linkData networkData) db).1)
    (hevent : ∀ db event, ManagerInvariant config db → P db →
      P (messageReceived (.new config) event db).1)
    (steps : List ManagerStep) : P (run config steps) := by
  induction steps using List.reverseRecOn with
  | nil => exact hnew
  | append_singleton steps step ih =>
    have hinvariant := ManagerInvariant.run config steps
    rw [run_append_singleton]
    cases step with
    | poll input =>
      rw [ManagerStep.apply]
      rcases poll_cases config input (run config steps) with
        hpoll | ⟨linkData, networkData, -, -, hpoll⟩
      · rw [hpoll]
        exact ih
      · rw [hpoll]
        exact hcommit _ input linkData networkData hinvariant ih
    | event event => exact hevent _ event hinvariant ih

/-- **Identity and status agree** in every item that a run stores. -/
theorem InterfaceManager.run_agrees (config : Router) (steps : List ManagerStep) :
    (∀ item ∈ (run config steps).networkLinks.content, LinkAgrees item) ∧
      ∀ item ∈ (run config steps).networkInterfaces.content, InterfaceAgrees config item :=
  ⟨fun item hitem => ((ManagerInvariant.run config steps).links item hitem).toLinkAgrees,
    fun item hitem => ((ManagerInvariant.run config steps).interfaces item hitem).toInterfaceAgrees⟩

end RustyRouter
