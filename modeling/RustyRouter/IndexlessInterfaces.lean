/-
# Interfaces without an index

Only a poll lists an interface without a device: one whose link is not
configured, always misconfigured and without addresses.  An interface that is on
a device and has no index is written by a poll that misses its link or by the
event that deletes it, and each gives it the status of a missing link.  So in
every run an interface without an index says of its link what the configuration
says (`IndexlessInvariant.run`), and the hold rule has nothing to hold there but
the addresses of a deleted link.

That no poll leaves an interface misconfigured on a configured link needs that
no two interfaces name one link: the entry of the missing link then replaces it.
-/
import RustyRouter.ManagerInvariant

namespace RustyRouter

open KeyedStore InterfaceManagerWorker InterfaceManagerNetlinkSocketListener

/-- The status of an interface whose link is not configured. -/
def unlinkedStatus (name link : String) : NetworkInterfaceStatus :=
  ⟨some name, [], ⟨some link, "", .misconfigured⟩⟩

/-- What is kept about an interface without an index. -/
structure IndexlessInvariant (config : Router) (item : InterfaceItem) : Prop where
  unlinked : item.id.id = none → item.id.device = none →
    ∃ name interface, config.networkInterfaces.lookup name = some interface ∧
      item.status = unlinkedStatus name interface.networkLink
  missing : item.id.id = none → ∀ device, item.id.device = some device →
    ∃ link, (NetlinkMessageProcessor.new config).deviceLinks.lookup device = some link ∧
      item.status.networkLinkStatus = missingLinkStatus link device

namespace IndexlessInvariant

variable {config : Router}

/-- An interface with an index keeps nothing here. -/
theorem of_index {item : InterfaceItem} (h : item.id.id.isSome) : IndexlessInvariant config item where
  unlinked hindex := by rw [hindex] at h; cases h
  missing hindex := by rw [hindex] at h; cases h

/-- What a view lists without an index. -/
theorem of_lookup (hdevices : config.DistinctDevices) (hlinks : config.DistinctLinks)
    {input : PollInput} {linkData networkData : List NetlinkMessage} {id : CanonicalNetworkId}
    {item : InterfaceItem}
    (h : (view config input linkData networkData).networkInterfaces.lookup id = some item) :
    IndexlessInvariant config item := by
  have hid : item.id = id := by
    obtain ⟨status, -, heq⟩ := candidate_of_lookup h
    exact congrArg NetworkStatusItem.id heq
  cases hindex : id.id with
  | some index => exact of_index (by rw [hid, hindex]; rfl)
  | none =>
    obtain ⟨name, interface, hinterface, ⟨hlink, rfl, rfl⟩ | ⟨link, hlink, rfl, rfl⟩⟩ :=
      indexless_of_lookup hlinks h hindex
    · exact ⟨fun _ _ => ⟨name, interface, hinterface, rfl⟩, fun _ _ hdevice => by cases hdevice⟩
    · refine ⟨(fun _ hdevice => by cases hdevice), fun _ device hdevice => ?_⟩
      cases hdevice
      exact ⟨_, NetlinkMessageProcessor.lookup_deviceLinks hdevices hlink, rfl⟩

/-- The event that deletes a link leaves its interface with the status of a missing link. -/
theorem delLink {message : NetlinkMessage} {index : UInt64} {link : NetworkLinkStatus}
    (hlink : (NetlinkMessageProcessor.new config).processLinkMessage message = some (index, link))
    {item : InterfaceItem} (h : InterfaceInvariant config item) (hindex : item.id.id = some index)
    (hdevice : item.status.networkLinkStatus.device = link.device) (hname : item.status.name.isSome)
    (now : Instant) :
    IndexlessInvariant config (updatedInterface none (deletedLinkStatus link) now item) := by
  refine ⟨(fun _ hnone => by cases hnone), fun _ device hsome => ?_⟩
  cases hsome
  have hmapped := h.mapped_of_index (by rw [hindex]; rfl) (by rw [h.name_eq]; exact hname)
  rw [hdevice] at hmapped ⊢
  obtain ⟨linkName, hlinkName⟩ := Option.isSome_iff_exists.mp hmapped
  have hlinkStatus := (NetlinkMessageProcessor.processLinkMessage_eq_some hlink).1
  rw [hlinkName] at hlinkStatus
  exact ⟨linkName, hlinkName, deletedLinkStatus_of_name hlinkStatus⟩

/-- A commit keeps the invariant. -/
theorem commit (hdevices : config.DistinctDevices) (hlinks : config.DistinctLinks)
    {db : InterfaceManagerDatabase} (hcoherent : InterfaceManagerDatabase.Coherent db)
    (h : ∀ item ∈ db.networkInterfaces.content, IndexlessInvariant config item) (input : PollInput)
    (linkData networkData : List NetlinkMessage) :
    ∀ item ∈
        (commit input (view config input linkData networkData) db).1.networkInterfaces.content,
      IndexlessInvariant config item := by
  have hkeys : ∀ entry ∈
      input.networkInterfaces.order (view config input linkData networkData).networkInterfaces.iter,
      entry.1.keys ≠ [] := by
    intro entry hentry
    obtain ⟨status, hview, -⟩ := mem_drained_networkInterfaces hentry
    exact hview.keys_ne_nil
  intro item hitem
  rcases (reconcile_coherent hkeys hcoherent.networkInterfaces input.takenInterfaces).2 item hitem
    with hnew | hold
  · obtain ⟨entry, hentry, rfl⟩ := List.mem_map.mp hnew
    rw [HashMap.Shuffle.mem_order] at hentry
    exact of_lookup hdevices hlinks (HashMap.mem_iter.mp hentry)
  · exact h item hold

/-- An event keeps the invariant. -/
theorem event {db : InterfaceManagerDatabase} (hinvariant : ManagerInvariant config db)
    (h : ∀ item ∈ db.networkInterfaces.content, IndexlessInvariant config item) (event : Event) :
    ∀ item ∈ (messageReceived (.new config) event db).1.networkInterfaces.content,
      IndexlessInvariant config item := by
  rcases messageReceived_cases (.new config) event db with
    hsame | ⟨index, link, hlink, ⟨-, -, hnew⟩ | ⟨-, -, hdel⟩⟩ | ⟨change, index, haddress⟩
  · rw [hsame]
    exact h
  · obtain ⟨db', updates, hreceived, -, -, hinterfaces⟩ :=
      newLinkReceived_spec hinvariant.coherent event index link
    rw [hnew, hreceived]
    rcases hinterfaces with ⟨heq, -⟩ | ⟨item, -, -, -, heq, -⟩
    · rw [heq]
      exact h
    · rw [heq]
      exact ManagerInvariant.forall_mem_put (of_index rfl) h
  · obtain ⟨-, -, hinterfaces⟩ := delLinkReceived_spec hinvariant.coherent event index link
    rw [hdel]
    rcases hinterfaces with ⟨heq, -⟩ | ⟨item, hitem, hindex, hdevice, heq⟩
    · rw [heq]
      exact h
    · rw [heq]
      split_ifs with hname
      · exact ManagerInvariant.forall_mem_put
          (delLink hlink (hinvariant.interfaces item hitem) hindex hdevice hname _) h
      · exact ManagerInvariant.forall_mem_evict h
  · obtain ⟨-, -, hinterfaces⟩ := addressReceived_spec hinvariant.coherent event index change
    rw [haddress]
    rcases hinterfaces with ⟨heq, -⟩ | ⟨item, -, hindex, heq⟩
    · rw [heq]
      exact h
    · rw [heq]
      exact ManagerInvariant.forall_mem_put (of_index (by rw [hindex]; rfl)) h

/-- Every interface without an index that a run stores has the status of its link. -/
theorem run (hdevices : config.DistinctDevices) (hlinks : config.DistinctLinks)
    (steps : List ManagerStep) :
    ∀ item ∈ (InterfaceManager.run config steps).networkInterfaces.content,
      IndexlessInvariant config item :=
  InterfaceManager.run_induction (fun _ hitem => absurd hitem List.not_mem_nil)
    (fun _ input linkData networkData hinvariant h =>
      commit hdevices hlinks hinvariant.coherent h input linkData networkData)
    (fun _ e hinvariant h => event hinvariant h e) steps

end IndexlessInvariant

end RustyRouter
