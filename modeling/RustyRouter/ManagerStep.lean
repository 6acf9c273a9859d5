/-
# What a step of the interface manager does

One lemma for each handler says what an event does to the contents of a coherent
database, and `poll_cases` and `messageReceived_cases` say which of them a step
is.  Everything that is proved about runs is derived from these.
-/
import RustyRouter.InterfaceListener
import RustyRouter.PolledInterfaces
import RustyRouter.Reconciliation

namespace RustyRouter

open KeyedStore

/-- An item put in a table, by the keys of its id. -/
abbrev putItem {T : Type} (item : NetworkStatusItem T) (content : List (NetworkStatusItem T)) :
    List (NetworkStatusItem T) :=
  put CanonicalNetworkId.keys NetworkStatusItem.id item content

/-- The items that are left when an id is evicted. -/
abbrev evictId {T : Type} (id : CanonicalNetworkId) (content : List (NetworkStatusItem T)) :
    List (NetworkStatusItem T) :=
  evict CanonicalNetworkId.keys NetworkStatusItem.id id content

namespace InterfaceManagerDatabase

variable {db : InterfaceManagerDatabase} (h : Coherent db)
include h

/-- Setting a link stores it in place of what shares a key with it, and leaves the interfaces. -/
theorem setLinkStatusItem_spec (link : LinkItem) :
    Coherent (db.setLinkStatusItem link).1 ∧
      (db.setLinkStatusItem link).1.networkLinks.content =
        putItem link db.networkLinks.content ∧
      (db.setLinkStatusItem link).1.networkInterfaces = db.networkInterfaces := by
  obtain ⟨t, ht, hcoherent, -, hcontent⟩ := StatusTable.setStatusItem_spec h.networkLinks link
  rw [setLinkStatusItem, ht]
  exact ⟨⟨hcoherent, h.networkInterfaces⟩, hcontent, rfl⟩

/-- Removing a link takes out what shares a key with its id, and leaves the interfaces. -/
theorem removeLinkStatusItem_spec (id : CanonicalNetworkId) :
    Coherent (db.removeLinkStatusItem id []).1 ∧
      (db.removeLinkStatusItem id []).1.networkLinks.content =
        evictId id db.networkLinks.content ∧
      (db.removeLinkStatusItem id []).1.networkInterfaces = db.networkInterfaces := by
  obtain ⟨t, ht, hcoherent, -, hcontent⟩ := StatusTable.removeStatusItem_spec h.networkLinks id []
  rw [removeLinkStatusItem, ht]
  exact ⟨⟨hcoherent, h.networkInterfaces⟩, hcontent, rfl⟩

/-- Setting an interface stores it in place of what shares a key with it, and leaves the links. -/
theorem setInterfaceStatusItem_spec (interface : InterfaceItem) :
    Coherent (db.setInterfaceStatusItem interface).1 ∧
      (db.setInterfaceStatusItem interface).1.networkInterfaces.content =
        putItem interface db.networkInterfaces.content ∧
      (db.setInterfaceStatusItem interface).1.networkLinks = db.networkLinks := by
  obtain ⟨t, ht, hcoherent, -, hcontent⟩ :=
    StatusTable.setStatusItem_spec h.networkInterfaces interface
  rw [setInterfaceStatusItem, ht]
  exact ⟨⟨h.networkLinks, hcoherent⟩, hcontent, rfl⟩

/-- Removing an interface takes out what shares a key with its id, and leaves the links. -/
theorem removeInterfaceStatusItem_spec (id : CanonicalNetworkId) :
    Coherent (db.removeInterfaceStatusItem id []).1 ∧
      (db.removeInterfaceStatusItem id []).1.networkInterfaces.content =
        evictId id db.networkInterfaces.content ∧
      (db.removeInterfaceStatusItem id []).1.networkLinks = db.networkLinks := by
  obtain ⟨t, ht, hcoherent, -, hcontent⟩ :=
    StatusTable.removeStatusItem_spec h.networkInterfaces id []
  rw [removeInterfaceStatusItem, ht]
  exact ⟨⟨h.networkLinks, hcoherent⟩, hcontent, rfl⟩

end InterfaceManagerDatabase

/-! ## Events -/

namespace InterfaceManagerNetlinkSocketListener

open InterfaceManagerDatabase InterfaceManagerWorker

section Handlers

variable {db : InterfaceManagerDatabase} (h : Coherent db) (event : Event) (index : UInt64)
  (link : NetworkLinkStatus)
include h

/-- The interface that an event finds has its index and its device. -/
theorem interfaceOnDevice_eq_some {device : String} {item : InterfaceItem} :
    interfaceOnDevice db index device = some item ↔
      item ∈ db.networkInterfaces.content ∧ item.id.id = some index ∧
        item.status.networkLinkStatus.device = device := by
  rw [interfaceOnDevice, getInterfaceStatusItemByDeviceIndex, Option.filter_eq_some_iff,
    h.networkInterfaces.getStatusItemByDeviceIndex_eq_some, decide_eq_true_eq, and_assoc]

/-- An event finds no interface where none has its index and its device. -/
theorem interfaceOnDevice_eq_none {device : String} :
    interfaceOnDevice db index device = none ↔
      ∀ item ∈ db.networkInterfaces.content, item.id.id = some index →
        item.status.networkLinkStatus.device ≠ device := by
  rw [Option.eq_none_iff_forall_ne_some]
  constructor
  · intro hnone item hitem hindex hdevice
    exact hnone item ((interfaceOnDevice_eq_some h index).mpr ⟨hitem, hindex, hdevice⟩)
  · intro hfree item hitem
    obtain ⟨hmem, hindex, hdevice⟩ := (interfaceOnDevice_eq_some h index).mp hitem
    exact hfree item hmem hindex hdevice

/-- The item that `NewLink` stores. -/
abbrev newLinkItem (event : Event) (index : UInt64) (link : NetworkLinkStatus) : LinkItem :=
  ⟨reportedId index link, link, event.linkNow⟩

/-- What `NewLink` does: the link is put in, and the interface of its index and device, if there is
one, gets its status. -/
theorem newLinkReceived_spec :
    ∃ db' updates, newLinkReceived event index link db = (db', .link link :: updates) ∧
      Coherent db' ∧
      db'.networkLinks.content = putItem (newLinkItem event index link) db.networkLinks.content ∧
      (db'.networkInterfaces = db.networkInterfaces ∧ updates = [] ∧
          (∀ item ∈ db.networkInterfaces.content, item.id.id = some index →
            item.status.networkLinkStatus.device ≠ link.device) ∨
        ∃ item ∈ db.networkInterfaces.content, item.id.id = some index ∧
          item.status.networkLinkStatus.device = link.device ∧
          db'.networkInterfaces.content =
            putItem (updatedInterface (some index) link event.interfaceNow item)
              db.networkInterfaces.content ∧
          updates =
            [.interface (updatedInterface (some index) link event.interfaceNow item).status]) := by
  obtain ⟨hcoherent, hlinks, hinterfaces⟩ :=
    setLinkStatusItem_spec h (newLinkItem event index link)
  rw [newLinkReceived]
  -- the interface is looked for after the link is stored
  cases hfound : interfaceOnDevice (db.setLinkStatusItem (newLinkItem event index link)).1 index
      link.device with
  | none =>
    simp only [newLinkItem, reportedId] at hfound
    simp only [hfound]
    refine ⟨_, _, rfl, hcoherent, hlinks, Or.inl ⟨hinterfaces, rfl, ?_⟩⟩
    rw [← hinterfaces]
    exact (interfaceOnDevice_eq_none hcoherent index).mp hfound
  | some item =>
    obtain ⟨hmem, hindex, hdevice⟩ := (interfaceOnDevice_eq_some hcoherent index).mp hfound
    obtain ⟨hcoherent', hinterfaces', hlinks'⟩ := setInterfaceStatusItem_spec hcoherent
      (updatedInterface (some index) link event.interfaceNow item)
    simp only [newLinkItem, reportedId] at hfound
    simp only [hfound]
    -- storing the link has left the interfaces, so the one found is an old one
    rw [hinterfaces] at hmem
    rw [hinterfaces] at hinterfaces'
    exact ⟨_, _, rfl, hcoherent', (congrArg StatusTable.content hlinks').trans hlinks,
      Or.inr ⟨item, hmem, hindex, hdevice, hinterfaces', rfl⟩⟩

/-- The status that `DelLink` gives the interface of the link. -/
def deletedLinkStatus (link : NetworkLinkStatus) : NetworkLinkStatus :=
  match link.name with
  | some _ => ⟨link.name, link.device, .notFound⟩
  | none => link

omit h in
/-- A deleted link keeps its device. -/
theorem device_deletedLinkStatus (link : NetworkLinkStatus) :
    (deletedLinkStatus link).device = link.device := by
  unfold deletedLinkStatus
  cases link.name <;> rfl

omit h in
/-- A named link that is deleted is like one that a poll misses. -/
theorem deletedLinkStatus_of_name {link : NetworkLinkStatus} {name : String}
    (hname : link.name = some name) :
    deletedLinkStatus link = missingLinkStatus name link.device := by
  rw [deletedLinkStatus, hname]
  rfl

/-- The id that `DelLink` stores or removes. -/
abbrev deletedLinkId (link : NetworkLinkStatus) : CanonicalNetworkId :=
  ⟨none, link.name, some link.device⟩

/-- A deleted device leaves its link as missing when it is configured, and no link otherwise. -/
theorem deleteLink_spec :
    Coherent (deleteLink event link db).1 ∧
      (deleteLink event link db).1.networkLinks.content =
        (if link.name.isSome then
          putItem ⟨deletedLinkId link, deletedLinkStatus link, event.linkNow⟩
            db.networkLinks.content
        else evictId (deletedLinkId link) db.networkLinks.content) ∧
      (deleteLink event link db).1.networkInterfaces = db.networkInterfaces ∧
      (deleteLink event link db).2.status = deletedLinkStatus link := by
  obtain ⟨name, device, state⟩ := link
  cases name with
  | some name =>
    obtain ⟨hcoherent, hlinks, hinterfaces⟩ := setLinkStatusItem_spec h
      ⟨⟨none, some name, some device⟩, ⟨some name, device, .notFound⟩, event.linkNow⟩
    exact ⟨hcoherent, hlinks, hinterfaces, rfl⟩
  | none =>
    obtain ⟨hcoherent, hlinks, hinterfaces⟩ :=
      removeLinkStatusItem_spec h ⟨none, none, some device⟩
    exact ⟨hcoherent, hlinks, hinterfaces, rfl⟩

/-- A deleted device leaves the interfaces as they are, or the one that is found is replaced by one
that keeps its addresses, or is taken out. -/
theorem deleteInterface_spec :
    Coherent (deleteInterface event index link db) ∧
      (deleteInterface event index link db).networkLinks = db.networkLinks ∧
      ((deleteInterface event index link db).networkInterfaces = db.networkInterfaces ∧
          (∀ item ∈ db.networkInterfaces.content, item.id.id = some index →
            item.status.networkLinkStatus.device ≠ link.device) ∨
        ∃ item ∈ db.networkInterfaces.content, item.id.id = some index ∧
          item.status.networkLinkStatus.device = link.device ∧
          (deleteInterface event index link db).networkInterfaces.content =
            if item.status.name.isSome then
              putItem (updatedInterface none link event.interfaceNow item)
                db.networkInterfaces.content
            else
              evictId (updatedInterface none link event.interfaceNow item).id
                db.networkInterfaces.content) := by
  rw [deleteInterface]
  cases hfound : interfaceOnDevice db index link.device with
  | none => exact ⟨h, rfl, Or.inl ⟨rfl, (interfaceOnDevice_eq_none h index).mp hfound⟩⟩
  | some item =>
    obtain ⟨hmem, hindex, hdevice⟩ := (interfaceOnDevice_eq_some h index).mp hfound
    -- a configured interface stays listed, another one goes
    cases hname : item.status.name with
    | some name =>
      obtain ⟨hcoherent, hinterfaces, hlinks⟩ := setInterfaceStatusItem_spec h
        (updatedInterface none link event.interfaceNow item)
      simp only [updatedInterface, hname] at hcoherent hinterfaces hlinks ⊢
      refine ⟨hcoherent, hlinks, Or.inr ⟨item, hmem, hindex, hdevice, ?_⟩⟩
      rw [hname, if_pos Option.isSome_some]
      exact hinterfaces
    | none =>
      obtain ⟨hcoherent, hinterfaces, hlinks⟩ := removeInterfaceStatusItem_spec h
        (updatedInterface none link event.interfaceNow item).id
      simp only [updatedInterface, hname] at hcoherent hinterfaces hlinks ⊢
      refine ⟨hcoherent, hlinks, Or.inr ⟨item, hmem, hindex, hdevice, ?_⟩⟩
      rw [hname, if_neg (by simp)]
      exact hinterfaces

/-- What `DelLink` does: a named link is put in as not found, another is evicted; the interface of
its index and device, if there is one, gets the status when it is named, and is evicted otherwise. -/
theorem delLinkReceived_spec :
    Coherent (delLinkReceived event index link db) ∧
      (delLinkReceived event index link db).networkLinks.content =
        (if link.name.isSome then
          putItem ⟨deletedLinkId link, deletedLinkStatus link, event.linkNow⟩
            db.networkLinks.content
        else evictId (deletedLinkId link) db.networkLinks.content) ∧
      ((delLinkReceived event index link db).networkInterfaces = db.networkInterfaces ∧
          (∀ item ∈ db.networkInterfaces.content, item.id.id = some index →
            item.status.networkLinkStatus.device ≠ link.device) ∨
        ∃ item ∈ db.networkInterfaces.content, item.id.id = some index ∧
          item.status.networkLinkStatus.device = link.device ∧
          (delLinkReceived event index link db).networkInterfaces.content =
            if item.status.name.isSome then
              putItem (updatedInterface none (deletedLinkStatus link) event.interfaceNow item)
                db.networkInterfaces.content
            else
              evictId (updatedInterface none (deletedLinkStatus link) event.interfaceNow item).id
                db.networkInterfaces.content) := by
  obtain ⟨hcoherent, hlinks, hinterfaces, hstatus⟩ := deleteLink_spec h event link
  obtain ⟨hcoherent', hlinks', hinterfaces'⟩ :=
    deleteInterface_spec hcoherent event index (deletedLinkStatus link)
  -- the interface is looked for on the device of the deleted link
  rw [hinterfaces, device_deletedLinkStatus] at hinterfaces'
  have hreceived : delLinkReceived event index link db =
      deleteInterface event index (deletedLinkStatus link) (deleteLink event link db).1 := by
    rw [delLinkReceived, ← hstatus]
  rw [hreceived]
  exact ⟨hcoherent', (congrArg StatusTable.content hlinks').trans hlinks, hinterfaces'⟩

/-- What `NewAddress` and `DelAddress` do: the interface of the index, if there is one, gets the
changed addresses. -/
theorem addressReceived_spec (change : List IpAddress → List IpAddress) :
    Coherent (addressReceived change event index db) ∧
      (addressReceived change event index db).networkLinks = db.networkLinks ∧
      ((addressReceived change event index db).networkInterfaces = db.networkInterfaces ∧
          (∀ item ∈ db.networkInterfaces.content, item.id.id ≠ some index) ∨
        ∃ item ∈ db.networkInterfaces.content, item.id.id = some index ∧
          (addressReceived change event index db).networkInterfaces.content =
            putItem ⟨item.id, ⟨item.status.name, change item.status.addresses,
              item.status.networkLinkStatus⟩, event.interfaceNow⟩ db.networkInterfaces.content) := by
  rw [addressReceived]
  cases hfound : db.getInterfaceStatusItemByDeviceIndex index with
  | none =>
    refine ⟨h, rfl, Or.inl ⟨rfl, fun item hitem hindex => ?_⟩⟩
    rw [getInterfaceStatusItemByDeviceIndex,
      h.networkInterfaces.getStatusItemByDeviceIndex_eq_some.mpr ⟨hitem, hindex⟩] at hfound
    cases hfound
  | some item =>
    rw [getInterfaceStatusItemByDeviceIndex,
      h.networkInterfaces.getStatusItemByDeviceIndex_eq_some] at hfound
    obtain ⟨hcoherent, hinterfaces, hlinks⟩ := setInterfaceStatusItem_spec h
      ⟨item.id, ⟨item.status.name, change item.status.addresses, item.status.networkLinkStatus⟩,
        event.interfaceNow⟩
    exact ⟨hcoherent, hlinks, Or.inr ⟨item, hfound.1, hfound.2, hinterfaces⟩⟩

end Handlers

/-- Which handler an event reaches. -/
theorem messageReceived_cases (processor : NetlinkMessageProcessor) (event : Event)
    (db : InterfaceManagerDatabase) :
    messageReceived processor event db = (db, []) ∨
      (∃ index link, processor.processLinkMessage event.message = some (index, link) ∧
        ((∃ message, event.message.payload = .innerMessage (.newLink message) ∧
            messageReceived processor event db = newLinkReceived event index link db) ∨
          (∃ message, event.message.payload = .innerMessage (.delLink message) ∧
            messageReceived processor event db =
              (delLinkReceived event index link db, [])))) ∨
      ∃ change index, messageReceived processor event db =
        (addressReceived change event index db, []) := by
  -- one case for each kind of message, and in each the message may say nothing
  unfold messageReceived
  split
  · split
    · exact Or.inr (Or.inl ⟨_, _, ‹_›, Or.inl ⟨_, ‹_›, rfl⟩⟩)
    · exact Or.inl rfl
  · split
    · exact Or.inr (Or.inl ⟨_, _, ‹_›, Or.inr ⟨_, ‹_›, rfl⟩⟩)
    · exact Or.inl rfl
  · split
    · exact Or.inr (Or.inr ⟨_, _, rfl⟩)
    · exact Or.inl rfl
  · split
    · exact Or.inr (Or.inr ⟨_, _, rfl⟩)
    · exact Or.inl rfl
  · exact Or.inl rfl

end InterfaceManagerNetlinkSocketListener

/-! ## Polls -/

namespace InterfaceManagerWorker

open InterfaceManagerDatabase

/-- A poll with both dumps commits its view. -/
theorem tryPoll_of_ok {config : Router} {input : PollInput} {db : InterfaceManagerDatabase}
    {linkData networkData : List NetlinkMessage} (hlinkData : input.linkData = .ok linkData)
    (hnetworkData : input.networkData = .ok networkData) :
    tryPoll config input db = .ok (commit input (view config input linkData networkData) db) := by
  rw [tryPoll, hlinkData, hnetworkData]
  rfl

/-- A poll that succeeds commits the view of its dumps. -/
theorem tryPoll_eq_ok {config : Router} {input : PollInput} {db : InterfaceManagerDatabase}
    {result : InterfaceManagerDatabase × List NetworkStatusUpdate}
    (h : tryPoll config input db = .ok result) :
    ∃ linkData networkData, input.linkData = .ok linkData ∧ input.networkData = .ok networkData ∧
      result = commit input (view config input linkData networkData) db := by
  cases hlinkData : input.linkData with
  | error e =>
    rw [tryPoll, hlinkData] at h
    cases h
  | ok linkData =>
    cases hnetworkData : input.networkData with
    | error e =>
      rw [tryPoll, hlinkData, hnetworkData] at h
      cases h
    | ok networkData =>
      rw [tryPoll_of_ok hlinkData hnetworkData, Except.ok.injEq] at h
      exact ⟨linkData, networkData, rfl, rfl, h.symm⟩

/-- A poll commits a view or changes nothing. -/
theorem poll_cases (config : Router) (input : PollInput) (db : InterfaceManagerDatabase) :
    poll config input db = db ∨
      ∃ linkData networkData, input.linkData = .ok linkData ∧
        input.networkData = .ok networkData ∧
        poll config input db = (commit input (view config input linkData networkData) db).1 := by
  rw [poll]
  cases hpoll : tryPoll config input db with
  | error e => exact Or.inl rfl
  | ok result =>
    obtain ⟨linkData, networkData, hlinkData, hnetworkData, rfl⟩ := tryPoll_eq_ok hpoll
    exact Or.inr ⟨linkData, networkData, hlinkData, hnetworkData, rfl⟩

/-- An id that a view can have has a key. -/
theorem ViewLink.keys_ne_nil {config : Router} {reported : List (UInt64 × NetworkLinkStatus)}
    {id : CanonicalNetworkId} {status : NetworkLinkStatus} (h : ViewLink config reported id status) :
    id.keys ≠ [] := by
  cases h <;> simp [CanonicalNetworkId.keys, reportedId]

/-- An interface of a view has a key. -/
theorem Candidate.keys_ne_nil {config : Router} {reported : List (UInt64 × NetworkLinkStatus)}
    {id : CanonicalNetworkId} {status : NetworkInterfaceStatus}
    (h : Candidate config reported id status) : id.keys ≠ [] := by
  cases h <;> simp [CanonicalNetworkId.keys]

section Commit

variable {config : Router} {input : PollInput} {linkData networkData : List NetlinkMessage}

/-- What is drained from the links of a view is in it, with the time of its id. -/
theorem mem_drained_networkLinks {entry : CanonicalNetworkId × LinkItem}
    (h : entry ∈ input.networkLinks.order (view config input linkData networkData).networkLinks.iter) :
    ∃ status, ViewLink config (reportedLinks config linkData) entry.1 status ∧
      entry.2 = ⟨entry.1, status, input.linkNow entry.1⟩ := by
  rw [HashMap.Shuffle.mem_order] at h
  exact viewLink_of_lookup (HashMap.mem_iter.mp h)

/-- What is drained from the interfaces of a view is in it. -/
theorem mem_drained_networkInterfaces {entry : CanonicalNetworkId × InterfaceItem}
    (h : entry ∈ input.networkInterfaces.order
      (view config input linkData networkData).networkInterfaces.iter) :
    IsCandidate config (reportedLinks config linkData) input.interfaceNow entry := by
  rw [HashMap.Shuffle.mem_order] at h
  exact candidate_of_lookup (HashMap.mem_iter.mp h)

/-- A commit keeps the database coherent and stores items of the view and items that were there. -/
theorem commit_coherent (config : Router) (input : PollInput)
    (linkData networkData : List NetlinkMessage) {db : InterfaceManagerDatabase} (h : Coherent db) :
    Coherent (commit input (view config input linkData networkData) db).1 ∧
      (∀ item ∈ (commit input (view config input linkData networkData) db).1.networkLinks.content,
        (∃ id status, ViewLink config (reportedLinks config linkData) id status ∧
          item = ⟨id, status, input.linkNow id⟩) ∨ item ∈ db.networkLinks.content) ∧
      ∀ item ∈
          (commit input (view config input linkData networkData) db).1.networkInterfaces.content,
        (∃ id, IsCandidate config (reportedLinks config linkData) input.interfaceNow (id, item)) ∨
          item ∈ db.networkInterfaces.content := by
  -- what is drained has a key to be stored under
  have hlinkKeys : ∀ entry ∈
      input.networkLinks.order (view config input linkData networkData).networkLinks.iter,
      entry.1.keys ≠ [] := by
    intro entry hentry
    obtain ⟨status, hview, -⟩ := mem_drained_networkLinks hentry
    exact hview.keys_ne_nil
  have hinterfaceKeys : ∀ entry ∈
      input.networkInterfaces.order (view config input linkData networkData).networkInterfaces.iter,
      entry.1.keys ≠ [] := by
    intro entry hentry
    obtain ⟨status, hview, -⟩ := mem_drained_networkInterfaces hentry
    exact hview.keys_ne_nil
  obtain ⟨hlinks, hlinkItems⟩ := reconcile_coherent hlinkKeys h.networkLinks input.takenLinks
  obtain ⟨hinterfaces, hinterfaceItems⟩ :=
    reconcile_coherent hinterfaceKeys h.networkInterfaces input.takenInterfaces
  refine ⟨⟨hlinks, hinterfaces⟩, fun item hitem => ?_, fun item hitem => ?_⟩
  · -- a link of the table after the commit is fresh or was kept
    rcases hlinkItems item hitem with hnew | hold
    · obtain ⟨entry, hentry, rfl⟩ := List.mem_map.mp hnew
      obtain ⟨status, hview, heq⟩ := mem_drained_networkLinks hentry
      exact Or.inl ⟨entry.1, status, hview, heq⟩
    · exact Or.inr hold
  · rcases hinterfaceItems item hitem with hnew | hold
    · obtain ⟨entry, hentry, rfl⟩ := List.mem_map.mp hnew
      exact Or.inl ⟨entry.1, mem_drained_networkInterfaces hentry⟩
    · exact Or.inr hold

end Commit

end InterfaceManagerWorker

end RustyRouter
