/-
# What events do to ids and statuses

The entries of a table are the ids and statuses of its items: what it says, with
neither slots nor clock readings.  On entries an event is a function.  A link
event replaces whatever shares a key with its device (`LinkChange.entries`).  On
the interfaces every event is an edit, entry by entry: it changes the entry of
its index, or removes it, and leaves every other entry as it is
(`entries_networkInterfaces_messageReceived`).
-/
import RustyRouter.LinkEvents

namespace RustyRouter

open KeyedStore InterfaceManagerWorker InterfaceManagerNetlinkSocketListener

/-! ## Entries -/

section Entries

variable {T : Type}

/-- The id and the status of an item. -/
def NetworkStatusItem.entry (item : NetworkStatusItem T) : CanonicalNetworkId × T :=
  (item.id, item.status)

/-- The entries of a table. -/
def entries (content : List (NetworkStatusItem T)) : Set (CanonicalNetworkId × T) :=
  {e | ∃ item ∈ content, item.entry = e}

/-- Two databases say the same. -/
structure SameEntries (db db' : InterfaceManagerDatabase) : Prop where
  networkLinks : entries db.networkLinks.content = entries db'.networkLinks.content
  networkInterfaces : entries db.networkInterfaces.content = entries db'.networkInterfaces.content

/-- The entries after each is edited: changed, or removed. -/
def edited (edit : CanonicalNetworkId × T → Option (CanonicalNetworkId × T))
    (es : Set (CanonicalNetworkId × T)) : Set (CanonicalNetworkId × T) :=
  {e' | ∃ e ∈ es, edit e = some e'}

variable {content : List (NetworkStatusItem T)}
  {edit : CanonicalNetworkId × T → Option (CanonicalNetworkId × T)}

theorem edited_of_unchanged {es : Set (CanonicalNetworkId × T)} (h : ∀ e ∈ es, edit e = some e) :
    edited edit es = es := by
  ext e'
  constructor
  · rintro ⟨e, he, heq⟩
    rw [h e he, Option.some.injEq] at heq
    exact heq ▸ he
  · intro he
    exact ⟨e', he, h e' he⟩

/-- Two edits that leave the entries that the other changes alone can be made in either order. -/
theorem edited_comm {edit' : CanonicalNetworkId × T → Option (CanonicalNetworkId × T)}
    (h : ∀ e, (edit e).bind edit' = (edit' e).bind edit) (es : Set (CanonicalNetworkId × T)) :
    edited edit' (edited edit es) = edited edit (edited edit' es) := by
  have hbind : ∀ f g : CanonicalNetworkId × T → Option (CanonicalNetworkId × T),
      edited g (edited f es) = {e' | ∃ e ∈ es, (f e).bind g = some e'} := by
    intro f g
    ext e'
    constructor
    · rintro ⟨middle, ⟨e, he, hf⟩, hg⟩
      exact ⟨e, he, by rw [hf, Option.bind_some, hg]⟩
    · rintro ⟨e, he, heq⟩
      obtain ⟨middle, hf, hg⟩ := Option.bind_eq_some_iff.mp heq
      exact ⟨middle, ⟨e, he, hf⟩, hg⟩
  rw [hbind, hbind]
  simp only [h]

section Replaced

variable (hseparated : Separated CanonicalNetworkId.keys NetworkStatusItem.id content)
  {item : NetworkStatusItem T} (hitem : item ∈ content)
  (hother : ∀ other ∈ content, other ≠ item → edit other.entry = some other.entry)
include hseparated hitem hother

/-- An item put in the place of one whose keys it keeps edits the entries. -/
theorem entries_putItem {new : NetworkStatusItem T} (hsubset : new.id.keys ⊆ item.id.keys)
    (hkeys : new.id.keys ≠ []) (hnew : edit item.entry = some new.entry) :
    entries (putItem new content) = edited edit (entries content) := by
  ext e'
  constructor
  · rintro ⟨b, hb, rfl⟩
    rcases (hseparated.mem_put_of_subset hitem hsubset hkeys).mp hb with rfl | ⟨hb, hne⟩
    · exact ⟨item.entry, ⟨item, hitem, rfl⟩, hnew⟩
    · exact ⟨b.entry, ⟨b, hb, rfl⟩, hother b hb hne⟩
  · rintro ⟨-, ⟨b, hb, rfl⟩, heq⟩
    by_cases hne : b = item
    · rw [hne, hnew, Option.some.injEq] at heq
      exact ⟨new, (hseparated.mem_put_of_subset hitem hsubset hkeys).mpr (Or.inl rfl), heq⟩
    · rw [hother b hb hne, Option.some.injEq] at heq
      exact ⟨b, (hseparated.mem_put_of_subset hitem hsubset hkeys).mpr (Or.inr ⟨hb, hne⟩), heq⟩

/-- Evicting keys of one item edits the entries. -/
theorem entries_evictId {id : CanonicalNetworkId} (hsubset : id.keys ⊆ item.id.keys)
    (hkeys : id.keys ≠ []) (hnone : edit item.entry = none) :
    entries (evictId id content) = edited edit (entries content) := by
  ext e'
  constructor
  · rintro ⟨b, hb, rfl⟩
    obtain ⟨hb, hne⟩ := (hseparated.mem_evict_of_subset hitem hsubset hkeys).mp hb
    exact ⟨b.entry, ⟨b, hb, rfl⟩, hother b hb hne⟩
  · rintro ⟨-, ⟨b, hb, rfl⟩, heq⟩
    have hne : b ≠ item := by
      rintro rfl
      rw [hnone] at heq
      cases heq
    rw [hother b hb hne, Option.some.injEq] at heq
    exact ⟨b, (hseparated.mem_evict_of_subset hitem hsubset hkeys).mpr ⟨hb, hne⟩, heq⟩

end Replaced

end Entries

/-! ## Events -/

/-- What the kernel says in an event. -/
inductive KernelEvent : Type where
  | newLink (index : UInt64) (link : NetworkLinkStatus)
  | delLink (index : UInt64) (link : NetworkLinkStatus)
  | newAddress (index : UInt64) (address : IpAddress)
  | delAddress (index : UInt64) (address : IpAddress)
  deriving DecidableEq

namespace KernelEvent

/-- What a message says, if it is about a link or an address and can be read. -/
def ofMessage (config : Router) (message : NetlinkMessage) : Option KernelEvent :=
  match message.payload with
  | .innerMessage (.newLink _) =>
    ((NetlinkMessageProcessor.new config).processLinkMessage message).map
      fun (index, link) => newLink index link
  | .innerMessage (.delLink _) =>
    ((NetlinkMessageProcessor.new config).processLinkMessage message).map
      fun (index, link) => delLink index link
  | .innerMessage (.newAddress _) =>
    (NetlinkMessageProcessor.processAddressMessage message).map
      fun (index, address) => newAddress index address
  | .innerMessage (.delAddress _) =>
    (NetlinkMessageProcessor.processAddressMessage message).map
      fun (index, address) => delAddress index address
  | _ => none

/-- The device index that an event is about. -/
def index : KernelEvent → UInt64
  | newLink index _ | delLink index _ | newAddress index _ | delAddress index _ => index

/-- The device name that an event is about. -/
def device : KernelEvent → Option String
  | newLink _ link | delLink _ link => some link.device
  | newAddress _ _ | delAddress _ _ => none

/-- The change that an event makes to the links. -/
def linkChange : KernelEvent → Option LinkChange
  | newLink index link => some (.added index link)
  | delLink _ link => some (.removed link)
  | newAddress _ _ | delAddress _ _ => none

/-- The handling of an event. -/
def received (event : Event) (db : InterfaceManagerDatabase) :
    KernelEvent → InterfaceManagerDatabase
  | newLink index link => (newLinkReceived event index link db).1
  | delLink index link => delLinkReceived event index link db
  | newAddress index address => addressReceived (withAddress address) event index db
  | delAddress index address => addressReceived (withoutAddress address) event index db

theorem ofEvent_eq (config : Router) (event : Event) :
    LinkChange.ofEvent config event = (ofMessage config event.message).bind linkChange := by
  obtain ⟨⟨length, sequenceNumber, payload⟩, linkNow, interfaceNow⟩ := event
  cases payload with
  | innerMessage message =>
    cases message
    all_goals simp only [LinkChange.ofEvent, ofMessage]
    · cases (NetlinkMessageProcessor.new config).processLinkMessage _ <;> rfl
    · cases (NetlinkMessageProcessor.new config).processLinkMessage _ <;> rfl
    · cases NetlinkMessageProcessor.processAddressMessage _ <;> rfl
    · cases NetlinkMessageProcessor.processAddressMessage _ <;> rfl
    · rfl
  | _ => rfl

theorem device_of_linkChange {kernelEvent : KernelEvent} {change : LinkChange}
    (h : kernelEvent.linkChange = some change) : kernelEvent.device = some change.link.device := by
  cases kernelEvent <;> cases h <;> rfl

theorem index_of_linkChange {kernelEvent : KernelEvent} {change : LinkChange}
    (h : kernelEvent.linkChange = some change) {index : UInt64} (hindex : change.index = some index) :
    index = kernelEvent.index := by
  cases kernelEvent <;> cases h <;> cases hindex
  rfl

/-- An event is handled as what its message says. -/
theorem messageReceived_eq (config : Router) (event : Event) (db : InterfaceManagerDatabase) :
    (messageReceived (.new config) event db).1 =
      (ofMessage config event.message).elim db (received event db) := by
  obtain ⟨⟨length, sequenceNumber, payload⟩, linkNow, interfaceNow⟩ := event
  cases payload with
  | innerMessage message =>
    cases message
    all_goals simp only [messageReceived, ofMessage]
    · cases (NetlinkMessageProcessor.new config).processLinkMessage _ <;> rfl
    · cases (NetlinkMessageProcessor.new config).processLinkMessage _ <;> rfl
    · cases NetlinkMessageProcessor.processAddressMessage _ <;> rfl
    · cases NetlinkMessageProcessor.processAddressMessage _ <;> rfl
    · rfl
  | _ => rfl

/-! ### Interfaces -/

/-- Whether an event is about the interface of an entry. -/
def Concerns (kernelEvent : KernelEvent) (e : CanonicalNetworkId × NetworkInterfaceStatus) : Prop :=
  e.1.id = some kernelEvent.index ∧
    ∀ device ∈ kernelEvent.device, e.2.networkLinkStatus.device = device

instance (kernelEvent : KernelEvent) (e : CanonicalNetworkId × NetworkInterfaceStatus) :
    Decidable (kernelEvent.Concerns e) :=
  inferInstanceAs (Decidable (_ ∧ _))

/-- What becomes of the interface that an event is about. -/
def change (e : CanonicalNetworkId × NetworkInterfaceStatus) :
    KernelEvent → Option (CanonicalNetworkId × NetworkInterfaceStatus)
  | newLink index link =>
    some (⟨some index, e.2.name, some e.2.networkLinkStatus.device⟩,
      ⟨e.2.name, e.2.addresses, link⟩)
  | delLink _ link =>
    if e.2.name.isSome then
      some (⟨none, e.2.name, some e.2.networkLinkStatus.device⟩,
        ⟨e.2.name, e.2.addresses, deletedLinkStatus link⟩)
    else none
  | newAddress _ address =>
    some (e.1, ⟨e.2.name, withAddress address e.2.addresses, e.2.networkLinkStatus⟩)
  | delAddress _ address =>
    some (e.1, ⟨e.2.name, withoutAddress address e.2.addresses, e.2.networkLinkStatus⟩)

/-- What becomes of an entry. -/
def edit (kernelEvent : KernelEvent)
    (e : CanonicalNetworkId × NetworkInterfaceStatus) :
    Option (CanonicalNetworkId × NetworkInterfaceStatus) :=
  if kernelEvent.Concerns e then kernelEvent.change e else some e

theorem edit_of_concerns {kernelEvent : KernelEvent}
    {e : CanonicalNetworkId × NetworkInterfaceStatus} (h : kernelEvent.Concerns e) :
    kernelEvent.edit e = kernelEvent.change e :=
  if_pos h

theorem edit_of_not_concerns {kernelEvent : KernelEvent}
    {e : CanonicalNetworkId × NetworkInterfaceStatus} (h : ¬ kernelEvent.Concerns e) :
    kernelEvent.edit e = some e :=
  if_neg h

/-- An event changes neither the name of an interface nor its device. -/
theorem name_device_of_edit {kernelEvent : KernelEvent}
    {e e' : CanonicalNetworkId × NetworkInterfaceStatus} (h : kernelEvent.edit e = some e') :
    e'.2.name = e.2.name ∧ e'.2.networkLinkStatus.device = e.2.networkLinkStatus.device := by
  by_cases hconcerns : kernelEvent.Concerns e
  · rw [edit_of_concerns hconcerns] at h
    cases kernelEvent with
    | newLink index link =>
      cases h
      exact ⟨rfl, (hconcerns.2 link.device rfl).symm⟩
    | delLink index link =>
      rw [change] at h
      split_ifs at h
      cases h
      refine ⟨rfl, (device_deletedLinkStatus link).trans ?_⟩
      exact (hconcerns.2 link.device rfl).symm
    | newAddress index address =>
      cases h
      exact ⟨rfl, rfl⟩
    | delAddress index address =>
      cases h
      exact ⟨rfl, rfl⟩
  · rw [edit_of_not_concerns hconcerns, Option.some.injEq] at h
    exact h ▸ ⟨rfl, rfl⟩

section Received

variable {config : Router} {db : InterfaceManagerDatabase} (h : ManagerInvariant config db)
include h

/-- An event is about one interface. -/
theorem edit_other (kernelEvent : KernelEvent) {item other : InterfaceItem}
    (hitem : item ∈ db.networkInterfaces.content) (hindex : item.id.id = some kernelEvent.index)
    (hother : other ∈ db.networkInterfaces.content) (hne : other ≠ item) :
    kernelEvent.edit other.entry = some other.entry := by
  apply edit_of_not_concerns
  rintro ⟨hindex', -⟩
  refine hne (h.coherent.networkInterfaces.separated.eq_of_clash hother hitem ?_)
  exact CanonicalNetworkId.clash_of_index hindex' hindex

/-- A change of addresses is an edit of the interfaces. -/
theorem entries_addressReceived (kernelEvent : KernelEvent) (event : Event)
    (hdevice : kernelEvent.device = none) {addresses : List IpAddress → List IpAddress}
    (hchange : ∀ e, kernelEvent.change e =
      some (e.1, ⟨e.2.name, addresses e.2.addresses, e.2.networkLinkStatus⟩)) :
    entries (addressReceived addresses event kernelEvent.index db).networkInterfaces.content =
      edited kernelEvent.edit (entries db.networkInterfaces.content) := by
  have hconcerns : ∀ item : InterfaceItem, kernelEvent.Concerns item.entry ↔
      item.id.id = some kernelEvent.index := by
    intro item
    rw [Concerns, hdevice]
    exact and_iff_left fun device hnone => absurd hnone (Option.not_mem_none device)
  obtain ⟨-, -, hinterfaces⟩ :=
    addressReceived_spec h.coherent event kernelEvent.index addresses
  rcases hinterfaces with ⟨heq, hfree⟩ | ⟨item, hitem, hindex, heq⟩
  · rw [heq, edited_of_unchanged]
    rintro - ⟨item, hitem, rfl⟩
    exact edit_of_not_concerns fun hindex => hfree item hitem ((hconcerns item).mp hindex)
  · rw [heq]
    refine entries_putItem h.coherent.networkInterfaces.separated hitem
      (fun other => edit_other h kernelEvent hitem hindex) (List.Subset.refl _) ?_ ?_
    · exact List.ne_nil_of_mem (CanonicalNetworkId.index_mem_keys.mpr hindex)
    · rw [edit_of_concerns ((hconcerns item).mpr hindex), hchange]
      rfl

/-- On entries, the handling of an event is an edit of the interfaces. -/
theorem entries_networkInterfaces_received (kernelEvent : KernelEvent) (event : Event) :
    entries (kernelEvent.received event db).networkInterfaces.content =
      edited kernelEvent.edit (entries db.networkInterfaces.content) := by
  have hseparated := h.coherent.networkInterfaces.separated
  -- an event that concerns no interface edits none
  have hunchanged : (∀ item ∈ db.networkInterfaces.content, ¬ kernelEvent.Concerns item.entry) →
      edited kernelEvent.edit (entries db.networkInterfaces.content) =
        entries db.networkInterfaces.content := by
    intro hfree
    apply edited_of_unchanged
    rintro - ⟨item, hitem, rfl⟩
    exact edit_of_not_concerns (hfree item hitem)
  cases kernelEvent with
  | newLink index link =>
    obtain ⟨db', updates, hreceived, -, -, hinterfaces⟩ :=
      newLinkReceived_spec h.coherent event index link
    rw [received, hreceived]
    rcases hinterfaces with ⟨heq, -, hfree⟩ | ⟨item, hitem, hindex, hdevice, heq, -⟩
    · rw [heq, hunchanged]
      rintro item hitem ⟨hindex, hdevice⟩
      exact hfree item hitem hindex (hdevice _ rfl)
    · rw [heq]
      refine entries_putItem hseparated hitem (fun other => edit_other h (newLink index link) hitem hindex)
        (keys_updatedInterface (h.interfaces item hitem) hindex (Or.inl rfl) _ _) ?_ ?_
      · simp [updatedInterface, CanonicalNetworkId.keys]
      · refine edit_of_concerns ⟨hindex, ?_⟩
        rintro device ⟨⟩
        exact hdevice
  | delLink index link =>
    obtain ⟨-, -, hinterfaces⟩ := delLinkReceived_spec h.coherent event index link
    rw [received]
    rcases hinterfaces with ⟨heq, hfree⟩ | ⟨item, hitem, hindex, hdevice, heq⟩
    · rw [heq, hunchanged]
      rintro item hitem ⟨hindex, hdevice⟩
      exact hfree item hitem hindex (hdevice _ rfl)
    · have hconcerns : (delLink index link).Concerns item.entry := by
        refine ⟨hindex, ?_⟩
        rintro device ⟨⟩
        exact hdevice
      have hsubset := keys_updatedInterface (h.interfaces item hitem) hindex (Or.inr rfl)
        (deletedLinkStatus link) event.interfaceNow
      have hkeys : (updatedInterface none (deletedLinkStatus link) event.interfaceNow
          item).id.keys ≠ [] := by
        simp [updatedInterface, CanonicalNetworkId.keys]
      rw [heq]
      split_ifs with hname
      · refine entries_putItem hseparated hitem
          (fun other => edit_other h (delLink index link) hitem hindex) hsubset hkeys ?_
        rw [edit_of_concerns hconcerns]
        exact if_pos hname
      · refine entries_evictId hseparated hitem
          (fun other => edit_other h (delLink index link) hitem hindex) hsubset hkeys ?_
        rw [edit_of_concerns hconcerns]
        exact if_neg hname
  | newAddress index address =>
    exact entries_addressReceived h (newAddress index address) event rfl fun _ => rfl
  | delAddress index address =>
    exact entries_addressReceived h (delAddress index address) event rfl fun _ => rfl

/-- On entries, an event is an edit of the interfaces. -/
theorem entries_networkInterfaces_messageReceived (event : Event) :
    entries (messageReceived (.new config) event db).1.networkInterfaces.content =
      (ofMessage config event.message).elim (entries db.networkInterfaces.content)
        fun kernelEvent => edited kernelEvent.edit (entries db.networkInterfaces.content) := by
  rw [messageReceived_eq]
  cases ofMessage config event.message with
  | none => rfl
  | some kernelEvent => exact entries_networkInterfaces_received h kernelEvent event

end Received

end KernelEvent

/-! ### Links -/

namespace LinkChange

/-- The entry that a change leaves. -/
def entry (change : LinkChange) : Option (CanonicalNetworkId × NetworkLinkStatus) :=
  (change.leaves 0).map NetworkStatusItem.entry

theorem map_entry_leaves (change : LinkChange) (now : Instant) :
    (change.leaves now).map NetworkStatusItem.entry = change.entry := by
  cases change with
  | added index link => rfl
  | removed link =>
    rw [entry, leaves, leaves]
    split_ifs <;> rfl

/-- The entries of the links after a change. -/
def entries (change : LinkChange) (es : Set (CanonicalNetworkId × NetworkLinkStatus)) :
    Set (CanonicalNetworkId × NetworkLinkStatus) :=
  {e | change.entry = some e ∨ (e ∈ es ∧ ¬ Clash CanonicalNetworkId.keys e.1 change.id)}

theorem entries_store (change : LinkChange) (now : Instant) (content : List LinkItem) :
    RustyRouter.entries (change.store now content) =
      change.entries (RustyRouter.entries content) := by
  ext e
  constructor
  · rintro ⟨item, hitem, rfl⟩
    rcases mem_store.mp hitem with hleaves | ⟨hitem, hfree⟩
    · left
      rw [← map_entry_leaves change now, hleaves]
      rfl
    · exact Or.inr ⟨⟨item, hitem, rfl⟩, hfree⟩
  · rintro (hentry | ⟨⟨item, hitem, rfl⟩, hfree⟩)
    · rw [← map_entry_leaves change now] at hentry
      obtain ⟨item, hleaves, rfl⟩ := Option.map_eq_some_iff.mp hentry
      exact ⟨item, mem_store.mpr (Or.inl hleaves), rfl⟩
    · exact ⟨item, mem_store.mpr (Or.inr ⟨hitem, hfree⟩), rfl⟩

/-- What a change leaves is stored under its id. -/
theorem id_of_entry {change : LinkChange} {e : CanonicalNetworkId × NetworkLinkStatus}
    (h : change.entry = some e) : e.1 = change.id := by
  obtain ⟨item, hleaves, rfl⟩ := Option.map_eq_some_iff.mp h
  exact (eq_of_leaves hleaves).1

end LinkChange

/-- On entries, an event replaces what shares a key with its device. -/
theorem entries_networkLinks_messageReceived {config : Router} {db : InterfaceManagerDatabase}
    (h : InterfaceManagerDatabase.Coherent db) (event : Event) :
    entries (messageReceived (.new config) event db).1.networkLinks.content =
      (LinkChange.ofEvent config event).elim (entries db.networkLinks.content)
        fun change => change.entries (entries db.networkLinks.content) := by
  rw [networkLinks_messageReceived h]
  cases LinkChange.ofEvent config event with
  | none => rfl
  | some change => exact change.entries_store event.linkNow db.networkLinks.content

/-! ## Runs -/

section Runs

variable {config : Router}

/-- What the interface table of a run says. -/
abbrev interfaceEntries (config : Router) (steps : List ManagerStep) :
    Set (CanonicalNetworkId × NetworkInterfaceStatus) :=
  entries (InterfaceManager.run config steps).networkInterfaces.content

theorem interfaceEntries_event (before : List ManagerStep) (event : Event) :
    interfaceEntries config (before ++ [.event event]) =
      (KernelEvent.ofMessage config event.message).elim (interfaceEntries config before)
        fun kernelEvent => edited kernelEvent.edit (interfaceEntries config before) := by
  rw [interfaceEntries, InterfaceManager.run_append_singleton]
  exact KernelEvent.entries_networkInterfaces_messageReceived (ManagerInvariant.run config before)
    event

/-- What holds of everything that a view can have and survives every edit holds of every interface
that a run stores. -/
theorem forall_interfaceEntries {P : CanonicalNetworkId × NetworkInterfaceStatus → Prop}
    (hpoll : ∀ linkData id status, Candidate config (reportedLinks config linkData) id status →
      P (id, status))
    (hedit : ∀ kernelEvent e e', P e → KernelEvent.edit kernelEvent e = some e' → P e')
    (steps : List ManagerStep) : ∀ e ∈ interfaceEntries config steps, P e := by
  -- a poll leaves what its view has and some of what was stored, an event what it edits
  apply InterfaceManager.run_induction
    (P := fun db => ∀ e ∈ entries db.networkInterfaces.content, P e)
  · rintro - ⟨item, hitem, rfl⟩
    exact absurd hitem List.not_mem_nil
  · rintro db input linkData networkData hinvariant ih - ⟨item, hitem, rfl⟩
    rcases (commit_coherent config input linkData networkData hinvariant.coherent).2.2 item hitem with
      ⟨id, status, hcandidate, heq⟩ | hold
    · rw [show item = ⟨id, status, input.interfaceNow id⟩ from heq]
      exact hpoll linkData id status hcandidate
    · exact ih item.entry ⟨item, hold, rfl⟩
  · intro db event hinvariant ih
    rw [KernelEvent.entries_networkInterfaces_messageReceived hinvariant event]
    cases KernelEvent.ofMessage config event.message with
    | none => exact ih
    | some kernelEvent =>
      rintro e' ⟨e, he, hedit'⟩
      exact hedit kernelEvent e e' (ih e he) hedit'

/-- What holds of every link that a view can have and of everything that a link event leaves holds of
every link that a run stores. -/
theorem forall_linkEntries {P : CanonicalNetworkId × NetworkLinkStatus → Prop}
    (hpoll : ∀ linkData id status, ViewLink config (reportedLinks config linkData) id status →
      P (id, status))
    (hchange : ∀ event change e, LinkChange.ofEvent config event = some change →
      change.entry = some e → P e)
    (steps : List ManagerStep) :
    ∀ e ∈ entries (InterfaceManager.run config steps).networkLinks.content, P e := by
  apply InterfaceManager.run_induction (P := fun db => ∀ e ∈ entries db.networkLinks.content, P e)
  · rintro - ⟨item, hitem, rfl⟩
    exact absurd hitem List.not_mem_nil
  · rintro db input linkData networkData hinvariant ih - ⟨item, hitem, rfl⟩
    rcases (commit_coherent config input linkData networkData hinvariant.coherent).2.1 item hitem with
      ⟨id, status, hview, rfl⟩ | hold
    · exact hpoll linkData id status hview
    · exact ih item.entry ⟨item, hold, rfl⟩
  · intro db event hinvariant ih
    rw [entries_networkLinks_messageReceived hinvariant.coherent]
    cases hevent : LinkChange.ofEvent config event with
    | none => exact ih
    | some change =>
      rintro e (hentry | ⟨he, -⟩)
      · exact hchange event change e hevent hentry
      · exact ih e he

end Runs

end RustyRouter
