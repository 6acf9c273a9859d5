/-
# What events say about links

`NewLink` and `DelLink` each speak of one device (`LinkChange`).  The link table
follows what they say, and every other event leaves it alone
(`networkLinks_messageReceived`).  Since no two devices have one name, an event
about one device drops the link of another only by taking its index
(`mem_messageReceived_of_other`).  So what is stored for a device after some
events is what the last of those about it left, unless a later one took its index
(`mem_run_of_lastChange`).
-/
import RustyRouter.ManagerInvariant

namespace RustyRouter

open KeyedStore InterfaceManagerWorker InterfaceManagerNetlinkSocketListener

/-- What an event says about a device. -/
inductive LinkChange : Type where
  | added (index : UInt64) (link : NetworkLinkStatus)
  | removed (link : NetworkLinkStatus)
  deriving DecidableEq

namespace LinkChange

/-- The link that a change is about. -/
def link : LinkChange → NetworkLinkStatus
  | added _ link => link
  | removed link => link

/-- The index that a change gives to its device. -/
def index : LinkChange → Option UInt64
  | added index _ => some index
  | removed _ => none

/-- The change that an event reports, if it is `NewLink` or `DelLink`. -/
def ofEvent (config : Router) (event : Event) : Option LinkChange :=
  match event.message.payload with
  | .innerMessage (.newLink _) =>
    ((NetlinkMessageProcessor.new config).processLinkMessage event.message).map
      fun (index, link) => added index link
  | .innerMessage (.delLink _) =>
    ((NetlinkMessageProcessor.new config).processLinkMessage event.message).map
      fun (_, link) => removed link
  | _ => none

/-- The id under which a change is stored. -/
def id (change : LinkChange) : CanonicalNetworkId :=
  ⟨change.index, change.link.name, some change.link.device⟩

/-- The item that a change leaves: a removed device stays listed when it is configured. -/
def leaves (now : Instant) : LinkChange → Option LinkItem
  | added index link => some ⟨(added index link).id, link, now⟩
  | removed link =>
    if link.name.isSome then some ⟨(removed link).id, deletedLinkStatus link, now⟩ else none

/-- The links after a change. -/
def store (now : Instant) (content : List LinkItem) (change : LinkChange) : List LinkItem :=
  (change.leaves now).toList ++ evictId change.id content

theorem mem_store {now : Instant} {content : List LinkItem} {change : LinkChange}
    {item : LinkItem} : item ∈ change.store now content ↔
      change.leaves now = some item ∨
        (item ∈ content ∧ ¬ Clash CanonicalNetworkId.keys item.id change.id) := by
  rw [store, List.mem_append, Option.mem_toList, mem_evict]

/-- What a change leaves is on its device, under its id. -/
theorem eq_of_leaves {now : Instant} {change : LinkChange} {item : LinkItem}
    (h : change.leaves now = some item) :
    item.id = change.id ∧ item.status.device = change.link.device ∧ item.refreshed = now := by
  cases change with
  | added index link =>
    cases h
    exact ⟨rfl, rfl, rfl⟩
  | removed link =>
    rw [leaves] at h
    split_ifs at h
    cases h
    exact ⟨rfl, device_deletedLinkStatus link, rfl⟩

/-- A change of a named link leaves an item of that name. -/
theorem exists_leaves_of_name (now : Instant) {change : LinkChange} {name : String}
    (h : change.link.name = some name) :
    ∃ item, change.leaves now = some item ∧ item.id.name = some name := by
  cases change with
  | added index link => exact ⟨_, rfl, h⟩
  | removed link =>
    have hlink : link.name = some name := h
    refine ⟨⟨(removed link).id, deletedLinkStatus link, now⟩, ?_, h⟩
    rw [leaves, hlink, Option.isSome_some, if_pos rfl]

/-- What the removal of a device leaves has no index and is not found. -/
theorem notFound_of_leaves {now : Instant} {link : NetworkLinkStatus} {item : LinkItem}
    (h : (removed link).leaves now = some item) :
    item.id.id = none ∧ item.status.operationalState = .notFound := by
  rw [leaves] at h
  split_ifs at h with hsome
  cases h
  obtain ⟨name, hname⟩ := Option.isSome_iff_exists.mp hsome
  refine ⟨rfl, ?_⟩
  rw [deletedLinkStatus_of_name hname]
  rfl

end LinkChange

section Changes

variable {config : Router} {event : Event}

theorem LinkChange.ofEvent_eq_added {index : UInt64} {link : NetworkLinkStatus}
    (h : ofEvent config event = some (added index link)) :
    (∃ message, event.message.payload = .innerMessage (.newLink message)) ∧
      (NetlinkMessageProcessor.new config).processLinkMessage event.message = some (index, link) ∧
      ∀ db, messageReceived (.new config) event db = newLinkReceived event index link db := by
  unfold ofEvent at h
  split at h
  case h_1 message hmessage =>
    obtain ⟨⟨index', link'⟩, hlink, heq⟩ := Option.map_eq_some_iff.mp h
    cases heq
    refine ⟨⟨message, hmessage⟩, hlink, fun db => ?_⟩
    simp only [messageReceived, hmessage, hlink]
  case h_2 =>
    obtain ⟨_, -, heq⟩ := Option.map_eq_some_iff.mp h
    cases heq
  case h_3 => cases h

theorem LinkChange.ofEvent_eq_removed {link : NetworkLinkStatus}
    (h : ofEvent config event = some (removed link)) :
    ∃ index,
      (NetlinkMessageProcessor.new config).processLinkMessage event.message = some (index, link) ∧
        ∀ db, messageReceived (.new config) event db = (delLinkReceived event index link db, []) := by
  unfold ofEvent at h
  split at h
  case h_1 =>
    obtain ⟨_, -, heq⟩ := Option.map_eq_some_iff.mp h
    cases heq
  case h_2 message hmessage =>
    obtain ⟨⟨index, link'⟩, hlink, heq⟩ := Option.map_eq_some_iff.mp h
    cases heq
    refine ⟨index, hlink, fun db => ?_⟩
    simp only [messageReceived, hmessage, hlink]
  case h_3 => cases h

/-- The device of a change has the name that the configuration gives it. -/
theorem LinkChange.name_of_ofEvent {change : LinkChange} (h : ofEvent config event = some change) :
    change.link.name = (NetlinkMessageProcessor.new config).deviceLinks.lookup change.link.device ∧
      change.link.operationalState.reported := by
  cases change with
  | added index link =>
    exact NetlinkMessageProcessor.processLinkMessage_eq_some (ofEvent_eq_added h).2.1
  | removed link =>
    obtain ⟨index, hlink, -⟩ := ofEvent_eq_removed h
    exact NetlinkMessageProcessor.processLinkMessage_eq_some hlink

/-- What an event does to the links. -/
theorem networkLinks_messageReceived {db : InterfaceManagerDatabase}
    (h : InterfaceManagerDatabase.Coherent db) :
    (messageReceived (.new config) event db).1.networkLinks.content =
      match LinkChange.ofEvent config event with
      | some change => change.store event.linkNow db.networkLinks.content
      | none => db.networkLinks.content := by
  cases hchange : LinkChange.ofEvent config event with
  | none =>
    rcases messageReceived_cases (.new config) event db with
      hsame | ⟨index, link, hlink, ⟨_, hmessage, -⟩ | ⟨_, hmessage, -⟩⟩ | ⟨change, index, haddress⟩
    · rw [hsame]
    · simp [LinkChange.ofEvent, hmessage, hlink] at hchange
    · simp [LinkChange.ofEvent, hmessage, hlink] at hchange
    · rw [haddress, (addressReceived_spec h event index change).2.1]
  | some change =>
    cases change with
    | added index link =>
      obtain ⟨db', updates, hreceived, -, hlinks, -⟩ := newLinkReceived_spec h event index link
      rw [(LinkChange.ofEvent_eq_added hchange).2.2, hreceived]
      exact hlinks
    | removed link =>
      obtain ⟨index, -, hreceived⟩ := LinkChange.ofEvent_eq_removed hchange
      rw [hreceived, (delLinkReceived_spec h event index link).2.1]
      dsimp only
      rw [LinkChange.store, LinkChange.leaves]
      split_ifs <;> rfl

end Changes

/-! ## The link of a device -/

section Device

variable {config : Router} (hdevices : config.DistinctDevices)
include hdevices

omit hdevices in
/-- Ids on different devices, each with the name that its device is mapped to, share no key but an
index. -/
theorem CanonicalNetworkId.index_eq_of_clash {id id' : CanonicalNetworkId} {device device' : String}
    (hdevice : id.device = some device)
    (hname : id.name = (NetlinkMessageProcessor.new config).deviceLinks.lookup device)
    (hdevice' : id'.device = some device')
    (hname' : id'.name = (NetlinkMessageProcessor.new config).deviceLinks.lookup device')
    (hother : device' ≠ device) (hclash : Clash CanonicalNetworkId.keys id id') :
    ∃ index, id.id = some index ∧ id'.id = some index := by
  obtain ⟨key, hkey, hkey'⟩ := hclash
  cases key with
  | name name =>
    rw [CanonicalNetworkId.name_mem_keys, hname] at hkey
    rw [CanonicalNetworkId.name_mem_keys, hname'] at hkey'
    exact absurd (NetlinkMessageProcessor.deviceLinks_injective hkey' hkey) hother
  | device shared =>
    rw [CanonicalNetworkId.device_mem_keys, hdevice, Option.some.injEq] at hkey
    rw [CanonicalNetworkId.device_mem_keys, hdevice', Option.some.injEq] at hkey'
    exact absurd (hkey'.trans hkey.symm) hother
  | index index =>
    exact ⟨index, CanonicalNetworkId.index_mem_keys.mp hkey,
      CanonicalNetworkId.index_mem_keys.mp hkey'⟩

/-- A stored link shares no key but its index with an id on another device. -/
theorem LinkInvariant.index_eq_of_clash {item : LinkItem} (h : LinkInvariant config item)
    {id : CanonicalNetworkId} {device : String} (hdevice : id.device = some device)
    (hname : id.name = (NetlinkMessageProcessor.new config).deviceLinks.lookup device)
    (hother : device ≠ item.status.device)
    (hclash : Clash CanonicalNetworkId.keys item.id id) :
    ∃ index, item.id.id = some index ∧ id.id = some index :=
  CanonicalNetworkId.index_eq_of_clash h.device_eq (h.name_eq_lookup hdevices) hdevice hname hother
    hclash

/-- No event after a change is about its device. -/
def LastChange (config : Router) (change : LinkChange) (after : List Event) : Prop :=
  ∀ event ∈ after, ∀ change', LinkChange.ofEvent config event = some change' →
    change'.link.device ≠ change.link.device

/-- Some event gives an index to a device. -/
def TakesIndex (config : Router) (index : UInt64) (event : Event) : Prop :=
  ∃ link, LinkChange.ofEvent config event = some (.added index link)

/-- An event that is not about the device of a link drops the link if and only if it gives its
index to another device. -/
theorem mem_messageReceived_of_other {db : InterfaceManagerDatabase}
    (h : ManagerInvariant config db) {event : Event} {item : LinkItem}
    (hother : ∀ change, LinkChange.ofEvent config event = some change →
      change.link.device ≠ item.status.device) :
    item ∈ (messageReceived (.new config) event db).1.networkLinks.content ↔
      item ∈ db.networkLinks.content ∧
        ∀ index, item.id.id = some index → ¬ TakesIndex config index event := by
  rw [networkLinks_messageReceived h.coherent]
  cases hchange : LinkChange.ofEvent config event with
  | none => simp [TakesIndex, hchange]
  | some change =>
    have hname := (LinkChange.name_of_ofEvent hchange).1
    have hdevice := hother change hchange
    dsimp only
    rw [LinkChange.mem_store]
    constructor
    · rintro (hleaves | ⟨hitem, hfree⟩)
      · exact absurd (LinkChange.eq_of_leaves hleaves).2.1.symm hdevice
      · refine ⟨hitem, ?_⟩
        rintro index hindex ⟨link, htakes⟩
        rw [hchange, Option.some.injEq] at htakes
        subst htakes
        exact hfree (CanonicalNetworkId.clash_of_index hindex rfl)
    · rintro ⟨hitem, hfree⟩
      refine Or.inr ⟨hitem, fun hclash => ?_⟩
      obtain ⟨index, hindex, hid⟩ :=
        (h.links item hitem).index_eq_of_clash hdevices rfl hname hdevice hclash
      cases change with
      | added index' link =>
        obtain rfl : index' = index := Option.some.inj hid
        exact hfree index' hindex ⟨link, hchange⟩
      | removed link => cases hid

omit hdevices in
/-- What an event about a device leaves of it. -/
theorem mem_messageReceived_of_change {db : InterfaceManagerDatabase}
    (h : ManagerInvariant config db) {event : Event} {change : LinkChange}
    (hchange : LinkChange.ofEvent config event = some change) {item : LinkItem}
    (hdevice : item.status.device = change.link.device) :
    item ∈ (messageReceived (.new config) event db).1.networkLinks.content ↔
      change.leaves event.linkNow = some item := by
  rw [networkLinks_messageReceived h.coherent, hchange]
  dsimp only
  rw [LinkChange.mem_store]
  refine ⟨fun hitem => hitem.resolve_right ?_, Or.inl⟩
  rintro ⟨hold, hfree⟩
  refine hfree (CanonicalNetworkId.clash_of_device ?_ rfl)
  rw [(h.links item hold).device_eq, hdevice]

/-- **The last event about a device decides** what is stored for it, unless a later event gives its
index to another device. -/
theorem mem_run_of_lastChange (steps : List ManagerStep) {event : Event} {change : LinkChange}
    (hchange : LinkChange.ofEvent config event = some change) {after : List Event}
    (hlast : LastChange config change after) {item : LinkItem}
    (hdevice : item.status.device = change.link.device) :
    item ∈ (InterfaceManager.run config
        (steps ++ .event event :: after.map .event)).networkLinks.content ↔
      change.leaves event.linkNow = some item ∧
        ∀ index, item.id.id = some index → ∀ e ∈ after, ¬ TakesIndex config index e := by
  -- each later event is about another device and can only take the index away
  induction after using List.reverseRecOn with
  | nil =>
    rw [List.map_nil, InterfaceManager.run_append_singleton, ManagerStep.apply,
      mem_messageReceived_of_change (ManagerInvariant.run config steps) hchange hdevice]
    simp
  | append_singleton after e ih =>
    have hsplit : steps ++ ManagerStep.event event :: (after ++ [e]).map ManagerStep.event =
        (steps ++ ManagerStep.event event :: after.map ManagerStep.event) ++
          [ManagerStep.event e] := by
      simp
    have hother : ∀ change', LinkChange.ofEvent config e = some change' →
        change'.link.device ≠ item.status.device := by
      rw [hdevice]
      exact hlast e (by simp)
    rw [hsplit, InterfaceManager.run_append_singleton, ManagerStep.apply,
      mem_messageReceived_of_other hdevices (ManagerInvariant.run config _) hother,
      ih fun e' he' => hlast e' (List.mem_append_left _ he'), and_assoc]
    refine and_congr_right fun _ => ?_
    simp only [List.mem_append, List.mem_singleton, or_imp, forall_and, forall_eq]

end Device

end RustyRouter
