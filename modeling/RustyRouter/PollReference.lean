/-
# What a poll leaves in the tables

When no device is named by two links, no link by two interfaces, and the dump
reports distinct indices and devices, no two ids of a view share a key.  A poll
then leaves in each table exactly one item for each id of the view: the polled
one, or the old item of that very id where the hold rule keeps it
(`tryPoll_reference`).  Neither the order of the messages nor that of any map
has a part in it.

The hold rule is why the statuses are not always those of the view: an address
that appears within five seconds is not listed before a later poll, and the
addresses of a deleted link stay as long (`not_tryPoll_exact`).  What an item
without an index says of its link is exact nevertheless (`UnreportedInterfaces`).
-/
import RustyRouter.IndexlessInterfaces

namespace RustyRouter

open KeyedStore HashMap

namespace InterfaceManagerWorker

/-! ## The ids of a view do not clash -/

section Clashes

variable {config : Router} {linkData : List NetlinkMessage} {id id' : CanonicalNetworkId}

/-- The name of a listed link is the one that its device is mapped to. -/
theorem ViewLink.device_eq (hdevices : config.DistinctDevices) {status : NetworkLinkStatus}
    (h : ViewLink config (reportedLinks config linkData) id status) :
    id.device = some status.device ∧ id.name = status.name ∧
      status.name = (NetlinkMessageProcessor.new config).deviceLinks.lookup status.device := by
  cases h with
  | reported hr => exact ⟨rfl, rfl, name_of_mem_reportedLinks hr⟩
  | missing hlink _ =>
    exact ⟨rfl, rfl, (NetlinkMessageProcessor.lookup_deviceLinks hdevices hlink).symm⟩

/-- A device is listed once. -/
theorem ViewLink.eq_of_device (hdevices : config.DistinctDevices)
    (hreports : DistinctReports (reportedLinks config linkData)) {status status' : NetworkLinkStatus}
    (h : ViewLink config (reportedLinks config linkData) id status)
    (h' : ViewLink config (reportedLinks config linkData) id' status')
    (hdevice : status.device = status'.device) : id = id' := by
  have hname : status.name = status'.name := by
    rw [(h.device_eq hdevices).2.2, (h'.device_eq hdevices).2.2, hdevice]
  cases h with
  | reported hr =>
    cases h' with
    | reported hr' =>
      have heq := hreports.eq_of_device hr hr' hdevice
      rw [Prod.mk.injEq] at heq
      rw [heq.1, heq.2]
    | missing hlink' hunreported' => exact absurd hname (hunreported' _ hr)
  | missing hlink hunreported =>
    cases h' with
    | reported hr' => exact absurd hname.symm (hunreported _ hr')
    | missing hlink' hunreported' =>
      obtain rfl := Option.some.inj hname
      rw [hlink, Option.some.injEq] at hlink'
      rw [hlink']

/-- An id has one status in a view. -/
theorem ViewLink.status_eq
    (hreports : DistinctReports (reportedLinks config linkData)) {id : CanonicalNetworkId}
    {status status' : NetworkLinkStatus}
    (h : ViewLink config (reportedLinks config linkData) id status)
    (h' : ViewLink config (reportedLinks config linkData) id status') : status = status' := by
  generalize hid : id = id' at h'
  cases h with
  | reported hr =>
    cases h' with
    | missing => cases hid
    | reported hr' =>
      have hindex := congrArg CanonicalNetworkId.id hid
      exact congrArg Prod.snd (hreports.eq_of_index hr hr' (Option.some.inj hindex))
  | missing =>
    cases h' with
    | reported => cases hid
    | missing =>
      simp only [CanonicalNetworkId.mk.injEq, Option.some.injEq, true_and] at hid
      rw [hid.1, hid.2]

/-- No two links of a view share a key. -/
theorem ViewLink.eq_of_clash (hdevices : config.DistinctDevices)
    (hreports : DistinctReports (reportedLinks config linkData)) {status status' : NetworkLinkStatus}
    (h : ViewLink config (reportedLinks config linkData) id status)
    (h' : ViewLink config (reportedLinks config linkData) id' status')
    (hclash : Clash CanonicalNetworkId.keys id id') : id = id' := by
  obtain ⟨hdevice, hname, hmapped⟩ := h.device_eq hdevices
  obtain ⟨hdevice', hname', hmapped'⟩ := h'.device_eq hdevices
  obtain ⟨key, hkey, hkey'⟩ := hclash
  -- each kind of key leads to the device
  cases key with
  | name name =>
    rw [CanonicalNetworkId.name_mem_keys, hname, hmapped] at hkey
    rw [CanonicalNetworkId.name_mem_keys, hname', hmapped'] at hkey'
    exact h.eq_of_device hdevices hreports h'
      (NetlinkMessageProcessor.deviceLinks_injective hkey hkey')
  | device device =>
    rw [CanonicalNetworkId.device_mem_keys, hdevice, Option.some.injEq] at hkey
    rw [CanonicalNetworkId.device_mem_keys, hdevice', Option.some.injEq] at hkey'
    exact h.eq_of_device hdevices hreports h' (hkey.trans hkey'.symm)
  | index index =>
    rw [CanonicalNetworkId.index_mem_keys] at hkey hkey'
    cases h with
    | missing => cases hkey
    | reported hr =>
      cases h' with
      | missing => cases hkey'
      | reported hr' =>
        have heq := hreports.eq_of_index hr hr' (Option.some.inj (hkey.trans hkey'.symm))
        rw [Prod.mk.injEq] at heq
        rw [heq.1, heq.2]

variable {addresses : UInt64 → List IpAddress} {status status' : NetworkInterfaceStatus}

/-- The index and the device that a listed interface has through its network link. -/
inductive OnLink (config : Router) (reported : List (UInt64 × NetworkLinkStatus)) (name : String) :
    Option UInt64 → Option String → Prop where
  | reported {index : UInt64} {link : NetworkLinkStatus} (hreported : (index, link) ∈ reported)
      (hname : link.name = some name) : OnLink config reported name (some index) (some link.device)
  | missing {link : NetworkLink} (hlink : config.networkLinks.lookup name = some link)
      (hunreported : Unreported reported name) : OnLink config reported name none (some link.device)
  | misconfigured (hlink : config.networkLinks.lookup name = none) :
      OnLink config reported name none none

/-- A link is on one index and one device. -/
theorem OnLink.eq (hreports : DistinctReports (reportedLinks config linkData)) {name : String}
    {index index' : Option UInt64} {device device' : Option String}
    (h : OnLink config (reportedLinks config linkData) name index device)
    (h' : OnLink config (reportedLinks config linkData) name index' device') :
    index = index' ∧ device = device' := by
  -- a reported link with a name is configured
  have hunconfigured : ∀ {r : UInt64 × NetworkLinkStatus},
      r ∈ reportedLinks config linkData → r.2.name = some name →
        config.networkLinks.lookup name ≠ none := by
    intro r hr hname hnone
    obtain ⟨networkLink, hnetworkLink, -⟩ := link_of_mem_reportedLinks hr hname
    rw [hnetworkLink] at hnone
    cases hnone
  -- the three kinds exclude each other, and each is unique
  cases h with
  | reported hr hname =>
    cases h' with
    | reported hr' hname' =>
      have heq := hreports.eq_of_name hr hr' hname hname'
      rw [Prod.mk.injEq] at heq
      exact ⟨congrArg some heq.1, by rw [heq.2]⟩
    | missing _ hunreported' => exact absurd hname (hunreported' _ hr)
    | misconfigured hlink' => exact absurd hlink' (hunconfigured hr hname)
  | missing hlink hunreported =>
    cases h' with
    | reported hr' hname' => exact absurd hname' (hunreported _ hr')
    | missing hlink' =>
      rw [hlink, Option.some.injEq] at hlink'
      exact ⟨rfl, by rw [hlink']⟩
    | misconfigured hlink' =>
      rw [hlink] at hlink'
      cases hlink'
  | misconfigured hlink =>
    cases h' with
    | reported hr' hname' => exact absurd hlink (hunconfigured hr' hname')
    | missing hlink' =>
      rw [hlink] at hlink'
      cases hlink'
    | misconfigured => exact ⟨rfl, rfl⟩

/-- A named interface is configured, and is where its network link is. -/
theorem ViewInterface.onLink {reported : List (UInt64 × NetworkLinkStatus)}
    (h : ViewInterface config reported addresses id status) {name : String}
    (hname : id.name = some name) :
    ∃ interface, config.networkInterfaces.lookup name = some interface ∧
      OnLink config reported interface.networkLink id.id id.device := by
  cases h with
  | reported h hreported hlink =>
    cases hname
    exact ⟨_, h, .reported hreported hlink⟩
  | missing h hlink hunreported =>
    cases hname
    exact ⟨_, h, .missing hlink hunreported⟩
  | misconfigured h hlink =>
    cases hname
    exact ⟨_, h, .misconfigured hlink⟩
  | unnamed => cases hname

/-- A configured interface is listed once. -/
theorem ViewInterface.eq_of_name (hreports : DistinctReports (reportedLinks config linkData))
    (h : ViewInterface config (reportedLinks config linkData) addresses id status)
    (h' : ViewInterface config (reportedLinks config linkData) addresses id' status') {name : String}
    (hname : id.name = some name) (hname' : id'.name = some name) : id = id' := by
  obtain ⟨interface, hinterface, honLink⟩ := h.onLink hname
  obtain ⟨interface', hinterface', honLink'⟩ := h'.onLink hname'
  rw [hinterface, Option.some.injEq] at hinterface'
  subst hinterface'
  obtain ⟨hindex, hdevice⟩ := honLink.eq hreports honLink'
  rw [CanonicalNetworkId.mk.injEq]
  exact ⟨hindex, hname.trans hname'.symm, hdevice⟩

/-- An interface on a device is the configured one of the link of the device, or it is unnamed and
no configured interface is on that link. -/
theorem ViewInterface.link_of_device (hdevices : config.DistinctDevices)
    (h : ViewInterface config (reportedLinks config linkData) addresses id status) {device : String}
    (hdevice : id.device = some device) :
    (∃ name interface, id.name = some name ∧
        config.networkInterfaces.lookup name = some interface ∧
        (NetlinkMessageProcessor.new config).deviceLinks.lookup device =
          some interface.networkLink) ∨
      (∀ name interface, config.networkInterfaces.lookup name = some interface →
        (NetlinkMessageProcessor.new config).deviceLinks.lookup device ≠
          some interface.networkLink) ∧
      ∃ r ∈ reportedLinks config linkData, r.2.device = device ∧
        id = ⟨some r.1, none, some device⟩ := by
  -- what a kind says of the device, and of the link that is configured on it
  cases h with
  | reported h hr hlink =>
    cases hdevice
    exact Or.inl ⟨_, _, rfl, h, (name_of_mem_reportedLinks hr).symm.trans hlink⟩
  | missing h hlink _ =>
    cases hdevice
    exact Or.inl ⟨_, _, rfl, h, NetlinkMessageProcessor.lookup_deviceLinks hdevices hlink⟩
  | misconfigured => cases hdevice
  | unnamed hr _ hfree =>
    cases hdevice
    refine Or.inr ⟨fun name interface hinterface => ?_, _, hr, rfl, rfl⟩
    rw [← name_of_mem_reportedLinks hr]
    exact hfree name interface hinterface

/-- A device carries one interface. -/
theorem ViewInterface.eq_of_device (hdevices : config.DistinctDevices)
    (hlinks : config.DistinctLinks) (hreports : DistinctReports (reportedLinks config linkData))
    (h : ViewInterface config (reportedLinks config linkData) addresses id status)
    (h' : ViewInterface config (reportedLinks config linkData) addresses id' status')
    {device : String} (hdevice : id.device = some device) (hdevice' : id'.device = some device) :
    id = id' := by
  rcases h.link_of_device hdevices hdevice with
    ⟨name, interface, hname, hinterface, hlink⟩ | ⟨hfree, r, hr, hrdevice, hid⟩
  · rcases h'.link_of_device hdevices hdevice' with
      ⟨name', interface', hname', hinterface', hlink'⟩ | ⟨hfree', -⟩
    · have heq : name = name' :=
        hlinks.name_eq hinterface hinterface' (Option.some.inj (hlink.symm.trans hlink'))
      exact h.eq_of_name hreports h' hname (heq ▸ hname')
    · exact absurd hlink (hfree' name interface hinterface)
  · rcases h'.link_of_device hdevices hdevice' with
      ⟨name', interface', -, hinterface', hlink'⟩ | ⟨-, r', hr', hrdevice', hid'⟩
    · exact absurd hlink' (hfree name' interface' hinterface')
    · rw [hid, hid', hreports.eq_of_device hr hr' (hrdevice.trans hrdevice'.symm)]

/-- An index belongs to a reported link, and the interface is on its device. -/
theorem ViewInterface.reported_of_index
    (h : ViewInterface config (reportedLinks config linkData) addresses id status) {index : UInt64}
    (hindex : id.id = some index) :
    ∃ link, (index, link) ∈ reportedLinks config linkData ∧ id.device = some link.device := by
  cases h with
  | reported h hr hlink =>
    cases hindex
    exact ⟨_, hr, rfl⟩
  | missing => cases hindex
  | misconfigured => cases hindex
  | unnamed hr =>
    cases hindex
    exact ⟨_, hr, rfl⟩

/-- No two interfaces of a view share a key. -/
theorem ViewInterface.eq_of_clash (hdevices : config.DistinctDevices)
    (hlinks : config.DistinctLinks) (hreports : DistinctReports (reportedLinks config linkData))
    (h : ViewInterface config (reportedLinks config linkData) addresses id status)
    (h' : ViewInterface config (reportedLinks config linkData) addresses id' status')
    (hclash : Clash CanonicalNetworkId.keys id id') : id = id' := by
  obtain ⟨key, hkey, hkey'⟩ := hclash
  cases key with
  | name name =>
    exact h.eq_of_name hreports h' (CanonicalNetworkId.name_mem_keys.mp hkey)
      (CanonicalNetworkId.name_mem_keys.mp hkey')
  | device device =>
    exact h.eq_of_device hdevices hlinks hreports h' (CanonicalNetworkId.device_mem_keys.mp hkey)
      (CanonicalNetworkId.device_mem_keys.mp hkey')
  | index index =>
    obtain ⟨link, hr, hdevice⟩ := h.reported_of_index (CanonicalNetworkId.index_mem_keys.mp hkey)
    obtain ⟨link', hr', hdevice'⟩ :=
      h'.reported_of_index (CanonicalNetworkId.index_mem_keys.mp hkey')
    have heq := hreports.eq_of_index hr hr' rfl
    rw [Prod.mk.injEq] at heq
    exact h.eq_of_device hdevices hlinks hreports h' hdevice (heq.2 ▸ hdevice')

end Clashes

/-! ## What a poll drains -/

section Drained

variable {T : Type}

/-- What is drained from a map of the items of a view. -/
structure Drains (view : CanonicalNetworkId → T → Prop) (now : CanonicalNetworkId → Instant)
    (entries : List (CanonicalNetworkId × NetworkStatusItem T)) : Prop where
  mem_iff : ∀ entry, entry ∈ entries ↔
    ∃ status, view entry.1 status ∧ entry.2 = ⟨entry.1, status, now entry.1⟩
  nodup : (entries.map Prod.fst).Nodup

theorem drains_order {view : CanonicalNetworkId → T → Prop} {now : CanonicalNetworkId → Instant}
    {m : HashMap CanonicalNetworkId (NetworkStatusItem T)}
    (hm : ∀ id item, m.lookup id = some item ↔
      ∃ status, view id status ∧ item = ⟨id, status, now id⟩)
    (drained : Shuffle (CanonicalNetworkId × NetworkStatusItem T)) :
    Drains view now (drained.order m.iter) where
  mem_iff := by
    rintro ⟨id, item⟩
    rw [Shuffle.mem_order, mem_iter, hm]
  nodup := ((drained.perm m.iter).map Prod.fst).nodup_iff.mpr (nodup_keys_iter m)

section Drains

variable {view : CanonicalNetworkId → T → Prop} {now : CanonicalNetworkId → Instant}
  {entries : List (CanonicalNetworkId × NetworkStatusItem T)} (hdrains : Drains view now entries)
include hdrains

theorem Drains.id_eq : ∀ entry ∈ entries, entry.2.id = entry.1 := by
  intro entry hentry
  obtain ⟨status, -, heq⟩ := (hdrains.mem_iff entry).mp hentry
  rw [heq]

theorem Drains.separated (hclash : ∀ id status id' status', view id status → view id' status' →
    Clash CanonicalNetworkId.keys id id' → id = id') :
    Separated CanonicalNetworkId.keys Prod.fst entries := by
  refine (List.pairwise_map.mp hdrains.nodup).imp_of_mem ?_
  intro entry entry' hentry hentry' hne hentries
  obtain ⟨status, hview, -⟩ := (hdrains.mem_iff entry).mp hentry
  obtain ⟨status', hview', -⟩ := (hdrains.mem_iff entry').mp hentry'
  exact hne (hclash _ _ _ _ hview hview' hentries)

theorem Drains.keys_ne_nil (hkeys : ∀ id status, view id status → id.keys ≠ []) :
    ∀ entry ∈ entries, entry.1.keys ≠ [] := by
  intro entry hentry
  obtain ⟨status, hview, -⟩ := (hdrains.mem_iff entry).mp hentry
  exact hkeys _ _ hview

/-- What holds of every drained id holds of every id of the view. -/
theorem Drains.forall_ids_iff {P : CanonicalNetworkId → Prop} :
    (∀ id ∈ entries.map Prod.fst, P id) ↔ ∀ id status, view id status → P id := by
  constructor
  · intro hall id status hview
    exact hall id (List.mem_map.mpr
      ⟨(id, ⟨id, status, now id⟩), (hdrains.mem_iff _).mpr ⟨status, hview, rfl⟩, rfl⟩)
  · intro hall id hid
    obtain ⟨entry, hentry, rfl⟩ := List.mem_map.mp hid
    obtain ⟨status, hview, -⟩ := (hdrains.mem_iff entry).mp hentry
    exact hall entry.1 status hview

end Drains

end Drained

/-! ## What a poll leaves -/

section Polled

variable {T : Type} [DecidableEq T]

/-- A table after a poll, from what it held before: one item for each id of the view, the new one
or the old one that the hold rule keeps. -/
structure Polled (view : CanonicalNetworkId → T → Prop) (now : CanonicalNetworkId → Instant)
    (old content : List (NetworkStatusItem T)) : Prop where
  mem_iff : ∀ item, item ∈ content ↔
    ∃ id status, view id status ∧ item = heldItem old (id, ⟨id, status, now id⟩)
  nodup : (content.map NetworkStatusItem.id).Nodup

/-- A table lists a view: exactly one item for each of its ids, with its status. -/
structure Lists (view : CanonicalNetworkId → T → Prop) (content : List (NetworkStatusItem T)) :
    Prop where
  mem_iff : ∀ id status, view id status ↔ ∃ item ∈ content, item.id = id ∧ item.status = status
  nodup : (content.map NetworkStatusItem.id).Nodup

/-- A reconciled table and what it announces. -/
structure Reconciles (view : CanonicalNetworkId → T → Prop) (now : CanonicalNetworkId → Instant)
    (old : List (NetworkStatusItem T)) (outcome : Reconciled T) : Prop where
  coherent : StatusTable.Coherent outcome.table
  polled : Polled view now old outcome.table.content
  mem_notify : ∀ item, item ∈ outcome.notify ↔
    ∃ id status, view id status ∧ item = ⟨id, status, now id⟩ ∧ announcedItem old (id, item)
  nodup_notify : (outcome.notify.map NetworkStatusItem.id).Nodup
  mem_notifyDeleted : ∀ item, item ∈ outcome.notifyDeleted ↔
    item ∈ old ∧ ∀ id status, view id status → ¬ Clash CanonicalNetworkId.keys item.id id

/-- Each entry leaves one item, new or held. -/
theorem Drains.polled {view : CanonicalNetworkId → T → Prop} {now : CanonicalNetworkId → Instant}
    {entries : List (CanonicalNetworkId × NetworkStatusItem T)} (hdrains : Drains view now entries)
    {old content : List (NetworkStatusItem T)}
    (hcontent : content = (entries.map (heldItem old)).reverse) : Polled view now old content where
  mem_iff := by
    intro item
    rw [hcontent, List.mem_reverse, List.mem_map]
    constructor
    · rintro ⟨entry, hentry, rfl⟩
      obtain ⟨status, hview, heq⟩ := (hdrains.mem_iff entry).mp hentry
      exact ⟨entry.1, status, hview, by rw [← heq]⟩
    · rintro ⟨id, status, hview, rfl⟩
      exact ⟨(id, ⟨id, status, now id⟩), (hdrains.mem_iff _).mpr ⟨status, hview, rfl⟩, rfl⟩
  nodup := by
    have hids : (entries.map (heldItem old)).map NetworkStatusItem.id = entries.map Prod.fst := by
      rw [List.map_map]
      apply List.map_congr_left
      intro entry hentry
      exact ident_held (hdrains.id_eq entry hentry)
    rw [hcontent, List.map_reverse, List.nodup_reverse, hids]
    exact hdrains.nodup

/-- Draining a map whose ids do not clash reconciles a coherent table with it. -/
theorem reconciles_of_view {view : CanonicalNetworkId → T → Prop}
    {now : CanonicalNetworkId → Instant} {m : HashMap CanonicalNetworkId (NetworkStatusItem T)}
    (hm : ∀ id item, m.lookup id = some item ↔
      ∃ status, view id status ∧ item = ⟨id, status, now id⟩)
    (hkeys : ∀ id status, view id status → id.keys ≠ [])
    (hclash : ∀ id status id' status', view id status → view id' status' →
      Clash CanonicalNetworkId.keys id id' → id = id')
    {table : StatusTable T} (h : StatusTable.Coherent table)
    (drained : Shuffle (CanonicalNetworkId × NetworkStatusItem T))
    (taken : Shuffle (ℕ × NetworkStatusItem T)) :
    Reconciles view now table.content (reconcile table (drained.order m.iter) taken) := by
  have hdrains := drains_order hm drained
  have hnonempty := hdrains.keys_ne_nil hkeys
  obtain ⟨hcontent, hnotify, hdeleted⟩ :=
    reconcile_spec hdrains.id_eq hnonempty (hdrains.separated hclash) h taken
  -- what is announced is announced under the id it was drained with
  have hnotifyIds : (((drained.order m.iter).filter (announcedItem table.content)).map
      Prod.snd).map NetworkStatusItem.id =
        ((drained.order m.iter).filter (announcedItem table.content)).map Prod.fst := by
    rw [List.map_map]
    apply List.map_congr_left
    intro entry hentry
    exact hdrains.id_eq entry (List.mem_filter.mp hentry).1
  refine ⟨(reconcile_coherent hnonempty h taken).1, hdrains.polled hcontent, fun item => ?_, ?_,
    fun item => ?_⟩
  · rw [hnotify, List.mem_map]
    constructor
    · rintro ⟨entry, hentry, rfl⟩
      obtain ⟨hentry, hannounced⟩ := List.mem_filter.mp hentry
      obtain ⟨status, hview, heq⟩ := (hdrains.mem_iff entry).mp hentry
      exact ⟨entry.1, status, hview, heq, hannounced⟩
    · rintro ⟨id, status, hview, heq, hannounced⟩
      have hentry := (hdrains.mem_iff (id, item)).mpr ⟨status, hview, heq⟩
      exact ⟨(id, item), List.mem_filter.mpr ⟨hentry, hannounced⟩, rfl⟩
  · rw [hnotify, hnotifyIds]
    exact hdrains.nodup.sublist (List.filter_sublist.map Prod.fst)
  · rw [hdeleted.mem_iff, mem_sweep, hdrains.forall_ids_iff]

end Polled

/-- An id that is to be listed has a key. -/
theorem ViewInterface.keys_ne_nil {config : Router} {reported : List (UInt64 × NetworkLinkStatus)}
    {addresses : UInt64 → List IpAddress} {id : CanonicalNetworkId} {status : NetworkInterfaceStatus}
    (h : ViewInterface config reported addresses id status) : id.keys ≠ [] := by
  cases h <;> simp [CanonicalNetworkId.keys]

section Commit

variable {config : Router} (hdevices : config.DistinctDevices) {linkData : List NetlinkMessage}
  (hreports : DistinctReports (reportedLinks config linkData)) {db : InterfaceManagerDatabase}
  (h : InterfaceManagerDatabase.Coherent db) (input : PollInput) (networkData : List NetlinkMessage)
include hdevices hreports h

/-- What a poll does to the links. -/
theorem reconciles_networkLinks :
    Reconciles (ViewLink config (reportedLinks config linkData)) input.linkNow
      db.networkLinks.content
      (reconcile db.networkLinks
        (input.networkLinks.order (view config input linkData networkData).networkLinks.iter)
        input.takenLinks) :=
  reconciles_of_view (fun _ _ => view_networkLinks_iff hreports)
    (fun _ _ hview => hview.keys_ne_nil)
    (fun _ _ _ _ hview hview' => hview.eq_of_clash hdevices hreports hview') h.networkLinks _ _

/-- What a poll does to the interfaces. -/
theorem reconciles_networkInterfaces (hlinks : config.DistinctLinks) :
    Reconciles
      (ViewInterface config (reportedLinks config linkData) (addressesOf networkData))
      input.interfaceNow db.networkInterfaces.content
      (reconcile db.networkInterfaces
        (input.networkInterfaces.order
          (view config input linkData networkData).networkInterfaces.iter)
        input.takenInterfaces) :=
  reconciles_of_view (fun _ _ => view_networkInterfaces_iff hlinks hreports)
    (fun _ _ hview => hview.keys_ne_nil)
    (fun _ _ _ _ hview hview' => hview.eq_of_clash hdevices hlinks hreports hview')
    h.networkInterfaces _ _

end Commit

/-! ## The poll -/

/-- A polled table holds a link without an index as not found. -/
theorem Polled.notFound_of_index_eq_none {config : Router} {linkData : List NetlinkMessage}
    {now : CanonicalNetworkId → Instant} {old content : List LinkItem}
    (h : Polled (ViewLink config (reportedLinks config linkData)) now old content)
    (hold : ∀ item ∈ old, LinkInvariant config item) {item : LinkItem} (hitem : item ∈ content)
    (hindex : item.id.id = none) : item.status.operationalState = .notFound := by
  obtain ⟨id, status, hview, rfl⟩ := (h.mem_iff item).mp hitem
  rcases heldItem_eq_or_mem old (id, ⟨id, status, now id⟩) with heq | ⟨hmem, -⟩
  · rw [heq] at hindex ⊢
    cases hview with
    | reported => cases hindex
    | missing => rfl
  · -- an old item without an index is not one that the kernel reports
    have hinvariant := hold _ hmem
    have hunreported := hinvariant.index_iff
    rw [hindex] at hunreported
    revert hunreported
    have hconfigured := hinvariant.configured
    revert hconfigured
    cases (heldItem old (id, ⟨id, status, now id⟩)).status.operationalState <;>
      simp [NetworkLinkOperationalState.reported]

/-- What the interfaces that are not on a reported link say of their link: such an interface is
misconfigured and has no addresses where its link is not configured, and it is not found where its
link is. -/
structure UnreportedInterfaces (config : Router) (content : List InterfaceItem) : Prop where
  misconfigured : ∀ item ∈ content, ∀ name interface, item.id.name = some name →
    config.networkInterfaces.lookup name = some interface →
    config.networkLinks.lookup interface.networkLink = none →
    item.id = ⟨none, some name, none⟩ ∧
      item.status = ⟨some name, [], ⟨some interface.networkLink, "", .misconfigured⟩⟩
  notFound : ∀ item ∈ content, ∀ name interface link, item.id.name = some name →
    config.networkInterfaces.lookup name = some interface →
    config.networkLinks.lookup interface.networkLink = some link → item.id.id = none →
    item.id = ⟨none, some name, some link.device⟩ ∧
      item.status.networkLinkStatus = ⟨some interface.networkLink, link.device, .notFound⟩

/-- The hold rule holds nothing against the configuration for an interface without an index. -/
theorem Polled.unreportedInterfaces {config : Router} (hdevices : config.DistinctDevices)
    {linkData : List NetlinkMessage} {addresses : UInt64 → List IpAddress}
    {now : CanonicalNetworkId → Instant} {old content : List InterfaceItem}
    (h : Polled (ViewInterface config (reportedLinks config linkData) addresses) now old content)
    (hagrees : ∀ item ∈ old, InterfaceInvariant config item)
    (hold : ∀ item ∈ old, IndexlessInvariant config item) : UnreportedInterfaces config content where
  misconfigured := by
    intro item hitem name interface hname hinterface hlink
    obtain ⟨id, status, hview, rfl⟩ := (h.mem_iff item).mp hitem
    rw [id_heldItem] at hname
    -- of the kinds of the view only one has a link that is not configured
    obtain ⟨rfl, rfl⟩ : id = ⟨none, some name, none⟩ ∧
        status = unlinkedStatus name interface.networkLink := by
      cases hview with
      | reported hinterface' hr hlinkName =>
        cases hname
        obtain ⟨link, hconfigured, -⟩ := link_of_mem_reportedLinks hr hlinkName
        rw [hinterface, Option.some.injEq] at hinterface'
        rw [← hinterface', hlink] at hconfigured
        cases hconfigured
      | missing hinterface' hconfigured =>
        cases hname
        rw [hinterface, Option.some.injEq] at hinterface'
        rw [← hinterface', hlink] at hconfigured
        cases hconfigured
      | misconfigured hinterface' =>
        cases hname
        rw [hinterface, Option.some.injEq] at hinterface'
        exact ⟨rfl, by rw [hinterface']; rfl⟩
      | unnamed => cases hname
    refine ⟨id_heldItem _ _ _ _, ?_⟩
    rcases heldItem_eq_or_mem old (_, ⟨_, unlinkedStatus name interface.networkLink, now _⟩) with
      heq | ⟨hmem, hid⟩
    · rw [heq]
      rfl
    · obtain ⟨name', interface', hinterface', hstatus⟩ :=
        (hold _ hmem).unlinked (by rw [hid]) (by rw [hid])
      have hname' := (hagrees _ hmem).name_eq
      rw [hid, hstatus] at hname'
      obtain rfl : name = name' := Option.some.inj hname'
      rw [hinterface, Option.some.injEq] at hinterface'
      rw [hstatus, hinterface']
      rfl
  notFound := by
    intro item hitem name interface link hname hinterface hlink hindex
    obtain ⟨id, status, hview, rfl⟩ := (h.mem_iff item).mp hitem
    rw [id_heldItem] at hname hindex
    obtain ⟨rfl, hstatus⟩ : id = ⟨none, some name, some link.device⟩ ∧
        status.networkLinkStatus = missingLinkStatus interface.networkLink link.device := by
      cases hview with
      | reported => cases hindex
      | missing hinterface' hconfigured =>
        cases hname
        rw [hinterface, Option.some.injEq] at hinterface'
        rw [← hinterface', hlink, Option.some.injEq] at hconfigured
        rw [← hinterface', ← hconfigured]
        exact ⟨rfl, rfl⟩
      | misconfigured hinterface' hconfigured =>
        cases hname
        rw [hinterface, Option.some.injEq] at hinterface'
        rw [← hinterface', hlink] at hconfigured
        cases hconfigured
      | unnamed => cases hindex
    refine ⟨id_heldItem _ _ _ _, ?_⟩
    rcases heldItem_eq_or_mem old (_, ⟨_, status, now _⟩) with heq | ⟨hmem, hid⟩
    · rw [heq]
      exact hstatus
    · -- the device of the id leads to the one link that is configured on it
      obtain ⟨linkName, hlinkName, hmissing⟩ :=
        (hold _ hmem).missing (by rw [hid]) link.device (by rw [hid])
      rw [NetlinkMessageProcessor.lookup_deviceLinks hdevices hlink, Option.some.injEq] at hlinkName
      rw [hmissing, ← hlinkName]
      rfl

/-- What a successful poll leaves in the tables of a coherent database. -/
theorem tryPoll_polled {config : Router} (hdevices : config.DistinctDevices)
    (hlinks : config.DistinctLinks) {db : InterfaceManagerDatabase}
    (h : InterfaceManagerDatabase.Coherent db) {input : PollInput}
    {linkData networkData : List NetlinkMessage} (hlinkData : input.linkData = .ok linkData)
    (hnetworkData : input.networkData = .ok networkData)
    (hreports : DistinctReports (reportedLinks config linkData)) :
    ∃ db' updates, tryPoll config input db = .ok (db', updates) ∧
      Polled (ViewLink config (reportedLinks config linkData)) input.linkNow
        db.networkLinks.content db'.networkLinks.content ∧
      Polled (ViewInterface config (reportedLinks config linkData) (addressesOf networkData))
        input.interfaceNow db.networkInterfaces.content db'.networkInterfaces.content :=
  ⟨_, _, tryPoll_of_ok hlinkData hnetworkData,
    (reconciles_networkLinks hdevices hreports h input networkData).polled,
    (reconciles_networkInterfaces hdevices hreports h input networkData hlinks).polled⟩

/-- **What a successful poll leaves in the tables**, from any database that a run reaches. -/
theorem tryPoll_reference {config : Router} (hdevices : config.DistinctDevices)
    (hlinks : config.DistinctLinks) (steps : List ManagerStep) {input : PollInput}
    {linkData networkData : List NetlinkMessage} (hlinkData : input.linkData = .ok linkData)
    (hnetworkData : input.networkData = .ok networkData)
    (hreports : DistinctReports (reportedLinks config linkData)) :
    ∃ db updates, tryPoll config input (InterfaceManager.run config steps) = .ok (db, updates) ∧
      Polled (ViewLink config (reportedLinks config linkData)) input.linkNow
        (InterfaceManager.run config steps).networkLinks.content db.networkLinks.content ∧
      (∀ item ∈ db.networkLinks.content,
        item.id.id = none → item.status.operationalState = .notFound) ∧
      Polled (ViewInterface config (reportedLinks config linkData) (addressesOf networkData))
        input.interfaceNow (InterfaceManager.run config steps).networkInterfaces.content
        db.networkInterfaces.content ∧
      UnreportedInterfaces config db.networkInterfaces.content := by
  have hinvariant := ManagerInvariant.run config steps
  obtain ⟨db, updates, hpoll, hpolledLinks, hpolledInterfaces⟩ :=
    tryPoll_polled hdevices hlinks hinvariant.coherent hlinkData hnetworkData hreports
  refine ⟨db, updates, hpoll, hpolledLinks, fun item hitem hindex => ?_, hpolledInterfaces, ?_⟩
  · exact hpolledLinks.notFound_of_index_eq_none hinvariant.links hitem hindex
  · exact hpolledInterfaces.unreportedInterfaces hdevices hinvariant.interfaces
      (IndexlessInvariant.run hdevices hlinks steps)

/-- A configuration with one interface. -/
def wanConfig : Router :=
  ⟨collect [("wan", ⟨"eth0"⟩)], collect [("uplink", ⟨"wan"⟩)]⟩

/-- A message that reports a link. -/
def newLinkMessage (index : UInt32) (device : String) (state : OperState) : NetlinkMessage :=
  ⟨32, 0, .innerMessage (.newLink ⟨0, index, [.ifName device, .operState state]⟩)⟩

/-- A message that reports that a link is gone. -/
def delLinkMessage (index : UInt32) (device : String) : NetlinkMessage :=
  ⟨32, 0, .innerMessage (.delLink ⟨0, index, [.ifName device, .operState .down]⟩)⟩

/-- A message that reports an address of an index. -/
def newAddressMessage (index : UInt32) (address : List UInt8) : NetlinkMessage :=
  ⟨32, 0, .innerMessage (.newAddress ⟨2, 8, index, [.address address]⟩)⟩

/-- A poll whose items are all made at one instant. -/
def pollAt (now : Instant) (linkData networkData : List NetlinkMessage) : PollInput where
  linkData := .ok linkData
  networkData := .ok networkData
  linkNow _ := now
  interfaceNow _ := now
  unmappedLinks := Shuffle.id _
  networkAddresses := Shuffle.id _
  missingNetworkInterfaces := Shuffle.id _
  networkLinks := Shuffle.id _
  networkInterfaces := Shuffle.id _
  takenLinks := Shuffle.id _
  takenInterfaces := Shuffle.id _

theorem distinctReports_wan : DistinctReports
    (reportedLinks wanConfig [newLinkMessage 2 "eth0" .up]) :=
  ⟨by decide +kernel, by decide +kernel⟩

/-- A configuration with two interfaces, and a third whose link is not configured. -/
def strayConfig : Router :=
  ⟨collect [("wan", ⟨"eth0"⟩), ("lan", ⟨"eth1"⟩)],
    collect [("uplink", ⟨"wan"⟩), ("inside", ⟨"lan"⟩), ("stray", ⟨"dmz"⟩)]⟩

/-- Both devices are up at the start, one with an address, and that one is gone a second later. -/
def goneWithAddress : List ManagerStep :=
  [.poll (pollAt 0 [newLinkMessage 2 "eth0" .up, newLinkMessage 3 "eth1" .up]
      [newAddressMessage 3 [10, 0, 0, 1]]),
    .event ⟨delLinkMessage 3 "eth1", 10 ^ 9, 10 ^ 9⟩]

theorem distinctReports_stray : DistinctReports
    (reportedLinks strayConfig [newLinkMessage 2 "eth0" .up]) :=
  ⟨by decide +kernel, by decide +kernel⟩

/-- The poll two seconds after the start: one link is reported, one missing, one not configured. -/
theorem tryPoll_reference_stray :
    ∃ db updates, tryPoll strayConfig (pollAt (2 * 10 ^ 9) [newLinkMessage 2 "eth0" .up] [])
        (InterfaceManager.run strayConfig goneWithAddress) = .ok (db, updates) ∧
      Polled (ViewLink strayConfig (reportedLinks strayConfig [newLinkMessage 2 "eth0" .up]))
        (fun _ => 2 * 10 ^ 9)
        (InterfaceManager.run strayConfig goneWithAddress).networkLinks.content
        db.networkLinks.content ∧
      (∀ item ∈ db.networkLinks.content,
        item.id.id = none → item.status.operationalState = .notFound) ∧
      Polled (ViewInterface strayConfig (reportedLinks strayConfig [newLinkMessage 2 "eth0" .up])
          (addressesOf [])) (fun _ => 2 * 10 ^ 9)
        (InterfaceManager.run strayConfig goneWithAddress).networkInterfaces.content
        db.networkInterfaces.content ∧
      UnreportedInterfaces strayConfig db.networkInterfaces.content :=
  tryPoll_reference (by decide) (by decide) goneWithAddress rfl rfl distinctReports_stray

/-- The interface table is not always the view: an address that the second poll sees within the hold
period is not listed, and an interface of a missing link can have the addresses that it had when the
link was deleted. -/
theorem not_tryPoll_exact :
    (¬ ∀ (config : Router) (steps : List ManagerStep) (input : PollInput)
      (linkData networkData : List NetlinkMessage) (db : InterfaceManagerDatabase)
      (updates : List NetworkStatusUpdate), config.DistinctDevices → config.DistinctLinks →
      input.linkData = .ok linkData → input.networkData = .ok networkData →
      DistinctReports (reportedLinks config linkData) →
      tryPoll config input (InterfaceManager.run config steps) = .ok (db, updates) →
      Lists (ViewInterface config (reportedLinks config linkData) (addressesOf networkData))
        db.networkInterfaces.content) ∧
    ¬ ∀ (config : Router) (steps : List ManagerStep) (input : PollInput)
      (linkData networkData : List NetlinkMessage) (db : InterfaceManagerDatabase)
      (updates : List NetworkStatusUpdate), config.DistinctDevices → config.DistinctLinks →
      input.linkData = .ok linkData → input.networkData = .ok networkData →
      DistinctReports (reportedLinks config linkData) →
      tryPoll config input (InterfaceManager.run config steps) = .ok (db, updates) →
      ∀ item ∈ db.networkInterfaces.content, item.id.id = none → item.status.addresses = [] := by
  constructor
  · intro h
    have hlists := h wanConfig [.poll (pollAt 0 [newLinkMessage 2 "eth0" .up] [])]
      (pollAt (10 ^ 9) [newLinkMessage 2 "eth0" .up] [newAddressMessage 2 [10, 0, 0, 1]]) _ _ _ _
      (by decide) (by decide) rfl rfl distinctReports_wan (tryPoll_of_ok rfl rfl)
    have hr : ((2 : UInt64), (⟨some "wan", "eth0", .up⟩ : NetworkLinkStatus)) ∈
        reportedLinks wanConfig [newLinkMessage 2 "eth0" .up] := by decide +kernel
    have hview : ViewInterface wanConfig (reportedLinks wanConfig [newLinkMessage 2 "eth0" .up])
        (addressesOf [newAddressMessage 2 [10, 0, 0, 1]]) ⟨some 2, some "uplink", some "eth0"⟩
        ⟨some "uplink", [⟨.v4 ⟨0x0A000001⟩, 8⟩], ⟨some "wan", "eth0", .up⟩⟩ :=
      ViewInterface.reported rfl hr rfl
    obtain ⟨item, hitem, -, hstatus⟩ := (hlists.mem_iff _ _).mp hview
    revert item
    decide +kernel
  · intro h
    have hnone := h strayConfig goneWithAddress
      (pollAt (2 * 10 ^ 9) [newLinkMessage 2 "eth0" .up] []) _ _ _ _
      (by decide) (by decide) rfl rfl distinctReports_stray (tryPoll_of_ok rfl rfl)
    have haddress : ∃ item ∈ (commit (pollAt (2 * 10 ^ 9) [newLinkMessage 2 "eth0" .up] [])
        (view strayConfig (pollAt (2 * 10 ^ 9) [newLinkMessage 2 "eth0" .up] [])
          [newLinkMessage 2 "eth0" .up] [])
        (InterfaceManager.run strayConfig goneWithAddress)).1.networkInterfaces.content,
        item.id.id = none ∧ item.status.addresses ≠ [] := by
      decide +kernel
    obtain ⟨item, hitem, hindex, hne⟩ := haddress
    exact hne (hnone item hitem hindex)

end InterfaceManagerWorker

end RustyRouter
