/-
# What a poll announces as gone

A poll publishes what it deletes from the tables: an interface with the state
`notFound`, a link with the status that it had.  What it evicts because a polled
id shares a key it does not publish at all.  A link that vanishes is not
configured, so the state it had is one that the kernel reported: no link is ever
announced as gone (`links_announced_iff`).  An interface is, unless something that
is listed has taken its name, its device name or its index
(`interfaces_announced_iff`).
-/
import RustyRouter.Delivery
import RustyRouter.EventEntries
import RustyRouter.PublishOrder

namespace RustyRouter

open KeyedStore HashMap InterfaceManagerWorker InterfaceManagerNetlinkSocketListener

/-! ## Batches -/

/-- Whoever is registered after a pass has received a batch of the kind in it. -/
def ReachesRegistered (updates : List NetworkStatusUpdate)
    (kind : List NetworkStatusUpdate → Prop) : Prop :=
  ∀ (trySend : TrySend) (subscribers : Subscribers),
    ∀ subscriber ∈ (subscribers.retain trySend updates).registered,
      ∃ before ∈ subscribers.registered, ∃ batch,
        subscriber = ⟨before.id, before.delivered ++ batch⟩ ∧ kind batch

theorem Subscriber.sendAll_of_taken (updates : List NetworkStatusUpdate) (subscriber : Subscriber) :
    sendAll (fun _ _ => true) updates subscriber =
      (⟨subscriber.id, subscriber.delivered ++ updates⟩, true) := by
  induction updates generalizing subscriber with
  | nil => rw [sendAll, List.append_nil]
  | cons update updates ih =>
    rw [sendAll, if_pos rfl, ih, receive, List.append_assoc]
    rfl

/-- What reaches whoever stays registered is the batch that is published. -/
theorem reachesRegistered_iff {updates : List NetworkStatusUpdate}
    {kind : List NetworkStatusUpdate → Prop} : ReachesRegistered updates kind ↔ kind updates := by
  constructor
  -- one subscriber whose channel takes everything receives the updates themselves
  · intro h
    obtain ⟨before, hbefore, batch, heq, hkind⟩ := h (fun _ _ => true) ⟨[⟨0, []⟩], []⟩ ⟨0, updates⟩ (by
      rw [Subscribers.retain_eq]
      simp [Subscriber.sendAll_of_taken])
    obtain rfl := List.mem_singleton.mp hbefore
    obtain rfl : updates = batch := congrArg Subscriber.delivered heq
    exact hkind
  · intro hkind trySend subscribers subscriber hsubscriber
    rw [Subscribers.retain_eq] at hsubscriber
    obtain ⟨sent, hsent, rfl⟩ := List.mem_map.mp hsubscriber
    obtain ⟨hsent, hretained⟩ := List.mem_filter.mp hsent
    obtain ⟨before, hbefore, rfl⟩ := List.mem_map.mp hsent
    refine ⟨before, hbefore, updates, ?_, hkind⟩
    rcases Subscriber.sendAll_cases trySend updates before with
      ⟨hall, -⟩ | ⟨received, update, -, hall, -⟩
    · rw [hall]
    · rw [hall] at hretained
      cases hretained

/-! ## Links -/

/-- `list_network_links` shows a device. -/
def ShowsLink (order : Shuffle (ℕ × LinkItem)) (db : InterfaceManagerDatabase) (device : String) :
    Prop :=
  ∃ status ∈ db.listLinkStatus order, status.device = device

/-- A batch says that a device is gone, and nothing else about it. -/
def AnnouncesGoneLink (device : String) (batch : List NetworkStatusUpdate) : Prop :=
  (∃ status, .link status ∈ batch ∧ status.device = device ∧
      status.operationalState = .notFound) ∧
    ∀ status, .link status ∈ batch → status.device = device → status.operationalState = .notFound

theorem showsLink_iff {order : Shuffle (ℕ × LinkItem)} {db : InterfaceManagerDatabase}
    {device : String} : ShowsLink order db device ↔
      ∃ item ∈ db.networkLinks.content, item.status.device = device :=
  StatusTable.exists_mem_listStatus

/-- A link without a name has a state that the kernel reported. -/
theorem reported_of_unnamed (config : Router) (steps : List ManagerStep) :
    ∀ e ∈ entries (InterfaceManager.run config steps).networkLinks.content,
      e.2.name = none → e.2.operationalState.reported := by
  apply forall_linkEntries
  · intro linkData id status hview hname
    cases hview with
    | reported hr => exact reported_of_mem_reportedLinks hr
    | missing => cases hname
  · intro event change e hevent hentry hname
    obtain ⟨item, hleaves, rfl⟩ := Option.map_eq_some_iff.mp hentry
    cases change with
    | added index link =>
      cases hleaves
      exact (LinkChange.name_of_ofEvent hevent).2
    | removed link =>
      rw [LinkChange.leaves] at hleaves
      split_ifs at hleaves with hsome
      cases hleaves
      obtain ⟨name, hlinkName⟩ := Option.isSome_iff_exists.mp hsome
      unfold NetworkStatusItem.entry at hname
      rw [deletedLinkStatus_of_name hlinkName] at hname
      cases hname

/-- A view has every configured device. -/
theorem InterfaceManagerWorker.ViewLink.exists_of_configured {config : Router}
    {linkData : List NetlinkMessage} {name : String} {link : NetworkLink}
    (h : config.networkLinks.lookup name = some link) :
    ∃ id status, ViewLink config (reportedLinks config linkData) id status ∧
      status.device = link.device := by
  by_cases hunreported : Unreported (reportedLinks config linkData) name
  · exact ⟨_, _, .missing h hunreported, rfl⟩
  · rw [Unreported] at hunreported
    push Not at hunreported
    obtain ⟨⟨index, status⟩, hr, hname⟩ := hunreported
    obtain ⟨link', hlink', hdevice⟩ := link_of_mem_reportedLinks hr hname
    rw [h, Option.some.injEq] at hlink'
    subst hlink'
    exact ⟨_, _, .reported hr, hdevice.symm⟩

/-- A link without a name whose device is not reported is not in the view. -/
theorem LinkInvariant.ne_viewLink_device {config : Router} (hdevices : config.DistinctDevices)
    {linkData : List NetlinkMessage} {item : LinkItem} (h : LinkInvariant config item)
    (hname : item.status.name = none)
    (hunreported : ∀ r ∈ reportedLinks config linkData, r.2.device ≠ item.status.device) :
    ∀ id status, ViewLink config (reportedLinks config linkData) id status →
      status.device ≠ item.status.device := by
  intro id status hview hdevice
  cases hview with
  | reported hr => exact hunreported _ hr hdevice
  | @missing name link hlink _ =>
    have hmapped := NetlinkMessageProcessor.lookup_deviceLinks hdevices hlink
    rw [show link.device = item.status.device from hdevice, h.unmapped_of_unnamed hname] at hmapped
    cases hmapped

section Links

variable {config : Router} {linkData : List NetlinkMessage} {now : CanonicalNetworkId → Instant}
  {old : List LinkItem} (hold : ∀ item ∈ old, LinkInvariant config item)
  {outcome : Reconciled NetworkLinkStatus}
  (houtcome : Reconciles (ViewLink config (reportedLinks config linkData)) now old outcome)
include hold houtcome

/-- After a poll the devices of the view are stored. -/
theorem InterfaceManagerWorker.Reconciles.stores_iff (hdevices : config.DistinctDevices)
    {device : String} :
    (∃ item ∈ outcome.table.content, item.status.device = device) ↔
      ∃ id status, ViewLink config (reportedLinks config linkData) id status ∧
        status.device = device := by
  constructor
  · rintro ⟨item, hitem, rfl⟩
    obtain ⟨id, status, hview, rfl⟩ := (houtcome.polled.mem_iff item).mp hitem
    exact ⟨id, status, hview, (device_heldItem hold (hview.device_eq hdevices).1 _).symm⟩
  · rintro ⟨id, status, hview, rfl⟩
    exact ⟨_, (houtcome.polled.mem_iff _).mpr ⟨id, status, hview, rfl⟩,
      device_heldItem hold (hview.device_eq hdevices).1 _⟩

omit hold in
/-- The updates say of a device that the view does not have what was stored for it. -/
theorem InterfaceManagerWorker.Reconciles.link_updates_of_gone {device : String}
    (hgone : ∀ id status, ViewLink config (reportedLinks config linkData) id status →
      status.device ≠ device)
    (interfaces : Reconciled NetworkInterfaceStatus) {status : NetworkLinkStatus}
    (hupdate : .link status ∈ updates outcome interfaces) (hdevice : status.device = device) :
    ∃ item ∈ old, item.status = status := by
  -- a poll sends what it deletes as it was stored, and what is new as the view has it
  rcases link_mem_updates.mp hupdate with ⟨deleted, hdeleted, rfl⟩ | ⟨new, hnew, rfl⟩
  · exact ⟨deleted, ((houtcome.mem_notifyDeleted deleted).mp hdeleted).1, rfl⟩
  · obtain ⟨id, status, hview, rfl, -⟩ := (houtcome.mem_notify new).mp hnew
    exact absurd hdevice (hgone id status hview)

end Links

/-- **When removed links are announced as gone.**  After a successful poll from any database that a
run reaches, every device that is no longer shown was announced as gone to whoever is still registered
if and only if the dump reports the device of every link that was stored without a name: then no
device is removed. -/
theorem links_announced_iff {config : Router} (hdevices : config.DistinctDevices)
    (steps : List ManagerStep) {input : PollInput} {linkData networkData : List NetlinkMessage}
    (hlinkData : input.linkData = .ok linkData) (hnetworkData : input.networkData = .ok networkData)
    (hreports : DistinctReports (reportedLinks config linkData)) {db : InterfaceManagerDatabase}
    {updates : List NetworkStatusUpdate}
    (hpoll : tryPoll config input (InterfaceManager.run config steps) = .ok (db, updates))
    (before after : Shuffle (ℕ × LinkItem)) :
    (∀ device, ShowsLink before (InterfaceManager.run config steps) device →
        ¬ ShowsLink after db device → ReachesRegistered updates (AnnouncesGoneLink device)) ↔
      ∀ item ∈ (InterfaceManager.run config steps).networkLinks.content, item.status.name = none →
        ∃ r ∈ reportedLinks config linkData, r.2.device = item.status.device := by
  have hinvariant := ManagerInvariant.run config steps
  have hreconciles :=
    reconciles_networkLinks hdevices hreports hinvariant.coherent input networkData
  rw [tryPoll_of_ok hlinkData hnetworkData, Except.ok.injEq] at hpoll
  obtain ⟨rfl, rfl⟩ := Prod.mk.inj hpoll
  have hshows : ∀ device, ShowsLink after
      (commit input (view config input linkData networkData)
        (InterfaceManager.run config steps)).1 device ↔
      ∃ id status, ViewLink config (reportedLinks config linkData) id status ∧
        status.device = device :=
    fun device => showsLink_iff.trans (hreconciles.stores_iff hinvariant.links hdevices)
  constructor
  · intro hannounced item hitem hname
    by_contra hunreported
    push Not at hunreported
    have hgone := (hinvariant.links item hitem).ne_viewLink_device hdevices hname hunreported
    have hreached := hannounced item.status.device (showsLink_iff.mpr ⟨item, hitem, rfl⟩)
      fun hshown => by
        obtain ⟨id, status, hview, hdevice⟩ := (hshows _).mp hshown
        exact hgone id status hview hdevice
    obtain ⟨⟨status, hupdate, hdevice, hstate⟩, -⟩ := reachesRegistered_iff.mp hreached
    obtain ⟨stored, hstored, rfl⟩ :=
      hreconciles.link_updates_of_gone hgone _ hupdate hdevice
    -- no two stored links are on one device
    have hsame : stored = item := by
      refine hinvariant.coherent.networkLinks.separated.eq_of_clash hstored hitem ?_
      refine CanonicalNetworkId.clash_of_device ?_ (hinvariant.links item hitem).device_eq
      rw [(hinvariant.links stored hstored).device_eq, hdevice]
    subst hsame
    have hreported := reported_of_unnamed config steps stored.entry ⟨stored, hstored, rfl⟩ hname
    rw [show stored.entry.2.operationalState = .notFound from hstate] at hreported
    cases hreported
  · intro hreported device hshown hnotShown
    obtain ⟨item, hitem, rfl⟩ := showsLink_iff.mp hshown
    refine absurd ((hshows _).mpr ?_) hnotShown
    cases hname : item.status.name with
    | none =>
      obtain ⟨r, hr, hdevice⟩ := hreported item hitem hname
      exact ⟨_, _, .reported hr, hdevice⟩
    | some name =>
      obtain ⟨link, hlink, hdevice⟩ := (hinvariant.links item hitem).link_of_name name hname
      obtain ⟨id, status, hview, hstatus⟩ := ViewLink.exists_of_configured hlink
      exact ⟨id, status, hview, hstatus.trans hdevice⟩

/-- A poll of a device that is not configured. -/
def unconfiguredPolled : List ManagerStep := [.poll (pollAt 0 [newLinkMessage 3 "eth1" .up] [])]

theorem distinctReports_nil (config : Router) : DistinctReports (reportedLinks config []) :=
  ⟨List.nodup_nil, List.nodup_nil⟩

/-- The poll after the device has gone. -/
theorem links_announced_iff_wan :
    ∃ db updates, tryPoll wanConfig (pollAt (10 ^ 10) [] [])
        (InterfaceManager.run wanConfig unconfiguredPolled) = .ok (db, updates) ∧
      ((∀ device, ShowsLink (Shuffle.id _) (InterfaceManager.run wanConfig unconfiguredPolled) device →
          ¬ ShowsLink (Shuffle.id _) db device →
            ReachesRegistered updates (AnnouncesGoneLink device)) ↔
        ∀ item ∈ (InterfaceManager.run wanConfig unconfiguredPolled).networkLinks.content,
          item.status.name = none →
            ∃ r ∈ reportedLinks wanConfig [], r.2.device = item.status.device) :=
  ⟨_, _, tryPoll_of_ok rfl rfl, links_announced_iff (by decide) unconfiguredPolled rfl rfl
    (distinctReports_nil wanConfig) (tryPoll_of_ok rfl rfl) (Shuffle.id _) (Shuffle.id _)⟩

/-- A device that is not configured vanishes, and it is not announced as gone. -/
theorem not_links_announced :
    ¬ ∀ (config : Router) (steps : List ManagerStep) (input : PollInput)
      (linkData networkData : List NetlinkMessage) (db : InterfaceManagerDatabase)
      (updates : List NetworkStatusUpdate) (before after : Shuffle (ℕ × LinkItem)),
      config.DistinctDevices → config.DistinctLinks → input.linkData = .ok linkData →
      input.networkData = .ok networkData → DistinctReports (reportedLinks config linkData) →
      tryPoll config input (InterfaceManager.run config steps) = .ok (db, updates) →
      ∀ device, ShowsLink before (InterfaceManager.run config steps) device →
        ¬ ShowsLink after db device → ReachesRegistered updates (AnnouncesGoneLink device) := by
  intro h
  have hannounced := h wanConfig unconfiguredPolled (pollAt (10 ^ 10) [] []) _ _ _ _ (Shuffle.id _)
    (Shuffle.id _) (by decide) (by decide) rfl rfl (distinctReports_nil wanConfig)
    (tryPoll_of_ok rfl rfl)
  have hreported := (links_announced_iff (by decide) unconfiguredPolled rfl rfl
    (distinctReports_nil wanConfig) (tryPoll_of_ok rfl rfl) (Shuffle.id _) (Shuffle.id _)).mp
    hannounced
  have hunnamed : ∃ item ∈ (InterfaceManager.run wanConfig unconfiguredPolled).networkLinks.content,
      item.status.name = none := by decide +kernel
  obtain ⟨item, hitem, hname⟩ := hunnamed
  obtain ⟨r, hr, -⟩ := hreported item hitem hname
  exact absurd hr List.not_mem_nil

/-! ## Interfaces -/

/-- The name, if there is one, and the device of an interface. -/
def NetworkInterfaceStatus.pair (status : NetworkInterfaceStatus) : Option String × String :=
  (status.name, status.networkLinkStatus.device)

/-- The name and the device of an id. -/
def CanonicalNetworkId.pair (id : CanonicalNetworkId) : Option String × String :=
  (id.name, id.device.getD "")

/-- `list_network_interfaces` shows an interface of a name, or none, on a device. -/
def ShowsInterface (order : Shuffle (ℕ × InterfaceItem)) (db : InterfaceManagerDatabase)
    (pair : Option String × String) : Prop :=
  ∃ status ∈ db.listInterfaceStatus order, status.pair = pair

/-- A batch says that the interface of a name, or none, on a device is gone. -/
def AnnouncesGoneInterface (pair : Option String × String) (batch : List NetworkStatusUpdate) :
    Prop :=
  ∃ status, .interface status ∈ batch ∧ status.pair = pair ∧
    status.networkLinkStatus.operationalState = .notFound

theorem showsInterface_iff {order : Shuffle (ℕ × InterfaceItem)} {db : InterfaceManagerDatabase}
    {pair : Option String × String} : ShowsInterface order db pair ↔
      ∃ item ∈ db.networkInterfaces.content, item.status.pair = pair :=
  StatusTable.exists_mem_listStatus

/-- A stored interface is listed under the name and the device of its id. -/
theorem InterfaceAgrees.pair_eq {config : Router} {item : InterfaceItem}
    (h : InterfaceAgrees config item) : item.status.pair = item.id.pair := by
  unfold NetworkInterfaceStatus.pair CanonicalNetworkId.pair
  by_cases hunlinked : Unlinked config item.id.name
  · obtain ⟨hid, hdevice⟩ := h.unlinked hunlinked
    rw [h.name_eq, hid, hdevice]
    rfl
  · rw [h.name_eq, h.device_eq hunlinked]
    rfl

/-- Interfaces of one name, or none, and one device share a key. -/
theorem InterfaceAgrees.clash_of_pair {config : Router} {item item' : InterfaceItem}
    (h : InterfaceAgrees config item) (h' : InterfaceAgrees config item')
    (hpair : item.id.pair = item'.id.pair) :
    Clash CanonicalNetworkId.keys item.id item'.id := by
  obtain ⟨hname, hdevice⟩ := Prod.mk.inj hpair
  by_cases hunlinked : Unlinked config item.id.name
  · -- without a device only the name is left
    obtain ⟨name, -, hsome, -⟩ := hunlinked
    exact CanonicalNetworkId.clash_of_name hsome (hname ▸ hsome)
  · have hunlinked' : ¬ Unlinked config item'.id.name := hname ▸ hunlinked
    rw [h.device_eq hunlinked, h'.device_eq hunlinked'] at hdevice
    refine CanonicalNetworkId.clash_of_device (h.device_eq hunlinked) ?_
    rw [h'.device_eq hunlinked']
    exact congrArg some hdevice.symm

theorem interface_mem_updates {links : Reconciled NetworkLinkStatus}
    {interfaces : Reconciled NetworkInterfaceStatus} {status : NetworkInterfaceStatus} :
    .interface status ∈ updates links interfaces ↔
      (∃ item ∈ interfaces.notifyDeleted, deletedInterfaceStatus item = status) ∨
        ∃ item ∈ interfaces.notify, item.status = status := by
  simp [updates]

/-- The status of a listed interface has the name and the device of its id. -/
theorem InterfaceManagerWorker.ViewInterface.pair_eq {config : Router}
    {reported : List (UInt64 × NetworkLinkStatus)} {addresses : UInt64 → List IpAddress}
    {id : CanonicalNetworkId} {status : NetworkInterfaceStatus}
    (h : ViewInterface config reported addresses id status) : status.pair = id.pair := by
  cases h <;> rfl

section Interfaces

variable {config : Router} {linkData networkData : List NetlinkMessage}
  {now : CanonicalNetworkId → Instant} {old : List InterfaceItem}
  {outcome : Reconciled NetworkInterfaceStatus}
  (houtcome : Reconciles
    (ViewInterface config (reportedLinks config linkData) (addressesOf networkData)) now old outcome)
include houtcome

/-- After a poll the interfaces of the view are stored. -/
theorem InterfaceManagerWorker.Reconciles.stores_pair_iff
    (hnew : ∀ item ∈ outcome.table.content, InterfaceAgrees config item)
    {pair : Option String × String} :
    (∃ item ∈ outcome.table.content, item.status.pair = pair) ↔
      ∃ id status, ViewInterface config (reportedLinks config linkData) (addressesOf networkData)
        id status ∧ id.pair = pair := by
  constructor
  · rintro ⟨item, hitem, rfl⟩
    have hagrees := hnew item hitem
    obtain ⟨id, status, hview, rfl⟩ := (houtcome.polled.mem_iff item).mp hitem
    refine ⟨id, status, hview, ?_⟩
    rw [hagrees.pair_eq, id_heldItem]
  · rintro ⟨id, status, hview, rfl⟩
    have hitem := (houtcome.polled.mem_iff _).mpr ⟨id, status, hview, rfl⟩
    refine ⟨_, hitem, ?_⟩
    rw [(hnew _ hitem).pair_eq, id_heldItem]

/-- The updates say of an interface that the view does not have that it is gone, if no polled id has
evicted it. -/
theorem InterfaceManagerWorker.Reconciles.interface_updates_of_gone {pair : Option String × String}
    (hgone : ∀ id status, ViewInterface config (reportedLinks config linkData)
      (addressesOf networkData) id status → id.pair ≠ pair)
    (links : Reconciled NetworkLinkStatus) {status : NetworkInterfaceStatus}
    (hupdate : .interface status ∈ updates links outcome) (hpair : status.pair = pair) :
    ∃ item ∈ old, item.status.pair = pair ∧ ∀ id status, ViewInterface config
      (reportedLinks config linkData) (addressesOf networkData) id status →
        ¬ Clash CanonicalNetworkId.keys item.id id := by
  rcases interface_mem_updates.mp hupdate with ⟨deleted, hdeleted, rfl⟩ | ⟨new, hnew, rfl⟩
  · obtain ⟨hmem, hfree⟩ := (houtcome.mem_notifyDeleted deleted).mp hdeleted
    exact ⟨deleted, hmem, hpair, hfree⟩
  · obtain ⟨id, status, hview, rfl, -⟩ := (houtcome.mem_notify new).mp hnew
    exact absurd (hview.pair_eq.symm.trans hpair) (hgone id status hview)

end Interfaces

/-- **When removed interfaces are announced as gone.**  After a successful poll from any database
that a run reaches, every interface that is no longer shown was announced as gone to whoever is still
registered if and only if no stored interface that the view lacks shares its name, its device name or
its index with an interface of the view. -/
theorem interfaces_announced_iff {config : Router} (hdevices : config.DistinctDevices)
    (hlinks : config.DistinctLinks) (steps : List ManagerStep) {input : PollInput}
    {linkData networkData : List NetlinkMessage} (hlinkData : input.linkData = .ok linkData)
    (hnetworkData : input.networkData = .ok networkData)
    (hreports : DistinctReports (reportedLinks config linkData)) {db : InterfaceManagerDatabase}
    {updates : List NetworkStatusUpdate}
    (hpoll : tryPoll config input (InterfaceManager.run config steps) = .ok (db, updates))
    (before after : Shuffle (ℕ × InterfaceItem)) :
    (∀ pair, ShowsInterface before (InterfaceManager.run config steps) pair →
        ¬ ShowsInterface after db pair →
          ReachesRegistered updates (AnnouncesGoneInterface pair)) ↔
      ∀ item ∈ (InterfaceManager.run config steps).networkInterfaces.content,
        (∀ id status, ViewInterface config (reportedLinks config linkData) (addressesOf networkData)
          id status → id.pair ≠ item.id.pair) →
        ∀ id status, ViewInterface config (reportedLinks config linkData) (addressesOf networkData)
          id status → ¬ Clash CanonicalNetworkId.keys item.id id := by
  have hinvariant := ManagerInvariant.run config steps
  have hinvariant' := hinvariant.poll input
  have hreconciles :=
    reconciles_networkInterfaces hdevices hreports hinvariant.coherent input networkData hlinks
  rw [poll, hpoll] at hinvariant'
  rw [tryPoll_of_ok hlinkData hnetworkData, Except.ok.injEq] at hpoll
  obtain ⟨rfl, rfl⟩ := Prod.mk.inj hpoll
  have hshows : ∀ pair, ShowsInterface after
      (commit input (view config input linkData networkData)
        (InterfaceManager.run config steps)).1 pair ↔
      ∃ id status, ViewInterface config (reportedLinks config linkData) (addressesOf networkData)
        id status ∧ id.pair = pair :=
    fun pair => showsInterface_iff.trans (hreconciles.stores_pair_iff
      fun item hitem => (hinvariant'.interfaces item hitem).toInterfaceAgrees)
  have hagrees : ∀ item ∈ (InterfaceManager.run config steps).networkInterfaces.content,
      InterfaceAgrees config item :=
    fun item hitem => (hinvariant.interfaces item hitem).toInterfaceAgrees
  constructor
  · intro hannounced item hitem hgone
    have hreached := hannounced item.id.pair
      (showsInterface_iff.mpr ⟨item, hitem, (hagrees item hitem).pair_eq⟩) fun hshown => by
        obtain ⟨id, status, hview, hpair⟩ := (hshows _).mp hshown
        exact hgone id status hview hpair
    obtain ⟨status, hupdate, hpair, -⟩ := reachesRegistered_iff.mp hreached
    obtain ⟨deleted, hdeleted, hsamePair, hfree⟩ :=
      hreconciles.interface_updates_of_gone hgone _ hupdate hpair
    -- no two stored interfaces have one name and one device
    have hsame : deleted = item := by
      refine hinvariant.coherent.networkInterfaces.separated.eq_of_clash hdeleted hitem ?_
      refine (hagrees deleted hdeleted).clash_of_pair (hagrees item hitem) ?_
      rw [← (hagrees deleted hdeleted).pair_eq]
      exact hsamePair
    exact hsame ▸ hfree
  · intro hfree pair hshown hnotShown
    obtain ⟨item, hitem, rfl⟩ := showsInterface_iff.mp hshown
    have hgone : ∀ id status, ViewInterface config (reportedLinks config linkData)
        (addressesOf networkData) id status → id.pair ≠ item.id.pair := by
      intro id status hview hpair
      refine hnotShown ((hshows _).mpr ⟨id, status, hview, ?_⟩)
      rw [hpair, (hagrees item hitem).pair_eq]
    refine reachesRegistered_iff.mpr ⟨deletedInterfaceStatus item, ?_, rfl, rfl⟩
    exact interface_mem_updates.mpr (Or.inl
      ⟨item, (hreconciles.mem_notifyDeleted item).mpr ⟨hitem, hfree item hitem hgone⟩, rfl⟩)

/-- A poll of a device that is not configured and has an address. -/
def addressedPolled : List ManagerStep :=
  [.poll (pollAt 0 [newLinkMessage 3 "eth1" .up] [newAddressMessage 3 [10, 0, 0, 1]])]

/-- The poll after another device has taken the index and the address. -/
def retakenPoll : PollInput :=
  pollAt (10 ^ 10) [newLinkMessage 3 "eth2" .up] [newAddressMessage 3 [10, 0, 0, 1]]

theorem distinctReports_retaken :
    DistinctReports (reportedLinks wanConfig [newLinkMessage 3 "eth2" .up]) :=
  ⟨by decide +kernel, by decide +kernel⟩

theorem interfaces_announced_iff_wan :
    ∃ db updates, tryPoll wanConfig retakenPoll (InterfaceManager.run wanConfig addressedPolled) =
        .ok (db, updates) ∧
      ((∀ pair, ShowsInterface (Shuffle.id _) (InterfaceManager.run wanConfig addressedPolled) pair →
          ¬ ShowsInterface (Shuffle.id _) db pair →
            ReachesRegistered updates (AnnouncesGoneInterface pair)) ↔
        ∀ item ∈ (InterfaceManager.run wanConfig addressedPolled).networkInterfaces.content,
          (∀ id status, ViewInterface wanConfig
            (reportedLinks wanConfig [newLinkMessage 3 "eth2" .up])
            (addressesOf [newAddressMessage 3 [10, 0, 0, 1]]) id status → id.pair ≠ item.id.pair) →
          ∀ id status, ViewInterface wanConfig
            (reportedLinks wanConfig [newLinkMessage 3 "eth2" .up])
            (addressesOf [newAddressMessage 3 [10, 0, 0, 1]]) id status →
              ¬ Clash CanonicalNetworkId.keys item.id id) :=
  ⟨_, _, tryPoll_of_ok rfl rfl, interfaces_announced_iff (by decide) (by decide) addressedPolled rfl
    rfl distinctReports_retaken (tryPoll_of_ok rfl rfl) (Shuffle.id _) (Shuffle.id _)⟩

/-- An interface whose index another device takes is not announced as gone. -/
theorem not_interfaces_announced :
    ¬ ∀ (config : Router) (steps : List ManagerStep) (input : PollInput)
      (linkData networkData : List NetlinkMessage) (db : InterfaceManagerDatabase)
      (updates : List NetworkStatusUpdate) (before after : Shuffle (ℕ × InterfaceItem)),
      config.DistinctDevices → config.DistinctLinks → input.linkData = .ok linkData →
      input.networkData = .ok networkData → DistinctReports (reportedLinks config linkData) →
      tryPoll config input (InterfaceManager.run config steps) = .ok (db, updates) →
      ∀ pair, ShowsInterface before (InterfaceManager.run config steps) pair →
        ¬ ShowsInterface after db pair →
          ReachesRegistered updates (AnnouncesGoneInterface pair) := by
  intro h
  have hreached := h wanConfig addressedPolled retakenPoll _ _ _ _ (Shuffle.id _) (Shuffle.id _)
    (by decide) (by decide) rfl rfl distinctReports_retaken (tryPoll_of_ok rfl rfl) (none, "eth1")
    (by unfold ShowsInterface; decide +kernel) (by unfold ShowsInterface; decide +kernel)
  obtain ⟨status, hupdate, hpair, hstate⟩ := reachesRegistered_iff.mp hreached
  have hsilent : (commit retakenPoll (view wanConfig retakenPoll [newLinkMessage 3 "eth2" .up]
      [newAddressMessage 3 [10, 0, 0, 1]]) (InterfaceManager.run wanConfig addressedPolled)).2.all
      (fun update => @NetworkStatusUpdate.casesOn (fun _ => Bool) update (fun _ => true)
        fun status => decide (status.pair ≠ (none, "eth1"))) = true := by
    decide +kernel
  exact absurd hpair (of_decide_eq_true (List.all_eq_true.mp hsilent _ hupdate))

end RustyRouter
