/-
# What a poll sees of the links and the addresses

The links of a view in terms of the configuration and the links that the dump
reports: `ViewLink` says which ids are to be listed, with which status.  Every
link of a view is one (`viewLink_of_lookup`), and when the reported links have
distinct indices the view has all of them (`view_networkLinks_iff`), in every
order of the messages and the maps.  The addresses of an index are those of its
messages, in their order (`lookup_readNetworkData`).
-/
import RustyRouter.InterfacePoll

namespace RustyRouter.InterfaceManagerWorker

open HashMap

/-! ## Reports -/

/-- The links that the messages of a dump report. -/
def reportedLinks (config : Router) (linkData : List NetlinkMessage) :
    List (UInt64 × NetworkLinkStatus) :=
  linkData.filterMap (NetlinkMessageProcessor.new config).processLinkMessage

/-- The addresses that a dump gives an index. -/
def addressesOf (networkData : List NetlinkMessage) (index : UInt64) : List IpAddress :=
  ((networkData.filterMap NetlinkMessageProcessor.processAddressMessage).filter
    fun a => a.1 = index).map Prod.snd

/-- The links of a dump have distinct indices and device names. -/
structure DistinctReports (reported : List (UInt64 × NetworkLinkStatus)) : Prop where
  indices : (reported.map Prod.fst).Nodup
  devices : (reported.map fun r => r.2.device).Nodup

/-- No reported link has a name. -/
def Unreported (reported : List (UInt64 × NetworkLinkStatus)) (name : String) : Prop :=
  ∀ r ∈ reported, r.2.name ≠ some name

/-- The item made for a reported link. -/
def reportedItem (now : CanonicalNetworkId → Instant) (r : UInt64 × NetworkLinkStatus) : LinkItem :=
  ⟨reportedId r.1 r.2, r.2, now (reportedId r.1 r.2)⟩

section Reports

variable {config : Router} {linkData : List NetlinkMessage}

/-- A reported link has the name that the configuration gives its device. -/
theorem name_of_mem_reportedLinks {r : UInt64 × NetworkLinkStatus}
    (h : r ∈ reportedLinks config linkData) :
    r.2.name = (NetlinkMessageProcessor.new config).deviceLinks.lookup r.2.device := by
  obtain ⟨message, -, hmessage⟩ := List.mem_filterMap.mp h
  exact (NetlinkMessageProcessor.processLinkMessage_eq_some hmessage).1

theorem reported_of_mem_reportedLinks {r : UInt64 × NetworkLinkStatus}
    (h : r ∈ reportedLinks config linkData) : r.2.operationalState.reported := by
  obtain ⟨message, -, hmessage⟩ := List.mem_filterMap.mp h
  exact (NetlinkMessageProcessor.processLinkMessage_eq_some hmessage).2

/-- The name of a reported link is configured. -/
theorem link_of_mem_reportedLinks {r : UInt64 × NetworkLinkStatus}
    (h : r ∈ reportedLinks config linkData) {name : String} (hname : r.2.name = some name) :
    ∃ link, config.networkLinks.lookup name = some link ∧ link.device = r.2.device := by
  rw [name_of_mem_reportedLinks h] at hname
  exact NetlinkMessageProcessor.link_of_lookup_deviceLinks hname

variable (hreports : DistinctReports (reportedLinks config linkData))
include hreports

theorem DistinctReports.eq_of_index {r r' : UInt64 × NetworkLinkStatus}
    (h : r ∈ reportedLinks config linkData) (h' : r' ∈ reportedLinks config linkData)
    (hindex : r.1 = r'.1) : r = r' :=
  List.inj_on_of_nodup_map hreports.indices h h' hindex

theorem DistinctReports.eq_of_device {r r' : UInt64 × NetworkLinkStatus}
    (h : r ∈ reportedLinks config linkData) (h' : r' ∈ reportedLinks config linkData)
    (hdevice : r.2.device = r'.2.device) : r = r' :=
  List.inj_on_of_nodup_map hreports.devices h h' hdevice

theorem DistinctReports.eq_of_name {r r' : UInt64 × NetworkLinkStatus}
    (h : r ∈ reportedLinks config linkData) (h' : r' ∈ reportedLinks config linkData)
    {name : String} (hname : r.2.name = some name) (hname' : r'.2.name = some name) : r = r' := by
  rw [name_of_mem_reportedLinks h] at hname
  rw [name_of_mem_reportedLinks h'] at hname'
  exact hreports.eq_of_device h h' (NetlinkMessageProcessor.deviceLinks_injective hname hname')

end Reports

/-! ## The maps of the link dump -/

@[simp] theorem mappedDevices_addReportedLink (now : CanonicalNetworkId → Instant) (maps : LinkMaps)
    (r : UInt64 × NetworkLinkStatus) :
    (addReportedLink now maps r).mappedDevices =
      maps.mappedDevices.insert r.1 (reportedItem now r) := by
  obtain ⟨index, name, device, state⟩ := r
  cases name <;> rfl

@[simp] theorem networkLinks_addReportedLink (now : CanonicalNetworkId → Instant) (maps : LinkMaps)
    (r : UInt64 × NetworkLinkStatus) :
    (addReportedLink now maps r).networkLinks =
      maps.networkLinks.insert (reportedId r.1 r.2) (reportedItem now r) := by
  obtain ⟨index, name, device, state⟩ := r
  cases name <;> rfl

/-- The loop over the reported links. -/
theorem foldl_addReportedLink (now : CanonicalNetworkId → Instant)
    (reported : List (UInt64 × NetworkLinkStatus)) (maps : LinkMaps) :
    (reported.foldl (addReportedLink now) maps).mappedDevices =
        extend maps.mappedDevices (reported.map fun r => (r.1, reportedItem now r)) ∧
      (reported.foldl (addReportedLink now) maps).mappedLinks =
        extend maps.mappedLinks (reported.filterMap fun r =>
          r.2.name.map fun name => (name, reportedItem now r)) ∧
      (reported.foldl (addReportedLink now) maps).networkLinks =
        extend maps.networkLinks
          (reported.map fun r => (reportedId r.1 r.2, reportedItem now r)) ∧
      ∀ name device, (reported.foldl (addReportedLink now) maps).unmappedLinks.lookup name =
          some device ↔
        maps.unmappedLinks.lookup name = some device ∧ Unreported reported name := by
  induction reported generalizing maps with
  | nil => exact ⟨rfl, rfl, rfl, fun name device => by simp [Unreported]⟩
  | cons r reported ih =>
    obtain ⟨hdevices, hlinks, hnetwork, hunmapped⟩ := ih (addReportedLink now maps r)
    rw [List.foldl_cons]
    refine ⟨?_, ?_, ?_, fun name device => ?_⟩
    · rw [hdevices, mappedDevices_addReportedLink, List.map_cons, extend_cons]
    · rw [hlinks, List.filterMap_cons, addReportedLink]
      cases r.2.name <;> simp [extend_cons, reportedItem]
    · rw [hnetwork, networkLinks_addReportedLink, List.map_cons, extend_cons]
    · rw [hunmapped, addReportedLink]
      cases hname : r.2.name with
      | none => simp [hname, Unreported]
      | some name' =>
        simp only [hname, lookup_erase_eq_some, Unreported, List.forall_mem_cons, ne_eq,
          Option.some.injEq]
        tauto

theorem readLinkData_eq (config : Router) (now : CanonicalNetworkId → Instant)
    (unmappedLinks : HashMap String String) (linkData : List NetlinkMessage) :
    readLinkData (.new config) now unmappedLinks linkData =
      (reportedLinks config linkData).foldl (addReportedLink now) ⟨∅, ∅, ∅, unmappedLinks⟩ := by
  rw [reportedLinks, List.foldl_filterMap, readLinkData]
  congr 1
  funext maps response
  cases (NetlinkMessageProcessor.new config).processLinkMessage response <;> rfl

/-- The devices of the configured links. -/
theorem lookup_configuredDevices {config : Router} {name device : String} :
    (configuredDevices config).lookup name = some device ↔
      ∃ link, config.networkLinks.lookup name = some link ∧ link.device = device := by
  have hcollected : configuredDevices config =
      collect (config.networkLinks.iter.map fun link => (link.1, link.2.device)) := rfl
  have hmem : ∀ name device, (name, device) ∈
      (config.networkLinks.iter.map fun link => (link.1, link.2.device)) ↔
        ∃ link, config.networkLinks.lookup name = some link ∧ link.device = device := by
    intro name device
    rw [List.mem_map]
    constructor
    · rintro ⟨⟨name', link⟩, hmem, heq⟩
      cases heq
      exact ⟨link, mem_iter.mp hmem, rfl⟩
    · rintro ⟨link, hlookup, rfl⟩
      exact ⟨(name, link), mem_iter.mpr hlookup, rfl⟩
  rw [hcollected, lookup_collect_of_functional, hmem]
  intro name device device' h h'
  obtain ⟨link, hlink, rfl⟩ := (hmem name device).mp h
  obtain ⟨link', hlink', rfl⟩ := (hmem name device').mp h'
  rw [hlink, Option.some.injEq] at hlink'
  rw [hlink']

/-- An interface that a link is mapped to names the link. -/
theorem interface_of_lookup_linkNetworkInterfaces {config : Router} {link name : String}
    (h : (linkNetworkInterfaces config).lookup link = some name) :
    ∃ interface, config.networkInterfaces.lookup name = some interface ∧
      interface.networkLink = link := by
  obtain ⟨⟨name', interface⟩, hmem, heq⟩ := List.mem_map.mp (mem_of_lookup_collect h)
  cases heq
  exact ⟨interface, mem_iter.mp hmem, rfl⟩

/-- When no two interfaces name one link, a link is mapped to the interface that names it. -/
theorem lookup_linkNetworkInterfaces {config : Router} (hlinks : config.DistinctLinks)
    {link name : String} : (linkNetworkInterfaces config).lookup link = some name ↔
      ∃ interface, config.networkInterfaces.lookup name = some interface ∧
        interface.networkLink = link := by
  refine ⟨interface_of_lookup_linkNetworkInterfaces, ?_⟩
  rintro ⟨interface, hlookup, rfl⟩
  have hmapped : ∃ name', (linkNetworkInterfaces config).lookup interface.networkLink = some name' :=
    lookup_collect_isSome (List.mem_map.mpr ⟨(name, interface), mem_iter.mpr hlookup, rfl⟩)
  obtain ⟨name', hname'⟩ := hmapped
  obtain ⟨interface', hlookup', hlink⟩ := interface_of_lookup_linkNetworkInterfaces hname'
  rw [hlinks.name_eq hlookup hlookup' hlink.symm]
  exact hname'

/-! ## The links of the view -/

/-- The ids and statuses of the links that are to be listed. -/
inductive ViewLink (config : Router) (reported : List (UInt64 × NetworkLinkStatus)) :
    CanonicalNetworkId → NetworkLinkStatus → Prop where
  | reported {index : UInt64} {status : NetworkLinkStatus} (h : (index, status) ∈ reported) :
      ViewLink config reported (reportedId index status) status
  | missing {name : String} {link : NetworkLink} (h : config.networkLinks.lookup name = some link)
      (hunreported : Unreported reported name) :
      ViewLink config reported ⟨none, some name, some link.device⟩
        (missingLinkStatus name link.device)

/-- The entry made for a missing link. -/
def missingEntry (now : CanonicalNetworkId → Instant) (p : String × String) :
    CanonicalNetworkId × LinkItem :=
  (⟨none, some p.1, some p.2⟩,
    ⟨⟨none, some p.1, some p.2⟩, missingLinkStatus p.1 p.2, now ⟨none, some p.1, some p.2⟩⟩)

/-- The entry made for the interface of a missing link. -/
def missingInterfaceEntry (config : Router) (now : CanonicalNetworkId → Instant)
    (p : String × String) : Option (CanonicalNetworkId × InterfaceItem) :=
  ((linkNetworkInterfaces config).lookup p.1).map fun interfaceName =>
    (⟨none, some interfaceName, some p.2⟩,
      ⟨⟨none, some interfaceName, some p.2⟩,
        ⟨some interfaceName, [], missingLinkStatus p.1 p.2⟩,
        now ⟨none, some interfaceName, some p.2⟩⟩)

/-- The loop over the missing links. -/
theorem foldl_addMissingLink (config : Router) (linkNow interfaceNow : CanonicalNetworkId → Instant)
    (l : List (String × String))
    (maps : HashMap CanonicalNetworkId LinkItem × HashMap CanonicalNetworkId InterfaceItem) :
    l.foldl (addMissingLink linkNow interfaceNow (linkNetworkInterfaces config)) maps =
      (extend maps.1 (l.map (missingEntry linkNow)),
        extend maps.2 (l.filterMap (missingInterfaceEntry config interfaceNow))) := by
  induction l generalizing maps with
  | nil => rfl
  | cons p l ih =>
    rw [List.foldl_cons, ih, addMissingLink, List.filterMap_cons, missingInterfaceEntry]
    cases (linkNetworkInterfaces config).lookup p.1 <;> rfl

section View

variable {config : Router} {input : PollInput} {linkData networkData : List NetlinkMessage}

/-- The maps of the link dump. -/
def linkMaps (config : Router) (input : PollInput) (linkData : List NetlinkMessage) : LinkMaps :=
  readLinkData (.new config) input.linkNow (configuredDevices config) linkData

/-- The links that are found missing. -/
theorem mem_unmappedLinks (input : PollInput) {name device : String} :
    (name, device) ∈ input.unmappedLinks.order (linkMaps config input linkData).unmappedLinks.iter ↔
      (∃ link, config.networkLinks.lookup name = some link ∧ link.device = device) ∧
        Unreported (reportedLinks config linkData) name := by
  rw [input.unmappedLinks.mem_order, mem_iter, linkMaps, readLinkData_eq,
    (foldl_addReportedLink _ _ _).2.2.2, lookup_configuredDevices]

/-- The entries made for the reported links. -/
def reportedEntries (config : Router) (input : PollInput) (linkData : List NetlinkMessage) :
    List (CanonicalNetworkId × LinkItem) :=
  (reportedLinks config linkData).map fun r => (reportedId r.1 r.2, reportedItem input.linkNow r)

/-- The entries made for the missing links. -/
def missingEntries (config : Router) (input : PollInput) (linkData : List NetlinkMessage) :
    List (CanonicalNetworkId × LinkItem) :=
  (input.unmappedLinks.order (linkMaps config input linkData).unmappedLinks.iter).map
    (missingEntry input.linkNow)

theorem networkLinks_linkMaps : (linkMaps config input linkData).networkLinks =
    collect (reportedEntries config input linkData) := by
  rw [linkMaps, readLinkData_eq, (foldl_addReportedLink _ _ _).2.2.1]
  rfl

theorem networkLinks_view : (view config input linkData networkData).networkLinks =
    extend (collect (reportedEntries config input linkData))
      (missingEntries config input linkData) := by
  show (linkView config input (linkMaps config input linkData)).1 = _
  rw [linkView, foldl_addMissingLink, networkLinks_linkMaps]
  rfl

theorem mem_missingEntries {id : CanonicalNetworkId} {item : LinkItem} :
    (id, item) ∈ missingEntries config input linkData ↔
      ∃ name link, config.networkLinks.lookup name = some link ∧
        Unreported (reportedLinks config linkData) name ∧
        id = ⟨none, some name, some link.device⟩ ∧
        item = ⟨id, missingLinkStatus name link.device, input.linkNow id⟩ := by
  rw [missingEntries, List.mem_map]
  constructor
  · rintro ⟨⟨name, device⟩, hmem, heq⟩
    obtain ⟨⟨link, hlookup, rfl⟩, hunreported⟩ := (mem_unmappedLinks input).mp hmem
    cases heq
    exact ⟨name, link, hlookup, hunreported, rfl, rfl⟩
  · rintro ⟨name, link, hlookup, hunreported, rfl, rfl⟩
    exact ⟨(name, link.device), (mem_unmappedLinks input).mpr ⟨⟨link, hlookup, rfl⟩, hunreported⟩, rfl⟩

/-- Every link of a view is to be listed. -/
theorem viewLink_of_lookup {id : CanonicalNetworkId} {item : LinkItem}
    (h : (view config input linkData networkData).networkLinks.lookup id = some item) :
    ∃ status, ViewLink config (reportedLinks config linkData) id status ∧
      item = ⟨id, status, input.linkNow id⟩ := by
  rw [networkLinks_view] at h
  rcases mem_of_lookup_extend h with hmissing | ⟨-, hreported⟩
  · obtain ⟨name, link, hlookup, hunreported, rfl, rfl⟩ := mem_missingEntries.mp hmissing
    exact ⟨_, .missing hlookup hunreported, rfl⟩
  · obtain ⟨r, hr, heq⟩ := List.mem_map.mp (mem_of_lookup_collect hreported)
    cases heq
    exact ⟨r.2, .reported hr, rfl⟩

/-- **The links of a view**, when the reported links have distinct indices. -/
theorem view_networkLinks_iff (hreports : DistinctReports (reportedLinks config linkData))
    {id : CanonicalNetworkId} {item : LinkItem} :
    (view config input linkData networkData).networkLinks.lookup id = some item ↔
      ∃ status, ViewLink config (reportedLinks config linkData) id status ∧
        item = ⟨id, status, input.linkNow id⟩ := by
  refine ⟨viewLink_of_lookup, ?_⟩
  rintro ⟨status, hview, rfl⟩
  have hmissing : ∀ id item item', (id, item) ∈ missingEntries config input linkData →
      (id, item') ∈ missingEntries config input linkData → item = item' := by
    intro id item item' h h'
    obtain ⟨name, link, -, -, rfl, rfl⟩ := mem_missingEntries.mp h
    obtain ⟨name', link', -, -, heq, rfl⟩ := mem_missingEntries.mp h'
    simp only [CanonicalNetworkId.mk.injEq, Option.some.injEq, true_and] at heq
    rw [heq.1, heq.2]
  have hreported : ∀ id item item', (id, item) ∈ reportedEntries config input linkData →
      (id, item') ∈ reportedEntries config input linkData → item = item' := by
    intro id item item' h h'
    obtain ⟨r, hr, heq⟩ := List.mem_map.mp h
    obtain ⟨r', hr', heq'⟩ := List.mem_map.mp h'
    cases heq
    have hindex : some r'.1 = some r.1 :=
      congrArg CanonicalNetworkId.id (congrArg Prod.fst heq')
    rw [hreports.eq_of_index hr' hr (Option.some.inj hindex)] at heq'
    exact congrArg Prod.snd heq'
  rw [networkLinks_view, lookup_extend_of_functional hmissing,
    lookup_collect_of_functional hreported, mem_missingEntries]
  cases hview with
  | reported hr =>
    refine Or.inr ⟨?_, List.mem_map.mpr ⟨_, hr, rfl⟩⟩
    intro hmem
    obtain ⟨⟨id', item'⟩, hmem', rfl⟩ := List.mem_map.mp hmem
    obtain ⟨name, link, -, -, heq, -⟩ := mem_missingEntries.mp hmem'
    cases heq
  | missing hlookup hunreported => exact Or.inl ⟨_, _, hlookup, hunreported, rfl, rfl⟩

end View

/-! ## The addresses of the dump -/

/-- Collecting the addresses of each index. -/
theorem lookup_foldl_addresses (l : List (UInt64 × IpAddress)) (index : UInt64)
    (m : HashMap UInt64 (List IpAddress)) :
    (l.foldl (fun m a => m.insert a.1 ((m.lookup a.1).getD [] ++ [a.2])) m).lookup index =
      if (l.filter fun a => a.1 = index) = [] then m.lookup index
      else some ((m.lookup index).getD [] ++ (l.filter fun a => a.1 = index).map Prod.snd) := by
  induction l generalizing m with
  | nil => simp
  | cons a l ih =>
    rw [List.foldl_cons, ih]
    by_cases ha : a.1 = index
    · subst ha
      rw [List.filter_cons_of_pos (by simp), AList.lookup_insert, if_neg (List.cons_ne_nil _ _)]
      split_ifs with hempty
      · rw [hempty]
        rfl
      · rw [Option.getD_some, List.append_assoc]
        rfl
    · rw [List.filter_cons_of_neg (by simpa using ha), AList.lookup_insert_ne (Ne.symm ha)]

/-- An index of the dump has its addresses. -/
theorem lookup_readNetworkData {networkData : List NetlinkMessage} {index : UInt64}
    {addresses : List IpAddress} :
    (readNetworkData networkData).lookup index = some addresses ↔
      addresses = addressesOf networkData index ∧ addresses ≠ [] := by
  have hread : readNetworkData networkData =
      (networkData.filterMap NetlinkMessageProcessor.processAddressMessage).foldl
        (fun m a => m.insert a.1 ((m.lookup a.1).getD [] ++ [a.2])) ∅ := by
    rw [List.foldl_filterMap, readNetworkData]
    congr 1
    funext m response
    cases NetlinkMessageProcessor.processAddressMessage response <;> rfl
  rw [hread, lookup_foldl_addresses, addressesOf]
  split_ifs with hempty
  · simp [hempty]
  · simp only [AList.lookup_empty, Option.getD_none, List.nil_append, Option.some.injEq]
    constructor
    · rintro rfl
      exact ⟨rfl, by simpa using hempty⟩
    · rintro ⟨rfl, -⟩
      rfl

/-- An index has the addresses of the dump, or none. -/
theorem getD_lookup_readNetworkData (networkData : List NetlinkMessage) (index : UInt64) :
    ((readNetworkData networkData).lookup index).getD [] = addressesOf networkData index := by
  cases hlookup : (readNetworkData networkData).lookup index with
  | none =>
    by_contra hne
    have hsome := lookup_readNetworkData.mpr ⟨rfl, Ne.symm hne⟩
    rw [hlookup] at hsome
    cases hsome
  | some addresses => exact (lookup_readNetworkData.mp hlookup).1

end RustyRouter.InterfaceManagerWorker
