/-
# What a poll sees of the interfaces

Whatever the configuration and the dumps, an interface of a view is one of five
kinds, with some addresses (`Candidate`, `candidate_of_lookup`).  When no two
interfaces name one link and the reported links have distinct indices and
devices, each index is asked for its addresses once, and an interface that the
loop over the configuration finds misconfigured although its link is configured
is replaced by the one made for the missing link: the view is then exactly
`ViewInterface` (`view_networkInterfaces_iff`).
-/
import RustyRouter.PolledLinks

namespace RustyRouter.InterfaceManagerWorker

open HashMap

section View

variable {config : Router} {input : PollInput} {linkData networkData : List NetlinkMessage}

/-! ## The maps of the link dump -/

/-- A mapped link is a reported link of that name. -/
theorem reported_of_lookup_mappedLinks {name : String} {item : LinkItem}
    (h : (linkMaps config input linkData).mappedLinks.lookup name = some item) :
    ∃ r ∈ reportedLinks config linkData, r.2.name = some name ∧
      item = reportedItem input.linkNow r := by
  rw [linkMaps, readLinkData_eq, (foldl_addReportedLink _ _ _).2.1] at h
  obtain ⟨r, hr, hentry⟩ := List.mem_filterMap.mp (mem_of_lookup_collect h)
  obtain ⟨name', hname', heq⟩ := Option.map_eq_some_iff.mp hentry
  cases heq
  exact ⟨r, hr, hname', rfl⟩

/-- A name that no reported link has is not mapped. -/
theorem lookup_mappedLinks_eq_none {name : String} :
    (linkMaps config input linkData).mappedLinks.lookup name = none ↔
      Unreported (reportedLinks config linkData) name := by
  constructor
  · intro hnone r hr hname
    rw [linkMaps, readLinkData_eq, (foldl_addReportedLink _ _ _).2.1] at hnone
    have hmem : (name, reportedItem input.linkNow r) ∈
        (reportedLinks config linkData).filterMap fun r =>
          r.2.name.map fun name => (name, reportedItem input.linkNow r) :=
      List.mem_filterMap.mpr ⟨r, hr, by rw [hname]; rfl⟩
    obtain ⟨item, hitem⟩ := lookup_collect_isSome hmem
    rw [collect] at hitem
    rw [hitem] at hnone
    cases hnone
  · intro hunreported
    rw [Option.eq_none_iff_forall_ne_some]
    intro item hitem
    obtain ⟨r, hr, hname, -⟩ := reported_of_lookup_mappedLinks hitem
    exact hunreported r hr hname

/-- A mapped device is a reported link of that index. -/
theorem reported_of_lookup_mappedDevices {index : UInt64} {item : LinkItem}
    (h : (linkMaps config input linkData).mappedDevices.lookup index = some item) :
    ∃ r ∈ reportedLinks config linkData, r.1 = index ∧ item = reportedItem input.linkNow r := by
  rw [linkMaps, readLinkData_eq, (foldl_addReportedLink _ _ _).1] at h
  obtain ⟨r, hr, heq⟩ := List.mem_map.mp (mem_of_lookup_collect h)
  cases heq
  exact ⟨r, hr, rfl, rfl⟩

/-- A reported device is found under its index. -/
theorem lookup_mappedDevices_isSome (input : PollInput) {r : UInt64 × NetworkLinkStatus}
    (hr : r ∈ reportedLinks config linkData) :
    ∃ item, (linkMaps config input linkData).mappedDevices.lookup r.1 = some item := by
  rw [linkMaps, readLinkData_eq, (foldl_addReportedLink _ _ _).1]
  exact lookup_collect_isSome (List.mem_map.mpr ⟨r, hr, rfl⟩)

end View

/-! ## The loops -/

section Loops

variable (config : Router) (now : CanonicalNetworkId → Instant)
  (mappedLinks : HashMap String LinkItem) (mappedDevices : HashMap UInt64 LinkItem)

/-- The index whose addresses a configured interface uses up. -/
def mappedIndex (p : String × NetworkInterface) : Option UInt64 :=
  (mappedLinks.lookup p.2.networkLink).bind fun networkLink => networkLink.id.id

/-- The entry made for a configured interface. -/
def configuredEntry (addresses : List IpAddress) (p : String × NetworkInterface) :
    CanonicalNetworkId × InterfaceItem :=
  let id : CanonicalNetworkId :=
    match mappedLinks.lookup p.2.networkLink with
    | some networkLink => ⟨networkLink.id.id, some p.1, networkLink.id.device⟩
    | none => ⟨none, some p.1, (config.networkLinks.lookup p.2.networkLink).map NetworkLink.device⟩
  let status : NetworkInterfaceStatus :=
    match mappedLinks.lookup p.2.networkLink with
    | some networkLink => ⟨some p.1, addresses.insertionSort (· ≤ ·), networkLink.status⟩
    | none => ⟨some p.1, [], some p.2.networkLink,
        ((config.networkLinks.lookup p.2.networkLink).map NetworkLink.device).getD "",
        .misconfigured⟩
  (id, ⟨id, status, now id⟩)

/-- A configured interface has its name. -/
theorem name_configuredEntry (addresses : List IpAddress) (p : String × NetworkInterface) :
    (configuredEntry config now mappedLinks addresses p).1.name = some p.1 := by
  unfold configuredEntry
  cases mappedLinks.lookup p.2.networkLink <;> rfl

/-- An interface on a link that is mapped has the addresses and the status of the link. -/
theorem configuredEntry_of_mapped {p : String × NetworkInterface} {networkLink : LinkItem}
    (h : mappedLinks.lookup p.2.networkLink = some networkLink) (addresses : List IpAddress) :
    configuredEntry config now mappedLinks addresses p =
      (⟨networkLink.id.id, some p.1, networkLink.id.device⟩,
        ⟨⟨networkLink.id.id, some p.1, networkLink.id.device⟩,
          ⟨some p.1, addresses.insertionSort (· ≤ ·), networkLink.status⟩,
          now ⟨networkLink.id.id, some p.1, networkLink.id.device⟩⟩) := by
  simp only [configuredEntry, h]

/-- An interface on a configured link that is not mapped has no index and no addresses. -/
theorem configuredEntry_of_unmapped {p : String × NetworkInterface} {networkLink : NetworkLink}
    (h : mappedLinks.lookup p.2.networkLink = none)
    (hlink : config.networkLinks.lookup p.2.networkLink = some networkLink)
    (addresses : List IpAddress) :
    configuredEntry config now mappedLinks addresses p =
      (⟨none, some p.1, some networkLink.device⟩,
        ⟨⟨none, some p.1, some networkLink.device⟩,
          ⟨some p.1, [], ⟨some p.2.networkLink, networkLink.device, .misconfigured⟩⟩,
          now ⟨none, some p.1, some networkLink.device⟩⟩) := by
  simp only [configuredEntry, h, hlink, Option.map_some, Option.getD_some]

/-- An interface on a link that is not configured has no device either. -/
theorem configuredEntry_of_unlinked {p : String × NetworkInterface}
    (h : mappedLinks.lookup p.2.networkLink = none)
    (hlink : config.networkLinks.lookup p.2.networkLink = none) (addresses : List IpAddress) :
    configuredEntry config now mappedLinks addresses p =
      (⟨none, some p.1, none⟩,
        ⟨⟨none, some p.1, none⟩, ⟨some p.1, [], ⟨some p.2.networkLink, "", .misconfigured⟩⟩,
          now ⟨none, some p.1, none⟩⟩) := by
  simp only [configuredEntry, h, hlink, Option.map_none, Option.getD_none]

/-- A configured interface takes the addresses of its index, and is inserted. -/
theorem addConfiguredInterface_eq
    (maps : HashMap UInt64 (List IpAddress) × HashMap CanonicalNetworkId InterfaceItem)
    (p : String × NetworkInterface) :
    addConfiguredInterface config now mappedLinks maps p =
      ((mappedIndex mappedLinks p).elim maps.1 maps.1.erase,
        extend maps.2 [configuredEntry config now mappedLinks
          ((mappedIndex mappedLinks p).elim [] fun index => (maps.1.lookup index).getD []) p]) := by
  unfold addConfiguredInterface mappedIndex configuredEntry
  cases hlink : mappedLinks.lookup p.2.networkLink with
  | some networkLink =>
    cases hindex : networkLink.id.id with
    | some index => simp [hlink, hindex, extend_cons]
    | none => simp [hlink, hindex, extend_cons]
  | none =>
    cases hconfig : config.networkLinks.lookup p.2.networkLink with
    | some networkLink => simp [hlink, hconfig, extend_cons]
    | none => simp [hlink, hconfig, extend_cons]

/-- The loop over the configured interfaces, when no index is asked for its addresses twice. -/
theorem foldl_addConfiguredInterface (l : List (String × NetworkInterface))
    (hl : l.Pairwise fun p q => ∀ index, mappedIndex mappedLinks p = some index →
      mappedIndex mappedLinks q ≠ some index)
    (addresses : UInt64 → List IpAddress)
    (maps : HashMap UInt64 (List IpAddress) × HashMap CanonicalNetworkId InterfaceItem)
    (haddresses : ∀ p ∈ l, ∀ index, mappedIndex mappedLinks p = some index →
      (maps.1.lookup index).getD [] = addresses index) :
    (l.foldl (addConfiguredInterface config now mappedLinks) maps).2 =
        extend maps.2 (l.map fun p => configuredEntry config now mappedLinks
          ((mappedIndex mappedLinks p).elim [] addresses) p) ∧
      ∀ index a, (l.foldl (addConfiguredInterface config now mappedLinks) maps).1.lookup index =
          some a ↔
        maps.1.lookup index = some a ∧ ∀ p ∈ l, mappedIndex mappedLinks p ≠ some index := by
  induction l generalizing maps with
  | nil => exact ⟨rfl, fun index a => by simp⟩
  | cons p l ih =>
    obtain ⟨hp, hl⟩ := List.pairwise_cons.mp hl
    have hstep := addConfiguredInterface_eq config now mappedLinks maps p
    -- the addresses of an index are there for the first interface that takes them
    have hadd : (mappedIndex mappedLinks p).elim [] (fun index => (maps.1.lookup index).getD []) =
        (mappedIndex mappedLinks p).elim [] addresses := by
      cases hindex : mappedIndex mappedLinks p with
      | none => rfl
      | some index => exact haddresses p List.mem_cons_self index hindex
    -- and for no later one
    have herase : ∀ index a, ((mappedIndex mappedLinks p).elim maps.1 maps.1.erase).lookup index =
        some a ↔ mappedIndex mappedLinks p ≠ some index ∧ maps.1.lookup index = some a := by
      intro index a
      cases hindex : mappedIndex mappedLinks p with
      | none => simp
      | some index' =>
        rw [Option.elim_some, lookup_erase_eq_some]
        simp [eq_comm]
    obtain ⟨hentries, hleft⟩ := ih hl (addConfiguredInterface config now mappedLinks maps p) (by
      intro q hq index hindex
      rw [hstep, ← haddresses q (List.mem_cons_of_mem p hq) index hindex]
      congr 1
      apply Option.ext
      intro a
      rw [herase]
      exact and_iff_right fun hpi => hp q hq index hpi hindex)
    rw [List.foldl_cons]
    refine ⟨?_, fun index a => ?_⟩
    · -- the entries so far, and behind them those of the rest
      rw [hentries, hstep, hadd, List.map_cons, ← extend_append]
      rfl
    · rw [hleft, hstep, herase, List.forall_mem_cons]
      tauto

/-- The entry made for the addresses of an index that are left. -/
def unnamedEntry (p : UInt64 × List IpAddress) : Option (CanonicalNetworkId × InterfaceItem) :=
  (mappedDevices.lookup p.1).map fun networkLink =>
    let id : CanonicalNetworkId := ⟨some p.1, none, some networkLink.status.device⟩
    (id, ⟨id, ⟨none, p.2.insertionSort (· ≤ ·), networkLink.status⟩, now id⟩)

/-- The addresses that are left make interfaces without a name. -/
theorem foldl_addUnnamedInterface (l : List (UInt64 × List IpAddress))
    (networkInterfaces : HashMap CanonicalNetworkId InterfaceItem) :
    l.foldl (addUnnamedInterface now mappedDevices) networkInterfaces =
      extend networkInterfaces (l.filterMap (unnamedEntry now mappedDevices)) := by
  induction l generalizing networkInterfaces with
  | nil => rfl
  | cons p l ih =>
    rw [List.foldl_cons, ih, addUnnamedInterface, List.filterMap_cons, unnamedEntry]
    cases mappedDevices.lookup p.1 <;> rfl

end Loops

/-! ## Any view -/

/-- The kinds of interfaces that a view can have. -/
inductive Candidate (config : Router) (reported : List (UInt64 × NetworkLinkStatus)) :
    CanonicalNetworkId → NetworkInterfaceStatus → Prop where
  | reported {name : String} {interface : NetworkInterface} {index : UInt64}
      {link : NetworkLinkStatus} {addresses : List IpAddress}
      (h : config.networkInterfaces.lookup name = some interface)
      (hreported : (index, link) ∈ reported) (hname : link.name = some interface.networkLink) :
      Candidate config reported ⟨some index, some name, some link.device⟩
        ⟨some name, addresses, link⟩
  | misconfigured {name : String} {interface : NetworkInterface} {link : NetworkLink}
      (h : config.networkInterfaces.lookup name = some interface)
      (hlink : config.networkLinks.lookup interface.networkLink = some link) :
      Candidate config reported ⟨none, some name, some link.device⟩
        ⟨some name, [], ⟨some interface.networkLink, link.device, .misconfigured⟩⟩
  | unlinked {name : String} {interface : NetworkInterface}
      (h : config.networkInterfaces.lookup name = some interface)
      (hlink : config.networkLinks.lookup interface.networkLink = none) :
      Candidate config reported ⟨none, some name, none⟩
        ⟨some name, [], ⟨some interface.networkLink, "", .misconfigured⟩⟩
  | unnamed {index : UInt64} {link : NetworkLinkStatus} {addresses : List IpAddress}
      (hreported : (index, link) ∈ reported) :
      Candidate config reported ⟨some index, none, some link.device⟩ ⟨none, addresses, link⟩
  | missing {name : String} {interface : NetworkInterface} {link : NetworkLink}
      (h : config.networkInterfaces.lookup name = some interface)
      (hlink : config.networkLinks.lookup interface.networkLink = some link) :
      Candidate config reported ⟨none, some name, some link.device⟩
        ⟨some name, [], missingLinkStatus interface.networkLink link.device⟩

/-- An entry that a view can have. -/
def IsCandidate (config : Router) (reported : List (UInt64 × NetworkLinkStatus))
    (now : CanonicalNetworkId → Instant) (entry : CanonicalNetworkId × InterfaceItem) : Prop :=
  ∃ status, Candidate config reported entry.1 status ∧ entry.2 = ⟨entry.1, status, now entry.1⟩

section AnyView

variable {config : Router} {input : PollInput} {linkData networkData : List NetlinkMessage}

/-- Inserting candidates into a map of candidates. -/
theorem isCandidate_extend {m : HashMap CanonicalNetworkId InterfaceItem}
    {reported : List (UInt64 × NetworkLinkStatus)} {now : CanonicalNetworkId → Instant}
    (hm : ∀ id item, m.lookup id = some item → IsCandidate config reported now (id, item))
    {l : List (CanonicalNetworkId × InterfaceItem)}
    (hl : ∀ entry ∈ l, IsCandidate config reported now entry) (id : CanonicalNetworkId)
    (item : InterfaceItem) (h : (extend m l).lookup id = some item) :
    IsCandidate config reported now (id, item) := by
  rcases mem_of_lookup_extend h with hmem | ⟨-, hlookup⟩
  · exact hl _ hmem
  · exact hm id item hlookup

/-- What is made of a configured interface is a candidate. -/
theorem isCandidate_configuredEntry {p : String × NetworkInterface}
    (hp : p ∈ config.networkInterfaces.iter) (addresses : List IpAddress) :
    IsCandidate config (reportedLinks config linkData) input.interfaceNow
      (configuredEntry config input.interfaceNow (linkMaps config input linkData).mappedLinks
        addresses p) := by
  have hconfig := mem_iter.mp hp
  cases hlink : (linkMaps config input linkData).mappedLinks.lookup p.2.networkLink with
  | some item =>
    obtain ⟨r, hr, hname, rfl⟩ := reported_of_lookup_mappedLinks hlink
    rw [configuredEntry_of_mapped _ _ _ hlink]
    exact ⟨_, .reported hconfig hr hname, rfl⟩
  | none =>
    cases hconfigured : config.networkLinks.lookup p.2.networkLink with
    | some link =>
      rw [configuredEntry_of_unmapped _ _ _ hlink hconfigured]
      exact ⟨_, .misconfigured hconfig hconfigured, rfl⟩
    | none =>
      rw [configuredEntry_of_unlinked _ _ _ hlink hconfigured]
      exact ⟨_, .unlinked hconfig hconfigured, rfl⟩

/-- Whatever addresses it finds, the loop over the configured interfaces makes their entries. -/
theorem configuredEntry_of_lookup_foldl {now : CanonicalNetworkId → Instant}
    {mappedLinks : HashMap String LinkItem} {l : List (String × NetworkInterface)}
    {maps : HashMap UInt64 (List IpAddress) × HashMap CanonicalNetworkId InterfaceItem}
    {id : CanonicalNetworkId} {item : InterfaceItem}
    (h : (l.foldl (addConfiguredInterface config now mappedLinks) maps).2.lookup id = some item) :
    (∃ p ∈ l, ∃ addresses, configuredEntry config now mappedLinks addresses p = (id, item)) ∨
      maps.2.lookup id = some item := by
  induction l generalizing maps with
  | nil => exact Or.inr h
  | cons p l ih =>
    rcases ih h with ⟨q, hq, addresses, heq⟩ | hstep
    · exact Or.inl ⟨q, List.mem_cons_of_mem p hq, addresses, heq⟩
    · rw [addConfiguredInterface_eq] at hstep
      rcases mem_of_lookup_extend hstep with hnew | ⟨-, hold⟩
      · exact Or.inl ⟨p, List.mem_cons_self, _, (List.mem_singleton.mp hnew).symm⟩
      · exact Or.inr hold

/-- What is made of addresses that are left is a candidate. -/
theorem isCandidate_of_mem_unnamedEntry {p : UInt64 × List IpAddress}
    {entry : CanonicalNetworkId × InterfaceItem}
    (h : unnamedEntry input.interfaceNow (linkMaps config input linkData).mappedDevices p =
      some entry) :
    IsCandidate config (reportedLinks config linkData) input.interfaceNow entry := by
  obtain ⟨item, hitem, rfl⟩ := Option.map_eq_some_iff.mp h
  obtain ⟨r, hr, hindex, rfl⟩ := reported_of_lookup_mappedDevices hitem
  have hmem : (p.1, r.2) ∈ reportedLinks config linkData := by
    rw [← hindex]
    exact hr
  exact ⟨_, .unnamed hmem, rfl⟩

/-- The interfaces that are made for missing links. -/
def missingInterfaces (config : Router) (input : PollInput) (linkData : List NetlinkMessage) :
    HashMap CanonicalNetworkId InterfaceItem :=
  collect ((input.unmappedLinks.order (linkMaps config input linkData).unmappedLinks.iter).filterMap
    (missingInterfaceEntry config input.interfaceNow))

/-- An interface made for a missing link. -/
theorem mem_missingInterfaceEntries {id : CanonicalNetworkId} {item : InterfaceItem}
    (h : (id, item) ∈ (input.unmappedLinks.order
      (linkMaps config input linkData).unmappedLinks.iter).filterMap
        (missingInterfaceEntry config input.interfaceNow)) :
    ∃ name interface link, config.networkInterfaces.lookup name = some interface ∧
      config.networkLinks.lookup interface.networkLink = some link ∧
      Unreported (reportedLinks config linkData) interface.networkLink ∧
      id = ⟨none, some name, some link.device⟩ ∧
      item = ⟨id, ⟨some name, [], missingLinkStatus interface.networkLink link.device⟩,
        input.interfaceNow id⟩ := by
  obtain ⟨⟨linkName, device⟩, hmem, hentry⟩ := List.mem_filterMap.mp h
  obtain ⟨⟨link, hlink, rfl⟩, hunreported⟩ := (mem_unmappedLinks input).mp hmem
  obtain ⟨name, hname, heq⟩ := Option.map_eq_some_iff.mp hentry
  obtain ⟨interface, hinterface, rfl⟩ := interface_of_lookup_linkNetworkInterfaces hname
  cases heq
  exact ⟨name, interface, link, hinterface, hlink, hunreported, rfl, rfl⟩

/-- The interfaces of a view, loop by loop. -/
theorem networkInterfaces_view : (view config input linkData networkData).networkInterfaces =
    extend
      (extend
        (config.networkInterfaces.iter.foldl (addConfiguredInterface config input.interfaceNow
          (linkMaps config input linkData).mappedLinks) (readNetworkData networkData, ∅)).2
        ((input.networkAddresses.order
          (config.networkInterfaces.iter.foldl (addConfiguredInterface config input.interfaceNow
            (linkMaps config input linkData).mappedLinks)
            (readNetworkData networkData, ∅)).1.iter).filterMap
          (unnamedEntry input.interfaceNow (linkMaps config input linkData).mappedDevices)))
      (input.missingNetworkInterfaces.order (missingInterfaces config input linkData).iter) := by
  have hmissing : (linkView config input (linkMaps config input linkData)).2 =
      missingInterfaces config input linkData := by
    rw [linkView, foldl_addMissingLink]
    rfl
  rw [← hmissing, ← foldl_addUnnamedInterface]
  rfl

/-- **Every interface of a view is of one of the five kinds.** -/
theorem candidate_of_lookup {id : CanonicalNetworkId} {item : InterfaceItem}
    (h : (view config input linkData networkData).networkInterfaces.lookup id = some item) :
    IsCandidate config (reportedLinks config linkData) input.interfaceNow (id, item) := by
  rw [networkInterfaces_view] at h
  refine isCandidate_extend (isCandidate_extend ?_ ?_) ?_ id item h
  · intro id item hconfigured
    rcases configuredEntry_of_lookup_foldl hconfigured with ⟨p, hp, addresses, heq⟩ | hempty
    · rw [← heq]
      exact isCandidate_configuredEntry hp addresses
    · simp at hempty
  · intro entry hentry
    obtain ⟨p, -, hp⟩ := List.mem_filterMap.mp hentry
    exact isCandidate_of_mem_unnamedEntry hp
  · rintro ⟨id, item⟩ hentry
    rw [Shuffle.mem_order, mem_iter] at hentry
    obtain ⟨name, interface, link, hinterface, hlink, -, rfl, rfl⟩ :=
      mem_missingInterfaceEntries (mem_of_lookup_collect hentry)
    exact ⟨_, .missing hinterface hlink, rfl⟩

end AnyView

/-! ## The view when nothing is named twice -/

/-- The ids and statuses of the interfaces that are to be listed. -/
inductive ViewInterface (config : Router) (reported : List (UInt64 × NetworkLinkStatus))
    (addresses : UInt64 → List IpAddress) : CanonicalNetworkId → NetworkInterfaceStatus → Prop where
  | reported {name : String} {interface : NetworkInterface} {index : UInt64}
      {link : NetworkLinkStatus} (h : config.networkInterfaces.lookup name = some interface)
      (hreported : (index, link) ∈ reported) (hname : link.name = some interface.networkLink) :
      ViewInterface config reported addresses ⟨some index, some name, some link.device⟩
        ⟨some name, (addresses index).insertionSort (· ≤ ·), link⟩
  | missing {name : String} {interface : NetworkInterface} {link : NetworkLink}
      (h : config.networkInterfaces.lookup name = some interface)
      (hlink : config.networkLinks.lookup interface.networkLink = some link)
      (hunreported : Unreported reported interface.networkLink) :
      ViewInterface config reported addresses ⟨none, some name, some link.device⟩
        ⟨some name, [], missingLinkStatus interface.networkLink link.device⟩
  | misconfigured {name : String} {interface : NetworkInterface}
      (h : config.networkInterfaces.lookup name = some interface)
      (hlink : config.networkLinks.lookup interface.networkLink = none) :
      ViewInterface config reported addresses ⟨none, some name, none⟩
        ⟨some name, [], ⟨some interface.networkLink, "", .misconfigured⟩⟩
  | unnamed {index : UInt64} {link : NetworkLinkStatus} (hreported : (index, link) ∈ reported)
      (haddresses : addresses index ≠ [])
      (hfree : ∀ name interface, config.networkInterfaces.lookup name = some interface →
        link.name ≠ some interface.networkLink) :
      ViewInterface config reported addresses ⟨some index, none, some link.device⟩
        ⟨none, (addresses index).insertionSort (· ≤ ·), link⟩

section DistinctView

variable {config : Router} {input : PollInput} {linkData networkData : List NetlinkMessage}

section

variable (hreports : DistinctReports (reportedLinks config linkData))
include hreports

/-- A reported link is mapped by its name. -/
theorem lookup_mappedLinks {r : UInt64 × NetworkLinkStatus}
    (hr : r ∈ reportedLinks config linkData) {name : String} (hname : r.2.name = some name) :
    (linkMaps config input linkData).mappedLinks.lookup name =
      some (reportedItem input.linkNow r) := by
  cases hlookup : (linkMaps config input linkData).mappedLinks.lookup name with
  | none => exact absurd hname (lookup_mappedLinks_eq_none.mp hlookup r hr)
  | some item =>
    obtain ⟨r', hr', hname', rfl⟩ := reported_of_lookup_mappedLinks hlookup
    rw [hreports.eq_of_name hr hr' hname hname']

/-- A reported link is mapped by its index. -/
theorem lookup_mappedDevices (input : PollInput) {r : UInt64 × NetworkLinkStatus}
    (hr : r ∈ reportedLinks config linkData) :
    (linkMaps config input linkData).mappedDevices.lookup r.1 =
      some (reportedItem input.linkNow r) := by
  obtain ⟨item, hitem⟩ := lookup_mappedDevices_isSome input hr
  obtain ⟨r', hr', hindex, rfl⟩ := reported_of_lookup_mappedDevices hitem
  rw [hitem, hreports.eq_of_index hr' hr hindex]

/-- A configured interface asks for the addresses of the reported link that it names. -/
theorem mappedIndex_eq_some {p : String × NetworkInterface} {index : UInt64} :
    mappedIndex (linkMaps config input linkData).mappedLinks p = some index ↔
      ∃ link, (index, link) ∈ reportedLinks config linkData ∧
        link.name = some p.2.networkLink := by
  rw [mappedIndex, Option.bind_eq_some_iff]
  constructor
  · rintro ⟨item, hitem, hindex⟩
    obtain ⟨r, hr, hname, rfl⟩ := reported_of_lookup_mappedLinks hitem
    cases hindex
    exact ⟨r.2, hr, hname⟩
  · rintro ⟨link, hlink, hname⟩
    exact ⟨_, lookup_mappedLinks hreports hlink hname, rfl⟩

/-- No index is asked for its addresses twice. -/
theorem pairwise_mappedIndex (hlinks : config.DistinctLinks) :
    config.networkInterfaces.iter.Pairwise fun p q =>
      ∀ index, mappedIndex (linkMaps config input linkData).mappedLinks p = some index →
        mappedIndex (linkMaps config input linkData).mappedLinks q ≠ some index := by
  refine (List.pairwise_map.mp hlinks).imp fun {p q} hne index hp hq => hne ?_
  obtain ⟨link, hlink, hname⟩ := (mappedIndex_eq_some hreports).mp hp
  obtain ⟨link', hlink', hname'⟩ := (mappedIndex_eq_some hreports).mp hq
  have heq := hreports.eq_of_index hlink hlink' rfl
  rw [Prod.mk.injEq] at heq
  rw [heq.2, hname', Option.some.injEq] at hname
  exact hname.symm

end

/-- The entries made for the configured interfaces. -/
def configuredEntries (config : Router) (input : PollInput)
    (linkData networkData : List NetlinkMessage) : List (CanonicalNetworkId × InterfaceItem) :=
  config.networkInterfaces.iter.map fun p =>
    configuredEntry config input.interfaceNow (linkMaps config input linkData).mappedLinks
      ((mappedIndex (linkMaps config input linkData).mappedLinks p).elim []
        (addressesOf networkData)) p

/-- The entry of a configured interface whose link is reported. -/
theorem mem_configuredEntries_of_reported
    (hreports : DistinctReports (reportedLinks config linkData)) {name : String}
    {interface : NetworkInterface} (h : config.networkInterfaces.lookup name = some interface)
    {r : UInt64 × NetworkLinkStatus} (hr : r ∈ reportedLinks config linkData)
    (hname : r.2.name = some interface.networkLink) {id : CanonicalNetworkId}
    (hid : id = ⟨some r.1, some name, some r.2.device⟩) :
    (id, (⟨id, ⟨some name, (addressesOf networkData r.1).insertionSort (· ≤ ·), r.2⟩,
        input.interfaceNow id⟩ : InterfaceItem)) ∈
      configuredEntries config input linkData networkData := by
  refine List.mem_map.mpr ⟨(name, interface), mem_iter.mpr h, ?_⟩
  rw [configuredEntry_of_mapped _ _ _ (lookup_mappedLinks hreports hr hname),
    (mappedIndex_eq_some hreports).mpr ⟨r.2, hr, hname⟩, hid]
  rfl

/-- The entry of a configured interface whose link is not configured. -/
theorem mem_configuredEntries_of_unlinked {name : String} {interface : NetworkInterface}
    (h : config.networkInterfaces.lookup name = some interface)
    (hlink : config.networkLinks.lookup interface.networkLink = none) {id : CanonicalNetworkId}
    (hid : id = ⟨none, some name, none⟩) :
    (id, (⟨id, ⟨some name, [], ⟨some interface.networkLink, "", .misconfigured⟩⟩,
        input.interfaceNow id⟩ : InterfaceItem)) ∈
      configuredEntries config input linkData networkData := by
  refine List.mem_map.mpr ⟨(name, interface), mem_iter.mpr h, ?_⟩
  have hunmapped : (linkMaps config input linkData).mappedLinks.lookup interface.networkLink =
      none := by
    rw [lookup_mappedLinks_eq_none]
    intro r hr hname
    obtain ⟨link, hconfigured, -⟩ := link_of_mem_reportedLinks hr hname
    rw [hconfigured] at hlink
    cases hlink
  rw [configuredEntry_of_unlinked _ _ _ hunmapped hlink, hid]

/-- An entry of a configured interface is to be listed, or its link is missing. -/
theorem viewInterface_of_mem_configuredEntries {id : CanonicalNetworkId} {item : InterfaceItem}
    (h : (id, item) ∈ configuredEntries config input linkData networkData) :
    ∃ status name interface, item = ⟨id, status, input.interfaceNow id⟩ ∧ id.name = some name ∧
      config.networkInterfaces.lookup name = some interface ∧
      (ViewInterface config (reportedLinks config linkData) (addressesOf networkData) id status ∨
        ∃ link, config.networkLinks.lookup interface.networkLink = some link ∧
          Unreported (reportedLinks config linkData) interface.networkLink ∧
          id = ⟨none, some name, some link.device⟩) := by
  obtain ⟨p, hp, heq⟩ := List.mem_map.mp h
  have hconfig := mem_iter.mp hp
  -- is the link mapped, only configured, or neither
  cases hmapped : (linkMaps config input linkData).mappedLinks.lookup p.2.networkLink with
  | some item' =>
    obtain ⟨r, hr, hname, rfl⟩ := reported_of_lookup_mappedLinks hmapped
    have hindex : mappedIndex (linkMaps config input linkData).mappedLinks p = some r.1 := by
      rw [mappedIndex, hmapped]
      rfl
    rw [configuredEntry_of_mapped _ _ _ hmapped, hindex] at heq
    cases heq
    exact ⟨_, p.1, p.2, rfl, rfl, hconfig, Or.inl (.reported hconfig hr hname)⟩
  | none =>
    cases hlink : config.networkLinks.lookup p.2.networkLink with
    | some link =>
      rw [configuredEntry_of_unmapped _ _ _ hmapped hlink] at heq
      cases heq
      exact ⟨_, p.1, p.2, rfl, rfl, hconfig,
        Or.inr ⟨link, hlink, lookup_mappedLinks_eq_none.mp hmapped, rfl⟩⟩
    | none =>
      rw [configuredEntry_of_unlinked _ _ _ hmapped hlink] at heq
      cases heq
      exact ⟨_, p.1, p.2, rfl, rfl, hconfig, Or.inl (.misconfigured hconfig hlink)⟩

/-- No two configured interfaces of a poll have one id. -/
theorem configuredEntries_functional {id : CanonicalNetworkId} {item item' : InterfaceItem}
    (h : (id, item) ∈ configuredEntries config input linkData networkData)
    (h' : (id, item') ∈ configuredEntries config input linkData networkData) : item = item' := by
  obtain ⟨p, hp, heq⟩ := List.mem_map.mp h
  obtain ⟨p', hp', heq'⟩ := List.mem_map.mp h'
  have hname : p.1 = p'.1 := by
    have hid := name_configuredEntry config input.interfaceNow
      (linkMaps config input linkData).mappedLinks
    rw [← Option.some.injEq, ← hid _ p, ← hid _ p', heq, heq']
  have hpp' : p = p' := List.inj_on_of_nodup_map (nodup_keys_iter config.networkInterfaces) hp hp' hname
  subst hpp'
  rw [heq] at heq'
  exact congrArg Prod.snd heq'

/-- The interfaces of the missing links, when no two interfaces name one link. -/
theorem lookup_missingInterfaces (hlinks : config.DistinctLinks) {id : CanonicalNetworkId}
    {item : InterfaceItem} :
    (missingInterfaces config input linkData).lookup id = some item ↔
      ∃ name interface link, config.networkInterfaces.lookup name = some interface ∧
        config.networkLinks.lookup interface.networkLink = some link ∧
        Unreported (reportedLinks config linkData) interface.networkLink ∧
        id = ⟨none, some name, some link.device⟩ ∧
        item = ⟨id, ⟨some name, [], missingLinkStatus interface.networkLink link.device⟩,
          input.interfaceNow id⟩ := by
  refine ⟨fun h => mem_missingInterfaceEntries (mem_of_lookup_collect h), ?_⟩
  rintro ⟨name, interface, link, hinterface, hlink, hunreported, rfl, rfl⟩
  -- the entry of the missing link is among those collected
  have hentry : missingInterfaceEntry config input.interfaceNow
      (interface.networkLink, link.device) =
        some (⟨none, some name, some link.device⟩,
          ⟨⟨none, some name, some link.device⟩,
            ⟨some name, [], missingLinkStatus interface.networkLink link.device⟩,
            input.interfaceNow ⟨none, some name, some link.device⟩⟩) := by
    rw [missingInterfaceEntry,
      (lookup_linkNetworkInterfaces hlinks).mpr ⟨interface, hinterface, rfl⟩]
    rfl
  have hmem := List.mem_filterMap.mpr
    ⟨(interface.networkLink, link.device),
      (mem_unmappedLinks input).mpr ⟨⟨link, hlink, rfl⟩, hunreported⟩, hentry⟩
  obtain ⟨item, hitem⟩ := lookup_collect_isSome hmem
  -- whichever entry has this id is the same, as a name has one interface
  obtain ⟨name', interface', link', hinterface', hlink', -, heq, rfl⟩ :=
    mem_missingInterfaceEntries (mem_of_lookup_collect hitem)
  simp only [CanonicalNetworkId.mk.injEq, Option.some.injEq, true_and] at heq
  obtain ⟨rfl, hdevice⟩ := heq
  rw [hinterface, Option.some.injEq] at hinterface'
  rw [missingInterfaces, hitem, hinterface', hdevice]

/-- The kinds of interfaces without an index: the link is not configured, or it is missing.  An
interface that the loop over the configuration finds misconfigured for a missing link is replaced. -/
theorem indexless_of_lookup (hlinks : config.DistinctLinks) {id : CanonicalNetworkId}
    {item : InterfaceItem}
    (h : (view config input linkData networkData).networkInterfaces.lookup id = some item)
    (hindex : id.id = none) :
    ∃ name interface, config.networkInterfaces.lookup name = some interface ∧
      (config.networkLinks.lookup interface.networkLink = none ∧ id = ⟨none, some name, none⟩ ∧
          item = ⟨id, ⟨some name, [], ⟨some interface.networkLink, "", .misconfigured⟩⟩,
            input.interfaceNow id⟩ ∨
        ∃ link, config.networkLinks.lookup interface.networkLink = some link ∧
          id = ⟨none, some name, some link.device⟩ ∧
          item = ⟨id, ⟨some name, [], missingLinkStatus interface.networkLink link.device⟩,
            input.interfaceNow id⟩) := by
  rw [networkInterfaces_view] at h
  rcases mem_of_lookup_extend h with hmissing | ⟨hnotMissing, h⟩
  · rw [Shuffle.mem_order, mem_iter] at hmissing
    obtain ⟨name, interface, link, hinterface, hlink, -, hid, hitem⟩ :=
      mem_missingInterfaceEntries (mem_of_lookup_collect hmissing)
    exact ⟨name, interface, hinterface, Or.inr ⟨link, hlink, hid, hitem⟩⟩
  rcases mem_of_lookup_extend h with hunnamed | ⟨-, h⟩
  · obtain ⟨p, -, hp⟩ := List.mem_filterMap.mp hunnamed
    obtain ⟨_, -, heq⟩ := Option.map_eq_some_iff.mp hp
    cases heq
    cases hindex
  rcases configuredEntry_of_lookup_foldl h with ⟨p, hp, addresses, heq⟩ | hempty
  · have hconfig := mem_iter.mp hp
    cases hmapped : (linkMaps config input linkData).mappedLinks.lookup p.2.networkLink with
    | some networkLink =>
      obtain ⟨r, -, -, rfl⟩ := reported_of_lookup_mappedLinks hmapped
      rw [configuredEntry_of_mapped _ _ _ hmapped] at heq
      cases heq
      cases hindex
    | none =>
      cases hlink : config.networkLinks.lookup p.2.networkLink with
      | some link =>
        rw [configuredEntry_of_unmapped _ _ _ hmapped hlink] at heq
        cases heq
        -- the entry of the missing link has this very id
        have hmissing : (missingInterfaces config input linkData).lookup
            ⟨none, some p.1, some link.device⟩ = some _ := (lookup_missingInterfaces hlinks).mpr
          ⟨p.1, p.2, link, hconfig, hlink, lookup_mappedLinks_eq_none.mp hmapped, rfl, rfl⟩
        have hentry := mem_iter.mpr hmissing
        rw [← Shuffle.mem_order input.missingNetworkInterfaces] at hentry
        exact absurd (List.mem_map.mpr ⟨_, hentry, rfl⟩) hnotMissing
      | none =>
        rw [configuredEntry_of_unlinked _ _ _ hmapped hlink] at heq
        cases heq
        exact ⟨p.1, p.2, hconfig, Or.inl ⟨hlink, rfl, rfl⟩⟩
  · simp at hempty

/-- The entries made for the addresses that are left. -/
def unnamedEntries (config : Router) (input : PollInput) (linkData networkData : List NetlinkMessage) :
    List (CanonicalNetworkId × InterfaceItem) :=
  (input.networkAddresses.order
    (config.networkInterfaces.iter.foldl (addConfiguredInterface config input.interfaceNow
      (linkMaps config input linkData).mappedLinks) (readNetworkData networkData, ∅)).1.iter).filterMap
    (unnamedEntry input.interfaceNow (linkMaps config input linkData).mappedDevices)

section

variable (hlinks : config.DistinctLinks)
  (hreports : DistinctReports (reportedLinks config linkData))
include hlinks hreports

/-- The loop over the configured interfaces: their entries, and the addresses that are left. -/
theorem foldl_configuredInterfaces (input : PollInput) (networkData : List NetlinkMessage) :
    (config.networkInterfaces.iter.foldl (addConfiguredInterface config input.interfaceNow
        (linkMaps config input linkData).mappedLinks) (readNetworkData networkData, ∅)).2 =
        collect (configuredEntries config input linkData networkData) ∧
      ∀ index a, (config.networkInterfaces.iter.foldl (addConfiguredInterface config
          input.interfaceNow (linkMaps config input linkData).mappedLinks)
          (readNetworkData networkData, ∅)).1.lookup index = some a ↔
        (readNetworkData networkData).lookup index = some a ∧
          ∀ p ∈ config.networkInterfaces.iter,
            mappedIndex (linkMaps config input linkData).mappedLinks p ≠ some index :=
  foldl_addConfiguredInterface config input.interfaceNow
    (linkMaps config input linkData).mappedLinks config.networkInterfaces.iter
    (pairwise_mappedIndex hreports hlinks) (addressesOf networkData) (readNetworkData networkData, ∅)
    fun _ _ index _ => getD_lookup_readNetworkData networkData index

/-- The unnamed interfaces: reported links with addresses that no configured interface names. -/
theorem mem_unnamedEntries {id : CanonicalNetworkId} {item : InterfaceItem} :
    (id, item) ∈ unnamedEntries config input linkData networkData ↔
      ∃ index link, (index, link) ∈ reportedLinks config linkData ∧
        addressesOf networkData index ≠ [] ∧
        (∀ name interface, config.networkInterfaces.lookup name = some interface →
          link.name ≠ some interface.networkLink) ∧
        id = ⟨some index, none, some link.device⟩ ∧
        item = ⟨id, ⟨none, (addressesOf networkData index).insertionSort (· ≤ ·), link⟩,
          input.interfaceNow id⟩ := by
  have hleft := (foldl_configuredInterfaces hlinks hreports input networkData).2
  rw [unnamedEntries, List.mem_filterMap]
  constructor
  · rintro ⟨⟨index, a⟩, hmem, hentry⟩
    rw [Shuffle.mem_order, mem_iter, hleft, lookup_readNetworkData] at hmem
    obtain ⟨⟨rfl, hne⟩, hfree⟩ := hmem
    obtain ⟨item', hitem', heq⟩ := Option.map_eq_some_iff.mp hentry
    obtain ⟨⟨index', link⟩, hr, hindex, rfl⟩ := reported_of_lookup_mappedDevices hitem'
    obtain rfl : index' = index := hindex
    cases heq
    refine ⟨index', link, hr, hne, fun name interface hinterface hname => ?_, rfl, rfl⟩
    -- its addresses would have been taken by the interface on this link
    exact hfree (name, interface) (mem_iter.mpr hinterface)
      ((mappedIndex_eq_some hreports).mpr ⟨link, hr, hname⟩)
  · rintro ⟨index, link, hr, hne, hfree, rfl, rfl⟩
    refine ⟨(index, addressesOf networkData index), ?_, ?_⟩
    · rw [Shuffle.mem_order, mem_iter, hleft, lookup_readNetworkData]
      refine ⟨⟨rfl, hne⟩, fun p hp hindex => ?_⟩
      obtain ⟨link', hr', hname⟩ := (mappedIndex_eq_some hreports).mp hindex
      have heq := hreports.eq_of_index hr hr' rfl
      rw [Prod.mk.injEq] at heq
      exact hfree p.1 p.2 (mem_iter.mp hp) (heq.2 ▸ hname)
    · have hdevice := lookup_mappedDevices hreports input hr
      rw [unnamedEntry, hdevice]
      rfl

/-- No two unnamed interfaces of a poll have one id. -/
theorem unnamedEntries_functional {id : CanonicalNetworkId} {item item' : InterfaceItem}
    (h : (id, item) ∈ unnamedEntries config input linkData networkData)
    (h' : (id, item') ∈ unnamedEntries config input linkData networkData) : item = item' := by
  obtain ⟨index, link, hr, -, -, rfl, rfl⟩ := (mem_unnamedEntries hlinks hreports).mp h
  obtain ⟨index', link', hr', -, -, heq, rfl⟩ := (mem_unnamedEntries hlinks hreports).mp h'
  simp only [CanonicalNetworkId.mk.injEq, Option.some.injEq, true_and] at heq
  have hlink := hreports.eq_of_index hr hr' heq.1
  rw [Prod.mk.injEq] at hlink
  rw [hlink.1, hlink.2]

/-- **The interfaces of a view**, when nothing is named or reported twice. -/
theorem view_networkInterfaces_iff {id : CanonicalNetworkId} {item : InterfaceItem} :
    (view config input linkData networkData).networkInterfaces.lookup id = some item ↔
      ∃ status, ViewInterface config (reportedLinks config linkData) (addressesOf networkData) id
          status ∧ item = ⟨id, status, input.interfaceNow id⟩ := by
  have hmissing : ∀ id item, (id, item) ∈ input.missingNetworkInterfaces.order
      (missingInterfaces config input linkData).iter ↔ _ := fun id item => by
    rw [Shuffle.mem_order, mem_iter, lookup_missingInterfaces hlinks]
  -- the missing interfaces are a map already, so their order does not matter
  have hfunctional : ∀ k v v', (k, v) ∈ input.missingNetworkInterfaces.order
      (missingInterfaces config input linkData).iter → (k, v') ∈
        input.missingNetworkInterfaces.order (missingInterfaces config input linkData).iter →
      v = v' := by
    intro k v v' h h'
    rw [Shuffle.mem_order, mem_iter] at h h'
    rw [h, Option.some.injEq] at h'
    exact h'
  rw [networkInterfaces_view, lookup_extend_of_functional hfunctional, hmissing,
    ← unnamedEntries,
    lookup_extend_of_functional (fun k v v' => unnamedEntries_functional hlinks hreports),
    (foldl_configuredInterfaces hlinks hreports input networkData).1,
    lookup_collect_of_functional (fun k v v' => configuredEntries_functional)]
  constructor
  · rintro (⟨name, interface, link, hinterface, hlink, hunreported, rfl, rfl⟩ | ⟨hmissing', h⟩)
    · exact ⟨_, .missing hinterface hlink hunreported, rfl⟩
    rcases h with hunnamed | ⟨-, hconfigured⟩
    · obtain ⟨index, link, hr, hne, hfree, rfl, rfl⟩ := (mem_unnamedEntries hlinks hreports).mp hunnamed
      exact ⟨_, .unnamed hr hne hfree, rfl⟩
    · obtain ⟨status, name, interface, rfl, -, hinterface, hview | ⟨link, hlink, hunreported, rfl⟩⟩ :=
        viewInterface_of_mem_configuredEntries hconfigured
      · exact ⟨status, hview, rfl⟩
      · -- the entry of the missing link has this very id
        refine absurd (List.mem_map.mpr ⟨(_, _), (hmissing _ _).mpr
          ⟨name, interface, link, hinterface, hlink, hunreported, rfl, rfl⟩, rfl⟩) hmissing'
  · rintro ⟨status, hview, rfl⟩
    -- ids of missing interfaces have a device and no index
    have hnotMissing : id.id ≠ none ∨ id.device = none → id ∉
        (input.missingNetworkInterfaces.order
          (missingInterfaces config input linkData).iter).map Prod.fst := by
      intro hid hmem
      obtain ⟨⟨id', item'⟩, hmem', rfl⟩ := List.mem_map.mp hmem
      obtain ⟨name, interface, link, -, -, -, heq, -⟩ := (hmissing id' item').mp hmem'
      rw [show id' = _ from heq] at hid
      simp at hid
    -- ids of unnamed interfaces have no name
    have hnotUnnamed : id.name ≠ none → id ∉
        (unnamedEntries config input linkData networkData).map Prod.fst := by
      intro hid hmem
      obtain ⟨⟨id', item'⟩, hmem', rfl⟩ := List.mem_map.mp hmem
      obtain ⟨index, link, -, -, -, heq, -⟩ := (mem_unnamedEntries hlinks hreports).mp hmem'
      rw [show id' = _ from heq] at hid
      exact hid rfl
    -- each kind is inserted once, and no later one has its id
    cases hview with
    | reported hinterface hr hname =>
      exact Or.inr ⟨hnotMissing (by simp), Or.inr ⟨hnotUnnamed (by simp),
        mem_configuredEntries_of_reported hreports hinterface hr hname rfl⟩⟩
    | missing hinterface hlink hunreported =>
      exact Or.inl ⟨_, _, _, hinterface, hlink, hunreported, rfl, rfl⟩
    | misconfigured hinterface hlink =>
      exact Or.inr ⟨hnotMissing (by simp), Or.inr ⟨hnotUnnamed (by simp),
        mem_configuredEntries_of_unlinked hinterface hlink rfl⟩⟩
    | unnamed hr hne hfree =>
      exact Or.inr ⟨hnotMissing (by simp), Or.inl
        ((mem_unnamedEntries hlinks hreports).mpr ⟨_, _, hr, hne, hfree, rfl, rfl⟩)⟩

end

end DistinctView

end RustyRouter.InterfaceManagerWorker
