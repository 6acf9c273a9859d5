/-
# Address lists are sets, up to announcements that repeat

An address list is strictly increasing wherever it comes from: a poll sorts the
addresses of a dump, a link event copies a list, `DelAddress` takes an address
out.  `NewAddress` alone adds one without looking: announced again, an address is
listed twice, and one `DelAddress` leaves it listed.  So the lists of a run are
sets exactly when no event announces an address that the interface of its index
already lists (`addresses_sets_iff`).
-/
import RustyRouter.EventsCommute

namespace RustyRouter

open KeyedStore HashMap InterfaceManagerWorker InterfaceManagerNetlinkSocketListener

/-! ## The writers of a list -/

section Lists

variable {addresses : List IpAddress} {address : IpAddress}

/-- Distinct addresses are sorted without repetition. -/
theorem sortedLT_insertionSort (h : addresses.Nodup) :
    (addresses.insertionSort (· ≤ ·)).SortedLT :=
  List.sortedLE_insertionSort.sortedLT_of_nodup
    ((List.perm_insertionSort _ _).nodup_iff.mpr h)

/-- Adding an address adds it and nothing else. -/
theorem mem_withAddress {other : IpAddress} :
    other ∈ withAddress address addresses ↔ other = address ∨ other ∈ addresses := by
  rw [withAddress, List.mem_insertionSort, List.mem_append, List.mem_singleton, or_comm]

/-- One more address makes a strictly increasing list if it is new. -/
theorem sortedLT_withAddress_iff (h : addresses.SortedLT) :
    (withAddress address addresses).SortedLT ↔ address ∉ addresses := by
  have hperm : (withAddress address addresses).Perm (address :: addresses) :=
    (List.perm_insertionSort _ _).trans (List.perm_append_comm)
  constructor
  · intro hsorted
    exact (List.nodup_cons.mp (hperm.nodup_iff.mp hsorted.nodup)).1
  · intro hnew
    have hnodup := hperm.nodup_iff.mpr (List.nodup_cons.mpr ⟨hnew, h.nodup⟩)
    exact List.sortedLE_insertionSort.sortedLT_of_nodup hnodup

/-- Removing an address removes it and nothing else. -/
theorem mem_withoutAddress (h : addresses.SortedLT) {other : IpAddress} :
    other ∈ withoutAddress address addresses ↔ other ≠ address ∧ other ∈ addresses :=
  h.nodup.mem_erase_iff

/-- Removing an address keeps the order. -/
theorem sortedLT_withoutAddress (h : addresses.SortedLT) :
    (withoutAddress address addresses).SortedLT :=
  (h.pairwise.sublist List.erase_sublist).sortedLT

end Lists

/-- The address lists of a table are strictly increasing. -/
def ListsSets (es : Set (CanonicalNetworkId × NetworkInterfaceStatus)) : Prop :=
  ∀ e ∈ es, e.2.addresses.SortedLT

/-! ## Polls -/

section Poll

variable {config : Router} {input : PollInput} {linkData networkData : List NetlinkMessage}

/-- No address is in a dump twice for one index. -/
def DistinctAddresses (input : PollInput) : Prop :=
  ∀ networkData, input.networkData = .ok networkData →
    ∀ index, (addressesOf networkData index).Nodup

/-- The address lists of a map are strictly increasing. -/
def MapsSets (m : HashMap CanonicalNetworkId InterfaceItem) : Prop :=
  ∀ id item, m.lookup id = some item → item.status.addresses.SortedLT

/-- Inserted interfaces with sets of addresses keep a map one of sets. -/
theorem MapsSets.extend {m : HashMap CanonicalNetworkId InterfaceItem} (hm : MapsSets m)
    {l : List (CanonicalNetworkId × InterfaceItem)}
    (hl : ∀ entry ∈ l, entry.2.status.addresses.SortedLT) : MapsSets (extend m l) := by
  intro id item h
  rcases mem_of_lookup_extend h with hmem | ⟨-, hlookup⟩
  · exact hl _ hmem
  · exact hm id item hlookup

/-- A configured interface gets the addresses of its link sorted, or none. -/
theorem sortedLT_configuredEntry (config : Router) (now : CanonicalNetworkId → Instant)
    (mappedLinks : HashMap String LinkItem) {addresses : List IpAddress} (h : addresses.Nodup)
    (p : String × NetworkInterface) :
    (configuredEntry config now mappedLinks addresses p).2.status.addresses.SortedLT := by
  unfold configuredEntry
  cases mappedLinks.lookup p.2.networkLink with
  | some networkLink => exact sortedLT_insertionSort h
  | none => exact List.Pairwise.nil.sortedLT

/-- The addresses of every index are distinct. -/
def NodupAddresses (networkAddresses : HashMap UInt64 (List IpAddress)) : Prop :=
  ∀ index addresses, networkAddresses.lookup index = some addresses → addresses.Nodup

/-- A configured interface takes distinct addresses and leaves distinct ones. -/
theorem mapsSets_addConfiguredInterface (config : Router) (now : CanonicalNetworkId → Instant)
    (mappedLinks : HashMap String LinkItem)
    {maps : HashMap UInt64 (List IpAddress) × HashMap CanonicalNetworkId InterfaceItem}
    (haddresses : NodupAddresses maps.1) (hmaps : MapsSets maps.2)
    (p : String × NetworkInterface) :
    NodupAddresses (addConfiguredInterface config now mappedLinks maps p).1 ∧
      MapsSets (addConfiguredInterface config now mappedLinks maps p).2 := by
  rw [addConfiguredInterface_eq]
  constructor
  · intro index addresses hlookup
    cases hindex : mappedIndex mappedLinks p with
    | none =>
      rw [hindex] at hlookup
      exact haddresses index addresses hlookup
    | some used =>
      rw [hindex] at hlookup
      exact haddresses index addresses (lookup_erase_eq_some.mp hlookup).2
  · refine hmaps.extend fun entry hentry => ?_
    rw [List.mem_singleton.mp hentry]
    -- what an interface gets is a list of the dump, or none
    apply sortedLT_configuredEntry
    cases mappedIndex mappedLinks p with
    | none => exact List.nodup_nil
    | some index =>
      rw [Option.elim_some]
      cases hlookup : maps.1.lookup index with
      | none => exact List.nodup_nil
      | some addresses => exact haddresses index addresses hlookup

/-- Adding the configured interfaces leaves distinct addresses and makes sets of them. -/
theorem mapsSets_foldl_addConfiguredInterface (config : Router)
    (now : CanonicalNetworkId → Instant) (mappedLinks : HashMap String LinkItem)
    (l : List (String × NetworkInterface))
    (maps : HashMap UInt64 (List IpAddress) × HashMap CanonicalNetworkId InterfaceItem)
    (haddresses : NodupAddresses maps.1) (hmaps : MapsSets maps.2) :
    NodupAddresses (l.foldl (addConfiguredInterface config now mappedLinks) maps).1 ∧
      MapsSets (l.foldl (addConfiguredInterface config now mappedLinks) maps).2 := by
  induction l generalizing maps with
  | nil => exact ⟨haddresses, hmaps⟩
  | cons p l ih =>
    obtain ⟨haddresses', hmaps'⟩ :=
      mapsSets_addConfiguredInterface config now mappedLinks haddresses hmaps p
    exact ih _ haddresses' hmaps'

/-- A poll of a dump without repetitions builds strictly increasing lists. -/
theorem mapsSets_view (hdistinct : ∀ index, (addressesOf networkData index).Nodup) :
    MapsSets (view config input linkData networkData).networkInterfaces := by
  have hread : NodupAddresses (readNetworkData networkData) := by
    intro index addresses hlookup
    rw [(lookup_readNetworkData.mp hlookup).1]
    exact hdistinct index
  have hempty : MapsSets ∅ := by
    intro id item hlookup
    simp at hlookup
  obtain ⟨hleft, hconfigured⟩ := mapsSets_foldl_addConfiguredInterface config input.interfaceNow
    (linkMaps config input linkData).mappedLinks config.networkInterfaces.iter
    (readNetworkData networkData, ∅) hread hempty
  rw [networkInterfaces_view]
  refine (hconfigured.extend ?_).extend ?_
  · intro entry hentry
    obtain ⟨⟨index, addresses⟩, hmem, hentry⟩ := List.mem_filterMap.mp hentry
    obtain ⟨networkLink, -, rfl⟩ := Option.map_eq_some_iff.mp hentry
    rw [Shuffle.mem_order, mem_iter] at hmem
    exact sortedLT_insertionSort (hleft index addresses hmem)
  · rintro ⟨id, item⟩ hentry
    rw [Shuffle.mem_order, mem_iter] at hentry
    obtain ⟨name, interface, link, -, -, -, -, rfl⟩ :=
      mem_missingInterfaceEntries (mem_of_lookup_collect hentry)
    exact List.Pairwise.nil.sortedLT

/-- A poll keeps the lists strictly increasing. -/
theorem ListsSets.poll {db : InterfaceManagerDatabase} (h : ManagerInvariant config db)
    (hsets : ListsSets (entries db.networkInterfaces.content)) (hinput : DistinctAddresses input) :
    ListsSets (entries (poll config input db).networkInterfaces.content) := by
  rcases poll_cases config input db with hpoll | ⟨linkData, networkData, -, hdump, hpoll⟩
  · rw [hpoll]
    exact hsets
  · rw [hpoll]
    rintro - ⟨item, hitem, rfl⟩
    have hkeys : ∀ entry ∈ input.networkInterfaces.order
        (view config input linkData networkData).networkInterfaces.iter, entry.1.keys ≠ [] := by
      intro entry hentry
      obtain ⟨status, hview, -⟩ := mem_drained_networkInterfaces hentry
      exact hview.keys_ne_nil
    rcases (reconcile_coherent hkeys h.coherent.networkInterfaces input.takenInterfaces).2 item hitem
      with hnew | hold
    · obtain ⟨⟨id, item⟩, hentry, rfl⟩ := List.mem_map.mp hnew
      rw [Shuffle.mem_order, mem_iter] at hentry
      exact mapsSets_view (hinput networkData hdump) id item hentry
    · exact hsets item.entry ⟨item, hold, rfl⟩

end Poll

/-! ## Events -/

namespace KernelEvent

/-- An event announces no address that the interface of its index lists. -/
def AnnouncesNew (kernelEvent : KernelEvent)
    (es : Set (CanonicalNetworkId × NetworkInterfaceStatus)) : Prop :=
  ∀ index address, kernelEvent = newAddress index address →
    ∀ e ∈ es, e.1.id = some index → address ∉ e.2.addresses

/-- The interface of its index does not list the address that an event removes. -/
def Removed (kernelEvent : KernelEvent)
    (es : Set (CanonicalNetworkId × NetworkInterfaceStatus)) : Prop :=
  ∀ index address, kernelEvent = delAddress index address →
    ∀ e ∈ es, e.1.id = some index → address ∉ e.2.addresses

/-- An event keeps the lists strictly increasing if and only if it announces what is not listed. -/
theorem listsSets_edited_iff (kernelEvent : KernelEvent)
    {es : Set (CanonicalNetworkId × NetworkInterfaceStatus)} (h : ListsSets es) :
    ListsSets (edited kernelEvent.edit es) ↔ kernelEvent.AnnouncesNew es := by
  constructor
  · rintro hafter index address rfl e he hindex
    have hconcerns : (newAddress index address).Concerns e :=
      ⟨hindex, fun device hnone => absurd hnone (Option.not_mem_none device)⟩
    have hedit := edit_of_concerns hconcerns
    exact (sortedLT_withAddress_iff (h e he)).mp (hafter _ ⟨e, he, hedit⟩)
  · rintro hnew e' ⟨e, he, hedit⟩
    -- of the events only an address event changes the addresses
    by_cases hconcerns : kernelEvent.Concerns e
    · rw [edit_of_concerns hconcerns] at hedit
      cases kernelEvent with
      | newLink index link =>
        cases hedit
        exact h e he
      | delLink index link =>
        rw [change] at hedit
        split_ifs at hedit
        cases hedit
        exact h e he
      | newAddress index address =>
        cases hedit
        exact (sortedLT_withAddress_iff (h e he)).mpr (hnew index address rfl e he hconcerns.1)
      | delAddress index address =>
        cases hedit
        exact sortedLT_withoutAddress (h e he)
    · rw [edit_of_not_concerns hconcerns, Option.some.injEq] at hedit
      exact hedit ▸ h e he

/-- One removal takes an address out of a strictly increasing list. -/
theorem removed_edited (kernelEvent : KernelEvent)
    {es : Set (CanonicalNetworkId × NetworkInterfaceStatus)} (h : ListsSets es) :
    kernelEvent.Removed (edited kernelEvent.edit es) := by
  rintro index address rfl e' ⟨e, he, hedit⟩ hindex
  by_cases hconcerns : (delAddress index address).Concerns e
  · rw [edit_of_concerns hconcerns] at hedit
    cases hedit
    intro hmem
    exact ((mem_withoutAddress (h e he)).mp hmem).1 rfl
  · rw [edit_of_not_concerns hconcerns, Option.some.injEq] at hedit
    subst hedit
    exact absurd ⟨hindex, fun device hnone => absurd hnone (Option.not_mem_none device)⟩ hconcerns

end KernelEvent

/-! ## Runs -/

section Runs

variable {config : Router} {steps : List ManagerStep}

/-- In a run, an event is heard after some of its steps. -/
def Heard (config : Router) (steps before : List ManagerStep) (kernelEvent : KernelEvent) : Prop :=
  ∃ event, before ++ [.event event] <+: steps ∧
    KernelEvent.ofMessage config event.message = some kernelEvent

/-- Where no event announces what is listed, the lists stay strictly increasing. -/
theorem listsSets_run (hdumps : ∀ input, .poll input ∈ steps → DistinctAddresses input)
    (hnew : ∀ before kernelEvent, Heard config steps before kernelEvent →
      kernelEvent.AnnouncesNew (interfaceEntries config before))
    {before : List ManagerStep} (hbefore : before <+: steps) :
    ListsSets (interfaceEntries config before) := by
  -- the hypothesis on the events is about the whole run, the induction about what comes before
  induction before using List.reverseRecOn with
  | nil =>
    rintro - ⟨item, hitem, rfl⟩
    exact absurd hitem List.not_mem_nil
  | append_singleton before step ih =>
    have hsets := ih ((List.prefix_append before [step]).trans hbefore)
    cases step with
    | poll input =>
      rw [interfaceEntries, InterfaceManager.run_append_singleton]
      exact hsets.poll (ManagerInvariant.run config before)
        (hdumps input (hbefore.subset (List.mem_append_right _ (List.mem_singleton_self _))))
    | event event =>
      rw [interfaceEntries_event]
      cases hread : KernelEvent.ofMessage config event.message with
      | none => exact hsets
      | some kernelEvent =>
        exact (kernelEvent.listsSets_edited_iff hsets).mpr
          (hnew before kernelEvent ⟨event, hbefore, hread⟩)

/-- **When address lists are sets.**  In a run of polls and events, the lists are strictly increasing
in every database that is reached, and no interface lists an address right after its removal, if and
only if no event announces an address that the interface of its index already lists. -/
theorem addresses_sets_iff (hdumps : ∀ input, .poll input ∈ steps → DistinctAddresses input) :
    ((∀ before, before <+: steps → ListsSets (interfaceEntries config before)) ∧
        ∀ before event kernelEvent, before ++ [.event event] <+: steps →
          KernelEvent.ofMessage config event.message = some kernelEvent →
            kernelEvent.Removed (interfaceEntries config (before ++ [.event event]))) ↔
      ∀ before kernelEvent, Heard config steps before kernelEvent →
        kernelEvent.AnnouncesNew (interfaceEntries config before) := by
  constructor
  · rintro ⟨hsets, -⟩ before kernelEvent ⟨event, hpath, hread⟩
    have hafter := hsets _ hpath
    rw [interfaceEntries_event, hread] at hafter
    exact (kernelEvent.listsSets_edited_iff
      (hsets before ((List.prefix_append before _).trans hpath))).mp hafter
  · intro hnew
    refine ⟨fun before hbefore => listsSets_run hdumps hnew hbefore, ?_⟩
    intro before event kernelEvent hpath hread
    have hsets := listsSets_run hdumps hnew ((List.prefix_append before _).trans hpath)
    rw [interfaceEntries_event, hread]
    exact kernelEvent.removed_edited hsets

end Runs

/-- A dump that says nothing twice has distinct addresses under each index. -/
theorem nodup_addressesOf {networkData : List NetlinkMessage}
    (h : (networkData.filterMap NetlinkMessageProcessor.processAddressMessage).Nodup)
    (index : UInt64) : (addressesOf networkData index).Nodup := by
  rw [addressesOf]
  refine (h.filter _).map_on ?_
  intro a ha b hb heq
  have hindex : a.1 = b.1 := by
    rw [of_decide_eq_true (List.mem_filter.mp ha).2, of_decide_eq_true (List.mem_filter.mp hb).2]
  exact Prod.ext hindex heq

/-- A device with an address is polled, and an address is announced. -/
def announced (address : List UInt8) : List ManagerStep :=
  [.poll (pollAt 0 [newLinkMessage 2 "eth0" .up] [newAddressMessage 2 [10, 0, 0, 1]]),
    .event ⟨newAddressMessage 2 address, 1, 1⟩]

/-- The polls of the example report no address twice. -/
theorem distinctAddresses_announced (address : List UInt8) :
    ∀ input, .poll input ∈ announced address → DistinctAddresses input := by
  intro input hinput networkData hdump index
  obtain rfl : input = _ := by simpa [announced] using hinput
  cases hdump
  exact nodup_addressesOf (by decide +kernel) index

/-- The lists of a run in which a second address is announced. -/
theorem addresses_sets_iff_wan :
    ((∀ before, before <+: announced [10, 0, 0, 2] → ListsSets (interfaceEntries wanConfig before)) ∧
        ∀ before event kernelEvent, before ++ [.event event] <+: announced [10, 0, 0, 2] →
          KernelEvent.ofMessage wanConfig event.message = some kernelEvent →
            kernelEvent.Removed (interfaceEntries wanConfig (before ++ [.event event]))) ↔
      ∀ before kernelEvent, Heard wanConfig (announced [10, 0, 0, 2]) before kernelEvent →
        kernelEvent.AnnouncesNew (interfaceEntries wanConfig before) :=
  addresses_sets_iff (distinctAddresses_announced [10, 0, 0, 2])

/-- An address that is announced again is listed twice. -/
theorem not_addresses_sets :
    ¬ ∀ (config : Router) (steps : List ManagerStep),
      (∀ input, .poll input ∈ steps → DistinctAddresses input) →
        ∀ before, before <+: steps → ListsSets (interfaceEntries config before) := by
  intro h
  have hsets := h wanConfig (announced [10, 0, 0, 1])
    (distinctAddresses_announced [10, 0, 0, 1]) _ (List.prefix_refl _)
  have htwice : ∃ item ∈
      (InterfaceManager.run wanConfig (announced [10, 0, 0, 1])).networkInterfaces.content,
      item.status.addresses = [⟨.v4 ⟨0x0A000001⟩, 8⟩, ⟨.v4 ⟨0x0A000001⟩, 8⟩] := by
    decide +kernel
  obtain ⟨item, hitem, haddresses⟩ := htwice
  have hsorted := hsets item.entry ⟨item, hitem, rfl⟩
  rw [show item.entry.2.addresses = _ from haddresses] at hsorted
  exact absurd hsorted.nodup (by simp)

end RustyRouter
