/-
# When events agree with polls

An event tells the listener of a change of the kernel, and the listener edits the
tables that a poll of the kernel before the change filled.  The tables then say
what a poll of the kernel after it stores into an empty database only if the edit
also does what the poll would have done from scratch: the listener finds the
interface of a link by its device index, which a missing device does not have, and
only ever edits or removes what is listed (`newLink_agrees_iff`,
`delLink_agrees_iff`, `address_agrees_iff`).
-/
import RustyRouter.KernelChange

namespace RustyRouter

open KeyedStore InterfaceManagerWorker InterfaceManagerNetlinkSocketListener

/-! ## Links -/

section Links

variable {config : Router} {change : LinkChange} {device : String}
  {found found' : Option (UInt64 × KernelDevice)} {index : UInt64} {d : KernelDevice}

/-- The id of what is listed on a name. -/
theorem id_of_mem_linksAt (hfound : ∀ index d, found = some (index, d) → d.device = device)
    {e : CanonicalNetworkId × NetworkLinkStatus} (h : e ∈ linksAt config device found) :
    e.1 = ⟨found.map Prod.fst, (NetlinkMessageProcessor.new config).deviceLinks.lookup device,
      some device⟩ := by
  cases found with
  | some p =>
    have hdevice := hfound p.1 p.2 rfl
    rw [linksAt, Set.mem_singleton_iff] at h
    rw [h, ← hdevice]
    rfl
  | none =>
    obtain ⟨name, hname, rfl⟩ := h
    rw [hname]
    rfl

/-- A change of the links takes what is listed on its own name away, and leaves its entry. -/
theorem linksFollow_self_iff (hfound : ∀ index d, found = some (index, d) → d.device = device)
    (hdevice : change.link.device = device) :
    LinksFollow config change device found found' ↔
      {e | change.entry = some e} = linksAt config device found' := by
  have hentries : change.entriesAt device (linksAt config device found) =
      {e | change.entry = some e} := by
    ext e
    constructor
    · rintro (⟨-, hentry⟩ | ⟨he, hfree⟩)
      · exact hentry
      · refine absurd (CanonicalNetworkId.clash_of_device ?_ (congrArg some hdevice)) hfree
        rw [id_of_mem_linksAt hfound he]
    · intro hentry
      exact Or.inl ⟨hdevice, hentry⟩
  rw [LinksFollow, hentries]

/-- A change of the links leaves what is listed on another name, unless it takes the index. -/
theorem linksFollow_other
    (hname : change.link.name =
      (NetlinkMessageProcessor.new config).deviceLinks.lookup change.link.device)
    (hother : change.link.device ≠ device)
    (hfound : ∀ index d, found = some (index, d) → d.device = device)
    (hindex : ∀ p, found = some p → change.index ≠ some p.1) :
    LinksFollow config change device found found := by
  ext e
  constructor
  · rintro (⟨heq, -⟩ | ⟨he, -⟩)
    · exact absurd heq hother
    · exact he
  · intro he
    refine Or.inr ⟨he, fun hclash => ?_⟩
    have hid := id_of_mem_linksAt hfound he
    have hdevice : e.1.device = some device := by rw [hid]
    obtain ⟨index, hindex', hchange⟩ :=
      CanonicalNetworkId.index_eq_of_clash hdevice (by rw [hid]) rfl hname hother hclash
    rw [hid] at hindex'
    obtain ⟨p, hp, rfl⟩ := Option.map_eq_some_iff.mp hindex'
    exact hindex p hp hchange

/-- What `NewLink` leaves is what is listed of its device. -/
theorem entry_added : {e | (LinkChange.added index (d.status config)).entry = some e} =
    linksAt config d.device (some (index, d)) := by
  ext e
  show some (reportedId index (d.status config), d.status config) = some e ↔ _
  rw [Option.some.injEq, linksAt, Set.mem_singleton_iff, eq_comm]

/-- What `DelLink` leaves is what is listed of a device that is not there. -/
theorem entry_removed {link : NetworkLinkStatus}
    (hname : link.name = (NetlinkMessageProcessor.new config).deviceLinks.lookup link.device) :
    {e | (LinkChange.removed link).entry = some e} = linksAt config link.device none := by
  obtain ⟨name, device, state⟩ := link
  have hmapped : (NetlinkMessageProcessor.new config).deviceLinks.lookup device = name :=
    hname.symm
  ext e
  -- a device that is not configured leaves no entry
  cases name with
  | none =>
    constructor
    · intro hentry
      cases hentry
    · rintro ⟨name, hsome, -⟩
      rw [hmapped] at hsome
      cases hsome
  | some name =>
    constructor
    · intro hentry
      cases hentry
      exact ⟨name, hmapped, rfl⟩
    · rintro ⟨name', hsome, rfl⟩
      rw [hmapped, Option.some.injEq] at hsome
      subst hsome
      rfl

/-- `NewLink` drops the link whose index it takes, which is right if the link is not configured. -/
theorem linksFollow_renamed_iff {link : NetworkLinkStatus} (hother : link.device ≠ d.device) :
    LinksFollow config (.added index link) d.device (some (index, d)) none ↔
      (NetlinkMessageProcessor.new config).deviceLinks.lookup d.device = none := by
  have hentries : (LinkChange.added index link).entriesAt d.device
      (linksAt config d.device (some (index, d))) = ∅ := by
    rw [Set.eq_empty_iff_forall_notMem]
    rintro e (⟨heq, -⟩ | ⟨he, hfree⟩)
    · exact hother heq
    · rw [linksAt, Set.mem_singleton_iff] at he
      subst he
      exact hfree (CanonicalNetworkId.clash_of_index rfl rfl)
  rw [LinksFollow, hentries, eq_comm, Set.eq_empty_iff_forall_notMem, Option.eq_none_iff_forall_ne_some]
  constructor
  · intro hempty name hname
    exact hempty _ ⟨name, hname, rfl⟩
  · rintro hnone e ⟨name, hname, -⟩
    exact hnone name hname

end Links

/-! ## Interfaces -/

section Interfaces

variable {config : Router} {kernelEvent : KernelEvent} {device : String}
  {found found' : Option (UInt64 × KernelDevice)} {index : UInt64} {d d' : KernelDevice}

/-- An event leaves interfaces that it is not about. -/
theorem interfacesFollow_unconcerned_iff
    (h : ∀ e ∈ interfacesAt config device found, ¬ kernelEvent.Concerns e) :
    InterfacesFollow config kernelEvent device found found' ↔
      interfacesAt config device found = interfacesAt config device found' := by
  have hedited : edited kernelEvent.edit (interfacesAt config device found) =
      interfacesAt config device found :=
    edited_of_unchanged fun e he => KernelEvent.edit_of_not_concerns (h e he)
  rw [InterfacesFollow, hedited]

/-- The index of an interface is that of its device. -/
theorem index_of_mem_interfacesAt {e : CanonicalNetworkId × NetworkInterfaceStatus}
    (h : e ∈ interfacesAt config device found) : e.1.id = found.map Prod.fst := by
  cases found with
  | some p =>
    rcases h with ⟨name, -, rfl⟩ | ⟨-, -, rfl⟩
    · rfl
    · rfl
  | none =>
    obtain ⟨name, link, -, -, rfl⟩ := h
    rfl

/-- An event leaves the interfaces of another index. -/
theorem interfacesFollow_other (hindex : ∀ p, found = some p → p.1 ≠ kernelEvent.index) :
    InterfacesFollow config kernelEvent device found found := by
  refine (interfacesFollow_unconcerned_iff ?_).mpr rfl
  rintro e he ⟨hid, -⟩
  rw [index_of_mem_interfacesAt he] at hid
  obtain ⟨p, hp, heq⟩ := Option.map_eq_some_iff.mp hid
  exact hindex p hp heq

/-- The same is listed of a device that is there and of one that is not if that is nothing. -/
theorem interfacesAt_some_eq_none_iff :
    interfacesAt config d.device (some (index, d)) = interfacesAt config d.device none ↔
      ¬ HasInterface config d.device ∧ d.addresses = ∅ := by
  -- an interface of a missing link has no index
  have hmissing : ∀ name, foundInterface config index d name ∉ interfacesAt config d.device none := by
    intro name hmem
    have hid := index_of_mem_interfacesAt hmem
    cases hid
  constructor
  · intro heq
    have hfree : ¬ HasInterface config d.device := by
      rintro ⟨name, hname⟩
      apply hmissing (some name)
      rw [← heq]
      exact Or.inl ⟨name, hname, rfl⟩
    refine ⟨hfree, Finset.not_nonempty_iff_eq_empty.mp fun hne => hmissing none ?_⟩
    rw [← heq]
    exact Or.inr ⟨hfree, hne, rfl⟩
  · rintro ⟨hfree, hempty⟩
    ext e
    constructor
    · rintro (⟨name, hname, -⟩ | ⟨-, hne, -⟩)
      · exact absurd ⟨name, hname⟩ hfree
      · exact absurd hempty hne.ne_empty
    · rintro ⟨name, link, hname, -⟩
      exact absurd ⟨name, hname⟩ hfree

/-- What an event makes of the interfaces of a device. -/
theorem mem_edited_interfacesAt {e : CanonicalNetworkId × NetworkInterfaceStatus} :
    e ∈ edited kernelEvent.edit (interfacesAt config device (some (index, d))) ↔
      (∃ name, InterfaceNamed config d.device name ∧
        kernelEvent.edit (foundInterface config index d (some name)) = some e) ∨
      (¬ HasInterface config d.device ∧ d.addresses.Nonempty ∧
        kernelEvent.edit (foundInterface config index d none) = some e) := by
  constructor
  · rintro ⟨-, ⟨name, hname, rfl⟩ | ⟨hfree, hne, rfl⟩, heq⟩
    · exact Or.inl ⟨name, hname, heq⟩
    · exact Or.inr ⟨hfree, hne, heq⟩
  · rintro (⟨name, hname, heq⟩ | ⟨hfree, hne, heq⟩)
    · exact ⟨_, Or.inl ⟨name, hname, rfl⟩, heq⟩
    · exact ⟨_, Or.inr ⟨hfree, hne, rfl⟩, heq⟩

/-- An event about the index and the device of an interface changes it. -/
theorem edit_foundInterface (kernelEvent : KernelEvent) (hindex : kernelEvent.index = index)
    (hdevice : ∀ device, kernelEvent.device = some device → device = d.device)
    (name : Option String) : kernelEvent.edit (foundInterface config index d name) =
      kernelEvent.change (foundInterface config index d name) := by
  apply KernelEvent.edit_of_concerns
  constructor
  · exact congrArg some hindex.symm
  · intro device hmem
    exact (hdevice device hmem).symm

/-- An event that does to an interface what happened to its device makes of the interfaces what is
to be listed, but for one that should appear or disappear. -/
theorem interfacesFollow_kept_iff
    (hedit : ∀ name, kernelEvent.edit (foundInterface config index d name) =
      some (foundInterface config index d' name))
    (hdevice : d'.device = d.device) :
    InterfacesFollow config kernelEvent d.device (some (index, d)) (some (index, d')) ↔
      HasInterface config d.device ∨ (d.addresses.Nonempty ↔ d'.addresses.Nonempty) := by
  have hmem : ∀ e, e ∈ interfacesAt config d.device (some (index, d')) ↔
      (∃ name, InterfaceNamed config d.device name ∧
        foundInterface config index d' (some name) = e) ∨
      (¬ HasInterface config d.device ∧ d'.addresses.Nonempty ∧
        foundInterface config index d' none = e) := by
    intro e
    rw [← hdevice]
    simp only [interfacesAt, Set.mem_ofPred_eq, eq_comm]
  rw [InterfacesFollow, Set.ext_iff]
  simp only [mem_edited_interfacesAt, hmem, hedit, Option.some.injEq]
  -- an unnamed interface is listed only where no configured one is
  by_cases hhas : HasInterface config d.device
  · simp [hhas]
  · have hnone : ∀ name, ¬ InterfaceNamed config d.device name :=
      fun name hname => hhas ⟨name, hname⟩
    simp only [hhas, hnone, false_and, exists_false, false_or, not_false_eq_true, true_and]
    constructor
    · intro hall
      simpa using hall (foundInterface config index d' none)
    · intro hiff e
      rw [hiff]

/-- `NewLink` keeps the interfaces of a device in step with its state. -/
theorem interfacesFollow_newLink (hdevice : d'.device = d.device)
    (haddresses : d'.addresses = d.addresses) :
    InterfacesFollow config (.newLink index (d'.status config)) d.device (some (index, d))
      (some (index, d')) := by
  refine (interfacesFollow_kept_iff (fun name => ?_) hdevice).mpr (Or.inr (by rw [haddresses]))
  refine (edit_foundInterface (.newLink index (d'.status config)) rfl
    (fun device heq => (Option.some.inj heq).symm.trans hdevice) name).trans ?_
  unfold foundInterface KernelEvent.change
  rw [haddresses, hdevice]
  rfl

section DelLink

variable {link : NetworkLinkStatus} (hdevice : link.device = d.device)
include hdevice

theorem edit_delLink_foundInterface (name : Option String) :
    KernelEvent.edit (.delLink index link) (foundInterface config index d name) =
      KernelEvent.change (foundInterface config index d name) (.delLink index link) :=
  edit_foundInterface (.delLink index link) rfl
    (fun _ heq => (Option.some.inj heq).symm.trans hdevice) name

variable (hname : link.name =
  (NetlinkMessageProcessor.new config).deviceLinks.lookup link.device)
include hname

/-- A named interface gets the status of a missing link, but it keeps its addresses. -/
theorem edit_delLink_of_mapped {linkName : String}
    (hmapped : (NetlinkMessageProcessor.new config).deviceLinks.lookup d.device = some linkName)
    (name : String) :
    KernelEvent.edit (.delLink index link) (foundInterface config index d (some name)) =
      some (⟨none, some name, some d.device⟩,
        ⟨some name, d.addresses.sort, missingLinkStatus linkName d.device⟩) := by
  rw [hdevice, hmapped] at hname
  rw [edit_delLink_foundInterface hdevice, ← hdevice, ← deletedLinkStatus_of_name hname, hdevice]
  rfl

/-- `DelLink` keeps the addresses of the interface of its device. -/
theorem interfacesFollow_delLink_iff :
    InterfacesFollow config (.delLink index link) d.device (some (index, d)) none ↔
      ¬ HasInterface config d.device ∨ d.addresses = ∅ := by
  rw [InterfacesFollow, Set.ext_iff]
  constructor
  · intro hall
    -- an edited entry keeps its addresses, and the view of a missing device has none
    by_cases hhas : HasInterface config d.device
    · obtain ⟨name, interface, hinterface, hmapped⟩ := hhas
      obtain ⟨name', linkName, -, -, heq⟩ := (hall _).mp (mem_edited_interfacesAt.mpr
        (Or.inl ⟨name, ⟨interface, hinterface, hmapped⟩, edit_delLink_of_mapped hdevice hname hmapped name⟩))
      have hsort : d.addresses.sort = [] := congrArg (fun e => e.2.addresses) heq
      right
      rw [← Finset.sort_toFinset d.addresses (· ≤ ·), hsort]
      rfl
    · exact Or.inl hhas
  · intro hcondition e
    rw [mem_edited_interfacesAt]
    constructor
    · rintro (⟨name, ⟨interface, hinterface, hmapped⟩, heq⟩ | ⟨-, -, heq⟩)
      · have hempty : d.addresses = ∅ :=
          hcondition.resolve_left (not_not_intro ⟨name, interface, hinterface, hmapped⟩)
        rw [edit_delLink_of_mapped hdevice hname hmapped, hempty, Finset.sort_empty,
          Option.some.injEq] at heq
        exact ⟨name, _, ⟨interface, hinterface, hmapped⟩, hmapped, heq.symm⟩
      · -- an unnamed interface is removed
        rw [edit_delLink_foundInterface hdevice] at heq
        cases heq
    · rintro ⟨name, linkName, hnamed, hmapped, rfl⟩
      have hempty : d.addresses = ∅ := hcondition.resolve_left (not_not_intro ⟨name, hnamed⟩)
      refine Or.inl ⟨name, hnamed, ?_⟩
      rw [edit_delLink_of_mapped hdevice hname hmapped, hempty, Finset.sort_empty]
      rfl

end DelLink

/-- The addresses of a device after an address event. -/
def KernelEvent.Readdresses (index : UInt64) (addresses addresses' : Finset IpAddress) :
    KernelEvent → Prop
  | .newAddress index' address =>
    index' = index ∧ address ∉ addresses ∧ addresses' = insert address addresses
  | .delAddress index' address =>
    index' = index ∧ address ∈ addresses ∧ addresses' = addresses.erase address
  | .newLink _ _ | .delLink _ _ => False

theorem KernelEvent.Readdresses.index_eq {kernelEvent : KernelEvent} {index : UInt64}
    {addresses addresses' : Finset IpAddress}
    (h : kernelEvent.Readdresses index addresses addresses') : kernelEvent.index = index := by
  cases kernelEvent with
  | newAddress index' address => exact h.1
  | delAddress index' address => exact h.1
  | newLink index' link => cases h
  | delLink index' link => cases h

theorem withAddress_sort {addresses : Finset IpAddress} {address : IpAddress}
    (hnew : address ∉ addresses) :
    withAddress address addresses.sort = (insert address addresses).sort := by
  have hsorted : (withAddress address addresses.sort).SortedLT := by
    rw [sortedLT_withAddress_iff addresses.sortedLT_sort, Finset.mem_sort]
    exact hnew
  refine hsorted.eq_of_mem_iff (Finset.sortedLT_sort _) fun other => ?_
  rw [mem_withAddress, Finset.mem_sort, Finset.mem_sort, Finset.mem_insert]

theorem withoutAddress_sort (addresses : Finset IpAddress) (address : IpAddress) :
    withoutAddress address addresses.sort = (addresses.erase address).sort := by
  refine (sortedLT_withoutAddress addresses.sortedLT_sort).eq_of_mem_iff (Finset.sortedLT_sort _)
    fun other => ?_
  rw [mem_withoutAddress addresses.sortedLT_sort, Finset.mem_sort, Finset.mem_sort,
    Finset.mem_erase]

section Address

variable {addresses : Finset IpAddress}
  (hevent : kernelEvent.Readdresses index d.addresses addresses)
include hevent

/-- Before or after an address event the device has an address. -/
theorem KernelEvent.Readdresses.nonempty : d.addresses.Nonempty ∨ addresses.Nonempty := by
  cases kernelEvent with
  | newAddress index' address =>
    obtain ⟨-, -, rfl⟩ := hevent
    exact Or.inr (Finset.insert_nonempty address d.addresses)
  | delAddress index' address => exact Or.inl ⟨address, hevent.2.1⟩
  | newLink index' link => cases hevent
  | delLink index' link => cases hevent

/-- An address event gives an interface the addresses of its device. -/
theorem KernelEvent.Readdresses.edit_foundInterface (name : Option String) :
    kernelEvent.edit (foundInterface config index d name) =
      some (foundInterface config index { d with addresses := addresses } name) := by
  cases kernelEvent with
  | newAddress index' address =>
    obtain ⟨rfl, hnew, rfl⟩ := hevent
    refine (RustyRouter.edit_foundInterface (.newAddress index' address) rfl
      (by rintro device ⟨⟩) name).trans ?_
    unfold foundInterface
    rw [← withAddress_sort hnew]
    rfl
  | delAddress index' address =>
    obtain ⟨rfl, -, rfl⟩ := hevent
    refine (RustyRouter.edit_foundInterface (.delAddress index' address) rfl
      (by rintro device ⟨⟩) name).trans ?_
    unfold foundInterface
    rw [← withoutAddress_sort]
    rfl
  | newLink index' link => cases hevent
  | delLink index' link => cases hevent

/-- An address event keeps the interface of its device in step with its addresses, but neither
lists nor removes one. -/
theorem interfacesFollow_address_iff :
    InterfacesFollow config kernelEvent d.device (some (index, d))
        (some (index, { d with addresses := addresses })) ↔
      HasInterface config d.device ∨ (d.addresses.Nonempty ∧ addresses.Nonempty) := by
  refine (interfacesFollow_kept_iff hevent.edit_foundInterface rfl).trans (or_congr_right ?_)
  constructor
  · intro hiff
    -- one of the two sets has the address of the event
    rcases hevent.nonempty with hone | hone
    · exact ⟨hone, hiff.mp hone⟩
    · exact ⟨hiff.mpr hone, hone⟩
  · rintro ⟨hold, hnew⟩
    exact iff_of_true hold hnew

end Address

end Interfaces

/-! ## New links -/

section NewLink

variable {config : Router} {index : UInt64} {d d' : KernelDevice}

/-- `NewLink` lists a device that appears, but finds no interface of it. -/
theorem tablesFollow_appears_iff :
    TablesFollow config (.newLink index (d'.status config)) (.added index (d'.status config))
        d'.device none (some (index, d')) ↔
      ¬ HasInterface config d'.device ∧ d'.addresses = ∅ := by
  have hfollow : InterfacesFollow config (.newLink index (d'.status config)) d'.device none
      (some (index, d')) ↔ ¬ HasInterface config d'.device ∧ d'.addresses = ∅ := by
    rw [interfacesFollow_unconcerned_iff, eq_comm, interfacesAt_some_eq_none_iff]
    rintro e he ⟨hid, -⟩
    rw [index_of_mem_interfacesAt he] at hid
    cases hid
  constructor
  · rintro ⟨-, hinterfaces⟩
    exact hfollow.mp hinterfaces
  · intro hnone
    exact ⟨(linksFollow_self_iff (by simp) rfl).mpr entry_added, hfollow.mpr hnone⟩

/-- `NewLink` follows a device that keeps its name. -/
theorem tablesFollow_kept (hdevice : d'.device = d.device) (haddresses : d'.addresses = d.addresses) :
    TablesFollow config (.newLink index (d'.status config)) (.added index (d'.status config))
      d.device (some (index, d)) (some (index, d')) where
  networkLinks := by
    refine (linksFollow_self_iff ?_ ?_).mpr ?_
    · rintro index d ⟨⟩
      rfl
    · exact hdevice
    · rw [entry_added, hdevice]
  networkInterfaces := interfacesFollow_newLink hdevice haddresses

/-- `NewLink` leaves the interface of a device that loses its name, and drops its link. -/
theorem tablesFollow_renamed_iff (hother : d'.device ≠ d.device) :
    TablesFollow config (.newLink index (d'.status config)) (.added index (d'.status config))
        d.device (some (index, d)) none ↔
      (NetlinkMessageProcessor.new config).deviceLinks.lookup d.device = none ∧
        d.addresses = ∅ := by
  have hfollow : InterfacesFollow config (.newLink index (d'.status config)) d.device
      (some (index, d)) none ↔ ¬ HasInterface config d.device ∧ d.addresses = ∅ := by
    rw [interfacesFollow_unconcerned_iff, interfacesAt_some_eq_none_iff]
    rintro e he ⟨-, hdevice⟩
    have hfound := (device_of_mem_interfacesAt (by rintro index d ⟨⟩; rfl) he).2
    exact hother ((hdevice d'.device rfl).symm.trans hfound)
  constructor
  · rintro ⟨hlinks, hinterfaces⟩
    exact ⟨(linksFollow_renamed_iff hother).mp hlinks, (hfollow.mp hinterfaces).2⟩
  · rintro ⟨hunmapped, hempty⟩
    refine ⟨(linksFollow_renamed_iff hother).mpr hunmapped, hfollow.mpr ⟨?_, hempty⟩⟩
    rintro ⟨name, interface, -, hmapped⟩
    rw [hunmapped] at hmapped
    cases hmapped

end NewLink

/-- `DelLink` removes an unnamed interface, but keeps the addresses of a configured one. -/
theorem tablesFollow_gone_iff {config : Router} {index : UInt64} {d : KernelDevice}
    {link : NetworkLinkStatus} (hdevice : link.device = d.device)
    (hname : link.name = (NetlinkMessageProcessor.new config).deviceLinks.lookup link.device) :
    TablesFollow config (.delLink index link) (.removed link) d.device (some (index, d)) none ↔
      ¬ HasInterface config d.device ∨ d.addresses = ∅ := by
  have hlinks : LinksFollow config (.removed link) d.device (some (index, d)) none := by
    refine (linksFollow_self_iff ?_ ?_).mpr ?_
    · rintro index d ⟨⟩
      rfl
    · exact hdevice
    · rw [entry_removed hname, hdevice]
  constructor
  · rintro ⟨-, hinterfaces⟩
    exact (interfacesFollow_delLink_iff hdevice hname).mp hinterfaces
  · intro hcondition
    exact ⟨hlinks, (interfacesFollow_delLink_iff hdevice hname).mpr hcondition⟩

/-! ## Agreement -/

section Agree

variable {config : Router} (hdevices : config.DistinctDevices) (hlinks : config.DistinctLinks)
  {kernel kernel' : KernelState} {index : UInt64} {input input' : PollInput}
  (hpoll : PollOf config kernel input) (hpoll' : PollOf config kernel' input')
  {db : InterfaceManagerDatabase} (hcoherent : InterfaceManagerDatabase.Coherent db)
  (hsame : SameEntries db (poll config input InterfaceManagerDatabase.new)) {event : Event}

/-- The interfaces of a name that the index does not have are left. -/
theorem interfacesFollow_find {kernelEvent : KernelEvent} (hindex : kernelEvent.index = index)
    {device : String} (hfree : ∀ d, kernel.devices index = some d → d.device ≠ device) :
    InterfacesFollow config kernelEvent device (kernel.find device) (kernel.find device) := by
  apply interfacesFollow_other
  rintro p hfind heq
  obtain ⟨hd, hdevice⟩ := KernelState.find_eq_some.mp hfind
  rw [heq, hindex] at hd
  exact hfree p.2 hd hdevice

/-- What is listed on a name other than that of the event and those of its index is left. -/
theorem tablesFollow_find {kernelEvent : KernelEvent} {change : LinkChange}
    (hchange : kernelEvent.linkChange = some change) (hindex : kernelEvent.index = index)
    (hname : change.link.name =
      (NetlinkMessageProcessor.new config).deviceLinks.lookup change.link.device) {device : String}
    (hother : change.link.device ≠ device)
    (hfree : ∀ d, kernel.devices index = some d → d.device ≠ device) :
    TablesFollow config kernelEvent change device (kernel.find device) (kernel.find device) where
  networkLinks := by
    refine linksFollow_other hname hother
      (fun index d hfind => (KernelState.find_eq_some.mp hfind).2) ?_
    intro p hfind heq
    obtain ⟨hd, hdevice⟩ := KernelState.find_eq_some.mp hfind
    rw [KernelEvent.index_of_linkChange hchange heq, hindex] at hd
    exact hfree p.2 hd hdevice
  networkInterfaces := interfacesFollow_find hindex hfree

include hdevices hlinks hpoll hpoll' hcoherent hsame

/-- **When `NewLink` agrees with a poll.**  After `NewLink` the tables say what a poll of the kernel
stores into an empty database if and only if the index had a device of that name, or no interface is
configured on the name and the index was free or had a device that is neither configured nor has
addresses. -/
theorem newLink_agrees_iff {d' : KernelDevice}
    (hkernel : kernel'.devices = Function.update kernel.devices index (some d'))
    (haddresses : d'.addresses = (kernel.devices index).elim ∅ KernelDevice.addresses)
    (hevent : KernelEvent.ofMessage config event.message =
      some (.newLink index (d'.status config))) :
    SameEntries (messageReceived (.new config) event db).1
        (poll config input' InterfaceManagerDatabase.new) ↔
      (∃ d, kernel.devices index = some d ∧ d.device = d'.device) ∨
      (¬ HasInterface config d'.device ∧ ∀ d, kernel.devices index = some d →
        (NetlinkMessageProcessor.new config).deviceLinks.lookup d.device = none ∧
          d.addresses = ∅) := by
  obtain ⟨hbut, hd'⟩ := KernelState.sameBut_of_update hkernel
  have hothers : ∀ device, (∀ d, kernel.devices index = some d → d.device ≠ device) →
      (∀ d, kernel'.devices index = some d → d.device ≠ device) →
        TablesFollow config (.newLink index (d'.status config)) (.added index (d'.status config))
          device (kernel.find device) (kernel.find device) :=
    fun device hfree hfree' => tablesFollow_find rfl rfl rfl (hfree' d' hd') hfree
  rw [sameEntries_messageReceived_iff hdevices hlinks hpoll hpoll' hcoherent hsame hevent rfl]
  cases hd : kernel.devices index with
  | none =>
    rw [hd] at haddresses
    rw [hbut.forall_find_iff_new hothers hd hd', tablesFollow_appears_iff]
    simp [haddresses]
  | some d =>
    rw [hd] at haddresses
    -- a device that keeps its name is one that changes, another is one that goes and one that comes
    by_cases hdevice : d'.device = d.device
    · rw [hbut.forall_find_iff_kept hothers hd hd' hdevice]
      exact iff_of_true (tablesFollow_kept hdevice haddresses) (Or.inl ⟨d, rfl, hdevice.symm⟩)
    · rw [hbut.forall_find_iff_renamed hothers hd hd' hdevice, tablesFollow_renamed_iff hdevice,
        tablesFollow_appears_iff]
      constructor
      · rintro ⟨hold, hfree, -⟩
        refine Or.inr ⟨hfree, ?_⟩
        rintro d ⟨⟩
        exact hold
      · rintro (⟨d, ⟨⟩, heq⟩ | ⟨hfree, hold⟩)
        · exact absurd heq.symm hdevice
        · exact ⟨hold d rfl, hfree, haddresses.trans (hold d rfl).2⟩

end Agree

/-- A device that is up. -/
def upDevice (device : String) (addresses : Finset IpAddress) : KernelDevice :=
  ⟨device, .up, rfl, addresses⟩

/-- The poll of the configured device without addresses. -/
def wanInput : PollInput := pollAt 0 [newLinkMessage 2 "eth0" .up] []

theorem pollOf_wanInput : PollOf wanConfig (.single 2 (upDevice "eth0" ∅)) wanInput :=
  pollOf_single (by decide +kernel) (nodup_addressesOf (by decide +kernel)) (by decide +kernel) 0

/-- The database of a first poll. -/
abbrev polledNew (input : PollInput) : InterfaceManagerDatabase :=
  poll wanConfig input InterfaceManagerDatabase.new

theorem coherent_polledNew (input : PollInput) :
    InterfaceManagerDatabase.Coherent (polledNew input) :=
  ((ManagerInvariant.new wanConfig).poll input).coherent

/-- The state of a configured device changes. -/
theorem newLink_agrees_iff_wan :
    SameEntries
      (messageReceived (.new wanConfig) ⟨newLinkMessage 2 "eth0" .down, 1, 1⟩ (polledNew wanInput)).1
      (polledNew (pollAt 0 [newLinkMessage 2 "eth0" .down] [])) := by
  have hpoll' : PollOf wanConfig (.single 2 ⟨"eth0", .down, rfl, ∅⟩)
      (pollAt 0 [newLinkMessage 2 "eth0" .down] []) :=
    pollOf_single (by decide +kernel) (nodup_addressesOf (by decide +kernel)) (by decide +kernel) 0
  have hd : (KernelState.single 2 (upDevice "eth0" ∅)).devices 2 = some (upDevice "eth0" ∅) :=
    KernelState.single_devices_iff.mpr ⟨rfl, rfl⟩
  refine (newLink_agrees_iff (by decide) (by decide) pollOf_wanInput hpoll' (coherent_polledNew _)
    ⟨rfl, rfl⟩ (Function.update_idem _ _ _).symm ?_ (by decide +kernel)).mpr (Or.inl ⟨_, hd, rfl⟩)
  rw [hd]
  rfl

/-- The interface of a device that appears stays as if it was missing. -/
theorem not_newLink_agrees :
    ¬ ∀ (config : Router) (kernel kernel' : KernelState) (index : UInt64) (d' : KernelDevice)
      (input input' : PollInput) (db : InterfaceManagerDatabase) (event : Event),
      config.DistinctDevices → config.DistinctLinks → PollOf config kernel input →
      PollOf config kernel' input' → InterfaceManagerDatabase.Coherent db →
      SameEntries db (poll config input InterfaceManagerDatabase.new) →
      kernel'.devices = Function.update kernel.devices index (some d') →
      d'.addresses = (kernel.devices index).elim ∅ KernelDevice.addresses →
      KernelEvent.ofMessage config event.message = some (.newLink index (d'.status config)) →
        SameEntries (messageReceived (.new config) event db).1
          (poll config input' InterfaceManagerDatabase.new) := by
  intro h
  have hagree := h wanConfig .empty (.single 2 (upDevice "eth0" ∅)) 2 (upDevice "eth0" ∅)
    (pollAt 0 [] []) wanInput _ ⟨newLinkMessage 2 "eth0" .up, 1, 1⟩ (by decide) (by decide)
    (pollOf_empty (by decide +kernel) (nodup_addressesOf (by decide +kernel)) 0) pollOf_wanInput
    (coherent_polledNew _) ⟨rfl, rfl⟩ rfl rfl (by decide +kernel)
  have hlisted : foundInterface wanConfig 2 (upDevice "eth0" ∅) (some "uplink") ∈
      entries (polledNew wanInput).networkInterfaces.content := by
    show ∃ item ∈ _, _
    decide +kernel
  rw [← hagree.networkInterfaces] at hlisted
  revert hlisted
  show ¬ ∃ item ∈ _, _
  decide +kernel

section Agree

variable {config : Router} (hdevices : config.DistinctDevices) (hlinks : config.DistinctLinks)
  {kernel kernel' : KernelState} {index : UInt64} {input input' : PollInput}
  (hpoll : PollOf config kernel input) (hpoll' : PollOf config kernel' input')
  {db : InterfaceManagerDatabase} (hcoherent : InterfaceManagerDatabase.Coherent db)
  (hsame : SameEntries db (poll config input InterfaceManagerDatabase.new)) {event : Event}
include hdevices hlinks hpoll hpoll' hcoherent hsame

/-- **When `DelLink` agrees with a poll.**  After `DelLink` of a device the tables say what a poll of
the kernel without it stores into an empty database if and only if no interface is configured on its
name or it had no addresses. -/
theorem delLink_agrees_iff {d : KernelDevice} (hd : kernel.devices index = some d)
    (hkernel : kernel'.devices = Function.update kernel.devices index none)
    {link : NetworkLinkStatus} (hdevice : link.device = d.device)
    (hevent : KernelEvent.ofMessage config event.message = some (.delLink index link)) :
    SameEntries (messageReceived (.new config) event db).1
        (poll config input' InterfaceManagerDatabase.new) ↔
      ¬ HasInterface config d.device ∨ d.addresses = ∅ := by
  obtain ⟨hbut, hnone⟩ := KernelState.sameBut_of_update hkernel
  have hname : link.name =
      (NetlinkMessageProcessor.new config).deviceLinks.lookup link.device := by
    have hchange : LinkChange.ofEvent config event = some (.removed link) := by
      rw [KernelEvent.ofEvent_eq, hevent]
      rfl
    exact (LinkChange.name_of_ofEvent hchange).1
  -- nothing changes about the other devices
  have hothers : ∀ device, (∀ d, kernel.devices index = some d → d.device ≠ device) →
      (∀ d, kernel'.devices index = some d → d.device ≠ device) →
        TablesFollow config (.delLink index link) (.removed link) device (kernel.find device)
          (kernel.find device) := by
    intro device hfree _
    refine tablesFollow_find rfl rfl ?_ ?_ hfree
    · exact hname
    · show link.device ≠ device
      rw [hdevice]
      exact hfree d hd
  rw [sameEntries_messageReceived_iff hdevices hlinks hpoll hpoll' hcoherent hsame hevent rfl,
    hbut.forall_find_iff_gone hothers hd hnone]
  exact tablesFollow_gone_iff hdevice hname

end Agree

/-- The poll without devices. -/
theorem pollOf_nothing : PollOf wanConfig .empty (pollAt 0 [] []) :=
  pollOf_empty (by decide +kernel) (nodup_addressesOf (by decide +kernel)) 0

/-- A kernel without its device is empty. -/
theorem empty_devices_eq (index : UInt64) (d : KernelDevice) :
    KernelState.empty.devices =
      Function.update (KernelState.single index d).devices index none := by
  show _ = Function.update (Function.update KernelState.empty.devices index (some d)) index none
  rw [Function.update_idem]
  exact (Function.update_eq_self index KernelState.empty.devices).symm

/-- A configured device without addresses disappears. -/
theorem delLink_agrees_iff_wan :
    SameEntries
      (messageReceived (.new wanConfig) ⟨delLinkMessage 2 "eth0", 1, 1⟩ (polledNew wanInput)).1
      (polledNew (pollAt 0 [] [])) :=
  (delLink_agrees_iff (by decide) (by decide) pollOf_wanInput pollOf_nothing (coherent_polledNew _)
    ⟨rfl, rfl⟩ (KernelState.single_devices_iff.mpr ⟨rfl, rfl⟩)
    (empty_devices_eq 2 (upDevice "eth0" ∅))
    (show NetworkLinkStatus.device ⟨some "wan", "eth0", .down⟩ = "eth0" from rfl)
    (by decide +kernel)).mpr (Or.inr rfl)

/-- The address that messages announce. -/
def wanAddress : IpAddress := ⟨.v4 ⟨0x0A000001⟩, 8⟩

/-- The poll of the configured device with an address. -/
def addressedInput : PollInput :=
  pollAt 0 [newLinkMessage 2 "eth0" .up] [newAddressMessage 2 [10, 0, 0, 1]]

theorem pollOf_addressedInput :
    PollOf wanConfig (.single 2 (upDevice "eth0" {wanAddress})) addressedInput :=
  pollOf_single (by decide +kernel) (nodup_addressesOf (by decide +kernel)) (by decide +kernel) 0

/-- The interface of a device that disappears keeps its addresses. -/
theorem not_delLink_agrees :
    ¬ ∀ (config : Router) (kernel kernel' : KernelState) (index : UInt64) (d : KernelDevice)
      (link : NetworkLinkStatus) (input input' : PollInput) (db : InterfaceManagerDatabase)
      (event : Event), config.DistinctDevices → config.DistinctLinks → PollOf config kernel input →
      PollOf config kernel' input' → InterfaceManagerDatabase.Coherent db →
      SameEntries db (poll config input InterfaceManagerDatabase.new) →
      kernel.devices index = some d → kernel'.devices = Function.update kernel.devices index none →
      link.device = d.device →
      KernelEvent.ofMessage config event.message = some (.delLink index link) →
        SameEntries (messageReceived (.new config) event db).1
          (poll config input' InterfaceManagerDatabase.new) := by
  intro h
  have hagree := h wanConfig _ .empty 2 _ ⟨some "wan", "eth0", .down⟩ addressedInput (pollAt 0 [] [])
    _ ⟨delLinkMessage 2 "eth0", 1, 1⟩ (by decide) (by decide) pollOf_addressedInput pollOf_nothing
    (coherent_polledNew _) ⟨rfl, rfl⟩ (KernelState.single_devices_iff.mpr ⟨rfl, rfl⟩)
    (empty_devices_eq 2 _) rfl (by decide +kernel)
  have hlisted : missingInterface "eth0" "wan" "uplink" ∈
      entries (polledNew (pollAt 0 [] [])).networkInterfaces.content := by
    show ∃ item ∈ _, _
    decide +kernel
  rw [← hagree.networkInterfaces] at hlisted
  revert hlisted
  show ¬ ∃ item ∈ _, _
  decide +kernel

section Agree

variable {config : Router} (hdevices : config.DistinctDevices) (hlinks : config.DistinctLinks)
  {kernel kernel' : KernelState} {index : UInt64} {input input' : PollInput}
  (hpoll : PollOf config kernel input) (hpoll' : PollOf config kernel' input')
  {db : InterfaceManagerDatabase} (hcoherent : InterfaceManagerDatabase.Coherent db)
  (hsame : SameEntries db (poll config input InterfaceManagerDatabase.new)) {event : Event}
include hdevices hlinks hpoll hpoll' hcoherent hsame

/-- **When address events agree with a poll.**  After an event that adds an address to a device or
takes one away, the interface table says what a poll of the kernel stores into an empty database if
and only if an interface is configured on the name of the device or the device has had an address
throughout. -/
theorem address_agrees_iff {d : KernelDevice} (hd : kernel.devices index = some d)
    {addresses : Finset IpAddress}
    (hkernel : kernel'.devices =
      Function.update kernel.devices index (some { d with addresses := addresses }))
    {kernelEvent : KernelEvent} (hchange : kernelEvent.Readdresses index d.addresses addresses)
    (hevent : KernelEvent.ofMessage config event.message = some kernelEvent) :
    entries (messageReceived (.new config) event db).1.networkInterfaces.content =
        entries (poll config input' InterfaceManagerDatabase.new).networkInterfaces.content ↔
      HasInterface config d.device ∨ (d.addresses.Nonempty ∧ addresses.Nonempty) := by
  obtain ⟨hbut, hd'⟩ := KernelState.sameBut_of_update hkernel
  have hothers : ∀ device, (∀ d, kernel.devices index = some d → d.device ≠ device) →
      (∀ d, kernel'.devices index = some d → d.device ≠ device) →
        InterfacesFollow config kernelEvent device (kernel.find device) (kernel.find device) :=
    fun device hfree _ => interfacesFollow_find hchange.index_eq hfree
  rw [networkInterfaces_agree_iff hdevices hlinks hpoll hpoll' hcoherent hsame hevent,
    hbut.forall_find_iff_kept hothers hd hd' rfl]
  exact interfacesFollow_address_iff hchange

end Agree

/-- A configured device gets its first address. -/
theorem address_agrees_iff_wan :
    entries (messageReceived (.new wanConfig) ⟨newAddressMessage 2 [10, 0, 0, 1], 1, 1⟩
        (polledNew wanInput)).1.networkInterfaces.content =
      entries (polledNew addressedInput).networkInterfaces.content := by
  have hhas : HasInterface wanConfig "eth0" :=
    ⟨"uplink", ⟨"wan"⟩, by decide +kernel, by decide +kernel⟩
  have hchange : (KernelEvent.newAddress 2 wanAddress).Readdresses 2 ∅ {wanAddress} :=
    ⟨rfl, Finset.notMem_empty _, rfl⟩
  exact (address_agrees_iff (by decide) (by decide) pollOf_wanInput pollOf_addressedInput
    (coherent_polledNew _) ⟨rfl, rfl⟩ (KernelState.single_devices_iff.mpr ⟨rfl, rfl⟩)
    (Function.update_idem _ _ _).symm hchange (by decide +kernel)).mpr (Or.inl hhas)

/-- No interface is listed of a device that is not configured and gets its first address. -/
theorem not_address_agrees :
    ¬ ∀ (config : Router) (kernel kernel' : KernelState) (index : UInt64) (d : KernelDevice)
      (addresses : Finset IpAddress) (kernelEvent : KernelEvent) (input input' : PollInput)
      (db : InterfaceManagerDatabase) (event : Event), config.DistinctDevices →
      config.DistinctLinks → PollOf config kernel input → PollOf config kernel' input' →
      InterfaceManagerDatabase.Coherent db →
      SameEntries db (poll config input InterfaceManagerDatabase.new) →
      kernel.devices index = some d →
      kernel'.devices =
        Function.update kernel.devices index (some { d with addresses := addresses }) →
      kernelEvent.Readdresses index d.addresses addresses →
      KernelEvent.ofMessage config event.message = some kernelEvent →
        entries (messageReceived (.new config) event db).1.networkInterfaces.content =
          entries (poll config input' InterfaceManagerDatabase.new).networkInterfaces.content := by
  intro h
  have hpoll : PollOf wanConfig (.single 3 (upDevice "eth1" ∅))
      (pollAt 0 [newLinkMessage 3 "eth1" .up] []) :=
    pollOf_single (by decide +kernel) (nodup_addressesOf (by decide +kernel)) (by decide +kernel) 0
  have hpoll' : PollOf wanConfig (.single 3 (upDevice "eth1" {wanAddress}))
      (pollAt 0 [newLinkMessage 3 "eth1" .up] [newAddressMessage 3 [10, 0, 0, 1]]) :=
    pollOf_single (by decide +kernel) (nodup_addressesOf (by decide +kernel)) (by decide +kernel) 0
  have hagree := h wanConfig _ _ 3 _ {wanAddress}
    (.newAddress 3 wanAddress) _ _ _ ⟨newAddressMessage 3 [10, 0, 0, 1], 1, 1⟩ (by decide)
    (by decide) hpoll hpoll' (coherent_polledNew _) ⟨rfl, rfl⟩
    (KernelState.single_devices_iff.mpr ⟨rfl, rfl⟩) (Function.update_idem _ _ _).symm
    ⟨rfl, Finset.notMem_empty _, rfl⟩ (by decide +kernel)
  have hlisted : ((⟨some 3, none, some "eth1"⟩, ⟨none, [wanAddress], ⟨none, "eth1", .up⟩⟩) :
      CanonicalNetworkId × NetworkInterfaceStatus) ∈
      entries (polledNew (pollAt 0 [newLinkMessage 3 "eth1" .up]
        [newAddressMessage 3 [10, 0, 0, 1]])).networkInterfaces.content := by
    show ∃ item ∈ _, _
    decide +kernel
  rw [← hagree] at hlisted
  revert hlisted
  show ¬ ∃ item ∈ _, _
  decide +kernel

end RustyRouter
