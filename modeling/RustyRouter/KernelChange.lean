/-
# What a change of the kernel changes of its poll

Two kernels with the same devices but for one index list the same of every device
name but two: the name that the device of the index had, and the one it has
(`KernelState.SameBut.forall_find_iff`).  What an event does to the tables it does
name by name as well (`LinkChange.entries_about`, `edited_about`).  So whether the
tables follow the kernel is decided at these two names.
-/
import RustyRouter.KernelState

namespace RustyRouter

open KeyedStore InterfaceManagerWorker InterfaceManagerNetlinkSocketListener

/-! ## Kernels that differ at an index -/

namespace KernelState

variable {kernel kernel' : KernelState} {index : UInt64}

/-- Two kernels have the same devices but for one index. -/
def SameBut (index : UInt64) (kernel kernel' : KernelState) : Prop :=
  ∀ index', index' ≠ index → kernel'.devices index' = kernel.devices index'

theorem sameBut_of_update {found : Option KernelDevice}
    (h : kernel'.devices = Function.update kernel.devices index found) :
    SameBut index kernel kernel' ∧ kernel'.devices index = found := by
  rw [h]
  constructor
  · intro index' hne
    rw [h, Function.update_of_ne hne]
  · exact Function.update_self _ _ _

namespace SameBut

theorem symm (h : SameBut index kernel kernel') : SameBut index kernel' kernel :=
  fun index' hne => (h index' hne).symm

/-- A name that neither device of the index has is found as before. -/
theorem find_eq (h : SameBut index kernel kernel') {device : String}
    (hfree : ∀ d, kernel.devices index = some d → d.device ≠ device)
    (hfree' : ∀ d, kernel'.devices index = some d → d.device ≠ device) :
    kernel'.find device = kernel.find device := by
  cases hfind : kernel.find device with
  | some p =>
    obtain ⟨hd, hdevice⟩ := KernelState.find_eq_some.mp hfind
    have hne : p.1 ≠ index := by
      intro heq
      exact hfree p.2 (heq ▸ hd) hdevice
    exact KernelState.find_eq_some.mpr ⟨(h p.1 hne).trans hd, hdevice⟩
  | none =>
    rw [KernelState.find_eq_none] at hfind ⊢
    intro index' d hd hdevice
    -- not found before under another index, and not under this one now
    by_cases heq : index' = index
    · exact hfree' d (heq ▸ hd) hdevice
    · rw [h index' heq] at hd
      exact hfind index' d hd hdevice

/-- The name that a device of the index had is not found if the one of the index now has another. -/
theorem find_eq_none (h : SameBut index kernel kernel') {d : KernelDevice}
    (hd : kernel.devices index = some d)
    (hgone : ∀ d', kernel'.devices index = some d' → d'.device ≠ d.device) :
    kernel'.find d.device = none := by
  rw [KernelState.find_eq_none]
  intro index' d' hd' hdevice
  have hne : index' ≠ index := by
    rintro rfl
    exact hgone d' hd' hdevice
  rw [h index' hne] at hd'
  exact hne (kernel.distinct _ _ _ _ hd' hd hdevice)

section Names

variable (h : SameBut index kernel kernel')
  {P : String → Option (UInt64 × KernelDevice) → Option (UInt64 × KernelDevice) → Prop}
  (hsame : ∀ device, (∀ d, kernel.devices index = some d → d.device ≠ device) →
    (∀ d, kernel'.devices index = some d → d.device ≠ device) →
      P device (kernel.find device) (kernel.find device))
  {d d' : KernelDevice}
include h hsame

/-- What holds of names that are found as before holds of every name if it holds of the names that
the index had and has. -/
theorem forall_find_iff :
    (∀ device, P device (kernel.find device) (kernel'.find device)) ↔
      (∀ d, kernel.devices index = some d →
        P d.device (some (index, d)) (kernel'.find d.device)) ∧
      ∀ d', kernel'.devices index = some d' →
        P d'.device (kernel.find d'.device) (some (index, d')) := by
  constructor
  · intro hall
    constructor
    · intro d hd
      rw [← KernelState.find_eq_some.mpr ⟨hd, rfl⟩]
      exact hall d.device
    · intro d' hd'
      rw [← KernelState.find_eq_some.mpr ⟨hd', rfl⟩]
      exact hall d'.device
  · rintro ⟨hold, hnew⟩ device
    -- only the names that the index had and has can be found differently
    by_cases hhad : ∃ d, kernel.devices index = some d ∧ d.device = device
    · obtain ⟨d, hd, rfl⟩ := hhad
      rw [KernelState.find_eq_some.mpr ⟨hd, rfl⟩]
      exact hold d hd
    · by_cases hhas : ∃ d, kernel'.devices index = some d ∧ d.device = device
      · obtain ⟨d', hd', rfl⟩ := hhas
        rw [KernelState.find_eq_some.mpr ⟨hd', rfl⟩]
        exact hnew d' hd'
      · push Not at hhad hhas
        rw [h.find_eq hhad hhas]
        exact hsame device hhad hhas

/-- A device that keeps its name. -/
theorem forall_find_iff_kept (hd : kernel.devices index = some d)
    (hd' : kernel'.devices index = some d') (hdevice : d'.device = d.device) :
    (∀ device, P device (kernel.find device) (kernel'.find device)) ↔
      P d.device (some (index, d)) (some (index, d')) := by
  have hfind := KernelState.find_eq_some.mpr ⟨hd, hdevice.symm⟩
  have hfind' := KernelState.find_eq_some.mpr ⟨hd', hdevice⟩
  rw [h.forall_find_iff hsame]
  simp only [hd, hd', Option.some.injEq, forall_eq']
  rw [hfind, hfind', hdevice, and_self]

/-- A device that disappears. -/
theorem forall_find_iff_gone (hd : kernel.devices index = some d)
    (hnone : kernel'.devices index = none) :
    (∀ device, P device (kernel.find device) (kernel'.find device)) ↔
      P d.device (some (index, d)) none := by
  have hfind' : kernel'.find d.device = none := h.find_eq_none hd (by simp [hnone])
  rw [h.forall_find_iff hsame]
  simp [hd, hnone, hfind']

/-- A device that appears. -/
theorem forall_find_iff_new (hnone : kernel.devices index = none)
    (hd' : kernel'.devices index = some d') :
    (∀ device, P device (kernel.find device) (kernel'.find device)) ↔
      P d'.device none (some (index, d')) := by
  have hfind : kernel.find d'.device = none := h.symm.find_eq_none hd' (by simp [hnone])
  rw [h.forall_find_iff hsame]
  simp [hd', hnone, hfind]

/-- A device that gets another name. -/
theorem forall_find_iff_renamed (hd : kernel.devices index = some d)
    (hd' : kernel'.devices index = some d') (hdevice : d'.device ≠ d.device) :
    (∀ device, P device (kernel.find device) (kernel'.find device)) ↔
      P d.device (some (index, d)) none ∧ P d'.device none (some (index, d')) := by
  have hfind' : kernel'.find d.device = none := by
    refine h.find_eq_none hd ?_
    simpa [hd'] using hdevice
  have hfind : kernel.find d'.device = none := by
    refine h.symm.find_eq_none hd' ?_
    simpa [hd] using hdevice.symm
  rw [h.forall_find_iff hsame]
  simp [hd, hd', hfind, hfind']

end Names

end SameBut

end KernelState

/-! ## Events, name by name -/

section ByName

variable {T : Type} {family : String → Set (CanonicalNetworkId × T)}

/-- An edit that keeps device names is made name by name. -/
theorem edited_about {edit : CanonicalNetworkId × T → Option (CanonicalNetworkId × T)}
    (hfamily : ∀ device, ∀ e ∈ family device, e.1.device = some device)
    (hedit : ∀ device, ∀ e ∈ family device, ∀ e', edit e = some e' → e'.1.device = some device) :
    edited edit (about family) = about fun device => edited edit (family device) := by
  ext e'
  constructor
  · rintro ⟨e, ⟨device, -, he⟩, heq⟩
    exact ⟨device, hedit device e he e' heq, e, he, heq⟩
  · rintro ⟨device, -, e, he, heq⟩
    exact ⟨e, ⟨device, hfamily device e he, he⟩, heq⟩

/-- Entries of no device name do not count when families are compared. -/
theorem union_about_inj {family' : String → Set (CanonicalNetworkId × T)}
    {rest : Set (CanonicalNetworkId × T)} (hrest : ∀ e ∈ rest, e.1.device = none) :
    rest ∪ about family = rest ∪ about family' ↔ about family = about family' := by
  have hcancel : ∀ family : String → Set (CanonicalNetworkId × T),
      (rest ∪ about family) \ rest = about family := by
    intro family
    apply Set.union_sdiff_cancel_left
    rintro e ⟨he, device, hdevice, -⟩
    rw [hrest e he] at hdevice
    cases hdevice
  constructor
  · intro heq
    rw [← hcancel family, heq, hcancel family']
  · intro heq
    rw [heq]

end ByName

/-- The links on a device name after a change. -/
def LinkChange.entriesAt (change : LinkChange) (device : String)
    (es : Set (CanonicalNetworkId × NetworkLinkStatus)) :
    Set (CanonicalNetworkId × NetworkLinkStatus) :=
  {e | (change.link.device = device ∧ change.entry = some e) ∨
    (e ∈ es ∧ ¬ Clash CanonicalNetworkId.keys e.1 change.id)}

/-- A change of the links is made name by name. -/
theorem LinkChange.entries_about (change : LinkChange)
    (family : String → Set (CanonicalNetworkId × NetworkLinkStatus)) :
    change.entries (about family) = about fun device => change.entriesAt device (family device) := by
  ext e
  constructor
  · rintro (hentry | ⟨⟨device, hdevice, he⟩, hfree⟩)
    · refine ⟨change.link.device, ?_, Or.inl ⟨rfl, hentry⟩⟩
      rw [id_of_entry hentry]
      rfl
    · exact ⟨device, hdevice, Or.inr ⟨he, hfree⟩⟩
  · rintro ⟨device, hdevice, ⟨-, hentry⟩ | ⟨he, hfree⟩⟩
    · exact Or.inl hentry
    · exact Or.inr ⟨⟨device, hdevice, he⟩, hfree⟩

theorem edited_union {T : Type} {edit : CanonicalNetworkId × T → Option (CanonicalNetworkId × T)}
    (es es' : Set (CanonicalNetworkId × T)) :
    edited edit (es ∪ es') = edited edit es ∪ edited edit es' := by
  ext e
  constructor
  · rintro ⟨e', he | he, heq⟩
    · exact Or.inl ⟨e', he, heq⟩
    · exact Or.inr ⟨e', he, heq⟩
  · rintro (⟨e', he, heq⟩ | ⟨e', he, heq⟩)
    · exact ⟨e', Or.inl he, heq⟩
    · exact ⟨e', Or.inr he, heq⟩

/-- An event keeps the device name of an id that has the one of its status. -/
theorem KernelEvent.device_of_edit {kernelEvent : KernelEvent}
    {e e' : CanonicalNetworkId × NetworkInterfaceStatus} (h : kernelEvent.edit e = some e')
    (hdevice : e.1.device = some e.2.networkLinkStatus.device) : e'.1.device = e.1.device := by
  unfold edit at h
  split_ifs at h with hconcerns
  · cases kernelEvent with
    | newLink index link =>
      cases h
      exact hdevice.symm
    | delLink index link =>
      unfold change at h
      split_ifs at h
      cases h
      exact hdevice.symm
    | newAddress index address =>
      cases h
      rfl
    | delAddress index address =>
      cases h
      rfl
  · cases h
    rfl

/-! ## Tables that follow the kernel -/

/-- A database that says what another does has its invariant. -/
theorem ManagerInvariant.of_sameEntries {config : Router} {db db' : InterfaceManagerDatabase}
    (h : ManagerInvariant config db') (hcoherent : InterfaceManagerDatabase.Coherent db)
    (hsame : SameEntries db db') : ManagerInvariant config db where
  coherent := hcoherent
  links := by
    intro item hitem
    have hentry : item.entry ∈ entries db.networkLinks.content := ⟨item, hitem, rfl⟩
    rw [hsame.networkLinks] at hentry
    obtain ⟨⟨id, status, refreshed⟩, hitem', rfl, rfl⟩ := hentry
    have hinvariant := h.links _ hitem'
    exact ⟨⟨hinvariant.name_eq, hinvariant.device_eq, hinvariant.index_iff⟩, hinvariant.configured,
      hinvariant.link_of_name, hinvariant.unmapped_of_unnamed⟩
  interfaces := by
    intro item hitem
    have hentry : item.entry ∈ entries db.networkInterfaces.content := ⟨item, hitem, rfl⟩
    rw [hsame.networkInterfaces] at hentry
    obtain ⟨⟨id, status, refreshed⟩, hitem', rfl, rfl⟩ := hentry
    have hinvariant := h.interfaces _ hitem'
    exact ⟨⟨hinvariant.name_eq, hinvariant.device_eq, hinvariant.unlinked, hinvariant.index_iff⟩,
      hinvariant.linked_of_index, hinvariant.mapped_of_index⟩

/-- A change makes what is listed of the links on a name into what is to be listed. -/
def LinksFollow (config : Router) (change : LinkChange) (device : String)
    (found found' : Option (UInt64 × KernelDevice)) : Prop :=
  change.entriesAt device (linksAt config device found) = linksAt config device found'

/-- An event makes what is listed of the interfaces on a name into what is to be listed. -/
def InterfacesFollow (config : Router) (kernelEvent : KernelEvent) (device : String)
    (found found' : Option (UInt64 × KernelDevice)) : Prop :=
  edited kernelEvent.edit (interfacesAt config device found) = interfacesAt config device found'

/-- An event makes what both tables list on a name into what is to be listed. -/
structure TablesFollow (config : Router) (kernelEvent : KernelEvent) (change : LinkChange)
    (device : String) (found found' : Option (UInt64 × KernelDevice)) : Prop where
  networkLinks : LinksFollow config change device found found'
  networkInterfaces : InterfacesFollow config kernelEvent device found found'

section Follow

variable {config : Router} (hdevices : config.DistinctDevices) (hlinks : config.DistinctLinks)
  {kernel kernel' : KernelState} {input input' : PollInput} (hpoll : PollOf config kernel input)
  (hpoll' : PollOf config kernel' input') {db : InterfaceManagerDatabase}
  (hcoherent : InterfaceManagerDatabase.Coherent db)
  (hsame : SameEntries db (poll config input InterfaceManagerDatabase.new)) {event : Event}
  {kernelEvent : KernelEvent}
  (hevent : KernelEvent.ofMessage config event.message = some kernelEvent)
include hdevices hlinks hpoll hpoll' hcoherent hsame hevent

/-- The links agree with a poll of the new kernel if they follow it on every name. -/
theorem networkLinks_agree_iff {change : LinkChange} (hchange : kernelEvent.linkChange = some change) :
    entries (messageReceived (.new config) event db).1.networkLinks.content =
        entries (poll config input' InterfaceManagerDatabase.new).networkLinks.content ↔
      ∀ device, LinksFollow config change device (kernel.find device) (kernel'.find device) := by
  have hfound : ∀ (kernel : KernelState) device, ∀ e ∈ linksAt config device (kernel.find device),
      e.1.device = some device := by
    intro kernel device e he
    refine (device_of_mem_linksAt (fun index d hfind => ?_) he).1
    exact (KernelState.find_eq_some.mp hfind).2
  rw [entries_networkLinks_messageReceived hcoherent, KernelEvent.ofEvent_eq, hevent,
    Option.bind_some, hchange, Option.elim_some, hsame.networkLinks,
    (poll_new_entries hdevices hlinks hpoll).1, (poll_new_entries hdevices hlinks hpoll').1,
    change.entries_about]
  refine about_inj ?_ (hfound kernel')
  rintro device e (⟨rfl, hentry⟩ | ⟨he, -⟩)
  · rw [LinkChange.id_of_entry hentry]
    rfl
  · exact hfound kernel device e he

/-- The interfaces agree with a poll of the new kernel if they follow it on every name. -/
theorem networkInterfaces_agree_iff :
    entries (messageReceived (.new config) event db).1.networkInterfaces.content =
        entries (poll config input' InterfaceManagerDatabase.new).networkInterfaces.content ↔
      ∀ device,
        InterfacesFollow config kernelEvent device (kernel.find device) (kernel'.find device) := by
  have hfound : ∀ (kernel : KernelState) device,
      ∀ e ∈ interfacesAt config device (kernel.find device),
        e.1.device = some device ∧ e.2.networkLinkStatus.device = device := by
    intro kernel device e he
    refine device_of_mem_interfacesAt (fun index d hfind => ?_) he
    exact (KernelState.find_eq_some.mp hfind).2
  -- an edit stays with its device
  have hedit : ∀ device, ∀ e ∈ interfacesAt config device (kernel.find device), ∀ e',
      kernelEvent.edit e = some e' → e'.1.device = some device := by
    intro device e he e' heq
    obtain ⟨hdevice, hstatus⟩ := hfound kernel device e he
    rw [KernelEvent.device_of_edit heq (hdevice.trans (congrArg some hstatus.symm)), hdevice]
  -- interfaces on links that are not configured are on no device
  have hunlinked : edited kernelEvent.edit (unlinkedInterfaces config) =
      unlinkedInterfaces config := by
    apply edited_of_unchanged
    rintro - ⟨name, interface, -, -, rfl⟩
    apply KernelEvent.edit_of_not_concerns
    rintro ⟨hindex, -⟩
    cases hindex
  have hinvariant := ((ManagerInvariant.new config).poll input).of_sameEntries hcoherent hsame
  rw [KernelEvent.entries_networkInterfaces_messageReceived hinvariant, hevent, Option.elim_some,
    hsame.networkInterfaces, (poll_new_entries hdevices hlinks hpoll).2,
    (poll_new_entries hdevices hlinks hpoll').2, edited_union, hunlinked,
    edited_about (fun device e he => (hfound kernel device e he).1) hedit,
    union_about_inj (by rintro - ⟨name, interface, -, -, rfl⟩; rfl)]
  refine about_inj ?_ fun device e he => (hfound kernel' device e he).1
  rintro device e' ⟨e, he, heq⟩
  exact hedit device e he e' heq

/-- Both tables agree with a poll of the new kernel if they follow it on every name. -/
theorem sameEntries_messageReceived_iff {change : LinkChange}
    (hchange : kernelEvent.linkChange = some change) :
    SameEntries (messageReceived (.new config) event db).1
        (poll config input' InterfaceManagerDatabase.new) ↔
      ∀ device,
        TablesFollow config kernelEvent change device (kernel.find device) (kernel'.find device) := by
  have hlinksAgree :=
    networkLinks_agree_iff hdevices hlinks hpoll hpoll' hcoherent hsame hevent hchange
  have hinterfacesAgree :=
    networkInterfaces_agree_iff hdevices hlinks hpoll hpoll' hcoherent hsame hevent
  constructor
  · intro hagree device
    constructor
    · exact hlinksAgree.mp hagree.networkLinks device
    · exact hinterfacesAgree.mp hagree.networkInterfaces device
  · intro hfollow
    constructor
    · exact hlinksAgree.mpr fun device => (hfollow device).networkLinks
    · exact hinterfacesAgree.mpr fun device => (hfollow device).networkInterfaces

end Follow

end RustyRouter
