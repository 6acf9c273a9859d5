/-
# Independent events commute

Two events about different device indices and, when both are about links, about
different device names may be handled in either order: the tables say the same
afterwards (`events_commute`).  An edit of an interface stays under its index or
takes the index away, so the other event is not about what it leaves; and what
two link events leave and replace shares no key, since no two devices have one
name.
-/
import RustyRouter.EventEntries
import RustyRouter.PollReference

namespace RustyRouter

open KeyedStore InterfaceManagerWorker InterfaceManagerNetlinkSocketListener

namespace KernelEvent

/-- Two events are about different indices and, when both are about links, different devices. -/
def Independent (kernelEvent kernelEvent' : KernelEvent) : Prop :=
  kernelEvent.index ≠ kernelEvent'.index ∧
    ∀ device ∈ kernelEvent.device, ∀ device' ∈ kernelEvent'.device, device ≠ device'

theorem Independent.symm {kernelEvent kernelEvent' : KernelEvent}
    (h : kernelEvent.Independent kernelEvent') : kernelEvent'.Independent kernelEvent :=
  ⟨h.1.symm, fun device hdevice device' hdevice' => (h.2 device' hdevice' device hdevice).symm⟩

/-! ## Interfaces -/

/-- An interface that an event changes keeps its index or has none. -/
theorem id_of_change {kernelEvent : KernelEvent}
    {e e' : CanonicalNetworkId × NetworkInterfaceStatus} (hindex : e.1.id = some kernelEvent.index)
    (h : kernelEvent.change e = some e') :
    e'.1.id = some kernelEvent.index ∨ e'.1.id = none := by
  cases kernelEvent with
  | newLink index link =>
    cases h
    exact Or.inl rfl
  | delLink index link =>
    rw [change] at h
    split_ifs at h
    cases h
    exact Or.inr rfl
  | newAddress index address =>
    cases h
    exact Or.inl hindex
  | delAddress index address =>
    cases h
    exact Or.inl hindex

/-- The entry that one event is about is none of the other's, before and after. -/
theorem bind_edit_of_concerns {kernelEvent kernelEvent' : KernelEvent}
    (hindex : kernelEvent.index ≠ kernelEvent'.index)
    {e : CanonicalNetworkId × NetworkInterfaceStatus} (h : kernelEvent.Concerns e) :
    (kernelEvent.edit e).bind kernelEvent'.edit = (kernelEvent'.edit e).bind kernelEvent.edit := by
  have hbefore : ¬ kernelEvent'.Concerns e := by
    rintro ⟨hindex', -⟩
    exact hindex (Option.some.inj (h.1.symm.trans hindex'))
  -- an event keeps the index of an entry or removes it, and never gives it another
  have hafter : ∀ e', kernelEvent.change e = some e' → ¬ kernelEvent'.Concerns e' := by
    rintro e' hchange ⟨hindex', -⟩
    rcases id_of_change h.1 hchange with hsame | hnone
    · exact hindex (Option.some.inj (hsame.symm.trans hindex'))
    · rw [hnone] at hindex'
      cases hindex'
  rw [edit_of_not_concerns hbefore, Option.bind_some, edit_of_concerns h]
  cases hchange : kernelEvent.change e with
  | none => rfl
  | some e' => exact edit_of_not_concerns (hafter e' hchange)

/-- Edits under different indices commute. -/
theorem bind_edit_comm {kernelEvent kernelEvent' : KernelEvent}
    (hindex : kernelEvent.index ≠ kernelEvent'.index)
    (e : CanonicalNetworkId × NetworkInterfaceStatus) :
    (kernelEvent.edit e).bind kernelEvent'.edit = (kernelEvent'.edit e).bind kernelEvent.edit := by
  by_cases h : kernelEvent.Concerns e
  · exact bind_edit_of_concerns hindex h
  · by_cases h' : kernelEvent'.Concerns e
    · exact (bind_edit_of_concerns hindex.symm h').symm
    · rw [edit_of_not_concerns h, edit_of_not_concerns h', Option.bind_some, Option.bind_some,
        edit_of_not_concerns h, edit_of_not_concerns h']

end KernelEvent

/-! ## Links -/

namespace LinkChange

/-- Changes under ids that share no key commute. -/
theorem entries_comm {change change' : LinkChange}
    (h : ¬ Clash CanonicalNetworkId.keys change.id change'.id)
    (es : Set (CanonicalNetworkId × NetworkLinkStatus)) :
    change'.entries (change.entries es) = change.entries (change'.entries es) := by
  have hswap : ∀ {c c' : LinkChange}, ¬ Clash CanonicalNetworkId.keys c.id c'.id →
      c'.entries (c.entries es) ⊆ c.entries (c'.entries es) := by
    intro c c' hfree e he
    -- an entry is left by the later change, by the earlier one, or was there before both
    rcases he with hleft | ⟨hleft | ⟨he, hkept⟩, hkept'⟩
    · refine Or.inr ⟨Or.inl hleft, ?_⟩
      rw [id_of_entry hleft]
      exact fun hclash => hfree hclash.symm
    · exact Or.inl hleft
    · exact Or.inr ⟨Or.inr ⟨he, hkept'⟩, hkept⟩
  exact (hswap h).antisymm (hswap fun hclash => h hclash.symm)

/-- The ids of changes to different devices share no key, if they share no index. -/
theorem not_clash_of_device {config : Router} {event event' : Event} {change change' : LinkChange}
    (h : ofEvent config event = some change) (h' : ofEvent config event' = some change')
    (hdevice : change.link.device ≠ change'.link.device)
    (hindex : ∀ index, change.index = some index → change'.index ≠ some index) :
    ¬ Clash CanonicalNetworkId.keys change.id change'.id := by
  rintro ⟨key, hkey, hkey'⟩
  cases key with
  | name name =>
    rw [CanonicalNetworkId.name_mem_keys, id, (name_of_ofEvent h).1] at hkey
    rw [CanonicalNetworkId.name_mem_keys, id, (name_of_ofEvent h').1] at hkey'
    exact hdevice (NetlinkMessageProcessor.deviceLinks_injective hkey hkey')
  | device device =>
    rw [CanonicalNetworkId.device_mem_keys] at hkey hkey'
    exact hdevice (Option.some.inj (hkey.trans hkey'.symm))
  | index index =>
    rw [CanonicalNetworkId.index_mem_keys] at hkey hkey'
    exact hindex index hkey hkey'

end LinkChange

/-! ## Both tables -/

section Commute

variable {config : Router} {db : InterfaceManagerDatabase} (h : ManagerInvariant config db)
  {first second first' second' : Event} (hfirst : first'.message = first.message)
  (hsecond : second'.message = second.message)
  (hindependent : ∀ kernelEvent kernelEvent',
    KernelEvent.ofMessage config first.message = some kernelEvent →
    KernelEvent.ofMessage config second.message = some kernelEvent' →
      kernelEvent.Independent kernelEvent')
include h hfirst hsecond hindependent

theorem entries_networkInterfaces_comm :
    entries (messageReceived (.new config) second
        (messageReceived (.new config) first db).1).1.networkInterfaces.content =
      entries (messageReceived (.new config) first'
        (messageReceived (.new config) second' db).1).1.networkInterfaces.content := by
  rw [KernelEvent.entries_networkInterfaces_messageReceived (h.event first),
    KernelEvent.entries_networkInterfaces_messageReceived h,
    KernelEvent.entries_networkInterfaces_messageReceived (h.event second'),
    KernelEvent.entries_networkInterfaces_messageReceived h, hfirst, hsecond]
  cases hread : KernelEvent.ofMessage config first.message with
  | none => rfl
  | some kernelEvent =>
    cases hread' : KernelEvent.ofMessage config second.message with
    | none => rfl
    | some kernelEvent' =>
      have hindex := (hindependent kernelEvent kernelEvent' hread hread').1
      exact edited_comm (KernelEvent.bind_edit_comm hindex) _

theorem entries_networkLinks_comm :
    entries (messageReceived (.new config) second
        (messageReceived (.new config) first db).1).1.networkLinks.content =
      entries (messageReceived (.new config) first'
        (messageReceived (.new config) second' db).1).1.networkLinks.content := by
  have hfirst' : LinkChange.ofEvent config first' = LinkChange.ofEvent config first := by
    rw [KernelEvent.ofEvent_eq, KernelEvent.ofEvent_eq, hfirst]
  have hsecond' : LinkChange.ofEvent config second' = LinkChange.ofEvent config second := by
    rw [KernelEvent.ofEvent_eq, KernelEvent.ofEvent_eq, hsecond]
  rw [entries_networkLinks_messageReceived (h.event first).coherent,
    entries_networkLinks_messageReceived h.coherent,
    entries_networkLinks_messageReceived (h.event second').coherent,
    entries_networkLinks_messageReceived h.coherent, hfirst', hsecond']
  cases hchange : LinkChange.ofEvent config first with
  | none => rfl
  | some change =>
    cases hchange' : LinkChange.ofEvent config second with
    | none => rfl
    | some change' =>
      -- changes of different devices under different indices touch different items
      apply LinkChange.entries_comm
      obtain ⟨kernelEvent, hread, hlink⟩ := Option.bind_eq_some_iff.mp
        ((KernelEvent.ofEvent_eq config first).symm.trans hchange)
      obtain ⟨kernelEvent', hread', hlink'⟩ := Option.bind_eq_some_iff.mp
        ((KernelEvent.ofEvent_eq config second).symm.trans hchange')
      obtain ⟨hindex, hdevice⟩ := hindependent kernelEvent kernelEvent' hread hread'
      refine LinkChange.not_clash_of_device hchange hchange' ?_ ?_
      · exact hdevice _ (KernelEvent.device_of_linkChange hlink) _
          (KernelEvent.device_of_linkChange hlink')
      · intro index hi hi'
        exact hindex ((KernelEvent.index_of_linkChange hlink hi).symm.trans
          (KernelEvent.index_of_linkChange hlink' hi'))

end Commute

/-- **Independent events commute.**  From any database that a run reaches, two events about different
device indices and, when both are about links, different devices leave the same ids and statuses in
either order, whatever the clock says in the two orders. -/
theorem events_commute (config : Router) (steps : List ManagerStep)
    {first second first' second' : Event} (hfirst : first'.message = first.message)
    (hsecond : second'.message = second.message)
    (hindependent : ∀ kernelEvent kernelEvent',
      KernelEvent.ofMessage config first.message = some kernelEvent →
      KernelEvent.ofMessage config second.message = some kernelEvent' →
        kernelEvent.Independent kernelEvent') :
    SameEntries (InterfaceManager.run config (steps ++ [.event first, .event second]))
      (InterfaceManager.run config (steps ++ [.event second', .event first'])) := by
  have hrun : ∀ e e' : Event,
      InterfaceManager.run config (steps ++ [.event e, .event e']) =
        (messageReceived (.new config) e'
          (messageReceived (.new config) e (InterfaceManager.run config steps)).1).1 := by
    intro e e'
    rw [InterfaceManager.run, List.foldl_append]
    rfl
  have hinvariant := ManagerInvariant.run config steps
  rw [hrun, hrun]
  constructor
  · exact entries_networkLinks_comm hinvariant hfirst hsecond hindependent
  · exact entries_networkInterfaces_comm hinvariant hfirst hsecond hindependent

/-- A device comes up at one index while another is removed from a second one. -/
theorem events_commute_wan :
    SameEntries
      (InterfaceManager.run wanConfig [.poll (pollAt 0 [newLinkMessage 3 "eth1" .up] []),
        .event ⟨newLinkMessage 2 "eth0" .up, 1, 1⟩, .event ⟨delLinkMessage 3 "eth1", 2, 2⟩])
      (InterfaceManager.run wanConfig [.poll (pollAt 0 [newLinkMessage 3 "eth1" .up] []),
        .event ⟨delLinkMessage 3 "eth1", 1, 1⟩, .event ⟨newLinkMessage 2 "eth0" .up, 2, 2⟩]) := by
  refine events_commute wanConfig [.poll (pollAt 0 [newLinkMessage 3 "eth1" .up] [])] rfl rfl ?_
  have hfirst : KernelEvent.ofMessage wanConfig (newLinkMessage 2 "eth0" .up) =
      some (.newLink 2 ⟨some "wan", "eth0", .up⟩) := by decide +kernel
  have hsecond : KernelEvent.ofMessage wanConfig (delLinkMessage 3 "eth1") =
      some (.delLink 3 ⟨none, "eth1", .down⟩) := by decide +kernel
  intro kernelEvent kernelEvent' hread hread'
  obtain rfl := Option.some.inj (hfirst.symm.trans hread)
  obtain rfl := Option.some.inj (hsecond.symm.trans hread')
  refine ⟨by decide, ?_⟩
  rintro device ⟨⟩ device' ⟨⟩
  decide

end RustyRouter
