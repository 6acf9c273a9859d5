/-
# Polls and newer events

A poll commits dumps that it fetched some time before, and events may be handled
in between.  The hold rule is there so that the poll does not undo them, but it
looks for an old item of exactly the id that the dump gives a link.  An event
that adds a device, removes it or changes its index makes another id, and then
the older dump wins (`not_tryPoll_keeps`).

So what the last event about a device left is kept exactly when the dump says
the same, or when the device had its index already and no event took it since
(`tryPoll_keeps_iff`).
-/
import RustyRouter.AntiEntropy
import RustyRouter.LinkEvents

namespace RustyRouter

open KeyedStore HashMap

/-! ## What is kept -/

/-- The links of a listing are as a change left them: an added device is listed with its status
only, and a removed one is not listed or not found. -/
def LinkChange.Kept (listed : List NetworkLinkStatus) : LinkChange → Prop
  | added _ link => link ∈ listed ∧ ∀ status ∈ listed, status.device = link.device → status = link
  | removed link =>
    ∀ status ∈ listed, status.device = link.device → status.operationalState = .notFound

/-- A dump does not contradict a change.  Of an added device it says the same, or it has it under
its index, which no later event gave to another device; of a removed one it says nothing. -/
def LinkChange.Agrees (config : Router) (reported : List (UInt64 × NetworkLinkStatus))
    (after : List Event) : LinkChange → Prop
  | added index link =>
    (∃ r ∈ reported, r.2 = link) ∨
      (∃ r ∈ reported, r.1 = index ∧ r.2.device = link.device) ∧
        ∀ event ∈ after, ¬ TakesIndex config index event
  | removed link => ∀ r ∈ reported, r.2.device ≠ link.device

namespace InterfaceManagerWorker

/-- Events are handled after the fetch of a poll, whose commit follows the fetch within the hold
period. -/
structure HandledBetween (fetched committed : Instant) (input : PollInput) (events : List Event) :
    Prop where
  handled : ∀ event ∈ events, fetched ≤ event.linkNow
  polled : ∀ id, input.linkNow id ≤ committed
  short : committed < fetched + entropyHoldPeriod

/-- What an event made in between is not replaced. -/
theorem HandledBetween.not_replaces {fetched committed : Instant} {input : PollInput}
    {events : List Event} (h : HandledBetween fetched committed input events) {event : Event}
    (hevent : event ∈ events) {item : LinkItem} (hitem : item.refreshed = event.linkNow)
    (id : CanonicalNetworkId) (status : NetworkLinkStatus) :
    replaces item ⟨id, status, input.linkNow id⟩ = false := by
  have hheld : ¬ item.refreshed + entropyHoldPeriod < input.linkNow id := by
    rw [hitem, not_lt]
    calc input.linkNow id ≤ committed := h.polled id
      _ ≤ fetched + entropyHoldPeriod := le_of_lt h.short
      _ ≤ event.linkNow + entropyHoldPeriod := Nat.add_le_add_right (h.handled event hevent) _
  rw [replaces, decide_eq_false hheld, Bool.false_and]

/-! ## The link of a device after a poll -/

section Listed

variable {config : Router} {linkData : List NetlinkMessage} {now : CanonicalNetworkId → Instant}
  {old content : List LinkItem}

variable (hdevices : config.DistinctDevices)
  (hpolled : Polled (ViewLink config (reportedLinks config linkData)) now old content)
  (hold : ∀ item ∈ old, LinkInvariant config item)
include hdevices hpolled hold

/-- The items of a device after a poll. -/
theorem Polled.mem_of_device {device : String} {item : LinkItem} :
    item ∈ content ∧ item.status.device = device ↔
      ∃ id status, ViewLink config (reportedLinks config linkData) id status ∧
        status.device = device ∧ item = heldItem old (id, ⟨id, status, now id⟩) := by
  rw [hpolled.mem_iff]
  constructor
  · rintro ⟨⟨id, status, hview, rfl⟩, rfl⟩
    exact ⟨id, status, hview, (device_heldItem hold (hview.device_eq hdevices).1 _).symm, rfl⟩
  · rintro ⟨id, status, hview, rfl, rfl⟩
    exact ⟨⟨id, status, hview, rfl⟩, device_heldItem hold (hview.device_eq hdevices).1 _⟩

/-- A reported device has the one item that is held for it. -/
theorem Polled.mem_of_reported (hreports : DistinctReports (reportedLinks config linkData))
    {r : UInt64 × NetworkLinkStatus} (hr : r ∈ reportedLinks config linkData) {item : LinkItem} :
    item ∈ content ∧ item.status.device = r.2.device ↔
      item = heldItem old (reportedId r.1 r.2, reportedItem now r) := by
  rw [hpolled.mem_of_device hdevices hold]
  constructor
  · rintro ⟨id, status, hview, hdevice, rfl⟩
    obtain rfl := hview.eq_of_device hdevices hreports (.reported hr) hdevice
    obtain rfl := hview.status_eq hreports (.reported hr)
    rfl
  · rintro rfl
    exact ⟨_, _, .reported hr, rfl, rfl⟩

omit hdevices hpolled in
/-- The reported link stays when no old item of its device has its index. -/
theorem heldItem_of_index {r : UInt64 × NetworkLinkStatus}
    (h : ∀ item ∈ old, item.status.device = r.2.device → item.id.id ≠ some r.1) (new : LinkItem) :
    heldItem old (reportedId r.1 r.2, new) = new := by
  apply held_of_absent
  intro item hitem hid
  have hdevice := (hold item hitem).device_eq
  rw [hid, reportedId, Option.some.injEq] at hdevice
  exact h item hitem hdevice.symm (by rw [hid, reportedId])

omit hdevices hpolled in
/-- The status that is held for a reported device that an event added. -/
theorem status_heldItem_of_added {index : UInt64} {link : NetworkLinkStatus}
    (hlink : link.name = (NetlinkMessageProcessor.new config).deviceLinks.lookup link.device)
    {item : LinkItem} (hid : item.id = reportedId index link) (hstatus : item.status = link)
    (hkeep : ∀ id status, replaces item ⟨id, status, now id⟩ = false)
    (hseparated : Separated CanonicalNetworkId.keys NetworkStatusItem.id old) {taken : Prop}
    (hstored : ∀ other : LinkItem, other.status.device = link.device →
      (other ∈ old ↔ item = other ∧ ¬ taken))
    {r : UInt64 × NetworkLinkStatus} (hr : r ∈ reportedLinks config linkData)
    (hdevice : r.2.device = link.device) :
    (heldItem old (reportedId r.1 r.2, reportedItem now r)).status = link ↔
      r.2 = link ∨ r.1 = index ∧ ¬ taken := by
  have hname : r.2.name = link.name := by rw [name_of_mem_reportedLinks hr, hlink, hdevice]
  by_cases hsame : r.1 = index ∧ ¬ taken
  · -- the item of the event is stored under the reported id
    have hmem : item ∈ old := (hstored item (by rw [hstatus])).mpr ⟨rfl, hsame.2⟩
    have hheld : heldItem old (reportedId r.1 r.2, reportedItem now r) = item :=
      hseparated.held_of_mem (by simp [CanonicalNetworkId.keys, reportedId]) hmem
        (by rw [hid, reportedId, reportedId, hname, hdevice, hsame.1]) (hkeep _ _)
    rw [hheld]
    exact ⟨fun _ => Or.inr hsame, fun _ => hstatus⟩
  · have hheld := heldItem_of_index hold
      (fun other hother hotherDevice hindex => by
        obtain ⟨rfl, htaken⟩ := (hstored other (hotherDevice.trans hdevice)).mp hother
        rw [hid, reportedId, Option.some.injEq] at hindex
        exact hsame ⟨hindex.symm, htaken⟩)
      (reportedItem now r)
    rw [hheld]
    exact ⟨Or.inl, fun h => h.resolve_right hsame⟩

/-- What is listed for a device that is not reported: it is configured, and it is not found unless
an old item says otherwise. -/
theorem Polled.notFound_of_unreported {item : LinkItem} (hitem : item ∈ content)
    (hunreported : ∀ r ∈ reportedLinks config linkData, r.2.device ≠ item.status.device) :
    item.id.id = none ∧ (item.status.operationalState = .notFound ∨ item ∈ old) := by
  obtain ⟨id, status, hview, hdevice, rfl⟩ :=
    (hpolled.mem_of_device hdevices hold).mp ⟨hitem, rfl⟩
  cases hview with
  | reported hr => exact absurd hdevice (hunreported _ hr)
  | missing hlink _ =>
    refine ⟨by rw [id_heldItem], ?_⟩
    rcases heldItem_eq_or_mem old _ with heq | ⟨hmem, -⟩
    · rw [heq]
      exact Or.inl rfl
    · exact Or.inr hmem

end Listed

section Changes

variable {config : Router} {linkData : List NetlinkMessage} {now : CanonicalNetworkId → Instant}
  {old content : List LinkItem} (hdevices : config.DistinctDevices)
  (hreports : DistinctReports (reportedLinks config linkData))
  (hpolled : Polled (ViewLink config (reportedLinks config linkData)) now old content)
  (hold : ∀ item ∈ old, LinkInvariant config item)
include hdevices hreports hpolled hold

/-- A removed device stays as it is exactly when the dump does not report it. -/
theorem Polled.kept_removed_iff {link : NetworkLinkStatus}
    (hstored : ∀ item ∈ old, item.status.device = link.device →
      item.id.id = none ∧ item.status.operationalState = .notFound) (after : List Event) :
    (LinkChange.removed link).Kept (content.map NetworkStatusItem.status) ↔
      (LinkChange.removed link).Agrees config (reportedLinks config linkData) after := by
  constructor
  · intro hkept r hr hdevice
    -- the old item has no index, so the reported link takes its place
    have hheld := heldItem_of_index hold
      (fun item hitem hitemDevice hindex => by
        rw [(hstored item hitem (hitemDevice.trans hdevice)).1] at hindex
        cases hindex)
      (reportedItem now r)
    have hlisted := ((hpolled.mem_of_reported hdevices hold hreports hr).mpr rfl).1
    rw [hheld] at hlisted
    have hnotFound : r.2.operationalState = .notFound :=
      hkept r.2 (List.mem_map.mpr ⟨_, hlisted, rfl⟩) hdevice
    have hreported := reported_of_mem_reportedLinks hr
    rw [hnotFound] at hreported
    cases hreported
  · intro hunreported status hstatus hdevice
    obtain ⟨item, hitem, rfl⟩ := List.mem_map.mp hstatus
    obtain ⟨-, hfound | hmem⟩ := hpolled.notFound_of_unreported hdevices hold hitem (by rwa [hdevice])
    · exact hfound
    · exact (hstored item hmem hdevice).2

/-- An added device stays as it is exactly when the dump agrees. -/
theorem Polled.kept_added_iff {index : UInt64} {link : NetworkLinkStatus}
    (hlink : link.name = (NetlinkMessageProcessor.new config).deviceLinks.lookup link.device)
    (hreported : link.operationalState.reported) (item : LinkItem)
    (hid : item.id = reportedId index link) (hstatus : item.status = link)
    (hkeep : ∀ id status, replaces item ⟨id, status, now id⟩ = false)
    (hseparated : Separated CanonicalNetworkId.keys NetworkStatusItem.id old)
    {after : List Event}
    (hstored : ∀ other : LinkItem, other.status.device = link.device → (other ∈ old ↔
      item = other ∧ ¬ ∃ event ∈ after, TakesIndex config index event)) :
    (LinkChange.added index link).Kept (content.map NetworkStatusItem.status) ↔
      (LinkChange.added index link).Agrees config (reportedLinks config linkData) after := by
  by_cases hdump : ∃ r ∈ reportedLinks config linkData, r.2.device = link.device
  · obtain ⟨r, hr, hdevice⟩ := hdump
    have hheld := status_heldItem_of_added hold hlink hid hstatus hkeep hseparated hstored hr hdevice
    -- the poll leaves one item on the device
    have hmem : ∀ other : LinkItem, other ∈ content ∧ other.status.device = link.device ↔
        other = heldItem old (reportedId r.1 r.2, reportedItem now r) := by
      intro other
      rw [← hdevice]
      exact hpolled.mem_of_reported hdevices hold hreports hr
    constructor
    · rintro ⟨hlisted, -⟩
      obtain ⟨other, hother, hotherStatus⟩ := List.mem_map.mp hlisted
      rw [(hmem other).mp ⟨hother, by rw [hotherStatus]⟩] at hotherStatus
      rcases hheld.mp hotherStatus with hsame | ⟨hindex, htaken⟩
      · exact Or.inl ⟨r, hr, hsame⟩
      · exact Or.inr ⟨⟨r, hr, hindex, hdevice⟩, by simpa using htaken⟩
    · intro hagrees
      have hlisted := ((hmem _).mpr rfl).1
      have hsame : (heldItem old (reportedId r.1 r.2, reportedItem now r)).status = link := by
        rw [hheld]
        rcases hagrees with ⟨r', hr', rfl⟩ | ⟨⟨r', hr', rfl, hdevice'⟩, htaken⟩
        · exact Or.inl (congrArg Prod.snd (hreports.eq_of_device hr hr' hdevice))
        · refine Or.inr ⟨?_, by simpa using htaken⟩
          exact congrArg Prod.fst (hreports.eq_of_device hr hr' (hdevice.trans hdevice'.symm))
      refine ⟨List.mem_map.mpr ⟨_, hlisted, hsame⟩, fun status hstatus' hdevice' => ?_⟩
      obtain ⟨other, hother, rfl⟩ := List.mem_map.mp hstatus'
      rw [(hmem other).mp ⟨hother, hdevice'⟩]
      exact hsame
  · -- the device is not reported, so it is not listed as the kernel would have it
    constructor
    · rintro ⟨hlisted, -⟩
      obtain ⟨other, hother, hotherStatus⟩ := List.mem_map.mp hlisted
      have hdevice : other.status.device = link.device := by rw [hotherStatus]
      obtain ⟨hindex, hfound | hmem⟩ := hpolled.notFound_of_unreported hdevices hold hother
        fun r hr hr' => hdump ⟨r, hr, hr'.trans hdevice⟩
      · rw [hotherStatus] at hfound
        rw [hfound] at hreported
        cases hreported
      · rw [← ((hstored other hdevice).mp hmem).1, hid] at hindex
        cases hindex
    · intro hagrees
      rcases hagrees with ⟨r, hr, rfl⟩ | ⟨⟨r, hr, -, hdevice⟩, -⟩
      · exact absurd ⟨r, hr, rfl⟩ hdump
      · exact absurd ⟨r, hr, hdevice⟩ hdump

end Changes

/-! ## Every interleaving -/

/-- What is kept depends on what is listed only. -/
theorem kept_congr {change : LinkChange} {listed listed' : List NetworkLinkStatus}
    (h : listed.Perm listed') : change.Kept listed ↔ change.Kept listed' := by
  cases change with
  | added index link => simp only [LinkChange.Kept, h.mem_iff]
  | removed link => simp only [LinkChange.Kept, h.mem_iff]

/-- **What a poll does to the last event about a device** that is handled between its fetch and its
commit: what the event left is kept if and only if the dump agrees. -/
theorem tryPoll_keeps_iff {config : Router} (hdevices : config.DistinctDevices)
    (steps : List ManagerStep) {before after : List Event} {event : Event} {change : LinkChange}
    (hchange : LinkChange.ofEvent config event = some change)
    (hlast : LastChange config change after) {input : PollInput}
    {linkData networkData : List NetlinkMessage} (hlinkData : input.linkData = .ok linkData)
    (hnetworkData : input.networkData = .ok networkData)
    (hreports : DistinctReports (reportedLinks config linkData)) {fetched committed : Instant}
    (hbetween : HandledBetween fetched committed input (before ++ event :: after))
    (order : Shuffle (ℕ × LinkItem)) :
    ∃ db updates, tryPoll config input (InterfaceManager.run config
        (steps ++ (before ++ event :: after).map .event)) = .ok (db, updates) ∧
      (change.Kept (db.listLinkStatus order) ↔
        change.Agrees config (reportedLinks config linkData) after) := by
  have hsplit : steps ++ (before ++ event :: after).map .event =
      (steps ++ before.map .event) ++ .event event :: after.map .event := by simp
  rw [hsplit]
  have hinvariant := ManagerInvariant.run config
    ((steps ++ before.map .event) ++ .event event :: after.map .event)
  have hpolled :=
    (reconciles_networkLinks hdevices hreports hinvariant.coherent input networkData).polled
  have hstored := fun (item : LinkItem) (hdevice : item.status.device = change.link.device) =>
    mem_run_of_lastChange hdevices (steps ++ before.map .event) hchange hlast hdevice
  obtain ⟨hname, hreported⟩ := LinkChange.name_of_ofEvent hchange
  -- an item of this event is newer than the view of the poll
  have hkeep : ∀ item : LinkItem, item.refreshed = event.linkNow → ∀ id status,
      replaces item ⟨id, status, input.linkNow id⟩ = false :=
    fun item hitem => hbetween.not_replaces (by simp) hitem
  refine ⟨_, _, tryPoll_of_ok hlinkData hnetworkData, ?_⟩
  refine (kept_congr (StatusTable.listStatus_perm _ _ _)).trans ?_
  -- a removed device is kept as missing, an added one as it was announced
  cases change with
  | removed link =>
    refine hpolled.kept_removed_iff hdevices hreports hinvariant.links (fun item hitem hdevice => ?_) after
    exact LinkChange.notFound_of_leaves ((hstored item hdevice).mp hitem).1
  | added index link =>
    refine hpolled.kept_added_iff hdevices hreports hinvariant.links hname hreported
      ⟨reportedId index link, link, event.linkNow⟩ rfl rfl (hkeep _ rfl)
      hinvariant.coherent.networkLinks.separated ?_
    intro other hdevice
    rw [hstored other hdevice, LinkChange.leaves, Option.some.injEq]
    refine and_congr_right fun heq => ?_
    rw [← heq]
    simp [LinkChange.id, LinkChange.index]

/-- An event that takes the device down between the two is kept. -/
theorem tryPoll_keeps_down :
    ∃ db updates, tryPoll wanConfig (pollAt 2 [newLinkMessage 2 "eth0" .up] [])
        (InterfaceManager.run wanConfig [.event ⟨newLinkMessage 2 "eth0" .down, 1, 1⟩]) =
          .ok (db, updates) ∧
      (LinkChange.added 2 ⟨some "wan", "eth0", .down⟩).Kept (db.listLinkStatus (Shuffle.id _)) := by
  have hdevices : wanConfig.DistinctDevices := by decide
  have hchange : LinkChange.ofEvent wanConfig ⟨newLinkMessage 2 "eth0" .down, 1, 1⟩ =
      some (.added 2 ⟨some "wan", "eth0", .down⟩) := by decide +kernel
  have hlast : LastChange wanConfig (.added 2 ⟨some "wan", "eth0", .down⟩) [] :=
    fun _ h => absurd h List.not_mem_nil
  have hbetween : HandledBetween 0 2 (pollAt 2 [newLinkMessage 2 "eth0" .up] [])
      ([] ++ ⟨newLinkMessage 2 "eth0" .down, 1, 1⟩ :: []) :=
    ⟨fun _ _ => Nat.zero_le _, fun _ => le_refl _, by norm_num [entropyHoldPeriod]⟩
  obtain ⟨db, updates, hpoll, hkept⟩ := tryPoll_keeps_iff hdevices [] hchange hlast rfl rfl
    distinctReports_wan hbetween (Shuffle.id _)
  refine ⟨db, updates, hpoll, hkept.mpr (Or.inr ⟨?_, fun _ h => absurd h List.not_mem_nil⟩)⟩
  exact ⟨(2, ⟨some "wan", "eth0", .up⟩), by decide +kernel, rfl, rfl⟩

/-- A device that is added between the fetch and the commit is lost again. -/
theorem not_tryPoll_keeps :
    ¬ ∀ (config : Router) (steps : List ManagerStep) (before after : List Event) (event : Event)
      (change : LinkChange) (input : PollInput) (linkData networkData : List NetlinkMessage)
      (fetched committed : Instant) (order : Shuffle (ℕ × LinkItem))
      (db : InterfaceManagerDatabase) (updates : List NetworkStatusUpdate),
      config.DistinctDevices → LinkChange.ofEvent config event = some change →
      LastChange config change after → input.linkData = .ok linkData →
      input.networkData = .ok networkData → DistinctReports (reportedLinks config linkData) →
      HandledBetween fetched committed input (before ++ event :: after) →
      tryPoll config input (InterfaceManager.run config
        (steps ++ (before ++ event :: after).map .event)) = .ok (db, updates) →
      change.Kept (db.listLinkStatus order) := by
  intro h
  have hdevices : wanConfig.DistinctDevices := by decide
  have hchange : LinkChange.ofEvent wanConfig ⟨newLinkMessage 2 "eth0" .up, 1, 1⟩ =
      some (.added 2 ⟨some "wan", "eth0", .up⟩) := by decide +kernel
  have hbetween : HandledBetween 0 2 (pollAt 2 [] [])
      ([] ++ ⟨newLinkMessage 2 "eth0" .up, 1, 1⟩ :: []) :=
    ⟨fun _ _ => Nat.zero_le _, fun _ => le_refl _, by norm_num [entropyHoldPeriod]⟩
  have hkept := h wanConfig [] [] [] _ _ _ [] [] 0 2 (Shuffle.id _) _ _ hdevices hchange
    (fun _ h => absurd h List.not_mem_nil) rfl rfl ⟨by decide, by decide⟩ hbetween
    (tryPoll_of_ok rfl rfl)
  have hlisted := hkept.1
  revert hlisted
  decide +kernel

end InterfaceManagerWorker

end RustyRouter
