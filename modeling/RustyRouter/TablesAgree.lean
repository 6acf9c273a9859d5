/-
# The two copies of a link status

The status of a link is stored in the link table and again with each interface on
the link, and a poll applies its hold rule to each copy by itself.  An address
event refreshes the copy of the interface alone.  So the copies agree after a
poll exactly when the hold rule keeps a link status that the dump contradicts in
both tables or in neither (`tablesAgree_iff`).
-/
import RustyRouter.AntiEntropy

namespace RustyRouter

open KeyedStore HashMap

namespace InterfaceManagerWorker

/-! ## One copy -/

section Kept

variable {T : Type} {old : List (NetworkStatusItem T)} {id : CanonicalNetworkId} {now : Instant}

/-- The hold rule keeps a status under an id, whatever the dump says. -/
def Kept (old : List (NetworkStatusItem T)) (id : CanonicalNetworkId) (now : Instant) (status : T) :
    Prop :=
  ∃ item ∈ old, item.id = id ∧ now ≤ item.refreshed + entropyHoldPeriod ∧ item.status = status

variable (hold : Separated CanonicalNetworkId.keys NetworkStatusItem.id old) (hkeys : id.keys ≠ [])
include hold hkeys

theorem Kept.eq {status status' : T} (h : Kept old id now status) (h' : Kept old id now status') :
    status = status' := by
  obtain ⟨item, hitem, hid, -, rfl⟩ := h
  obtain ⟨item', hitem', hid', -, rfl⟩ := h'
  have hclash : Clash CanonicalNetworkId.keys item.id item'.id := by
    rw [hid, hid']
    exact clash_self hkeys
  rw [hold.eq_of_clash hitem hitem' hclash]

/-- A poll leaves the status that the hold rule keeps or, where it keeps none, that of the dump. -/
theorem status_heldItem_cases [DecidableEq T] (now : Instant) (status : T) :
    Kept old id now (heldItem old (id, ⟨id, status, now⟩)).status ∨
      (∀ kept, ¬ Kept old id now kept) ∧ (heldItem old (id, ⟨id, status, now⟩)).status = status := by
  -- the hold rule may also keep an older item, but only one that says the same
  by_cases hkept : ∃ item ∈ old, item.id = id ∧ now ≤ item.refreshed + entropyHoldPeriod
  · obtain ⟨item, hitem, hid, hyoung⟩ := hkept
    left
    have hkeep : replaces item ⟨id, status, now⟩ = false := by
      have hlate : ¬ item.refreshed + entropyHoldPeriod < now := not_lt.mpr hyoung
      rw [replaces, decide_eq_false hlate, Bool.false_and]
    have hheld : heldItem old (id, ⟨id, status, now⟩) = item :=
      hold.held_of_mem hkeys hitem hid hkeep
    rw [hheld]
    exact ⟨item, hitem, hid, hyoung, rfl⟩
  · right
    push Not at hkept
    refine ⟨?_, status_heldItem ?_⟩
    · rintro kept ⟨item, hitem, hid, hyoung, -⟩
      exact absurd hyoung (not_le.mpr (hkept item hitem hid))
    · intro item hfind
      obtain ⟨hitem, hid⟩ := find_eq_some hfind
      exact hkept item hitem hid

end Kept

/-! ## Both copies -/

/-- Two copies, each kept by itself or taken anew, are equal if and only if what one keeps against
what is new is what the other keeps. -/
theorem eq_iff_kept {α : Type} {A B : α → Prop} (hA : ∀ x y, A x → A y → x = y)
    (hB : ∀ x y, B x → B y → x = y) {a b new : α} (ha : A a ∨ (∀ x, ¬ A x) ∧ a = new)
    (hb : B b ∨ (∀ x, ¬ B x) ∧ b = new) :
    a = b ↔ (∀ x, A x → x ≠ new → B x) ∧ ∀ x, B x → x ≠ new → A x := by
  -- both kept, one kept and the other new, or both new
  rcases ha with ha | ⟨hnoA, rfl⟩
  · rcases hb with hb | ⟨hnoB, rfl⟩
    · constructor
      · rintro rfl
        exact ⟨fun x hx _ => hA a x ha hx ▸ hb, fun x hx _ => hB a x hb hx ▸ ha⟩
      · rintro ⟨hAB, hBA⟩
        by_cases hnew : a = new
        · by_contra hne
          have hb' : b ≠ new := fun heq => hne (hnew.trans heq.symm)
          exact hne (hA a b ha (hBA b hb hb'))
        · exact hB a b (hAB a ha hnew) hb
    · constructor
      · rintro rfl
        exact ⟨fun x hx hne => absurd (hA x a hx ha) hne, fun x hx => absurd hx (hnoB x)⟩
      · rintro ⟨hAB, -⟩
        by_contra hne
        exact hnoB a (hAB a ha hne)
  · rcases hb with hb | ⟨hnoB, rfl⟩
    · constructor
      · rintro rfl
        exact ⟨fun x hx => absurd hx (hnoA x), fun x hx hne => absurd (hB x a hx hb) hne⟩
      · rintro ⟨-, hBA⟩
        by_contra hne
        exact hnoA b (hBA b hb (Ne.symm hne))
    · exact iff_of_true rfl ⟨fun x hx => absurd hx (hnoA x), fun x hx => absurd hx (hnoB x)⟩

/-- Every interface with a device index has the link status that is stored under the index. -/
def TablesAgree (db : InterfaceManagerDatabase) : Prop :=
  ∀ item ∈ db.networkInterfaces.content, ∀ index, item.id.id = some index →
    ∃ link ∈ db.networkLinks.content, link.id.id = some index ∧
      item.status.networkLinkStatus = link.status

/-- Where a table keeps the status of a reported link against the dump, so does the other. -/
structure HeldTogether (config : Router) (input : PollInput)
    (linkData networkData : List NetlinkMessage) (db : InterfaceManagerDatabase) : Prop where
  kept_of_link : ∀ index link id status, (index, link) ∈ reportedLinks config linkData →
    ViewInterface config (reportedLinks config linkData) (addressesOf networkData) id status →
    id.id = some index → ∀ kept,
      Kept db.networkLinks.content (reportedId index link) (input.linkNow (reportedId index link))
        kept → kept ≠ link →
      ∃ status, Kept db.networkInterfaces.content id (input.interfaceNow id) status ∧
        status.networkLinkStatus = kept
  kept_of_interface : ∀ index link id status, (index, link) ∈ reportedLinks config linkData →
    ViewInterface config (reportedLinks config linkData) (addressesOf networkData) id status →
    id.id = some index → ∀ kept,
      Kept db.networkInterfaces.content id (input.interfaceNow id) kept →
      kept.networkLinkStatus ≠ link →
      Kept db.networkLinks.content (reportedId index link) (input.linkNow (reportedId index link))
        kept.networkLinkStatus

/-- A listed interface with an index has the status of the reported link of the index. -/
theorem ViewInterface.status_of_index {config : Router} {linkData : List NetlinkMessage}
    (hreports : DistinctReports (reportedLinks config linkData))
    {addresses : UInt64 → List IpAddress} {id : CanonicalNetworkId} {status : NetworkInterfaceStatus}
    (h : ViewInterface config (reportedLinks config linkData) addresses id status) {index : UInt64}
    {link : NetworkLinkStatus} (hlink : (index, link) ∈ reportedLinks config linkData)
    (hindex : id.id = some index) : status.networkLinkStatus = link := by
  have hsame : ∀ {index' : UInt64} {link' : NetworkLinkStatus},
      (index', link') ∈ reportedLinks config linkData → some index' = some index → link' = link := by
    intro index' link' hlink' heq
    exact congrArg Prod.snd (hreports.eq_of_index hlink' hlink (Option.some.inj heq))
  cases h with
  | reported _ hr _ => exact hsame hr hindex
  | missing => cases hindex
  | misconfigured => cases hindex
  | unnamed hr => exact hsame hr hindex

theorem ViewLink.eq_reportedId {config : Router} {linkData : List NetlinkMessage}
    (hreports : DistinctReports (reportedLinks config linkData)) {id : CanonicalNetworkId}
    {status : NetworkLinkStatus} (h : ViewLink config (reportedLinks config linkData) id status)
    {index : UInt64} {link : NetworkLinkStatus}
    (hlink : (index, link) ∈ reportedLinks config linkData) (hindex : id.id = some index) :
    id = reportedId index link ∧ status = link := by
  cases h with
  | reported hr =>
    have heq := hreports.eq_of_index hr hlink (Option.some.inj hindex)
    rw [Prod.mk.injEq] at heq
    rw [heq.1, heq.2]
    exact ⟨rfl, rfl⟩
  | missing => cases hindex

section Agree

variable {config : Router} {linkData networkData : List NetlinkMessage}
  (hreports : DistinctReports (reportedLinks config linkData)) {input : PollInput}
  {db db' : InterfaceManagerDatabase}
  (hpolledLinks : Polled (ViewLink config (reportedLinks config linkData)) input.linkNow
    db.networkLinks.content db'.networkLinks.content)
  (hpolledInterfaces : Polled
    (ViewInterface config (reportedLinks config linkData) (addressesOf networkData))
    input.interfaceNow db.networkInterfaces.content db'.networkInterfaces.content)
include hreports hpolledLinks hpolledInterfaces

/-- The tables of a poll agree if its items do, index by index. -/
theorem tablesAgree_iff_heldItem : TablesAgree db' ↔
    ∀ index link id status, (index, link) ∈ reportedLinks config linkData →
      ViewInterface config (reportedLinks config linkData) (addressesOf networkData) id status →
      id.id = some index →
      (heldItem db.networkInterfaces.content
          (id, ⟨id, status, input.interfaceNow id⟩)).status.networkLinkStatus =
        (heldItem db.networkLinks.content (reportedId index link,
          ⟨reportedId index link, link, input.linkNow (reportedId index link)⟩)).status := by
  -- the items of both tables are those that the view holds under their ids
  constructor
  · intro hagree index link id status hlink hview hindex
    have hitem := (hpolledInterfaces.mem_iff _).mpr ⟨id, status, hview, rfl⟩
    obtain ⟨stored, hstored, hstoredIndex, heq⟩ :=
      hagree _ hitem index (by rw [id_heldItem, hindex])
    obtain ⟨id', status', hview', rfl⟩ := (hpolledLinks.mem_iff stored).mp hstored
    rw [id_heldItem] at hstoredIndex
    obtain ⟨rfl, rfl⟩ := hview'.eq_reportedId hreports hlink hstoredIndex
    exact heq
  · intro hagree item hitem index hindex
    obtain ⟨id, status, hview, rfl⟩ := (hpolledInterfaces.mem_iff item).mp hitem
    rw [id_heldItem] at hindex
    obtain ⟨link, hlink, -⟩ := hview.reported_of_index hindex
    refine ⟨_, (hpolledLinks.mem_iff _).mpr ⟨_, link, .reported hlink, rfl⟩, ?_,
      hagree index link id status hlink hview hindex⟩
    rw [id_heldItem]
    rfl

end Agree

/-- The copies of one link status agree after a poll if the hold rule kept them together. -/
theorem heldItem_agree_iff {oldLinks : List LinkItem} {oldInterfaces : List InterfaceItem}
    (hlinks : Separated CanonicalNetworkId.keys NetworkStatusItem.id oldLinks)
    (hinterfaces : Separated CanonicalNetworkId.keys NetworkStatusItem.id oldInterfaces)
    {linkId id : CanonicalNetworkId} (hlinkKeys : linkId.keys ≠ []) (hkeys : id.keys ≠ [])
    {link : NetworkLinkStatus} {status : NetworkInterfaceStatus}
    (hstatus : status.networkLinkStatus = link) (linkNow now : Instant) :
    (heldItem oldInterfaces (id, ⟨id, status, now⟩)).status.networkLinkStatus =
        (heldItem oldLinks (linkId, ⟨linkId, link, linkNow⟩)).status ↔
      (∀ kept, Kept oldInterfaces id now kept → kept.networkLinkStatus ≠ link →
        Kept oldLinks linkId linkNow kept.networkLinkStatus) ∧
      ∀ kept, Kept oldLinks linkId linkNow kept → kept ≠ link →
        ∃ status, Kept oldInterfaces id now status ∧ status.networkLinkStatus = kept := by
  -- the interface has the status of the link that is kept with it, or that of the poll
  have hcopy : (∃ kept, Kept oldInterfaces id now kept ∧ kept.networkLinkStatus =
        (heldItem oldInterfaces (id, ⟨id, status, now⟩)).status.networkLinkStatus) ∨
      (∀ copy, ¬ ∃ kept, Kept oldInterfaces id now kept ∧ kept.networkLinkStatus = copy) ∧
        (heldItem oldInterfaces (id, ⟨id, status, now⟩)).status.networkLinkStatus = link := by
    rcases status_heldItem_cases hinterfaces hkeys now status with hkept | ⟨hnone, heq⟩
    · exact Or.inl ⟨_, hkept, rfl⟩
    · refine Or.inr ⟨?_, ?_⟩
      · rintro copy ⟨kept, hkept, -⟩
        exact hnone kept hkept
      · rw [heq, hstatus]
  -- what is kept under an id is unique
  have hunique : ∀ x y : NetworkLinkStatus,
      (∃ kept, Kept oldInterfaces id now kept ∧ kept.networkLinkStatus = x) →
      (∃ kept, Kept oldInterfaces id now kept ∧ kept.networkLinkStatus = y) → x = y := by
    rintro x y ⟨kept, hkept, rfl⟩ ⟨kept', hkept', rfl⟩
    rw [hkept.eq hinterfaces hkeys hkept']
  rw [eq_iff_kept hunique (fun _ _ => Kept.eq hlinks hlinkKeys) hcopy
    (status_heldItem_cases hlinks hlinkKeys linkNow link)]
  refine and_congr_left fun _ => ⟨fun h kept hkept => h _ ⟨kept, hkept, rfl⟩, ?_⟩
  rintro h copy ⟨kept, hkept, rfl⟩ hne
  exact h kept hkept hne

/-- **When the copies agree.**  After a successful poll from any database that a run reaches, every
interface with a device index has the link status stored under the index if and only if the hold rule
kept every link status that the dump contradicts in both tables. -/
theorem tablesAgree_iff {config : Router} (hdevices : config.DistinctDevices)
    (hlinks : config.DistinctLinks) (steps : List ManagerStep) {input : PollInput}
    {linkData networkData : List NetlinkMessage} (hlinkData : input.linkData = .ok linkData)
    (hnetworkData : input.networkData = .ok networkData)
    (hreports : DistinctReports (reportedLinks config linkData)) {db : InterfaceManagerDatabase}
    {updates : List NetworkStatusUpdate}
    (hpoll : tryPoll config input (InterfaceManager.run config steps) = .ok (db, updates)) :
    TablesAgree db ↔
      HeldTogether config input linkData networkData (InterfaceManager.run config steps) := by
  have hcoherent := (ManagerInvariant.run config steps).coherent
  obtain ⟨db', updates', hpoll', hpolledLinks, hpolledInterfaces⟩ :=
    tryPoll_polled hdevices hlinks hcoherent hlinkData hnetworkData hreports
  rw [hpoll, Except.ok.injEq, Prod.mk.injEq] at hpoll'
  obtain ⟨rfl, rfl⟩ := hpoll'
  -- what has to be held together for one device and one interface on it
  have hpoint : ∀ index link id status, (index, link) ∈ reportedLinks config linkData →
      ViewInterface config (reportedLinks config linkData) (addressesOf networkData) id status →
      id.id = some index → _ := fun index link id status hlink hview hindex =>
    heldItem_agree_iff hcoherent.networkLinks.separated hcoherent.networkInterfaces.separated
      (show ViewLink config _ _ _ from .reported hlink).keys_ne_nil hview.keys_ne_nil
      (hview.status_of_index hreports hlink hindex)
      (input.linkNow (reportedId index link)) (input.interfaceNow id)
  rw [tablesAgree_iff_heldItem hreports hpolledLinks hpolledInterfaces]
  constructor
  · intro hagree
    constructor
    · intro index link id status hlink hview hindex
      exact ((hpoint index link id status hlink hview hindex).mp
        (hagree index link id status hlink hview hindex)).2
    · intro index link id status hlink hview hindex
      exact ((hpoint index link id status hlink hview hindex).mp
        (hagree index link id status hlink hview hindex)).1
  · intro htogether index link id status hlink hview hindex
    refine (hpoint index link id status hlink hview hindex).mpr ⟨?_, ?_⟩
    · exact htogether.kept_of_interface index link id status hlink hview hindex
    · exact htogether.kept_of_link index link id status hlink hview hindex

/-- A device is up at the start, gets an address at eight seconds, and is down at ten. -/
def addressedBetween : List ManagerStep :=
  [.poll (pollAt 0 [newLinkMessage 2 "eth0" .up] []),
    .event ⟨newAddressMessage 2 [10, 0, 0, 1], 8 * 10 ^ 9, 8 * 10 ^ 9⟩]

theorem distinctReports_down : DistinctReports
    (reportedLinks wanConfig [newLinkMessage 2 "eth0" .down]) :=
  ⟨by decide +kernel, by decide +kernel⟩

/-- The poll at ten seconds of a device that is down. -/
theorem tablesAgree_iff_wan :
    TablesAgree (poll wanConfig (pollAt (10 ^ 10) [newLinkMessage 2 "eth0" .down] [])
        (InterfaceManager.run wanConfig addressedBetween)) ↔
      HeldTogether wanConfig (pollAt (10 ^ 10) [newLinkMessage 2 "eth0" .down] [])
        [newLinkMessage 2 "eth0" .down] [] (InterfaceManager.run wanConfig addressedBetween) := by
  rw [poll, tryPoll_of_ok rfl rfl]
  exact tablesAgree_iff (by decide) (by decide) addressedBetween rfl rfl distinctReports_down
    (tryPoll_of_ok rfl rfl)

/-- The copies do not always agree: an address event makes the interface outlive its link status. -/
theorem not_tablesAgree :
    ¬ ∀ (config : Router) (steps : List ManagerStep) (input : PollInput)
      (linkData networkData : List NetlinkMessage) (db : InterfaceManagerDatabase)
      (updates : List NetworkStatusUpdate), config.DistinctDevices → config.DistinctLinks →
      input.linkData = .ok linkData → input.networkData = .ok networkData →
      DistinctReports (reportedLinks config linkData) →
      tryPoll config input (InterfaceManager.run config steps) = .ok (db, updates) →
      TablesAgree db := by
  intro h
  have hagree := h wanConfig addressedBetween
    (pollAt (10 ^ 10) [newLinkMessage 2 "eth0" .down] []) _ _ _ _ (by decide) (by decide) rfl rfl
    distinctReports_down (tryPoll_of_ok rfl rfl)
  have hdisagree : ∃ item ∈ (commit (pollAt (10 ^ 10) [newLinkMessage 2 "eth0" .down] [])
      (view wanConfig (pollAt (10 ^ 10) [newLinkMessage 2 "eth0" .down] [])
        [newLinkMessage 2 "eth0" .down] [])
      (InterfaceManager.run wanConfig addressedBetween)).1.networkInterfaces.content,
      item.id.id = some 2 ∧ ∀ link ∈ (commit (pollAt (10 ^ 10) [newLinkMessage 2 "eth0" .down] [])
        (view wanConfig (pollAt (10 ^ 10) [newLinkMessage 2 "eth0" .down] [])
          [newLinkMessage 2 "eth0" .down] [])
        (InterfaceManager.run wanConfig addressedBetween)).1.networkLinks.content,
        item.status.networkLinkStatus ≠ link.status := by
    decide +kernel
  obtain ⟨item, hitem, hindex, hne⟩ := hdisagree
  obtain ⟨link, hlink, -, heq⟩ := hagree item hitem 2 hindex
  exact hne link hlink heq

end InterfaceManagerWorker

end RustyRouter
