/-
# Anti-entropy

Whatever a table holds, two polls over the same dumps bring it to their view if
the second is made more than the hold period after the first
(`Polled.lists_of_later`): what the first poll keeps is no younger than the first
poll, so the second keeps it only if it says the same.  A table that lists the
view is left as it is by every poll over these dumps, which then has nothing to
announce (`Reconciles.quiet`).
-/
import RustyRouter.PollReference

namespace RustyRouter

open KeyedStore HashMap

namespace InterfaceManagerWorker

/-! ## One table -/

section Table

variable {T : Type} [DecidableEq T] {view : CanonicalNetworkId → T → Prop}
  {now : CanonicalNetworkId → Instant} {old content : List (NetworkStatusItem T)}

/-- A new item takes the place of an older one that says something else. -/
theorem status_heldItem {new : NetworkStatusItem T} {id : CanonicalNetworkId}
    (h : ∀ item, find NetworkStatusItem.id id old = some item →
      item.refreshed + entropyHoldPeriod < new.refreshed) :
    (heldItem old (id, new)).status = new.status := by
  unfold heldItem held
  cases hfind : find NetworkStatusItem.id id old with
  | none => rfl
  | some item =>
    dsimp only
    split_ifs with hreplaces
    · rfl
    · rw [replaces, decide_eq_true (h item hfind), Bool.true_and, bne_iff_ne, not_not] at hreplaces
      exact hreplaces

/-- The item of an id of the view. -/
theorem Polled.find_eq (h : Polled view now old content) {id : CanonicalNetworkId} {status : T}
    (hview : view id status) :
    find NetworkStatusItem.id id content = some (heldItem old (id, ⟨id, status, now id⟩)) := by
  have hmem := (h.mem_iff _).mpr ⟨id, status, hview, rfl⟩
  have hfind := find_eq_some_of_nodup h.nodup hmem
  rw [id_heldItem] at hfind
  exact hfind

/-- A polled table whose items all say what the view says lists it. -/
theorem Polled.lists (h : Polled view now old content)
    (hstatus : ∀ id status, view id status →
      (heldItem old (id, ⟨id, status, now id⟩)).status = status) : Lists view content := by
  refine ⟨fun id status => ⟨fun hview => ?_, ?_⟩, h.nodup⟩
  · exact ⟨_, (h.mem_iff _).mpr ⟨id, status, hview, rfl⟩, id_heldItem _ _ _ _, hstatus id status hview⟩
  · rintro ⟨item, hitem, rfl, rfl⟩
    obtain ⟨id, status, hview, rfl⟩ := (h.mem_iff item).mp hitem
    rw [hstatus id status hview, id_heldItem]
    exact hview

/-- **Convergence.**  A second poll more than the hold period after the first lists the view. -/
theorem Polled.lists_of_later {first second : CanonicalNetworkId → Instant}
    {middle : List (NetworkStatusItem T)} (hfirst : Polled view first old middle)
    (hsecond : Polled view second middle content)
    (hmonotone : ∀ item ∈ old, ∀ id status, view id status → item.refreshed ≤ first id)
    (hlater : ∀ id status id' status', view id status → view id' status' →
      first id + entropyHoldPeriod < second id') : Lists view content := by
  apply hsecond.lists
  intro id status hview
  apply status_heldItem
  intro item hfind
  rw [hfirst.find_eq hview, Option.some.injEq] at hfind
  have hrefreshed : item.refreshed ≤ first id := by
    rw [← hfind]
    rcases heldItem_eq_or_mem old (id, ⟨id, status, first id⟩) with heq | ⟨hmem, -⟩
    · rw [heq]
    · exact hmonotone _ hmem id status hview
  calc item.refreshed + entropyHoldPeriod ≤ first id + entropyHoldPeriod :=
        Nat.add_le_add_right hrefreshed _
    _ < second id := hlater id status id status hview hview

omit [DecidableEq T] in
theorem Lists.perm {content' : List (NetworkStatusItem T)} (h : Lists view content)
    (hperm : content'.Perm content) : Lists view content' := by
  refine ⟨fun id status => ?_, (hperm.map _).nodup_iff.mpr h.nodup⟩
  rw [h.mem_iff]
  simp only [hperm.mem_iff]

/-- The item that a listed id stays with is the one in the table. -/
theorem Lists.heldItem_eq (h : Lists view content) {item : NetworkStatusItem T}
    (hitem : item ∈ content) (now : Instant) :
    heldItem content (item.id, ⟨item.id, item.status, now⟩) = item ∧
      announcedItem content (item.id, ⟨item.id, item.status, now⟩) = false := by
  rw [heldItem, announcedItem, held, announced, find_eq_some_of_nodup h.nodup hitem]
  simp [replaces]

/-- **Silence.**  A table that lists the view is left as it is, and nothing is announced. -/
theorem Reconciles.quiet {outcome : Reconciled T} (h : Reconciles view now content outcome)
    (hlists : Lists view content) (hkeys : ∀ id status, view id status → id.keys ≠ []) :
    outcome.table.content.Perm content ∧ outcome.notify = [] ∧ outcome.notifyDeleted = [] := by
  refine ⟨?_, ?_, ?_⟩
  · refine (List.perm_ext_iff_of_nodup h.polled.nodup.of_map hlists.nodup.of_map).mpr fun item => ?_
    -- what is stored already is held as it is, so the view lists what it listed
    rw [h.polled.mem_iff]
    constructor
    · rintro ⟨id, status, hview, rfl⟩
      obtain ⟨item, hitem, rfl, rfl⟩ := (hlists.mem_iff id status).mp hview
      rw [(hlists.heldItem_eq hitem _).1]
      exact hitem
    · intro hitem
      exact ⟨item.id, item.status, (hlists.mem_iff _ _).mpr ⟨item, hitem, rfl, rfl⟩,
        (hlists.heldItem_eq hitem _).1.symm⟩
  · rw [List.eq_nil_iff_forall_not_mem]
    intro item hitem
    obtain ⟨id, status, hview, rfl, hannounced⟩ := (h.mem_notify item).mp hitem
    obtain ⟨item, hlisted, rfl, rfl⟩ := (hlists.mem_iff id status).mp hview
    rw [(hlists.heldItem_eq hlisted _).2] at hannounced
    cases hannounced
  · rw [List.eq_nil_iff_forall_not_mem]
    intro item hitem
    -- every old item shares a key with the view, namely its own
    obtain ⟨hold, hfree⟩ := (h.mem_notifyDeleted item).mp hitem
    have hview := (hlists.mem_iff _ _).mpr ⟨item, hold, rfl, rfl⟩
    exact hfree _ _ hview (clash_self (hkeys _ _ hview))

end Table

/-! ## Both tables -/

/-- A poll is given these dumps. -/
structure Dumps (linkData networkData : List NetlinkMessage) (input : PollInput) : Prop where
  linkData_eq : input.linkData = .ok linkData
  networkData_eq : input.networkData = .ok networkData

/-- Both tables list the view of these dumps. -/
structure ListsDumps (config : Router) (linkData networkData : List NetlinkMessage)
    (db : InterfaceManagerDatabase) : Prop where
  networkLinks : Lists (ViewLink config (reportedLinks config linkData)) db.networkLinks.content
  networkInterfaces : Lists
    (ViewInterface config (reportedLinks config linkData) (addressesOf networkData))
    db.networkInterfaces.content

/-- Two databases hold the same items. -/
structure SameItems (db db' : InterfaceManagerDatabase) : Prop where
  networkLinks : db'.networkLinks.content.Perm db.networkLinks.content
  networkInterfaces : db'.networkInterfaces.content.Perm db.networkInterfaces.content

/-- An instant by which everything in a database was made, and before a poll. -/
structure MadeBefore (config : Router) (linkData networkData : List NetlinkMessage)
    (db : InterfaceManagerDatabase) (input : PollInput) : Prop where
  networkLinks : ∀ item ∈ db.networkLinks.content, ∀ id status,
    ViewLink config (reportedLinks config linkData) id status → item.refreshed ≤ input.linkNow id
  networkInterfaces : ∀ item ∈ db.networkInterfaces.content, ∀ id status,
    ViewInterface config (reportedLinks config linkData) (addressesOf networkData) id status →
      item.refreshed ≤ input.interfaceNow id

/-- Every item of the second poll is made more than the hold period after every item of the
first. -/
structure MadeLater (config : Router) (linkData networkData : List NetlinkMessage)
    (first second : PollInput) : Prop where
  networkLinks : ∀ id status id' status',
    ViewLink config (reportedLinks config linkData) id status →
    ViewLink config (reportedLinks config linkData) id' status' →
      first.linkNow id + entropyHoldPeriod < second.linkNow id'
  networkInterfaces : ∀ id status id' status',
    ViewInterface config (reportedLinks config linkData) (addressesOf networkData) id status →
    ViewInterface config (reportedLinks config linkData) (addressesOf networkData) id' status' →
      first.interfaceNow id + entropyHoldPeriod < second.interfaceNow id'

theorem poll_of_dumps {config : Router} {linkData networkData : List NetlinkMessage}
    {input : PollInput} (h : Dumps linkData networkData input) (db : InterfaceManagerDatabase) :
    poll config input db = (commit input (view config input linkData networkData) db).1 := by
  rw [poll, tryPoll_of_ok h.linkData_eq h.networkData_eq]

section Dumps

variable {config : Router} (hdevices : config.DistinctDevices) (hlinks : config.DistinctLinks)
  {linkData networkData : List NetlinkMessage}
  (hreports : DistinctReports (reportedLinks config linkData))
include hdevices hlinks hreports

/-- A poll over dumps that the tables list changes no item and sends nothing. -/
theorem tryPoll_quiet {db : InterfaceManagerDatabase} (h : InterfaceManagerDatabase.Coherent db)
    (hlists : ListsDumps config linkData networkData db) {input : PollInput}
    (hdumps : Dumps linkData networkData input) :
    ∃ db', tryPoll config input db = .ok (db', []) ∧ InterfaceManagerDatabase.Coherent db' ∧
      SameItems db db' := by
  have hnetworkLinks := reconciles_networkLinks hdevices hreports h input networkData
  have hnetworkInterfaces := reconciles_networkInterfaces hdevices hreports h input networkData hlinks
  obtain ⟨hpermLinks, hnotifyLinks, hdeletedLinks⟩ :=
    hnetworkLinks.quiet hlists.networkLinks fun _ _ hview => hview.keys_ne_nil
  obtain ⟨hpermInterfaces, hnotifyInterfaces, hdeletedInterfaces⟩ :=
    hnetworkInterfaces.quiet hlists.networkInterfaces fun _ _ hview => hview.keys_ne_nil
  refine ⟨(commit input (view config input linkData networkData) db).1, ?_,
    ⟨hnetworkLinks.coherent, hnetworkInterfaces.coherent⟩, ⟨hpermLinks, hpermInterfaces⟩⟩
  rw [tryPoll_of_ok hdumps.linkData_eq hdumps.networkData_eq, commit, updates, hnotifyLinks,
    hdeletedLinks, hnotifyInterfaces, hdeletedInterfaces]
  rfl

/-- Polls over dumps that the tables list change no item. -/
theorem foldl_poll_quiet (later : List PollInput)
    (hlater : ∀ input ∈ later, Dumps linkData networkData input) {db : InterfaceManagerDatabase}
    (h : InterfaceManagerDatabase.Coherent db)
    (hlists : ListsDumps config linkData networkData db) :
    InterfaceManagerDatabase.Coherent
        (later.foldl (fun db input => poll config input db) db) ∧
      SameItems db (later.foldl (fun db input => poll config input db) db) := by
  induction later generalizing db with
  | nil => exact ⟨h, ⟨List.Perm.refl _, List.Perm.refl _⟩⟩
  | cons input later ih =>
    obtain ⟨db', hpoll, hcoherent, hsame⟩ :=
      tryPoll_quiet hdevices hlinks hreports h hlists (hlater input List.mem_cons_self)
    have hstep : poll config input db = db' := by rw [poll, hpoll]
    obtain ⟨hcoherent', hsame'⟩ :=
      ih (fun input hinput => hlater input (List.mem_cons_of_mem _ hinput)) hcoherent
        ⟨hlists.networkLinks.perm hsame.networkLinks,
          hlists.networkInterfaces.perm hsame.networkInterfaces⟩
    rw [List.foldl_cons, hstep]
    exact ⟨hcoherent', ⟨hsame'.networkLinks.trans hsame.networkLinks,
      hsame'.networkInterfaces.trans hsame.networkInterfaces⟩⟩

/-- **Anti-entropy.**  From any database that a run reaches, two polls over the same dumps, the
second more than the hold period after the first, make the tables list the view; every later poll
over these dumps changes no item and sends nothing. -/
theorem poll_poll_converges (steps : List ManagerStep) {first second : PollInput}
    (hfirst : Dumps linkData networkData first) (hsecond : Dumps linkData networkData second)
    (hmonotone : MadeBefore config linkData networkData (InterfaceManager.run config steps) first)
    (hperiod : MadeLater config linkData networkData first second) :
    ListsDumps config linkData networkData
        (poll config second (poll config first (InterfaceManager.run config steps))) ∧
      ∀ later : List PollInput, (∀ input ∈ later, Dumps linkData networkData input) →
        SameItems (poll config second (poll config first (InterfaceManager.run config steps)))
            (later.foldl (fun db input => poll config input db)
              (poll config second (poll config first (InterfaceManager.run config steps)))) ∧
          ∀ input, Dumps linkData networkData input →
            ∃ db, tryPoll config input (later.foldl (fun db input => poll config input db)
              (poll config second (poll config first (InterfaceManager.run config steps)))) =
                .ok (db, []) := by
  have hstart := (ManagerInvariant.run config steps).coherent
  have hfirstLinks := reconciles_networkLinks hdevices hreports hstart first networkData
  have hfirstInterfaces :=
    reconciles_networkInterfaces hdevices hreports hstart first networkData hlinks
  -- the tables are coherent between the polls
  have hmiddle : InterfaceManagerDatabase.Coherent
      (poll config first (InterfaceManager.run config steps)) := by
    rw [poll_of_dumps hfirst]
    exact ⟨hfirstLinks.coherent, hfirstInterfaces.coherent⟩
  have hsecondLinks := reconciles_networkLinks hdevices hreports hmiddle second networkData
  have hsecondInterfaces :=
    reconciles_networkInterfaces hdevices hreports hmiddle second networkData hlinks
  rw [poll_of_dumps hfirst] at hsecondLinks hsecondInterfaces ⊢
  rw [poll_of_dumps hsecond]
  -- after the second poll nothing is held any more that is older than the first
  have hlists : ListsDumps config linkData networkData
      (commit second (view config second linkData networkData)
        (commit first (view config first linkData networkData)
          (InterfaceManager.run config steps)).1).1 :=
    ⟨hfirstLinks.polled.lists_of_later hsecondLinks.polled hmonotone.networkLinks hperiod.networkLinks,
      hfirstInterfaces.polled.lists_of_later hsecondInterfaces.polled hmonotone.networkInterfaces
        hperiod.networkInterfaces⟩
  -- a database that lists the dumps is left as it is by every later poll
  refine ⟨hlists, fun later hlater => ?_⟩
  obtain ⟨hcoherent, hsame⟩ := foldl_poll_quiet hdevices hlinks hreports later hlater
    ⟨hsecondLinks.coherent, hsecondInterfaces.coherent⟩ hlists
  refine ⟨hsame, fun input hinput => ?_⟩
  obtain ⟨db, hpoll, -⟩ := tryPoll_quiet hdevices hlinks hreports hcoherent
    ⟨hlists.networkLinks.perm hsame.networkLinks,
      hlists.networkInterfaces.perm hsame.networkInterfaces⟩ hinput
  exact ⟨db, hpoll⟩

end Dumps

/-- A poll of a device with an address. -/
def addressedPoll (now : Instant) : PollInput :=
  pollAt now [newLinkMessage 2 "eth0" .up] [newAddressMessage 2 [10, 0, 0, 1]]

/-- The database after a poll of the device without the address, at the start of the clock. -/
def unaddressed : List ManagerStep := [.poll (pollAt 0 [newLinkMessage 2 "eth0" .up] [])]

theorem madeBefore_wan : MadeBefore wanConfig [newLinkMessage 2 "eth0" .up]
    [newAddressMessage 2 [10, 0, 0, 1]] (InterfaceManager.run wanConfig unaddressed)
    (addressedPoll 1000000000) := by
  have hlinks : ∀ item ∈ (InterfaceManager.run wanConfig unaddressed).networkLinks.content,
      item.refreshed ≤ 1000000000 := by decide +kernel
  have hinterfaces : ∀ item ∈
      (InterfaceManager.run wanConfig unaddressed).networkInterfaces.content,
      item.refreshed ≤ 1000000000 := by decide +kernel
  exact ⟨fun item hitem _ _ _ => hlinks item hitem, fun item hitem _ _ _ => hinterfaces item hitem⟩

theorem madeLater_wan : MadeLater wanConfig [newLinkMessage 2 "eth0" .up]
    [newAddressMessage 2 [10, 0, 0, 1]] (addressedPoll 1000000000) (addressedPoll 7000000000) := by
  have hperiod : (1000000000 : Instant) + entropyHoldPeriod < 7000000000 := by
    norm_num [entropyHoldPeriod]
  exact ⟨fun _ _ _ _ _ _ => hperiod, fun _ _ _ _ _ _ => hperiod⟩

/-- A new address is listed by the poll at seven seconds, and the poll after it is silent. -/
theorem poll_poll_converges_wan :
    ListsDumps wanConfig [newLinkMessage 2 "eth0" .up] [newAddressMessage 2 [10, 0, 0, 1]]
        (poll wanConfig (addressedPoll 7000000000) (poll wanConfig (addressedPoll 1000000000)
          (InterfaceManager.run wanConfig unaddressed))) ∧
      ∃ db, tryPoll wanConfig (addressedPoll 8000000000)
        (poll wanConfig (addressedPoll 7000000000) (poll wanConfig (addressedPoll 1000000000)
          (InterfaceManager.run wanConfig unaddressed))) = .ok (db, []) := by
  have hdevices : wanConfig.DistinctDevices := by decide
  have hlinks : wanConfig.DistinctLinks := by decide
  obtain ⟨hlists, hquiet⟩ := poll_poll_converges hdevices hlinks distinctReports_wan unaddressed
    ⟨rfl, rfl⟩ ⟨rfl, rfl⟩ madeBefore_wan madeLater_wan
  exact ⟨hlists, (hquiet [] (by simp)).2 _ ⟨rfl, rfl⟩⟩

end InterfaceManagerWorker

end RustyRouter
