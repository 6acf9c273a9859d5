/-
# The order in which updates are published

A poll publishes after it has released the database, so a `NewLink` event can
store a link and publish it between the commit of a poll and its publish, and
then a subscriber gets the older status last (`not_current_run`).

What a subscriber has received, followed by what is pending, ends for each device
in the table with the status that the table holds (`PublishInvariant`), as long
as no event says of a device something else than the pending updates say of it.
So whenever nothing is pending the subscribers are up to date
(`current_run_of_neverOvertakes`).
-/
import RustyRouter.ConfiguredListed
import RustyRouter.Subscribers

namespace RustyRouter

open KeyedStore HashMap InterfaceManagerWorker InterfaceManagerNetlinkSocketListener

/-! ## The last update about a device -/

/-- The link status that an update gives a device. -/
def NetworkStatusUpdate.linkOf (device : String) : NetworkStatusUpdate → Option NetworkLinkStatus
  | link status => if status.device = device then some status else none
  | interface _ => none

/-- The last of the link statuses that updates give a device. -/
def lastLink (device : String) (updates : List NetworkStatusUpdate) : Option NetworkLinkStatus :=
  (updates.filterMap (NetworkStatusUpdate.linkOf device)).getLast?

section LastLink

variable {device : String} {updates : List NetworkStatusUpdate} {status : NetworkLinkStatus}

/-- The last update is in the later part, if it has one about the device. -/
theorem lastLink_append (before after : List NetworkStatusUpdate) :
    lastLink device (before ++ after) = (lastLink device after).or (lastLink device before) := by
  rw [lastLink, List.filterMap_append, List.getLast?_append]
  rfl

/-- The updates that give a device a status. -/
theorem linkOf_eq_some {update : NetworkStatusUpdate} :
    update.linkOf device = some status ↔ update = .link status ∧ status.device = device := by
  cases update with
  | link status' =>
    rw [NetworkStatusUpdate.linkOf, NetworkStatusUpdate.link.injEq]
    split_ifs with hdevice
    · rw [Option.some.injEq]
      exact ⟨fun h => ⟨h, h ▸ hdevice⟩, And.left⟩
    · simp only [false_iff, not_and]
      rintro rfl
      exact hdevice
  | interface status' => simp [NetworkStatusUpdate.linkOf]

/-- The last link status about a device is one of the updates. -/
theorem mem_of_lastLink (h : lastLink device updates = some status) :
    .link status ∈ updates ∧ status.device = device := by
  obtain ⟨update, hupdate, hlink⟩ := List.mem_filterMap.mp (List.mem_of_getLast? h)
  obtain ⟨rfl, hdevice⟩ := linkOf_eq_some.mp hlink
  exact ⟨hupdate, hdevice⟩

/-- There is no last update about a device where none is about it. -/
theorem lastLink_eq_none :
    lastLink device updates = none ↔ ∀ status, .link status ∈ updates → status.device ≠ device := by
  rw [lastLink, List.getLast?_eq_none_iff, List.filterMap_eq_nil_iff]
  constructor
  · intro h status hmem hdevice
    have hlink := h _ hmem
    rw [linkOf_eq_some.mpr ⟨rfl, hdevice⟩] at hlink
    cases hlink
  · intro h update hupdate
    by_contra hsome
    obtain ⟨status, hstatus⟩ := Option.ne_none_iff_exists'.mp hsome
    obtain ⟨rfl, hdevice⟩ := linkOf_eq_some.mp hstatus
    exact h status hupdate hdevice

end LastLink

/-! ## Being up to date -/

/-- The last update about the device of each stored link, if there is one, has its status. -/
def UpToDate (content : List LinkItem) (updates : List NetworkStatusUpdate) : Prop :=
  ∀ item ∈ content, ∀ status, lastLink item.status.device updates = some status →
    status = item.status

/-- Every registered subscriber is up to date with what it has received. -/
def PublishState.Current (s : PublishState) : Prop :=
  ∀ subscriber ∈ s.subscribers.registered,
    UpToDate s.database.networkLinks.content subscriber.delivered

/-- The updates that are still to be published. -/
def PublishState.batch (s : PublishState) : List NetworkStatusUpdate := s.pending.getD []

/-- Who has received nothing has nothing stale. -/
theorem upToDate_nil (content : List LinkItem) : UpToDate content [] :=
  fun _ _ _ h => by cases h

/-! ## What a poll publishes -/

section Commit

variable {config : Router} {linkData : List NetlinkMessage}

/-- The link updates of a poll are its deleted links and those it announces. -/
theorem link_mem_updates {links : Reconciled NetworkLinkStatus}
    {interfaces : Reconciled NetworkInterfaceStatus} {status : NetworkLinkStatus} :
    .link status ∈ updates links interfaces ↔
      (∃ item ∈ links.notifyDeleted, item.status = status) ∨
        ∃ item ∈ links.notify, item.status = status := by
  simp [updates]

variable (hdevices : config.DistinctDevices)
  (hreports : DistinctReports (reportedLinks config linkData)) {now : CanonicalNetworkId → Instant}
  {old : List LinkItem} (hold : ∀ item ∈ old, LinkInvariant config item)
  {outcome : Reconciled NetworkLinkStatus}
  (houtcome : Reconciles (ViewLink config (reportedLinks config linkData)) now old outcome)
include hdevices hreports hold houtcome

/-- The updates of a poll say of a stored link what is stored, and they say nothing of it only if it
was stored before. -/
theorem InterfaceManagerWorker.Reconciles.link_updates {item : LinkItem}
    (hitem : item ∈ outcome.table.content) (interfaces : Reconciled NetworkInterfaceStatus) :
    (∀ status, .link status ∈ updates outcome interfaces →
        status.device = item.status.device → status = item.status) ∧
      (.link item.status ∈ updates outcome interfaces ∨ item ∈ old) := by
  obtain ⟨id, status, hview, rfl⟩ := (houtcome.polled.mem_iff item).mp hitem
  have hid := (hview.device_eq hdevices).1
  have hdevice := device_heldItem hold hid (now id)
  constructor
  · intro status' hupdate hdevice'
    rw [hdevice] at hdevice'
    rcases link_mem_updates.mp hupdate with ⟨deleted, hdeleted, rfl⟩ | ⟨new, hnew, rfl⟩
    · -- a deleted link shares no key with the view, so it is on another device
      obtain ⟨hmem, hfree⟩ := (houtcome.mem_notifyDeleted deleted).mp hdeleted
      refine absurd (CanonicalNetworkId.clash_of_device ?_ hid) (hfree id status hview)
      rw [(hold deleted hmem).device_eq, hdevice']
    · obtain ⟨id', status', hview', rfl, hannounced⟩ := (houtcome.mem_notify new).mp hnew
      obtain rfl := hview'.eq_of_device hdevices hreports hview hdevice'
      obtain rfl := hview'.status_eq hreports hview
      rw [heldItem, held_of_announced hannounced]
  · cases hannounced : announcedItem old (id, ⟨id, status, now id⟩) with
    | true =>
      refine Or.inl (link_mem_updates.mpr (Or.inr ⟨⟨id, status, now id⟩, ?_, ?_⟩))
      · exact (houtcome.mem_notify _).mpr ⟨id, status, hview, rfl, hannounced⟩
      · rw [heldItem, held_of_announced hannounced]
    | false => exact Or.inr (held_mem_of_not_announced hannounced)

/-- The commit of a poll leaves everyone up to date who receives its updates. -/
theorem UpToDate.commit {received : List NetworkStatusUpdate} (h : UpToDate old received)
    (interfaces : Reconciled NetworkInterfaceStatus) :
    UpToDate outcome.table.content (received ++ updates outcome interfaces) := by
  intro item hitem status hlast
  obtain ⟨hupdates, hannounced⟩ :=
    houtcome.link_updates hdevices hreports hold hitem interfaces
  rw [lastLink_append] at hlast
  cases hpolled : lastLink item.status.device (updates outcome interfaces) with
  | some status' =>
    rw [hpolled, Option.some_or, Option.some.injEq] at hlast
    subst hlast
    obtain ⟨hmem, hdevice⟩ := mem_of_lastLink hpolled
    exact hupdates _ hmem hdevice
  | none =>
    rw [hpolled, Option.none_or] at hlast
    have hsilent := lastLink_eq_none.mp hpolled item.status
    exact h item (hannounced.resolve_left fun hmem => hsilent hmem rfl) status hlast

end Commit

/-! ## What an event publishes -/

section Event

variable {config : Router} {db : InterfaceManagerDatabase} {event : Event} {index : UInt64}
  {link : NetworkLinkStatus}

/-- `NewLink` publishes the status of the link, and of the links nothing else. -/
theorem lastLink_newLinkReceived (h : InterfaceManagerDatabase.Coherent db) (device : String) :
    lastLink device (newLinkReceived event index link db).2 =
      if link.device = device then some link else none := by
  obtain ⟨db', updates, hreceived, -, -, hinterfaces⟩ := newLinkReceived_spec h event index link
  have hupdates : updates.filterMap (NetworkStatusUpdate.linkOf device) = [] := by
    rcases hinterfaces with ⟨-, rfl, -⟩ | ⟨item, -, -, -, -, rfl⟩ <;> rfl
  rw [hreceived, lastLink, List.filterMap_cons, NetworkStatusUpdate.linkOf]
  split_ifs <;> simp [hupdates]

/-- Who hears nothing newer about the device of an event than what the event says is up to date
after it. -/
theorem UpToDate.newLink (h : ManagerInvariant config db)
    (hchange : LinkChange.ofEvent config event = some (.added index link))
    {before after : List NetworkStatusUpdate} (hbefore : UpToDate db.networkLinks.content before)
    (hother : ∀ device, device ≠ link.device → lastLink device after = lastLink device before)
    (hlast : ∀ status, lastLink link.device after = some status → status = link) :
    UpToDate (messageReceived (.new config) event db).1.networkLinks.content after := by
  intro item hitem status hstatus
  by_cases hdevice : item.status.device = link.device
  · have hleaves := (mem_messageReceived_of_change h hchange hdevice).mp hitem
    cases hleaves
    exact hlast status hstatus
  · rw [networkLinks_messageReceived h.coherent, hchange] at hitem
    rcases LinkChange.mem_store.mp hitem with hleaves | ⟨hold, -⟩
    · exact absurd (LinkChange.eq_of_leaves hleaves).2.1 hdevice
    · rw [hother _ hdevice] at hstatus
      exact hbefore item hold status hstatus

end Event

/-! ## Runs -/

/-- An event is `NewLink`. -/
def Event.IsNewLink (event : Event) : Prop :=
  ∃ message, event.message.payload = .innerMessage (.newLink message)

/-- A step is one of polls whose dumps are distinct and of `NewLink` events. -/
def PublishStep.Admissible (config : Router) : PublishStep → Prop
  | .subscribe => True
  | .commit input => DistinctDump config input
  | .publish _ => True
  | .event e _ => e.IsNewLink

/-- An event says something else of its device than the pending updates of a poll, which are
published after it. -/
def PublishStep.Overtakes (config : Router) (s : PublishState) : PublishStep → Prop
  | .event e _ =>
    ∃ index link status, LinkChange.ofEvent config e = some (.added index link) ∧
      lastLink link.device s.batch = some status ∧ status ≠ link
  | _ => False

/-- No step of a run from a state overtakes a poll. -/
def PublishState.NeverOvertakes (config : Router) : PublishState → List PublishStep → Prop
  | _, [] => True
  | s, step :: steps => ¬ step.Overtakes config s ∧ NeverOvertakes config (s.apply config step) steps

/-- What holds while no event overtakes a poll: everyone is up to date who has received what is
pending. -/
structure PublishInvariant (config : Router) (s : PublishState) : Prop where
  manager : ManagerInvariant config s.database
  pending : UpToDate s.database.networkLinks.content s.batch
  subscribers : ∀ subscriber ∈ s.subscribers.registered,
    UpToDate s.database.networkLinks.content (subscriber.delivered ++ s.batch)

namespace PublishInvariant

variable {config : Router} {s : PublishState}

/-- At the start nobody has received anything. -/
theorem new (config : Router) : PublishInvariant config PublishState.new :=
  ⟨ManagerInvariant.new config, upToDate_nil _, fun _ h => absurd h List.not_mem_nil⟩

/-- A new subscriber will receive what is pending, and has received nothing. -/
theorem subscribe (h : PublishInvariant config s) :
    PublishInvariant config (s.apply config .subscribe) := by
  refine ⟨h.manager, h.pending, fun subscriber hsubscriber => ?_⟩
  rcases List.mem_append.mp hsubscriber with hold | hnew
  · exact h.subscribers subscriber hold
  · rw [List.mem_singleton.mp hnew]
    exact h.pending

/-- A commit makes pending what brings everyone up to date. -/
theorem commit (hdevices : config.DistinctDevices) (h : PublishInvariant config s)
    {input : PollInput} (hdump : DistinctDump config input) :
    PublishInvariant config (s.apply config (.commit input)) := by
  rw [PublishState.apply]
  cases hpending : s.pending with
  | some updates => exact h
  | none =>
    dsimp only
    cases hpoll : tryPoll config input s.database with
    | error e => exact h
    | ok result =>
      obtain ⟨linkData, networkData, hlinkData, -, rfl⟩ := tryPoll_eq_ok hpoll
      have hreports := hdump linkData hlinkData
      have hmanager : ManagerInvariant config
          (InterfaceManagerWorker.commit input (view config input linkData networkData)
            s.database).1 := by
        have hmanager := h.manager.poll input
        rw [poll, hpoll] at hmanager
        exact hmanager
      have houtcome :=
        reconciles_networkLinks hdevices hreports h.manager.coherent input networkData
      have hbatch : s.batch = [] := by rw [PublishState.batch, hpending, Option.getD_none]
      refine ⟨hmanager, ?_, fun subscriber hsubscriber => ?_⟩
      · exact UpToDate.commit hdevices hreports h.manager.links houtcome (upToDate_nil _) _
      · have hreceived := h.subscribers subscriber hsubscriber
        rw [hbatch, List.append_nil] at hreceived
        exact hreceived.commit hdevices hreports h.manager.links houtcome _

/-- A publish delivers what was pending. -/
theorem publish (h : PublishInvariant config s) (trySend : TrySend) :
    PublishInvariant config (s.apply config (.publish trySend)) := by
  rw [PublishState.apply]
  cases hpending : s.pending with
  | none => exact h
  | some updates =>
    have hbatch : s.batch = updates := by rw [PublishState.batch, hpending, Option.getD_some]
    -- what was pending is delivered, so that the subscriber has it instead
    refine ⟨h.manager, upToDate_nil _, fun subscriber hsubscriber => ?_⟩
    obtain ⟨before, hbefore, hdelivered⟩ := Subscribers.mem_registered_retain hsubscriber
    have hreceived := h.subscribers before hbefore
    rw [hbatch, ← hdelivered] at hreceived
    show UpToDate s.database.networkLinks.content (subscriber.delivered ++ [])
    rw [List.append_nil]
    exact hreceived

/-- An event says of its device what is stored, and what is pending says nothing else of it. -/
theorem event (h : PublishInvariant config s) {event : Event} (hevent : event.IsNewLink)
    {trySend : TrySend} (hovertakes : ¬ (PublishStep.event event trySend).Overtakes config s) :
    PublishInvariant config (s.apply config (.event event trySend)) := by
  obtain ⟨message, hmessage⟩ := hevent
  have hmanager := h.manager.event event
  rw [PublishState.apply]
  cases hlink : (NetlinkMessageProcessor.new config).processLinkMessage event.message with
  | none =>
    have hsame : messageReceived (.new config) event s.database = (s.database, []) := by
      simp only [messageReceived, hmessage, hlink]
    rw [hsame]
    exact h
  | some reported =>
    obtain ⟨index, link⟩ := reported
    have hchange : LinkChange.ofEvent config event = some (.added index link) := by
      simp only [LinkChange.ofEvent, hmessage, hlink, Option.map_some]
    have hupdates : ∀ device,
        lastLink device (messageReceived (.new config) event s.database).2 =
          if link.device = device then some link else none := by
      rw [(LinkChange.ofEvent_eq_added hchange).2.2]
      exact lastLink_newLinkReceived h.manager.coherent
    -- what is pending about the device says what the event says
    have hpending : ∀ status, lastLink link.device s.batch = some status → status = link := by
      intro status hstatus
      by_contra hne
      exact hovertakes ⟨index, link, status, hchange, hstatus, hne⟩
    refine ⟨hmanager, h.pending.newLink h.manager hchange (fun _ _ => rfl) hpending,
      fun subscriber hsubscriber => ?_⟩
    obtain ⟨before, hbefore, hdelivered⟩ := Subscribers.mem_registered_retainEach hsubscriber
    refine (h.subscribers before hbefore).newLink h.manager hchange (fun device hdevice => ?_)
      fun status hstatus => ?_
    · rw [hdelivered, lastLink_append, lastLink_append, lastLink_append, hupdates,
        if_neg (Ne.symm hdevice), Option.none_or]
      rfl
    · change lastLink link.device (subscriber.delivered ++ s.batch) = some status at hstatus
      rw [hdelivered, lastLink_append, lastLink_append, hupdates, if_pos rfl] at hstatus
      cases hbatch : lastLink link.device s.batch with
      | some status' =>
        rw [hbatch] at hstatus
        cases hstatus
        exact hpending _ hbatch
      | none =>
        rw [hbatch] at hstatus
        cases hstatus
        rfl

/-- Every step that does not overtake a poll keeps the invariant. -/
theorem apply (hdevices : config.DistinctDevices) (h : PublishInvariant config s)
    {step : PublishStep} (hstep : step.Admissible config)
    (hovertakes : ¬ step.Overtakes config s) : PublishInvariant config (s.apply config step) := by
  cases step with
  | subscribe => exact h.subscribe
  | commit input => exact h.commit hdevices hstep
  | publish trySend => exact h.publish trySend
  | event event trySend => exact h.event hstep hovertakes

/-- The invariant holds throughout a run in which no event overtakes a poll. -/
theorem foldl_apply (hdevices : config.DistinctDevices) (steps : List PublishStep)
    (hsteps : ∀ step ∈ steps, step.Admissible config) (h : PublishInvariant config s)
    (hovertakes : s.NeverOvertakes config steps) :
    PublishInvariant config (steps.foldl (PublishState.apply config) s) := by
  induction steps generalizing s with
  | nil => exact h
  | cons step steps ih =>
    exact ih (fun step' hstep' => hsteps step' (List.mem_cons_of_mem _ hstep'))
      (h.apply hdevices (hsteps step List.mem_cons_self) hovertakes.1) hovertakes.2

/-- When nothing is pending, the subscribers are up to date. -/
theorem current (h : PublishInvariant config s) (hpending : s.pending = none) : s.Current := by
  intro subscriber hsubscriber
  have hreceived := h.subscribers subscriber hsubscriber
  rw [PublishState.batch, hpending, Option.getD_none, List.append_nil] at hreceived
  exact hreceived

end PublishInvariant

namespace PublishState

variable {config : Router}

/-- **Subscribers are up to date** whenever nothing is pending, as long as no event overtakes a
poll. -/
theorem current_run_of_neverOvertakes (hdevices : config.DistinctDevices)
    (steps : List PublishStep) (hsteps : ∀ step ∈ steps, step.Admissible config)
    (hovertakes : new.NeverOvertakes config steps) (hpending : (run config steps).pending = none) :
    (run config steps).Current :=
  ((PublishInvariant.new config).foldl_apply hdevices steps hsteps hovertakes).current hpending

/-- The dump of the one device has distinct devices. -/
theorem distinctDump_wan (state : OperState) :
    DistinctDump wanConfig (pollAt 0 [newLinkMessage 2 "eth0" state] []) := by
  intro linkData hlinkData
  cases hlinkData
  have hreported : reportedLinks wanConfig [newLinkMessage 2 "eth0" state] =
      [(2, ⟨some "wan", "eth0", NetlinkMessageProcessor.operationalStateOf state⟩)] := rfl
  rw [hreported]
  exact ⟨List.nodup_singleton _, List.nodup_singleton _⟩

/-- Between the commit of a poll and its publish another device comes up and the polled one is reported
as it was polled; it goes up after the publish. -/
def betweenCommitAndPublish : List PublishStep :=
  [.subscribe, .commit (pollAt 0 [newLinkMessage 2 "eth0" .down] []),
    .event ⟨newLinkMessage 3 "lan0" .up, 1, 1⟩ fun _ _ => true,
    .event ⟨newLinkMessage 2 "eth0" .down, 2, 2⟩ fun _ _ => true, .publish fun _ _ => true,
    .event ⟨newLinkMessage 2 "eth0" .up, 3, 3⟩ fun _ _ => true]

/-- Neither event between the commit and the publish overtakes the poll. -/
theorem current_run_wan : (run wanConfig betweenCommitAndPublish).Current := by
  have hdevices : wanConfig.DistinctDevices := by decide
  refine current_run_of_neverOvertakes hdevices _ ?_ ⟨id, id, ?_, ?_, id, ?_, trivial⟩ rfl
  · simp only [betweenCommitAndPublish, List.forall_mem_cons, List.not_mem_nil, false_implies,
      implies_true, and_true]
    exact ⟨trivial, distinctDump_wan .down, ⟨_, rfl⟩, ⟨_, rfl⟩, trivial, ⟨_, rfl⟩⟩
  · -- the pending updates say nothing of the other device
    rintro ⟨index, link, status, hchange, hlast, -⟩
    cases hchange
    cases hlast
  · -- they say of this one what the event says
    rintro ⟨index, link, status, hchange, hlast, hne⟩
    cases hchange
    exact hne (Option.some.inj (hlast.symm.trans rfl))
  · rintro ⟨index, link, status, -, hlast, -⟩
    cases hlast

/-- A subscriber that receives the publish of a poll after an event has overtaken it has a status
last that is no longer stored. -/
theorem not_current_of_overtakes {s : PublishState} (h : ManagerInvariant config s.database)
    {event : Event} {trySend trySend' : TrySend}
    (hovertakes : (PublishStep.event event trySend).Overtakes config s) {subscriber : Subscriber}
    (hsubscriber : subscriber ∈
      ((s.apply config (.event event trySend)).apply config
        (.publish trySend')).subscribers.registered) :
    ¬ ((s.apply config (.event event trySend)).apply config (.publish trySend')).Current := by
  obtain ⟨index, link, status, hchange, hlast, hne⟩ := hovertakes
  intro hcurrent
  have hstored : ⟨reportedId index link, link, event.linkNow⟩ ∈
      (messageReceived (.new config) event s.database).1.networkLinks.content :=
    (mem_messageReceived_of_change h hchange rfl).mpr rfl
  cases hpending : s.pending with
  | none =>
    rw [batch, hpending] at hlast
    cases hlast
  | some updates =>
    rw [batch, hpending, Option.getD_some] at hlast
    rw [apply, apply, hpending] at hcurrent hsubscriber
    obtain ⟨before, -, hdelivered⟩ := Subscribers.mem_registered_retain hsubscriber
    refine hne (hcurrent subscriber hsubscriber _ hstored status ?_)
    rw [hdelivered, lastLink_append, hlast, Option.some_or]

/-- A poll that publishes after a `NewLink` event an older status than the event leaves the
subscriber with the older one. -/
theorem not_current_run :
    ¬ ∀ (config : Router) (steps : List PublishStep), config.DistinctDevices →
      (∀ step ∈ steps, step.Admissible config) → (run config steps).pending = none →
      (run config steps).Current := by
  intro h
  have hdevices : wanConfig.DistinctDevices := by decide
  have hcurrent := h wanConfig [.subscribe, .commit (pollAt 0 [newLinkMessage 2 "eth0" .down] []),
    .event ⟨newLinkMessage 2 "eth0" .up, 1, 1⟩ fun _ _ => true, .publish fun _ _ => true]
    hdevices ?_ rfl
  · have hstale : ∀ subscriber ∈ _, ∀ item ∈ _, _ := fun subscriber hsubscriber item hitem =>
      hcurrent subscriber hsubscriber item hitem ⟨some "wan", "eth0", .down⟩
    revert hstale
    decide +kernel
  · simp only [List.forall_mem_cons, List.not_mem_nil, false_implies, implies_true, and_true]
    exact ⟨trivial, distinctDump_wan .down, ⟨_, rfl⟩, trivial⟩

end PublishState

end RustyRouter
