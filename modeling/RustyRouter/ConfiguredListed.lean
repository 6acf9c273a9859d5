/-
# Configured names stay listed

A listing has no name twice, since no two items of a table share a key.  Every
successful poll lists every configured name, and what an event writes about an
interface has no other keys than the interface had, so configured interfaces stay
listed in every run (`InterfaceManager.listInterfaceStatus_names`).

Links do not: `NewLink` stores a device under its index and drops whatever was
there, also a configured link whose device had the index before
(`not_listLinkStatus_names`).  Only such an event makes a configured link
disappear (`listLinkStatus_names_of_not_displaces`), and it always does
(`not_listed_of_displaces`).
-/
import RustyRouter.AntiEntropy
import RustyRouter.LinkEvents

namespace RustyRouter

open KeyedStore HashMap InterfaceManagerWorker InterfaceManagerNetlinkSocketListener

/-! ## Names in a listing -/

section Listing

variable {T : Type} {getName : T → Option String} {t : StatusTable T}
  (hname : ∀ item ∈ t.content, item.id.name = getName item.status)
  (order : Shuffle (ℕ × NetworkStatusItem T))
include hname

theorem filterMap_listStatus_perm :
    ((t.listStatus getName order).filterMap getName).Perm
      (t.content.filterMap fun item => item.id.name) := by
  refine ((StatusTable.listStatus_perm getName order t).filterMap getName).trans
    (List.Perm.of_eq ?_)
  rw [List.filterMap_map]
  apply List.filterMap_congr
  intro item hitem
  exact (hname item hitem).symm

/-- A name is in a listing when an item has it. -/
theorem mem_names_listStatus {name : String} :
    name ∈ (t.listStatus getName order).filterMap getName ↔
      ∃ item ∈ t.content, item.id.name = some name := by
  rw [(filterMap_listStatus_perm hname order).mem_iff, List.mem_filterMap]

/-- A coherent table lists no name twice. -/
theorem nodup_names_listStatus (h : StatusTable.Coherent t) :
    ((t.listStatus getName order).filterMap getName).Nodup := by
  rw [(filterMap_listStatus_perm hname order).nodup_iff]
  refine List.pairwise_filterMap.mpr (h.separated.imp ?_)
  intro item item' hclash name hitem name' hitem' heq
  subst heq
  exact hclash (CanonicalNetworkId.clash_of_name hitem hitem')

end Listing

/-! ## Every name is kept -/

/-- Some item has each of these names. -/
def ListsNames {T : Type} (names : String → Prop) (content : List (NetworkStatusItem T)) : Prop :=
  ∀ name, names name → ∃ item ∈ content, item.id.name = some name

/-- The names of the configured interfaces. -/
def InterfaceNames (config : Router) (name : String) : Prop :=
  ∃ interface, config.networkInterfaces.lookup name = some interface

/-- The names of the configured links. -/
def LinkNames (config : Router) (name : String) : Prop :=
  ∃ link, config.networkLinks.lookup name = some link

section Names

variable {T : Type} {names : String → Prop} {content : List (NetworkStatusItem T)}

/-- An item that takes the place of one with its keys and its name loses no name. -/
theorem ListsNames.put (h : ListsNames names content)
    (hseparated : Separated CanonicalNetworkId.keys NetworkStatusItem.id content)
    {item new : NetworkStatusItem T} (hitem : item ∈ content)
    (hkeys : new.id.keys ⊆ item.id.keys) (hname : new.id.name = item.id.name) :
    ListsNames names (putItem new content) := by
  intro name hnamed
  obtain ⟨other, hother, hothername⟩ := h name hnamed
  -- what the new item evicts is the item whose place it takes
  by_cases hclash : Clash CanonicalNetworkId.keys other.id new.id
  · obtain rfl := hseparated.eq_of_clash_of_subset hitem hother hkeys hclash
    exact ⟨new, mem_put.mpr (Or.inl rfl), hname.trans hothername⟩
  · exact ⟨other, mem_put.mpr (Or.inr ⟨hother, hclash⟩), hothername⟩

/-- Evicting the keys of an unnamed item loses no name. -/
theorem ListsNames.evict (h : ListsNames names content)
    (hseparated : Separated CanonicalNetworkId.keys NetworkStatusItem.id content)
    {item : NetworkStatusItem T} (hitem : item ∈ content) {id : CanonicalNetworkId}
    (hkeys : id.keys ⊆ item.id.keys) (hname : item.id.name = none) :
    ListsNames names (evictId id content) := by
  intro name hnamed
  obtain ⟨other, hother, hothername⟩ := h name hnamed
  refine ⟨other, mem_evict.mpr ⟨hother, fun hclash => ?_⟩, hothername⟩
  obtain rfl := hseparated.eq_of_clash_of_subset hitem hother hkeys hclash
  rw [hname] at hothername
  cases hothername

end Names

/-! ## Interfaces -/

section Interfaces

variable {config : Router}

/-- A view has every configured interface. -/
theorem InterfaceManagerWorker.ViewInterface.exists_of_name
    (reported : List (UInt64 × NetworkLinkStatus)) (addresses : UInt64 → List IpAddress)
    {name : String} (h : InterfaceNames config name) :
    ∃ id status, ViewInterface config reported addresses id status ∧ id.name = some name := by
  obtain ⟨interface, hinterface⟩ := h
  by_cases hreported : Unreported reported interface.networkLink
  · cases hlink : config.networkLinks.lookup interface.networkLink with
    | some link => exact ⟨_, _, .missing hinterface hlink hreported, rfl⟩
    | none => exact ⟨_, _, .misconfigured hinterface hlink, rfl⟩
  · rw [Unreported] at hreported
    push Not at hreported
    obtain ⟨⟨index, link⟩, hr, hlink⟩ := hreported
    exact ⟨_, _, .reported hinterface hr hlink, rfl⟩

/-- An event keeps the configured interfaces listed. -/
theorem listsNames_messageReceived {db : InterfaceManagerDatabase} (h : ManagerInvariant config db)
    {names : String → Prop} (hnames : ListsNames names db.networkInterfaces.content) (event : Event) :
    ListsNames names
      (messageReceived (.new config) event db).1.networkInterfaces.content := by
  have hseparated := h.coherent.networkInterfaces.separated
  -- the item that is replaced has the keys of the one it is replaced by
  rcases messageReceived_cases (.new config) event db with
    hsame | ⟨index, link, hlink, ⟨-, -, hnew⟩ | ⟨-, -, hdel⟩⟩ | ⟨change, index, haddress⟩
  · rw [hsame]
    exact hnames
  · obtain ⟨db', updates, hreceived, -, -, hinterfaces⟩ :=
      newLinkReceived_spec h.coherent event index link
    rw [hnew, hreceived]
    rcases hinterfaces with ⟨heq, -⟩ | ⟨item, hitem, hindex, -, heq, -⟩
    · rw [heq]
      exact hnames
    · rw [heq]
      exact hnames.put hseparated hitem
        (keys_updatedInterface (h.interfaces item hitem) hindex (Or.inl rfl) _ _)
        (h.interfaces item hitem).name_eq.symm
  · obtain ⟨-, -, hinterfaces⟩ := delLinkReceived_spec h.coherent event index link
    rw [hdel]
    rcases hinterfaces with ⟨heq, -⟩ | ⟨item, hitem, hindex, -, heq⟩
    · rw [heq]
      exact hnames
    · have hkeys := keys_updatedInterface (h.interfaces item hitem) hindex (Or.inr rfl)
        (deletedLinkStatus link) event.interfaceNow
      rw [heq]
      split_ifs with hname
      · exact hnames.put hseparated hitem hkeys (h.interfaces item hitem).name_eq.symm
      · refine hnames.evict hseparated hitem hkeys ?_
        rw [(h.interfaces item hitem).name_eq]
        simpa using hname
  · obtain ⟨-, -, hinterfaces⟩ := addressReceived_spec h.coherent event index change
    rw [haddress]
    rcases hinterfaces with ⟨heq, -⟩ | ⟨item, hitem, -, heq⟩
    · rw [heq]
      exact hnames
    · rw [heq]
      exact hnames.put hseparated hitem (List.Subset.refl _) rfl

/-- The link dump of a poll, if there is one, reports distinct indices and devices. -/
def DistinctDump (config : Router) (input : PollInput) : Prop :=
  ∀ linkData, input.linkData = .ok linkData → DistinctReports (reportedLinks config linkData)

/-- A poll succeeds. -/
def Succeeds (config : Router) (input : PollInput) (db : InterfaceManagerDatabase) : Prop :=
  ∃ result, tryPoll config input db = .ok result

/-- A successful poll lists the configured interfaces. -/
theorem listsNames_of_succeeds (hdevices : config.DistinctDevices) (hlinks : config.DistinctLinks)
    {input : PollInput} (hdump : DistinctDump config input) {db : InterfaceManagerDatabase}
    (h : InterfaceManagerDatabase.Coherent db) (hpoll : Succeeds config input db) :
    ListsNames (InterfaceNames config) (poll config input db).networkInterfaces.content := by
  obtain ⟨result, hresult⟩ := hpoll
  obtain ⟨linkData, networkData, hlinkData, hnetworkData, rfl⟩ := tryPoll_eq_ok hresult
  have hpolled := (reconciles_networkInterfaces hdevices (hdump linkData hlinkData) h input
    networkData hlinks).polled
  intro name hname
  obtain ⟨id, status, hview, hid⟩ := ViewInterface.exists_of_name
    (reportedLinks config linkData) (addressesOf networkData) hname
  rw [poll_of_dumps ⟨hlinkData, hnetworkData⟩]
  exact ⟨_, (hpolled.mem_iff _).mpr ⟨id, status, hview, rfl⟩, by rw [id_heldItem, hid]⟩

/-- A poll keeps the configured interfaces listed. -/
theorem listsNames_poll (hdevices : config.DistinctDevices) (hlinks : config.DistinctLinks)
    {input : PollInput} (hdump : DistinctDump config input) {db : InterfaceManagerDatabase}
    (h : InterfaceManagerDatabase.Coherent db)
    (hnames : ListsNames (InterfaceNames config) db.networkInterfaces.content) :
    ListsNames (InterfaceNames config) (poll config input db).networkInterfaces.content := by
  cases hresult : tryPoll config input db with
  | ok result => exact listsNames_of_succeeds hdevices hlinks hdump h ⟨result, hresult⟩
  | error e =>
    rw [poll, hresult]
    exact hnames

end Interfaces

/-! ## Runs -/

namespace InterfaceManager

variable {config : Router}

/-- The dumps of all polls of a run are distinct. -/
def DistinctDumps (config : Router) (steps : List ManagerStep) : Prop :=
  ∀ input, .poll input ∈ steps → DistinctDump config input

/-- From the first successful poll on, the configured interfaces are in the table. -/
theorem listsNames_run (hdevices : config.DistinctDevices) (hlinks : config.DistinctLinks)
    (before : List ManagerStep) (input : PollInput)
    (hpoll : Succeeds config input (run config before)) (after : List ManagerStep)
    (hdumps : DistinctDumps config (before ++ .poll input :: after)) :
    ListsNames (InterfaceNames config)
      (run config (before ++ .poll input :: after)).networkInterfaces.content := by
  induction after using List.reverseRecOn with
  | nil =>
    rw [run_append_singleton]
    exact listsNames_of_succeeds hdevices hlinks (hdumps input (by simp))
      (ManagerInvariant.run config before).coherent hpoll
  | append_singleton after step ih =>
    have hinvariant := ManagerInvariant.run config (before ++ .poll input :: after)
    have hnames := ih fun input' hinput' => hdumps input' (by
      rw [← List.cons_append, ← List.append_assoc]
      exact List.mem_append_left _ hinput')
    rw [← List.cons_append, ← List.append_assoc, run_append_singleton]
    cases step with
    | poll input' =>
      exact listsNames_poll hdevices hlinks (hdumps input' (by simp)) hinvariant.coherent hnames
    | event event => exact listsNames_messageReceived hinvariant hnames event

/-- **Configured interfaces stay listed.**  No listing has a name twice, and from the first
successful poll on it has every configured one once. -/
theorem listInterfaceStatus_names (config : Router) (steps : List ManagerStep)
    (order : Shuffle (ℕ × InterfaceItem)) :
    (((run config steps).listInterfaceStatus order).filterMap
        NetworkInterfaceStatus.name).Nodup ∧
      (config.DistinctDevices → config.DistinctLinks → DistinctDumps config steps →
        ∀ before input after, steps = before ++ .poll input :: after →
          Succeeds config input (run config before) →
          ∀ name, InterfaceNames config name →
            (((run config steps).listInterfaceStatus order).filterMap
              NetworkInterfaceStatus.name).count name = 1) := by
  have hinvariant := ManagerInvariant.run config steps
  have hname : ∀ item ∈ (run config steps).networkInterfaces.content,
      item.id.name = item.status.name :=
    fun item hitem => (hinvariant.interfaces item hitem).name_eq
  have hnodup := nodup_names_listStatus hname order hinvariant.coherent.networkInterfaces
  refine ⟨hnodup, ?_⟩
  intro hdevices hlinks hdumps before input after hsteps hpoll name hconfigured
  apply List.count_eq_one_of_mem hnodup
  refine (mem_names_listStatus hname order).mpr ?_
  subst hsteps
  exact listsNames_run hdevices hlinks before input hpoll after hdumps name hconfigured

/-- The uplink is listed once after its device has appeared and gone. -/
theorem listInterfaceStatus_names_wan :
    (((run wanConfig [.poll (pollAt 0 [] []),
        .event ⟨newLinkMessage 2 "eth0" .up, 1, 1⟩,
        .event ⟨delLinkMessage 2 "eth0", 2, 2⟩]).listInterfaceStatus (Shuffle.id _)).filterMap
          NetworkInterfaceStatus.name).count "uplink" = 1 := by
  have hdevices : wanConfig.DistinctDevices := by decide
  have hlinks : wanConfig.DistinctLinks := by decide
  refine (listInterfaceStatus_names wanConfig _ (Shuffle.id _)).2 hdevices hlinks ?_ [] _ _ rfl
    ⟨_, tryPoll_of_ok rfl rfl⟩ "uplink" ⟨⟨"wan"⟩, rfl⟩
  intro input hinput linkData hlinkData
  obtain rfl : input = pollAt 0 [] [] := by simpa using hinput
  cases hlinkData
  exact ⟨by decide, by decide⟩

end InterfaceManager

/-! ## Links -/

section Links

variable {config : Router} (hdevices : config.DistinctDevices)
include hdevices

/-- A successful poll lists the configured links. -/
theorem listsLinkNames_of_succeeds {input : PollInput} (hdump : DistinctDump config input)
    {db : InterfaceManagerDatabase} (h : InterfaceManagerDatabase.Coherent db)
    (hpoll : Succeeds config input db) :
    ListsNames (LinkNames config) (poll config input db).networkLinks.content := by
  obtain ⟨result, hresult⟩ := hpoll
  obtain ⟨linkData, networkData, hlinkData, hnetworkData, rfl⟩ := tryPoll_eq_ok hresult
  have hpolled :=
    (reconciles_networkLinks hdevices (hdump linkData hlinkData) h input networkData).polled
  rw [poll_of_dumps ⟨hlinkData, hnetworkData⟩]
  rintro name ⟨link, hlink⟩
  by_cases hreported : Unreported (reportedLinks config linkData) name
  · exact ⟨_, (hpolled.mem_iff _).mpr ⟨_, _, .missing hlink hreported, rfl⟩, by
      rw [id_heldItem]⟩
  · rw [Unreported] at hreported
    push Not at hreported
    obtain ⟨⟨index, status⟩, hr, hname⟩ := hreported
    exact ⟨_, (hpolled.mem_iff _).mpr ⟨_, _, .reported hr, rfl⟩, by
      rw [id_heldItem]
      exact hname⟩

/-- A poll keeps the configured links listed. -/
theorem listsLinkNames_poll {input : PollInput} (hdump : DistinctDump config input)
    {db : InterfaceManagerDatabase} (h : InterfaceManagerDatabase.Coherent db)
    (hnames : ListsNames (LinkNames config) db.networkLinks.content) :
    ListsNames (LinkNames config) (poll config input db).networkLinks.content := by
  cases hresult : tryPoll config input db with
  | ok result => exact listsLinkNames_of_succeeds hdevices hdump h ⟨result, hresult⟩
  | error e =>
    rw [poll, hresult]
    exact hnames

end Links

/-- A step announces a device under an index that the table has for a configured link of another
device. -/
def Displaces (config : Router) (db : InterfaceManagerDatabase) : ManagerStep → Prop
  | .poll _ => False
  | .event event =>
    ∃ message index link, event.message.payload = .innerMessage (.newLink message) ∧
      (NetlinkMessageProcessor.new config).processLinkMessage event.message = some (index, link) ∧
      ∃ item ∈ db.networkLinks.content, item.id.id = some index ∧ item.id.name.isSome ∧
        item.status.device ≠ link.device

section LinkSteps

variable {config : Router} (hdevices : config.DistinctDevices) {db : InterfaceManagerDatabase}
  (h : ManagerInvariant config db)
include hdevices h

/-- An event that does not displace a configured link keeps the links listed. -/
theorem listsLinkNames_messageReceived {names : String → Prop}
    (hnames : ListsNames names db.networkLinks.content) {event : Event}
    (hdisplaces : ¬ Displaces config db (.event event)) :
    ListsNames names (messageReceived (.new config) event db).1.networkLinks.content := by
  rw [networkLinks_messageReceived h.coherent]
  cases hchange : LinkChange.ofEvent config event with
  | none => exact hnames
  | some change =>
    have hmapped := (LinkChange.name_of_ofEvent hchange).1
    intro name hnamed
    obtain ⟨item, hitem, hname⟩ := hnames name hnamed
    by_cases hclash : Clash CanonicalNetworkId.keys item.id change.id
    · by_cases hdevice : change.link.device = item.status.device
      · -- the event is about the device of the link, and leaves a link of its name
        rw [hdevice, ← (h.links item hitem).name_eq_lookup hdevices, hname] at hmapped
        obtain ⟨new, hleaves, hnew⟩ := LinkChange.exists_leaves_of_name event.linkNow hmapped
        exact ⟨new, LinkChange.mem_store.mpr (Or.inl hleaves), hnew⟩
      · obtain ⟨index, hindex, hid⟩ :=
          (h.links item hitem).index_eq_of_clash hdevices rfl hmapped hdevice hclash
        cases change with
        | removed link => cases hid
        | added index' link =>
          obtain rfl : index' = index := Option.some.inj hid
          obtain ⟨⟨message, hmessage⟩, hlink, -⟩ := LinkChange.ofEvent_eq_added hchange
          exact absurd ⟨message, index', link, hmessage, hlink, item, hitem, hindex,
            by rw [hname, Option.isSome_some], Ne.symm hdevice⟩ hdisplaces
    · exact ⟨item, LinkChange.mem_store.mpr (Or.inr ⟨hitem, hclash⟩), hname⟩

/-- A step that displaces a configured link takes a configured name off the list. -/
theorem not_listed_of_displaces {step : ManagerStep} (hdisplaces : Displaces config db step) :
    ∃ name, LinkNames config name ∧
      ∀ item ∈ (step.apply config db).networkLinks.content, item.id.name ≠ some name := by
  cases step with
  | poll input => exact hdisplaces.elim
  | event event =>
    obtain ⟨message, index, link, hmessage, hlink, item, hitem, hindex, hsome, hdevice⟩ := hdisplaces
    obtain ⟨name, hname⟩ := Option.isSome_iff_exists.mp hsome
    have hinvariant := h.links item hitem
    obtain ⟨networkLink, hnetworkLink, -⟩ :=
      hinvariant.link_of_name name (hinvariant.name_eq ▸ hname)
    refine ⟨name, ⟨networkLink, hnetworkLink⟩, ?_⟩
    have happly : (ManagerStep.event event).apply config db =
        (newLinkReceived event index link db).1 := by
      rw [ManagerStep.apply, messageReceived, hmessage]
      simp only [hlink]
    obtain ⟨db', updates, hreceived, -, hlinks, -⟩ :=
      newLinkReceived_spec h.coherent event index link
    rw [happly, hreceived, hlinks]
    intro other hother hothername
    -- the new item has another name, and the old one is gone
    rcases mem_put.mp hother with rfl | ⟨hother, hfree⟩
    · have hmapped := (NetlinkMessageProcessor.processLinkMessage_eq_some hlink).1
      have hmapped' := hinvariant.name_eq_lookup hdevices
      rw [hname] at hmapped'
      have hothername' : link.name = some name := hothername
      rw [hothername'] at hmapped
      exact hdevice (NetlinkMessageProcessor.deviceLinks_injective hmapped'.symm hmapped.symm)
    · -- a name has one item, and this one shared the index
      have hseparated := h.coherent.networkLinks.separated
      obtain rfl : other = item := hseparated.eq_of_clash hother hitem
        (CanonicalNetworkId.clash_of_name hothername hname)
      exact hfree (CanonicalNetworkId.clash_of_index hindex rfl)

end LinkSteps

namespace InterfaceManager

variable {config : Router}

/-- No step displaces a configured link where a run goes on after a start. -/
def NeverDisplaces (config : Router) (start steps : List ManagerStep) : Prop :=
  ∀ before step after, steps = before ++ step :: after →
    ¬ Displaces config (run config (start ++ before)) step

/-- From the first successful poll on, the configured links are in the table. -/
theorem listsLinkNames_run (hdevices : config.DistinctDevices) (before : List ManagerStep)
    (input : PollInput) (hpoll : Succeeds config input (run config before))
    (after : List ManagerStep) (hdumps : DistinctDumps config (before ++ .poll input :: after))
    (hdisplaces : NeverDisplaces config (before ++ [.poll input]) after) :
    ListsNames (LinkNames config)
      (run config (before ++ .poll input :: after)).networkLinks.content := by
  -- what happens before the poll does not matter, since the poll lists them all
  induction after using List.reverseRecOn with
  | nil =>
    rw [run_append_singleton]
    exact listsLinkNames_of_succeeds hdevices (hdumps input (by simp))
      (ManagerInvariant.run config before).coherent hpoll
  | append_singleton after step ih =>
    have hsplit : before ++ .poll input :: (after ++ [step]) =
        (before ++ .poll input :: after) ++ [step] := by simp
    rw [hsplit] at hdumps ⊢
    have hinvariant := ManagerInvariant.run config (before ++ .poll input :: after)
    have hnames := ih (fun input' hinput' => hdumps input' (List.mem_append_left _ hinput'))
      fun before' step' after' heq => hdisplaces before' step' (after' ++ [step]) (by simp [heq])
    have hstep := hdisplaces after step [] rfl
    rw [List.append_assoc, List.singleton_append] at hstep
    rw [run_append_singleton]
    cases step with
    | poll input' => exact listsLinkNames_poll hdevices (hdumps input' (by simp)) hinvariant.coherent hnames
    | event event =>
      exact listsLinkNames_messageReceived hdevices hinvariant hnames hstep

/-- **Configured links stay listed** from the first successful poll on, while none is displaced. -/
theorem listLinkStatus_names_of_not_displaces (hdevices : config.DistinctDevices)
    (before : List ManagerStep) (input : PollInput) (after : List ManagerStep)
    (hdumps : DistinctDumps config (before ++ .poll input :: after))
    (hpoll : Succeeds config input (run config before))
    (hdisplaces : NeverDisplaces config (before ++ [.poll input]) after)
    (order : Shuffle (ℕ × LinkItem)) (name : String) (hname : LinkNames config name) :
    (((run config (before ++ .poll input :: after)).listLinkStatus order).filterMap
      NetworkLinkStatus.name).count name = 1 := by
  have hinvariant := ManagerInvariant.run config (before ++ .poll input :: after)
  have hnames : ∀ item ∈ (run config (before ++ .poll input :: after)).networkLinks.content,
      item.id.name = item.status.name :=
    fun item hitem => (hinvariant.links item hitem).name_eq
  apply List.count_eq_one_of_mem
    (nodup_names_listStatus hnames order hinvariant.coherent.networkLinks)
  refine (mem_names_listStatus hnames order).mpr ?_
  exact listsLinkNames_run hdevices before input hpoll after hdumps hdisplaces name hname

/-- Before any poll, the device of the configured link is renamed under its index. -/
def displacedEarly : List ManagerStep :=
  [.event ⟨newLinkMessage 2 "eth0" .up, 1, 1⟩, .event ⟨newLinkMessage 2 "lan0" .up, 2, 2⟩]

/-- A poll lists the link again, and it is listed once after its device has gone. -/
theorem listLinkStatus_names_wan :
    (((run wanConfig (displacedEarly ++ .poll (pollAt 3 [newLinkMessage 2 "eth0" .up] []) ::
        [.event ⟨delLinkMessage 2 "eth0", 4, 4⟩])).listLinkStatus (Shuffle.id _)).filterMap
          NetworkLinkStatus.name).count "wan" = 1 := by
  have hdevices : wanConfig.DistinctDevices := by decide
  refine listLinkStatus_names_of_not_displaces hdevices displacedEarly _ _ ?_
    ⟨_, tryPoll_of_ok rfl rfl⟩ ?_ (Shuffle.id _) "wan" ⟨⟨"eth0"⟩, rfl⟩
  · intro input hinput linkData hlinkData
    obtain rfl : input = pollAt 3 [newLinkMessage 2 "eth0" .up] [] := by
      simpa [displacedEarly] using hinput
    cases hlinkData
    exact distinctReports_wan
  · intro before step after hsteps
    have hmem : step ∈ [ManagerStep.event ⟨delLinkMessage 2 "eth0", 4, 4⟩] := by
      rw [hsteps]
      simp
    rw [List.mem_singleton.mp hmem]
    rintro ⟨message, index, link, hmessage, -⟩
    cases hmessage

/-- A device that is renamed under its index takes the configured link off the list. -/
theorem not_listLinkStatus_names :
    ¬ ∀ (config : Router) (before : List ManagerStep) (input : PollInput)
      (after : List ManagerStep) (order : Shuffle (ℕ × LinkItem)) (name : String),
      config.DistinctDevices → DistinctDumps config (before ++ .poll input :: after) →
      Succeeds config input (run config before) → LinkNames config name →
      (((run config (before ++ .poll input :: after)).listLinkStatus order).filterMap
        NetworkLinkStatus.name).count name = 1 := by
  intro h
  have hdevices : wanConfig.DistinctDevices := by decide
  have hdumps : DistinctDumps wanConfig ([] ++
      .poll (pollAt 0 [newLinkMessage 2 "eth0" .up] []) ::
        [.event ⟨newLinkMessage 2 "lan0" .up, 1, 1⟩]) := by
    intro input hinput linkData hlinkData
    obtain rfl : input = pollAt 0 [newLinkMessage 2 "eth0" .up] [] := by simpa using hinput
    cases hlinkData
    exact distinctReports_wan
  have hcount := h wanConfig [] _ _ (Shuffle.id _) "wan" hdevices hdumps
    ⟨_, tryPoll_of_ok rfl rfl⟩ ⟨⟨"eth0"⟩, rfl⟩
  revert hcount
  decide +kernel

end InterfaceManager

end RustyRouter
