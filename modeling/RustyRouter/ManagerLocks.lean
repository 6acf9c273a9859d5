/-
# The tasks of the interface manager under every schedule

Whatever the order in which the tasks move, the database is at each time, unless
someone is changing it, the one that a run of the interface manager reaches: the
run of the polls and events in the order in which they released the database.
Every listing shows the database at one moment between the start and the end of
the task that asked for it, and a task that asks again sees a later one
(`run_linearizable`).  No deadlock is possible: under a fair schedule only a receive
that does not return keeps a task from its end, its own or one on the socket that it
asks for (`tasks_finish`).  When all tasks are done, everything was published that
the polls and events say, in the order of each task (`published_of_finished`).
-/
import RustyRouter.ManagerTasks
import RustyRouter.PollReference

namespace RustyRouter

open LockSystem InterfaceManagerWorker InterfaceManagerNetlinkSocketListener
open ManagerLock (Guarded)

variable {ι : Type}

/-! ## The resources of the locks -/

/-- By what the changes of a value are labelled. -/
abbrev ManagerLock.Label : ManagerLock → Type
  | socket => Empty
  | multicastSocket => Empty
  | database => ManagerStep
  | subscribers => SubscriberStep

open ManagerLock (Label)

/-- What is behind a lock while nobody changes it. -/
def Resource (config : Router) : ∀ lock, List (ι × Label lock) → Guarded lock → Prop
  | .socket, _, _ => True
  | .multicastSocket, _, _ => True
  | .database, history, db => db = InterfaceManager.run config (history.map Prod.snd)
  | .subscribers, history, subscribers => subscribers = Subscribers.run (history.map Prod.snd)

/-- The subscribers after one more step are those of the longer history. -/
theorem resource_subscribers {config : Router} {i : ι} {history : List (ι × SubscriberStep)}
    {subscribers : Subscribers} (step : SubscriberStep)
    (h : Resource config .subscribers history subscribers) :
    Resource config .subscribers (history ++ [(i, step)]) (subscribers.apply step) := by
  rw [show subscribers = Subscribers.run (history.map Prod.snd) from h]
  show _ = Subscribers.run ((history ++ [(i, step)]).map Prod.snd)
  rw [List.map_append]
  exact (Subscribers.run_append_singleton _ _).symm

/-- The database after one more step is that of the longer history. -/
theorem resource_database {config : Router} {i : ι} {history : List (ι × ManagerStep)}
    {db : InterfaceManagerDatabase} (step : ManagerStep) (h : Resource config .database history db) :
    Resource config .database (history ++ [(i, step)]) (step.apply config db) := by
  rw [show db = InterfaceManager.run config (history.map Prod.snd) from h]
  show _ = InterfaceManager.run config ((history ++ [(i, step)]).map Prod.snd)
  rw [List.map_append]
  exact (InterfaceManager.run_append_singleton _ _ _).symm

/-- The updates that a step on a database is to publish. -/
def ManagerStep.updates (config : Router) (db : InterfaceManagerDatabase) :
    ManagerStep → List NetworkStatusUpdate
  | poll input =>
    match tryPoll config input db with
    | .ok (_, updates) => updates
    | .error _ => []
  | event e => (messageReceived (.new config) e db).2

variable [DecidableEq ι]

/-- The updates that the steps of one task are to publish, where the steps of all tasks follow each
other from a database on. -/
def publishedFrom (config : Router) (i : ι) :
    InterfaceManagerDatabase → List (ι × ManagerStep) → List NetworkStatusUpdate
  | _, [] => []
  | db, (j, step) :: history =>
    (if j = i then step.updates config db else []) ++
      publishedFrom config i (step.apply config db) history

/-- The updates that the steps of one task are to publish. -/
def publishedBy (config : Router) (i : ι) (history : List (ι × ManagerStep)) :
    List NetworkStatusUpdate :=
  publishedFrom config i .new history

section PublishedBy

variable {config : Router} {i : ι}

/-- What a task publishes of a history in two parts. -/
theorem publishedFrom_append (db : InterfaceManagerDatabase)
    (history history' : List (ι × ManagerStep)) :
    publishedFrom config i db (history ++ history') =
      publishedFrom config i db history ++
        publishedFrom config i ((history.map Prod.snd).foldl (ManagerStep.apply config) db)
          history' := by
  induction history generalizing db with
  | nil => rfl
  | cons entry history ih =>
    obtain ⟨j, step⟩ := entry
    rw [List.cons_append, publishedFrom, publishedFrom, ih, List.append_assoc]
    rfl

/-- The step of a task adds what it is to publish. -/
theorem publishedBy_append_own (history : List (ι × ManagerStep)) (step : ManagerStep) :
    publishedBy config i (history ++ [(i, step)]) =
      publishedBy config i history ++
        step.updates config (InterfaceManager.run config (history.map Prod.snd)) := by
  rw [publishedBy, publishedFrom_append, publishedFrom, publishedFrom, if_pos rfl, List.append_nil]
  rfl

/-- A task without steps of its own publishes nothing. -/
theorem publishedFrom_eq_nil {db : InterfaceManagerDatabase} {history : List (ι × ManagerStep)}
    (h : own i history = []) : publishedFrom config i db history = [] := by
  induction history generalizing db with
  | nil => rfl
  | cons entry history ih =>
    obtain ⟨j, step⟩ := entry
    have hj : j ≠ i := by
      rintro rfl
      simp [own] at h
    rw [publishedFrom, if_neg hj, List.nil_append]
    exact ih (by simpa [own, hj] using h)

/-- The steps of others add nothing. -/
theorem publishedBy_of_own {history history' : List (ι × ManagerStep)} (h : history <+: history')
    (hown : own i history' = own i history) :
    publishedBy config i history' = publishedBy config i history := by
  obtain ⟨others, rfl⟩ := h
  rw [own_append, List.append_right_eq_self] at hown
  rw [publishedBy, publishedFrom_append, publishedFrom_eq_nil hown, List.append_nil]
  rfl

end PublishedBy

/-! ## The tasks, one by one -/

/-- What a task knows. -/
abbrev Knowledge (ι : Type) : Type := Local ι Guarded Label

section Verified

variable {config : Router} {i : ι} {env : Knowledge ι}

omit [DecidableEq ι] in
/-- Who holds neither may take the database. -/
theorem below_database (hdatabase : env.held .database = none)
    (hsubscribers : env.held .subscribers = none) (lower : ManagerLock)
    (hheld : env.held lower ≠ none) : lower < .database := by
  cases lower with
  | socket => decide
  | multicastSocket => decide
  | database => exact absurd hdatabase hheld
  | subscribers => exact absurd hsubscribers hheld

omit [DecidableEq ι] in
/-- Who does not hold them may take the subscribers. -/
theorem below_subscribers (hsubscribers : env.held .subscribers = none) (lower : ManagerLock)
    (hheld : env.held lower ≠ none) : lower < .subscribers := by
  cases lower with
  | subscribers => exact absurd hsubscribers hheld
  | _ => decide

/-- A pass adds itself to the history of the subscribers. -/
theorem verified_passTask (trySend : TrySend) (updates : List NetworkStatusUpdate)
    (hsubscribers : env.held .subscribers = none) :
    Verified (Resource config) i
      (fun env' _ => ∃ known, env.seen .subscribers <+: known ∧
        own i known = own i (env.seen .subscribers) ∧
          env' = env.saw .subscribers (known ++ [(i, .pass updates trySend)]))
      (passTask trySend updates) env := by
  refine .update (.pass updates trySend) (below_subscribers hsubscribers) hsubscribers ?_ ?_
  · exact fun subscribers history => resource_subscribers (.pass updates trySend)
  · intro _ known hseen hown _
    exact ⟨known, hseen, hown, rfl⟩

/-- What a task has done between two moments: some steps on the database, and it has published what
they say. -/
structure Did (config : Router) (i : ι) (steps : List ManagerStep) (env env' : Knowledge ι) :
    Prop where
  held : env'.held = env.held
  grows : Grows env.seen env'.seen
  own_database : own i (env'.seen .database) = own i (env.seen .database) ++ steps
  published :
    SubscriberStep.published (own i (env.seen .subscribers)) =
        publishedBy config i (env.seen .database) →
      SubscriberStep.published (own i (env'.seen .subscribers)) =
        publishedBy config i (env'.seen .database)

/-- What a task did before and after adds up. -/
theorem Did.trans {steps steps' : List ManagerStep} {env' env'' : Knowledge ι}
    (h : Did config i steps env env') (h' : Did config i steps' env' env'') :
    Did config i (steps ++ steps') env env'' where
  held := h'.held.trans h.held
  grows := h.grows.trans h'.grows
  own_database := by rw [h'.own_database, h.own_database, List.append_assoc]
  published := h'.published ∘ h.published

/-- The updates of two lists of passes. -/
theorem published_append (passes passes' : List SubscriberStep) :
    SubscriberStep.published (passes ++ passes') =
      SubscriberStep.published passes ++ SubscriberStep.published passes' :=
  List.flatMap_append

omit [DecidableEq ι] in
/-- Having seen more of a lock is having seen more. -/
theorem grows_saw {lock : ManagerLock} {known : List (ι × Label lock)}
    (h : env.seen lock <+: known) : Grows env.seen (env.saw lock known).seen := by
  intro lock'
  by_cases hlock : lock' = lock
  · subst hlock
    rwa [Local.seen_saw]
  · rw [Local.seen_saw_of_ne hlock]

/-- One step on the database, with the passes that publish it. -/
theorem Did.of_step {known : List (ι × ManagerStep)} {sent : List (ι × SubscriberStep)}
    {step : ManagerStep} {passes : List SubscriberStep} (hseen : env.seen .database <+: known)
    (hown : own i known = own i (env.seen .database)) (hsent : env.seen .subscribers <+: sent)
    (hpassed : own i sent = own i (env.seen .subscribers) ++ passes)
    (hpasses : SubscriberStep.published passes =
      step.updates config (InterfaceManager.run config (known.map Prod.snd))) :
    Did config i [step] env
      ((env.saw .database (known ++ [(i, step)])).saw .subscribers sent) := by
  have hsubscribers : ((env.saw .database (known ++ [(i, step)])).saw .subscribers sent).seen
      .subscribers = sent := Local.seen_saw ..
  have hdatabase : ((env.saw .database (known ++ [(i, step)])).saw .subscribers sent).seen
      .database = known ++ [(i, step)] := by
    rw [Local.seen_saw_of_ne (by decide), Local.seen_saw]
  refine ⟨rfl, ?_, ?_, fun hpublished => ?_⟩
  · refine (grows_saw (hseen.trans (List.prefix_append _ _))).trans (grows_saw ?_)
    rwa [Local.seen_saw_of_ne (by decide)]
  · rw [hdatabase, own_append_self, hown]
  · rw [hsubscribers, hdatabase, hpassed, published_append, hpublished, hpasses,
      publishedBy_append_own, publishedBy_of_own hseen hown]

/-- One step on the database that has nothing to publish. -/
theorem Did.of_silent_step {known : List (ι × ManagerStep)} {step : ManagerStep}
    (hseen : env.seen .database <+: known) (hown : own i known = own i (env.seen .database))
    (hsilent : step.updates config (InterfaceManager.run config (known.map Prod.snd)) = []) :
    Did config i [step] env (env.saw .database (known ++ [(i, step)])) := by
  have hdid : Did config i [step] env ((env.saw .database (known ++ [(i, step)])).saw .subscribers
      (env.seen .subscribers)) :=
    Did.of_step hseen hown List.prefix_rfl (List.append_nil _).symm hsilent.symm
  have hsubscribers : (env.saw .database (known ++ [(i, step)])).seen .subscribers =
      env.seen .subscribers := Local.seen_saw_of_ne (by decide) _
  rwa [← hsubscribers, Local.saw_seen] at hdid

/-- Nothing on the database, and nothing is published. -/
theorem Did.of_seen {env' : Knowledge ι} (hheld : env'.held = env.held)
    (hgrows : Grows env.seen env'.seen)
    (hdatabase : own i (env'.seen .database) = own i (env.seen .database))
    (hsubscribers : SubscriberStep.published (own i (env'.seen .subscribers)) =
      SubscriberStep.published (own i (env.seen .subscribers))) : Did config i [] env env' where
  held := hheld
  grows := hgrows
  own_database := by rw [hdatabase, List.append_nil]
  published := by
    intro hpublished
    rw [hsubscribers, hpublished, publishedBy_of_own (hgrows .database) hdatabase]

/-! ### Events -/

section NewLink

variable {event : Event} {index : UInt64} {link : NetworkLinkStatus} {db : InterfaceManagerDatabase}

omit [DecidableEq ι] in
/-- A `NewLink` event with an interface on the device stores and announces both. -/
theorem newLinkReceived_of_some {interface : InterfaceItem}
    (h : interfaceOnDevice (db.setLinkStatusItem (newLinkItem event index link)).1 index
      link.device = some interface) :
    newLinkReceived event index link db =
      (((db.setLinkStatusItem (newLinkItem event index link)).1.setInterfaceStatusItem
          (updatedInterface (some index) link event.interfaceNow interface)).1,
        [.link link,
          .interface (updatedInterface (some index) link event.interfaceNow interface).status]) := by
  simp only [newLinkItem, reportedId] at h
  simp only [newLinkReceived, h]
  rfl

omit [DecidableEq ι] in
/-- A `NewLink` event without an interface on the device stores and announces the link. -/
theorem newLinkReceived_of_none
    (h : interfaceOnDevice (db.setLinkStatusItem (newLinkItem event index link)).1 index
      link.device = none) :
    newLinkReceived event index link db =
      ((db.setLinkStatusItem (newLinkItem event index link)).1, [.link link]) := by
  simp only [newLinkItem, reportedId] at h
  simp only [newLinkReceived, h]
  rfl

end NewLink

variable {event : Event} {index : UInt64}

/-- Handling a `NewLink` event is one step on the database, and publishes what the step announces
before the database is released. -/
theorem verified_newLinkTask {link : NetworkLinkStatus} (trySend : TrySend)
    (hdatabase : env.held .database = none) (hsubscribers : env.held .subscribers = none)
    (hreceived : ∀ db, messageReceived (.new config) event db = newLinkReceived event index link db) :
    Verified (Resource config) i (fun env' _ => Did config i [.event event] env env')
      (newLinkTask event index link trySend) env := by
  refine ⟨below_database hdatabase hsubscribers, fun db known hseen hown hresource => ?_⟩
  obtain rfl : db = InterfaceManager.run config (known.map Prod.snd) := hresource
  -- the link is stored, and announced while the database is held
  refine .modify (Local.held_take ..) ?_
  rw [Local.put_take]
  refine ⟨.exclusive, _, Local.held_take .., ?_⟩
  refine (verified_passTask trySend [.link link] ?_).andThen ?_
  · exact hsubscribers
  · rintro env' _ ⟨known', hseen', hown', rfl⟩
    rw [Local.seen_take_of_ne (by decide)] at hseen' hown'
    have hfirst : own i (known' ++ [(i, .pass [.link link] trySend)]) =
        own i (env.seen .subscribers) ++ [.pass [.link link] trySend] := by
      rw [own_append_self, hown']
    have happly := resource_database (i := i) (.event event) (rfl : Resource config .database known _)
    rw [ManagerStep.apply, hreceived] at happly
    split
    case h_1 interface hinterface =>
      -- the interface is stored and announced as well
      rw [newLinkReceived_of_some hinterface] at happly
      refine .modify (Local.held_saw_take ..) ?_
      rw [Local.put_saw, Local.put_take]
      refine (verified_passTask trySend [.interface _] ?_).andThen ?_
      · exact hsubscribers
      · rintro env' _ ⟨known'', hseen'', hown'', rfl⟩
        rw [Local.seen_saw] at hseen'' hown''
        rw [Local.saw_saw]
        refine .release [.event event] (Local.held_saw_take ..) ?_ ?_
        · rw [Local.seen_saw_of_ne (by decide), Local.seen_take]
          exact happly
        · rw [Local.drop_saw (by decide), Local.drop_take hdatabase]
          have hpassed : ∀ second, own i (known'' ++ [(i, second)]) =
              own i (env.seen .subscribers) ++ [.pass [.link link] trySend, second] := by
            intro second
            rw [own_append_self, hown'', hfirst, List.append_assoc]
            rfl
          refine Did.of_step hseen hown ?_ (hpassed _) ?_
          · exact (hseen'.trans (List.prefix_append _ _)).trans
              (hseen''.trans (List.prefix_append _ _))
          · rw [ManagerStep.updates, hreceived, newLinkReceived_of_some hinterface]
            rfl
    case h_2 hnone =>
      -- there is nothing more to announce
      rw [newLinkReceived_of_none hnone] at happly
      refine .release [.event event] (Local.held_saw_take ..) ?_ ?_
      · rw [Local.seen_saw_of_ne (by decide), Local.seen_take]
        exact happly
      · rw [Local.drop_saw (by decide), Local.drop_take hdatabase]
        refine Did.of_step hseen hown (hseen'.trans (List.prefix_append _ _)) hfirst ?_
        rw [ManagerStep.updates, hreceived, newLinkReceived_of_none hnone]
        rfl

/-- Handling a `DelLink` event is one step on the database. -/
theorem verified_delLinkTask {link : NetworkLinkStatus} (hdatabase : env.held .database = none)
    (hsubscribers : env.held .subscribers = none)
    (hreceived : ∀ db, messageReceived (.new config) event db =
      (delLinkReceived event index link db, [])) :
    Verified (Resource config) i (fun env' _ => Did config i [.event event] env env')
      (delLinkTask event index link) env := by
  refine ⟨below_database hdatabase hsubscribers, fun db known hseen hown hresource => ?_⟩
  have happly := resource_database (i := i) (.event event) hresource
  obtain rfl : db = InterfaceManager.run config (known.map Prod.snd) := hresource
  rw [ManagerStep.apply, hreceived] at happly
  refine ⟨.exclusive, _, Local.held_take .., ⟨_, Local.held_take ..⟩, ?_⟩
  rw [Local.put_take]
  refine .modify (Local.held_take ..) ?_
  rw [Local.put_take]
  refine .release [.event event] (Local.held_take ..) ?_ ?_
  · rw [Local.seen_take]
    exact happly
  · rw [Local.drop_take hdatabase]
    refine Did.of_silent_step hseen hown ?_
    rw [ManagerStep.updates, hreceived]

/-- Handling an address event is one step on the database. -/
theorem verified_addressTask {change : List IpAddress → List IpAddress}
    (hdatabase : env.held .database = none) (hsubscribers : env.held .subscribers = none)
    (hreceived : ∀ db, messageReceived (.new config) event db =
      (addressReceived change event index db, [])) :
    Verified (Resource config) i (fun env' _ => Did config i [.event event] env env')
      (addressTask change event index) env := by
  refine .update (.event event) (below_database hdatabase hsubscribers) hdatabase ?_ ?_
  · intro db history hresource
    have happly := resource_database (i := i) (.event event) hresource
    rwa [ManagerStep.apply, hreceived] at happly
  · intro db known hseen hown hresource
    refine Did.of_silent_step hseen hown ?_
    rw [ManagerStep.updates, hreceived]

end Verified

/-- The step on the database that an event is, if the listener handles it. -/
def Event.steps (config : Router) (event : Event) : List ManagerStep :=
  match event.message.payload with
  | .innerMessage (.newLink _) | .innerMessage (.delLink _) =>
    if ((NetlinkMessageProcessor.new config).processLinkMessage event.message).isSome then
      [.event event]
    else []
  | .innerMessage (.newAddress _) | .innerMessage (.delAddress _) =>
    if (NetlinkMessageProcessor.processAddressMessage event.message).isSome then [.event event]
    else []
  | _ => []

section Verified

variable {config : Router} {i : ι} {env : Knowledge ι}

/-- Who does nothing has done no steps. -/
theorem Did.refl : Did config i [] env env := .of_seen rfl (.refl _) rfl rfl

/-- Handling a message does the steps of its event, whatever its kind. -/
theorem verified_messageReceivedTask (event : Event) (trySend : TrySend)
    (hdatabase : env.held .database = none) (hsubscribers : env.held .subscribers = none) :
    Verified (Resource config) i (fun env' _ => Did config i (event.steps config) env env')
      (messageReceivedTask (.new config) event trySend) env := by
  -- a message that says nothing makes no step
  unfold messageReceivedTask
  split
  case h_1 message hpayload =>
    cases hprocess : (NetlinkMessageProcessor.new config).processLinkMessage event.message with
    | some reported =>
      have hsteps : event.steps config = [.event event] := by simp [Event.steps, hpayload, hprocess]
      rw [hsteps]
      refine verified_newLinkTask trySend hdatabase hsubscribers fun db => ?_
      simp only [messageReceived, hpayload, hprocess]
    | none =>
      have hsteps : event.steps config = [] := by simp [Event.steps, hpayload, hprocess]
      rw [hsteps]
      exact Did.refl
  case h_2 message hpayload =>
    cases hprocess : (NetlinkMessageProcessor.new config).processLinkMessage event.message with
    | some reported =>
      have hsteps : event.steps config = [.event event] := by simp [Event.steps, hpayload, hprocess]
      rw [hsteps]
      refine verified_delLinkTask hdatabase hsubscribers fun db => ?_
      simp only [messageReceived, hpayload, hprocess]
    | none =>
      have hsteps : event.steps config = [] := by simp [Event.steps, hpayload, hprocess]
      rw [hsteps]
      exact Did.refl
  case h_3 message hpayload =>
    cases hprocess : NetlinkMessageProcessor.processAddressMessage event.message with
    | some reported =>
      have hsteps : event.steps config = [.event event] := by simp [Event.steps, hpayload, hprocess]
      rw [hsteps]
      refine verified_addressTask hdatabase hsubscribers fun db => ?_
      simp only [messageReceived, hpayload, hprocess]
    | none =>
      have hsteps : event.steps config = [] := by simp [Event.steps, hpayload, hprocess]
      rw [hsteps]
      exact Did.refl
  case h_4 message hpayload =>
    cases hprocess : NetlinkMessageProcessor.processAddressMessage event.message with
    | some reported =>
      have hsteps : event.steps config = [.event event] := by simp [Event.steps, hpayload, hprocess]
      rw [hsteps]
      refine verified_addressTask hdatabase hsubscribers fun db => ?_
      simp only [messageReceived, hpayload, hprocess]
    | none =>
      have hsteps : event.steps config = [] := by simp [Event.steps, hpayload, hprocess]
      rw [hsteps]
      exact Did.refl
  case h_5 hnewLink hdelLink hnewAddress hdelAddress =>
    have hsteps : event.steps config = [] := by
      unfold Event.steps
      split
      · exact absurd ‹_› (hnewLink _)
      · exact absurd ‹_› (hdelLink _)
      · exact absurd ‹_› (hnewAddress _)
      · exact absurd ‹_› (hdelAddress _)
      · rfl
    rw [hsteps]
    exact Did.refl

/-- The locks below the database do not stand in the way of the listener. -/
theorem verified_messagesTask (messages : List (Event × TrySend))
    (hdatabase : env.held .database = none) (hsubscribers : env.held .subscribers = none) :
    Verified (Resource config) i
      (fun env' _ => Did config i (messages.flatMap fun message => message.1.steps config) env env')
      (messagesTask (.new config) messages) env := by
  induction messages generalizing env with
  | nil => exact Did.refl
  | cons message messages ih =>
    obtain ⟨event, trySend⟩ := message
    refine (verified_messageReceivedTask event trySend hdatabase hsubscribers).andThen ?_
    rintro env' _ hdid
    have hrest := @ih env' (by rw [hdid.held]; exact hdatabase)
      (by rw [hdid.held]; exact hsubscribers)
    refine hrest.mono fun env'' _ hdid' => ?_
    rw [List.flatMap_cons]
    exact hdid.trans hdid'

/-- What is done under one of the sockets. -/
theorem Did.under {lock : ManagerLock} (hdatabase : .database ≠ lock)
    (hsubscribers : .subscribers ≠ lock) {steps : List ManagerStep} {mode : LockMode}
    {value : Guarded lock} {known : List (ι × Label lock)} {env' : Knowledge ι}
    (hnone : env.held lock = none) (hseen : env.seen lock <+: known)
    (h : Did config i steps (env.take lock mode value known) env') (labels : List (Label lock)) :
    Did config i steps env (env'.drop i lock labels) := by
  have hdatabase' : (env'.drop i lock labels).seen .database = env'.seen .database :=
    Function.update_of_ne hdatabase ..
  have hsubscribers' : (env'.drop i lock labels).seen .subscribers = env'.seen .subscribers :=
    Function.update_of_ne hsubscribers ..
  obtain ⟨hheld, hgrows, hown, hpublished⟩ := h
  rw [Local.seen_take_of_ne hdatabase] at hown hpublished
  rw [Local.seen_take_of_ne hsubscribers] at hpublished
  refine ⟨?_, ?_, ?_, fun h => ?_⟩
  · show Function.update env'.held lock none = env.held
    rw [hheld]
    show Function.update (Function.update env.held lock _) lock none = env.held
    rw [Function.update_idem, ← hnone, Function.update_eq_self]
  · refine Grows.trans ?_ (hgrows.trans ?_)
    · exact grows_saw hseen
    · exact grows_saw (List.prefix_append _ _)
  · rw [hdatabase', hown]
  · rw [hdatabase', hsubscribers', hpublished h]

omit [DecidableEq ι] in
/-- Who has taken one lock holds no other. -/
theorem eq_of_held_take {lock lower : ManagerLock} {mode : LockMode} {value : Guarded lock}
    {known : List (ι × Label lock)} (hfree : env.Free)
    (hheld : (env.take lock mode value known).held lower ≠ none) : lower = lock := by
  by_contra hne
  exact hheld ((Local.held_take_of_ne hne mode value known).trans (hfree lower))

/-- A `recv_loop` under the lock of its socket, whether it returns or not. -/
theorem verified_recvLoopTask {lock : ManagerLock} (turns : Option ℕ)
    (honly : ∀ lower, env.held lower ≠ none → lower = lock) :
    Verified (Resource config) i (fun env' _ => env' = env) (recvLoopTask lock turns) env := by
  cases turns with
  | some turns =>
    have hdone : Verified (Resource config) i (fun env' _ => env' = env) (.done ()) env := rfl
    exact hdone.turns turns
  | none => exact fun lower hheld => Or.inl (honly lower hheld)

/-- Handling the messages of a reception does the steps of all their events, in order. -/
theorem verified_multicastTask (turns : Option ℕ) (messages : List (Event × TrySend))
    (hfree : env.Free) :
    Verified (Resource config) i
      (fun env' _ => Did config i (messages.flatMap fun message => message.1.steps config) env env')
      (multicastTask (.new config) turns messages) env := by
  refine ⟨hfree.below _, fun value known hseen hown _ => ?_⟩
  refine (verified_recvLoopTask turns fun _ => eq_of_held_take hfree).andThen ?_
  rintro _ _ rfl
  refine (verified_messagesTask messages ?_ ?_).andThen ?_
  · exact hfree .database
  · exact hfree .subscribers
  · rintro env' _ hdid
    have hheld : env'.held .multicastSocket = some (.exclusive, value) := by
      rw [hdid.held]
      exact Local.held_take ..
    refine .release [] hheld trivial ?_
    exact hdid.under (by decide) (by decide) (hfree _) hseen []

/-! ### Polls -/

/-- A request takes the socket and does nothing to the database. -/
theorem verified_sendMessageTask (turns : Option ℕ) (hfree : env.Free) :
    Verified (Resource config) i (fun env' _ => Did config i [] env env') (sendMessageTask turns)
      env := by
  refine ⟨hfree.below _, fun value known hseen hown _ => ?_⟩
  refine (verified_recvLoopTask turns fun _ => eq_of_held_take hfree).andThen ?_
  rintro _ _ rfl
  refine .release [] (Local.held_take ..) trivial ?_
  exact Did.refl.under (by decide) (by decide) (hfree _) hseen []

/-- The commit of a poll adds the poll to the history of the database. -/
theorem verified_commitTask {input : PollInput} {linkData networkData : List NetlinkMessage}
    (hlinkData : input.linkData = .ok linkData) (hnetworkData : input.networkData = .ok networkData)
    (hdatabase : env.held .database = none) (hsubscribers : env.held .subscribers = none) :
    Verified (Resource config) i
      (fun env' updates => ∃ known, env.seen .database <+: known ∧
        own i known = own i (env.seen .database) ∧
          env' = env.saw .database (known ++ [(i, .poll input)]) ∧
            updates = (ManagerStep.poll input).updates config
              (InterfaceManager.run config (known.map Prod.snd)))
      (commitTask input (view config input linkData networkData)) env := by
  refine ⟨below_database hdatabase hsubscribers, fun db known hseen hown hresource => ?_⟩
  have happly := resource_database (i := i) (.poll input) hresource
  obtain rfl : db = InterfaceManager.run config (known.map Prod.snd) := hresource
  rw [ManagerStep.apply, InterfaceManagerWorker.poll, tryPoll_of_ok hlinkData hnetworkData] at happly
  -- first the links are written, then the interfaces
  refine ⟨.exclusive, _, Local.held_take .., ⟨_, Local.held_take ..⟩, ?_⟩
  rw [Local.put_take]
  refine ⟨.exclusive, _, Local.held_take .., ⟨_, Local.held_take ..⟩, ?_⟩
  rw [Local.put_take]
  refine .release [.poll input] (Local.held_take ..) ?_ ?_
  · rw [Local.seen_take]
    exact happly
  · rw [Local.drop_take hdatabase]
    refine ⟨known, hseen, hown, rfl, ?_⟩
    rw [ManagerStep.updates, tryPoll_of_ok hlinkData hnetworkData]
    rfl

end Verified

/-- The step on the database that a poll is, if it succeeds. -/
def PollInput.steps (input : PollInput) : List ManagerStep :=
  match input.linkData, input.networkData with
  | .ok _, .ok _ => [.poll input]
  | _, _ => []

section Verified

variable {config : Router} {i : ι} {env : Knowledge ι}

/-- A poll is one step on the database, when both dumps have come, and publishes after it has
released it. -/
theorem verified_tryPollTask (input : PollInput) (linkTurns networkTurns : Option ℕ)
    (trySend : TrySend) (hfree : env.Free) :
    Verified (Resource config) i (fun env' _ => Did config i input.steps env env')
      (tryPollTask config input linkTurns networkTurns trySend) env := by
  refine (verified_sendMessageTask linkTurns hfree).andThen fun env₁ _ hdid₁ => ?_
  -- a request leaves no lock held
  have hfree₁ : env₁.Free := fun lock => by rw [hdid₁.held]; exact hfree lock
  cases hlinkData : input.linkData with
  | error e =>
    rw [PollInput.steps, hlinkData]
    exact hdid₁
  | ok linkData =>
    refine (verified_sendMessageTask networkTurns hfree₁).andThen fun env₂ _ hdid₂ => ?_
    have hfree₂ : env₂.Free := fun lock => by rw [hdid₂.held]; exact hfree₁ lock
    cases hnetworkData : input.networkData with
    | error e =>
      rw [PollInput.steps, hlinkData, hnetworkData]
      exact hdid₁.trans hdid₂
    | ok networkData =>
      rw [PollInput.steps, hlinkData, hnetworkData]
      refine (verified_commitTask hlinkData hnetworkData (hfree₂ _) (hfree₂ _)).andThen ?_
      rintro _ _ ⟨known, hseen, hown, rfl, rfl⟩
      -- the database is released before the updates are sent
      refine (verified_passTask trySend _ ?_).mono ?_
      · exact hfree₂ .subscribers
      rintro _ _ ⟨known', hseen', hown', rfl⟩
      rw [Local.seen_saw_of_ne (by decide)] at hseen' hown'
      have hpassed : ∀ pass, own i (known' ++ [(i, pass)]) =
          own i (env₂.seen .subscribers) ++ [pass] := fun pass => by rw [own_append_self, hown']
      refine (hdid₁.trans hdid₂).trans (.of_step hseen hown ?_ (hpassed _) (List.append_nil _))
      exact hseen'.trans (List.prefix_append _ _)

end Verified

/-! ### Actions -/

namespace ManagerAction

/-- The steps on the database that an action is. -/
def steps (config : Router) : ManagerAction → List ManagerStep
  | poll input _ _ _ => input.steps
  | receive _ messages => messages.flatMap fun message => message.1.steps config
  | _ => []

/-- What an action answers, given the database. -/
def answer (db : InterfaceManagerDatabase) : ManagerAction → ManagerAnswer
  | listNetworkLinks order => .links (db.listLinkStatus order)
  | listNetworkInterfaces order => .interfaces (db.listInterfaceStatus order)
  | _ => .done

end ManagerAction

section Verified

variable {config : Router} {i : ι} {env : Knowledge ι}

/-- What is shown of the database is what the history up to then makes of it. -/
theorem verified_list {shown : InterfaceManagerDatabase → ManagerAnswer} (hfree : env.Free) :
    Verified (Resource config) i
      (fun env' answer => Did config i [] env env' ∧
        answer = shown (InterfaceManager.run config ((env'.seen .database).map Prod.snd)))
      (.acquire .database .shared <| .read .database fun db =>
        .release .database (.done (shown db))) env := by
  refine ⟨hfree.below _, fun db known hseen hown hresource => ?_⟩
  refine ⟨.shared, db, Local.held_take .., Or.inl ⟨db, Local.held_take .., ?_⟩⟩
  rw [Local.drop_take (hfree _), List.map_nil, List.append_nil]
  refine ⟨Did.of_seen rfl (grows_saw hseen) ?_ ?_, ?_⟩
  · rw [Local.seen_saw, hown]
  · rw [Local.seen_saw_of_ne (by decide)]
  · rw [Local.seen_saw]
    exact congrArg shown hresource

/-- Every action does its steps, and answers with a state of the database that it has seen. -/
theorem verified_action (action : ManagerAction) (hfree : env.Free) :
    Verified (Resource config) i
      (fun env' answer => Did config i (action.steps config) env env' ∧
        answer = action.answer (InterfaceManager.run config ((env'.seen .database).map Prod.snd)))
      (action.task config) env := by
  cases action with
  | poll input linkTurns networkTurns trySend =>
    exact (verified_tryPollTask input linkTurns networkTurns trySend hfree).andThen
      fun env' _ hdid => ⟨hdid, rfl⟩
  | receive turns messages =>
    exact (verified_multicastTask turns messages hfree).andThen fun env' _ hdid => ⟨hdid, rfl⟩
  | listNetworkLinks order => exact verified_list hfree
  | listNetworkInterfaces order => exact verified_list hfree
  | subscribe =>
    refine .update .subscribe (hfree.below _) (hfree _) (fun _ _ => resource_subscribers .subscribe) ?_
    intro _ known hseen hown _
    refine ⟨Did.of_seen rfl (grows_saw (hseen.trans (List.prefix_append _ _))) ?_ ?_, rfl⟩
    · rw [Local.seen_saw_of_ne (by decide)]
    · rw [Local.seen_saw, own_append_self, published_append, hown]
      exact List.append_nil _

/-- Actions of a task one after the other, with what they answer. -/
inductive Performed (config : Router) (i : ι) :
    List ManagerAction → List ManagerAnswer → Knowledge ι → Knowledge ι → Prop where
  | nil (env : Knowledge ι) : Performed config i [] [] env env
  | cons {action : ManagerAction} {actions : List ManagerAction} {answers : List ManagerAnswer}
      {env env' env'' : Knowledge ι} (hdid : Did config i (action.steps config) env env')
      (hrest : Performed config i actions answers env' env'') :
      Performed config i (action :: actions)
        (action.answer (InterfaceManager.run config ((env'.seen .database).map Prod.snd)) :: answers)
        env env''

/-- A task does the steps of its actions one after the other. -/
theorem verified_tasks (actions : List ManagerAction) (hfree : env.Free) :
    Verified (Resource config) i (fun env' answers => Performed config i actions answers env env')
      (ManagerAction.tasks config actions) env := by
  induction actions generalizing env with
  | nil => exact .nil env
  | cons action actions ih =>
    refine (verified_action action hfree).andThen ?_
    rintro env' _ ⟨hdid, rfl⟩
    have hfree' : env'.Free := fun lock => by rw [hdid.held]; exact hfree lock
    exact (ih hfree').andThen fun env'' answers hrest => .cons hdid hrest

/-- All that a task has done. -/
theorem Performed.did {actions : List ManagerAction} {answers : List ManagerAnswer}
    {env' : Knowledge ι} (h : Performed config i actions answers env env') :
    Did config i (actions.flatMap fun action => action.steps config) env env' := by
  induction h with
  | nil env => exact Did.refl
  | cons hdid hrest ih =>
    rw [List.flatMap_cons]
    exact hdid.trans ih

end Verified

/-! ## What the tasks ask for -/

namespace ManagerAction

/-- The locks that an action asks for. -/
def Asks (action : ManagerAction) (lock : ManagerLock) : Prop :=
  lock = .database ∨ lock = .subscribers ∨ ∃ turns, (lock, turns) ∈ action.receives

/-- The sockets on which a receive of an action does not return. -/
def Stays (action : ManagerAction) (lock : ManagerLock) : Prop := (lock, none) ∈ action.receives

/-- Receives are on sockets, which are below every other lock. -/
theorem eq_of_le_of_stays {action : ManagerAction} {lock greater : ManagerLock}
    (hle : lock ≤ greater) (h : action.Stays greater) : lock = greater := by
  have hsocket : greater = .socket ∨ greater = .multicastSocket := by
    cases action <;> simp [Stays, receives] at h <;> tauto
  revert hle
  rcases hsocket with rfl | rfl <;> cases lock <;> decide

/-- Who asks for a socket has a receive on it. -/
theorem Asks.receives_of_stays {action action' : ManagerAction} {lock : ManagerLock}
    (h : action.Asks lock) (hstays : action'.Stays lock) :
    ∃ turns, (lock, turns) ∈ action.receives := by
  rcases h with rfl | rfl | hreceive
  · have heq : ManagerLock.socket = .database := eq_of_le_of_stays (by decide) hstays
    cases heq
  · have heq : ManagerLock.socket = .subscribers := eq_of_le_of_stays (by decide) hstays
    cases heq
  · exact hreceive

section Within

variable {asks stays : ManagerLock → Prop}

/-- The receive loop stays with its socket only when it does not return. -/
theorem within_recvLoopTask {lock : ManagerLock} {turns : Option ℕ}
    (hstays : turns = none → stays lock) : (recvLoopTask lock turns).Within asks stays := by
  cases turns with
  | some turns =>
    have hdone : (Task.done () : Task Guarded Unit).Within asks stays := trivial
    exact hdone.turns turns
  | none => exact hstays rfl

/-- A request asks for the socket of the requests only. -/
theorem within_sendMessageTask {turns : Option ℕ} (hasks : asks .socket)
    (hstays : turns = none → stays .socket) : (sendMessageTask turns).Within asks stays :=
  ⟨hasks, (within_recvLoopTask hstays).andThen fun _ => trivial⟩

variable (hdatabase : asks .database) (hsubscribers : asks .subscribers)
include hsubscribers

/-- A pass asks for no socket. -/
theorem within_passTask (trySend : TrySend) (updates : List NetworkStatusUpdate) :
    (passTask trySend updates).Within asks stays :=
  ⟨hsubscribers, fun _ => trivial⟩

include hdatabase

/-- Handling a message asks for no socket. -/
theorem within_messageReceivedTask (processor : NetlinkMessageProcessor) (event : Event)
    (trySend : TrySend) : (messageReceivedTask processor event trySend).Within asks stays := by
  have hpass : ∀ updates, (passTask trySend updates).Within asks stays :=
    within_passTask hsubscribers trySend
  unfold messageReceivedTask
  split
  · split
    · refine ⟨hdatabase, fun _ _ => (hpass _).andThen fun _ => ?_⟩
      split
      · exact fun _ => (hpass _).andThen fun _ => trivial
      · trivial
    · trivial
  · split
    · exact ⟨hdatabase, fun _ _ => trivial⟩
    · trivial
  · split
    · exact ⟨hdatabase, fun _ => trivial⟩
    · trivial
  · split
    · exact ⟨hdatabase, fun _ => trivial⟩
    · trivial
  · trivial

/-- Handling messages asks for no socket. -/
theorem within_messagesTask (processor : NetlinkMessageProcessor)
    (messages : List (Event × TrySend)) : (messagesTask processor messages).Within asks stays := by
  induction messages with
  | nil => trivial
  | cons message messages ih =>
    exact (within_messageReceivedTask hdatabase hsubscribers _ _ _).andThen fun _ => ih

/-- A poll asks for the socket of the requests only, and stays with it only when one of its requests
does not return. -/
theorem within_tryPollTask (config : Router) (input : PollInput) {linkTurns networkTurns : Option ℕ}
    (trySend : TrySend) (hasks : asks .socket) (hlink : linkTurns = none → stays .socket)
    (hnetwork : networkTurns = none → stays .socket) :
    (tryPollTask config input linkTurns networkTurns trySend).Within asks stays := by
  refine (within_sendMessageTask hasks hlink).andThen fun _ => ?_
  split
  · trivial
  · refine (within_sendMessageTask hasks hnetwork).andThen fun _ => ?_
    split
    · trivial
    · have hcommit : ∀ polled, (commitTask input polled).Within asks stays :=
        fun _ => ⟨hdatabase, fun _ _ => trivial⟩
      exact (hcommit _).andThen fun _ => within_passTask hsubscribers _ _

end Within

/-- An action asks only for the locks of its own, and stays only with a socket whose receive does not
return. -/
theorem within_task (config : Router) (action : ManagerAction) :
    (action.task config).Within action.Asks action.Stays := by
  have hdatabase : action.Asks .database := Or.inl rfl
  have hsubscribers : action.Asks .subscribers := Or.inr (Or.inl rfl)
  cases action with
  | poll input linkTurns networkTurns trySend =>
    refine (within_tryPollTask hdatabase hsubscribers config input trySend ?_ ?_ ?_).andThen
      fun _ => trivial
    · exact Or.inr (Or.inr ⟨linkTurns, List.mem_cons_self⟩)
    · rintro rfl
      exact List.mem_cons_self
    · rintro rfl
      exact List.mem_cons_of_mem _ (List.mem_singleton_self _)
  | receive turns messages =>
    refine Task.Within.andThen ⟨Or.inr (Or.inr ⟨turns, List.mem_singleton_self _⟩), ?_⟩
      fun _ => trivial
    refine (within_recvLoopTask ?_).andThen fun _ => ?_
    · rintro rfl
      exact List.mem_singleton_self _
    · exact (within_messagesTask hdatabase hsubscribers _ _).andThen fun _ => trivial
  | listNetworkLinks order => exact ⟨hdatabase, fun _ => trivial⟩
  | listNetworkInterfaces order => exact ⟨hdatabase, fun _ => trivial⟩
  | subscribe => exact ⟨hsubscribers, fun _ => trivial⟩

/-- A task asks for what its actions ask for. -/
theorem within_tasks (config : Router) (actions : List ManagerAction) :
    (tasks config actions).Within (fun lock => ∃ action ∈ actions, action.Asks lock)
      (fun lock => ∃ action ∈ actions, action.Stays lock) := by
  induction actions with
  | nil => trivial
  | cons action actions ih =>
    refine ((within_task config action).mono ?_ ?_).andThen fun _ => ?_
    · exact fun lock hasks => ⟨action, List.mem_cons_self, hasks⟩
    · exact fun lock hstays => ⟨action, List.mem_cons_self, hstays⟩
    · refine (ih.mono ?_ ?_).andThen fun _ => trivial
      · exact fun lock ⟨action', hmem, hasks⟩ => ⟨action', List.mem_cons_of_mem _ hmem, hasks⟩
      · exact fun lock ⟨action', hmem, hstays⟩ => ⟨action', List.mem_cons_of_mem _ hmem, hstays⟩

end ManagerAction

/-! ## Every schedule -/

/-- Answers that show the database at moments of a history, one after the other. -/
inductive Snapshots (config : Router) :
    List ManagerAction → List ManagerAnswer → List (ι × ManagerStep) → List (ι × ManagerStep) →
      Prop where
  | nil {before after : List (ι × ManagerStep)} (h : before <+: after) :
      Snapshots config [] [] before after
  | cons {action : ManagerAction} {actions : List ManagerAction} {answers : List ManagerAnswer}
      {before moment after : List (ι × ManagerStep)} (h : before <+: moment)
      (hrest : Snapshots config actions answers moment after) :
      Snapshots config (action :: actions)
        (action.answer (InterfaceManager.run config (moment.map Prod.snd)) :: answers) before after

/-- Unless someone is changing it, the database is the one that a history makes. -/
def Shows (config : Router) (s : System ι Guarded (List ManagerAnswer))
    (history : List (ι × ManagerStep)) : Prop :=
  (∀ i, s.held i .database ≠ some .exclusive) →
    s.data .database = InterfaceManager.run config (history.map Prod.snd)

section Runs

variable {config : Router} {i : ι} {env env' : Knowledge ι} {actions : List ManagerAction}
  {answers : List ManagerAnswer}

/-- Each listing is a state of the database that the history has gone through. -/
theorem Performed.snapshots (h : Performed config i actions answers env env')
    {after : List (ι × ManagerStep)} (hafter : env'.seen .database <+: after) :
    Snapshots config actions answers (env.seen .database) after := by
  induction h with
  | nil env => exact .nil hafter
  | cons hdid hrest ih => exact .cons (hdid.grows .database) (ih hafter)

/-- After its actions a task holds nothing. -/
theorem Performed.free (h : Performed config i actions answers env env') (hfree : env.Free) :
    env'.Free := by
  intro lock
  rw [h.did.held]
  exact hfree lock

omit [DecidableEq ι] in
/-- At the start a task holds nothing. -/
theorem free_start : (Local.start : Knowledge ι).Free := fun _ => rfl

namespace InterfaceManager

/-- At the start the invariant holds, since each task is verified. -/
theorem sound_start (config : Router) (actions : ι → List ManagerAction) :
    Sound (Resource config)
      (fun i env answers => Performed config i (actions i) answers .start env)
      (start config actions) (fun _ => []) fun _ _ => [] := by
  refine .start (fun lock => ?_) fun i => verified_tasks (actions i) free_start
  cases lock with
  | socket => trivial
  | multicastSocket => trivial
  | database => rfl
  | subscribers => rfl

variable [Fintype ι]

/-- Where a task asks and stays, over every schedule. -/
theorem within_run (config : Router) (actions : ι → List ManagerAction) (schedule : List ι) (i : ι) :
    (((start config actions).run schedule).stage i).task.Within
      (fun lock => ∃ action ∈ actions i, action.Asks lock)
      (fun lock => ∃ action ∈ actions i, action.Stays lock) :=
  System.run_induction (s := start config actions) (P := fun s => ∀ i, (s.stage i).task.Within
      (fun lock => ∃ action ∈ actions i, action.Asks lock)
      (fun lock => ∃ action ∈ actions i, action.Stays lock))
    (fun _ _ _ h hstep => hstep.within h) (fun i => ManagerAction.within_tasks config (actions i))
    schedule i

/-- All receives on a socket return. -/
def ReturnOn (actions : ι → List ManagerAction) (lock : ManagerLock) : Prop :=
  ∀ i, ∀ action ∈ actions i, ¬ action.Stays lock

/-- **No deadlock.**  At rest a task is done, if all receives return on the sockets that it asks
for. -/
theorem done_of_atRest (config : Router) (actions : ι → List ManagerAction) {schedule : List ι}
    (hrest : ((start config actions).run schedule).AtRest) {i : ι}
    (hreturn : ∀ action ∈ actions i, ∀ receive ∈ action.receives, ReturnOn actions receive.1) :
    ((start config actions).run schedule).Done i := by
  obtain ⟨history, seen, hsound, -⟩ := (sound_start config actions).run schedule
  have hwithin := within_run config actions schedule i
  rcases System.step_eq_none (hrest i) with
    hdone | ⟨lock, mode, next, hwaits, -⟩ | ⟨lock, hstays⟩
  · exact hdone
  · rw [hwaits] at hwithin
    obtain ⟨action, haction, hasks⟩ := hwithin.1
    -- someone stays with the lock or with a greater one, and that can only be a socket
    obtain ⟨j, greater, hj, hle⟩ :=
      hsound.exists_stay (fun _ _ _ h => h.free free_start) hrest hwaits
    have hwithin' := within_run config actions schedule j
    rw [hj] at hwithin'
    obtain ⟨action', haction', hstays⟩ := hwithin'
    obtain rfl : lock = greater := ManagerAction.eq_of_le_of_stays hle hstays
    obtain ⟨turns, hreceive⟩ := hasks.receives_of_stays hstays
    exact absurd hstays (hreturn action haction _ hreceive j action' haction')
  · rw [hstays] at hwithin
    obtain ⟨action, haction, hstays'⟩ := hwithin
    exact absurd hstays' (hreturn action haction _ hstays' i action haction)

/-- **Every task comes to its end** under a fair schedule, if all receives return on the sockets that
it asks for: a list call or a subscribe always does. -/
theorem tasks_finish (config : Router) (actions : ι → List ManagerAction) {schedule : ℕ → ι}
    (hfair : System.Fair schedule) :
    ∃ n, ∀ m, n ≤ m → ∀ i,
      (∀ action ∈ actions i, ∀ receive ∈ action.receives, ReturnOn actions receive.1) →
        ((start config actions).run (System.first schedule m)).Done i := by
  obtain ⟨n, hn⟩ := (start config actions).exists_rest hfair
  exact ⟨n, fun m hm i hreturn => done_of_atRest config actions (hn m hm) hreturn⟩

/-- The same, when the messages of the multicast socket never pause. -/
def busyTasks : Fin 3 → List ManagerAction :=
  ![[.poll (pollAt 0 [newLinkMessage 2 "eth0" .up] []) (some 2) (some 1) fun _ _ => true],
    [.receive none []], [.subscribe, .listNetworkInterfaces (.id _)]]

/-- The worker and who lists come to their end all the same. -/
theorem tasks_finish_busyTasks :
    ∃ n, ∀ m, n ≤ m →
      ((start wanConfig busyTasks).run (System.first (System.roundRobin 3) m)).Done 0 ∧
        ((start wanConfig busyTasks).run (System.first (System.roundRobin 3) m)).Done 2 := by
  obtain ⟨n, hn⟩ := tasks_finish wanConfig busyTasks (System.fair_roundRobin 3)
  have hsocket : ReturnOn busyTasks .socket := by
    intro i action haction
    revert action
    fin_cases i <;> simp [busyTasks, ManagerAction.Stays, ManagerAction.receives]
  refine ⟨n, fun m hm => ⟨hn m hm 0 fun action haction receive hreceive => ?_,
    hn m hm 2 fun action haction receive hreceive => ?_⟩⟩
  · obtain rfl := List.mem_singleton.mp haction
    rcases List.mem_pair.mp hreceive with rfl | rfl <;> exact hsocket
  · rcases List.mem_pair.mp haction with rfl | rfl <;> cases hreceive

/-- **The locks make the steps atomic.**  Under every schedule the database is what the polls and
events make of it in the order in which they released it.  A task that starts after some moment sees
what was done before that moment; its answers show the database at later and later moments, none of
them after the end of the task, and in the history are its own polls and events, in order. -/
theorem run_linearizable (config : Router) (actions : ι → List ManagerAction)
    (before after : List ι) :
    ∃ history history' : List (ι × ManagerStep), history <+: history' ∧
      Shows config ((start config actions).run before) history ∧
      Shows config ((start config actions).run (before ++ after)) history' ∧
      ∀ i answers, i ∉ before →
        ((start config actions).run (before ++ after)).stage i = .ready (.done answers) →
          own i history' = (actions i).flatMap (fun action => action.steps config) ∧
            Snapshots config (actions i) answers history history' := by
  obtain ⟨history, seen, hsound, -, hseen⟩ := (sound_start config actions).run before
  -- who has not moved yet knows the history so far, since it holds nothing
  have hlate : ∀ i, i ∉ before →
      ((start config actions).run before).stage i = .ready (ManagerAction.tasks config (actions i)) ∧
        (((start config actions).run before).held i = fun _ => none) ∧
          Verified (Resource config) i
            (fun env answers => Performed config i (actions i) answers ⟨fun _ => none, history⟩ env)
            (ManagerAction.tasks config (actions i)) ⟨fun _ => none, history⟩ := by
    intro i hi
    obtain ⟨hstage, hheld⟩ := System.run_of_notMem (s := start config actions) hi
    exact ⟨hstage, hheld, verified_tasks (actions i) fun _ => rfl⟩
  obtain ⟨history', seen', hsound', hgrows, -⟩ := (hsound.refresh hlate).run after
  rw [← System.run_append] at hsound'
  refine ⟨history .database, history' .database, hgrows .database, hsound.resource .database,
    hsound'.resource .database, fun i answers hi hdone => ?_⟩
  have hperformed : Performed config i (actions i) answers ⟨fun _ => none, history⟩
      (((start config actions).run (before ++ after)).env seen' i) := by
    have hpost := hsound'.post_of_done hdone
    rwa [if_pos hi] at hpost
  refine ⟨?_, hperformed.snapshots (hsound'.seen_le i .database)⟩
  -- nothing of the task was in the history before it started
  have hnone : own i (history .database) = [] := by
    rw [hsound.own_eq, hseen i hi]
    rfl
  rw [hsound'.own_eq]
  refine hperformed.did.own_database.trans ?_
  rw [show own i ((⟨fun _ => none, history⟩ : Knowledge ι).seen .database) = [] from hnone]
  rfl

end InterfaceManager

end Runs

end RustyRouter
