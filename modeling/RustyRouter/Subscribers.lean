/-
# Subscribers (`InterfaceManager::subscribe`, `InterfaceManagerWorker::try_poll`)

A subscriber is the sender of a bounded channel.  Updates are sent to the
subscribers in passes; in a pass a subscriber gets the updates in order, up to
the first that its channel does not take, and a subscriber whose channel did not
take one is dropped.  Whether a channel takes an update is free (`TrySend`): it
is full or closed at times that nothing here decides.

A poll commits under the database lock and publishes later, under the lock of the
subscribers only; `NewLink` publishes while it holds the database lock.
-/
import RustyRouter.InterfaceListener

namespace RustyRouter

/-- A subscriber, with what its channel has taken so far. -/
structure Subscriber where
  id : ℕ
  delivered : List NetworkStatusUpdate
  deriving DecidableEq, Repr

/-- `try_send`: whether the channel of a subscriber takes an update. -/
abbrev TrySend : Type := Subscriber → NetworkStatusUpdate → Bool

namespace Subscriber

/-- The subscriber after an update that its channel takes. -/
def receive (subscriber : Subscriber) (update : NetworkStatusUpdate) : Subscriber :=
  { subscriber with delivered := subscriber.delivered ++ [update] }

/-- The subscriber after a pass, and whether it is retained. -/
def sendAll (trySend : TrySend) : List NetworkStatusUpdate → Subscriber → Subscriber × Bool
  | [], subscriber => (subscriber, true)
  | update :: updates, subscriber =>
    if trySend subscriber update then sendAll trySend updates (subscriber.receive update)
    else (subscriber, false)

/-- A retained subscriber has received the whole pass. -/
theorem delivered_of_sendAll {trySend : TrySend} {updates : List NetworkStatusUpdate}
    {subscriber : Subscriber} (h : (sendAll trySend updates subscriber).2 = true) :
    (sendAll trySend updates subscriber).1.delivered = subscriber.delivered ++ updates := by
  induction updates generalizing subscriber with
  | nil => rw [sendAll, List.append_nil]
  | cons update updates ih =>
    rw [sendAll] at h ⊢
    split_ifs at h ⊢
    rw [ih h, receive, List.append_assoc]
    rfl

end Subscriber

/-- `subscribers`, with those that were dropped. -/
structure Subscribers where
  registered : List Subscriber
  dropped : List Subscriber

namespace Subscribers

/-- `subscribe`. -/
def subscribe (subscribers : Subscribers) : Subscribers :=
  { subscribers with
    registered := subscribers.registered ++
      [⟨subscribers.registered.length + subscribers.dropped.length, []⟩] }

/-- A pass over the subscribers. -/
def retain (trySend : TrySend) (updates : List NetworkStatusUpdate) (subscribers : Subscribers) :
    Subscribers :=
  let (retained, dropped) :=
    (subscribers.registered.map (Subscriber.sendAll trySend updates)).partition Prod.snd
  ⟨retained.map Prod.fst, subscribers.dropped ++ dropped.map Prod.fst⟩

/-- Who is registered after a pass has received it. -/
theorem mem_registered_retain {trySend : TrySend} {updates : List NetworkStatusUpdate}
    {subscribers : Subscribers} {subscriber : Subscriber}
    (h : subscriber ∈ (subscribers.retain trySend updates).registered) :
    ∃ before ∈ subscribers.registered,
      subscriber.delivered = before.delivered ++ updates := by
  rw [retain, List.partition_eq_filter_filter] at h
  obtain ⟨sent, hsent, rfl⟩ := List.mem_map.mp h
  obtain ⟨hsent, hretained⟩ := List.mem_filter.mp hsent
  obtain ⟨before, hbefore, rfl⟩ := List.mem_map.mp hsent
  exact ⟨before, hbefore, Subscriber.delivered_of_sendAll hretained⟩

/-- One pass for each update, as `NewLink` sends its updates. -/
def retainEach (trySend : TrySend) (updates : List NetworkStatusUpdate)
    (subscribers : Subscribers) : Subscribers :=
  updates.foldl (fun subscribers update => subscribers.retain trySend [update]) subscribers

/-- Who is registered after the passes has received all of them. -/
theorem mem_registered_retainEach {trySend : TrySend} {updates : List NetworkStatusUpdate}
    {subscribers : Subscribers} {subscriber : Subscriber}
    (h : subscriber ∈ (subscribers.retainEach trySend updates).registered) :
    ∃ before ∈ subscribers.registered,
      subscriber.delivered = before.delivered ++ updates := by
  induction updates generalizing subscribers with
  | nil => exact ⟨subscriber, h, (List.append_nil _).symm⟩
  | cons update updates ih =>
    obtain ⟨middle, hmiddle, hdelivered⟩ := ih h
    obtain ⟨before, hbefore, hmiddleDelivered⟩ := mem_registered_retain hmiddle
    refine ⟨before, hbefore, ?_⟩
    rw [hdelivered, hmiddleDelivered, List.append_assoc]
    rfl

end Subscribers

/-! ## Publishing -/

/-- The interface manager with its subscribers.  Between the commit of a poll and its publish the
updates of the poll are pending. -/
structure PublishState where
  database : InterfaceManagerDatabase
  subscribers : Subscribers
  pending : Option (List NetworkStatusUpdate)

/-- The steps of the interface manager that its locks make atomic. -/
inductive PublishStep : Type where
  | subscribe
  | commit (input : PollInput)
  | publish (trySend : TrySend)
  | event (event : Event) (trySend : TrySend)

namespace PublishState

/-- `InterfaceManager::new`. -/
def new : PublishState := ⟨InterfaceManagerDatabase.new, ⟨[], []⟩, none⟩

/-- The state after a step.  The worker polls again only after it has published, and publishes only
after a poll that succeeded; at other times these steps do nothing. -/
def apply (config : Router) (s : PublishState) : PublishStep → PublishState
  | .subscribe => { s with subscribers := s.subscribers.subscribe }
  | .commit input =>
    match s.pending with
    | some _ => s
    | none =>
      match InterfaceManagerWorker.tryPoll config input s.database with
      | .ok (database, updates) => { s with database, pending := some updates }
      | .error _ => s
  | .publish trySend =>
    match s.pending with
    | some updates =>
      { s with subscribers := s.subscribers.retain trySend updates, pending := none }
    | none => s
  | .event event trySend =>
    let (database, updates) :=
      InterfaceManagerNetlinkSocketListener.messageReceived (.new config) event s.database
    { s with database, subscribers := s.subscribers.retainEach trySend updates }

/-- The state after a run from the start. -/
def run (config : Router) (steps : List PublishStep) : PublishState :=
  steps.foldl (apply config) new

end PublishState

end RustyRouter
