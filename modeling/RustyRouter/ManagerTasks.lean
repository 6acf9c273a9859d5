/-
# The tasks of the interface manager (`interface/mod.rs`)

The worker polls, the multicast loop hands events to the listener, and whoever has
the manager lists and subscribes: each in a task of its own.  What they share is
behind locks, two `RwLock`s of tokio for the database and the subscribers and two
`Mutex`es for the netlink sockets.  The tasks are written here with the reads and
writes of the source between the locks it takes; what the kernel answers, the
clock and the channels of the subscribers are given with the actions.

`recv_loop` runs under the lock of its socket, and nothing bounds it: messages of
others can keep it going (`TODO This is a little dangerous`, says the source).  So
it is given with an action too how many turns each of its receives takes, or that
it does not return.

`commit` and `messageReceived` do at once what these tasks do in several steps.
-/
import RustyRouter.Delivery
import RustyRouter.LockLogic

namespace RustyRouter

open LockSystem InterfaceManagerWorker InterfaceManagerNetlinkSocketListener

/-! ## The locks -/

/-- The locks, in an order in which they are nested. -/
inductive ManagerLock : Type where
  | socket
  | multicastSocket
  | database
  | subscribers
  deriving DecidableEq, Repr

namespace ManagerLock

/-- The place of a lock in the order.  Nobody holds both sockets, and neither is below the other. -/
def place : ManagerLock → ℕ × ℕ
  | socket => (0, 1)
  | multicastSocket => (1, 0)
  | database => (1, 1)
  | subscribers => (2, 2)

instance : Preorder ManagerLock := Preorder.lift place

instance : DecidableLE ManagerLock := fun a b => inferInstanceAs (Decidable (a.place ≤ b.place))

instance : DecidableLT ManagerLock := fun _ _ => decidable_of_iff' _ lt_iff_le_not_ge

/-- What a lock guards.  What the kernel has for a socket is given with the actions. -/
abbrev Guarded : ManagerLock → Type
  | socket => Unit
  | multicastSocket => Unit
  | database => InterfaceManagerDatabase
  | subscribers => Subscribers

/-- What is behind the locks at first. -/
def initial : ∀ lock, Guarded lock
  | socket => ()
  | multicastSocket => ()
  | database => InterfaceManagerDatabase.new
  | subscribers => Subscribers.empty

end ManagerLock

open ManagerLock (Guarded)

/-! ## The tasks -/

/-- `subscribers.write().await.retain(..)`: a pass over the subscribers. -/
def passTask (trySend : TrySend) (updates : List NetworkStatusUpdate) : Task Guarded Unit :=
  .acquire .subscribers .exclusive <|
  .modify .subscribers (fun subscribers => subscribers.retain trySend updates) <|
  .release .subscribers (.done ())

/-- `recv_loop` on a socket, by the turns that it takes until it returns.  When it does not return,
the task stays with the socket. -/
def recvLoopTask (lock : ManagerLock) : Option ℕ → Task Guarded Unit
  | some turns => .turns turns (.done ())
  | none => .stay lock

namespace InterfaceManagerWorker

/-- `send_message` on the socket of the requests, which it holds over its `recv_loop`. -/
def sendMessageTask (turns : Option ℕ) : Task Guarded Unit :=
  .acquire .socket .exclusive <|
  (recvLoopTask .socket turns).andThen fun _ => .release .socket (.done ())

/-- The part of a poll under the database lock. -/
def commitTask (input : PollInput) (polled : View) : Task Guarded (List NetworkStatusUpdate) :=
  .acquire .database .exclusive <|
  .read .database fun db =>
    let links :=
      reconcile db.networkLinks (input.networkLinks.order polled.networkLinks.iter) input.takenLinks
    .write .database { db with networkLinks := links.table } <|
    .read .database fun db =>
      let interfaces :=
        reconcile db.networkInterfaces
          (input.networkInterfaces.order polled.networkInterfaces.iter) input.takenInterfaces
      .write .database { db with networkInterfaces := interfaces.table } <|
      .release .database (.done (updates links interfaces))

/-- `try_poll`. -/
def tryPollTask (config : Router) (input : PollInput) (linkTurns networkTurns : Option ℕ)
    (trySend : TrySend) : Task Guarded Unit :=
  (sendMessageTask linkTurns).andThen fun _ =>
    match input.linkData with
    | .error _ => .done ()
    | .ok linkData =>
      (sendMessageTask networkTurns).andThen fun _ =>
        match input.networkData with
        | .error _ => .done ()
        | .ok networkData =>
          (commitTask input (view config input linkData networkData)).andThen (passTask trySend)

end InterfaceManagerWorker

namespace InterfaceManagerNetlinkSocketListener

/-- The handling of `NewLink`, which sends its updates while it holds the database. -/
def newLinkTask (event : Event) (index : UInt64) (link : NetworkLinkStatus) (trySend : TrySend) :
    Task Guarded Unit :=
  let item : LinkItem := ⟨⟨some index, link.name, some link.device⟩, link, event.linkNow⟩
  .acquire .database .exclusive <|
  .modify .database (fun db => (db.setLinkStatusItem item).1) <|
  .read .database fun db =>
    (passTask trySend [.link link]).andThen fun _ =>
      match interfaceOnDevice db index link.device with
      | some interface =>
        let interface := updatedInterface (some index) link event.interfaceNow interface
        .modify .database (fun db => (db.setInterfaceStatusItem interface).1) <|
        (passTask trySend [.interface interface.status]).andThen fun _ =>
          .release .database (.done ())
      | none => .release .database (.done ())

/-- The handling of `DelLink`. -/
def delLinkTask (event : Event) (index : UInt64) (link : NetworkLinkStatus) : Task Guarded Unit :=
  .acquire .database .exclusive <|
  .read .database fun db =>
    let (db, link) := deleteLink event link db
    .write .database db <|
    .modify .database (deleteInterface event index link.status) <|
    .release .database (.done ())

/-- The handling of `NewAddress` and `DelAddress`. -/
def addressTask (change : List IpAddress → List IpAddress) (event : Event) (index : UInt64) :
    Task Guarded Unit :=
  .acquire .database .exclusive <|
  .modify .database (addressReceived change event index) <|
  .release .database (.done ())

/-- `message_received`. -/
def messageReceivedTask (processor : NetlinkMessageProcessor) (event : Event) (trySend : TrySend) :
    Task Guarded Unit :=
  match event.message.payload with
  | .innerMessage (.newLink _) =>
    match processor.processLinkMessage event.message with
    | some (index, link) => newLinkTask event index link trySend
    | none => .done ()
  | .innerMessage (.delLink _) =>
    match processor.processLinkMessage event.message with
    | some (index, link) => delLinkTask event index link
    | none => .done ()
  | .innerMessage (.newAddress _) =>
    match NetlinkMessageProcessor.processAddressMessage event.message with
    | some (index, address) => addressTask (withAddress address) event index
    | none => .done ()
  | .innerMessage (.delAddress _) =>
    match NetlinkMessageProcessor.processAddressMessage event.message with
    | some (index, address) => addressTask (withoutAddress address) event index
    | none => .done ()
  | _ => .done ()

/-- The messages of a turn of the multicast loop, one after the other. -/
def messagesTask (processor : NetlinkMessageProcessor) :
    List (Event × TrySend) → Task Guarded Unit
  | [] => .done ()
  | (event, trySend) :: messages =>
    (messageReceivedTask processor event trySend).andThen fun _ => messagesTask processor messages

/-- A turn of `recv_multicast_messages`, which holds its socket until the messages that its
`recv_loop` has read are handled. -/
def multicastTask (processor : NetlinkMessageProcessor) (turns : Option ℕ)
    (messages : List (Event × TrySend)) : Task Guarded Unit :=
  .acquire .multicastSocket .exclusive <|
  (recvLoopTask .multicastSocket turns).andThen fun _ =>
    (messagesTask processor messages).andThen fun _ => .release .multicastSocket (.done ())

end InterfaceManagerNetlinkSocketListener

/-! ## What the tasks do -/

/-- What is asked of the interface manager, and what it is given for that.  The turns are those of
the receives: of both requests of a poll, and of the multicast socket. -/
inductive ManagerAction : Type where
  | poll (input : PollInput) (linkTurns networkTurns : Option ℕ) (trySend : TrySend)
  | receive (turns : Option ℕ) (messages : List (Event × TrySend))
  | listNetworkLinks (order : HashMap.Shuffle (ℕ × LinkItem))
  | listNetworkInterfaces (order : HashMap.Shuffle (ℕ × InterfaceItem))
  | subscribe

/-- What the interface manager answers. -/
inductive ManagerAnswer : Type where
  | done
  | links (statuses : List NetworkLinkStatus)
  | interfaces (statuses : List NetworkInterfaceStatus)
  deriving DecidableEq, Repr

namespace ManagerAction

/-- The task of an action. -/
def task (config : Router) : ManagerAction → Task Guarded ManagerAnswer
  | poll input linkTurns networkTurns trySend =>
    (tryPollTask config input linkTurns networkTurns trySend).andThen fun _ => .done .done
  | receive turns messages =>
    (multicastTask (.new config) turns messages).andThen fun _ => .done .done
  | listNetworkLinks order =>
    .acquire .database .shared <|
    .read .database fun db => .release .database (.done (.links (db.listLinkStatus order)))
  | listNetworkInterfaces order =>
    .acquire .database .shared <|
    .read .database fun db =>
      .release .database (.done (.interfaces (db.listInterfaceStatus order)))
  | subscribe =>
    .acquire .subscribers .exclusive <|
    .modify .subscribers Subscribers.subscribe <|
    .release .subscribers (.done .done)

/-- One action after the other, with what they answer. -/
def tasks (config : Router) : List ManagerAction → Task Guarded (List ManagerAnswer)
  | [] => .done []
  | action :: actions =>
    (action.task config).andThen fun answer =>
      (tasks config actions).andThen fun answers => .done (answer :: answers)

/-- The receives of an action: the lock of the socket of each, and its turns. -/
def receives : ManagerAction → List (ManagerLock × Option ℕ)
  | poll _ linkTurns networkTurns _ => [(.socket, linkTurns), (.socket, networkTurns)]
  | receive turns _ => [(.multicastSocket, turns)]
  | _ => []

end ManagerAction

/-- The interface manager with its tasks, before the first of them has moved. -/
def InterfaceManager.start {ι : Type} (config : Router) (actions : ι → List ManagerAction) :
    System ι Guarded (List ManagerAnswer) :=
  .start ManagerLock.initial fun i => ManagerAction.tasks config (actions i)

end RustyRouter
