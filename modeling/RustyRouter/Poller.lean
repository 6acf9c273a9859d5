/-
# The poller (`rusty-router-platform-linux/src/network.rs`)

`Poller::add_item` registers a socket with epoll and inserts its handler afterwards.
A round of `poller_process_messages` takes events from epoll and leaves their handlers
to be looked up by a task; a handler that is found reads its socket dry in a task of
its own, and an event that finds none is dropped.  Epoll is edge-triggered: a socket
has an event when it is registered while readable and when a datagram arrives, and no
other.  So an event that is looked up before its handler is inserted is lost, and that
is the only way a wake-up is lost while handles are distinct
(`neverWaits_run_of_neverEarly`).
-/
import RustyRouter.HashMap

namespace RustyRouter

/-- A socket of the poller with the random handle it is registered under. -/
structure PollerItem (Socket : Type) where
  handle : UInt64
  socket : Socket
  deriving DecidableEq, Repr

/-- `EpollEvent`: its data, and whether `EPOLLIN` is among its events. -/
structure EpollEvent where
  data : UInt64
  readable : Bool
  deriving DecidableEq, Repr

/-- The sockets, epoll, the poller and its tasks.  A socket is an open file description, and its
listener is the one that reads it. -/
structure PollerState (Socket Datagram : Type) where
  -- the datagrams a socket holds
  unread : Socket → List Datagram
  -- the event data that a socket is registered with
  interest : Socket → Option UInt64
  -- the sockets with an event that was not taken yet
  ready : List Socket
  -- the tasks that are to look up the handlers of a round
  batches : List (List EpollEvent)
  handlers : HashMap UInt64 Socket
  -- the tasks that run `recv`
  receiving : List Socket
  -- the calls of `add_item` between `epoll_ctl` and the insertion
  adding : List (PollerItem Socket)
  -- the tickets that were returned and are alive
  tickets : List (PollerItem Socket)
  -- the tasks that are to remove the handler of a dropped ticket
  removals : List UInt64

namespace PollerState

variable {Socket Datagram : Type} [DecidableEq Socket]

/-- No socket is registered and none holds a datagram. -/
def new : PollerState Socket Datagram where
  unread := fun _ => []
  interest := fun _ => none
  ready := []
  batches := []
  handlers := ∅
  receiving := []
  adding := []
  tickets := []
  removals := []

/-! ## The steps -/

/-- A readiness event, which epoll keeps once for a registered socket. -/
def notify (s : PollerState Socket Datagram) (socket : Socket) : PollerState Socket Datagram :=
  { s with ready := if (s.interest socket).isSome then s.ready.insert socket else s.ready }

/-- `epoll_ctl` with `EpollCtlAdd`, for a call of `add_item`. -/
def epollCtlAdd (s : PollerState Socket Datagram) (item : PollerItem Socket) :
    PollerState Socket Datagram :=
  { s with
    interest := Function.update s.interest item.socket (some item.handle)
    adding := s.adding ++ [item] }

/-- `Poller::add_item` up to `epoll_ctl`, which refuses a socket that is registered. -/
def register (s : PollerState Socket Datagram) (socket : Socket) (handle : UInt64)
    (refused : Bool) : PollerState Socket Datagram :=
  if refused ∨ (s.interest socket).isSome then
    -- the ticket was created first, and is dropped with the error
    { s with removals := s.removals ++ [handle] }
  else
    let s := s.epollCtlAdd ⟨handle, socket⟩
    if (s.unread socket).isEmpty then s else s.notify socket

/-- `Poller::add_item` under the write lock, and its return. -/
def insert (s : PollerState Socket Datagram) (item : PollerItem Socket) :
    PollerState Socket Datagram :=
  if item ∈ s.adding then
    { s with
      adding := s.adding.erase item
      handlers := s.handlers.insert item.handle item.socket
      tickets := s.tickets ++ [item] }
  else s

/-- A datagram arrives. -/
def arrive (s : PollerState Socket Datagram) (socket : Socket) (datagram : Datagram) :
    PollerState Socket Datagram :=
  { s with unread := Function.update s.unread socket (s.unread socket ++ [datagram]) }.notify socket

/-- The event of a socket; one that was read dry in the meantime has no `EPOLLIN`. -/
def eventOf (s : PollerState Socket Datagram) (socket : Socket) : Option EpollEvent :=
  (s.interest socket).map fun handle => ⟨handle, !(s.unread socket).isEmpty⟩

/-- `Poller::poller_process_messages`: at most 100 events are taken, as epoll chooses. -/
def epollWait (s : PollerState Socket Datagram) (taken : List Socket) :
    PollerState Socket Datagram :=
  if taken ≠ [] ∧ taken.length ≤ 100 ∧ taken.Nodup ∧ ∀ socket ∈ taken, socket ∈ s.ready then
    { s with
      ready := s.ready.filter fun socket => socket ∉ taken
      batches := s.batches ++ [taken.filterMap s.eventOf] }
  else s

/-- The listeners that a round's events find. -/
def found (s : PollerState Socket Datagram) (batch : List EpollEvent) : List Socket :=
  batch.filterMap fun event => if event.readable then s.handlers.lookup event.data else none

/-- The task of a round looks the handlers up, under the read lock. -/
def lookup (s : PollerState Socket Datagram) (i : ℕ) : PollerState Socket Datagram :=
  match s.batches[i]? with
  | some batch =>
    { s with batches := s.batches.eraseIdx i, receiving := s.receiving ++ s.found batch }
  | none => s

/-- A round of the loop of `LinuxInetPacketNetworkInterfacePollerListener::recv`, which returns on
`EAGAIN`. -/
def recv (s : PollerState Socket Datagram) (socket : Socket) : PollerState Socket Datagram :=
  if socket ∈ s.receiving then
    if (s.unread socket).isEmpty then { s with receiving := s.receiving.erase socket }
    else { s with unread := Function.update s.unread socket (s.unread socket).tail }
  else s

/-- `PollerTicket::drop`. -/
def dropTicket (s : PollerState Socket Datagram) (item : PollerItem Socket) :
    PollerState Socket Datagram :=
  if item ∈ s.tickets then
    { s with tickets := s.tickets.erase item, removals := s.removals ++ [item.handle] }
  else s

/-- The task of a dropped ticket removes the handler, under the write lock. -/
def remove (s : PollerState Socket Datagram) (handle : UInt64) : PollerState Socket Datagram :=
  if handle ∈ s.removals then
    { s with removals := s.removals.erase handle, handlers := s.handlers.erase handle }
  else s

end PollerState

/-- A step of the poller, of its tasks, of its callers or of the kernel.  One that is not enabled
changes nothing. -/
inductive PollerStep (Socket Datagram : Type) : Type where
  | register (socket : Socket) (handle : UInt64) (refused : Bool)
  | insert (item : PollerItem Socket)
  | arrive (socket : Socket) (datagram : Datagram)
  | epollWait (taken : List Socket)
  | lookup (i : ℕ)
  | recv (socket : Socket)
  | dropTicket (item : PollerItem Socket)
  | remove (handle : UInt64)

namespace PollerState

variable {Socket Datagram : Type} [DecidableEq Socket]

/-- The state after a step. -/
def apply (s : PollerState Socket Datagram) : PollerStep Socket Datagram → PollerState Socket Datagram
  | .register socket handle refused => s.register socket handle refused
  | .insert item => s.insert item
  | .arrive socket datagram => s.arrive socket datagram
  | .epollWait taken => s.epollWait taken
  | .lookup i => s.lookup i
  | .recv socket => s.recv socket
  | .dropTicket item => s.dropTicket item
  | .remove handle => s.remove handle

/-- The state after a run from the start. -/
def run (steps : List (PollerStep Socket Datagram)) : PollerState Socket Datagram :=
  steps.foldl apply new

/-! ## Wake-ups -/

/-- An event of an item, or a task that reads its socket. -/
def Pending (s : PollerState Socket Datagram) (item : PollerItem Socket) : Prop :=
  item.socket ∈ s.ready ∨ (∃ batch ∈ s.batches, ⟨item.handle, true⟩ ∈ batch) ∨
    item.socket ∈ s.receiving

/-- No socket with a ticket holds data that nothing is going to read. -/
def NeverWaits (s : PollerState Socket Datagram) : Prop :=
  ∀ item ∈ s.tickets, s.unread item.socket ≠ [] → s.Pending item

/-- The items whose call of `add_item` has registered them and whose ticket is alive. -/
def items (s : PollerState Socket Datagram) : List (PollerItem Socket) := s.adding ++ s.tickets

/-- The handles in use. -/
def handles (s : PollerState Socket Datagram) : List UInt64 :=
  s.items.map PollerItem.handle ++ s.removals

/-- A step that looks an event up before its handler is inserted, or draws a handle in use. -/
def Early (s : PollerState Socket Datagram) : PollerStep Socket Datagram → Prop
  | .register _ handle _ => handle ∈ s.handles
  | .lookup i => ∃ batch, s.batches[i]? = some batch ∧ ∃ item ∈ s.adding, ⟨item.handle, true⟩ ∈ batch
  | _ => False

/-- No step of a run from a state is early. -/
def NeverEarly : PollerState Socket Datagram → List (PollerStep Socket Datagram) → Prop
  | _, [] => True
  | s, step :: steps => ¬ s.Early step ∧ NeverEarly (s.apply step) steps

/-! ## What an event does -/

section Notify

variable (s : PollerState Socket Datagram) (socket : Socket)

/-- Another event leaves the events there are. -/
theorem mem_notify_ready {other : Socket} (h : other ∈ s.ready) :
    other ∈ (s.notify socket).ready := by
  show other ∈ if (s.interest socket).isSome then s.ready.insert socket else s.ready
  split_ifs
  · exact List.mem_insert_of_mem h
  · exact h

/-- A registered socket has its event. -/
theorem self_mem_notify_ready {handle : UInt64} (h : s.interest socket = some handle) :
    socket ∈ (s.notify socket).ready := by
  show socket ∈ if (s.interest socket).isSome then s.ready.insert socket else s.ready
  rw [h]
  exact List.mem_insert_self

/-- What is pending stays pending. -/
theorem Pending.notify {item : PollerItem Socket} (h : s.Pending item) :
    (s.notify socket).Pending item :=
  h.imp_left (s.mem_notify_ready socket)

end Notify

end PollerState

/-! ## The invariant -/

/-- What holds of the poller while no step is early: every registered item has its own handle,
every ticket has its handler, and every item whose socket holds data has something pending. -/
structure PollerInvariant {Socket Datagram : Type} [DecidableEq Socket]
    (s : PollerState Socket Datagram) : Prop where
  interest : ∀ item ∈ s.items, s.interest item.socket = some item.handle
  handlers : ∀ item ∈ s.tickets, s.handlers.lookup item.handle = some item.socket
  nodup : s.handles.Nodup
  pending : ∀ item ∈ s.items, s.unread item.socket ≠ [] → s.Pending item

namespace PollerInvariant

variable {Socket Datagram : Type} [DecidableEq Socket] {s : PollerState Socket Datagram}

/-- At the start nothing is registered. -/
theorem new : PollerInvariant (PollerState.new : PollerState Socket Datagram) where
  interest := fun _ h => absurd h List.not_mem_nil
  handlers := fun _ h => absurd h List.not_mem_nil
  nodup := List.nodup_nil
  pending := fun _ h => absurd h List.not_mem_nil

/-- What is registered under one handle is one item. -/
theorem handle_ne (h : PollerInvariant s) {item other : PollerItem Socket} (hitem : item ∈ s.adding)
    (hother : other ∈ s.tickets) : other.handle ≠ item.handle := by
  have hnodup := h.nodup.of_append_left
  rw [PollerState.items, List.map_append] at hnodup
  intro heq
  exact (List.nodup_append.mp hnodup).2.2 _ (List.mem_map_of_mem hitem) _
    (List.mem_map_of_mem hother) heq.symm

/-- A datagram comes with its event, so that it is pending. -/
theorem arrive (h : PollerInvariant s) (socket : Socket) (datagram : Datagram) :
    PollerInvariant (s.arrive socket datagram) where
  interest := h.interest
  handlers := h.handlers
  nodup := h.nodup
  pending := by
    intro item hitem hunread
    by_cases hsocket : item.socket = socket
    · refine Or.inl ?_
      rw [hsocket]
      exact PollerState.self_mem_notify_ready _ _ (hsocket ▸ h.interest item hitem)
    · have hupdated : Function.update s.unread socket (s.unread socket ++ [datagram])
          item.socket ≠ [] := hunread
      rw [Function.update_of_ne hsocket] at hupdated
      exact PollerState.Pending.notify _ socket (h.pending item hitem hupdated)

/-- A socket that is not registered has no item. -/
theorem socket_ne (h : PollerInvariant s) {socket : Socket} (hnone : s.interest socket = none)
    {item : PollerItem Socket} (hitem : item ∈ s.items) : item.socket ≠ socket := by
  rintro rfl
  rw [h.interest item hitem] at hnone
  cases hnone

/-- Registering adds the item. -/
theorem items_epollCtlAdd (s : PollerState Socket Datagram) (item : PollerItem Socket) :
    (s.epollCtlAdd item).items.Perm (item :: s.items) := by
  show ((s.adding ++ [item]) ++ s.tickets).Perm _
  rw [List.append_assoc]
  exact List.perm_middle

/-- A socket without data is registered, or one with data and its event. -/
theorem epollCtlAdd (h : PollerInvariant s) (item : PollerItem Socket)
    (hnone : s.interest item.socket = none) (hfresh : item.handle ∉ s.handles)
    {s' : PollerState Socket Datagram} (hs' : s' = s.epollCtlAdd item ∧ s.unread item.socket = [] ∨
      s' = (s.epollCtlAdd item).notify item.socket) : PollerInvariant s' := by
  have hitems := items_epollCtlAdd s item
  have hinterest : ∀ other ∈ (s.epollCtlAdd item).items,
      (s.epollCtlAdd item).interest other.socket = some other.handle := by
    intro other hother
    rcases List.mem_cons.mp (hitems.mem_iff.mp hother) with rfl | hold
    · exact Function.update_self _ _ _
    · exact (Function.update_of_ne (h.socket_ne hnone hold) _ _).trans (h.interest other hold)
  have hnodup : (s.epollCtlAdd item).handles.Nodup := by
    have hperm : (s.epollCtlAdd item).handles.Perm (item.handle :: s.handles) :=
      (hitems.map PollerItem.handle).append_right s.removals
    exact hperm.nodup_iff.mpr (List.nodup_cons.mpr ⟨hfresh, h.nodup⟩)
  have hpending : ∀ other ∈ (s.epollCtlAdd item).items, other ≠ item →
      s.unread other.socket ≠ [] → (s.epollCtlAdd item).Pending other := by
    intro other hother hne
    rcases List.mem_cons.mp (hitems.mem_iff.mp hother) with rfl | hold
    · exact absurd rfl hne
    · exact h.pending other hold
  rcases hs' with ⟨rfl, hempty⟩ | rfl
  · refine ⟨hinterest, h.handlers, hnodup, fun other hother hunread => ?_⟩
    refine hpending other hother ?_ hunread
    rintro rfl
    exact hunread hempty
  · refine ⟨hinterest, h.handlers, hnodup, fun other hother hunread => ?_⟩
    by_cases hne : other = item
    · subst hne
      exact Or.inl (PollerState.self_mem_notify_ready _ _ (hinterest other hother))
    · exact (hpending other hother hne hunread).notify _ _

/-- A registration that fails adds a handle to remove, which is not in use; one that succeeds adds
the item. -/
theorem register (h : PollerInvariant s) (socket : Socket) {handle : UInt64} (refused : Bool)
    (hfresh : handle ∉ s.handles) : PollerInvariant (s.register socket handle refused) := by
  unfold PollerState.register
  by_cases hrefused : refused ∨ (s.interest socket).isSome
  · rw [if_pos hrefused]
    refine ⟨h.interest, h.handlers, ?_, h.pending⟩
    show (s.items.map PollerItem.handle ++ (s.removals ++ [handle])).Nodup
    rw [← List.append_assoc, ← List.concat_eq_append]
    exact h.nodup.concat hfresh
  · rw [if_neg hrefused]
    have hnone : s.interest socket = none := by
      by_contra hsome
      exact hrefused (Or.inr (Option.isSome_iff_ne_none.mpr hsome))
    refine h.epollCtlAdd ⟨handle, socket⟩ hnone hfresh ?_
    dsimp only
    by_cases hempty : ((s.epollCtlAdd ⟨handle, socket⟩).unread socket).isEmpty
    · rw [if_pos hempty]
      exact Or.inl ⟨rfl, List.isEmpty_iff.mp hempty⟩
    · rw [if_neg hempty]
      exact Or.inr rfl

/-- An item that is inserted stays an item. -/
theorem items_insert {item : PollerItem Socket} (hitem : item ∈ s.adding) :
    (s.insert item).items.Perm s.items := by
  unfold PollerState.insert
  rw [if_pos hitem]
  show (s.adding.erase item ++ (s.tickets ++ [item])).Perm (s.adding ++ s.tickets)
  rw [← List.append_assoc]
  calc
    (s.adding.erase item ++ s.tickets ++ [item]).Perm
      (item :: (s.adding.erase item ++ s.tickets)) := List.perm_append_singleton _ _
    _ = item :: s.adding.erase item ++ s.tickets := rfl
    List.Perm _ (s.adding ++ s.tickets) := (List.perm_cons_erase hitem).symm.append_right _

/-- The handler of an item is found under its own handle only. -/
theorem insert (h : PollerInvariant s) (item : PollerItem Socket) :
    PollerInvariant (s.insert item) := by
  by_cases hitem : item ∈ s.adding
  · have hitems := items_insert hitem
    have hremovals : (s.insert item).removals = s.removals := by
      rw [PollerState.insert, if_pos hitem]
    have hhandles : (s.insert item).handles.Perm s.handles := by
      rw [PollerState.handles, hremovals]
      exact (hitems.map PollerItem.handle).append_right s.removals
    refine ⟨fun other hother => ?_, ?_, hhandles.nodup_iff.mpr h.nodup, fun other hother => ?_⟩
    · have hinterest := h.interest other (hitems.mem_iff.mp hother)
      rwa [PollerState.insert, if_pos hitem]
    · rw [PollerState.insert, if_pos hitem]
      intro other hother
      show AList.lookup other.handle (AList.insert item.handle item.socket s.handlers) = _
      rcases List.mem_append.mp hother with hold | hnew
      · rw [AList.lookup_insert_ne (h.handle_ne hitem hold)]
        exact h.handlers other hold
      · rw [List.mem_singleton.mp hnew, AList.lookup_insert]
    · have hpending := h.pending other (hitems.mem_iff.mp hother)
      rwa [PollerState.insert, if_pos hitem]
  · rw [PollerState.insert, if_neg hitem]
    exact h

/-- An event that is taken from epoll is in the batch of the round. -/
theorem epollWait (h : PollerInvariant s) (taken : List Socket) :
    PollerInvariant (s.epollWait taken) := by
  unfold PollerState.epollWait
  split_ifs with htaken
  · refine ⟨h.interest, h.handlers, h.nodup, fun item hitem hunread => ?_⟩
    rcases h.pending item hitem hunread with hready | ⟨batch, hbatch, hevent⟩ | hreceiving
    · by_cases hmem : item.socket ∈ taken
      · refine Or.inr (Or.inl ⟨_, List.mem_append_right _ (List.mem_singleton_self _), ?_⟩)
        rw [List.mem_filterMap]
        have hreadable : (s.unread item.socket).isEmpty = false := by
          simpa using hunread
        refine ⟨item.socket, hmem, ?_⟩
        rw [PollerState.eventOf, h.interest item hitem, hreadable]
        rfl
      · refine Or.inl (List.mem_filter.mpr ⟨hready, ?_⟩)
        simpa using hmem
    · exact Or.inr (Or.inl ⟨batch, List.mem_append_left _ hbatch, hevent⟩)
    · exact Or.inr (Or.inr hreceiving)
  · exact h

/-- An event that is looked up after its handler is inserted makes its socket read. -/
theorem lookup (h : PollerInvariant s) (i : ℕ)
    (hearly : ∀ batch, s.batches[i]? = some batch → ∀ item ∈ s.adding,
      ⟨item.handle, true⟩ ∉ batch) : PollerInvariant (s.lookup i) := by
  unfold PollerState.lookup
  cases hbatch : s.batches[i]? with
  | none => exact h
  | some batch =>
    refine ⟨h.interest, h.handlers, h.nodup, fun item hitem hunread => ?_⟩
    rcases h.pending item hitem hunread with hready | ⟨batch', hbatch', hevent⟩ | hreceiving
    · exact Or.inl hready
    · by_cases hmem : batch' ∈ s.batches.eraseIdx i
      · exact Or.inr (Or.inl ⟨batch', hmem, hevent⟩)
      · -- the batch is the one that is looked up
        have heq : batch' = batch := by
          obtain ⟨j, hj, rfl⟩ := List.mem_iff_getElem.mp hbatch'
          by_contra hne
          refine hmem (List.mem_eraseIdx_iff_getElem.mpr ⟨j, hj, ?_, rfl⟩)
          rintro rfl
          rw [List.getElem?_eq_getElem hj] at hbatch
          exact hne (Option.some.inj hbatch)
        subst heq
        rcases List.mem_append.mp hitem with hadding | hticket
        · exact absurd hevent (hearly _ hbatch item hadding)
        · refine Or.inr (Or.inr (List.mem_append_right _ ?_))
          rw [PollerState.found, List.mem_filterMap]
          exact ⟨_, hevent, by rw [if_pos rfl]; exact h.handlers item hticket⟩
    · exact Or.inr (Or.inr (List.mem_append_left _ hreceiving))

/-- A task returns only when the socket is dry, so nothing is left waiting by it. -/
theorem recv (h : PollerInvariant s) (socket : Socket) : PollerInvariant (s.recv socket) := by
  unfold PollerState.recv
  split_ifs with hreceiving hempty
  · refine ⟨h.interest, h.handlers, h.nodup, fun item hitem hunread => ?_⟩
    have hsocket : item.socket ≠ socket := by
      intro heq
      rw [← heq] at hempty
      exact hunread (List.isEmpty_iff.mp hempty)
    refine (h.pending item hitem hunread).imp_right (Or.imp_right fun hmem => ?_)
    exact (List.mem_erase_of_ne hsocket).mpr hmem
  · refine ⟨h.interest, h.handlers, h.nodup, fun item hitem hunread => ?_⟩
    by_cases hsocket : item.socket = socket
    · exact Or.inr (Or.inr (hsocket ▸ hreceiving))
    · refine h.pending item hitem ?_
      simpa [Function.update_of_ne hsocket] using hunread
  · exact h

/-- The handle of a dropped ticket is in use until its handler is removed. -/
theorem dropTicket (h : PollerInvariant s) (item : PollerItem Socket) :
    PollerInvariant (s.dropTicket item) := by
  unfold PollerState.dropTicket
  split_ifs with hitem
  · have hsubset : ∀ other ∈ s.adding ++ s.tickets.erase item, other ∈ s.items := by
      intro other hother
      rcases List.mem_append.mp hother with hadding | hticket
      · exact List.mem_append_left _ hadding
      · exact List.mem_append_right _ (List.mem_of_mem_erase hticket)
    have hperm : ((s.adding ++ s.tickets.erase item).map PollerItem.handle ++
        (s.removals ++ [item.handle])).Perm s.handles := by
      have hitems : (item :: (s.adding ++ s.tickets.erase item)).Perm s.items :=
        List.perm_middle.symm.trans ((List.perm_cons_erase hitem).symm.append_left _)
      refine List.Perm.trans ?_ ((hitems.map PollerItem.handle).append_right s.removals)
      rw [← List.append_assoc, List.map_cons, List.cons_append]
      exact List.perm_append_singleton _ _
    refine ⟨fun other hother => h.interest other (hsubset other hother), fun other hother => ?_,
      hperm.nodup_iff.mpr h.nodup, fun other hother => h.pending other (hsubset other hother)⟩
    exact h.handlers other (List.mem_of_mem_erase hother)
  · exact h

/-- No item has a handle that is to be removed. -/
theorem remove (h : PollerInvariant s) (handle : UInt64) : PollerInvariant (s.remove handle) := by
  unfold PollerState.remove
  split_ifs with hhandle
  · have hdisjoint := (List.nodup_append.mp h.nodup).2.2
    refine ⟨h.interest, fun item hitem => ?_, ?_, h.pending⟩
    · have hne : item.handle ≠ handle :=
        hdisjoint _ (List.mem_map_of_mem (List.mem_append_right _ hitem)) _ hhandle
      show AList.lookup item.handle (AList.erase handle s.handlers) = _
      rw [AList.lookup_erase_ne hne]
      exact h.handlers item hitem
    · exact h.nodup.sublist (List.erase_sublist.append_left _)
  · exact h

/-- A step that is not early keeps the invariant. -/
theorem apply (h : PollerInvariant s) {step : PollerStep Socket Datagram} (hearly : ¬ s.Early step) :
    PollerInvariant (s.apply step) := by
  cases step with
  | register socket handle refused => exact h.register socket refused hearly
  | insert item => exact h.insert item
  | arrive socket datagram => exact h.arrive socket datagram
  | epollWait taken => exact h.epollWait taken
  | lookup i =>
    exact h.lookup i fun batch hbatch item hitem hevent =>
      hearly ⟨batch, hbatch, item, hitem, hevent⟩
  | recv socket => exact h.recv socket
  | dropTicket item => exact h.dropTicket item
  | remove handle => exact h.remove handle

/-- The invariant holds throughout a run in which no step is early. -/
theorem foldl_apply {steps : List (PollerStep Socket Datagram)} (h : PollerInvariant s)
    (hearly : s.NeverEarly steps) : PollerInvariant (steps.foldl PollerState.apply s) := by
  induction steps generalizing s with
  | nil => exact h
  | cons step steps ih => exact ih (h.apply hearly.1) hearly.2

end PollerInvariant

namespace PollerState

variable {Socket Datagram : Type} [DecidableEq Socket]

/-- **No lost wake-up** while no event is looked up before its handler is inserted and no handle is
drawn that is in use. -/
theorem neverWaits_run_of_neverEarly {steps : List (PollerStep Socket Datagram)}
    (hearly : (new : PollerState Socket Datagram).NeverEarly steps) : (run steps).NeverWaits := by
  have h := PollerInvariant.new.foldl_apply hearly
  exact fun item hitem => h.pending item (List.mem_append_right _ hitem)

/-- A datagram that arrives after the handler is inserted. -/
def datagramAfterInsert : List (PollerStep ℕ ℕ) :=
  [.register 3 7 false, .insert ⟨7, 3⟩, .arrive 3 0, .epollWait [3], .lookup 0]

/-- No datagram waits in the run in which the handler is there first. -/
theorem neverWaits_datagramAfterInsert : (run datagramAfterInsert).NeverWaits := by
  refine neverWaits_run_of_neverEarly ⟨List.not_mem_nil, id, id, id, ?_, trivial⟩
  rintro ⟨batch, -, item, hitem, -⟩
  exact absurd hitem List.not_mem_nil

/-- A datagram that arrives before the handler is inserted, and is looked up at once. -/
def datagramBeforeInsert : List (PollerStep ℕ ℕ) :=
  [.register 3 7 false, .arrive 3 0, .epollWait [3], .lookup 0, .insert ⟨7, 3⟩]

/-- The wake-up of a datagram that arrives before the handler is inserted is lost. -/
theorem not_neverWaits : ¬ ∀ steps : List (PollerStep ℕ ℕ), (run steps).NeverWaits := by
  intro h
  have hticket : (⟨7, 3⟩ : PollerItem ℕ) ∈ (run datagramBeforeInsert).tickets := by decide
  have hunread : (run datagramBeforeInsert).unread 3 ≠ [] := by decide
  rcases h _ _ hticket hunread with hready | ⟨batch, hbatch, -⟩ | hreceiving
  · exact absurd hready (by decide)
  · have hnone : (run datagramBeforeInsert).batches = [] := by decide
    rw [hnone] at hbatch
    exact absurd hbatch List.not_mem_nil
  · exact absurd hreceiving (by decide)

end PollerState

end RustyRouter
