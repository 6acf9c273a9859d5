/-
# When the socket of a dropped interface is closed

While a dropped interface is cleaned up, other sockets go on being registered, receive
datagrams and are read.  What the poller and its tasks have of one socket (`view`) is
changed by its own steps only, and each of them leaves less to do for it
(`view_apply`), as long as nothing arrives at the socket and no other has its handle.

The handle is what ties an event to its socket: `epoll` reports the handle that a
socket was registered with, and the handler is found by it (`InterestKept`).
-/
import RustyRouter.PollerOwners
import RustyRouter.Settling

namespace RustyRouter

/-- What epoll, the poller and its tasks have of a socket. -/
structure SocketView (Datagram : Type) where
  unread : List Datagram
  handle : Option UInt64
  ready : Bool
  -- how many of its events wait for the handler to be looked up
  events : ℕ
  -- how many tasks read it
  tasks : ℕ
  -- whether its handler is in the map
  handled : Bool
  deriving DecidableEq

/-- What is left to do for a socket: to take its event, to look its events up, to read it dry, to
return from each task and to remove its handler. -/
def SocketView.left {Datagram : Type} (view : SocketView Datagram) : ℕ :=
  3 * view.ready.toNat + 2 * view.events + view.unread.length + view.tasks +
    view.handled.toNat

namespace PollerState

open Settling

variable {Socket Datagram : Type} [DecidableEq Socket] {socket : Socket}

/-- The handler of a socket is in the map, under the handle of the socket. -/
def handled (s : PollerState Socket Datagram) (socket : Socket) : Bool :=
  (s.interest socket).any fun handle => s.handlers.lookup handle = some socket

/-- How many events have a handle. -/
def events (handle : Option UInt64) (batch : List EpollEvent) : ℕ :=
  batch.countP fun event => handle = some event.data

/-- The part of the state that is about a socket. -/
def view (s : PollerState Socket Datagram) (socket : Socket) : SocketView Datagram where
  unread := s.unread socket
  handle := s.interest socket
  ready := socket ∈ s.ready
  events := events (s.interest socket) s.batches.flatten
  tasks := s.receiving.count socket
  handled := s.handled socket

theorem handled_iff {s : PollerState Socket Datagram} :
    s.handled socket = true ↔
      ∃ handle, s.interest socket = some handle ∧ s.handlers.lookup handle = some socket := by
  simp [handled, Option.any_eq_true]

/-! ## Handles -/

/-- What was registered with a handle keeps it. -/
structure InterestKept (s : PollerState Socket Datagram) : Prop where
  items : ∀ item ∈ s.items, s.interest item.socket = some item.handle
  handlers : ∀ handle socket, s.handlers.lookup handle = some socket →
    s.interest socket = some handle

/-- A registration refuses a socket that has a handle; else it gives it one. -/
theorem interest_register (s : PollerState Socket Datagram) (other : Socket) (handle : UInt64)
    (refused : Bool) :
    s.register other handle refused = { s with removals := s.removals ++ [handle] } ∨
      s.interest other = none ∧
        (s.register other handle refused).interest =
          Function.update s.interest other (some handle) ∧
        (s.register other handle refused).items = s.adding ++ [⟨handle, other⟩] ++ s.tickets := by
  unfold register
  split_ifs with hregistered
  · exact Or.inl rfl
  · rw [not_or, Option.not_isSome_iff_eq_none] at hregistered
    dsimp only
    split_ifs <;> exact Or.inr ⟨hregistered.2, rfl, rfl⟩

/-- Only a registration gives a socket a handle. -/
theorem interest_apply (s : PollerState Socket Datagram) {step : PollerStep Socket Datagram}
    (h : ¬ Registers socket step) : (s.apply step).interest socket = s.interest socket := by
  cases step with
  | register other handle refused =>
    rcases s.interest_register other handle refused with hfails | ⟨-, hinterest, -⟩
    · rw [apply, hfails]
    · rw [apply, hinterest, Function.update_of_ne (Ne.symm h)]
  | insert item =>
    rw [apply, insert]
    split_ifs <;> rfl
  | arrive other datagram => rfl
  | epollWait taken =>
    rw [apply, epollWait]
    split_ifs <;> rfl
  | lookup i =>
    rw [apply, lookup]
    cases s.batches[i]? <;> rfl
  | recv other =>
    rw [apply, recv]
    split_ifs <;> rfl
  | dropTicket item =>
    rw [apply, dropTicket]
    split_ifs <;> rfl
  | remove handle =>
    rw [apply, remove]
    split_ifs <;> rfl

/-- A socket keeps its handle. -/
theorem interest_apply_of_some {s : PollerState Socket Datagram} {step : PollerStep Socket Datagram}
    {handle : UInt64} (h : s.interest socket = some handle) :
    (s.apply step).interest socket = some handle := by
  by_cases hregisters : Registers socket step
  · cases step with
    | register other handle' refused =>
      rcases s.interest_register other handle' refused with hfails | ⟨hnone, -⟩
      · rw [apply, hfails, h]
      · obtain rfl : other = socket := hregisters
        rw [h] at hnone
        cases hnone
    | _ => exact hregisters.elim
  · rw [interest_apply s hregisters, h]

theorem interest_foldl_of_some {s : PollerState Socket Datagram}
    {more : List (PollerStep Socket Datagram)} {handle : UInt64}
    (h : s.interest socket = some handle) :
    (more.foldl apply s).interest socket = some handle := by
  induction more generalizing s with
  | nil => exact h
  | cons step more ih => exact ih (interest_apply_of_some h)

theorem InterestKept.apply {s : PollerState Socket Datagram} (h : s.InterestKept)
    (step : PollerStep Socket Datagram) : (s.apply step).InterestKept := by
  have hitems : ∀ item ∈ s.items, (s.apply step).interest item.socket = some item.handle :=
    fun item hitem => interest_apply_of_some (h.items item hitem)
  refine ⟨fun item hitem => ?_, fun handle socket hlookup => ?_⟩
  · by_cases hregisters : Registers item.socket step
    · cases step with
      | register other handle refused =>
        obtain rfl : other = item.socket := hregisters
        rcases s.interest_register item.socket handle refused with hfails | ⟨hnone, hinterest, hall⟩
        · rw [PollerState.apply, hfails] at hitem
          exact hitems item hitem
        · rw [PollerState.apply, hall, List.append_assoc, List.singleton_append,
            List.perm_middle.mem_iff, List.mem_cons] at hitem
          rcases hitem with heq | hold
          · rw [PollerState.apply, hinterest, Function.update_self, heq]
          · -- a socket that has an item has a handle already
            rw [h.items item hold] at hnone
            cases hnone
      | _ => exact hregisters.elim
    · exact hitems item (mem_items_of_apply hregisters hitem)
  · rcases lookup_of_apply hlookup with hold | hitem
    · exact interest_apply_of_some (h.handlers _ _ hold)
    · exact hitems _ hitem

/-- In every run a socket keeps its handle. -/
theorem interestKept_run (steps : List (PollerStep Socket Datagram)) :
    (run steps).InterestKept := by
  induction steps using List.reverseRecOn with
  | nil => exact ⟨fun item hitem => absurd hitem List.not_mem_nil, fun handle socket h => by cases h⟩
  | append_singleton steps step ih =>
    rw [run, List.foldl_append]
    exact ih.apply step

/-- No other socket has the handle of a socket. -/
def Sole (s : PollerState Socket Datagram) (socket : Socket) : Prop :=
  ∀ other handle, s.interest socket = some handle → s.interest other = some handle → other = socket

/-- Handles that differ in the end differed before. -/
theorem Sole.of_foldl {s : PollerState Socket Datagram} {more : List (PollerStep Socket Datagram)}
    (h : (more.foldl PollerState.apply s).Sole socket) : s.Sole socket :=
  fun other handle hsocket hother =>
    h other handle (interest_foldl_of_some hsocket) (interest_foldl_of_some hother)

/-! ## What a step changes for a socket -/

/-- States with the same for a socket. -/
theorem view_congr {s s' : PollerState Socket Datagram} (hunread : s'.unread socket = s.unread socket)
    (hhandle : s'.interest socket = s.interest socket) (hready : socket ∈ s'.ready ↔ socket ∈ s.ready)
    (hevents : events (s.interest socket) s'.batches.flatten = events (s.interest socket) s.batches.flatten)
    (htasks : s'.receiving.count socket = s.receiving.count socket)
    (hhandlers : ∀ handle, s.interest socket = some handle →
      (s'.handlers.lookup handle = some socket ↔ s.handlers.lookup handle = some socket)) :
    s'.view socket = s.view socket := by
  have hhandled : s'.handled socket = s.handled socket := by
    rw [Bool.eq_iff_iff, handled_iff, handled_iff, hhandle]
    exact exists_congr fun handle => and_congr_right (hhandlers handle)
  simp only [view, hunread, hhandle, hready, hevents, htasks, hhandled]

/-- Less is left when there is less to take, to look up or to read, with the same handlers. -/
theorem left_lt {s s' : PollerState Socket Datagram}
    (hhandle : s'.interest socket = s.interest socket) (hhandlers : s'.handlers = s.handlers)
    (h : 3 * (decide (socket ∈ s'.ready)).toNat + 2 * events (s.interest socket) s'.batches.flatten +
        (s'.unread socket).length + s'.receiving.count socket <
      3 * (decide (socket ∈ s.ready)).toNat + 2 * events (s.interest socket) s.batches.flatten +
        (s.unread socket).length + s.receiving.count socket) :
    (s'.view socket).left < (s.view socket).left := by
  have hhandled : s'.handled socket = s.handled socket := by
    rw [handled, handled, hhandle, hhandlers]
  simp only [SocketView.left, view, hhandle, hhandled]
  omega

theorem mem_insert_of_ne {other : Socket} (hother : other ≠ socket) (ready : List Socket) :
    socket ∈ ready.insert other ↔ socket ∈ ready := by
  rw [List.mem_insert_iff, or_iff_right (Ne.symm hother)]

theorem view_notify (s : PollerState Socket Datagram) {other : Socket} (hother : other ≠ socket) :
    (s.notify other).view socket = s.view socket := by
  refine view_congr rfl rfl ?_ rfl rfl fun _ _ => Iff.rfl
  show (socket ∈ if (s.interest other).isSome then s.ready.insert other else s.ready) ↔ _
  split_ifs
  · exact mem_insert_of_ne hother _
  · exact Iff.rfl

theorem view_register (s : PollerState Socket Datagram) {other : Socket} (handle : UInt64)
    (refused : Bool) (hother : other ≠ socket) :
    (s.register other handle refused).view socket = s.view socket := by
  have hadd : (s.epollCtlAdd ⟨handle, other⟩).view socket = s.view socket :=
    view_congr rfl (Function.update_of_ne (Ne.symm hother) _ _) Iff.rfl rfl rfl fun _ _ => Iff.rfl
  unfold register
  split_ifs
  · rfl
  · dsimp only
    split_ifs
    · exact hadd
    · rw [view_notify _ hother, hadd]

/-- The handler of an item with another handle is another. -/
theorem view_insert (s : PollerState Socket Datagram) {item : PollerItem Socket}
    (hhandle : item ∈ s.adding → s.interest socket ≠ some item.handle) :
    (s.insert item).view socket = s.view socket := by
  unfold insert
  split_ifs with hitem
  · refine view_congr rfl rfl Iff.rfl rfl rfl fun handle hsocket => ?_
    have hne : handle ≠ item.handle := fun heq => hhandle hitem (heq ▸ hsocket)
    show (AList.insert item.handle item.socket s.handlers).lookup handle = _ ↔ _
    rw [AList.lookup_insert_ne hne]
  · rfl

theorem view_arrive (s : PollerState Socket Datagram) {other : Socket} (datagram : Datagram)
    (hother : other ≠ socket) : (s.arrive other datagram).view socket = s.view socket := by
  rw [arrive, view_notify _ hother]
  exact view_congr (Function.update_of_ne (Ne.symm hother) _ _) rfl Iff.rfl rfl rfl
    fun _ _ => Iff.rfl

/-- A ticket that is dropped leaves its handler to be removed. -/
theorem view_dropTicket (s : PollerState Socket Datagram) (item : PollerItem Socket) :
    (s.dropTicket item).view socket = s.view socket := by
  unfold dropTicket
  split_ifs <;> exact view_congr rfl rfl Iff.rfl rfl rfl fun _ _ => Iff.rfl

/-- A round has one event of a socket that is taken, and none of another. -/
theorem events_taken_le {s : PollerState Socket Datagram} (hsole : s.Sole socket)
    {taken : List Socket} (hnodup : taken.Nodup) :
    events (s.interest socket) (taken.filterMap s.eventOf) ≤ if socket ∈ taken then 1 else 0 := by
  calc
    events (s.interest socket) (taken.filterMap s.eventOf)
      ≤ taken.count socket := by
        rw [events, List.countP_filterMap]
        refine List.countP_mono_left fun other _ hevent => ?_
        rw [eventOf] at hevent
        cases hother : s.interest other with
        | none => simp [hother] at hevent
        | some handle =>
          rw [hother] at hevent
          have hsocket : s.interest socket = some handle := by simpa using hevent
          simp [hsole other handle hsocket hother]
    _ ≤ if socket ∈ taken then 1 else 0 := by
        split_ifs with hmem
        · exact List.nodup_iff_count_le_one.mp hnodup socket
        · exact (List.count_eq_zero.mpr hmem).le

/-- An event that waits to be looked up counts less than one that is ready. -/
theorem view_epollWait {s : PollerState Socket Datagram} (hsole : s.Sole socket)
    (taken : List Socket) : (s.epollWait taken).view socket = s.view socket ∨
      ((s.epollWait taken).view socket).left < (s.view socket).left := by
  unfold epollWait
  split_ifs with h
  · obtain ⟨-, -, hnodup, hready⟩ := h
    have hevents := events_taken_le hsole hnodup
    have hsum : events (s.interest socket) (s.batches ++ [taken.filterMap s.eventOf]).flatten =
        events (s.interest socket) s.batches.flatten + events (s.interest socket) (taken.filterMap s.eventOf) := by
      rw [List.flatten_append, List.flatten_singleton, events, List.countP_append]
      rfl
    by_cases hmem : socket ∈ taken
    · rw [if_pos hmem] at hevents
      have htaken : decide (socket ∈ s.ready.filter fun other => other ∉ taken) = false := by
        simp [hmem]
      -- the socket was ready, and has one event now instead
      have hwas : decide (socket ∈ s.ready) = true := decide_eq_true (hready socket hmem)
      refine Or.inr (left_lt rfl rfl ?_)
      dsimp only
      rw [htaken, hsum, hwas, Bool.toNat_true, Bool.toNat_false]
      omega
    · rw [if_neg hmem] at hevents
      -- events of other sockets have other handles
      have hsame := Nat.eq_zero_of_le_zero hevents
      refine Or.inl (view_congr rfl rfl ?_ (by rw [hsum, hsame, Nat.add_zero]) rfl
        fun _ _ => Iff.rfl)
      rw [List.mem_filter]
      simp [hmem]
  · exact Or.inl rfl

/-- The events of a round that find a handler of a socket have its handle. -/
theorem count_found_le {s : PollerState Socket Datagram} (h : s.InterestKept)
    (batch : List EpollEvent) : (s.found batch).count socket ≤ events (s.interest socket) batch := by
  rw [found, List.count_filterMap, events]
  refine List.countP_mono_left fun event _ hfound => ?_
  rw [beq_iff_eq] at hfound
  split_ifs at hfound
  exact decide_eq_true (h.handlers _ _ hfound)

/-- A task that reads counts less than the event that starts it. -/
theorem view_lookup {s : PollerState Socket Datagram} (h : s.InterestKept) (i : ℕ) :
    (s.lookup i).view socket = s.view socket ∨
      ((s.lookup i).view socket).left < (s.view socket).left := by
  unfold lookup
  cases hbatch : s.batches[i]? with
  | none => exact Or.inl rfl
  | some batch =>
    have hevents : events (s.interest socket) batch + events (s.interest socket) (s.batches.eraseIdx i).flatten =
        events (s.interest socket) s.batches.flatten := by
      rw [events, events, ← List.countP_append]
      exact ((perm_cons_eraseIdx hbatch).flatten).countP_eq _
    -- the tasks that start for the socket were its events
    have hfound : (s.found batch).count socket ≤ events (s.interest socket) batch :=
      count_found_le h batch
    dsimp only
    rcases Nat.eq_zero_or_pos (events (s.interest socket) batch) with hzero | hpos
    · rw [hzero] at hevents hfound
      refine Or.inl (view_congr rfl rfl Iff.rfl ?_ ?_ fun _ _ => Iff.rfl)
      · rw [← hevents, Nat.zero_add]
      · rw [List.count_append, Nat.eq_zero_of_le_zero hfound, Nat.add_zero]
    · refine Or.inr (left_lt rfl rfl ?_)
      dsimp only
      rw [List.count_append]
      omega

/-- A round of a task reads a datagram or returns. -/
theorem view_recv (s : PollerState Socket Datagram) (other : Socket) :
    (s.recv other).view socket = s.view socket ∨
      ((s.recv other).view socket).left < (s.view socket).left := by
  by_cases hother : other = socket
  · subst hother
    unfold recv
    split_ifs with hreader hempty
    · have hcount := List.count_pos_iff.mpr hreader
      refine Or.inr (left_lt rfl rfl ?_)
      dsimp only
      rw [List.count_erase_self]
      omega
    · have hlength : 0 < (s.unread other).length := by
        rw [List.length_pos_iff]
        simpa using hempty
      refine Or.inr (left_lt rfl rfl ?_)
      dsimp only
      rw [Function.update_self, List.length_tail]
      omega
    · exact Or.inl rfl
  · unfold recv
    split_ifs
    · exact Or.inl (view_congr rfl rfl Iff.rfl rfl (List.count_erase_of_ne (Ne.symm hother))
        fun _ _ => Iff.rfl)
    · exact Or.inl (view_congr (Function.update_of_ne (Ne.symm hother) _ _) rfl Iff.rfl rfl rfl
        fun _ _ => Iff.rfl)
    · exact Or.inl rfl

/-- The handler of a socket is removed under its handle. -/
theorem view_remove {s : PollerState Socket Datagram} (handle : UInt64) :
    (s.remove handle).view socket = s.view socket ∨
      ((s.remove handle).view socket).left < (s.view socket).left := by
  unfold remove
  split_ifs
  · by_cases hhandler : s.interest socket = some handle ∧ s.handlers.lookup handle = some socket
    · have hwas : s.handled socket = true := handled_iff.mpr ⟨handle, hhandler⟩
      have hremoved : (s.interest socket).any (fun other =>
          (AList.erase handle s.handlers).lookup other = some socket) = false := by
        rw [hhandler.1]
        simp
      refine Or.inr ?_
      show 3 * (decide (socket ∈ s.ready)).toNat +
          2 * events (s.interest socket) s.batches.flatten + (s.unread socket).length +
            s.receiving.count socket + ((s.interest socket).any fun other =>
              (AList.erase handle s.handlers).lookup other = some socket).toNat < _
      rw [hremoved, SocketView.left, view, hwas]
      simp only [Bool.toNat_true, Bool.toNat_false]
      omega
    · refine Or.inl (view_congr rfl rfl Iff.rfl rfl rfl fun other hsocket => ?_)
      show (AList.erase handle s.handlers).lookup other = _ ↔ _
      by_cases hother : other = handle
      · subst hother
        have hlookup : s.handlers.lookup other ≠ some socket := fun h => hhandler ⟨hsocket, h⟩
        simp [hlookup]
      · rw [AList.lookup_erase_ne hother]
  · exact Or.inl rfl

/-- **A step that changes anything for a dropped socket leaves less to do for it**, whatever goes on at
other sockets. -/
theorem view_apply {s : PollerState Socket Datagram} (hkept : s.InterestKept) (hsole : s.Sole socket)
    (hdropped : ∀ item ∈ s.items, item.socket ≠ socket) {step : PollerStep Socket Datagram}
    (hregisters : ¬ Registers socket step) (harrival : step.arrival socket = []) :
    (s.apply step).view socket = s.view socket ∨
      ((s.apply step).view socket).left < (s.view socket).left := by
  cases step with
  | register other handle refused => exact Or.inl (s.view_register handle refused hregisters)
  | insert item =>
    refine Or.inl (s.view_insert fun hitem hhandle => ?_)
    have hitems := List.mem_append_left s.tickets hitem
    exact hdropped item hitems (hsole _ _ hhandle (hkept.items item hitems))
  | arrive other datagram =>
    refine Or.inl (s.view_arrive datagram fun hother => ?_)
    rw [PollerStep.arrival, if_pos hother] at harrival
    cases harrival
  | epollWait taken => exact view_epollWait hsole taken
  | lookup i => exact view_lookup hkept i
  | recv other => exact s.view_recv other
  | dropTicket item => exact Or.inl (s.view_dropTicket item)
  | remove handle => exact s.view_remove handle

/-! ## Closing -/

/-- A task that reads a socket does something in its next round. -/
theorem view_recv_ne {s : PollerState Socket Datagram} (h : socket ∈ s.receiving) :
    (s.recv socket).view socket ≠ s.view socket := by
  intro hsame
  rw [recv, if_pos h] at hsame
  split_ifs at hsame with hempty
  · have htasks : (s.receiving.erase socket).count socket = s.receiving.count socket :=
      congrArg SocketView.tasks hsame
    have hcount := List.count_pos_iff.mpr h
    rw [List.count_erase_self] at htasks
    omega
  · have hunread : Function.update s.unread socket (s.unread socket).tail socket = s.unread socket :=
      congrArg SocketView.unread hsame
    have hlength := congrArg List.length hunread
    have hpos : 0 < (s.unread socket).length := by
      rw [List.length_pos_iff]
      simpa using hempty
    rw [Function.update_self, List.length_tail] at hlength
    omega

/-- The removal of its handler does something for a socket. -/
theorem view_remove_ne {s : PollerState Socket Datagram} (hkept : s.InterestKept) {handle : UInt64}
    (hremoval : handle ∈ s.removals) (hhandler : s.handlers.lookup handle = some socket) :
    (s.remove handle).view socket ≠ s.view socket := by
  have hhandle := hkept.handlers _ _ hhandler
  intro hsame
  have hhandled := congrArg SocketView.handled hsame
  have hwas : s.handled socket = true := handled_iff.mpr ⟨handle, hhandle, hhandler⟩
  rw [remove, if_pos hremoval, view, view, hwas] at hhandled
  obtain ⟨other, hother, hlookup⟩ := handled_iff.mp hhandled
  exact (HashMap.lookup_erase_eq_some.mp hlookup).1 (Option.some.inj (hother.symm.trans hhandle))

/-- What shares a dropped socket still has something to do for it. -/
theorem exists_step_of_owned {s : PollerState Socket Datagram} (hkept : s.InterestKept)
    (hhandlers : s.HandlersKept) (hdropped : ∀ item ∈ s.items, item.socket ≠ socket)
    (howned : s.Owned socket) :
    ∃ step : PollerStep Socket Datagram, step.Internal socket ∧
      (s.apply step).view socket ≠ s.view socket := by
  cases howned with
  | @interface item hitem hsocket => exact absurd hsocket (hdropped item hitem)
  | @handler handle hlookup =>
    -- the handler of a dropped socket is about to be removed
    rcases hhandlers _ _ hlookup with hticket | hremoval
    · exact absurd rfl (hdropped _ (List.mem_append_right _ hticket))
    · exact ⟨.remove handle, trivial, view_remove_ne hkept hremoval hlookup⟩
  | task h => exact ⟨.recv socket, rfl, view_recv_ne h⟩

/-- **The socket of dropped interfaces is closed.**  Once no interface has a socket or is being made
with it, whatever goes on at other sockets, and as long as nothing arrives at this one, it is not
registered again and no other has its handle: what the poller has of the socket changes only a
bounded number of times; while anything shares the socket, the poller or one of its tasks can change
it; and once nothing does, nothing does from then on. -/
theorem closes [DecidableEq Datagram] (steps more : List (PollerStep Socket Datagram))
    (socket : Socket) (hdropped : ∀ item ∈ (run steps).items, item.socket ≠ socket)
    (hquiet : ∀ step ∈ more, ¬ Registers socket step ∧ step.arrival socket = [])
    (hsole : (run (steps ++ more)).Sole socket) :
    changes apply (fun s => s.view socket) (run steps) more ≤ ((run steps).view socket).left ∧
      ((run (steps ++ more)).Owned socket → ∃ step : PollerStep Socket Datagram,
        step.Internal socket ∧ ((run (steps ++ more)).apply step).view socket ≠
          (run (steps ++ more)).view socket) ∧
      (¬ (run (steps ++ more)).Owned socket →
        ∀ later, (∀ step ∈ later, ¬ Registers socket step) →
          ¬ (run (steps ++ more ++ later)).Owned socket) := by
  have hfoldl : ∀ before after : List (PollerStep Socket Datagram),
      run (before ++ after) = after.foldl apply (run before) :=
    fun before after => List.foldl_append
  refine ⟨changes_le fun before step after hmore => ?_, exists_step_of_owned (interestKept_run _)
    (handlersKept_run _) ?_, fun hclosed later hlater => ?_⟩
  · -- each step is seen from the state that the run has come to
    have hstep := hquiet step (by simp [hmore])
    have hbefore : ∀ step ∈ before, ¬ Registers socket step :=
      fun step hmem => (hquiet step (by simp [hmore, hmem])).1
    rw [hmore, hfoldl, List.foldl_append] at hsole
    refine view_apply ?_ hsole.of_foldl (dropped_foldl hdropped hbefore) hstep.1 hstep.2
    rw [← hfoldl]
    exact interestKept_run _
  · rw [hfoldl]
    exact dropped_foldl hdropped fun step hstep => (hquiet step hstep).1
  · rw [hfoldl]
    exact not_owned_foldl hclosed hlater

/-- A socket whose interface is dropped while it holds a datagram and is being read, and another that is
in use. -/
def droppedWhileRead : List (PollerStep ℕ ℕ) :=
  [.register 3 7 false, .insert ⟨7, 3⟩, .register 4 8 false, .insert ⟨8, 4⟩, .arrive 3 10,
    .epollWait [3], .lookup 0, .arrive 3 11, .dropTicket ⟨7, 3⟩]

/-- The other socket receives and is read while the first is read dry and its handler is removed. -/
def readDry : List (PollerStep ℕ ℕ) :=
  [.arrive 4 20, .epollWait [4], .recv 3, .lookup 0, .arrive 4 21, .epollWait [3, 4], .recv 4,
    .lookup 0, .remove 7, .recv 3, .recv 4, .recv 3, .recv 3]

theorem closes_readDry :
    changes apply (fun s => s.view 3) (run droppedWhileRead) readDry ≤
      ((run droppedWhileRead).view 3).left := by
  have hinterest : (run (droppedWhileRead ++ readDry)).interest =
      Function.update (Function.update (fun _ => none) 3 (some 7)) 4 (some 8) := rfl
  refine (closes droppedWhileRead readDry 3 (by decide)
    (by simp [readDry, Registers, PollerStep.arrival]) fun other handle hsocket hother => ?_).1
  rw [hinterest] at hsocket hother
  by_cases hfour : other = 4
  · rw [hfour, Function.update_self] at hother
    rw [← hother] at hsocket
    exact absurd hsocket (by decide)
  · by_contra hthree
    rw [Function.update_of_ne hfour, Function.update_of_ne hthree] at hother
    cases hother

end PollerState

end RustyRouter
