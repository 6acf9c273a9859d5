/-
# What the steps of the poller do

What each step does to a socket that the poller watches: what it brings and who reads
it.  The steps of the poller and its tasks are work that ends (`backlog_apply`): an
event weighs less in a round than as ready, and a task that reads less than its event.
-/
import RustyRouter.Poller

namespace RustyRouter

/-- The datagrams that a step of the poller brings to a socket. -/
def PollerStep.arrival {Socket Datagram : Type} [DecidableEq Socket] (socket : Socket) :
    PollerStep Socket Datagram → List Datagram
  | .arrive other datagram => if other = socket then [datagram] else []
  | _ => []

/-! ## Arrivals and readers -/

namespace PollerState

variable {Socket Datagram : Type} [DecidableEq Socket] {socket : Socket}

/-- A registration fails and leaves its ticket to be removed, or the item is to be inserted and epoll
watches the socket. -/
theorem register_cases (s : PollerState Socket Datagram) (other : Socket) (handle : UInt64)
    (refused : Bool) :
    s.register other handle refused = { s with removals := s.removals ++ [handle] } ∨
      ∃ interest ready, s.register other handle refused =
        { s with interest, ready, adding := s.adding ++ [⟨handle, other⟩] } := by
  unfold register
  split_ifs
  · exact Or.inl rfl
  · dsimp only
    split_ifs <;> exact Or.inr ⟨_, _, rfl⟩

/-- Only its readers take datagrams from a socket. -/
theorem unread_apply (s : PollerState Socket Datagram) {step : PollerStep Socket Datagram}
    (h : step ≠ .recv socket) :
    (s.apply step).unread socket = s.unread socket ++ step.arrival socket := by
  cases step with
  | register other handle refused =>
    rw [apply, PollerStep.arrival, List.append_nil]
    · rcases s.register_cases other handle refused with h | ⟨_, _, h⟩ <;> rw [h]
    · simp
  | insert item =>
    simp only [apply, insert, PollerStep.arrival, List.append_nil]
    split_ifs <;> rfl
  | arrive other datagram =>
    simp only [apply, arrive, notify, PollerStep.arrival]
    by_cases hother : other = socket
    · rw [if_pos hother, hother, Function.update_self]
    · rw [if_neg hother, Function.update_of_ne (Ne.symm hother), List.append_nil]
  | epollWait taken =>
    simp only [apply, epollWait, PollerStep.arrival, List.append_nil]
    split_ifs <;> rfl
  | lookup i =>
    simp only [apply, lookup, PollerStep.arrival, List.append_nil]
    cases s.batches[i]? <;> rfl
  | recv other =>
    have hother : socket ≠ other := fun heq => h (by rw [heq])
    simp only [apply, recv, PollerStep.arrival, List.append_nil]
    split_ifs
    · rfl
    · exact Function.update_of_ne hother _ _
    · rfl
  | dropTicket item =>
    simp only [apply, dropTicket, PollerStep.arrival, List.append_nil]
    split_ifs <;> rfl
  | remove handle =>
    simp only [apply, remove, PollerStep.arrival, List.append_nil]
    split_ifs <;> rfl

/-- Only its own rounds take a task from a socket. -/
theorem count_receiving_apply (s : PollerState Socket Datagram)
    {step : PollerStep Socket Datagram} (h : step ≠ .recv socket) :
    s.receiving.count socket ≤ (s.apply step).receiving.count socket := by
  cases step with
  | register other handle refused =>
    rcases s.register_cases other handle refused with h | ⟨_, _, h⟩ <;> rw [apply, h]
  | insert item =>
    simp only [apply, insert]
    split_ifs <;> rfl
  | arrive other datagram => rfl
  | epollWait taken =>
    simp only [apply, epollWait]
    split_ifs <;> rfl
  | lookup i =>
    simp only [apply, lookup]
    cases s.batches[i]? with
    | none => rfl
    | some batch =>
      dsimp only
      rw [List.count_append]
      exact Nat.le_add_right _ _
  | recv other =>
    have hother : socket ≠ other := fun heq => h (by rw [heq])
    simp only [apply, recv]
    split_ifs
    · exact (List.count_erase_of_ne hother).ge
    · rfl
    · rfl
  | dropTicket item =>
    simp only [apply, dropTicket]
    split_ifs <;> rfl
  | remove handle =>
    simp only [apply, remove]
    split_ifs <;> rfl

end PollerState

/-- A list is an element of it with the others. -/
theorem perm_cons_eraseIdx {α : Type} {l : List α} {i : ℕ} {a : α} (h : l[i]? = some a) :
    (a :: l.eraseIdx i).Perm l := by
  obtain ⟨hi, rfl⟩ := List.getElem?_eq_some_iff.mp h
  exact List.getElem_cons_eraseIdx_perm hi

/-! ## Work -/

/-- A step that is not one of the kernel, of the callers of the poller, or of the listener of another
socket. -/
def PollerStep.Internal {Socket Datagram : Type} (socket : Socket) :
    PollerStep Socket Datagram → Prop
  | .insert _ => True
  | .epollWait _ => True
  | .lookup _ => True
  | .remove _ => True
  | .recv other => other = socket
  | _ => False

theorem PollerStep.Internal.arrival {Socket Datagram : Type} [DecidableEq Socket] {socket : Socket}
    {step : PollerStep Socket Datagram} (h : step.Internal socket) : step.arrival socket = [] := by
  cases step with
  | arrive => exact h.elim
  | _ => rfl

namespace PollerState

variable {Socket Datagram : Type} [DecidableEq Socket] {socket : Socket}

/-- The work of the poller and its tasks, with that of the tasks that read a socket. -/
def backlog (s : PollerState Socket Datagram) (socket : Socket) : ℕ :=
  4 * s.ready.length + (s.batches.map fun batch => 2 * batch.length + 1).sum +
    s.receiving.count socket + s.adding.length + s.removals.length

/-- Taking events is work done: an event weighs more as ready than in a round. -/
theorem backlog_epollWait (s : PollerState Socket Datagram) (taken : List Socket) :
    s.epollWait taken = s ∨ (s.epollWait taken).backlog socket < s.backlog socket := by
  unfold epollWait
  split_ifs with h
  · obtain ⟨hnonempty, -, hnodup, hready⟩ := h
    have hpos := List.length_pos_iff.mpr hnonempty
    -- what is taken leaves the ready sockets
    have hsubset : taken ⊆ s.ready.filter fun other => decide (other ∈ taken) := fun other hother =>
      List.mem_filter.mpr ⟨hready other hother, decide_eq_true hother⟩
    have htaken := (hnodup.subperm hsubset).length_le
    have hsplit := List.length_eq_length_filter_add (l := s.ready)
      (fun other => decide (other ∈ taken))
    have hfilter : (s.ready.filter fun other => decide (other ∉ taken)) =
        s.ready.filter fun other => !decide (other ∈ taken) := by simp
    have hevents := List.length_filterMap_le s.eventOf taken
    refine Or.inr ?_
    simp only [backlog, List.map_append, List.sum_append, List.map_cons, List.map_nil,
      List.sum_cons, List.sum_nil]
    rw [hfilter]
    omega
  · exact Or.inl rfl

/-- Looking a round up is work done, whatever it finds. -/
theorem backlog_lookup (s : PollerState Socket Datagram) (i : ℕ) :
    s.lookup i = s ∨ (s.lookup i).backlog socket < s.backlog socket := by
  unfold lookup
  cases hbatch : s.batches[i]? with
  | none => exact Or.inl rfl
  | some batch =>
    -- the round is gone with its weight, and starts at most a task for each event
    have hsum := ((perm_cons_eraseIdx hbatch).map fun batch => 2 * batch.length + 1).sum_eq
    have hfound : (s.found batch).length ≤ batch.length := List.length_filterMap_le _ _
    have hcount := List.count_le_length (a := socket) (l := s.found batch)
    refine Or.inr ?_
    rw [List.map_cons, List.sum_cons] at hsum
    simp only [backlog, List.count_append]
    omega

theorem backlog_insert (s : PollerState Socket Datagram) (item : PollerItem Socket) :
    s.insert item = s ∨ (s.insert item).backlog socket < s.backlog socket := by
  unfold insert
  split_ifs with hitem
  · have hpos := List.length_pos_of_mem hitem
    refine Or.inr ?_
    simp only [backlog, List.length_erase_of_mem hitem]
    omega
  · exact Or.inl rfl

theorem backlog_remove (s : PollerState Socket Datagram) (handle : UInt64) :
    s.remove handle = s ∨ (s.remove handle).backlog socket < s.backlog socket := by
  unfold remove
  split_ifs with hhandle
  · have hpos := List.length_pos_of_mem hhandle
    refine Or.inr ?_
    simp only [backlog, List.length_erase_of_mem hhandle]
    omega
  · exact Or.inl rfl

/-- A datagram that arrives makes one event at most. -/
theorem backlog_arrive_le (s : PollerState Socket Datagram) (socket other : Socket)
    (datagram : Datagram) : (s.arrive other datagram).backlog socket ≤ s.backlog socket + 4 := by
  -- a socket that was ready already has no second event
  have hready : (if (s.interest other).isSome then s.ready.insert other else s.ready).length ≤
      s.ready.length + 1 := by
    split_ifs
    · rw [List.length_insert]
      split_ifs <;> omega
    · exact Nat.le_succ _
  simp only [arrive, notify, backlog]
  omega

/-- Each internal step but the reading is work done, or nothing. -/
theorem backlog_apply (s : PollerState Socket Datagram) {step : PollerStep Socket Datagram}
    (hinternal : step.Internal socket) (hrecv : step ≠ .recv socket) :
    s.apply step = s ∨ (s.apply step).backlog socket < s.backlog socket := by
  cases step with
  | register => exact hinternal.elim
  | insert item => exact s.backlog_insert item
  | arrive => exact hinternal.elim
  | epollWait taken => exact s.backlog_epollWait taken
  | lookup i => exact s.backlog_lookup i
  | recv other => exact absurd (congrArg PollerStep.recv hinternal) hrecv
  | dropTicket => exact hinternal.elim
  | remove handle => exact s.backlog_remove handle

end PollerState

end RustyRouter
