/-
# Who keeps a socket open (`AutoCloseFd`, `PollerTicket`, `PollerListener`)

A socket is closed with the last `Arc` of its `AutoCloseFd`.  The interface that has
the ticket shares it with the listener, which the poller keeps as the handler and
clones for each task that reads.  No step gives a closed socket a new owner
(`not_owned_foldl`), and a handler is always that of a ticket or about to be removed
(`handlersKept_run`).

Edge-triggered events do not keep the tasks apart: each arrival can start one more
task that reads the same socket (`exists_readers`).
-/
import RustyRouter.PollerSteps

namespace RustyRouter

namespace PollerState

variable {Socket Datagram : Type} [DecidableEq Socket] {socket : Socket}

/-! ## Owners -/

/-- Something shares the `AutoCloseFd` of a socket: an interface or a call that makes one, the
handler, or a task of the listener. -/
inductive Owned (s : PollerState Socket Datagram) (socket : Socket) : Prop where
  | interface {item : PollerItem Socket} (h : item ∈ s.items) (hsocket : item.socket = socket)
  | handler {handle : UInt64} (h : s.handlers.lookup handle = some socket)
  | task (h : socket ∈ s.receiving)

/-- A step that registers a socket. -/
def Registers (socket : Socket) : PollerStep Socket Datagram → Prop
  | .register other _ _ => other = socket
  | _ => False

/-- A new item is one that is registered. -/
theorem mem_items_of_apply {s : PollerState Socket Datagram} {step : PollerStep Socket Datagram}
    {item : PollerItem Socket} (hstep : ¬ Registers item.socket step)
    (h : item ∈ (s.apply step).items) : item ∈ s.items := by
  cases step with
  | register other handle refused =>
    rw [apply] at h
    rcases s.register_cases other handle refused with hfails | ⟨interest, ready, hadds⟩
    · rw [hfails] at h
      exact h
    · rw [hadds] at h
      have hmem : item ∈ (s.adding ++ [⟨handle, other⟩]) ++ s.tickets := h
      rw [List.append_assoc, List.singleton_append, List.perm_middle.mem_iff, List.mem_cons] at hmem
      -- the new item is that of the registered socket
      rcases hmem with rfl | hmem
      · exact absurd rfl hstep
      · exact hmem
  | insert other =>
    by_cases hother : other ∈ s.adding
    · -- an item that is inserted was one before
      exact (PollerInvariant.items_insert hother).mem_iff.mp h
    · rwa [apply, insert, if_neg hother] at h
  | arrive other datagram => exact h
  | epollWait taken =>
    rw [apply, epollWait] at h
    split_ifs at h <;> exact h
  | lookup i =>
    rw [apply, lookup] at h
    cases hbatch : s.batches[i]? <;> rw [hbatch] at h <;> exact h
  | recv other =>
    rw [apply, recv] at h
    split_ifs at h <;> exact h
  | dropTicket other =>
    rw [apply, dropTicket] at h
    split_ifs at h
    · exact (List.erase_sublist.append_left _).mem h
    · exact h
  | remove handle =>
    rw [apply, remove] at h
    split_ifs at h <;> exact h

/-- A new handler is that of an item. -/
theorem lookup_of_apply {s : PollerState Socket Datagram} {step : PollerStep Socket Datagram}
    {handle : UInt64} (h : (s.apply step).handlers.lookup handle = some socket) :
    s.handlers.lookup handle = some socket ∨ ⟨handle, socket⟩ ∈ s.items := by
  cases step with
  | register other handle' refused =>
    rw [apply] at h
    rcases s.register_cases other handle' refused with hfails | ⟨interest, ready, hadds⟩
    · rw [hfails] at h
      exact Or.inl h
    · rw [hadds] at h
      exact Or.inl h
  | insert item =>
    rw [apply, insert] at h
    split_ifs at h with hitem
    · -- the handler that is inserted is that of its item
      rcases HashMap.lookup_insert_eq_some.mp h with ⟨rfl, rfl⟩ | ⟨-, hold⟩
      · exact Or.inr (List.mem_append_left _ hitem)
      · exact Or.inl hold
    · exact Or.inl h
  | arrive other datagram => exact Or.inl h
  | epollWait taken =>
    rw [apply, epollWait] at h
    split_ifs at h <;> exact Or.inl h
  | lookup i =>
    rw [apply, lookup] at h
    cases hbatch : s.batches[i]? <;> rw [hbatch] at h <;> exact Or.inl h
  | recv other =>
    rw [apply, recv] at h
    split_ifs at h <;> exact Or.inl h
  | dropTicket item =>
    rw [apply, dropTicket] at h
    split_ifs at h <;> exact Or.inl h
  | remove handle' =>
    rw [apply, remove] at h
    split_ifs at h
    · exact Or.inl (HashMap.lookup_erase_eq_some.mp h).2
    · exact Or.inl h

/-- A new task has cloned the handler. -/
theorem receiving_of_apply {s : PollerState Socket Datagram} {step : PollerStep Socket Datagram}
    (h : socket ∈ (s.apply step).receiving) :
    socket ∈ s.receiving ∨ ∃ handle, s.handlers.lookup handle = some socket := by
  cases step with
  | register other handle refused =>
    rw [apply] at h
    rcases s.register_cases other handle refused with hfails | ⟨interest, ready, hadds⟩
    · rw [hfails] at h
      exact Or.inl h
    · rw [hadds] at h
      exact Or.inl h
  | insert item =>
    rw [apply, insert] at h
    split_ifs at h <;> exact Or.inl h
  | arrive other datagram => exact Or.inl h
  | epollWait taken =>
    rw [apply, epollWait] at h
    split_ifs at h <;> exact Or.inl h
  | lookup i =>
    rw [apply, lookup] at h
    cases hbatch : s.batches[i]? with
    | none =>
      rw [hbatch] at h
      exact Or.inl h
    | some batch =>
      rw [hbatch] at h
      rcases List.mem_append.mp h with h | h
      · exact Or.inl h
      · -- a task that starts was found by its handler
        obtain ⟨event, -, hfound⟩ := List.mem_filterMap.mp h
        split_ifs at hfound
        exact Or.inr ⟨_, hfound⟩
  | recv other =>
    rw [apply, recv] at h
    split_ifs at h
    · exact Or.inl (List.mem_of_mem_erase h)
    · exact Or.inl h
    · exact Or.inl h
  | dropTicket item =>
    rw [apply, dropTicket] at h
    split_ifs at h <;> exact Or.inl h
  | remove handle =>
    rw [apply, remove] at h
    split_ifs at h <;> exact Or.inl h

/-- A step gives a socket no first owner but by registering it. -/
theorem owned_of_apply {s : PollerState Socket Datagram} {step : PollerStep Socket Datagram}
    (hstep : ¬ Registers socket step) (h : (s.apply step).Owned socket) : s.Owned socket := by
  cases h with
  | interface h hsocket => exact .interface (mem_items_of_apply (hsocket ▸ hstep) h) hsocket
  | handler h =>
    rcases lookup_of_apply h with hold | hitem
    · exact .handler hold
    · exact .interface hitem rfl
  | task h =>
    rcases receiving_of_apply h with hold | ⟨handle, hhandler⟩
    · exact .task hold
    · exact .handler hhandler

/-- A dropped socket stays dropped. -/
theorem dropped_foldl {s : PollerState Socket Datagram}
    (h : ∀ item ∈ s.items, item.socket ≠ socket) {more : List (PollerStep Socket Datagram)}
    (hmore : ∀ step ∈ more, ¬ Registers socket step) :
    ∀ item ∈ (more.foldl apply s).items, item.socket ≠ socket := by
  induction more generalizing s with
  | nil => exact h
  | cons step more ih =>
    obtain ⟨hstep, hmore⟩ := List.forall_mem_cons.mp hmore
    refine ih (fun item hitem hsocket => ?_) hmore
    exact h item (mem_items_of_apply (hsocket ▸ hstep) hitem) hsocket

/-- A socket without an owner stays without one. -/
theorem not_owned_foldl {s : PollerState Socket Datagram} (h : ¬ s.Owned socket)
    {more : List (PollerStep Socket Datagram)} (hmore : ∀ step ∈ more, ¬ Registers socket step) :
    ¬ (more.foldl apply s).Owned socket := by
  induction more generalizing s with
  | nil => exact h
  | cons step more ih =>
    obtain ⟨hstep, hmore⟩ := List.forall_mem_cons.mp hmore
    exact ih (fun howned => h (owned_of_apply hstep howned)) hmore

/-! ## Handlers -/

/-- A handler is that of a ticket or about to be removed. -/
def HandlersKept (s : PollerState Socket Datagram) : Prop :=
  ∀ handle socket, s.handlers.lookup handle = some socket →
    ⟨handle, socket⟩ ∈ s.tickets ∨ handle ∈ s.removals

theorem HandlersKept.apply {s : PollerState Socket Datagram} (h : s.HandlersKept)
    (step : PollerStep Socket Datagram) : (s.apply step).HandlersKept := by
  intro handle' socket' hlookup
  cases step with
  | register other handle refused =>
    rw [PollerState.apply] at hlookup ⊢
    rcases s.register_cases other handle refused with hfails | ⟨interest, ready, hadds⟩
    · rw [hfails] at hlookup ⊢
      exact (h _ _ hlookup).imp_right (List.mem_append_left _)
    · rw [hadds] at hlookup ⊢
      exact h _ _ hlookup
  | insert item =>
    rw [PollerState.apply, insert] at hlookup ⊢
    split_ifs at hlookup ⊢
    · rcases HashMap.lookup_insert_eq_some.mp hlookup with ⟨rfl, rfl⟩ | ⟨-, hold⟩
      · exact Or.inl (List.mem_append_right _ (List.mem_singleton.mpr rfl))
      · exact (h _ _ hold).imp_left (List.mem_append_left _)
    · exact h _ _ hlookup
  | arrive other datagram => exact h _ _ hlookup
  | epollWait taken =>
    rw [PollerState.apply, epollWait] at hlookup ⊢
    split_ifs at hlookup ⊢ <;> exact h _ _ hlookup
  | lookup i =>
    rw [PollerState.apply, lookup] at hlookup ⊢
    cases hbatch : s.batches[i]? with
    | none =>
      rw [hbatch] at hlookup
      exact h _ _ hlookup
    | some batch =>
      rw [hbatch] at hlookup
      exact h _ _ hlookup
  | recv other =>
    rw [PollerState.apply, recv] at hlookup ⊢
    split_ifs at hlookup ⊢ <;> exact h _ _ hlookup
  | dropTicket item =>
    rw [PollerState.apply, dropTicket] at hlookup ⊢
    split_ifs at hlookup ⊢
    · rcases h _ _ hlookup with hticket | hremoval
      · by_cases hitem : (⟨handle', socket'⟩ : PollerItem Socket) = item
        · exact Or.inr (List.mem_append_right _ (by simp [← hitem]))
        · exact Or.inl ((List.mem_erase_of_ne hitem).mpr hticket)
      · exact Or.inr (List.mem_append_left _ hremoval)
    · exact h _ _ hlookup
  | remove handle =>
    rw [PollerState.apply, remove] at hlookup ⊢
    split_ifs at hlookup ⊢
    · obtain ⟨hne, hold⟩ := HashMap.lookup_erase_eq_some.mp hlookup
      exact (h _ _ hold).imp_right (List.mem_erase_of_ne hne).mpr
    · exact h _ _ hlookup

/-- No run leaves a handler behind. -/
theorem handlersKept_run (steps : List (PollerStep Socket Datagram)) :
    (run steps).HandlersKept := by
  induction steps using List.reverseRecOn with
  | nil =>
    intro handle socket hlookup
    cases hlookup
  | append_singleton steps step ih =>
    rw [run, List.foldl_append]
    exact ih.apply step

/-! ## Readers -/

/-- A datagram that arrives at the socket of a ticket starts a task, whatever reads it already. -/
theorem receiving_of_arrival {s : PollerState Socket Datagram} (h : PollerInvariant s)
    {item : PollerItem Socket} (hitem : item ∈ s.tickets) (datagram : Datagram) :
    ∃ s', s' = [.arrive item.socket datagram, .epollWait [item.socket],
        .lookup s.batches.length].foldl apply s ∧
      s'.receiving = s.receiving ++ [item.socket] ∧ PollerInvariant s' ∧ item ∈ s'.tickets := by
  have hinterest := h.interest item (List.mem_append_right _ hitem)
  -- the datagram makes the socket ready
  obtain ⟨arrived, harrived⟩ : ∃ s', s' = s.arrive item.socket datagram := ⟨_, rfl⟩
  have hready : item.socket ∈ arrived.ready := by
    rw [harrived]
    exact self_mem_notify_ready _ _ hinterest
  have hevent : arrived.eventOf item.socket = some ⟨item.handle, true⟩ := by
    rw [harrived, eventOf]
    simp [arrive, notify, hinterest]
  -- its event is the only one of the round
  obtain ⟨taken, htaken⟩ : ∃ s', s' = arrived.epollWait [item.socket] := ⟨_, rfl⟩
  have htaken' : taken = { arrived with
      ready := arrived.ready.filter fun socket => socket ∉ [item.socket]
      batches := s.batches ++ [[⟨item.handle, true⟩]] } := by
    rw [htaken, epollWait, if_pos (by simpa using hready), List.filterMap_cons, hevent,
      List.filterMap_nil, harrived]
    rfl
  have hbatch : taken.batches[s.batches.length]? = some [⟨item.handle, true⟩] := by
    rw [htaken']
    exact List.getElem?_concat_length
  -- the handler is in the map, since the ticket is alive
  have hhandler : taken.handlers.lookup item.handle = some item.socket := by
    rw [htaken', harrived]
    exact h.handlers item hitem
  have hfound : taken.found [⟨item.handle, true⟩] = [item.socket] := by
    simp [found, hhandler]
  have hinvariant : PollerInvariant taken := by
    rw [htaken, harrived]
    exact (h.arrive item.socket datagram).epollWait [item.socket]
  have htickets : item ∈ taken.tickets := by
    rw [htaken', harrived]
    exact hitem
  have hlookup : taken.lookup s.batches.length = { taken with
      batches := taken.batches.eraseIdx s.batches.length
      receiving := s.receiving ++ [item.socket] } := by
    rw [lookup, hbatch]
    dsimp only
    rw [hfound, htaken', harrived]
    rfl
  refine ⟨taken.lookup s.batches.length, by rw [htaken, harrived]; rfl, by rw [hlookup], ?_,
    by rw [hlookup]; exact htickets⟩
  refine hinvariant.lookup _ fun batch hmem other hother hevent => ?_
  rw [hbatch, Option.some.injEq] at hmem
  rw [← hmem, List.mem_singleton, EpollEvent.mk.injEq] at hevent
  exact hinvariant.handle_ne hother htickets hevent.1.symm

/-- **Edge triggering does not keep the readers of a socket apart.**  After every run that reaches a
ticket with no early step, any number of tasks can come to read its socket at once. -/
theorem exists_readers {steps : List (PollerStep Socket Datagram)}
    (hearly : (new : PollerState Socket Datagram).NeverEarly steps) {item : PollerItem Socket}
    (hitem : item ∈ (run steps).tickets) (datagram : Datagram) (n : ℕ) :
    ∃ more : List (PollerStep Socket Datagram),
      n ≤ (run (steps ++ more)).receiving.count item.socket := by
  have hgeneral : ∃ more : List (PollerStep Socket Datagram),
      n ≤ (more.foldl apply (run steps)).receiving.count item.socket ∧
      PollerInvariant (more.foldl apply (run steps)) ∧
      item ∈ (more.foldl apply (run steps)).tickets := by
    induction n with
    | zero => exact ⟨[], Nat.zero_le _, PollerInvariant.new.foldl_apply hearly, hitem⟩
    | succ n ih =>
      obtain ⟨more, hcount, hinvariant, hticket⟩ := ih
      obtain ⟨s', hs', hreceiving, hinvariant', hticket'⟩ :=
        receiving_of_arrival hinvariant hticket datagram
      refine ⟨more ++ [.arrive item.socket datagram, .epollWait [item.socket],
        .lookup (more.foldl apply (run steps)).batches.length], ?_⟩
      rw [List.foldl_append, ← hs', hreceiving, List.count_append, List.count_singleton_self]
      exact ⟨Nat.add_le_add_right hcount 1, hinvariant', hticket'⟩
  obtain ⟨more, hcount, -⟩ := hgeneral
  refine ⟨more, ?_⟩
  rwa [run, List.foldl_append]

theorem exists_readers_registered : ∃ more : List (PollerStep ℕ ℕ),
    5 ≤ (run ([.register 3 7 false, .insert ⟨7, 3⟩] ++ more)).receiving.count 3 :=
  @exists_readers ℕ ℕ _ [.register 3 7 false, .insert ⟨7, 3⟩]
    ⟨List.not_mem_nil, id, trivial⟩ ⟨7, 3⟩ (by decide) 0 5

end PollerState

end RustyRouter
