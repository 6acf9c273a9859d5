/-
# The registration manager (`rusty-router-model/src/utils.rs`)

`ArcRegistrationManager` keeps the items of the registrations that are alive.  The
registration is created before its id is known to be new, and dropping it removes its
id; so a call of `register` that draws an id in use fails and removes the item of
another registration.  The manager is exact as long as no call does
(`exact_iff_neverRedraws`).
-/
import RustyRouter.HashMap

namespace RustyRouter

/-- `RegistrationManagerError`. -/
inductive RegistrationManagerError : Type where
  | retryableFailure
  deriving DecidableEq, Repr

/-- `Registration`, without the map that it shares with its manager. -/
structure Registration where
  id : String
  deriving DecidableEq, Repr

/-- `ArcRegistrationManager`. -/
structure ArcRegistrationManager (T : Type) where
  registrations : HashMap String T

namespace ArcRegistrationManager

variable {T : Type}

/-- `ArcRegistrationManager::new`. -/
def new : ArcRegistrationManager T := ⟨∅⟩

/-- `Registration::drop`. -/
def drop (manager : ArcRegistrationManager T) (registration : Registration) :
    ArcRegistrationManager T :=
  ⟨manager.registrations.erase registration.id⟩

/-- `ArcRegistrationManager::perform_registration`. -/
def performRegistration (manager : ArcRegistrationManager T) (id : String) (item : T) :
    ArcRegistrationManager T × Except RegistrationManagerError Unit :=
  if (manager.registrations.lookup id).isSome then (manager, .error .retryableFailure)
  else (⟨manager.registrations.insert id item⟩, .ok ())

/-- `ArcRegistrationManager::register`, which draws an id. -/
def register (manager : ArcRegistrationManager T) (id : String) (item : T) :
    ArcRegistrationManager T × Except RegistrationManagerError Registration :=
  let registration : Registration := ⟨id⟩
  match manager.performRegistration id item with
  | (manager, .ok ()) => (manager, .ok registration)
  -- the registration goes out of scope
  | (manager, .error e) => (manager.drop registration, .error e)

/-- `ArcRegistrationManager::get_registered_items`, in the order of the map. -/
def getRegisteredItems (manager : ArcRegistrationManager T) (shuffle : HashMap.Shuffle T) : List T :=
  shuffle.order manager.registrations.values

end ArcRegistrationManager

/-! ## Runs -/

/-- A call of `register` that draws an id, or a drop of the registration at a place. -/
inductive RegistrationStep (T : Type) : Type where
  | register (id : String) (item : T)
  | drop (i : ℕ)

/-- A manager, and the registrations that were returned and not dropped, each with its item. -/
structure RegistrationState (T : Type) where
  manager : ArcRegistrationManager T
  live : List (Registration × T)

namespace RegistrationState

variable {T : Type}

/-- A new manager. -/
def new : RegistrationState T := ⟨.new, []⟩

/-- The state after a step. -/
def apply (s : RegistrationState T) : RegistrationStep T → RegistrationState T
  | .register id item =>
    match s.manager.register id item with
    | (manager, .ok registration) => ⟨manager, s.live ++ [(registration, item)]⟩
    | (manager, .error _) => ⟨manager, s.live⟩
  | .drop i =>
    match s.live[i]? with
    | some (registration, _) => ⟨s.manager.drop registration, s.live.eraseIdx i⟩
    | none => s

/-- The state after a run from the start. -/
def run (steps : List (RegistrationStep T)) : RegistrationState T := steps.foldl apply new

/-- The registered items are those of the registrations that are alive, each once. -/
def Exact (s : RegistrationState T) : Prop :=
  ∀ shuffle, (s.manager.getRegisteredItems shuffle).Perm (s.live.map Prod.snd)

/-- A step that draws the id of a registration that is alive. -/
def Redraws (s : RegistrationState T) : RegistrationStep T → Prop
  | .register id _ => id ∈ s.live.map fun p => p.1.id
  | .drop _ => False

/-- No step of a run from a state draws the id of a registration that is alive. -/
def NeverRedraws : RegistrationState T → List (RegistrationStep T) → Prop
  | _, [] => True
  | s, step :: steps => ¬ s.Redraws step ∧ NeverRedraws (s.apply step) steps

/-- The registrations that are alive are the entries of the map. -/
def Registered (s : RegistrationState T) : Prop :=
  s.manager.registrations.iter.Perm (s.live.map fun p => (p.1.id, p.2))

namespace Registered

variable {s : RegistrationState T}

theorem new : (new : RegistrationState T).Registered := List.Perm.refl []

theorem exact (h : s.Registered) : s.Exact := by
  intro shuffle
  refine (shuffle.perm _).trans ?_
  rw [HashMap.values_eq_map_iter]
  have hitems := h.map Prod.snd
  rwa [List.map_map] at hitems

theorem nodup (h : s.Registered) : (s.live.map fun p => p.1.id).Nodup := by
  have hids := (h.map Prod.fst).nodup_iff.mp (HashMap.nodup_keys_iter _)
  rwa [List.map_map] at hids

/-- An id is registered if a registration with it is alive. -/
theorem mem_live (h : s.Registered) {id : String} :
    (s.manager.registrations.lookup id).isSome ↔ id ∈ s.live.map fun p => p.1.id := by
  have hids := (h.map Prod.fst).mem_iff (a := id)
  rw [List.map_map] at hids
  rw [Option.isSome_iff_exists]
  refine Iff.trans ?_ hids
  simp only [List.mem_map, Prod.exists]
  constructor
  · rintro ⟨item, hitem⟩
    exact ⟨id, item, HashMap.mem_iter.mpr hitem, rfl⟩
  · rintro ⟨_, item, hmem, rfl⟩
    exact ⟨item, HashMap.mem_iter.mp hmem⟩

/-- A new id is registered. -/
theorem register (h : s.Registered) {id : String} (hid : id ∉ s.live.map fun p => p.1.id)
    (item : T) : (s.apply (.register id item)).Registered := by
  have hnone : s.manager.registrations.lookup id = none := by
    rwa [← h.mem_live, Option.not_isSome_iff_eq_none] at hid
  have hregister : s.manager.register id item =
      (⟨s.manager.registrations.insert id item⟩, .ok ⟨id⟩) := by
    rw [ArcRegistrationManager.register, ArcRegistrationManager.performRegistration, hnone]
    rfl
  rw [apply, hregister]
  show (HashMap.iter (s.manager.registrations.insert id item)).Perm _
  rw [HashMap.iter_insert_of_lookup hnone, List.map_append]
  exact (h.cons _).trans (List.perm_append_singleton _ _).symm

/-- In a list with distinct keys, what has not the key of an element is what is left without it. -/
theorem eraseIdx_eq_filter {α K : Type} [DecidableEq K] {key : α → K} {l : List α}
    (hnodup : (l.map key).Nodup) {i : ℕ} {a : α} (ha : l[i]? = some a) :
    l.eraseIdx i = l.filter fun b => key b ≠ key a := by
  induction l generalizing i with
  | nil => cases ha
  | cons b l ih =>
    rw [List.map_cons, List.nodup_cons] at hnodup
    cases i with
    | zero =>
      cases ha
      rw [List.eraseIdx_cons_zero, List.filter_cons_of_neg (by simp), eq_comm, List.filter_eq_self]
      intro c hc
      have hne : key c ≠ key a := fun heq => hnodup.1 (heq ▸ List.mem_map_of_mem hc)
      simpa using hne
    | succ i =>
      rw [List.getElem?_cons_succ] at ha
      have hne : key b ≠ key a :=
        fun heq => hnodup.1 (heq ▸ List.mem_map_of_mem (List.mem_of_getElem? ha))
      rw [List.eraseIdx_cons_succ, ih hnodup.2 ha, List.filter_cons_of_pos (by simpa using hne)]

theorem drop (h : s.Registered) (i : ℕ) : (s.apply (.drop i)).Registered := by
  rw [apply]
  cases hlive : s.live[i]? with
  | none => exact h
  | some p =>
    show (HashMap.iter (s.manager.registrations.erase p.1.id)).Perm
      ((s.live.eraseIdx i).map fun p => (p.1.id, p.2))
    rw [HashMap.iter_erase, eraseIdx_eq_filter h.nodup hlive]
    have hfilter := h.filter fun q => q.1 ≠ p.1.id
    rwa [List.filter_map] at hfilter

/-- A step that draws no id in use keeps the entries those of the registrations. -/
theorem apply (h : s.Registered) {step : RegistrationStep T} (hredraws : ¬ s.Redraws step) :
    (s.apply step).Registered := by
  cases step with
  | register id item => exact h.register hredraws item
  | drop i => exact h.drop i

/-- After a step that draws an id in use, the item of that id is missing. -/
theorem not_exact (h : s.Registered) {step : RegistrationStep T} (hredraws : s.Redraws step) :
    ¬ (s.apply step).Exact := by
  cases step with
  | drop i => exact absurd hredraws id
  | register id item =>
    have hsome := h.mem_live.mpr hredraws
    obtain ⟨item', hitem'⟩ := Option.isSome_iff_exists.mp hsome
    have hregister : s.manager.register id item =
        (s.manager.drop ⟨id⟩, .error .retryableFailure) := by
      rw [ArcRegistrationManager.register, ArcRegistrationManager.performRegistration, if_pos hsome]
    rw [RegistrationState.apply, hregister]
    intro hexact
    have hlen := (hexact (HashMap.Shuffle.id T)).length_eq
    have hlen' := h.length_eq
    have hless := HashMap.length_entries_erase_lt hitem'
    have hvalues : (HashMap.values (s.manager.registrations.erase id)).length = s.live.length := by
      rw [List.length_map] at hlen
      exact hlen
    rw [HashMap.values, List.length_map] at hvalues
    rw [HashMap.iter, List.length_map, List.length_map] at hlen'
    omega

/-- In a run from a state with its registrations, exactness and drawing new ids are the same. -/
theorem exact_iff (h : s.Registered) (steps : List (RegistrationStep T)) :
    (∀ before, before <+: steps → (before.foldl RegistrationState.apply s).Exact) ↔
      s.NeverRedraws steps := by
  induction steps generalizing s with
  | nil =>
    refine iff_of_true (fun before hbefore => ?_) trivial
    rw [List.prefix_nil.mp hbefore]
    exact h.exact
  | cons step steps ih =>
    rw [NeverRedraws]
    by_cases hredraws : s.Redraws step
    · refine iff_of_false (fun hexact => ?_) fun hnever => hnever.1 hredraws
      exact h.not_exact hredraws (hexact [step] ⟨steps, rfl⟩)
    · rw [← ih (h.apply hredraws)]
      constructor
      · intro hexact
        refine ⟨hredraws, fun before hbefore => ?_⟩
        exact hexact (step :: before) (List.cons_prefix_cons.mpr ⟨rfl, hbefore⟩)
      · rintro ⟨-, hexact⟩ before hbefore
        cases before with
        | nil => exact h.exact
        | cons first before =>
          obtain ⟨rfl, hrest⟩ := List.cons_prefix_cons.mp hbefore
          exact hexact before hrest

end Registered

/-- **When the manager is exact.**  In every state of a run the registered items are those of the
registrations that are alive, if and only if no call of `register` draws the id of one of them. -/
theorem exact_iff_neverRedraws (steps : List (RegistrationStep T)) :
    (∀ before, before <+: steps → (run before).Exact) ↔ NeverRedraws new steps :=
  Registered.new.exact_iff steps

/-- A call that fails removes the item of another registration. -/
theorem not_exact_run : ¬ ∀ steps : List (RegistrationStep ℕ), (run steps).Exact := by
  intro h
  have hperm := h [.register "a" 12, .register "a" 13] (HashMap.Shuffle.id ℕ)
  have hlen := hperm.length_eq
  revert hlen
  decide

end RegistrationState

end RustyRouter
