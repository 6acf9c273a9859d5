/-
# Reasoning about tasks one at a time

The changes that are made to the value of a lock are labelled: a task that
releases a lock it held exclusively says by labels what it has done.  The history
of a lock is the list of these labels, with the tasks, in the order of release.
A relation between histories and values is to hold whenever nobody holds the lock
exclusively (the resource of the lock).

A task is verified on its own (`Verified`): given that the resources hold of the
locks it takes, it restores them when it releases the locks, it takes them in
increasing order, stays with none below one that it holds, and ends with its
postcondition.  A system of verified tasks keeps the resources (`Sound.run`), and
it has no deadlock: at rest a task waits only where someone stays with that lock or
a greater one (`Sound.exists_stay`).
-/
import RustyRouter.LockSystem

namespace LockSystem

variable {ι L : Type} {σ Λ : L → Type} {ρ ρ' : Type}

/-! ## Verified tasks -/

/-- The labels of one task. -/
def own [DecidableEq ι] {α : Type} (i : ι) (history : List (ι × α)) : List α :=
  (history.filter fun entry => entry.1 = i).map Prod.snd

section Own

variable [DecidableEq ι] {α : Type} (i : ι)

/-- The own labels of a longer history. -/
theorem own_append (history history' : List (ι × α)) :
    own i (history ++ history') = own i history ++ own i history' := by
  rw [own, List.filter_append, List.map_append]
  rfl

/-- What a task has done itself is all its own. -/
theorem own_self (labels : List α) : own i (labels.map (Prod.mk i)) = labels := by
  induction labels with
  | nil => rfl
  | cons label labels ih => simpa [own] using ih

/-- A label of its own comes last among the own ones. -/
theorem own_append_self (history : List (ι × α)) (label : α) :
    own i (history ++ [(i, label)]) = own i history ++ [label] := by
  rw [own_append]
  exact congrArg _ (own_self i [label])

/-- What another task has done is not its own. -/
theorem own_of_ne {j : ι} (h : j ≠ i) (labels : List α) : own i (labels.map (Prod.mk j)) = [] := by
  induction labels with
  | nil => rfl
  | cons label labels ih => simp [own, h]

end Own

/-- What a task knows: the locks it holds with their values, and for each lock the history up to
where it last held it. -/
structure Local (ι : Type) {L : Type} (σ Λ : L → Type) where
  held : ∀ lock, Option (LockMode × σ lock)
  seen : ∀ lock, List (ι × Λ lock)

namespace Local

/-- No lock is held. -/
def Free (env : Local ι σ Λ) : Prop := ∀ lock, env.held lock = none

/-- Who holds nothing may take any lock. -/
theorem Free.below [LT L] {env : Local ι σ Λ} (h : env.Free) (lock lower : L)
    (hheld : env.held lower ≠ none) : lower < lock :=
  absurd (h lower) hheld

variable [DecidableEq L]

/-- After a lock was given. -/
def take (env : Local ι σ Λ) (lock : L) (mode : LockMode) (value : σ lock)
    (history : List (ι × Λ lock)) : Local ι σ Λ :=
  ⟨Function.update env.held lock (some (mode, value)), Function.update env.seen lock history⟩

/-- After the value of a lock was changed. -/
def put (env : Local ι σ Λ) (lock : L) (value : σ lock) : Local ι σ Λ :=
  ⟨Function.update env.held lock (some (.exclusive, value)), env.seen⟩

/-- After a lock was released, with the labels of what was done. -/
def drop (env : Local ι σ Λ) (i : ι) (lock : L) (labels : List (Λ lock)) : Local ι σ Λ :=
  ⟨Function.update env.held lock none,
    Function.update env.seen lock (env.seen lock ++ labels.map (Prod.mk i))⟩

/-- After a lock was held for a while. -/
def saw (env : Local ι σ Λ) (lock : L) (history : List (ι × Λ lock)) : Local ι σ Λ :=
  ⟨env.held, Function.update env.seen lock history⟩

variable {env : Local ι σ Λ} {lock : L}

/-- A task holds what it has taken. -/
@[simp] theorem held_take (mode : LockMode) (value : σ lock) (history : List (ι × Λ lock)) :
    (env.take lock mode value history).held lock = some (mode, value) :=
  Function.update_self ..

/-- It has seen the history that it took the lock with. -/
@[simp] theorem seen_take (mode : LockMode) (value : σ lock) (history : List (ι × Λ lock)) :
    (env.take lock mode value history).seen lock = history :=
  Function.update_self ..

/-- Taking a lock leaves the others as they are held. -/
@[simp] theorem held_take_of_ne {lock' : L} (h : lock' ≠ lock) (mode : LockMode) (value : σ lock)
    (history : List (ι × Λ lock)) :
    (env.take lock mode value history).held lock' = env.held lock' :=
  Function.update_of_ne h ..

/-- Taking a lock leaves what was seen of the others. -/
@[simp] theorem seen_take_of_ne {lock' : L} (h : lock' ≠ lock) (mode : LockMode) (value : σ lock)
    (history : List (ι × Λ lock)) :
    (env.take lock mode value history).seen lock' = env.seen lock' :=
  Function.update_of_ne h ..

/-- Seeing a history holds nothing. -/
@[simp] theorem held_saw (history : List (ι × Λ lock)) : (env.saw lock history).held = env.held :=
  rfl

/-- What was seen last is what is known. -/
@[simp] theorem seen_saw (history : List (ι × Λ lock)) :
    (env.saw lock history).seen lock = history :=
  Function.update_self ..

/-- Seeing the history of a lock leaves what was seen of the others. -/
@[simp] theorem seen_saw_of_ne {lock' : L} (h : lock' ≠ lock) (history : List (ι × Λ lock)) :
    (env.saw lock history).seen lock' = env.seen lock' :=
  Function.update_of_ne h ..

/-- What is seen of another lock leaves this one as it is held. -/
theorem held_saw_take {lock' : L} (mode : LockMode) (value : σ lock) (history : List (ι × Λ lock))
    (history' : List (ι × Λ lock')) :
    ((env.take lock mode value history).saw lock' history').held lock = some (mode, value) :=
  held_take mode value history

/-- Writing after taking is taking with the written value, which only a writer does. -/
theorem put_take (mode : LockMode) (value value' : σ lock) (history : List (ι × Λ lock)) :
    (env.take lock mode value history).put lock value' =
      env.take lock .exclusive value' history := by
  rw [put, take, take, Function.update_idem]

/-- What was written and what was seen of another lock are independent. -/
theorem put_saw {lock' : L} (history : List (ι × Λ lock')) (value : σ lock) :
    (env.saw lock' history).put lock value = (env.put lock value).saw lock' history :=
  rfl

/-- A lock that was not held is given back. -/
theorem drop_take (h : env.held lock = none) (i : ι) (mode : LockMode) (value : σ lock)
    (history : List (ι × Λ lock)) (labels : List (Λ lock)) :
    (env.take lock mode value history).drop i lock labels =
      env.saw lock (history ++ labels.map (Prod.mk i)) := by
  rw [drop, seen_take, take, saw, Function.update_idem, Function.update_idem, ← h,
    Function.update_eq_self]

/-- Releasing a lock and seeing another are independent. -/
theorem drop_saw {lock' : L} (h : lock' ≠ lock) (i : ι) (history : List (ι × Λ lock'))
    (labels : List (Λ lock)) :
    (env.saw lock' history).drop i lock labels = (env.drop i lock labels).saw lock' history := by
  rw [drop, seen_saw_of_ne h.symm, saw, saw, drop, Function.update_comm h]

/-- Only the last history seen counts. -/
theorem saw_saw (history history' : List (ι × Λ lock)) :
    (env.saw lock history).saw lock history' = env.saw lock history' := by
  rw [saw, saw, saw, Function.update_idem]

/-- Seeing what is known adds nothing. -/
theorem saw_seen : env.saw lock (env.seen lock) = env := by
  rw [saw, Function.update_eq_self]

end Local

section Verified

variable [DecidableEq ι] [DecidableEq L] [LT L]
  (R : ∀ lock, List (ι × Λ lock) → σ lock → Prop) (i : ι)

/-- A task, with what it knows, keeps the resources and the order of the locks and ends with its
postcondition. -/
def Verified (post : Local ι σ Λ → ρ → Prop) : Task σ ρ → Local ι σ Λ → Prop
  | .done result, env => post env result
  | .acquire lock mode next, env =>
    (∀ lower, env.held lower ≠ none → lower < lock) ∧
      ∀ value history, env.seen lock <+: history → own i history = own i (env.seen lock) →
        R lock history value → Verified post next (env.take lock mode value history)
  | .read lock next, env =>
    ∃ mode value, env.held lock = some (mode, value) ∧ Verified post (next value) env
  | .write lock value next, env =>
    (∃ old, env.held lock = some (.exclusive, old)) ∧ Verified post next (env.put lock value)
  | .release lock next, env =>
    (∃ value, env.held lock = some (.shared, value) ∧ Verified post next (env.drop i lock [])) ∨
      ∃ value labels, env.held lock = some (.exclusive, value) ∧
        R lock (env.seen lock ++ labels.map (Prod.mk i)) value ∧
          Verified post next (env.drop i lock labels)
  | .turn next, env => Verified post next env
  | .stay lock, env => ∀ lower, env.held lower ≠ none → lower = lock ∨ lower < lock

variable {R i}

/-- Turns of its own change nothing that a task knows. -/
theorem Verified.turns {post : Local ι σ Λ → ρ → Prop} {next : Task σ ρ} {env : Local ι σ Λ}
    (h : Verified R i post next env) (n : ℕ) : Verified R i post (.turns n next) env := by
  induction n with
  | zero => exact h
  | succ n ih => exact ih

/-- Who holds a lock exclusively knows the value that it gives it. -/
theorem Verified.modify {post : Local ι σ Λ → ρ → Prop} {lock : L} {change : σ lock → σ lock}
    {next : Task σ ρ} {env : Local ι σ Λ} {value : σ lock}
    (hheld : env.held lock = some (.exclusive, value))
    (h : Verified R i post next (env.put lock (change value))) :
    Verified R i post (.modify lock change next) env :=
  ⟨.exclusive, value, hheld, ⟨value, hheld⟩, h⟩

/-- Who has held a lock alone gives it back with its resource restored. -/
theorem Verified.release {post : Local ι σ Λ → ρ → Prop} {lock : L} {next : Task σ ρ}
    {env : Local ι σ Λ} {value : σ lock} (labels : List (Λ lock))
    (hheld : env.held lock = some (.exclusive, value))
    (hR : R lock (env.seen lock ++ labels.map (Prod.mk i)) value)
    (h : Verified R i post next (env.drop i lock labels)) :
    Verified R i post (.release lock next) env :=
  Or.inr ⟨value, labels, hheld, hR, h⟩

/-- One change under a lock. -/
theorem Verified.update {post : Local ι σ Λ → ρ → Prop} {lock : L} {change : σ lock → σ lock}
    {next : Task σ ρ} {env : Local ι σ Λ} (label : Λ lock)
    (hbelow : ∀ lower, env.held lower ≠ none → lower < lock) (hnone : env.held lock = none)
    (hR : ∀ value history, R lock history value → R lock (history ++ [(i, label)]) (change value))
    (h : ∀ value history, env.seen lock <+: history → own i history = own i (env.seen lock) →
      R lock history value → Verified R i post next (env.saw lock (history ++ [(i, label)]))) :
    Verified R i post (.acquire lock .exclusive (.modify lock change (.release lock next))) env := by
  refine ⟨hbelow, fun value history hseen hown hvalue => ?_⟩
  refine .modify (Local.held_take ..) ?_
  rw [Local.put_take]
  refine .release [label] (Local.held_take ..) ?_ ?_
  · rw [Local.seen_take]
    exact hR value history hvalue
  · rw [Local.drop_take hnone]
    exact h value history hseen hown hvalue

/-- A task that is verified is so for a weaker postcondition. -/
theorem Verified.mono {post post' : Local ι σ Λ → ρ → Prop} {task : Task σ ρ} {env : Local ι σ Λ}
    (h : Verified R i post task env) (hpost : ∀ env result, post env result → post' env result) :
    Verified R i post' task env := by
  induction task generalizing env with
  | done result => exact hpost env result h
  | acquire lock mode task ih =>
    exact ⟨h.1, fun value history hseen hown hR => ih (h.2 value history hseen hown hR)⟩
  | read lock task ih =>
    obtain ⟨mode, value, hheld, h⟩ := h
    exact ⟨mode, value, hheld, ih value h⟩
  | write lock value task ih => exact ⟨h.1, ih h.2⟩
  | release lock task ih =>
    rcases h with ⟨value, hheld, h⟩ | ⟨value, labels, hheld, hR, h⟩
    · exact Or.inl ⟨value, hheld, ih h⟩
    · exact Or.inr ⟨value, labels, hheld, hR, ih h⟩
  | turn task ih => exact ih h
  | stay lock => exact h

/-- One verified task after another. -/
theorem Verified.andThen {middle : Local ι σ Λ → ρ → Prop} {post : Local ι σ Λ → ρ' → Prop}
    {task : Task σ ρ} {next : ρ → Task σ ρ'} {env : Local ι σ Λ} (h : Verified R i middle task env)
    (hnext : ∀ env result, middle env result → Verified R i post (next result) env) :
    Verified R i post (task.andThen next) env := by
  induction task generalizing env with
  | done result => exact hnext env result h
  | acquire lock mode task ih =>
    exact ⟨h.1, fun value history hseen hown hR => ih (h.2 value history hseen hown hR)⟩
  | read lock task ih =>
    obtain ⟨mode, value, hheld, h⟩ := h
    exact ⟨mode, value, hheld, ih value h⟩
  | write lock value task ih => exact ⟨h.1, ih h.2⟩
  | release lock task ih =>
    rcases h with ⟨value, hheld, h⟩ | ⟨value, labels, hheld, hR, h⟩
    · exact Or.inl ⟨value, hheld, ih h⟩
    · exact Or.inr ⟨value, labels, hheld, hR, ih h⟩
  | turn task ih => exact ih h
  | stay lock => exact h

end Verified

/-! ## Systems of verified tasks -/

/-- Histories to which only labels were added. -/
def Grows (history history' : ∀ lock, List (ι × Λ lock)) : Prop :=
  ∀ lock, history lock <+: history' lock

/-- A history grows into itself. -/
theorem Grows.refl (history : ∀ lock, List (ι × Λ lock)) : Grows history history :=
  fun _ => List.prefix_rfl

/-- A history that has grown can grow further. -/
theorem Grows.trans {history history' history'' : ∀ lock, List (ι × Λ lock)}
    (h : Grows history history') (h' : Grows history' history'') : Grows history history'' :=
  fun lock => (h lock).trans (h' lock)

/-- What a task of a system knows. -/
def System.env (s : System ι σ ρ) (seen : ι → ∀ lock, List (ι × Λ lock)) (i : ι) :
    Local ι σ Λ :=
  ⟨fun lock => (s.held i lock).map fun mode => (mode, s.data lock), seen i⟩

section Sound

variable [DecidableEq ι] [DecidableEq L] [Preorder L]
  (R : ∀ lock, List (ι × Λ lock) → σ lock → Prop) (post : ι → Local ι σ Λ → ρ → Prop)

/-- What holds of a system of verified tasks, with the history of its locks and the part of it that
each task has seen. -/
structure Sound (s : System ι σ ρ) (history : ∀ lock, List (ι × Λ lock))
    (seen : ι → ∀ lock, List (ι × Λ lock)) : Prop where
  verified : ∀ i, Verified R i (post i) (s.stage i).task (s.env seen i)
  resource : ∀ lock, (∀ i, s.held i lock ≠ some .exclusive) → R lock (history lock) (s.data lock)
  seen_le : ∀ i, Grows (seen i) history
  own_eq : ∀ i lock, own i (history lock) = own i (seen i lock)
  current : ∀ i lock, s.held i lock ≠ none → seen i lock = history lock
  locked : s.Locked

variable {R post} {s s' : System ι σ ρ} {history : ∀ lock, List (ι × Λ lock)}
  {seen : ι → ∀ lock, List (ι × Λ lock)} {i : ι}

omit [DecidableEq ι] [DecidableEq L] [Preorder L] in
/-- What a task knows stays when the locks it holds and their values stay. -/
theorem env_congr {seen' : ι → ∀ lock, List (ι × Λ lock)} (hheld : s'.held i = s.held i)
    (hdata : ∀ lock, s.held i lock ≠ none → s'.data lock = s.data lock) (hseen : seen' i = seen i) :
    s'.env seen' i = s.env seen i := by
  rw [System.env, System.env, hseen, hheld]
  congr 1
  funext lock
  cases hlock : s.held i lock with
  | none => rfl
  | some mode => rw [hdata lock (by simp [hlock])]

omit [DecidableEq ι] [DecidableEq L] [Preorder L] in
/-- A task holds no value of a lock that it does not hold. -/
theorem env_held_eq_none {lock : L} : (s.env seen i).held lock = none ↔ s.held i lock = none := by
  simp [System.env]

omit [DecidableEq ι] [DecidableEq L] [Preorder L] in
/-- The value that a task holds of a lock is the data of the lock. -/
theorem env_held_eq_some {lock : L} {mode : LockMode} {value : σ lock} :
    (s.env seen i).held lock = some (mode, value) ↔
      s.held i lock = some mode ∧ s.data lock = value := by
  simp [System.env]

/-! ### The steps, one by one -/

omit [Preorder L] in
/-- What a task comes to know of a lock is what it knows. -/
theorem update_update_self (lock : L) (known : List (ι × Λ lock)) :
    Function.update seen i (Function.update (seen i) lock known) i lock = known := by
  rw [Function.update_self, Function.update_self]

omit [Preorder L] in
/-- What a task comes to know leaves what the others know, and what it knows of the others. -/
theorem update_update_of_ne {j : ι} {lock lock' : L} (known : List (ι × Λ lock))
    (h : ¬(j = i ∧ lock' = lock)) :
    Function.update seen i (Function.update (seen i) lock known) j lock' = seen j lock' := by
  by_cases hj : j = i
  · subst hj
    rw [Function.update_self, Function.update_of_ne fun hlock => h ⟨rfl, hlock⟩]
  · rw [Function.update_of_ne hj]

/-- All tasks are verified when the one that has moved is, and the others are as before. -/
theorem verified_setStage {stage : Stage σ ρ} (hi : Verified R i (post i) stage.task (s.env seen i))
    (hothers : ∀ j, j ≠ i → Verified R j (post j) (s.stage j).task (s.env seen j)) (j : ι) :
    Verified R j (post j) ((s.setStage i stage).stage j).task ((s.setStage i stage).env seen j) := by
  by_cases hj : j = i
  · subst hj
    rw [System.stage_setStage_self]
    exact hi
  · rw [System.stage_setStage_of_ne _ hj]
    exact hothers j hj

/-- Nobody holds a lock exclusively that is given to someone else. -/
theorem Sound.resource_of_admits (h : Sound R post s history seen) {lock : L} {mode : LockMode}
    (hadmits : ∀ j, mode.admits (s.held j lock)) : R lock (history lock) (s.data lock) := by
  refine h.resource lock fun j hj => ?_
  have hmode := hadmits j
  rw [hj, LockMode.not_admits_exclusive] at hmode
  cases hmode

/-- A request waits behind the others, and nothing else changes. -/
theorem Sound.acquire (h : Sound R post s history seen) {lock : L} {mode : LockMode}
    {next : Task σ ρ} (hstage : s.stage i = .ready (.acquire lock mode next)) :
    Sound R post ((s.setQueue lock (s.queue lock ++ [i])).setStage i (.waiting lock mode next))
      history seen where
  verified := by
    have hi := h.verified i
    -- waiting keeps what is asked of the rest of the task
    rw [hstage] at hi
    exact verified_setStage hi fun j _ => h.verified j
  resource := h.resource
  seen_le := h.seen_le
  own_eq := h.own_eq
  current := h.current
  locked := h.locked.step (.acquire hstage)

omit [Preorder L] in
/-- Who is given a lock takes it with its value and its history. -/
theorem env_setHeld (lock : L) (mode : LockMode) (known : List (ι × Λ lock)) :
    (s.setHeld i lock (some mode)).env
        (Function.update seen i (Function.update (seen i) lock known)) i =
      (s.env seen i).take lock mode (s.data lock) known := by
  rw [System.env, Local.take, Function.update_self]
  congr 1
  funext lock'
  show ((s.setHeld i lock (some mode)).held i lock').map (fun mode => (mode, s.data lock')) = _
  rw [System.held_setHeld]
  by_cases hlock : lock' = lock
  · subst hlock
    rw [if_pos ⟨rfl, rfl⟩, Function.update_self]
    rfl
  · rw [if_neg fun hboth => hlock hboth.2, Function.update_of_ne hlock]
    rfl

/-- A lock that is granted is held with its data, which the invariant relates to its history. -/
theorem Sound.grant (h : Sound R post s history seen) {lock : L} {mode : LockMode}
    {next : Task σ ρ} (hstage : s.stage i = .waiting lock mode next)
    (hfront : (s.queue lock).head? = some i) (hadmits : ∀ j, mode.admits (s.held j lock)) :
    Sound R post
      (((s.setQueue lock (s.queue lock).tail).setHeld i lock (some mode)).setStage i (.ready next))
      history (Function.update seen i (Function.update (seen i) lock (history lock))) where
  verified := by
    have hi := h.verified i
    rw [hstage] at hi
    refine verified_setStage ?_ fun j hj => ?_
    · -- the task goes on, knowing the data and the whole history of the lock
      have htake := hi.2 (s.data lock) (history lock) (h.seen_le i lock) (h.own_eq i lock)
        (h.resource_of_admits hadmits)
      rwa [← env_setHeld] at htake
    · -- to the other tasks nothing has changed
      have henv : ((s.setQueue lock (s.queue lock).tail).setHeld i lock (some mode)).env
          (Function.update seen i (Function.update (seen i) lock (history lock))) j =
            s.env seen j :=
        env_congr (Function.update_of_ne hj ..) (fun _ _ => rfl) (Function.update_of_ne hj ..)
      rw [henv]
      exact h.verified j
  resource := fun lock' hlock' => by
    -- the invariant of a lock is only needed while nobody writes
    by_cases hlock : lock' = lock
    · subst hlock
      exact h.resource_of_admits hadmits
    · refine h.resource lock' fun j hj => hlock' j ?_
      rw [← hj]
      exact (System.held_setHeld ..).trans (if_neg fun hboth => hlock hboth.2)
  seen_le := fun j lock' => by
    by_cases hboth : j = i ∧ lock' = lock
    · obtain ⟨rfl, rfl⟩ := hboth
      rw [update_update_self]
    · rw [update_update_of_ne _ hboth]
      exact h.seen_le j lock'
  own_eq := fun j lock' => by
    by_cases hboth : j = i ∧ lock' = lock
    · obtain ⟨rfl, rfl⟩ := hboth
      rw [update_update_self]
    · rw [update_update_of_ne _ hboth]
      exact h.own_eq j lock'
  current := fun j lock' hheld => by
    by_cases hboth : j = i ∧ lock' = lock
    · obtain ⟨rfl, rfl⟩ := hboth
      rw [update_update_self]
    · rw [update_update_of_ne _ hboth]
      refine h.current j lock' fun hnone => hheld ?_
      rw [← hnone]
      exact (System.held_setHeld ..).trans (if_neg hboth)
  locked := h.locked.step (.grant hstage hfront hadmits)

/-- A read gives the data, which the holder knows already. -/
theorem Sound.read (h : Sound R post s history seen) {lock : L} {next : σ lock → Task σ ρ}
    (hstage : s.stage i = .ready (.read lock next)) :
    Sound R post (s.setStage i (.ready (next (s.data lock)))) history seen where
  verified := by
    obtain ⟨mode, value, hheld, hi⟩ : ∃ mode value, (s.env seen i).held lock = some (mode, value) ∧
        Verified R i (post i) (next value) (s.env seen i) := by
      have hi := h.verified i
      rwa [hstage] at hi
    obtain ⟨-, rfl⟩ := env_held_eq_some.mp hheld
    exact verified_setStage hi fun j _ => h.verified j
  resource := h.resource
  seen_le := h.seen_le
  own_eq := h.own_eq
  current := h.current
  locked := h.locked.step (.read hstage)

omit [DecidableEq ι] [Preorder L] in
/-- Who changes the value of a lock that it holds exclusively knows the new one. -/
theorem env_setData {lock : L} (hheld : s.held i lock = some .exclusive) (value : σ lock) :
    (s.setData lock value).env seen i = (s.env seen i).put lock value := by
  rw [System.env, Local.put]
  congr 1
  funext lock'
  show (s.held i lock').map (fun mode => (mode, Function.update s.data lock value lock')) = _
  by_cases hlock : lock' = lock
  · subst hlock
    rw [hheld, Function.update_self, Function.update_self]
    rfl
  · rw [Function.update_of_ne hlock, Function.update_of_ne hlock]
    rfl

/-- Only the writer holds the lock, so the others know nothing that the write changes. -/
theorem Sound.write (h : Sound R post s history seen) {lock : L} {value : σ lock}
    {next : Task σ ρ} (hstage : s.stage i = .ready (.write lock value next)) :
    Sound R post ((s.setData lock value).setStage i (.ready next)) history seen := by
  obtain ⟨⟨old, hold⟩, hi⟩ : (∃ old, (s.env seen i).held lock = some (.exclusive, old)) ∧
      Verified R i (post i) next ((s.env seen i).put lock value) := by
    have hi := h.verified i
    rwa [hstage] at hi
  -- the task holds the lock as its writer
  have hheld := (env_held_eq_some.mp hold).1
  refine ⟨verified_setStage ?_ fun j hj => ?_, fun lock' hlock' => ?_, h.seen_le, h.own_eq,
    h.current, h.locked.step (.write hstage)⟩
  · rwa [env_setData hheld]
  · -- nobody else holds the lock
    have hdata : ∀ lock', s.held j lock' ≠ none →
        (s.setData lock value).data lock' = s.data lock' := by
      intro lock' hother
      refine Function.update_of_ne ?_ _ _
      rintro rfl
      exact hj (h.locked.alone i j _ hheld hother)
    have henv : (s.setData lock value).env seen j = s.env seen j := env_congr rfl hdata rfl
    rw [henv]
    exact h.verified j
  · have hne : lock' ≠ lock := by
      rintro rfl
      exact hlock' i hheld
    show R lock' (history lock') (Function.update s.data lock value lock')
    rw [Function.update_of_ne hne]
    exact h.resource lock' hlock'

omit [Preorder L] in
/-- Who releases a lock forgets its value and remembers what it did. -/
theorem env_release (lock : L) (labels : List (Λ lock)) :
    (s.setHeld i lock none).env (Function.update seen i
        (Function.update (seen i) lock (seen i lock ++ labels.map (Prod.mk i)))) i =
      (s.env seen i).drop i lock labels := by
  rw [System.env, Local.drop, Function.update_self]
  congr 1
  funext lock'
  show ((s.setHeld i lock none).held i lock').map (fun mode => (mode, s.data lock')) = _
  rw [System.held_setHeld]
  by_cases hlock : lock' = lock
  · subst hlock
    rw [if_pos ⟨rfl, rfl⟩, Function.update_self]
    rfl
  · rw [if_neg fun hboth => hlock hboth.2, Function.update_of_ne hlock]
    rfl

/-- Who releases a lock has restored its resource, with the labels of what it did; under a shared
lock it did nothing. -/
theorem Sound.released (h : Sound R post s history seen) {lock : L} {next : Task σ ρ}
    (hstage : s.stage i = .ready (.release lock next)) :
    ∃ labels : List (Λ lock), s.held i lock ≠ none ∧
      (s.held i lock = some .exclusive ∨ labels = []) ∧
      R lock (history lock ++ labels.map (Prod.mk i)) (s.data lock) ∧
      Verified R i (post i) next ((s.env seen i).drop i lock labels) := by
  have hi := h.verified i
  rw [hstage] at hi
  rcases hi with ⟨value, hvalue, hi⟩ | ⟨value, labels, hvalue, hR, hi⟩
  · obtain ⟨hheld, -⟩ := env_held_eq_some.mp hvalue
    refine ⟨[], by simp [hheld], Or.inr rfl, ?_, hi⟩
    rw [List.map_nil, List.append_nil]
    refine h.resource lock fun j hj => ?_
    -- an exclusive holder would be alone
    obtain rfl := h.locked.alone j i lock hj (by simp [hheld])
    rw [hheld] at hj
    cases hj
  · obtain ⟨hheld, rfl⟩ := env_held_eq_some.mp hvalue
    refine ⟨labels, by simp [hheld], Or.inl hheld, ?_, hi⟩
    rw [← h.current i lock (by simp [hheld])]
    exact hR

/-- The labels of a release go on the history, and the invariant of the lock holds for it. -/
theorem Sound.release (h : Sound R post s history seen) {lock : L} {next : Task σ ρ}
    (hstage : s.stage i = .ready (.release lock next)) :
    ∃ history' seen', Sound R post ((s.setHeld i lock none).setStage i (.ready next)) history' seen' ∧
      Grows history history' ∧ ∀ j, j ≠ i → seen' j = seen j := by
  obtain ⟨labels, hheld, hmode, hR, hi⟩ := h.released hstage
  have hseen := h.current i lock hheld
  refine ⟨Function.update history lock (history lock ++ labels.map (Prod.mk i)),
    Function.update seen i
      (Function.update (seen i) lock (seen i lock ++ labels.map (Prod.mk i))), ⟨?_, ?_, ?_, ?_, ?_,
        h.locked.step (.release hstage)⟩, ?_, fun j hj => Function.update_of_ne hj ..⟩
  · refine verified_setStage ?_ fun j hj => ?_
    · -- the task goes on without the lock, and with its labels in the history
      rwa [env_release]
    · -- to the other tasks nothing has changed
      have henv : (s.setHeld i lock none).env (Function.update seen i
          (Function.update (seen i) lock (seen i lock ++ labels.map (Prod.mk i)))) j =
            s.env seen j :=
        env_congr (Function.update_of_ne hj ..) (fun _ _ => rfl) (Function.update_of_ne hj ..)
      rw [henv]
      exact h.verified j
  · intro lock' hlock'
    by_cases hlock : lock' = lock
    · subst hlock
      rw [Function.update_self]
      -- the holder has shown the invariant for the longer history
      exact hR
    · rw [Function.update_of_ne hlock]
      refine h.resource lock' fun j hj => hlock' j ?_
      rw [← hj]
      exact (System.held_setHeld ..).trans (if_neg fun hboth => hlock hboth.2)
  · intro j lock'
    by_cases hlock : lock' = lock
    · subst hlock
      rw [Function.update_self]
      by_cases hj : j = i
      · subst hj
        rw [update_update_self, hseen]
      · rw [update_update_of_ne _ fun hboth => hj hboth.1]
        exact (h.seen_le j lock').trans (List.prefix_append _ _)
    · rw [Function.update_of_ne hlock, update_update_of_ne _ fun hboth => hlock hboth.2]
      exact h.seen_le j lock'
  · intro j lock'
    by_cases hlock : lock' = lock
    · subst hlock
      rw [Function.update_self]
      by_cases hj : j = i
      · subst hj
        rw [update_update_self, hseen]
      · rw [update_update_of_ne _ fun hboth => hj hboth.1, own_append,
          own_of_ne j (Ne.symm hj), List.append_nil]
        exact h.own_eq j lock'
    · rw [Function.update_of_ne hlock, update_update_of_ne _ fun hboth => hlock hboth.2]
      exact h.own_eq j lock'
  · intro j lock' hheld'
    have hother : ¬(j = i ∧ lock' = lock) := fun hboth =>
      hheld' ((System.held_setHeld ..).trans (if_pos hboth))
    have hheld'' : s.held j lock' ≠ none := fun hnone =>
      hheld' ((System.held_setHeld ..).trans ((if_neg hother).trans hnone))
    rw [update_update_of_ne _ hother, h.current j lock' hheld'']
    by_cases hlock : lock' = lock
    · subst hlock
      -- another holder means that the lock was shared
      rcases hmode with hexclusive | rfl
      · exact absurd ⟨h.locked.alone i j _ hexclusive hheld'', rfl⟩ hother
      · rw [Function.update_self, List.map_nil, List.append_nil]
    · rw [Function.update_of_ne hlock]
  · intro lock'
    by_cases hlock : lock' = lock
    · subst hlock
      rw [Function.update_self]
      exact List.prefix_append _ _
    · rw [Function.update_of_ne hlock]

/-- A turn of its own changes nothing that is shared. -/
theorem Sound.turn (h : Sound R post s history seen) {next : Task σ ρ}
    (hstage : s.stage i = .ready (.turn next)) :
    Sound R post (s.setStage i (.ready next)) history seen where
  verified := by
    have hi := h.verified i
    rw [hstage] at hi
    exact verified_setStage hi fun j _ => h.verified j
  resource := h.resource
  seen_le := h.seen_le
  own_eq := h.own_eq
  current := h.current
  locked := h.locked.step (.turn hstage)

/-- **Soundness.**  A step of a system of verified tasks leads to such a system, and histories only
grow. -/
theorem Sound.step (h : Sound R post s history seen) (hstep : System.Step s i s') :
    ∃ history' seen', Sound R post s' history' seen' ∧ Grows history history' ∧
      ∀ j, j ≠ i → seen' j = seen j := by
  cases hstep with
  | acquire hstage => exact ⟨_, _, h.acquire hstage, .refl _, fun _ _ => rfl⟩
  | grant hstage hfront hadmits =>
    exact ⟨_, _, h.grant hstage hfront hadmits, .refl _, fun j hj => Function.update_of_ne hj ..⟩
  | read hstage => exact ⟨_, _, h.read hstage, .refl _, fun _ _ => rfl⟩
  | write hstage => exact ⟨_, _, h.write hstage, .refl _, fun _ _ => rfl⟩
  | release hstage => exact h.release hstage
  | turn hstage => exact ⟨_, _, h.turn hstage, .refl _, fun _ _ => rfl⟩

/-! ### Rest -/

/-- Whoever holds a lock is not done, it waits for greater locks only and stays with none below. -/
theorem Sound.waits_above (h : Sound R post s history seen)
    (hpost : ∀ i env result, post i env result → env.Free) {lock : L}
    (hheld : s.held i lock ≠ none) :
    ¬ s.Done i ∧ (∀ greater mode next, s.stage i = .waiting greater mode next → lock < greater) ∧
      ∀ greater, s.stage i = .ready (.stay greater) → lock ≤ greater := by
  have hi := h.verified i
  refine ⟨?_, ?_, ?_⟩
  · rintro ⟨result, hdone⟩
    rw [hdone] at hi
    exact hheld (env_held_eq_none.mp (hpost i _ _ hi lock))
  · intro greater mode next hwaiting
    rw [hwaiting] at hi
    exact hi.1 lock fun hnone => hheld (env_held_eq_none.mp hnone)
  · intro greater hstays
    rw [hstays] at hi
    rcases hi lock fun hnone => hheld (env_held_eq_none.mp hnone) with rfl | hlt
    · exact le_refl _
    · exact hlt.le

/-- Where a task waits and cannot move, the lock is held by someone. -/
theorem Sound.exists_holder [Fintype ι] (h : Sound R post s history seen) (hrest : s.AtRest)
    {lock : L} {mode : LockMode} {next : Task σ ρ} (hwaits : s.stage i = .waiting lock mode next) :
    ∃ j, s.held j lock ≠ none := by
  have hqueue := (h.locked.mem_queue lock i).mpr ⟨mode, next, hwaits⟩
  obtain ⟨front, rest, hfront⟩ := List.exists_cons_of_ne_nil (List.ne_nil_of_mem hqueue)
  obtain ⟨mode', next', hwaiting⟩ :=
    (h.locked.mem_queue lock front).mp (hfront ▸ List.mem_cons_self)
  rcases System.step_eq_none (hrest front) with
    ⟨result, hdone⟩ | ⟨lock', mode'', next'', hwaiting', hblocked⟩ | ⟨lock', hstays⟩
  · rw [hwaiting] at hdone
    cases hdone
  · rw [hwaiting] at hwaiting'
    cases hwaiting'
    rw [hfront, List.head?_cons, not_and, not_forall] at hblocked
    obtain ⟨j, hj⟩ := hblocked rfl
    refine ⟨j, fun hheld => hj ?_⟩
    rw [hheld]
    rfl
  · rw [hwaiting] at hstays
    cases hstays

/-- **No deadlock.**  In a system of verified tasks at rest, whoever waits for a lock waits because
someone stays with that lock or a greater one. -/
theorem Sound.exists_stay [Fintype ι] (h : Sound R post s history seen)
    (hpost : ∀ i env result, post i env result → env.Free) (hrest : s.AtRest) {lock : L}
    {mode : LockMode} {next : Task σ ρ} (hwaits : s.stage i = .waiting lock mode next) :
    ∃ j greater, s.stage j = .ready (.stay greater) ∧ lock ≤ greater := by
  -- the locks from this one on that someone waits for: there are finitely many
  let awaited : Set L :=
    {greater | lock ≤ greater ∧ ∃ i mode next, s.stage i = .waiting greater mode next}
  have hfinite : awaited.Finite := by
    have hsub : ∀ i,
        {greater | ∃ mode next, s.stage i = .waiting greater mode next}.Subsingleton := by
      rintro i greater ⟨mode, next, hi⟩ greater' ⟨mode', next', hi'⟩
      rw [hi] at hi'
      cases hi'
      rfl
    refine (Set.finite_iUnion fun i => (hsub i).finite).subset ?_
    rintro greater ⟨-, i, hi⟩
    exact Set.mem_iUnion.mpr ⟨i, hi⟩
  -- the holder of a greatest of them can only stay
  obtain ⟨greatest, ⟨hle, k, mode', next', hk⟩, hmax⟩ :=
    hfinite.exists_maximal ⟨lock, le_refl lock, i, mode, next, hwaits⟩
  obtain ⟨j, hj⟩ := h.exists_holder hrest hk
  obtain ⟨hnotDone, hwaitsAbove, hstaysAbove⟩ := h.waits_above hpost hj
  rcases System.step_eq_none (hrest j) with
    hdone | ⟨greater, mode'', next'', hj', -⟩ | ⟨greater, hstays⟩
  · exact absurd hdone hnotDone
  · have hlt := hwaitsAbove greater mode'' next'' hj'
    exact absurd (hmax ⟨hle.trans hlt.le, j, mode'', next'', hj'⟩ hlt.le) (not_le_of_gt hlt)
  · exact ⟨j, greater, hstays, hle.trans (hstaysAbove greater hstays)⟩

/-! ### Runs -/

/-- Nothing is held and nothing has been seen. -/
def Local.start : Local ι σ Λ := ⟨fun _ => none, fun _ => []⟩

/-- At the start nothing is held, and each task is verified from there. -/
theorem Sound.start {data : ∀ lock, σ lock} {task : ι → Task σ ρ} (hdata : ∀ lock, R lock [] (data lock))
    (htask : ∀ i, Verified R i (post i) (task i) .start) :
    Sound R post (System.start data task) (fun _ => []) fun _ _ => [] where
  verified := htask
  resource := fun lock _ => hdata lock
  seen_le := fun _ => .refl _
  own_eq := fun _ _ => rfl
  current := fun _ _ _ => rfl
  locked := .start data task

variable [Fintype ι]

/-- A system of verified tasks is one after every schedule; who was not scheduled has seen nothing
more. -/
theorem Sound.run (h : Sound R post s history seen) (schedule : List ι) :
    ∃ history' seen', Sound R post (s.run schedule) history' seen' ∧ Grows history history' ∧
      ∀ j, j ∉ schedule → seen' j = seen j := by
  induction schedule generalizing s history seen with
  | nil => exact ⟨_, _, h, .refl _, fun _ _ => rfl⟩
  | cons i schedule ih =>
    rw [System.run, List.foldl_cons]
    cases hstep : s.step i with
    | none =>
      rw [System.advance_of_none hstep]
      obtain ⟨history', seen', hsound, hgrows, hseen⟩ := ih h
      exact ⟨history', seen', hsound, hgrows, fun j hj => hseen j fun hmem => hj (.tail _ hmem)⟩
    | some s' =>
      rw [System.advance_of_some hstep]
      obtain ⟨history₁, seen₁, hsound₁, hgrows₁, hseen₁⟩ := h.step (System.step_cases hstep)
      obtain ⟨history', seen', hsound, hgrows, hseen⟩ := ih hsound₁
      refine ⟨history', seen', hsound, hgrows₁.trans hgrows, fun j hj => ?_⟩
      rw [List.mem_cons, not_or] at hj
      rw [hseen j hj.2, hseen₁ j hj.1]

omit [Fintype ι] in
/-- What a task ends with. -/
theorem Sound.post_of_done (h : Sound R post s history seen) {result : ρ}
    (hdone : s.stage i = .ready (.done result)) : post i (s.env seen i) result := by
  have hi := h.verified i
  rw [hdone] at hi
  exact hi

omit [Fintype ι] in
/-- Of tasks that have not started it may be said that they have seen all there is to see. -/
theorem Sound.refresh {late : ι → Prop} [DecidablePred late] {task : ι → Task σ ρ}
    {post' : ι → Local ι σ Λ → ρ → Prop} (h : Sound R post s history seen)
    (hlate : ∀ i, late i → s.stage i = .ready (task i) ∧ (s.held i = fun _ => none) ∧
      Verified R i (post' i) (task i) ⟨fun _ => none, history⟩) :
    Sound R (fun i => if late i then post' i else post i) s history
      fun i => if late i then history else seen i where
  verified := fun j => by
    by_cases hj : late j
    · obtain ⟨hstage, hheld, htask⟩ := hlate j hj
      rw [System.env, if_pos hj, if_pos hj, hstage, hheld]
      exact htask
    · rw [System.env, if_neg hj, if_neg hj]
      exact h.verified j
  resource := h.resource
  seen_le := fun j => by
    split_ifs
    · exact .refl _
    · exact h.seen_le j
  own_eq := fun j lock => by
    split_ifs
    · rfl
    · exact h.own_eq j lock
  current := fun j lock hlock => by
    split_ifs
    · rfl
    · exact h.current j lock hlock
  locked := h.locked

end Sound

end LockSystem
