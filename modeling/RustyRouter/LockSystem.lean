/-
# Tasks that share data behind locks

Each lock guards a value of its own: a task reads it while it holds the lock and
changes it while it holds the lock exclusively.  What a task does next depends on
what it has read, so a task is a tree.  A task can also take turns of its own, in
which it touches nothing that is shared, and it can stay for ever with what a lock
guards: it then gets no further and gives nothing back.

A lock is fair: those who ask for it wait in a queue, and only the one in front
is given it, as soon as those who hold it admit that.  A schedule says which task
moves next; a task that cannot move is passed over.

Every step brings a task closer to its end (`wellFounded_precedes`), so that
finitely many tasks come to rest under a fair schedule (`exists_rest`): then each
is done, or waits for a lock that it is not given, or stays where it is.
-/
import Mathlib

namespace LockSystem

/-- How a lock is held. -/
inductive LockMode : Type where
  | shared
  | exclusive
  deriving DecidableEq, Repr

/-- Whether a lock is given in a mode beside another holder. -/
def LockMode.admits : LockMode → Option LockMode → Bool
  | _, none => true
  | .shared, some .shared => true
  | .shared, some .exclusive => false
  | .exclusive, some _ => false

/-- A lock is given exclusively beside nobody. -/
theorem LockMode.admits_exclusive {other : Option LockMode} :
    LockMode.exclusive.admits other ↔ other = none := by
  cases other <;> simp [LockMode.admits]

/-- Beside who holds it exclusively a lock is not given at all. -/
theorem LockMode.not_admits_exclusive (mode : LockMode) : mode.admits (some .exclusive) = false := by
  cases mode <;> rfl

/-- What is left of a task. -/
inductive Task {L : Type} (σ : L → Type) (ρ : Type) : Type where
  | done (result : ρ)
  | acquire (lock : L) (mode : LockMode) (next : Task σ ρ)
  | read (lock : L) (next : σ lock → Task σ ρ)
  | write (lock : L) (value : σ lock) (next : Task σ ρ)
  | release (lock : L) (next : Task σ ρ)
  | turn (next : Task σ ρ)
  | stay (lock : L)

variable {L : Type} {σ : L → Type} {ρ ρ' : Type}

namespace Task

/-- One task after another. -/
def andThen : Task σ ρ → (ρ → Task σ ρ') → Task σ ρ'
  | done result, next => next result
  | acquire lock mode task, next => acquire lock mode (task.andThen next)
  | read lock task, next => read lock fun value => (task value).andThen next
  | write lock value task, next => write lock value (task.andThen next)
  | release lock task, next => release lock (task.andThen next)
  | turn task, next => turn (task.andThen next)
  -- nothing comes after it
  | stay lock, _ => stay lock

/-- Changes the value of a lock by what it is. -/
def modify (lock : L) (change : σ lock → σ lock) (next : Task σ ρ) : Task σ ρ :=
  read lock fun value => write lock (change value) next

/-- Some turns of its own. -/
def turns : ℕ → Task σ ρ → Task σ ρ
  | 0, next => next
  | n + 1, next => turn (turns n next)

/-- The task asks only for some locks, and stays only with some. -/
def Within (asks stays : L → Prop) : Task σ ρ → Prop
  | done _ => True
  | acquire lock _ next => asks lock ∧ next.Within asks stays
  | read _ next => ∀ value, (next value).Within asks stays
  | write _ _ next => next.Within asks stays
  | release _ next => next.Within asks stays
  | turn next => next.Within asks stays
  | stay lock => stays lock

section Within

variable {asks asks' stays stays' : L → Prop}

/-- One task after another asks for what they ask for. -/
theorem Within.andThen {task : Task σ ρ} {next : ρ → Task σ ρ'} (h : task.Within asks stays)
    (hnext : ∀ result, (next result).Within asks stays) :
    (task.andThen next).Within asks stays := by
  induction task with
  | done result => exact hnext result
  | acquire lock mode task ih => exact ⟨h.1, ih h.2⟩
  | read lock task ih => exact fun value => ih value (h value)
  | write lock value task ih => exact ih h
  | release lock task ih => exact ih h
  | turn task ih => exact ih h
  | stay lock => exact h

/-- Who asks for less asks for no more. -/
theorem Within.mono {task : Task σ ρ} (h : task.Within asks stays)
    (hasks : ∀ lock, asks lock → asks' lock) (hstays : ∀ lock, stays lock → stays' lock) :
    task.Within asks' stays' := by
  induction task with
  | done result => trivial
  | acquire lock mode task ih => exact ⟨hasks lock h.1, ih h.2⟩
  | read lock task ih => exact fun value => ih value (h value)
  | write lock value task ih => exact ih h
  | release lock task ih => exact ih h
  | turn task ih => exact ih h
  | stay lock => exact hstays lock h

/-- Turns of its own ask for nothing. -/
theorem Within.turns {task : Task σ ρ} (h : task.Within asks stays) (n : ℕ) :
    (Task.turns n task).Within asks stays := by
  induction n with
  | zero => exact h
  | succ n ih => exact ih

end Within

end Task

/-- Where a task stands: it is about to move, or it waits in the queue of a lock. -/
inductive Stage {L : Type} (σ : L → Type) (ρ : Type) : Type where
  | ready (task : Task σ ρ)
  | waiting (lock : L) (mode : LockMode) (next : Task σ ρ)

namespace Stage

/-- What is left to do. -/
def task : Stage σ ρ → Task σ ρ
  | ready task => task
  | waiting lock mode next => .acquire lock mode next

/-- What a stage can become by one step. -/
inductive Precedes : Stage σ ρ → Stage σ ρ → Prop where
  | acquire (lock : L) (mode : LockMode) (next : Task σ ρ) :
      Precedes (waiting lock mode next) (ready (.acquire lock mode next))
  | grant (lock : L) (mode : LockMode) (next : Task σ ρ) :
      Precedes (ready next) (waiting lock mode next)
  | read (lock : L) (next : σ lock → Task σ ρ) (value : σ lock) :
      Precedes (ready (next value)) (ready (.read lock next))
  | write (lock : L) (value : σ lock) (next : Task σ ρ) :
      Precedes (ready next) (ready (.write lock value next))
  | release (lock : L) (next : Task σ ρ) : Precedes (ready next) (ready (.release lock next))
  | turn (next : Task σ ρ) : Precedes (ready next) (ready (.turn next))

/-- Who waits for a lock has no more steps to take than who was given it, but one. -/
theorem acc_waiting {next : Task σ ρ} (h : Acc Precedes (ready next)) (lock : L) (mode : LockMode) :
    Acc Precedes (waiting lock mode next) := by
  refine ⟨_, fun stage hstage => ?_⟩
  cases hstage
  exact h

/-- Every step of a task leads to a smaller one. -/
theorem acc_ready (task : Task σ ρ) : Acc Precedes (ready task) := by
  -- every step of a task goes on to a smaller one, and a task that stays has none
  induction task with
  | done result => exact ⟨_, fun stage hstage => nomatch hstage⟩
  | acquire lock mode next ih =>
    refine ⟨_, fun stage hstage => ?_⟩
    cases hstage
    exact acc_waiting ih lock mode
  | read lock next ih =>
    refine ⟨_, fun stage hstage => ?_⟩
    cases hstage with
    | read _ _ value => exact ih value
  | write lock value next ih =>
    refine ⟨_, fun stage hstage => ?_⟩
    cases hstage
    exact ih
  | release lock next ih =>
    refine ⟨_, fun stage hstage => ?_⟩
    cases hstage
    exact ih
  | turn next ih =>
    refine ⟨_, fun stage hstage => ?_⟩
    cases hstage
    exact ih
  | stay lock => exact ⟨_, fun stage hstage => nomatch hstage⟩

/-- A task has no endless sequence of steps. -/
theorem wellFounded_precedes : WellFounded (Precedes : Stage σ ρ → Stage σ ρ → Prop) := by
  refine ⟨fun stage => ?_⟩
  cases stage with
  | ready task => exact acc_ready task
  | waiting lock mode next => exact acc_waiting (acc_ready next) lock mode

end Stage

/-! ## Systems of tasks -/

/-- The values behind the locks, where the tasks stand, who holds which lock and who waits for it. -/
structure System (ι : Type) {L : Type} (σ : L → Type) (ρ : Type) where
  data : ∀ lock, σ lock
  stage : ι → Stage σ ρ
  held : ι → L → Option LockMode
  queue : L → List ι

namespace System

variable {ι : Type}

/-- Nobody has started. -/
def start (data : ∀ lock, σ lock) (task : ι → Task σ ρ) : System ι σ ρ :=
  ⟨data, fun i => .ready (task i), fun _ _ => none, fun _ => []⟩

/-- A task has come to its end. -/
def Done (s : System ι σ ρ) (i : ι) : Prop := ∃ result, s.stage i = .ready (.done result)

variable [DecidableEq ι] [DecidableEq L]

/-- The system in which a task stands elsewhere. -/
def setStage (s : System ι σ ρ) (i : ι) (stage : Stage σ ρ) : System ι σ ρ :=
  { s with stage := Function.update s.stage i stage }

/-- The system in which a task holds a lock in a mode or not at all. -/
def setHeld (s : System ι σ ρ) (i : ι) (lock : L) (mode : Option LockMode) : System ι σ ρ :=
  { s with held := Function.update s.held i (Function.update (s.held i) lock mode) }

/-- The system with another queue of a lock. -/
def setQueue (s : System ι σ ρ) (lock : L) (queue : List ι) : System ι σ ρ :=
  { s with queue := Function.update s.queue lock queue }

/-- The system with another value of a lock. -/
def setData (s : System ι σ ρ) (lock : L) (value : σ lock) : System ι σ ρ :=
  { s with data := Function.update s.data lock value }

omit [DecidableEq L] in
/-- A task is at the stage it is set to. -/
@[simp] theorem stage_setStage_self (s : System ι σ ρ) (i : ι) (stage : Stage σ ρ) :
    (s.setStage i stage).stage i = stage :=
  Function.update_self ..

omit [DecidableEq L] in
/-- The other tasks stay at their stage. -/
theorem stage_setStage_of_ne (s : System ι σ ρ) {i j : ι} (h : j ≠ i) (stage : Stage σ ρ) :
    (s.setStage i stage).stage j = s.stage j :=
  Function.update_of_ne h ..

/-- What a step of a task does. -/
inductive Step (s : System ι σ ρ) (i : ι) : System ι σ ρ → Prop where
  | acquire {lock : L} {mode : LockMode} {next : Task σ ρ}
      (hstage : s.stage i = .ready (.acquire lock mode next)) :
      Step s i ((s.setQueue lock (s.queue lock ++ [i])).setStage i (.waiting lock mode next))
  | grant {lock : L} {mode : LockMode} {next : Task σ ρ}
      (hstage : s.stage i = .waiting lock mode next)
      (hfront : (s.queue lock).head? = some i) (hadmits : ∀ j, mode.admits (s.held j lock)) :
      Step s i (((s.setQueue lock (s.queue lock).tail).setHeld i lock (some mode)).setStage i
        (.ready next))
  | read {lock : L} {next : σ lock → Task σ ρ} (hstage : s.stage i = .ready (.read lock next)) :
      Step s i (s.setStage i (.ready (next (s.data lock))))
  | write {lock : L} {value : σ lock} {next : Task σ ρ}
      (hstage : s.stage i = .ready (.write lock value next)) :
      Step s i ((s.setData lock value).setStage i (.ready next))
  | release {lock : L} {next : Task σ ρ} (hstage : s.stage i = .ready (.release lock next)) :
      Step s i ((s.setHeld i lock none).setStage i (.ready next))
  | turn {next : Task σ ρ} (hstage : s.stage i = .ready (.turn next)) :
      Step s i (s.setStage i (.ready next))

/-! ## Who holds a lock and who waits -/

/-- The locks are as they should be: who holds one exclusively is alone, and in its queue are those
who wait for it. -/
structure Locked (s : System ι σ ρ) : Prop where
  alone : ∀ i j lock, s.held i lock = some .exclusive → s.held j lock ≠ none → j = i
  mem_queue : ∀ lock i, i ∈ s.queue lock ↔ ∃ mode next, s.stage i = .waiting lock mode next
  nodup : ∀ lock, (s.queue lock).Nodup

section Locked

variable {s s' : System ι σ ρ} {i : ι}

omit [DecidableEq ι] [DecidableEq L] in
/-- At the start no lock is held. -/
theorem Locked.start (data : ∀ lock, σ lock) (task : ι → Task σ ρ) :
    (System.start data task).Locked where
  alone := fun i j lock h => by cases h
  mem_queue := by simp [System.start]
  nodup := fun lock => List.nodup_nil

omit [DecidableEq L] in
/-- A step between two stages in which a task does not wait changes no queue. -/
theorem Locked.setStage (h : s.Locked) {before after : Task σ ρ} (hstage : s.stage i = .ready before) :
    (s.setStage i (.ready after)).Locked where
  alone := h.alone
  mem_queue := fun lock j => by
    rw [show (s.setStage i (.ready after)).queue = s.queue from rfl, h.mem_queue]
    by_cases hj : j = i
    · subst hj
      simp [hstage]
    · rw [stage_setStage_of_ne _ hj]
  nodup := h.nodup

omit [DecidableEq ι] in
/-- Writing leaves who holds what. -/
theorem Locked.setData (h : s.Locked) (lock : L) (value : σ lock) : (s.setData lock value).Locked :=
  ⟨h.alone, h.mem_queue, h.nodup⟩

/-- Setting who holds a lock, read at any task and lock. -/
theorem held_setHeld (s : System ι σ ρ) (i j : ι) (lock lock' : L) (mode : Option LockMode) :
    (s.setHeld i lock mode).held j lock' =
      if j = i ∧ lock' = lock then mode else s.held j lock' := by
  show Function.update s.held i (Function.update (s.held i) lock mode) j lock' = _
  by_cases hj : j = i
  · subst hj
    rw [Function.update_self, Function.update_apply]
    simp only [true_and]
  · rw [Function.update_of_ne hj, if_neg fun h => hj h.1]

/-- A lock may be given in a mode that the holders admit, and it may be given back. -/
theorem Locked.setHeld (h : s.Locked) {lock : L} {mode : Option LockMode}
    (hadmits : ∀ m, mode = some m → ∀ j, m.admits (s.held j lock)) :
    (s.setHeld i lock mode).Locked where
  alone := by
    intro j k lock' hj hk
    rw [held_setHeld] at hj hk
    split_ifs at hj hk with hjlock hklock hklock
    · rw [hklock.1, hjlock.1]
    · rw [hjlock.2] at hk
      exact absurd (LockMode.admits_exclusive.mp (hadmits _ hj k)) hk
    · obtain ⟨m, hm⟩ := Option.ne_none_iff_exists'.mp hk
      have hmode := hadmits m hm j
      rw [← hklock.2, hj, LockMode.not_admits_exclusive] at hmode
      cases hmode
    · exact h.alone j k lock' hj hk
  mem_queue := h.mem_queue
  nodup := h.nodup

/-- Who asks for a lock comes to the end of its queue. -/
theorem Locked.acquire (h : s.Locked) {lock : L} {mode : LockMode} {next : Task σ ρ}
    (hstage : s.stage i = .ready (.acquire lock mode next)) :
    ((s.setQueue lock (s.queue lock ++ [i])).setStage i (.waiting lock mode next)).Locked := by
  -- who is ready stands in no queue
  have hnot : ∀ lock', i ∉ s.queue lock' := by
    intro lock' hmem
    obtain ⟨_, _, hwaiting⟩ := (h.mem_queue lock' i).mp hmem
    rw [hstage] at hwaiting
    cases hwaiting
  refine ⟨h.alone, fun lock' j => ?_, fun lock' => ?_⟩
  · show j ∈ Function.update s.queue lock (s.queue lock ++ [i]) lock' ↔ _
    rw [Function.update_apply]
    by_cases hj : j = i
    · subst hj
      rw [stage_setStage_self]
      split_ifs with hlock
      · simp [hlock]
      · simp [hnot, Ne.symm hlock]
    · rw [stage_setStage_of_ne _ hj]
      split_ifs with hlock
      · rw [List.mem_append, List.mem_singleton, or_iff_left hj, ← hlock]
        exact h.mem_queue lock' j
      · exact h.mem_queue lock' j
  · show (Function.update s.queue lock (s.queue lock ++ [i]) lock').Nodup
    rw [Function.update_apply]
    split_ifs
    · -- a task that was in no queue does not stand in this one twice
      exact List.nodup_append.mpr ⟨h.nodup lock, List.nodup_singleton i, by
        rintro j hj _ hi rfl
        rw [List.mem_singleton] at hi
        exact hnot lock (hi ▸ hj)⟩
    · exact h.nodup lock'

/-- Who is given a lock leaves the front of its queue. -/
theorem Locked.grant (h : s.Locked) {lock : L} {mode : LockMode} {next : Task σ ρ}
    (hstage : s.stage i = .waiting lock mode next) (hfront : (s.queue lock).head? = some i) :
    ((s.setQueue lock (s.queue lock).tail).setStage i (.ready next)).Locked := by
  -- the task was the first in its queue, and stands in it only once
  obtain ⟨rest, hqueue⟩ := List.head?_eq_some_iff.mp hfront
  have hnodup := h.nodup lock
  rw [hqueue, List.nodup_cons] at hnodup
  refine ⟨h.alone, fun lock' j => ?_, fun lock' => ?_⟩
  · show j ∈ Function.update s.queue lock (s.queue lock).tail lock' ↔ _
    rw [Function.update_apply, hqueue, List.tail_cons]
    by_cases hj : j = i
    · subst hj
      rw [stage_setStage_self]
      split_ifs with hlock
      · simp [hnodup.1]
      · simp [h.mem_queue, hstage, Ne.symm hlock]
    · rw [stage_setStage_of_ne _ hj]
      split_ifs with hlock
      · have hmem := h.mem_queue lock j
        rw [hqueue, List.mem_cons, or_iff_right hj] at hmem
        rw [hlock]
        exact hmem
      · exact h.mem_queue lock' j
  · show (Function.update s.queue lock (s.queue lock).tail lock').Nodup
    rw [Function.update_apply, hqueue, List.tail_cons]
    split_ifs
    · exact hnodup.2
    · exact h.nodup lock'

end Locked

/-- Every step keeps the locks as they should be. -/
theorem Locked.step {s s' : System ι σ ρ} {i : ι} (h : s.Locked) (hstep : Step s i s') :
    s'.Locked := by
  cases hstep with
  | acquire hstage => exact h.acquire hstage
  | grant hstage hfront hadmits =>
    refine (h.grant hstage hfront).setHeld fun m hm j => ?_
    cases hm
    exact hadmits j
  | read hstage => exact h.setStage hstage
  | write hstage => exact (h.setData _ _).setStage hstage
  | release hstage => exact (h.setHeld fun m hm => by cases hm).setStage hstage
  | turn hstage => exact h.setStage hstage

/-- A step of one task leaves the others where they are, with what they hold. -/
theorem Step.others {s s' : System ι σ ρ} {i j : ι} (h : Step s i s') (hj : j ≠ i) :
    s'.stage j = s.stage j ∧ s'.held j = s.held j := by
  cases h with
  | acquire hstage => exact ⟨stage_setStage_of_ne _ hj _, rfl⟩
  | grant hstage => exact ⟨stage_setStage_of_ne _ hj _, Function.update_of_ne hj ..⟩
  | read hstage => exact ⟨stage_setStage_of_ne _ hj _, rfl⟩
  | write hstage => exact ⟨stage_setStage_of_ne _ hj _, rfl⟩
  | release hstage => exact ⟨stage_setStage_of_ne _ hj _, Function.update_of_ne hj ..⟩
  | turn hstage => exact ⟨stage_setStage_of_ne _ hj _, rfl⟩

/-- No step makes a task ask for more. -/
theorem Step.within {s s' : System ι σ ρ} {i : ι} {asks stays : ι → L → Prop}
    (h : ∀ j, (s.stage j).task.Within (asks j) (stays j)) (hstep : Step s i s') (j : ι) :
    (s'.stage j).task.Within (asks j) (stays j) := by
  -- only the task that moves has less to do
  by_cases hj : j = i
  · subst hj
    have hi := h j
    cases hstep with
    | acquire hstage =>
      rw [hstage] at hi
      rwa [stage_setStage_self]
    | grant hstage =>
      rw [hstage] at hi
      rw [stage_setStage_self]
      exact hi.2
    | read hstage =>
      rw [hstage] at hi
      rw [stage_setStage_self]
      exact hi _
    | write hstage =>
      rw [hstage] at hi
      rwa [stage_setStage_self]
    | release hstage =>
      rw [hstage] at hi
      rwa [stage_setStage_self]
    | turn hstage =>
      rw [hstage] at hi
      rwa [stage_setStage_self]
  · rw [(hstep.others hj).1]
    exact h j

/-! ## Termination -/

/-- One task has taken a step of its own and the others have stayed. -/
def Moves (stage' stage : ι → Stage σ ρ) : Prop :=
  ∃ i, Stage.Precedes (stage' i) (stage i) ∧ ∀ j, j ≠ i → stage' j = stage j

omit [DecidableEq ι] [DecidableEq L] in
/-- Finitely many tasks have no endless sequence of steps together. -/
theorem wellFounded_moves [Finite ι] :
    WellFounded (Moves : (ι → Stage σ ρ) → (ι → Stage σ ρ) → Prop) := by
  have hlex : WellFounded (Pi.Lex (WellOrderingRel : ι → ι → Prop)
      fun {_} (stage' stage : Stage σ ρ) => Stage.Precedes stage' stage) :=
    Pi.Lex.wellFounded _ fun _ => Stage.wellFounded_precedes
  refine Subrelation.wf ?_ hlex
  rintro stage' stage ⟨i, hmove, hstay⟩
  refine ⟨i, fun j hj => hstay j ?_, hmove⟩
  rintro rfl
  exact irrefl j hj

omit [DecidableEq L] in
/-- One task that goes on moves the system. -/
theorem moves_setStage {s s' : System ι σ ρ} {i : ι} {stage : Stage σ ρ}
    (hstay : s'.stage = s.stage) (h : Stage.Precedes stage (s.stage i)) :
    Moves (s'.setStage i stage).stage s.stage := by
  refine ⟨i, ?_, fun j hj => ?_⟩
  · rwa [stage_setStage_self]
  · rw [stage_setStage_of_ne _ hj, hstay]

/-- Every step moves the system: a task goes on to a part of itself, or from waiting to having. -/
theorem Step.moves {s s' : System ι σ ρ} {i : ι} (h : Step s i s') : Moves s'.stage s.stage := by
  cases h with
  | acquire hstage => exact moves_setStage rfl (hstage ▸ .acquire _ _ _)
  | grant hstage => exact moves_setStage rfl (hstage ▸ .grant _ _ _)
  | read hstage => exact moves_setStage rfl (hstage ▸ .read _ _ _)
  | write hstage => exact moves_setStage rfl (hstage ▸ .write _ _ _)
  | release hstage => exact moves_setStage rfl (hstage ▸ .release _ _)
  | turn hstage => exact moves_setStage rfl (hstage ▸ .turn _)

/-! ## Schedules -/

variable [Fintype ι]

/-- A step of a task, if it can move. -/
def step (s : System ι σ ρ) (i : ι) : Option (System ι σ ρ) :=
  match s.stage i with
  | .ready (.done _) => none
  | .ready (.acquire lock mode next) =>
    some ((s.setQueue lock (s.queue lock ++ [i])).setStage i (.waiting lock mode next))
  | .waiting lock mode next =>
    -- nobody is given a lock before those who asked for it earlier
    if (s.queue lock).head? = some i ∧ ∀ j, mode.admits (s.held j lock) then
      some (((s.setQueue lock (s.queue lock).tail).setHeld i lock (some mode)).setStage i
        (.ready next))
    else none
  | .ready (.read lock next) => some (s.setStage i (.ready (next (s.data lock))))
  | .ready (.write lock value next) => some ((s.setData lock value).setStage i (.ready next))
  | .ready (.release lock next) => some ((s.setHeld i lock none).setStage i (.ready next))
  | .ready (.turn next) => some (s.setStage i (.ready next))
  | .ready (.stay _) => none

/-- What a task can do in a step, of its stage: the cases of `Step` are all there are. -/
theorem step_cases {s s' : System ι σ ρ} {i : ι} (h : s.step i = some s') : Step s i s' := by
  -- one case for each kind of task, and none where it cannot move
  rw [step] at h
  split at h
  case h_1 => cases h
  case h_2 lock mode next hstage =>
    cases h
    exact .acquire hstage
  case h_3 lock mode next hstage =>
    split_ifs at h with hgrant
    cases h
    exact .grant hstage hgrant.1 hgrant.2
  case h_4 lock next hstage =>
    cases h
    exact .read hstage
  case h_5 lock value next hstage =>
    cases h
    exact .write hstage
  case h_6 lock next hstage =>
    cases h
    exact .release hstage
  case h_7 next hstage =>
    cases h
    exact .turn hstage
  case h_8 => cases h

/-- Who cannot move is done, or waits for a lock that it is not given yet, or stays. -/
theorem step_eq_none {s : System ι σ ρ} {i : ι} (h : s.step i = none) :
    (∃ result, s.stage i = .ready (.done result)) ∨
      (∃ lock mode next, s.stage i = .waiting lock mode next ∧
        ¬((s.queue lock).head? = some i ∧ ∀ j, mode.admits (s.held j lock))) ∨
      ∃ lock, s.stage i = .ready (.stay lock) := by
  rw [step] at h
  split at h
  case h_1 result hstage => exact Or.inl ⟨result, hstage⟩
  case h_3 lock mode next hstage =>
    split_ifs at h with hgrant
    exact Or.inr (Or.inl ⟨lock, mode, next, hstage, hgrant⟩)
  case h_8 lock hstage => exact Or.inr (Or.inr ⟨lock, hstage⟩)
  all_goals cases h

/-- The system after a task was scheduled. -/
def advance (s : System ι σ ρ) (i : ι) : System ι σ ρ := (s.step i).getD s

/-- The system after a schedule. -/
def run (s : System ι σ ρ) (schedule : List ι) : System ι σ ρ := schedule.foldl advance s

/-- A run of two parts is one after the other. -/
theorem run_append (s : System ι σ ρ) (before after : List ι) :
    s.run (before ++ after) = (s.run before).run after :=
  List.foldl_append

/-- A task that can step does. -/
theorem advance_of_some {s s' : System ι σ ρ} {i : ι} (h : s.step i = some s') :
    s.advance i = s' := by
  rw [advance, h, Option.getD_some]

/-- A task that cannot step leaves the system as it is. -/
theorem advance_of_none {s : System ι σ ρ} {i : ι} (h : s.step i = none) : s.advance i = s := by
  rw [advance, h, Option.getD_none]

/-- What every step preserves holds after every schedule. -/
theorem run_induction {P : System ι σ ρ → Prop}
    (hstep : ∀ s i s', P s → Step s i s' → P s') {s : System ι σ ρ} (hstart : P s)
    (schedule : List ι) : P (s.run schedule) := by
  refine List.foldlRecOn schedule _ hstart fun s hs i _ => ?_
  cases h : s.step i with
  | none => rwa [advance_of_none h]
  | some s' =>
    rw [advance_of_some h]
    exact hstep s i s' hs (step_cases h)

/-- Who was never scheduled has not moved. -/
theorem run_of_notMem {s : System ι σ ρ} {j : ι} {schedule : List ι} (h : j ∉ schedule) :
    (s.run schedule).stage j = s.stage j ∧ (s.run schedule).held j = s.held j := by
  induction schedule generalizing s with
  | nil => exact ⟨rfl, rfl⟩
  | cons i schedule ih =>
    rw [List.mem_cons, not_or] at h
    obtain ⟨hstage, hheld⟩ := ih (s := s.advance i) h.2
    cases hstep : s.step i with
    | none =>
      rw [advance_of_none hstep] at hstage hheld
      rw [run, List.foldl_cons, advance_of_none hstep]
      exact ⟨hstage, hheld⟩
    | some s' =>
      obtain ⟨hstage', hheld'⟩ := (step_cases hstep).others h.1
      rw [advance_of_some hstep] at hstage hheld
      rw [run, List.foldl_cons, advance_of_some hstep, ← hstage', ← hheld']
      exact ⟨hstage, hheld⟩

/-- No task can move. -/
def AtRest (s : System ι σ ρ) : Prop := ∀ i, s.step i = none

/-- A system at rest stays as it is. -/
theorem AtRest.run {s : System ι σ ρ} (h : s.AtRest) (schedule : List ι) : s.run schedule = s := by
  induction schedule with
  | nil => rfl
  | cons i schedule ih =>
    rw [System.run, List.foldl_cons, advance_of_none (h i)]
    exact ih

/-- A system has no endless sequence of steps. -/
theorem wellFounded_step : WellFounded fun s' s : System ι σ ρ => ∃ i, s.step i = some s' := by
  refine Subrelation.wf ?_ (InvImage.wf stage wellFounded_moves)
  rintro s' s ⟨i, hstep⟩
  exact (step_cases hstep).moves

/-! ## Endless schedules -/

/-- The first tasks of an endless schedule. -/
def first (schedule : ℕ → ι) (n : ℕ) : List ι := (List.range n).map schedule

/-- An endless schedule in which the turn of every task comes again and again. -/
def Fair (schedule : ℕ → ι) : Prop := ∀ i n, ∃ m, n ≤ m ∧ schedule m = i

section Schedule

omit [DecidableEq ι] [Fintype ι]

/-- A fair schedule is fair from any time on. -/
theorem Fair.shift {schedule : ℕ → ι} (h : Fair schedule) (k : ℕ) :
    Fair fun n => schedule (k + n) := by
  intro i n
  obtain ⟨m, hm, hi⟩ := h i (k + n)
  obtain ⟨d, rfl⟩ := Nat.exists_eq_add_of_le hm
  rw [Nat.add_assoc] at hi
  exact ⟨n + d, Nat.le_add_right n d, hi⟩

/-- Everyone in turn. -/
def roundRobin (k : ℕ) [NeZero k] (n : ℕ) : Fin k := Fin.ofNat k n

/-- Taking turns is fair. -/
theorem fair_roundRobin (k : ℕ) [NeZero k] : Fair (roundRobin k) := by
  intro i n
  refine ⟨n * k + i, ?_, ?_⟩
  · exact (Nat.le_mul_of_pos_right n (NeZero.pos k)).trans (Nat.le_add_right _ _)
  · apply Fin.ext
    rw [roundRobin, Fin.val_ofNat, Nat.mul_add_mod_of_lt i.isLt]

/-- The start of a schedule in two parts. -/
theorem first_add (schedule : ℕ → ι) (k n : ℕ) :
    first schedule (k + n) = first schedule k ++ first (fun n => schedule (k + n)) n := by
  rw [first, List.range_add, List.map_append, List.map_map]
  rfl

/-- The start of a schedule, one task longer. -/
theorem first_succ (schedule : ℕ → ι) (n : ℕ) :
    first schedule (n + 1) = first schedule n ++ [schedule n] := by
  rw [first, List.range_succ, List.map_append]
  rfl

end Schedule

/-- Tasks that cannot move are passed over. -/
theorem run_first_of_none {s : System ι σ ρ} {schedule : ℕ → ι} {k : ℕ}
    (h : ∀ n < k, s.step (schedule n) = none) : s.run (first schedule k) = s := by
  induction k with
  | zero => rfl
  | succ k ih =>
    rw [first_succ, run_append, ih fun n hn => h n (Nat.lt_succ_of_lt hn)]
    exact advance_of_none (h k (Nat.lt_succ_self k))

/-- **A system comes to rest** under a fair schedule. -/
theorem exists_rest (s : System ι σ ρ) {schedule : ℕ → ι} (hfair : Fair schedule) :
    ∃ n, ∀ m, n ≤ m → (s.run (first schedule m)).AtRest := by
  revert schedule
  refine wellFounded_step.induction (C := fun s => ∀ {schedule : ℕ → ι}, Fair schedule →
    ∃ n, ∀ m, n ≤ m → (s.run (first schedule m)).AtRest) s ?_
  intro s ih schedule hfair
  by_cases hrest : s.AtRest
  · exact ⟨0, fun m _ => by rwa [hrest.run]⟩
  · -- up to the first turn of someone who can move nothing happens
    obtain ⟨i, hi⟩ := not_forall.mp hrest
    have hmoves : ∃ n, s.step (schedule n) ≠ none := by
      obtain ⟨m, _, rfl⟩ := hfair i 0
      exact ⟨m, hi⟩
    classical
    obtain ⟨s', hs'⟩ := Option.ne_none_iff_exists'.mp (Nat.find_spec hmoves)
    have hbefore : s.run (first schedule (Nat.find hmoves)) = s :=
      run_first_of_none fun n hn => not_not.mp (Nat.find_min hmoves hn)
    have hafter : s.run (first schedule (Nat.find hmoves + 1)) = s' := by
      rw [first_succ, run_append, hbefore]
      exact advance_of_some hs'
    obtain ⟨n, hn⟩ := ih s' ⟨_, hs'⟩ (hfair.shift (Nat.find hmoves + 1))
    refine ⟨Nat.find hmoves + 1 + n, fun m hm => ?_⟩
    obtain ⟨k, rfl⟩ := Nat.exists_eq_add_of_le hm
    rw [Nat.add_assoc, first_add, run_append, hafter]
    exact hn _ (Nat.le_add_right n k)

end System

end LockSystem
