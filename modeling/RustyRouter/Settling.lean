/-
# Systems that settle

A system whose steps are given by a function may have steps that come from outside
and internal ones.  If each internal step leaves the state as it is or makes a measure
smaller, a run of internal steps that all do something is no longer than the measure
(`Busy.length_le`), and the system can always go on to a state in which no internal
step does anything (`exists_idle`).

Where only a part of the state is looked at, the other steps go on for ever.  The part
still changes a bounded number of times if each step leaves it as it is or makes it
smaller (`changes_le`).
-/
import Mathlib

namespace Settling

variable {σ α : Type} (apply : σ → α → σ) (internal : α → Prop)

/-- A run of internal steps in which each does something. -/
def Busy : σ → List α → Prop
  | _, [] => True
  | s, step :: more => internal step ∧ apply s step ≠ s ∧ Busy (apply s step) more

/-- No internal step does anything. -/
def Idle (s : σ) : Prop := ∀ step, internal step → apply s step = s

variable {apply internal} {invariant : σ → Prop} {measure : σ → ℕ}

/-- A busy run is no longer than the measure. -/
theorem Busy.length_le
    (hinvariant : ∀ s step, invariant s → internal step → invariant (apply s step))
    (hmeasure : ∀ s step, invariant s → internal step →
      apply s step = s ∨ measure (apply s step) < measure s)
    {s : σ} (hs : invariant s) {more : List α} (h : Busy apply internal s more) :
    more.length ≤ measure s := by
  induction more generalizing s with
  | nil => exact Nat.zero_le _
  | cons step more ih =>
    obtain ⟨hinternal, hdone, hmore⟩ := h
    have hrest := ih (hinvariant s step hs hinternal) hmore
    rcases hmeasure s step hs hinternal with hsame | hless
    · exact absurd hsame hdone
    · rw [List.length_cons]
      omega

/-- The system can go on until it is idle. -/
theorem exists_idle
    (hinvariant : ∀ s step, invariant s → internal step → invariant (apply s step))
    (hmeasure : ∀ s step, invariant s → internal step →
      apply s step = s ∨ measure (apply s step) < measure s)
    {s : σ} (hs : invariant s) :
    ∃ more, Busy apply internal s more ∧ Idle apply internal (more.foldl apply s) := by
  induction hn : measure s using Nat.strong_induction_on generalizing s with
  | _ n ih =>
    by_cases hidle : Idle apply internal s
    · exact ⟨[], trivial, hidle⟩
    · obtain ⟨step, hstep⟩ := not_forall.mp hidle
      obtain ⟨hinternal, hdone⟩ := Classical.not_imp.mp hstep
      have hless := (hmeasure s step hs hinternal).resolve_left hdone
      obtain ⟨more, hmore, hend⟩ :=
        ih _ (hn ▸ hless) (hinvariant s step hs hinternal) rfl
      exact ⟨step :: more, ⟨hinternal, hdone, hmore⟩, hend⟩

/-! ## What is seen of a state -/

section View

variable {β : Type} [DecidableEq β] {view : σ → β} {size : β → ℕ}

/-- How often a run changes what is seen of the state. -/
def changes (apply : σ → α → σ) (view : σ → β) : σ → List α → ℕ
  | _, [] => 0
  | s, step :: more =>
    (if view (apply s step) = view s then 0 else 1) + changes apply view (apply s step) more

/-- If every step of a run leaves what is seen as it is or makes it smaller, it changes no more often
than its size allows, however long the run is. -/
theorem changes_le {s : σ} {more : List α}
    (h : ∀ before step after, more = before ++ step :: after →
      view (apply (before.foldl apply s) step) = view (before.foldl apply s) ∨
        size (view (apply (before.foldl apply s) step)) < size (view (before.foldl apply s))) :
    changes apply view s more ≤ size (view s) := by
  induction more generalizing s with
  | nil => exact Nat.zero_le _
  | cons step more ih =>
    have hrest := ih fun before next after hmore =>
      h (step :: before) next after (by rw [hmore, List.cons_append])
    rw [changes]
    rcases h [] step more rfl with hsame | hless
    · rw [List.foldl_nil] at hsame
      rw [if_pos hsame, Nat.zero_add, ← hsame]
      exact hrest
    · rw [List.foldl_nil] at hless
      split_ifs <;> omega

end View

end Settling
