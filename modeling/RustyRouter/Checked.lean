/-
# Checked execution

A function of the modelled language that can end early either returns an error
or panics: a slice out of range, an index out of range, an arithmetic overflow.
`Exec ε α` is such a computation.  The primitives here are the ones that panic
(`checked`, `slice`, `byteAt`) and the conversion of a slice to an array of a
given length, which fails with an error of the caller's choice (`toArray`).
-/
import Mathlib

namespace Checked

/-- Why a computation did not return a value. -/
inductive Failure (ε : Type) : Type where
  | error (e : ε) : Failure ε
  | panic : Failure ε
  deriving DecidableEq, Repr

/-- A computation that returns a value, returns an error, or panics. -/
abbrev Exec (ε α : Type) : Type := Except (Failure ε) α

/-- An array of `n` elements. -/
structure FixedArray (α : Type) (n : ℕ) where
  toList : List α
  length_toList : toList.length = n
  deriving DecidableEq

/-- The element at a position inside the array. -/
def FixedArray.get {α : Type} {n : ℕ} (a : FixedArray α n) (i : Fin n) : α :=
  a.toList.get (i.cast a.length_toList.symm)

variable {ε α β : Type}

/-- Returning an error. -/
def fail (e : ε) : Exec ε α := .error (.error e)

/-- An unsigned result of `w` bits; overflow panics. -/
def checked (w n : ℕ) : Exec ε ℕ :=
  if n < 2 ^ w then .ok n else .error .panic

/-- A difference of unsigned numbers; underflow panics. -/
def checkedSub (n m : ℕ) : Exec ε ℕ :=
  if m ≤ n then .ok (n - m) else .error .panic

/-- The slice `data[first..last]`. -/
def slice (data : List α) (first last : ℕ) : Exec ε (List α) :=
  if first ≤ last ∧ last ≤ data.length then .ok ((data.take last).drop first)
  else .error .panic

/-- The element `data[i]`. -/
def byteAt (data : List α) (i : ℕ) : Exec ε α :=
  match data[i]? with
  | some b => .ok b
  | none => .error .panic

/-- A slice converted to an array of length `n`. -/
def toArray (n : ℕ) (e : ε) (data : List α) : Exec ε (FixedArray α n) :=
  if h : data.length = n then .ok ⟨data, h⟩ else fail e

/-! ## Inversion -/

/-- A sequence returns when its first part does and the rest does with what that returned. -/
theorem bind_eq_ok {x : Exec ε α} {f : α → Exec ε β} {b : β} :
    x >>= f = .ok b ↔ ∃ a, x = .ok a ∧ f a = .ok b := by
  cases x <;> simp [bind, Except.bind]

/-- What returned is handed on. -/
@[simp] theorem ok_bind (a : α) (f : α → Exec ε β) : (.ok a : Exec ε α) >>= f = f a := rfl

/-- A checked operation returns the exact result, and does so exactly when it fits the width. -/
@[simp] theorem checked_eq_ok {w n m : ℕ} :
    checked (ε := ε) w n = .ok m ↔ n < 2 ^ w ∧ m = n := by
  unfold checked
  split_ifs with h
  · simp [h, eq_comm]
  · simp [h]

/-- A result that fits is returned. -/
theorem checked_of_lt {w n : ℕ} (h : n < 2 ^ w) : checked (ε := ε) w n = .ok n := by
  simp [h]

/-- A result that does not fit is a panic of the debug build. -/
theorem checked_of_le {w n : ℕ} (h : 2 ^ w ≤ n) : checked (ε := ε) w n = .error .panic :=
  if_neg (not_lt.mpr h)

/-- A subtraction that stays at zero or above is exact. -/
theorem checkedSub_of_le {n m : ℕ} (h : m ≤ n) : checkedSub (ε := ε) n m = .ok (n - m) :=
  if_pos h

/-- A range within the data is cut out. -/
theorem slice_of_le {data : List α} {first last : ℕ} (h : first ≤ last)
    (hlast : last ≤ data.length) :
    slice (ε := ε) data first last = .ok ((data.take last).drop first) :=
  if_pos ⟨h, hlast⟩

/-- A position within the data is read. -/
theorem byteAt_of_getElem? {data : List α} {i : ℕ} {b : α} (h : data[i]? = some b) :
    byteAt (ε := ε) data i = .ok b := by
  rw [byteAt, h]

/-- The same, with the byte written so that it needs no proof of the bound. -/
theorem byteAt_getD {data : List α} {i : ℕ} (h : i < data.length) (default : α) :
    byteAt (ε := ε) data i = .ok (data.getD i default) := by
  rw [List.getD_eq_getElem _ _ h]
  exact byteAt_of_getElem? (List.getElem?_eq_getElem h)

/-- Data of the right length makes a fixed array. -/
theorem toArray_of_length {n : ℕ} {e : ε} {data : List α} (h : data.length = n) :
    toArray n e data = .ok ⟨data, h⟩ :=
  dif_pos h

/-- The array holds the data it was made from. -/
theorem toList_of_toArray {n : ℕ} {e : ε} {data : List α} {v : FixedArray α n}
    (h : toArray n e data = .ok v) : v.toList = data := by
  unfold toArray fail at h
  split_ifs at h with hlen
  cases h
  rfl

/-- A range is cut out exactly when it is in order and within the data. -/
theorem slice_eq_ok {data v : List α} {first last : ℕ} :
    slice (ε := ε) data first last = .ok v ↔
      (first ≤ last ∧ last ≤ data.length) ∧ v = (data.take last).drop first := by
  unfold slice
  split_ifs with h
  · simp [h, eq_comm]
  · simp [h]

/-- A slice is as long as its range. -/
theorem length_of_slice {data v : List α} {first last : ℕ}
    (h : slice (ε := ε) data first last = .ok v) : v.length = last - first := by
  obtain ⟨⟨-, hlast⟩, rfl⟩ := slice_eq_ok.mp h
  rw [List.length_drop, List.length_take, Nat.min_eq_left hlast]

/-- A prefix is a shorter prefix and the slice between their ends. -/
theorem take_eq_append_drop_take (data : List α) {first last : ℕ} (h : first ≤ last) :
    data.take last = data.take first ++ (data.take last).drop first := by
  conv_lhs => rw [← List.take_append_drop first (data.take last), List.take_take,
    Nat.min_eq_left h]

/-- A slice is cut in two at a position inside it. -/
theorem drop_take_eq_append (data : List α) {first middle last : ℕ} (h : first ≤ middle)
    (hmiddle : middle ≤ last) (hlast : last ≤ data.length) :
    (data.take last).drop first =
      (data.take middle).drop first ++ (data.take last).drop middle := by
  have hfirst : first ≤ (data.take middle).length := by
    rw [List.length_take]
    omega
  conv_lhs => rw [take_eq_append_drop_take data hmiddle, List.drop_append_of_le_length hfirst]

/-- A byte is read exactly when there is one at the position. -/
theorem byteAt_eq_ok {data : List α} {i : ℕ} {b : α} :
    byteAt (ε := ε) data i = .ok b ↔ data[i]? = some b := by
  unfold byteAt
  cases data[i]? <;> simp

/-- A fixed array is made exactly of the data it holds. -/
theorem toArray_eq_ok {n : ℕ} {e : ε} {data : List α} {v : FixedArray α n} :
    toArray n e data = .ok v ↔ v.toList = data := by
  refine ⟨toList_of_toArray, ?_⟩
  rintro rfl
  exact toArray_of_length v.length_toList

/-! ## Loops -/

/-- The last round of a loop. -/
theorem foldlM_range_succ (f : β → ℕ → Exec ε β) (b : β) (n : ℕ) :
    (List.range (n + 1)).foldlM f b = (List.range n).foldlM f b >>= fun c => f c n := by
  rw [List.range_succ, List.foldlM_append]
  simp

/-- A loop none of whose rounds fails returns, and what its rounds keep holds of its result. -/
theorem foldlM_range_total {f : β → ℕ → Exec ε β} {b : β} {n : ℕ} {P : ℕ → β → Prop}
    (h0 : P 0 b) (hstep : ∀ i c, i < n → P i c → ∃ d, f c i = .ok d ∧ P (i + 1) d) :
    ∃ r, (List.range n).foldlM f b = .ok r ∧ P n r := by
  induction n with
  | zero => exact ⟨b, rfl, h0⟩
  | succ n ih =>
    obtain ⟨c, hc, hP⟩ := ih (fun i c hi => hstep i c (by omega))
    obtain ⟨d, hd, hP'⟩ := hstep n c (by omega) hP
    refine ⟨d, ?_, hP'⟩
    rw [foldlM_range_succ, hc, ok_bind, hd]

/-- A loop is known by what its rounds do. -/
theorem foldlM_range_congr {f g : β → ℕ → Exec ε β} {b : β} {n : ℕ}
    (h : ∀ i c, i < n → f c i = g c i) :
    (List.range n).foldlM f b = (List.range n).foldlM g b := by
  induction n with
  | zero => rfl
  | succ n ih =>
    rw [foldlM_range_succ, foldlM_range_succ, ih fun i c hi => h i c (by omega)]
    congr 1
    funext c
    exact h n c (Nat.lt_succ_self n)

/-- Checked additions, one after the other, are one checked addition of their sum. -/
theorem foldlM_checked_add {w b : ℕ} (hb : b < 2 ^ w) (f : ℕ → ℕ) (n : ℕ) :
    (List.range n).foldlM (fun c i => checked w (c + f i)) b =
      checked (ε := ε) w (b + ((List.range n).map f).sum) := by
  induction n with
  | zero => exact (checked_of_lt hb).symm
  | succ n ih =>
    rw [foldlM_range_succ, ih, List.range_succ, List.map_append, List.sum_append,
      List.map_singleton, List.sum_singleton, ← Nat.add_assoc]
    by_cases hlt : b + ((List.range n).map f).sum < 2 ^ w
    · rw [checked_of_lt hlt, ok_bind]
    · rw [checked_of_le (not_lt.mp hlt), checked_of_le (by omega)]
      rfl

/-! ## Computations that panic or return -/

/-- A checked operation panics rather than returning an error. -/
@[simp] theorem checked_ne_error (w n : ℕ) (e : ε) : checked w n ≠ .error (.error e) := by
  unfold checked
  split_ifs <;> simp

/-- A sequence fails in a way only if one of its parts does. -/
theorem bind_ne_failure {x : Exec ε α} {f : α → Exec ε β} {failure : Failure ε}
    (hx : x ≠ .error failure) (hf : ∀ a, x = .ok a → f a ≠ .error failure) :
    x >>= f ≠ .error failure := by
  cases x with
  | error failure' => exact fun h => hx (by cases h; rfl)
  | ok a => exact hf a rfl

/-! ## Computations that fail with errors of a kind -/

/-- A computation that returns a value or an error of a kind; it does not panic. -/
def FailsOnly (kind : ε → Prop) (x : Exec ε α) : Prop :=
  ∀ failure, x = .error failure → ∃ e, kind e ∧ failure = .error e

section FailsOnly

variable {kind : ε → Prop}

/-- What returns does not fail. -/
theorem failsOnly_ok (a : α) : FailsOnly kind (.ok a : Exec ε α) := by
  rintro failure ⟨⟩

/-- An error of the kind is allowed. -/
theorem failsOnly_fail {e : ε} (h : kind e) : FailsOnly kind (fail e : Exec ε α) := by
  rintro failure ⟨⟩
  exact ⟨e, h, rfl⟩

/-- A sequence fails only in the ways of its parts. -/
theorem FailsOnly.bind {x : Exec ε α} {f : α → Exec ε β} (hx : FailsOnly kind x)
    (hf : ∀ a, x = .ok a → FailsOnly kind (f a)) : FailsOnly kind (x >>= f) := by
  cases x with
  | error failure =>
    rintro failure' ⟨⟩
    exact hx failure rfl
  | ok a => exact hf a rfl

/-- A result that fits does not panic. -/
theorem failsOnly_checked {w n : ℕ} (h : n < 2 ^ w) : FailsOnly kind (checked w n) := by
  rw [checked_of_lt h]
  exact failsOnly_ok n

/-- A range within the data does not panic. -/
theorem failsOnly_slice {data : List α} {first last : ℕ} (h : first ≤ last)
    (hlast : last ≤ data.length) : FailsOnly kind (slice data first last) := by
  rw [slice_of_le h hlast]
  exact failsOnly_ok _

/-- A position within the data does not panic. -/
theorem failsOnly_byteAt {data : List α} {i : ℕ} (h : i < data.length) :
    FailsOnly kind (byteAt data i) := by
  rw [byteAt_of_getElem? (List.getElem?_eq_getElem h)]
  exact failsOnly_ok _

/-- Data of the right length does not fail. -/
theorem failsOnly_toArray {n : ℕ} (e : ε) {data : List α} (h : data.length = n) :
    FailsOnly kind (toArray n e data) := by
  rw [toArray_of_length h]
  exact failsOnly_ok _

/-- A computation that does not return a value returns an error. -/
theorem FailsOnly.eq_fail {x : Exec ε α} (h : FailsOnly kind x) (hok : ∀ a, x ≠ .ok a) :
    ∃ e, kind e ∧ x = fail e := by
  cases x with
  | error failure =>
    obtain ⟨e, hkind, rfl⟩ := h failure rfl
    exact ⟨e, hkind, rfl⟩
  | ok a => exact absurd rfl (hok a)

end FailsOnly

end Checked
