/-
# Hash maps

A hash map is an association list with distinct keys (`AList`), whose list of
entries is one iteration order.  `collect` inserts pairs one after the other, so
a later pair replaces an earlier one with its key.  A map that a program builds
and then iterates over may be met in any order: `Shuffle` is such an order, and
statements about a program quantify over it.
-/
import Mathlib

/-- A map from keys to values. -/
abbrev HashMap (K V : Type) : Type := AList fun _ : K => V

namespace HashMap

variable {K V : Type}

/-- The entries in iteration order. -/
def iter (m : HashMap K V) : List (K × V) := m.entries.map fun e => (e.1, e.2)

/-- The values in iteration order. -/
def values (m : HashMap K V) : List V := m.entries.map fun e => e.2

/-- An order in which the elements of a map are met. -/
structure Shuffle (α : Type) where
  order : List α → List α
  perm : ∀ l, (order l).Perm l

/-- The order of the entries themselves. -/
def Shuffle.id (α : Type) : Shuffle α := ⟨fun l => l, fun l => List.Perm.refl l⟩

/-- An order has the same elements. -/
theorem Shuffle.mem_order {α : Type} (s : Shuffle α) {l : List α} {a : α} :
    a ∈ s.order l ↔ a ∈ l :=
  (s.perm l).mem_iff

/-- Iteration meets each key once. -/
theorem nodup_keys_iter (m : HashMap K V) : (m.iter.map Prod.fst).Nodup := by
  have h := m.keys_nodup
  rw [AList.keys, List.keys] at h
  rw [iter, List.map_map]
  exact h

/-- The values are those of the entries. -/
theorem values_eq_map_iter (m : HashMap K V) : m.values = m.iter.map Prod.snd := by
  rw [values, iter, List.map_map]
  rfl

@[simp] theorem values_empty : (∅ : HashMap K V).values = [] := rfl

variable [DecidableEq K]

/-- A map after pairs are inserted in turn. -/
def extend (m : HashMap K V) (l : List (K × V)) : HashMap K V :=
  l.foldl (fun m p => m.insert p.1 p.2) m

/-- `collect()` into a map: the pairs inserted in turn. -/
def collect (l : List (K × V)) : HashMap K V := extend ∅ l

/-- The entries are what is looked up. -/
theorem mem_iter {m : HashMap K V} {k : K} {v : V} :
    (k, v) ∈ m.iter ↔ m.lookup k = some v := by
  rw [← Option.mem_def, AList.mem_lookup_iff, iter, List.mem_map]
  constructor
  · rintro ⟨⟨k', v'⟩, hmem, heq⟩
    cases heq
    exact hmem
  · intro hmem
    exact ⟨⟨k, v⟩, hmem, rfl⟩

/-- The values are what is looked up under some key. -/
theorem mem_values {m : HashMap K V} {v : V} : v ∈ m.values ↔ ∃ k, m.lookup k = some v := by
  rw [values_eq_map_iter, List.mem_map]
  constructor
  · rintro ⟨⟨k, v'⟩, hmem, rfl⟩
    exact ⟨k, mem_iter.mp hmem⟩
  · rintro ⟨k, hk⟩
    exact ⟨(k, v), mem_iter.mpr hk, rfl⟩

/-- A new key goes in front of the values. -/
theorem values_insert_of_lookup {m : HashMap K V} {k : K} {v : V} (h : m.lookup k = none) :
    values (m.insert k v) = v :: m.values := by
  rw [values, AList.entries_insert_of_notMem (AList.lookup_eq_none.mp h)]
  rfl

/-- Removing a key keeps the entries of the other keys, in order. -/
theorem entries_erase (m : HashMap K V) (k : K) :
    (m.erase k).entries = m.entries.filter fun e => e.1 ≠ k := by
  obtain ⟨entries, hnodup⟩ := m
  show List.kerase k entries = _
  induction entries with
  | nil => rfl
  | cons e entries ih =>
    obtain ⟨hnotMem, hnodup'⟩ := List.nodupKeys_cons.mp hnodup
    by_cases hk : k = e.1
    · subst hk
      have hall : ∀ e' ∈ entries, e'.1 ≠ e.1 := by
        intro e' he' heq
        exact hnotMem (heq ▸ List.mem_keys_of_mem he')
      rw [List.kerase_cons_eq rfl, List.filter_cons_of_neg (by simp),
        List.filter_eq_self.mpr (by simpa using hall)]
    · rw [List.kerase_cons_ne hk, ih hnodup', List.filter_cons_of_pos (by simpa using Ne.symm hk)]

/-- A new key goes in front of the entries. -/
theorem iter_insert_of_lookup {m : HashMap K V} {k : K} {v : V} (h : m.lookup k = none) :
    iter (m.insert k v) = (k, v) :: m.iter := by
  rw [iter, AList.entries_insert_of_notMem (AList.lookup_eq_none.mp h)]
  rfl

/-- Removing a key removes its entry from the iteration. -/
theorem iter_erase (m : HashMap K V) (k : K) :
    iter (m.erase k) = m.iter.filter fun p => p.1 ≠ k := by
  rw [iter, entries_erase, iter, List.filter_map]
  rfl

/-- Removing a key that is not there changes nothing. -/
theorem erase_of_lookup_eq_none {m : HashMap K V} {k : K} (h : m.lookup k = none) :
    m.erase k = m := by
  apply AList.ext
  rw [entries_erase]
  apply List.filter_eq_self.mpr
  intro e he
  have hne : e.1 ≠ k := by
    rintro rfl
    rw [AList.mem_lookup_iff.mpr he] at h
    cases h
  simpa using hne

/-- Removing a key that is there makes the map smaller. -/
theorem length_entries_erase_lt {m : HashMap K V} {k : K} {v : V} (h : m.lookup k = some v) :
    (m.erase k).entries.length < m.entries.length := by
  rw [entries_erase]
  apply List.length_filter_lt_length_iff_exists.mpr
  exact ⟨⟨k, v⟩, AList.mem_lookup_iff.mp h, by simp⟩

/-- The entries of a key that is there. -/
theorem filter_entries_eq {m : HashMap K V} {k : K} {v : V} (h : m.lookup k = some v) :
    (m.entries.filter fun e => e.1 = k) = [⟨k, v⟩] := by
  have hmem : (⟨k, v⟩ : Sigma fun _ : K => V) ∈ m.entries := AList.mem_lookup_iff.mp h
  have hnodup := m.nodupKeys
  generalize m.entries = entries at hmem hnodup
  induction entries with
  | nil => exact absurd hmem (List.not_mem_nil)
  | cons e entries ih =>
    obtain ⟨hnotMem, hnodup'⟩ := List.nodupKeys_cons.mp hnodup
    rcases List.mem_cons.mp hmem with rfl | hmem
    · have hall : ∀ e' ∈ entries, e'.1 ≠ k := by
        intro e' he' heq
        have hkeys : e'.1 ∈ List.keys entries := List.mem_keys_of_mem he'
        exact hnotMem (heq ▸ hkeys)
      rw [List.filter_cons_of_pos (by simp), List.filter_eq_nil_iff.mpr (by simpa using hall)]
    · have hne : e.1 ≠ k := by
        intro heq
        exact hnotMem (heq ▸ List.mem_keys_of_mem hmem)
      rw [List.filter_cons_of_neg (by simpa using hne), ih hmem hnodup']

/-- The values are the one of a key that is there and those that are left when it is erased. -/
theorem values_perm_of_lookup {m : HashMap K V} {k : K} {v : V} (h : m.lookup k = some v) :
    m.values.Perm (v :: values (m.erase k)) := by
  have hsplit := List.filter_append_perm (fun e => decide (e.1 = k)) m.entries
  rw [filter_entries_eq h] at hsplit
  rw [values, values, entries_erase]
  simp only [ne_eq, decide_not]
  exact hsplit.symm.map _

/-- When one entry alone satisfies a condition, erasing its key drops what satisfies it. -/
theorem values_erase_of_iff {m : HashMap K V} {k : K} {p : V → Prop} [DecidablePred p]
    (h : ∀ k' v, m.lookup k' = some v → (k' = k ↔ p v)) :
    values (m.erase k) = m.values.filter fun v => ¬ p v := by
  rw [values, values, entries_erase, List.filter_map]
  congr 1
  apply List.filter_congr
  intro e he
  simp [h e.1 e.2 (AList.mem_lookup_iff.mpr he)]

/-- When one entry alone satisfies a condition, it is all that satisfies it. -/
theorem filter_values_of_iff {m : HashMap K V} {k : K} {v : V} {p : V → Prop} [DecidablePred p]
    (hv : m.lookup k = some v) (h : ∀ k' v, m.lookup k' = some v → (k' = k ↔ p v)) :
    (m.values.filter fun v => p v) = [v] := by
  have hentries : m.entries.filter ((fun v => decide (p v)) ∘ fun e => e.2) = [⟨k, v⟩] := by
    rw [← filter_entries_eq hv]
    apply List.filter_congr
    intro e he
    simp [h e.1 e.2 (AList.mem_lookup_iff.mpr he)]
  rw [values, List.filter_map, hentries]
  rfl

/-- Looking up after a key was removed. -/
theorem lookup_erase_eq_some {m : HashMap K V} {k k' : K} {v : V} :
    (m.erase k).lookup k' = some v ↔ k' ≠ k ∧ m.lookup k' = some v := by
  by_cases hk : k' = k
  · subst hk
    simp
  · simp [AList.lookup_erase_ne hk, hk]

/-- Looking up after a key was inserted. -/
theorem lookup_insert_eq_some {m : HashMap K V} {k k' : K} {v v' : V} :
    (m.insert k v).lookup k' = some v' ↔
      (k' = k ∧ v' = v) ∨ (k' ≠ k ∧ m.lookup k' = some v') := by
  by_cases hk : k' = k
  · subst hk
    simp [eq_comm]
  · simp [AList.lookup_insert_ne hk, hk]

/-! ## Extended and collected maps -/

@[simp] theorem extend_nil (m : HashMap K V) : extend m [] = m := rfl

theorem extend_cons (m : HashMap K V) (p : K × V) (l : List (K × V)) :
    extend m (p :: l) = extend (m.insert p.1 p.2) l := rfl

/-- Inserting two lists of pairs. -/
theorem extend_append (m : HashMap K V) (l l' : List (K × V)) :
    extend m (l ++ l') = extend (extend m l) l' :=
  List.foldl_append

/-- A key that no pair carries keeps its value. -/
theorem lookup_extend_of_notMem {l : List (K × V)} {k : K} (h : k ∉ l.map Prod.fst)
    (m : HashMap K V) : (extend m l).lookup k = m.lookup k := by
  induction l generalizing m with
  | nil => rfl
  | cons p l ih =>
    rw [List.map_cons, List.mem_cons, not_or] at h
    rw [extend_cons, ih h.2, AList.lookup_insert_ne h.1]

/-- A key that some pair carries has the value of one of them. -/
theorem lookup_extend_of_mem {l : List (K × V)} {k : K} (h : k ∈ l.map Prod.fst)
    (m : HashMap K V) : ∃ v, (k, v) ∈ l ∧ (extend m l).lookup k = some v := by
  induction l generalizing m with
  | nil => exact absurd h List.not_mem_nil
  | cons p l ih =>
    rw [extend_cons]
    by_cases hl : k ∈ l.map Prod.fst
    · obtain ⟨v, hv, hlookup⟩ := ih hl (m.insert p.1 p.2)
      exact ⟨v, List.mem_cons_of_mem _ hv, hlookup⟩
    · obtain rfl : k = p.1 := (List.mem_cons.mp h).resolve_right hl
      refine ⟨p.2, List.mem_cons_self, ?_⟩
      rw [lookup_extend_of_notMem hl, AList.lookup_insert]

/-- Every entry of an extended map is one of the pairs, or was there and kept its value. -/
theorem mem_of_lookup_extend {m : HashMap K V} {l : List (K × V)} {k : K} {v : V}
    (h : (extend m l).lookup k = some v) :
    (k, v) ∈ l ∨ (k ∉ l.map Prod.fst ∧ m.lookup k = some v) := by
  by_cases hk : k ∈ l.map Prod.fst
  · obtain ⟨v', hv', hlookup⟩ := lookup_extend_of_mem hk m
    rw [hlookup, Option.some.injEq] at h
    exact Or.inl (h ▸ hv')
  · rw [lookup_extend_of_notMem hk] at h
    exact Or.inr ⟨hk, h⟩

/-- Pairs that give a key one value are inserted without loss. -/
theorem lookup_extend_of_functional {l : List (K × V)}
    (hl : ∀ k v v', (k, v) ∈ l → (k, v') ∈ l → v = v') {m : HashMap K V} {k : K} {v : V} :
    (extend m l).lookup k = some v ↔
      (k, v) ∈ l ∨ (k ∉ l.map Prod.fst ∧ m.lookup k = some v) := by
  refine ⟨mem_of_lookup_extend, ?_⟩
  rintro (hmem | ⟨hk, hlookup⟩)
  · obtain ⟨v', hv', hlookup⟩ := lookup_extend_of_mem (List.mem_map_of_mem (f := Prod.fst) hmem) m
    rw [hl k v v' hmem hv']
    exact hlookup
  · rw [lookup_extend_of_notMem hk, hlookup]

/-- Every entry of a collected map is one of the pairs. -/
theorem mem_of_lookup_collect {l : List (K × V)} {k : K} {v : V}
    (h : (collect l).lookup k = some v) : (k, v) ∈ l := by
  rcases mem_of_lookup_extend h with hmem | ⟨-, hempty⟩
  · exact hmem
  · simp at hempty

/-- A key carried by some pair is in the collected map. -/
theorem lookup_collect_isSome {l : List (K × V)} {k : K} {v : V} (h : (k, v) ∈ l) :
    ∃ v', (collect l).lookup k = some v' := by
  obtain ⟨v', -, hlookup⟩ := lookup_extend_of_mem (List.mem_map_of_mem (f := Prod.fst) h) ∅
  exact ⟨v', hlookup⟩

/-- Pairs that give a key one value are collected without loss. -/
theorem lookup_collect_of_functional {l : List (K × V)}
    (hl : ∀ k v v', (k, v) ∈ l → (k, v') ∈ l → v = v') {k : K} {v : V} :
    (collect l).lookup k = some v ↔ (k, v) ∈ l := by
  rw [collect, lookup_extend_of_functional hl, AList.lookup_empty]
  simp

end HashMap
