/-
# Stores with several partial keys

Items of a store have an identity, and an identity carries finitely many keys.
Two identities clash when they share a key.  A store keeps its items free of
clashes (`Separated`): putting an item in evicts every item that clashes with it.

A store is reconciled with a list of fresh items by evicting, for each of them,
what clashes with it, while remembering an item of exactly the same identity,
which may be kept in place of the fresh one.  When the fresh identities do not
clash with each other this does not depend on their order: each fresh item meets
the item of its identity in the store as it was at first (`find_evicted`,
`find_sweep`), and what is left at the end clashes with none of them
(`mem_sweep`).
-/
import Mathlib

namespace KeyedStore

variable {α I K : Type}

/-- Two identities clash when they share a key. -/
def Clash (keys : I → List K) (i j : I) : Prop := ∃ k ∈ keys i, k ∈ keys j

instance [DecidableEq K] (keys : I → List K) (i j : I) : Decidable (Clash keys i j) :=
  inferInstanceAs (Decidable (∃ k ∈ keys i, k ∈ keys j))

/-- No two items of a store clash. -/
def Separated (keys : I → List K) (ident : α → I) (s : List α) : Prop :=
  s.Pairwise fun a b => ¬ Clash keys (ident a) (ident b)

section Clashes

variable {keys : I → List K} {ident : α → I} {i j : I}

/-- Sharing a key is mutual. -/
theorem Clash.symm (h : Clash keys i j) : Clash keys j i := by
  obtain ⟨k, hi, hj⟩ := h
  exact ⟨k, hj, hi⟩

/-- What has a key shares it with itself. -/
theorem clash_self (h : keys i ≠ []) : Clash keys i i := by
  obtain ⟨k, hk⟩ := List.exists_mem_of_ne_nil _ h
  exact ⟨k, hk, hk⟩

/-- Fewer items share no more keys. -/
theorem Separated.filter {s : List α} (h : Separated keys ident s) (p : α → Bool) :
    Separated keys ident (s.filter p) :=
  List.Pairwise.filter p h

/-- Whether items share keys does not depend on their order. -/
theorem Separated.perm {s t : List α} (h : Separated keys ident s) (hst : s.Perm t) :
    Separated keys ident t :=
  hst.pairwise h fun hab hba => hab hba.symm

/-- Two items of a separated store that share a key are one item. -/
theorem Separated.eq_of_clash {s : List α} (h : Separated keys ident s) {a b : α} (ha : a ∈ s)
    (hb : b ∈ s) (hclash : Clash keys (ident a) (ident b)) : a = b := by
  by_contra hne
  have : Std.Symm fun a b : α => ¬ Clash keys (ident a) (ident b) :=
    ⟨fun _ _ hab hba => hab hba.symm⟩
  exact List.Pairwise.forall h ha hb hne hclash

/-- An identity with no other keys than an item of a separated store clashes with that item only. -/
theorem Separated.eq_of_clash_of_subset {s : List α} (h : Separated keys ident s) {a b : α}
    (ha : a ∈ s) (hb : b ∈ s) {i : I} (hi : keys i ⊆ keys (ident a))
    (hclash : Clash keys (ident b) i) : b = a := by
  obtain ⟨k, hkb, hki⟩ := hclash
  exact h.eq_of_clash hb ha ⟨k, hkb, hi hki⟩

end Clashes

/-! ## Putting and evicting -/

section Evict

variable [DecidableEq K] (keys : I → List K) (ident : α → I)

/-- The items that clash with an identity. -/
def evicted (i : I) (s : List α) : List α := s.filter fun a => Clash keys (ident a) i

/-- The items left when those that clash with an identity are evicted. -/
def evict (i : I) (s : List α) : List α := s.filter fun a => ¬ Clash keys (ident a) i

/-- The store after an item is put in. -/
def put (a : α) (s : List α) : List α := a :: evict keys ident (ident a) s

/-- The items left when everything that clashes with one of some identities is evicted. -/
def sweep (fresh : List I) (s : List α) : List α :=
  s.filter fun a => ∀ i ∈ fresh, ¬ Clash keys (ident a) i

variable {keys ident}

/-- Evicting keeps what shares no key. -/
theorem mem_evict {i : I} {s : List α} {a : α} :
    a ∈ evict keys ident i s ↔ a ∈ s ∧ ¬ Clash keys (ident a) i := by
  simp [evict]

/-- Putting an item stores it, and keeps what shares no key with it. -/
theorem mem_put {a b : α} {s : List α} :
    b ∈ put keys ident a s ↔ b = a ∨ (b ∈ s ∧ ¬ Clash keys (ident b) (ident a)) := by
  rw [put, List.mem_cons, mem_evict]

/-- Sweeping keeps what shares no key with anything fresh. -/
theorem mem_sweep {fresh : List I} {s : List α} {a : α} :
    a ∈ sweep keys ident fresh s ↔ a ∈ s ∧ ∀ i ∈ fresh, ¬ Clash keys (ident a) i := by
  simp [sweep]

/-- Nothing fresh sweeps nothing out. -/
@[simp] theorem sweep_nil (s : List α) : sweep keys ident [] s = s := by
  simp [sweep]

/-- Evicting one more id is sweeping with one more. -/
theorem evict_sweep (i : I) (fresh : List I) (s : List α) :
    evict keys ident i (sweep keys ident fresh s) = sweep keys ident (fresh ++ [i]) s := by
  rw [sweep, sweep, evict, List.filter_filter]
  apply List.filter_congr
  intro a _
  rw [← Bool.decide_and]
  apply decide_eq_decide.mpr
  simp [or_imp, forall_and, and_comm]

/-- An item that is put has its keys for itself. -/
theorem Separated.put {s : List α} (h : Separated keys ident s) (a : α) :
    Separated keys ident (put keys ident a s) := by
  refine List.pairwise_cons.mpr ⟨?_, h.filter _⟩
  intro b hb hclash
  exact (mem_evict.mp hb).2 hclash.symm

/-- An identity with keys of one item only evicts that item. -/
theorem Separated.mem_evict_of_subset {s : List α} (h : Separated keys ident s) {a : α} (ha : a ∈ s)
    {i : I} (hsubset : keys i ⊆ keys (ident a)) (hkeys : keys i ≠ []) {b : α} :
    b ∈ evict keys ident i s ↔ b ∈ s ∧ b ≠ a := by
  rw [mem_evict]
  refine and_congr_right fun hb => not_congr ⟨h.eq_of_clash_of_subset ha hb hsubset, ?_⟩
  rintro rfl
  obtain ⟨k, hk⟩ := List.exists_mem_of_ne_nil _ hkeys
  exact ⟨k, hsubset hk, hk⟩

/-- An item with keys of one item only takes the place of that item. -/
theorem Separated.mem_put_of_subset {s : List α} (h : Separated keys ident s) {a : α} (ha : a ∈ s)
    {new : α} (hsubset : keys (ident new) ⊆ keys (ident a)) (hkeys : keys (ident new) ≠ []) {b : α} :
    b ∈ KeyedStore.put keys ident new s ↔ b = new ∨ (b ∈ s ∧ b ≠ a) := by
  rw [KeyedStore.put, List.mem_cons, h.mem_evict_of_subset ha hsubset hkeys]

/-- An item that clashes with nothing is put in front of the store. -/
theorem put_of_not_clash {a : α} {s : List α} (h : ∀ b ∈ s, ¬ Clash keys (ident b) (ident a)) :
    KeyedStore.put keys ident a s = a :: s := by
  rw [KeyedStore.put, KeyedStore.evict, List.filter_eq_self.mpr (by simpa using h)]

/-- Items free of clashes, put in one after the other, are all there. -/
theorem foldl_put_of_separated {l : List α} (h : Separated keys ident l) :
    l.foldl (fun s a => KeyedStore.put keys ident a s) [] = l.reverse := by
  induction l using List.reverseRecOn with
  | nil => rfl
  | append_singleton l a ih =>
    obtain ⟨hl, -, hsep⟩ := List.pairwise_append.mp h
    rw [List.foldl_append, ih hl, List.foldl_cons, List.foldl_nil, List.reverse_append,
      put_of_not_clash (fun b hb => hsep b (List.mem_reverse.mp hb) a (List.mem_singleton_self a))]
    rfl

/-- Items put in one after the other: nothing else is there. -/
theorem mem_of_mem_foldl_put {l s : List α} {a : α}
    (h : a ∈ l.foldl (fun s a => KeyedStore.put keys ident a s) s) : a ∈ l ∨ a ∈ s := by
  induction l generalizing s with
  | nil => exact Or.inr h
  | cons b l ih =>
    rcases ih h with hl | hs
    · exact Or.inl (List.mem_cons_of_mem b hl)
    · rcases mem_put.mp hs with rfl | ⟨hs, -⟩
      · exact Or.inl List.mem_cons_self
      · exact Or.inr hs

end Evict

/-! ## Evicting key by key -/

section EvictKey

variable [DecidableEq K] (keys : I → List K) (ident : α → I)

/-- The items that carry a key. -/
def evictedKey (k : K) (s : List α) : List α := s.filter fun a => k ∈ keys (ident a)

/-- The items that do not carry a key. -/
def evictKey (k : K) (s : List α) : List α := s.filter fun a => k ∉ keys (ident a)

/-- What is evicted when keys are evicted one after the other. -/
def evictedInTurn : List K → List α → List α
  | [], _ => []
  | k :: ks, s => evictedKey keys ident k s ++ evictedInTurn ks (evictKey keys ident k s)

variable {keys ident}

/-- Evicting the keys of an identity one after the other evicts what clashes with it. -/
theorem foldl_evictKey (ks : List K) (s : List α) :
    ks.foldl (fun s k => evictKey keys ident k s) s =
      s.filter fun a => ∀ k ∈ ks, k ∉ keys (ident a) := by
  induction ks generalizing s with
  | nil => simp
  | cons k ks ih =>
    rw [List.foldl_cons, ih, evictKey, List.filter_filter]
    apply List.filter_congr
    intro a _
    simp [Bool.and_comm]

/-- Evicting key by key is evicting the id. -/
theorem foldl_evictKey_keys (i : I) (s : List α) :
    (keys i).foldl (fun s k => evictKey keys ident k s) s = evict keys ident i s := by
  rw [foldl_evictKey, evict]
  apply List.filter_congr
  intro a _
  simp only [Clash, not_exists, not_and, decide_eq_decide]
  exact ⟨fun h k hk hki => h k hki hk, fun h k hki hk => h k hk hki⟩

/-- What is evicted in turn is what has one of the keys, each item once. -/
theorem evictedInTurn_perm (ks : List K) (s : List α) :
    (evictedInTurn keys ident ks s).Perm (s.filter fun a => ∃ k ∈ ks, k ∈ keys (ident a)) := by
  induction ks generalizing s with
  | nil => simp [evictedInTurn]
  | cons k ks ih =>
    have hsplit := List.filter_append_perm (fun a => decide (k ∈ keys (ident a)))
      (s.filter fun a => ∃ k' ∈ k :: ks, k' ∈ keys (ident a))
    refine List.Perm.trans ?_ hsplit
    rw [evictedInTurn, List.filter_filter, List.filter_filter]
    refine List.Perm.append (List.Perm.of_eq ?_) ((ih _).trans (List.Perm.of_eq ?_))
    · apply List.filter_congr
      intro a _
      by_cases hk : k ∈ keys (ident a) <;> simp [hk]
    · rw [evictKey, List.filter_filter]
      apply List.filter_congr
      intro a _
      by_cases hk : k ∈ keys (ident a) <;> simp [hk]

/-- In whichever order the keys are met, the same items are evicted. -/
theorem evictedInTurn_keys_perm (i : I) (s : List α) :
    (evictedInTurn keys ident (keys i) s).Perm (evicted keys ident i s) := by
  refine (evictedInTurn_perm _ _).trans (List.Perm.of_eq ?_)
  apply List.filter_congr
  intro a _
  exact decide_eq_decide.mpr
    ⟨fun ⟨k, hki, hk⟩ => ⟨k, hk, hki⟩, fun ⟨k, hk, hki⟩ => ⟨k, hki, hk⟩⟩

end EvictKey

/-! ## Reconciling -/

section Reconcile

variable [DecidableEq I] (keys : I → List K) (ident : α → I)

/-- The item a store holds under an identity. -/
def find (i : I) (s : List α) : Option α := s.find? fun a => ident a = i

/-- The item that stays for a fresh one: the old item of its identity, unless it is to be
replaced. -/
def held (replaces : α → α → Bool) (s : List α) (fresh : I × α) : α :=
  match find ident fresh.1 s with
  | none => fresh.2
  | some old => if replaces old fresh.2 then fresh.2 else old

/-- Whether a fresh item stays itself. -/
def announced (replaces : α → α → Bool) (s : List α) (fresh : I × α) : Bool :=
  match find ident fresh.1 s with
  | none => true
  | some old => replaces old fresh.2

variable {keys ident}

/-- What is found has the id it was looked for under. -/
theorem find_eq_some {i : I} {s : List α} {a : α} (h : find ident i s = some a) :
    a ∈ s ∧ ident a = i :=
  ⟨List.mem_of_find?_eq_some h, by simpa using List.find?_some h⟩

/-- Nothing is found where no item has the id. -/
theorem find_eq_none {i : I} {s : List α} :
    find ident i s = none ↔ ∀ a ∈ s, ident a ≠ i := by
  simp [find]

/-- When identities are distinct, an item is found under its own. -/
theorem find_eq_some_of_nodup {s : List α} (h : (s.map ident).Nodup) {a : α} (ha : a ∈ s) :
    find ident (ident a) s = some a := by
  cases hfind : find ident (ident a) s with
  | none => exact absurd rfl (find_eq_none.mp hfind a ha)
  | some b =>
    obtain ⟨hb, hident⟩ := find_eq_some hfind
    rw [List.inj_on_of_nodup_map h hb ha hident]

/-- An identity with a key names at most one item of a separated store. -/
theorem Separated.find_eq_some_iff {s : List α} (h : Separated keys ident s) {i : I}
    (hi : keys i ≠ []) {a : α} : find ident i s = some a ↔ a ∈ s ∧ ident a = i := by
  refine ⟨find_eq_some, ?_⟩
  rintro ⟨ha, rfl⟩
  cases hfind : find ident (ident a) s with
  | none => exact absurd rfl (find_eq_none.mp hfind a ha)
  | some b =>
    obtain ⟨hb, hident⟩ := find_eq_some hfind
    have hclash : Clash keys (ident a) (ident b) := by
      rw [hident]
      exact clash_self hi
    rw [h.eq_of_clash ha hb hclash]

/-- Looking an identity up does not depend on the order of a separated store. -/
theorem Separated.find_perm {s t : List α} (h : Separated keys ident s) (hst : s.Perm t) {i : I}
    (hi : keys i ≠ []) : find ident i s = find ident i t := by
  apply Option.ext
  intro a
  rw [h.find_eq_some_iff hi, (h.perm hst).find_eq_some_iff hi, hst.mem_iff]

/-- What is held under an id has it. -/
theorem ident_held {replaces : α → α → Bool} {s : List α} {fresh : I × α}
    (h : ident fresh.2 = fresh.1) : ident (held ident replaces s fresh) = fresh.1 := by
  unfold held
  cases hfind : find ident fresh.1 s with
  | none => exact h
  | some old =>
    dsimp only
    split_ifs
    · exact h
    · exact (find_eq_some hfind).2

/-- What is held is the fresh item or a stored one with its id. -/
theorem held_eq_or_mem (replaces : α → α → Bool) (s : List α) (fresh : I × α) :
    held ident replaces s fresh = fresh.2 ∨
      (held ident replaces s fresh ∈ s ∧ ident (held ident replaces s fresh) = fresh.1) := by
  unfold held
  cases hfind : find ident fresh.1 s with
  | none => exact Or.inl rfl
  | some old =>
    dsimp only
    split_ifs
    · exact Or.inl rfl
    · exact Or.inr (find_eq_some hfind)

/-- What stays for a fresh item is the item itself when it is announced, and an old one otherwise. -/
theorem held_of_announced {replaces : α → α → Bool} {s : List α} {fresh : I × α}
    (h : announced ident replaces s fresh = true) : held ident replaces s fresh = fresh.2 := by
  unfold announced at h
  unfold held
  cases hfind : find ident fresh.1 s with
  | none => rfl
  | some old =>
    rw [hfind] at h
    dsimp only at h ⊢
    rw [if_pos h]

/-- What is not announced is held as it was stored. -/
theorem held_mem_of_not_announced {replaces : α → α → Bool} {s : List α} {fresh : I × α}
    (h : announced ident replaces s fresh = false) : held ident replaces s fresh ∈ s := by
  unfold announced at h
  unfold held
  cases hfind : find ident fresh.1 s with
  | none =>
    rw [hfind] at h
    cases h
  | some old =>
    rw [hfind] at h
    dsimp only at h ⊢
    rw [h, if_neg Bool.false_ne_true]
    exact (find_eq_some hfind).1

/-- A fresh item stays when the store has none of its identity. -/
theorem held_of_absent (replaces : α → α → Bool) {s : List α} {fresh : I × α}
    (h : ∀ a ∈ s, ident a ≠ fresh.1) : held ident replaces s fresh = fresh.2 := by
  rw [held, find_eq_none.mpr h]

/-- An item that is not to be replaced stays. -/
theorem Separated.held_of_mem {replaces : α → α → Bool} {s : List α}
    (h : Separated keys ident s) {fresh : I × α} (hkeys : keys fresh.1 ≠ []) {a : α} (ha : a ∈ s)
    (hident : ident a = fresh.1) (hkeep : replaces a fresh.2 = false) :
    held ident replaces s fresh = a := by
  rw [held, (h.find_eq_some_iff hkeys).mpr ⟨ha, hident⟩]
  dsimp only
  rw [hkeep, if_neg Bool.false_ne_true]

variable [DecidableEq K]

/-- Among what an identity evicts, the item of that identity is found as in the whole store. -/
theorem find_evicted {i : I} (hi : keys i ≠ []) (s : List α) :
    find ident i (evicted keys ident i s) = find ident i s := by
  rw [find, find, evicted, List.find?_filter]
  congr 1
  funext a
  by_cases ha : ident a = i
  · simp [ha, clash_self hi]
  · simp [ha]

/-- Sweeping identities that do not clash with another leaves the item of the latter. -/
theorem find_sweep {i : I} {fresh : List I} (h : ∀ j ∈ fresh, ¬ Clash keys i j) (s : List α) :
    find ident i (sweep keys ident fresh s) = find ident i s := by
  rw [find, find, sweep, List.find?_filter]
  congr 1
  funext a
  by_cases ha : ident a = i
  · subst ha
    simpa using h
  · simp [ha]

end Reconcile

end KeyedStore
