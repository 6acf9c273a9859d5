/-
# Reconciling a table with a view

On a coherent table a turn of the loop over the view evicts what clashes with
the id of an entry and keeps, for the entry, the item that the hold rule leaves
(`reconcileItem_spec`).  Whatever the view, the table is coherent afterwards and
holds items of the view and items it held before (`reconcile_coherent`); when the
ids of the view do not clash, it holds for each entry the item that the old table
as a whole leaves for it, in whatever order the view was drained
(`reconcile_spec`).
-/
import RustyRouter.InterfacePoll
import RustyRouter.StatusCoherence

namespace RustyRouter.InterfaceManagerWorker

open KeyedStore HashMap StatusTable

variable {T : Type} [DecidableEq T]

/-- The item that stays for an entry of the view. -/
abbrev heldItem (old : List (NetworkStatusItem T))
    (entry : CanonicalNetworkId × NetworkStatusItem T) : NetworkStatusItem T :=
  held NetworkStatusItem.id replaces old entry

/-- Whether an entry of the view is new to the table or takes the place of its old item. -/
abbrev announcedItem (old : List (NetworkStatusItem T))
    (entry : CanonicalNetworkId × NetworkStatusItem T) : Bool :=
  announced NetworkStatusItem.id replaces old entry

theorem heldItem_eq_or_mem (old : List (NetworkStatusItem T))
    (entry : CanonicalNetworkId × NetworkStatusItem T) :
    heldItem old entry = entry.2 ∨ (heldItem old entry ∈ old ∧ (heldItem old entry).id = entry.1) :=
  held_eq_or_mem replaces old entry

theorem id_heldItem (old : List (NetworkStatusItem T)) (id : CanonicalNetworkId) (status : T)
    (now : Instant) : (heldItem old (id, ⟨id, status, now⟩)).id = id :=
  ident_held rfl

/-! ## The loop over the view -/

/-- One turn of the loop over the view. -/
theorem reconcileItem_spec {s : Reconciliation T} (h : Coherent s.table)
    {entry : CanonicalNetworkId × NetworkStatusItem T} (hkeys : entry.1.keys ≠ []) :
    ∃ table, reconcileItem s entry =
        ⟨table, s.notify ++ if announcedItem s.table.content entry then [entry.2] else [],
          s.established ++ [heldItem s.table.content entry]⟩ ∧
      Coherent table ∧
      table.content = evict CanonicalNetworkId.keys NetworkStatusItem.id entry.1 s.table.content := by
  obtain ⟨id, new⟩ := entry
  obtain ⟨table, htable, hcoherent, -, hcontent⟩ := removeStatusItem_spec h id []
  refine ⟨table, ?_, hcoherent, hcontent⟩
  have hevicted : Separated CanonicalNetworkId.keys NetworkStatusItem.id
      (evicted CanonicalNetworkId.keys NetworkStatusItem.id id s.table.content) :=
    h.separated.filter _
  -- the deleted items come key by key; the item of this very id is found in any order
  have hfind : find NetworkStatusItem.id id
      (evictedInTurn CanonicalNetworkId.keys NetworkStatusItem.id id.keys s.table.content) =
        find NetworkStatusItem.id id s.table.content := by
    rw [← hevicted.find_perm (evictedInTurn_keys_perm id _).symm hkeys, find_evicted hkeys]
  rw [reconcileItem, htable]
  dsimp only
  rw [List.nil_append, ← find, hfind, heldItem, announcedItem, held, announced]
  dsimp only
  cases find NetworkStatusItem.id id s.table.content with
  | none => rfl
  | some item =>
    dsimp only
    split_ifs <;> simp

/-- The loop keeps the table coherent, and establishes items of the view and items of the table. -/
theorem foldl_reconcileItem_coherent (entries : List (CanonicalNetworkId × NetworkStatusItem T))
    (hkeys : ∀ entry ∈ entries, entry.1.keys ≠ []) {s : Reconciliation T} (h : Coherent s.table) :
    Coherent (entries.foldl reconcileItem s).table ∧
      (∀ item ∈ (entries.foldl reconcileItem s).table.content, item ∈ s.table.content) ∧
      ∀ item ∈ (entries.foldl reconcileItem s).established,
        item ∈ s.established ∨ item ∈ entries.map Prod.snd ∨ item ∈ s.table.content := by
  induction entries generalizing s with
  | nil => exact ⟨h, fun _ hitem => hitem, fun _ hitem => Or.inl hitem⟩
  | cons entry entries ih =>
    obtain ⟨table, hstep, hcoherent, hcontent⟩ :=
      reconcileItem_spec h (hkeys entry List.mem_cons_self)
    rw [List.foldl_cons, hstep]
    obtain ⟨hcoherent', hsub, hmem⟩ :=
      ih (fun entry' hentry' => hkeys entry' (List.mem_cons_of_mem _ hentry'))
        (s := ⟨table, _, _⟩) hcoherent
    have hevict : ∀ item ∈ table.content, item ∈ s.table.content := by
      rw [hcontent]
      exact fun item hitem => (mem_evict.mp hitem).1
    refine ⟨hcoherent', fun item hitem => hevict item (hsub item hitem), fun item hitem => ?_⟩
    rcases hmem item hitem with hestablished | hentries | htable
    · rcases List.mem_append.mp hestablished with hold | hnew
      · exact Or.inl hold
      · rw [List.mem_singleton.mp hnew, List.map_cons, List.mem_cons]
        rcases heldItem_eq_or_mem s.table.content entry with heq | ⟨hheld, -⟩
        · exact Or.inr (Or.inl (Or.inl heq))
        · exact Or.inr (Or.inr hheld)
    · exact Or.inr (Or.inl (List.mem_cons_of_mem _ hentries))
    · exact Or.inr (Or.inr (hevict item htable))

/-- Over ids that do not clash, every entry meets the table as it was at first. -/
theorem foldl_reconcileItem_of_separated
    {entries : List (CanonicalNetworkId × NetworkStatusItem T)}
    (hkeys : ∀ entry ∈ entries, entry.1.keys ≠ [])
    (hseparated : Separated CanonicalNetworkId.keys Prod.fst entries)
    {table : StatusTable T} (h : Coherent table) :
    ∃ table', entries.foldl reconcileItem ⟨table, [], []⟩ =
        ⟨table', (entries.filter (announcedItem table.content)).map Prod.snd,
          entries.map (heldItem table.content)⟩ ∧
      Coherent table' ∧
      table'.content = sweep CanonicalNetworkId.keys NetworkStatusItem.id (entries.map Prod.fst)
        table.content := by
  induction entries using List.reverseRecOn with
  | nil => exact ⟨table, rfl, h, (sweep_nil _).symm⟩
  | append_singleton entries entry ih =>
    obtain ⟨hentries, -, hcross⟩ := List.pairwise_append.mp hseparated
    obtain ⟨u, hu, hcoherent, hcontent⟩ :=
      ih (fun entry' hentry' => hkeys entry' (List.mem_append_left _ hentry')) hentries
    have hentry : entry.1.keys ≠ [] := hkeys entry (List.mem_append_right _ (List.mem_singleton_self _))
    -- the entries before this one share no key with it
    have hfree : ∀ id ∈ entries.map Prod.fst, ¬ Clash CanonicalNetworkId.keys entry.1 id := by
      intro id hid hclash
      obtain ⟨entry', hentry', rfl⟩ := List.mem_map.mp hid
      exact hcross entry' hentry' entry (List.mem_singleton_self _) hclash.symm
    -- so what is held under its id is still as it was
    have hfind : find NetworkStatusItem.id entry.1 u.content =
        find NetworkStatusItem.id entry.1 table.content := by
      rw [hcontent, find_sweep hfree]
    obtain ⟨table', htable', hcoherent', hcontent'⟩ := reconcileItem_spec (s := ⟨u, _, _⟩) hcoherent
      hentry
    refine ⟨table', ?_, hcoherent', ?_⟩
    · rw [List.foldl_append, hu, List.foldl_cons, List.foldl_nil, htable', List.filter_append,
        List.map_append, List.map_append]
      have hheld : heldItem u.content entry = heldItem table.content entry := by
        rw [heldItem, held, hfind]
        rfl
      have hannounced : announcedItem u.content entry = announcedItem table.content entry := by
        rw [announcedItem, announced, hfind]
        rfl
      rw [hheld, hannounced]
      cases hcase : announcedItem table.content entry <;> simp [hcase]
    · rw [hcontent', hcontent, evict_sweep, List.map_append]
      rfl

/-! ## The whole reconciliation -/

/-- Reconciling a coherent table with any view. -/
theorem reconcile_coherent {entries : List (CanonicalNetworkId × NetworkStatusItem T)}
    (hkeys : ∀ entry ∈ entries, entry.1.keys ≠ []) {table : StatusTable T} (h : Coherent table)
    (taken : Shuffle (ℕ × NetworkStatusItem T)) :
    Coherent (reconcile table entries taken).table ∧
      ∀ item ∈ (reconcile table entries taken).table.content,
        item ∈ entries.map Prod.snd ∨ item ∈ table.content := by
  obtain ⟨-, -, hmem⟩ := foldl_reconcileItem_coherent entries hkeys (s := ⟨table, [], []⟩) h
  obtain ⟨hcoherent, hcontent⟩ := foldl_setStatusItem_spec
    (entries.foldl reconcileItem ⟨table, [], []⟩).established (coherent_empty (T := T))
  refine ⟨hcoherent, fun item hitem => ?_⟩
  rw [reconcile] at hitem
  have hput := mem_of_mem_foldl_put (hcontent ▸ hitem)
  rcases hput with hestablished | hempty
  · exact (hmem item hestablished).resolve_left List.not_mem_nil
  · exact absurd hempty List.not_mem_nil

/-- **Reconciling a coherent table with a view whose ids do not clash.** -/
theorem reconcile_spec {entries : List (CanonicalNetworkId × NetworkStatusItem T)}
    (hid : ∀ entry ∈ entries, entry.2.id = entry.1) (hkeys : ∀ entry ∈ entries, entry.1.keys ≠ [])
    (hseparated : Separated CanonicalNetworkId.keys Prod.fst entries)
    {table : StatusTable T} (h : Coherent table) (taken : Shuffle (ℕ × NetworkStatusItem T)) :
    (reconcile table entries taken).table.content =
        (entries.map (heldItem table.content)).reverse ∧
      (reconcile table entries taken).notify =
        (entries.filter (announcedItem table.content)).map Prod.snd ∧
      (reconcile table entries taken).notifyDeleted.Perm
        (sweep CanonicalNetworkId.keys NetworkStatusItem.id (entries.map Prod.fst)
          table.content) := by
  obtain ⟨u, hu, hcoherent, hcontent⟩ := foldl_reconcileItem_of_separated hkeys hseparated h
  rw [reconcile, hu]
  refine ⟨?_, rfl, ?_⟩
  · have hestablished : Separated CanonicalNetworkId.keys NetworkStatusItem.id
        (entries.map (heldItem table.content)) := by
      refine List.pairwise_map.mpr (List.Pairwise.imp_of_mem ?_ hseparated)
      intro entry entry' hentry hentry' hclash
      rw [ident_held (hid entry hentry), ident_held (hid entry' hentry')]
      exact hclash
    rw [← foldl_put_of_separated hestablished]
    exact (foldl_setStatusItem_spec _ coherent_empty).2
  · rw [← hcontent]
    exact takeStatusItems_perm taken u

end RustyRouter.InterfaceManagerWorker
