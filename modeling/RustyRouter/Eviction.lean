/-
# What the operations of the database evict

Removing an id, and setting an item with it, takes out the stored items that share a
key with the id, each of them once, and leaves the others (`Evicts`).  After any run
of operations this holds of both tables, and an operation on one of them leaves the
other as it is (`InterfaceManagerDatabase.run_evictsExactly`).
-/
import RustyRouter.StatusCoherence

namespace RustyRouter

open KeyedStore

namespace CanonicalNetworkId

/-- Two ids that have the same name, the same device name or the same device index. -/
def SharesKey (id id' : CanonicalNetworkId) : Prop :=
  (∃ name, id.name = some name ∧ id'.name = some name) ∨
    (∃ device, id.device = some device ∧ id'.device = some device) ∨
      ∃ index, id.id = some index ∧ id'.id = some index

/-- The clash of the abstract store is the sharing of a key in the table. -/
theorem clash_iff_sharesKey {id id' : CanonicalNetworkId} : Clash keys id id' ↔ id.SharesKey id' := by
  constructor
  · rintro ⟨key, hkey, hkey'⟩
    cases key with
    | name name => exact Or.inl ⟨name, name_mem_keys.mp hkey, name_mem_keys.mp hkey'⟩
    | device device =>
      exact Or.inr (Or.inl ⟨device, device_mem_keys.mp hkey, device_mem_keys.mp hkey'⟩)
    | index index => exact Or.inr (Or.inr ⟨index, index_mem_keys.mp hkey, index_mem_keys.mp hkey'⟩)
  · rintro (⟨_, h, h'⟩ | ⟨_, h, h'⟩ | ⟨_, h, h'⟩)
    · exact clash_of_name h h'
    · exact clash_of_device h h'
    · exact clash_of_index h h'

end CanonicalNetworkId

/-- Stored items are parted into those that share a key with an id and those that do not. -/
structure Evicts {T : Type} (id : CanonicalNetworkId)
    (stored deleted kept : List (NetworkStatusItem T)) : Prop where
  perm : stored.Perm (deleted ++ kept)
  shares : ∀ item ∈ deleted, item.id.SharesKey id
  keeps : ∀ item ∈ kept, ¬ item.id.SharesKey id

namespace StatusTable

variable {T : Type} {t : StatusTable T}

/-- Evicting in the order of the keys takes out what shares a key, and nothing else. -/
theorem evicts_content (t : StatusTable T) (id : CanonicalNetworkId) :
    Evicts id t.content
      (evictedInTurn CanonicalNetworkId.keys NetworkStatusItem.id id.keys t.content)
      (evict CanonicalNetworkId.keys NetworkStatusItem.id id t.content) := by
  -- what is taken out in turn is, up to order, what shares a key
  have hevicted : (evictedInTurn CanonicalNetworkId.keys NetworkStatusItem.id id.keys
      t.content).Perm (evicted CanonicalNetworkId.keys NetworkStatusItem.id id t.content) :=
    evictedInTurn_keys_perm id t.content
  refine ⟨?_, fun item hitem => ?_, fun item hitem => ?_⟩
  · have hsplit := List.filter_append_perm
      (fun item => decide (Clash CanonicalNetworkId.keys item.id id)) t.content
    refine hsplit.symm.trans ((hevicted.symm.append_right _).trans (List.Perm.of_eq ?_))
    simp only [evict, decide_not]
  · rw [hevicted.mem_iff, evicted, List.mem_filter, decide_eq_true_eq] at hitem
    exact CanonicalNetworkId.clash_iff_sharesKey.mp hitem.2
  · rw [← CanonicalNetworkId.clash_iff_sharesKey]
    exact (mem_evict.mp hitem).2

/-- Removing an id from a table takes out the items that share a key with it, and hands them back
behind those it was given. -/
theorem removeStatusItem_evicts (h : Coherent t) (id : CanonicalNetworkId)
    (deletedItems : List (NetworkStatusItem T)) :
    ∃ deleted, (t.removeStatusItem id deletedItems).2 = deletedItems ++ deleted ∧
      Evicts id t.content deleted (t.removeStatusItem id deletedItems).1.content := by
  obtain ⟨t', ht', -, -, hcontent⟩ := removeStatusItem_spec h id deletedItems
  rw [ht', hcontent]
  exact ⟨_, rfl, t.evicts_content id⟩

/-- Setting an item takes out the items that share a key with its id before it is stored. -/
theorem setStatusItem_evicts (h : Coherent t) (item : NetworkStatusItem T) :
    ∃ kept, (t.setStatusItem item).1.content.Perm (item :: kept) ∧
      Evicts item.id t.content (t.setStatusItem item).2 kept := by
  obtain ⟨t', ht', -, -, hcontent⟩ := setStatusItem_spec h item
  rw [ht', hcontent]
  exact ⟨_, List.Perm.refl _, t.evicts_content item.id⟩

end StatusTable

namespace InterfaceManagerDatabase

open StatusTable

/-- Removing an id takes out the items that share a key with it and appends each of them once;
setting an item returns what removing its id takes out, and stores the item beside the rest; taking
the items returns each of them once and leaves no table; and the other table is not changed. -/
structure EvictsExactly (db : InterfaceManagerDatabase) : Prop where
  removeLink : ∀ id deletedItems, ∃ deleted,
    (db.removeLinkStatusItem id deletedItems).2 = deletedItems ++ deleted ∧
      Evicts id db.networkLinks.content deleted
        (db.removeLinkStatusItem id deletedItems).1.networkLinks.content ∧
      (db.removeLinkStatusItem id deletedItems).1.networkInterfaces = db.networkInterfaces
  setLink : ∀ link, ∃ kept,
    (db.setLinkStatusItem link).1.networkLinks.content.Perm (link :: kept) ∧
      Evicts link.id db.networkLinks.content (db.setLinkStatusItem link).2 kept ∧
      (db.setLinkStatusItem link).1.networkInterfaces = db.networkInterfaces
  takeLinks : ∀ order, (db.takeLinkStatusItems order).2.Perm db.networkLinks.content ∧
    (db.takeLinkStatusItems order).1 = { db with networkLinks := StatusTable.empty }
  removeInterface : ∀ id deletedItems, ∃ deleted,
    (db.removeInterfaceStatusItem id deletedItems).2 = deletedItems ++ deleted ∧
      Evicts id db.networkInterfaces.content deleted
        (db.removeInterfaceStatusItem id deletedItems).1.networkInterfaces.content ∧
      (db.removeInterfaceStatusItem id deletedItems).1.networkLinks = db.networkLinks
  setInterface : ∀ interface, ∃ kept,
    (db.setInterfaceStatusItem interface).1.networkInterfaces.content.Perm (interface :: kept) ∧
      Evicts interface.id db.networkInterfaces.content
        (db.setInterfaceStatusItem interface).2 kept ∧
      (db.setInterfaceStatusItem interface).1.networkLinks = db.networkLinks
  takeInterfaces : ∀ order,
    (db.takeInterfaceStatusItems order).2.Perm db.networkInterfaces.content ∧
      (db.takeInterfaceStatusItems order).1 = { db with networkInterfaces := StatusTable.empty }

/-- The six operations of a coherent database evict what shares a key, by the spec of their tables.
-/
theorem Coherent.evictsExactly {db : InterfaceManagerDatabase} (h : Coherent db) :
    db.EvictsExactly where
  removeLink id deletedItems := by
    obtain ⟨deleted, hdeleted, hevicts⟩ := removeStatusItem_evicts h.networkLinks id deletedItems
    exact ⟨deleted, hdeleted, hevicts, rfl⟩
  setLink link := by
    obtain ⟨kept, hkept, hevicts⟩ := setStatusItem_evicts h.networkLinks link
    exact ⟨kept, hkept, hevicts, rfl⟩
  takeLinks order := ⟨takeStatusItems_perm order db.networkLinks, rfl⟩
  removeInterface id deletedItems := by
    obtain ⟨deleted, hdeleted, hevicts⟩ :=
      removeStatusItem_evicts h.networkInterfaces id deletedItems
    exact ⟨deleted, hdeleted, hevicts, rfl⟩
  setInterface interface := by
    obtain ⟨kept, hkept, hevicts⟩ := setStatusItem_evicts h.networkInterfaces interface
    exact ⟨kept, hkept, hevicts, rfl⟩
  takeInterfaces order := ⟨takeStatusItems_perm order db.networkInterfaces, rfl⟩

/-- **Exact eviction** after any run of operations. -/
theorem run_evictsExactly (operations : List DatabaseOperation) : (run operations).EvictsExactly :=
  (Coherent.run operations).1.evictsExactly

end InterfaceManagerDatabase

end RustyRouter
