/-
# Removing from any table

`remove_link_status_item` calls itself on the ids of the items that it takes out, and in
a table that is not coherent these ids lead on, through dangling, shadowed and crossed
keys, to further items.  A call that ends is a finite derivation (`Returns`), of
which there is one for every table, since each of its calls takes an item out first
(`returns_iff`).  Along a derivation items only move from their slots to the deleted
items (`Conserves`), whatever the table is
(`InterfaceManagerDatabase.remove_conserves`).
-/
import RustyRouter.StatusTable

namespace RustyRouter

namespace StatusTable

variable {T : Type}

/-! ## Runs of the removal -/

/-- The statements of a removal for a list of keys, with the calls they make, run to their end. -/
inductive Runs : List NetworkKey → StatusTable T × List (NetworkStatusItem T) →
    StatusTable T × List (NetworkStatusItem T) → Prop where
  | done (s) : Runs [] s s
  | missing {key keys s t s'} (hkey : s.1.removeKey key = (none, t))
      (rest : Runs keys (t, s.2) s') : Runs (key :: keys) s s'
  | found {key keys s t item u s'} (hkey : s.1.removeKey key = (some item, t))
      (call : Runs item.id.keys (t, s.2) u) (rest : Runs keys (u.1, u.2 ++ [item]) s') :
      Runs (key :: keys) s s'

/-- A call of the removal of an id returns. -/
def Returns (id : CanonicalNetworkId) (s s' : StatusTable T × List (NetworkStatusItem T)) : Prop :=
  Runs id.keys s s'

section Statement

variable {remove : CanonicalNetworkId → StatusTable T × List (NetworkStatusItem T) →
  StatusTable T × List (NetworkStatusItem T)}
  {s : StatusTable T × List (NetworkStatusItem T)} {key : NetworkKey} {t : StatusTable T}

/-- A key without an item removes nothing. -/
theorem removeByKey_of_missing (h : s.1.removeKey key = (none, t)) :
    removeByKey remove s key = (t, s.2) := by
  rw [removeByKey, h]

/-- A key with an item removes the id of the item first, and the item is reported last. -/
theorem removeByKey_of_found {item : NetworkStatusItem T}
    (h : s.1.removeKey key = (some item, t)) :
    removeByKey remove s key =
      ((remove item.id (t, s.2)).1, (remove item.id (t, s.2)).2 ++ [item]) := by
  rw [removeByKey, h]

end Statement

/-- The removal of the source does not add items. -/
theorem size_removeStatusItem_le (id : CanonicalNetworkId)
    (s : StatusTable T × List (NetworkStatusItem T)) :
    size (s.1.removeStatusItem id s.2) ≤ size s :=
  size_removeFuel_le _ id s

/-- The statements for any keys run to the end that the removal computes. -/
theorem runs_foldl (n : ℕ) (keys : List NetworkKey)
    (s : StatusTable T × List (NetworkStatusItem T)) (hs : size s ≤ n) :
    Runs keys s (keys.foldl (removeByKey fun id s => s.1.removeStatusItem id s.2) s) := by
  -- a call is made on a table with fewer items, the next statement on one with no more
  induction n using Nat.strong_induction_on generalizing keys s with
  | _ n ih =>
    induction keys generalizing s with
    | nil => exact .done s
    | cons key keys ihkeys =>
      have hnext := size_removeByKey_le (fun id s => size_removeStatusItem_le id s) s key
      have hrest := ihkeys _ (hnext.trans hs)
      rw [List.foldl_cons]
      rcases hkey : s.1.removeKey key with ⟨_ | item, t⟩
      · rw [removeByKey_of_missing hkey] at hrest ⊢
        exact .missing hkey hrest
      · have hlt : size (t, s.2) < n := (length_of_removeKey_some hkey).trans_le hs
        have hcall := ih _ hlt item.id.keys (t, s.2) le_rfl
        rw [← removeStatusItem_eq] at hcall
        rw [removeByKey_of_found hkey] at hrest ⊢
        exact .found hkey hcall hrest

/-- A run of the recursion is the fold of its calls. -/
theorem Runs.eq_foldl {keys : List NetworkKey} {s s' : StatusTable T × List (NetworkStatusItem T)}
    (h : Runs keys s s') :
    keys.foldl (removeByKey fun id s => s.1.removeStatusItem id s.2) s = s' := by
  induction h with
  | done s => rfl
  | missing hkey _ ih => rw [List.foldl_cons, removeByKey_of_missing hkey, ih]
  | found hkey _ _ ihcall ihrest =>
    rw [← removeStatusItem_eq] at ihcall
    rw [List.foldl_cons, removeByKey_of_found hkey, ihcall, ihrest]

/-- **Every call returns**, in one state, which is what the removal computes. -/
theorem returns_iff {t : StatusTable T} {id : CanonicalNetworkId}
    {deletedItems : List (NetworkStatusItem T)}
    {s' : StatusTable T × List (NetworkStatusItem T)} :
    Returns id (t, deletedItems) s' ↔ t.removeStatusItem id deletedItems = s' := by
  rw [removeStatusItem_eq]
  refine ⟨Runs.eq_foldl, ?_⟩
  rintro rfl
  exact runs_foldl _ id.keys (t, deletedItems) le_rfl

/-! ## What a run conserves -/

/-- Items are moved from their slots to the deleted items: none is lost or made, and a slot that is
left has the item it had. -/
structure Conserves (s s' : StatusTable T × List (NetworkStatusItem T)) : Prop where
  moved : ∃ appended, s'.2 = s.2 ++ appended ∧ s.1.content.Perm (appended ++ s'.1.content)
  kept : ∀ slot item, s'.1.items.lookup slot = some item → s.1.items.lookup slot = some item

namespace Conserves

variable {s s' s'' : StatusTable T × List (NetworkStatusItem T)}

/-- Nothing removed, nothing lost. -/
theorem refl (s : StatusTable T × List (NetworkStatusItem T)) : Conserves s s :=
  ⟨⟨[], (List.append_nil _).symm, List.Perm.refl _⟩, fun _ _ hlookup => hlookup⟩

/-- What two removals move adds up. -/
theorem trans (h : Conserves s s') (h' : Conserves s' s'') : Conserves s s'' := by
  obtain ⟨first, hfirst, hperm⟩ := h.moved
  obtain ⟨second, hsecond, hperm'⟩ := h'.moved
  refine ⟨⟨first ++ second, ?_, ?_⟩, fun slot item hlookup => ?_⟩
  · rw [hsecond, hfirst, List.append_assoc]
  · rw [List.append_assoc]
    exact hperm.trans (hperm'.append_left first)
  · exact h.kept slot item (h'.kept slot item hlookup)

/-- A key behind which there is no item moves none. -/
theorem of_missing {key : NetworkKey} {t : StatusTable T}
    (hkey : s.1.removeKey key = (none, t)) : Conserves s (t, s.2) := by
  have hitems := items_of_removeKey_none hkey
  refine ⟨⟨[], (List.append_nil _).symm, ?_⟩, fun slot item hlookup => ?_⟩
  · rw [List.nil_append, content, content, hitems]
  · rwa [hitems] at hlookup

/-- An item that is taken out is appended once the call on its id has returned. -/
theorem of_found {key : NetworkKey} {item : NetworkStatusItem T} {t : StatusTable T}
    (hkey : s.1.removeKey key = (some item, t)) (hcall : Conserves (t, s.2) s') :
    Conserves s (s'.1, s'.2 ++ [item]) := by
  obtain ⟨slot, hslot, hitems⟩ := items_of_removeKey_some hkey
  obtain ⟨appended, hdeleted, hperm⟩ := hcall.moved
  refine ⟨⟨appended ++ [item], ?_, ?_⟩, fun slot' item' hlookup => ?_⟩
  · rw [hdeleted, List.append_assoc]
  · have htaken : s.1.content.Perm (item :: t.content) := by
      rw [content, content, hitems]
      exact HashMap.values_perm_of_lookup hslot
    rw [List.append_assoc, List.singleton_append]
    exact htaken.trans ((hperm.cons item).trans List.perm_middle.symm)
  · have hleft := hcall.kept slot' item' hlookup
    rw [hitems, HashMap.lookup_erase_eq_some] at hleft
    exact hleft.2

end Conserves

/-- A run moves items. -/
theorem Runs.conserves {keys : List NetworkKey}
    {s s' : StatusTable T × List (NetworkStatusItem T)} (h : Runs keys s s') :
    Conserves s s' := by
  induction h with
  | done s => exact .refl s
  | missing hkey _ ih => exact (Conserves.of_missing hkey).trans ih
  | found hkey _ _ ihcall ihrest => exact (Conserves.of_found hkey ihcall).trans ihrest

/-- A call on any table returns, and moves items. -/
theorem removeStatusItem_conserves (t : StatusTable T) (id : CanonicalNetworkId)
    (deletedItems : List (NetworkStatusItem T)) :
    Returns id (t, deletedItems) (t.removeStatusItem id deletedItems) ∧
      Conserves (t, deletedItems) (t.removeStatusItem id deletedItems) := by
  have hreturns := returns_iff.mpr (rfl : t.removeStatusItem id deletedItems = _)
  exact ⟨hreturns, Runs.conserves hreturns⟩

/-- Two items that are each found by the name of the other. -/
def crossed : StatusTable ℕ :=
  { (empty : StatusTable ℕ) with
    byName := HashMap.collect [("first", 1), ("second", 0)]
    items := HashMap.collect [(0, ⟨⟨none, some "first", none⟩, 10, 0⟩),
      (1, ⟨⟨none, some "second", none⟩, 11, 0⟩)] }

example : (crossed.removeStatusItem ⟨none, some "first", none⟩ []).2.map NetworkStatusItem.status =
    [10, 11] := by
  decide

end StatusTable

namespace InterfaceManagerDatabase

open StatusTable

/-- **Recursive removal.**  In any database, coherent or not, a call of either removal returns, with
any id; the items that were stored are those that it leaves and those that it appends to the
deleted items, and a slot that is left has the item it had. -/
theorem remove_conserves (db : InterfaceManagerDatabase) (id : CanonicalNetworkId) :
    (∀ deletedItems, ∃ s', Returns id (db.networkLinks, deletedItems) s' ∧
        db.removeLinkStatusItem id deletedItems = ({ db with networkLinks := s'.1 }, s'.2) ∧
        Conserves (db.networkLinks, deletedItems) s') ∧
      ∀ deletedItems, ∃ s', Returns id (db.networkInterfaces, deletedItems) s' ∧
        db.removeInterfaceStatusItem id deletedItems =
          ({ db with networkInterfaces := s'.1 }, s'.2) ∧
        Conserves (db.networkInterfaces, deletedItems) s' := by
  constructor
  · intro deletedItems
    obtain ⟨hreturns, hconserves⟩ := db.networkLinks.removeStatusItem_conserves id deletedItems
    exact ⟨_, hreturns, rfl, hconserves⟩
  · intro deletedItems
    obtain ⟨hreturns, hconserves⟩ :=
      db.networkInterfaces.removeStatusItem_conserves id deletedItems
    exact ⟨_, hreturns, rfl, hconserves⟩

end InterfaceManagerDatabase

end RustyRouter
