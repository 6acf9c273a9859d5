/-
# Coherence of the status tables

A table is coherent when its three maps and its items name each other and every
slot is below the counter.  A removal first takes an item and leaves the other
keys of the item dangling; the recursive call then finds nothing behind them and
drops them, and the table is coherent again (`removeByKey_spec`).

So on coherent tables the operations are those of a keyed store: removing an id
evicts what clashes with it, setting an item puts it in.  Every run of operations
keeps both tables of the database coherent (`InterfaceManagerDatabase.run_coherent`).
-/
import RustyRouter.KeyedStore
import RustyRouter.StatusTable

namespace RustyRouter

open KeyedStore

section Keys

variable {id id' : CanonicalNetworkId}

theorem CanonicalNetworkId.clash_of_name {name : String} (h : id.name = some name)
    (h' : id'.name = some name) : Clash keys id id' :=
  ⟨.name name, name_mem_keys.mpr h, name_mem_keys.mpr h'⟩

theorem CanonicalNetworkId.clash_of_device {device : String} (h : id.device = some device)
    (h' : id'.device = some device) : Clash keys id id' :=
  ⟨.device device, device_mem_keys.mpr h, device_mem_keys.mpr h'⟩

theorem CanonicalNetworkId.clash_of_index {index : UInt64} (h : id.id = some index)
    (h' : id'.id = some index) : Clash keys id id' :=
  ⟨.index index, index_mem_keys.mpr h, index_mem_keys.mpr h'⟩

end Keys

namespace StatusTable

variable {T : Type}

/-- The three maps and the items of a table name each other, below the counter. -/
structure Coherent (t : StatusTable T) : Prop where
  reached : ∀ {slot item}, t.items.lookup slot = some item →
    ∀ key ∈ item.id.keys, t.slotOf key = some slot
  backed : ∀ {key slot}, t.slotOf key = some slot →
    ∃ item, t.items.lookup slot = some item ∧ key ∈ item.id.keys
  slot_lt : ∀ {slot item}, t.items.lookup slot = some item → slot < t.index

theorem coherent_empty : Coherent (empty : StatusTable T) where
  reached h := by simp [empty] at h
  backed {key _} h := by cases key <;> simp [empty, slotOf] at h
  slot_lt h := by simp [empty] at h

theorem mem_content {t : StatusTable T} {item : NetworkStatusItem T} :
    item ∈ t.content ↔ ∃ slot, t.items.lookup slot = some item :=
  HashMap.mem_values

namespace Coherent

variable {t : StatusTable T} (h : Coherent t)
include h

/-- A key leads to the slots of the items that carry it. -/
theorem slot_eq_iff {key : NetworkKey} {slot : ℕ} (hslot : t.slotOf key = some slot) {slot' : ℕ}
    {item : NetworkStatusItem T} (hitem : t.items.lookup slot' = some item) :
    slot' = slot ↔ key ∈ item.id.keys := by
  constructor
  · rintro rfl
    obtain ⟨item', hitem', hkey⟩ := h.backed hslot
    rw [hitem, Option.some.injEq] at hitem'
    rw [hitem']
    exact hkey
  · intro hkey
    have hreached := h.reached hitem key hkey
    rw [hslot, Option.some.injEq] at hreached
    exact hreached.symm

/-- Items that share a key are in one slot. -/
theorem slot_unique {slot slot' : ℕ} {item item' : NetworkStatusItem T}
    (hitem : t.items.lookup slot = some item) (hitem' : t.items.lookup slot' = some item')
    {key : NetworkKey} (hkey : key ∈ item.id.keys) (hkey' : key ∈ item'.id.keys) : slot = slot' :=
  (h.slot_eq_iff (h.reached hitem' key hkey') hitem).mpr hkey

/-- The items of a coherent table do not clash. -/
theorem separated : Separated CanonicalNetworkId.keys NetworkStatusItem.id t.content := by
  have hentries : t.items.entries.Pairwise fun e e' =>
      ¬ Clash CanonicalNetworkId.keys e.2.id e'.2.id := by
    refine (List.nodupKeys_iff_pairwise.mp t.items.nodupKeys).imp_of_mem ?_
    rintro ⟨slot, item⟩ ⟨slot', item'⟩ he he' hne ⟨key, hkey, hkey'⟩
    exact hne (h.slot_unique (AList.mem_lookup_iff.mpr he) (AList.mem_lookup_iff.mpr he') hkey hkey')
  exact List.pairwise_map.mpr hentries

/-- An item is found by its device index. -/
theorem getStatusItemByDeviceIndex_eq_some {deviceIndex : UInt64} {item : NetworkStatusItem T} :
    t.getStatusItemByDeviceIndex deviceIndex = some item ↔
      item ∈ t.content ∧ item.id.id = some deviceIndex := by
  rw [getStatusItemByDeviceIndex, Option.bind_eq_some_iff, mem_content]
  constructor
  · rintro ⟨slot, hslot, hitem⟩
    have hreached : t.slotOf (.index deviceIndex) = some slot := hslot
    have hkey := (h.slot_eq_iff hreached hitem).mp rfl
    exact ⟨⟨slot, hitem⟩, CanonicalNetworkId.index_mem_keys.mp hkey⟩
  · rintro ⟨⟨slot, hitem⟩, hid⟩
    exact ⟨slot, h.reached hitem _ (CanonicalNetworkId.index_mem_keys.mpr hid), hitem⟩

end Coherent

/-! ## Removing -/

/-- A table that has lost keys of its maps. -/
structure Dropped (keys : List NetworkKey) (t t' : StatusTable T) : Prop where
  items_eq : t'.items = t.items
  index_eq : t'.index = t.index
  slotOf_eq : ∀ key slot, t'.slotOf key = some slot ↔ key ∉ keys ∧ t.slotOf key = some slot

theorem removeKey_of_dangling {t : StatusTable T} {key : NetworkKey}
    (h : ∀ slot, t.slotOf key = some slot → t.items.lookup slot = none) :
    ∃ t', t.removeKey key = (none, t') ∧ Dropped [key] t t' := by
  cases hslot : t.slotOf key with
  | none =>
    refine ⟨t, by rw [removeKey, hslot], rfl, rfl, fun key' slot => ?_⟩
    rw [List.mem_singleton]
    refine ⟨fun hkey' => ⟨?_, hkey'⟩, fun hkey' => hkey'.2⟩
    rintro rfl
    rw [hslot] at hkey'
    cases hkey'
  | some slot =>
    refine ⟨t.eraseKey key, ?_, items_eraseKey t key, index_eraseKey t key, fun key' slot' => ?_⟩
    · rw [removeKey_of_slotOf hslot, h slot hslot, HashMap.erase_of_lookup_eq_none (h slot hslot),
        ← items_eraseKey t key]
    · rw [List.mem_singleton]
      exact slotOf_eraseKey_eq_some

/-- Keys with nothing behind them are dropped. -/
theorem foldl_removeByKey_of_dangling
    (remove : CanonicalNetworkId → StatusTable T × List (NetworkStatusItem T) →
      StatusTable T × List (NetworkStatusItem T))
    (keys : List NetworkKey) (t : StatusTable T) (deletedItems : List (NetworkStatusItem T))
    (h : ∀ key ∈ keys, ∀ slot, t.slotOf key = some slot → t.items.lookup slot = none) :
    ∃ t', keys.foldl (removeByKey remove) (t, deletedItems) = (t', deletedItems) ∧
      Dropped keys t t' := by
  induction keys generalizing t with
  | nil => exact ⟨t, rfl, rfl, rfl, fun key slot => by simp⟩
  | cons key keys ih =>
    obtain ⟨u, hu, hdropped⟩ := removeKey_of_dangling (h key List.mem_cons_self)
    have hdangling : ∀ key' ∈ keys, ∀ slot, u.slotOf key' = some slot →
        u.items.lookup slot = none := by
      intro key' hkey' slot hslot
      rw [hdropped.items_eq]
      exact h key' (List.mem_cons_of_mem key hkey') slot ((hdropped.slotOf_eq key' slot).mp hslot).2
    obtain ⟨t', ht', hdropped'⟩ := ih u hdangling
    refine ⟨t', ?_, hdropped'.items_eq.trans hdropped.items_eq,
      hdropped'.index_eq.trans hdropped.index_eq, fun key' slot => ?_⟩
    · rw [List.foldl_cons, removeByKey, hu]
      exact ht'
    · rw [hdropped'.slotOf_eq, hdropped.slotOf_eq, List.mem_singleton, List.mem_cons, not_or]
      tauto

/-- Dropping an item and all its keys keeps a table coherent. -/
theorem Coherent.drop {t u t' : StatusTable T} (h : Coherent t) {slot : ℕ}
    {item : NetworkStatusItem T} (hitem : t.items.lookup slot = some item)
    {key : NetworkKey} (hkey : key ∈ item.id.keys)
    (hu : u = { t.eraseKey key with items := t.items.erase slot })
    (hdropped : Dropped item.id.keys u t') : Coherent t' := by
  -- what is left of the items: all but the one of the slot
  have hitems : ∀ {slot' item'}, t'.items.lookup slot' = some item' ↔
      slot' ≠ slot ∧ t.items.lookup slot' = some item' := by
    intro slot' item'
    rw [hdropped.items_eq, hu]
    exact HashMap.lookup_erase_eq_some
  -- what is left of the keys: all but those of the item
  have hslots : ∀ {key' slot'}, t'.slotOf key' = some slot' ↔
      key' ∉ item.id.keys ∧ t.slotOf key' = some slot' := by
    intro key' slot'
    rw [hdropped.slotOf_eq, hu, slotOf_with_items, slotOf_eraseKey_eq_some]
    refine ⟨fun ⟨hnot, _, hslot⟩ => ⟨hnot, hslot⟩, fun ⟨hnot, hslot⟩ => ⟨hnot, ?_, hslot⟩⟩
    rintro rfl
    exact hnot hkey
  constructor
  · intro slot' item' hitem' key' hkey'
    obtain ⟨hne, hitem'⟩ := hitems.mp hitem'
    refine hslots.mpr ⟨fun hshared => ?_, h.reached hitem' key' hkey'⟩
    exact hne (h.slot_unique hitem' hitem hkey' hshared)
  · intro key' slot' hslot'
    obtain ⟨hnot, hslot'⟩ := hslots.mp hslot'
    obtain ⟨item', hitem', hkey'⟩ := h.backed hslot'
    refine ⟨item', hitems.mpr ⟨?_, hitem'⟩, hkey'⟩
    rintro rfl
    rw [hitem, Option.some.injEq] at hitem'
    exact hnot (hitem' ▸ hkey')
  · intro slot' item' hitem'
    rw [hdropped.index_eq, hu]
    show slot' < (t.eraseKey key).index
    rw [index_eraseKey]
    exact h.slot_lt (hitems.mp hitem').2

/-- What one statement of the removal does to a coherent table: it evicts a key. -/
theorem removeByKey_spec {t : StatusTable T} (h : Coherent t)
    (deletedItems : List (NetworkStatusItem T)) (key : NetworkKey) :
    ∃ t', removeByKey (fun id s => s.1.removeStatusItem id s.2) (t, deletedItems) key =
        (t', deletedItems ++ evictedKey CanonicalNetworkId.keys NetworkStatusItem.id key t.content) ∧
      Coherent t' ∧ t'.index = t.index ∧
      t'.content = evictKey CanonicalNetworkId.keys NetworkStatusItem.id key t.content := by
  cases hslot : t.slotOf key with
  | none =>
    -- a key without a slot is no key of any item
    have hnone : ∀ item ∈ t.content, key ∉ item.id.keys := by
      intro item hitem hkey
      obtain ⟨slot, hlookup⟩ := mem_content.mp hitem
      rw [h.reached hlookup key hkey] at hslot
      cases hslot
    refine ⟨t, ?_, h, rfl, ?_⟩
    · rw [removeByKey, removeKey, hslot, evictedKey, List.filter_eq_nil_iff.mpr (by simpa using hnone),
        List.append_nil]
    · rw [evictKey, List.filter_eq_self.mpr (by simpa using hnone)]
  | some slot =>
    obtain ⟨item, hitem, hkey⟩ := h.backed hslot
    have hiff : ∀ slot' item', t.items.lookup slot' = some item' →
        (slot' = slot ↔ key ∈ item'.id.keys) := fun _ _ hitem' => h.slot_eq_iff hslot hitem'
    -- the other keys of the item now point to an empty slot
    have hdangling : ∀ key' ∈ item.id.keys, ∀ slot',
        StatusTable.slotOf { t.eraseKey key with items := t.items.erase slot } key' = some slot' →
        (t.items.erase slot).lookup slot' = none := by
      intro key' hkey' slot' hslot'
      rw [slotOf_with_items, slotOf_eraseKey_eq_some, h.reached hitem key' hkey',
        Option.some.injEq] at hslot'
      rw [← hslot'.2, AList.lookup_erase]
    obtain ⟨t', ht', hdropped⟩ := foldl_removeByKey_of_dangling
      (fun id s => s.1.removeStatusItem id s.2) item.id.keys _ deletedItems hdangling
    refine ⟨t', ?_, h.drop hitem hkey rfl hdropped, ?_, ?_⟩
    · rw [removeByKey, removeKey_of_slotOf hslot, hitem, evictedKey, content,
        HashMap.filter_values_of_iff hitem hiff]
      dsimp only
      rw [removeStatusItem_eq, ht']
    · rw [hdropped.index_eq]
      exact index_eraseKey t key
    · rw [content, hdropped.items_eq]
      exact HashMap.values_erase_of_iff hiff

/-- **Removing an id evicts what clashes with it.** -/
theorem removeStatusItem_spec {t : StatusTable T} (h : Coherent t) (id : CanonicalNetworkId)
    (deletedItems : List (NetworkStatusItem T)) :
    ∃ t', t.removeStatusItem id deletedItems =
        (t', deletedItems ++
          evictedInTurn CanonicalNetworkId.keys NetworkStatusItem.id id.keys t.content) ∧
      Coherent t' ∧ t'.index = t.index ∧
      t'.content = evict CanonicalNetworkId.keys NetworkStatusItem.id id t.content := by
  rw [removeStatusItem_eq, ← foldl_evictKey_keys]
  generalize id.keys = keys
  induction keys generalizing t deletedItems with
  | nil => exact ⟨t, by rw [evictedInTurn, List.append_nil]; rfl, h, rfl, rfl⟩
  | cons key keys ih =>
    obtain ⟨u, hu, hcoherent, hindex, hcontent⟩ := removeByKey_spec h deletedItems key
    obtain ⟨t', ht', hcoherent', hindex', hcontent'⟩ := ih hcoherent
      (deletedItems ++ evictedKey CanonicalNetworkId.keys NetworkStatusItem.id key t.content)
    refine ⟨t', ?_, hcoherent', hindex'.trans hindex, ?_⟩
    · rw [List.foldl_cons, hu, ht', hcontent, evictedInTurn, List.append_assoc]
    · rw [hcontent', hcontent, List.foldl_cons]

/-! ## Setting -/

theorem items_foldl_insertKey (t : StatusTable T) (slot : ℕ) (keys : List NetworkKey) :
    (keys.foldl (fun t key => t.insertKey slot key) t).items = t.items := by
  induction keys generalizing t with
  | nil => rfl
  | cons key keys ih => rw [List.foldl_cons, ih, items_insertKey]

theorem index_foldl_insertKey (t : StatusTable T) (slot : ℕ) (keys : List NetworkKey) :
    (keys.foldl (fun t key => t.insertKey slot key) t).index = t.index := by
  induction keys generalizing t with
  | nil => rfl
  | cons key keys ih => rw [List.foldl_cons, ih, index_insertKey]

theorem slotOf_foldl_insertKey {t : StatusTable T} {slot : ℕ} {keys : List NetworkKey}
    {key : NetworkKey} {slot' : ℕ} :
    (keys.foldl (fun t key => t.insertKey slot key) t).slotOf key = some slot' ↔
      (key ∈ keys ∧ slot' = slot) ∨ (key ∉ keys ∧ t.slotOf key = some slot') := by
  induction keys generalizing t with
  | nil => simp
  | cons key' keys ih =>
    rw [List.foldl_cons, ih, slotOf_insertKey_eq_some, List.mem_cons]
    tauto

/-- An item that clashes with nothing in a coherent table is put in the next slot. -/
theorem Coherent.insert {t u : StatusTable T} (h : Coherent t) {item : NetworkStatusItem T}
    (hfree : ∀ item' ∈ t.content, ∀ key ∈ item.id.keys, key ∉ item'.id.keys)
    (hu : u = item.id.keys.foldl (fun u key => u.insertKey t.index key)
      { t with index := t.index + 1 }) :
    Coherent { u with items := u.items.insert t.index item } ∧ u.index = t.index + 1 ∧
      content { u with items := u.items.insert t.index item } = item :: t.content := by
  have hindex : u.index = t.index + 1 := by rw [hu, index_foldl_insertKey]
  have hitems : u.items = t.items := by rw [hu, items_foldl_insertKey]
  -- the next slot is a fresh one
  have hnone : t.items.lookup t.index = none := by
    rw [Option.eq_none_iff_forall_ne_some]
    intro item' hitem'
    exact absurd (h.slot_lt hitem') (lt_irrefl _)
  -- the keys of the item point to its slot, the others to where they did
  have hslots : ∀ {key slot}, u.slotOf key = some slot ↔
      (key ∈ item.id.keys ∧ slot = t.index) ∨ (key ∉ item.id.keys ∧ t.slotOf key = some slot) := by
    intro key slot
    rw [hu, slotOf_foldl_insertKey]
    cases key <;> rfl
  refine ⟨⟨?_, ?_, ?_⟩, hindex, ?_⟩
  · intro slot item' hitem' key hkey
    rw [slotOf_with_items, hslots]
    rcases HashMap.lookup_insert_eq_some.mp hitem' with ⟨hslot, rfl⟩ | ⟨-, hitem'⟩
    · exact Or.inl ⟨hkey, hslot⟩
    · rw [hitems] at hitem'
      have hnotMem : key ∉ item.id.keys := fun hshared =>
        hfree item' (mem_content.mpr ⟨slot, hitem'⟩) key hshared hkey
      exact Or.inr ⟨hnotMem, h.reached hitem' key hkey⟩
  · intro key slot hslot
    rw [slotOf_with_items, hslots] at hslot
    rcases hslot with ⟨hkey, rfl⟩ | ⟨hnot, hslot⟩
    · exact ⟨item, AList.lookup_insert _, hkey⟩
    · obtain ⟨item', hitem', hkey⟩ := h.backed hslot
      refine ⟨item', HashMap.lookup_insert_eq_some.mpr (Or.inr ⟨?_, ?_⟩), hkey⟩
      · exact (h.slot_lt hitem').ne
      · rw [hitems]
        exact hitem'
  · intro slot item' hitem'
    show slot < u.index
    rw [hindex]
    rcases HashMap.lookup_insert_eq_some.mp hitem' with ⟨rfl, -⟩ | ⟨-, hitem'⟩
    · exact Nat.lt_succ_self _
    · rw [hitems] at hitem'
      exact (h.slot_lt hitem').trans (Nat.lt_succ_self _)
  · show HashMap.values (u.items.insert t.index item) = item :: t.content
    rw [hitems, HashMap.values_insert_of_lookup hnone]
    rfl

/-- **Setting an item puts it in**, and counts one slot. -/
theorem setStatusItem_spec {t : StatusTable T} (h : Coherent t) (item : NetworkStatusItem T) :
    ∃ t', t.setStatusItem item =
        (t', evictedInTurn CanonicalNetworkId.keys NetworkStatusItem.id item.id.keys t.content) ∧
      Coherent t' ∧ t'.index = t.index + 1 ∧
      t'.content = put CanonicalNetworkId.keys NetworkStatusItem.id item t.content := by
  obtain ⟨u, hu, hcoherent, hindex, hcontent⟩ := removeStatusItem_spec h item.id []
  have hfree : ∀ item' ∈ u.content, ∀ key ∈ item.id.keys, key ∉ item'.id.keys := by
    intro item' hitem' key hkey hkey'
    rw [hcontent] at hitem'
    exact (mem_evict.mp hitem').2 ⟨key, hkey', hkey⟩
  obtain ⟨hcoherent', hindex', hcontent'⟩ := hcoherent.insert hfree rfl
  refine ⟨_, ?_, hcoherent', hindex'.trans (by rw [hindex]), ?_⟩
  · rw [setStatusItem, hu]
    rfl
  · rw [hcontent', hcontent, put]

/-- Setting items one after the other puts them in. -/
theorem foldl_setStatusItem_spec (items : List (NetworkStatusItem T)) {table : StatusTable T}
    (h : Coherent table) :
    Coherent (items.foldl (fun table item => (table.setStatusItem item).1) table) ∧
      (items.foldl (fun table item => (table.setStatusItem item).1) table).content =
        items.foldl (fun s a => put CanonicalNetworkId.keys NetworkStatusItem.id a s)
          table.content := by
  induction items generalizing table with
  | nil => exact ⟨h, rfl⟩
  | cons item items ih =>
    obtain ⟨u, hu, hcoherent, -, hcontent⟩ := setStatusItem_spec h item
    rw [List.foldl_cons, List.foldl_cons, hu, ← hcontent]
    exact ih hcoherent

/-! ## Taking and listing -/

/-- Taking the items empties the table and returns all of them. -/
theorem takeStatusItems_perm (order : HashMap.Shuffle (ℕ × NetworkStatusItem T))
    (t : StatusTable T) : (t.takeStatusItems order).2.Perm t.content := by
  rw [content, HashMap.values_eq_map_iter]
  exact (order.perm _).map _

/-- A listing has the status of every item. -/
theorem listStatus_perm (getName : T → Option String)
    (order : HashMap.Shuffle (ℕ × NetworkStatusItem T)) (t : StatusTable T) :
    (t.listStatus getName order).Perm (t.content.map NetworkStatusItem.status) := by
  refine (List.perm_insertionSort _ _).trans ?_
  rw [content, HashMap.values_eq_map_iter, List.map_map]
  exact (order.perm _).map _

theorem mem_listStatus {getName : T → Option String}
    {order : HashMap.Shuffle (ℕ × NetworkStatusItem T)} {t : StatusTable T} {status : T} :
    status ∈ t.listStatus getName order ↔ ∃ item ∈ t.content, item.status = status := by
  rw [(listStatus_perm getName order t).mem_iff, List.mem_map]

/-- A listing shows what the table has. -/
theorem exists_mem_listStatus {getName : T → Option String}
    {order : HashMap.Shuffle (ℕ × NetworkStatusItem T)} {t : StatusTable T} {p : T → Prop} :
    (∃ status ∈ t.listStatus getName order, p status) ↔ ∃ item ∈ t.content, p item.status := by
  constructor
  · rintro ⟨status, hstatus, hp⟩
    obtain ⟨item, hitem, rfl⟩ := mem_listStatus.mp hstatus
    exact ⟨item, hitem, hp⟩
  · rintro ⟨item, hitem, hp⟩
    exact ⟨item.status, mem_listStatus.mpr ⟨item, hitem, rfl⟩, hp⟩

/-! ## Runs of operations on one table -/

/-- An operation that changes a table. -/
inductive Operation (T : Type) : Type where
  | set (item : NetworkStatusItem T)
  | remove (id : CanonicalNetworkId) (deletedItems : List (NetworkStatusItem T))
  | take (order : HashMap.Shuffle (ℕ × NetworkStatusItem T))

namespace Operation

/-- The table after an operation. -/
def apply (t : StatusTable T) : Operation T → StatusTable T
  | set item => (t.setStatusItem item).1
  | remove id deletedItems => (t.removeStatusItem id deletedItems).1
  | take order => (t.takeStatusItems order).1

/-- The number of sets since the last take. -/
def countSets (n : ℕ) : Operation T → ℕ
  | set _ => n + 1
  | remove _ _ => n
  | take _ => 0

end Operation

/-- An operation keeps a table coherent, and its counter counts the sets. -/
theorem Coherent.apply {t : StatusTable T} (h : Coherent t) (operation : Operation T) :
    Coherent (operation.apply t) ∧ (operation.apply t).index = operation.countSets t.index := by
  cases operation with
  | set item =>
    obtain ⟨t', ht', hcoherent, hindex, -⟩ := setStatusItem_spec h item
    rw [Operation.apply, ht']
    exact ⟨hcoherent, hindex⟩
  | remove id deletedItems =>
    obtain ⟨t', ht', hcoherent, hindex, -⟩ := removeStatusItem_spec h id deletedItems
    rw [Operation.apply, ht']
    exact ⟨hcoherent, hindex⟩
  | take order => exact ⟨coherent_empty, rfl⟩

end StatusTable

/-! ## Runs of operations on the database -/

namespace InterfaceManagerDatabase

open StatusTable

/-- An operation on one of the two tables. -/
inductive DatabaseOperation : Type where
  | link (operation : Operation NetworkLinkStatus)
  | interface (operation : Operation NetworkInterfaceStatus)

namespace DatabaseOperation

/-- The database after an operation. -/
def apply (db : InterfaceManagerDatabase) : DatabaseOperation → InterfaceManagerDatabase
  | link (.set item) => (db.setLinkStatusItem item).1
  | link (.remove id deletedItems) => (db.removeLinkStatusItem id deletedItems).1
  | link (.take order) => (db.takeLinkStatusItems order).1
  | interface (.set item) => (db.setInterfaceStatusItem item).1
  | interface (.remove id deletedItems) => (db.removeInterfaceStatusItem id deletedItems).1
  | interface (.take order) => (db.takeInterfaceStatusItems order).1

/-- The number of sets of each table since its last take. -/
def countSets (n : ℕ × ℕ) : DatabaseOperation → ℕ × ℕ
  | link operation => (operation.countSets n.1, n.2)
  | interface operation => (n.1, operation.countSets n.2)

end DatabaseOperation

/-- The database after a run of operations. -/
def run (operations : List DatabaseOperation) : InterfaceManagerDatabase :=
  operations.foldl DatabaseOperation.apply new

/-- The number of sets of each table since its last take in a run. -/
def setsSinceTake (operations : List DatabaseOperation) : ℕ × ℕ :=
  operations.foldl DatabaseOperation.countSets (0, 0)

/-- Both tables are coherent. -/
structure Coherent (db : InterfaceManagerDatabase) : Prop where
  networkLinks : StatusTable.Coherent db.networkLinks
  networkInterfaces : StatusTable.Coherent db.networkInterfaces

theorem coherent_new : Coherent new := ⟨coherent_empty, coherent_empty⟩

theorem apply_link (db : InterfaceManagerDatabase) (operation : Operation NetworkLinkStatus) :
    DatabaseOperation.apply db (.link operation) =
      { db with networkLinks := operation.apply db.networkLinks } := by
  cases operation <;> rfl

theorem apply_interface (db : InterfaceManagerDatabase)
    (operation : Operation NetworkInterfaceStatus) :
    DatabaseOperation.apply db (.interface operation) =
      { db with networkInterfaces := operation.apply db.networkInterfaces } := by
  cases operation <;> rfl

/-- An operation keeps the database coherent, and its counters count the sets. -/
theorem Coherent.apply {db : InterfaceManagerDatabase} (h : Coherent db)
    (operation : DatabaseOperation) :
    Coherent (operation.apply db) ∧
      ((operation.apply db).networkLinks.index, (operation.apply db).networkInterfaces.index) =
        operation.countSets (db.networkLinks.index, db.networkInterfaces.index) := by
  cases operation with
  | link operation =>
    obtain ⟨hcoherent, hindex⟩ := h.networkLinks.apply operation
    rw [apply_link, DatabaseOperation.countSets, ← hindex]
    exact ⟨⟨hcoherent, h.networkInterfaces⟩, rfl⟩
  | interface operation =>
    obtain ⟨hcoherent, hindex⟩ := h.networkInterfaces.apply operation
    rw [apply_interface, DatabaseOperation.countSets, ← hindex]
    exact ⟨⟨h.networkLinks, hcoherent⟩, rfl⟩

/-- A run keeps the database coherent, and its counters count the sets. -/
theorem Coherent.run (operations : List DatabaseOperation) :
    Coherent (run operations) ∧
      ((InterfaceManagerDatabase.run operations).networkLinks.index,
        (InterfaceManagerDatabase.run operations).networkInterfaces.index) =
        setsSinceTake operations := by
  induction operations using List.reverseRecOn with
  | nil => exact ⟨coherent_new, rfl⟩
  | append_singleton operations operation ih =>
    obtain ⟨hcoherent, hindex⟩ := ih
    rw [InterfaceManagerDatabase.run, List.foldl_append, setsSinceTake, List.foldl_append,
      ← InterfaceManagerDatabase.run, ← setsSinceTake, List.foldl_cons, List.foldl_nil,
      List.foldl_cons, List.foldl_nil, ← hindex]
    exact hcoherent.apply operation

/-- **Coherence.**  After any run of operations the three maps and the items of each table name
each other, every slot is below the counter, which counts the sets since the last take, and no two
items share a key. -/
theorem run_coherent (operations : List DatabaseOperation) :
    (StatusTable.Coherent (run operations).networkLinks ∧
        (run operations).networkLinks.index = (setsSinceTake operations).1 ∧
        Separated CanonicalNetworkId.keys NetworkStatusItem.id
          (run operations).networkLinks.content) ∧
      StatusTable.Coherent (run operations).networkInterfaces ∧
        (run operations).networkInterfaces.index = (setsSinceTake operations).2 ∧
        Separated CanonicalNetworkId.keys NetworkStatusItem.id
          (run operations).networkInterfaces.content := by
  obtain ⟨hcoherent, hindex⟩ := Coherent.run operations
  rw [← hindex]
  exact ⟨⟨hcoherent.networkLinks, rfl, hcoherent.networkLinks.separated⟩,
    hcoherent.networkInterfaces, rfl, hcoherent.networkInterfaces.separated⟩

end InterfaceManagerDatabase

end RustyRouter
