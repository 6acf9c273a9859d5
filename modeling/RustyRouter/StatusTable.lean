/-
# The status tables (`interface/database.rs`, `interface/model.rs`)

The database keeps the links and the interfaces in two tables of one shape: the
items by slot, and three maps from a name, a device name and a device index to
the slot of the item that has it.  Removing an id removes the items reached by
any of its keys, and with each of them, in a recursive call, what is reached by
the other keys of that item.

The recursion ends because every call removes an item first; `removeFuel` counts
the calls down, and `removeStatusItem_eq` is the equation of the source.  The slot
counter is a `u64` in the source; `StatusCoherence` counts what it reaches.
-/
import RustyRouter.RouterModel

namespace RustyRouter

/-! ## Ids and items -/

/-- `tokio::time::Instant`, in nanoseconds. -/
abbrev Instant : Type := ℕ

/-- `CanonicalNetworkId`. -/
structure CanonicalNetworkId where
  id : Option UInt64
  name : Option String
  device : Option String
  deriving DecidableEq, Repr

/-- `NetworkStatusItem`. -/
structure NetworkStatusItem (T : Type) where
  id : CanonicalNetworkId
  status : T
  refreshed : Instant
  deriving DecidableEq, Repr

/-- A key of one of the three maps. -/
inductive NetworkKey : Type where
  | name (name : String)
  | device (device : String)
  | index (index : UInt64)
  deriving DecidableEq, Repr

namespace CanonicalNetworkId

/-- The keys of an id, in the order in which an id is removed. -/
def keys (id : CanonicalNetworkId) : List NetworkKey :=
  id.name.toList.map .name ++ id.device.toList.map .device ++ id.id.toList.map .index

variable {id : CanonicalNetworkId}

/-- A name is a key of the id that has it. -/
@[simp] theorem name_mem_keys {name : String} : .name name ∈ id.keys ↔ id.name = some name := by
  simp [keys]

/-- A device is a key of the id that has it. -/
@[simp] theorem device_mem_keys {device : String} :
    .device device ∈ id.keys ↔ id.device = some device := by
  simp [keys]

/-- An index is a key of the id that has it. -/
@[simp] theorem index_mem_keys {index : UInt64} : .index index ∈ id.keys ↔ id.id = some index := by
  simp [keys]

end CanonicalNetworkId

/-! ## Tables -/

/-- One of the two halves of `InterfaceManagerDatabase`. -/
structure StatusTable (T : Type) where
  index : ℕ
  byName : HashMap String ℕ
  byDeviceIndex : HashMap UInt64 ℕ
  byDeviceName : HashMap String ℕ
  items : HashMap ℕ (NetworkStatusItem T)

namespace StatusTable

variable {T : Type}

/-- An empty table. -/
def empty : StatusTable T := ⟨0, ∅, ∅, ∅, ∅⟩

/-- The slot that the map of a key has for it. -/
def slotOf (t : StatusTable T) : NetworkKey → Option ℕ
  | .name name => t.byName.lookup name
  | .device device => t.byDeviceName.lookup device
  | .index index => t.byDeviceIndex.lookup index

/-- The table without a key. -/
def eraseKey (t : StatusTable T) : NetworkKey → StatusTable T
  | .name name => { t with byName := t.byName.erase name }
  | .device device => { t with byDeviceName := t.byDeviceName.erase device }
  | .index index => { t with byDeviceIndex := t.byDeviceIndex.erase index }

/-- The table with a key for a slot. -/
def insertKey (t : StatusTable T) (slot : ℕ) : NetworkKey → StatusTable T
  | .name name => { t with byName := t.byName.insert name slot }
  | .device device => { t with byDeviceName := t.byDeviceName.insert device slot }
  | .index index => { t with byDeviceIndex := t.byDeviceIndex.insert index slot }

/-- Removes a key from its map and the item of its slot from the items. -/
def removeKey (t : StatusTable T) (key : NetworkKey) :
    Option (NetworkStatusItem T) × StatusTable T :=
  match t.slotOf key with
  | none => (none, t)
  | some slot =>
    let t := t.eraseKey key
    (t.items.lookup slot, { t with items := t.items.erase slot })

/-- One of the three statements of the removal: `remove` is the recursive call. -/
def removeByKey
    (remove : CanonicalNetworkId → StatusTable T × List (NetworkStatusItem T) →
      StatusTable T × List (NetworkStatusItem T))
    (s : StatusTable T × List (NetworkStatusItem T)) (key : NetworkKey) :
    StatusTable T × List (NetworkStatusItem T) :=
  match s.1.removeKey key with
  | (none, t) => (t, s.2)
  | (some item, t) =>
    let (t, deletedItems) := remove item.id (t, s.2)
    (t, deletedItems ++ [item])

/-- The removal of an id in `fuel` nested calls. -/
def removeFuel : ℕ → CanonicalNetworkId → StatusTable T × List (NetworkStatusItem T) →
    StatusTable T × List (NetworkStatusItem T)
  | 0, _, s => s
  | fuel + 1, id, s => id.keys.foldl (removeByKey (removeFuel fuel)) s

/-- `remove_link_status_item`, `remove_interface_status_item`. -/
def removeStatusItem (t : StatusTable T) (id : CanonicalNetworkId)
    (deletedItems : List (NetworkStatusItem T)) : StatusTable T × List (NetworkStatusItem T) :=
  removeFuel (t.items.entries.length + 1) id (t, deletedItems)

/-- `set_link_status_item`, `set_interface_status_item`. -/
def setStatusItem (t : StatusTable T) (item : NetworkStatusItem T) :
    StatusTable T × List (NetworkStatusItem T) :=
  let (t, deletedItems) := t.removeStatusItem item.id []
  let index := t.index
  let t := { t with index := t.index + 1 }
  let t := item.id.keys.foldl (fun t key => t.insertKey index key) t
  ({ t with items := t.items.insert index item }, deletedItems)

/-- `take_link_status_items`, `take_interface_status_items`. -/
def takeStatusItems (order : HashMap.Shuffle (ℕ × NetworkStatusItem T)) (t : StatusTable T) :
    StatusTable T × List (NetworkStatusItem T) :=
  (empty, (order.order t.items.iter).map fun (_, item) => item)

/-- `get_interface_status_item_by_device_index`. -/
def getStatusItemByDeviceIndex (t : StatusTable T) (deviceIndex : UInt64) :
    Option (NetworkStatusItem T) :=
  (t.byDeviceIndex.lookup deviceIndex).bind fun index => t.items.lookup index

/-- The order of `Option<String>`. -/
def nameLe : Option String → Option String → Bool
  | none, _ => true
  | some _, none => false
  | some first, some second => first ≤ second

/-- `list_link_status`, `list_interface_status`. -/
def listStatus (getName : T → Option String) (order : HashMap.Shuffle (ℕ × NetworkStatusItem T))
    (t : StatusTable T) : List T :=
  ((order.order t.items.iter).map fun (_, value) => value.status).insertionSort
    fun first second => nameLe (getName first) (getName second)

/-- The items of a table. -/
def content (t : StatusTable T) : List (NetworkStatusItem T) := t.items.values

/-! ## Keys of the three maps -/

/-- Erasing a key leaves the slots of the others. -/
theorem slotOf_eraseKey_eq_some {t : StatusTable T} {key key' : NetworkKey} {slot : ℕ} :
    (t.eraseKey key).slotOf key' = some slot ↔ key' ≠ key ∧ t.slotOf key' = some slot := by
  cases key <;> cases key' <;> simp [slotOf, eraseKey, HashMap.lookup_erase_eq_some]

/-- Inserting a key gives it its slot and leaves those of the others. -/
theorem slotOf_insertKey_eq_some {t : StatusTable T} {key key' : NetworkKey} {slot slot' : ℕ} :
    (t.insertKey slot key).slotOf key' = some slot' ↔
      (key' = key ∧ slot' = slot) ∨ (key' ≠ key ∧ t.slotOf key' = some slot') := by
  cases key <;> cases key' <;> simp [slotOf, insertKey, HashMap.lookup_insert_eq_some]

/-- Erasing a key of the maps leaves the items. -/
@[simp] theorem items_eraseKey (t : StatusTable T) (key : NetworkKey) :
    (t.eraseKey key).items = t.items := by
  cases key <;> rfl

/-- Erasing a key leaves the next slot. -/
@[simp] theorem index_eraseKey (t : StatusTable T) (key : NetworkKey) :
    (t.eraseKey key).index = t.index := by
  cases key <;> rfl

/-- Inserting a key leaves the items. -/
@[simp] theorem items_insertKey (t : StatusTable T) (slot : ℕ) (key : NetworkKey) :
    (t.insertKey slot key).items = t.items := by
  cases key <;> rfl

/-- Inserting a key leaves the next slot. -/
@[simp] theorem index_insertKey (t : StatusTable T) (slot : ℕ) (key : NetworkKey) :
    (t.insertKey slot key).index = t.index := by
  cases key <;> rfl

/-- The slot of a key is read off the maps, not off the items. -/
theorem slotOf_with_items (t : StatusTable T) (items : HashMap ℕ (NetworkStatusItem T))
    (key : NetworkKey) : StatusTable.slotOf { t with items := items } key = t.slotOf key := by
  cases key <;> rfl

/-- Removing a key that has a slot takes the key and the item of the slot. -/
theorem removeKey_of_slotOf {t : StatusTable T} {key : NetworkKey} {slot : ℕ}
    (h : t.slotOf key = some slot) :
    t.removeKey key =
      (t.items.lookup slot, { t.eraseKey key with items := t.items.erase slot }) := by
  rw [removeKey, h]
  simp only [items_eraseKey]

/-! ## The recursion of the removal -/

/-- The number of items that are left. -/
def size (s : StatusTable T × List (NetworkStatusItem T)) : ℕ := s.1.items.entries.length

/-- A key behind which nothing is found leaves the items as they are. -/
theorem items_of_removeKey_none {t t' : StatusTable T} {key : NetworkKey}
    (h : t.removeKey key = (none, t')) : t'.items = t.items := by
  unfold removeKey at h
  split at h
  · rw [← (Prod.mk.inj h).2]
  · obtain ⟨hlookup, rfl⟩ := Prod.mk.inj h
    rw [items_eraseKey] at hlookup
    dsimp only
    rw [items_eraseKey, HashMap.erase_of_lookup_eq_none hlookup]

/-- An item that is removed by a key is taken out of its slot. -/
theorem items_of_removeKey_some {t t' : StatusTable T} {key : NetworkKey}
    {item : NetworkStatusItem T} (h : t.removeKey key = (some item, t')) :
    ∃ slot, t.items.lookup slot = some item ∧ t'.items = t.items.erase slot := by
  unfold removeKey at h
  split at h
  · cases h
  · obtain ⟨hlookup, rfl⟩ := Prod.mk.inj h
    rw [items_eraseKey] at hlookup
    refine ⟨_, hlookup, ?_⟩
    dsimp only
    rw [items_eraseKey]

/-- Removing a key without an item leaves as many items. -/
theorem length_of_removeKey_none {t t' : StatusTable T} {key : NetworkKey}
    (h : t.removeKey key = (none, t')) : t'.items.entries.length = t.items.entries.length := by
  rw [items_of_removeKey_none h]

/-- Removing a key with an item leaves fewer, which is what ends the recursion of the source. -/
theorem length_of_removeKey_some {t t' : StatusTable T} {key : NetworkKey}
    {item : NetworkStatusItem T} (h : t.removeKey key = (some item, t')) :
    t'.items.entries.length < t.items.entries.length := by
  obtain ⟨slot, hlookup, hitems⟩ := items_of_removeKey_some h
  rw [hitems]
  exact HashMap.length_entries_erase_lt hlookup

section Recursion

variable {remove remove' : CanonicalNetworkId → StatusTable T × List (NetworkStatusItem T) →
  StatusTable T × List (NetworkStatusItem T)}

/-- Removing by one key does not add items if removing an id does not. -/
theorem size_removeByKey_le (hremove : ∀ id s, size (remove id s) ≤ size s)
    (s : StatusTable T × List (NetworkStatusItem T)) (key : NetworkKey) :
    size (removeByKey remove s key) ≤ size s := by
  unfold removeByKey
  split
  · exact (length_of_removeKey_none ‹_›).le
  · exact (hremove _ _).trans (length_of_removeKey_some ‹_›).le

/-- The recursive calls are made on smaller tables. -/
theorem removeByKey_congr {s : StatusTable T × List (NetworkStatusItem T)}
    (h : ∀ id s', size s' < size s → remove id s' = remove' id s') (key : NetworkKey) :
    removeByKey remove s key = removeByKey remove' s key := by
  unfold removeByKey
  split
  · rfl
  · rw [h _ _ (length_of_removeKey_some ‹_›)]

/-- Two ways of removing an id that agree on smaller tables give the same for all keys of an id, as
each recursive call has an item less. -/
theorem foldl_removeByKey_congr (hremove : ∀ id s, size (remove id s) ≤ size s) {n : ℕ}
    (h : ∀ id s, size s < n → remove id s = remove' id s) (keys : List NetworkKey)
    (s : StatusTable T × List (NetworkStatusItem T)) (hs : size s ≤ n) :
    keys.foldl (removeByKey remove) s = keys.foldl (removeByKey remove') s := by
  induction keys generalizing s with
  | nil => rfl
  | cons key keys ih =>
    rw [List.foldl_cons, List.foldl_cons,
      ← removeByKey_congr (fun id s' hs' => h id s' (hs'.trans_le hs)) key]
    exact ih _ ((size_removeByKey_le hremove s key).trans hs)

end Recursion

/-- No fuel makes a removal add items. -/
theorem size_removeFuel_le (fuel : ℕ) (id : CanonicalNetworkId)
    (s : StatusTable T × List (NetworkStatusItem T)) : size (removeFuel fuel id s) ≤ size s := by
  induction fuel generalizing id s with
  | zero => exact le_rfl
  | succ fuel ih =>
    rw [removeFuel]
    generalize id.keys = keys
    induction keys generalizing s with
    | nil => exact le_rfl
    | cons key keys ihkeys => exact (ihkeys _).trans (size_removeByKey_le ih s key)

/-- More fuel than there are items is enough fuel. -/
theorem removeFuel_congr {fuel fuel' : ℕ} (id : CanonicalNetworkId)
    (s : StatusTable T × List (NetworkStatusItem T)) (h : size s < fuel) (h' : size s < fuel') :
    removeFuel fuel id s = removeFuel fuel' id s := by
  induction fuel generalizing fuel' id s with
  | zero => exact absurd h (Nat.not_lt_zero _)
  | succ fuel ih =>
    obtain ⟨fuel', rfl⟩ := Nat.exists_eq_succ_of_ne_zero (Nat.ne_zero_of_lt h')
    refine foldl_removeByKey_congr (size_removeFuel_le fuel) ?_ _ s le_rfl
    intro id' s' hs'
    exact ih id' s' (by omega) (by omega)

/-- The removal is the recursion of the source. -/
theorem removeStatusItem_eq (t : StatusTable T) (id : CanonicalNetworkId)
    (deletedItems : List (NetworkStatusItem T)) :
    t.removeStatusItem id deletedItems =
      id.keys.foldl (removeByKey fun id s => s.1.removeStatusItem id s.2) (t, deletedItems) := by
  refine foldl_removeByKey_congr (size_removeFuel_le _) (fun id' s' hs' => ?_) _ _ le_rfl
  exact removeFuel_congr id' s' hs' (Nat.lt_succ_self _)

end StatusTable

/-! ## The database -/

/-- `InterfaceManagerDatabase`. -/
structure InterfaceManagerDatabase where
  networkLinks : StatusTable NetworkLinkStatus
  networkInterfaces : StatusTable NetworkInterfaceStatus

namespace InterfaceManagerDatabase

/-- `InterfaceManagerDatabase::new`. -/
def new : InterfaceManagerDatabase := ⟨StatusTable.empty, StatusTable.empty⟩

/-- `list_link_status`. -/
def listLinkStatus (order : HashMap.Shuffle (ℕ × NetworkStatusItem NetworkLinkStatus))
    (db : InterfaceManagerDatabase) : List NetworkLinkStatus :=
  db.networkLinks.listStatus NetworkLinkStatus.name order

/-- `take_link_status_items`. -/
def takeLinkStatusItems (order : HashMap.Shuffle (ℕ × NetworkStatusItem NetworkLinkStatus))
    (db : InterfaceManagerDatabase) :
    InterfaceManagerDatabase × List (NetworkStatusItem NetworkLinkStatus) :=
  let (networkLinks, items) := db.networkLinks.takeStatusItems order
  ({ db with networkLinks }, items)

/-- `set_link_status_item`. -/
def setLinkStatusItem (db : InterfaceManagerDatabase) (link : NetworkStatusItem NetworkLinkStatus) :
    InterfaceManagerDatabase × List (NetworkStatusItem NetworkLinkStatus) :=
  let (networkLinks, deletedItems) := db.networkLinks.setStatusItem link
  ({ db with networkLinks }, deletedItems)

/-- `list_interface_status`. -/
def listInterfaceStatus (order : HashMap.Shuffle (ℕ × NetworkStatusItem NetworkInterfaceStatus))
    (db : InterfaceManagerDatabase) : List NetworkInterfaceStatus :=
  db.networkInterfaces.listStatus NetworkInterfaceStatus.name order

/-- `get_interface_status_item_by_device_index`. -/
def getInterfaceStatusItemByDeviceIndex (db : InterfaceManagerDatabase) (deviceIndex : UInt64) :
    Option (NetworkStatusItem NetworkInterfaceStatus) :=
  db.networkInterfaces.getStatusItemByDeviceIndex deviceIndex

/-- `take_interface_status_items`. -/
def takeInterfaceStatusItems
    (order : HashMap.Shuffle (ℕ × NetworkStatusItem NetworkInterfaceStatus))
    (db : InterfaceManagerDatabase) :
    InterfaceManagerDatabase × List (NetworkStatusItem NetworkInterfaceStatus) :=
  let (networkInterfaces, items) := db.networkInterfaces.takeStatusItems order
  ({ db with networkInterfaces }, items)

/-- `set_interface_status_item`. -/
def setInterfaceStatusItem (db : InterfaceManagerDatabase)
    (interface : NetworkStatusItem NetworkInterfaceStatus) :
    InterfaceManagerDatabase × List (NetworkStatusItem NetworkInterfaceStatus) :=
  let (networkInterfaces, deletedItems) := db.networkInterfaces.setStatusItem interface
  ({ db with networkInterfaces }, deletedItems)

/-- `remove_link_status_item`. -/
def removeLinkStatusItem (db : InterfaceManagerDatabase) (id : CanonicalNetworkId)
    (deletedItems : List (NetworkStatusItem NetworkLinkStatus)) :
    InterfaceManagerDatabase × List (NetworkStatusItem NetworkLinkStatus) :=
  let (networkLinks, deletedItems) := db.networkLinks.removeStatusItem id deletedItems
  ({ db with networkLinks }, deletedItems)

/-- `remove_interface_status_item`. -/
def removeInterfaceStatusItem (db : InterfaceManagerDatabase) (id : CanonicalNetworkId)
    (deletedItems : List (NetworkStatusItem NetworkInterfaceStatus)) :
    InterfaceManagerDatabase × List (NetworkStatusItem NetworkInterfaceStatus) :=
  let (networkInterfaces, deletedItems) := db.networkInterfaces.removeStatusItem id deletedItems
  ({ db with networkInterfaces }, deletedItems)

end InterfaceManagerDatabase

end RustyRouter
