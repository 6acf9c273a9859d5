/-
# The order of the listed links (`rusty-router/src/main.rs`)

`main` sorts the links before it prints them: two links with names by their names,
any others by their devices.  A sort needs a comparison that is transitive.  This one
is, on the links of a list, exactly when no link without a name stands between two
with names whose devices are in the other order (`transitive_iff`), and then the list
is printed in its order (`pairwise_sortLinks`).
-/
import RustyRouter.RouterModel

namespace RustyRouter

namespace NetworkLinkStatus

/-- The closure that `main` sorts by. -/
def order (a b : NetworkLinkStatus) : Ordering :=
  match a.name, b.name with
  | some aName, some bName => compare aName bName
  | _, _ => compare a.device b.device

/-- Whether a link may stand before another. -/
def notAfter (a b : NetworkLinkStatus) : Bool := a.order b != .gt

/-- `interfaces.sort_by`, which is stable, for a closure that is an order. -/
def sortLinks (interfaces : List NetworkLinkStatus) : List NetworkLinkStatus :=
  interfaces.mergeSort notAfter

/-- A link without a name that the devices put between two links with names, against the names. -/
inductive Conflict (a b unnamed : NetworkLinkStatus) : Prop where
  | intro {aName bName : String} (ha : a.name = some aName) (hb : b.name = some bName)
      (hunnamed : unnamed.name = none) (hname : aName ≤ bName)
      (hlow : b.device ≤ unnamed.device) (hhigh : unnamed.device ≤ a.device)
      (hstrict : aName < bName ∨ b.device < unnamed.device ∨ unnamed.device < a.device)

theorem notAfter_of_named {a b : NetworkLinkStatus} {aName bName : String}
    (ha : a.name = some aName) (hb : b.name = some bName) :
    a.notAfter b = true ↔ aName ≤ bName := by
  rw [notAfter, order, ha, hb, bne_iff_ne]
  exact compare_le_iff_le

theorem notAfter_of_unnamed {a b : NetworkLinkStatus} (h : a.name = none ∨ b.name = none) :
    a.notAfter b = true ↔ a.device ≤ b.device := by
  have horder : a.order b = compare a.device b.device := by
    unfold order
    rcases h with h | h <;> rw [h]
    cases a.name <;> rfl
  rw [notAfter, horder, bne_iff_ne]
  exact compare_le_iff_le

/-- Any two links are in one order or the other. -/
theorem notAfter_total (a b : NetworkLinkStatus) : (a.notAfter b || b.notAfter a) = true := by
  rw [Bool.or_eq_true]
  cases ha : a.name with
  | none =>
    rw [notAfter_of_unnamed (Or.inl ha), notAfter_of_unnamed (Or.inr ha)]
    exact le_total _ _
  | some aName =>
    cases hb : b.name with
    | none =>
      rw [notAfter_of_unnamed (Or.inr hb), notAfter_of_unnamed (Or.inl hb)]
      exact le_total _ _
    | some bName =>
      rw [notAfter_of_named ha hb, notAfter_of_named hb ha]
      exact le_total _ _

/-- The closure is transitive where no links are in conflict. -/
theorem notAfter_trans {a b c : NetworkLinkStatus} (habc : ¬ Conflict a b c) (hcab : ¬ Conflict c a b)
    (hbca : ¬ Conflict b c a) (hab : a.notAfter b = true) (hbc : b.notAfter c = true) :
    a.notAfter c = true := by
  -- unnamed links go by their devices, two named ones by their names
  cases ha : a.name with
  | none =>
    rw [notAfter_of_unnamed (Or.inl ha)] at hab ⊢
    cases hb : b.name with
    | none => exact hab.trans ((notAfter_of_unnamed (Or.inl hb)).mp hbc)
    | some bName =>
      cases hc : c.name with
      | none => exact hab.trans ((notAfter_of_unnamed (Or.inr hc)).mp hbc)
      | some cName =>
        by_contra hlt
        have hlt := not_le.mp hlt
        -- the unnamed link lies between two named ones that are in the other order
        exact hbca ⟨hb, hc, ha, (notAfter_of_named hb hc).mp hbc, hlt.le, hab, Or.inr (Or.inl hlt)⟩
  | some aName =>
    cases hb : b.name with
    | none =>
      rw [notAfter_of_unnamed (Or.inr hb)] at hab
      rw [notAfter_of_unnamed (Or.inl hb)] at hbc
      cases hc : c.name with
      | none => exact (notAfter_of_unnamed (Or.inr hc)).mpr (hab.trans hbc)
      | some cName =>
        rw [notAfter_of_named ha hc]
        by_contra hlt
        have hlt := not_le.mp hlt
        exact hcab ⟨hc, ha, hb, hlt.le, hab, hbc, Or.inl hlt⟩
    | some bName =>
      rw [notAfter_of_named ha hb] at hab
      cases hc : c.name with
      | none =>
        rw [notAfter_of_unnamed (Or.inr hc)] at hbc ⊢
        by_contra hlt
        have hlt := not_le.mp hlt
        exact habc ⟨ha, hb, hc, hab, hbc, hlt.le, Or.inr (Or.inr hlt)⟩
      | some cName =>
        rw [notAfter_of_named hb hc] at hbc
        exact (notAfter_of_named ha hc).mpr (hab.trans hbc)

/-- Links in conflict stand before each other in a circle. -/
theorem Conflict.not_transitive {a b unnamed : NetworkLinkStatus} (h : Conflict a b unnamed) :
    (b.notAfter unnamed = true ∧ unnamed.notAfter a = true ∧ a.notAfter b = true) ∧
      (b.notAfter a = false ∨ unnamed.notAfter b = false ∨ a.notAfter unnamed = false) := by
  obtain ⟨ha, hb, hunnamed, hname, hlow, hhigh, hstrict⟩ := h
  refine ⟨⟨(notAfter_of_unnamed (Or.inr hunnamed)).mpr hlow,
    (notAfter_of_unnamed (Or.inl hunnamed)).mpr hhigh, (notAfter_of_named ha hb).mpr hname⟩, ?_⟩
  rcases hstrict with hlt | hlt | hlt
  · refine Or.inl (Bool.eq_false_iff.mpr fun hle => ?_)
    exact absurd ((notAfter_of_named hb ha).mp hle) (not_le.mpr hlt)
  · refine Or.inr (Or.inl (Bool.eq_false_iff.mpr fun hle => ?_))
    exact absurd ((notAfter_of_unnamed (Or.inl hunnamed)).mp hle) (not_le.mpr hlt)
  · refine Or.inr (Or.inr (Bool.eq_false_iff.mpr fun hle => ?_))
    exact absurd ((notAfter_of_unnamed (Or.inr hunnamed)).mp hle) (not_le.mpr hlt)

/-- Links without a conflict are sorted. -/
theorem pairwise_sortLinks {links : List NetworkLinkStatus}
    (h : ∀ a ∈ links, ∀ b ∈ links, ∀ c ∈ links, ¬ Conflict a b c) :
    (sortLinks links).Pairwise fun a b => a.notAfter b = true := by
  -- the links of the list, where the closure is transitive
  have htrans : ∀ a b c : { a // a ∈ links }, a.1.notAfter b.1 = true → b.1.notAfter c.1 = true →
      a.1.notAfter c.1 = true := fun a b c =>
    notAfter_trans (h _ a.2 _ b.2 _ c.2) (h _ c.2 _ a.2 _ b.2) (h _ b.2 _ c.2 _ a.2)
  have hsorted := List.pairwise_mergeSort htrans (fun a b => notAfter_total a.1 b.1) links.attach
  have hmap := List.map_mergeSort (r := fun a b : { a // a ∈ links } => a.1.notAfter b.1)
    (s := notAfter) (f := Subtype.val) (l := links.attach) fun _ _ _ _ => rfl
  rw [List.attach_map_subtype_val] at hmap
  rw [sortLinks, ← hmap, List.pairwise_map]
  exact hsorted

/-- **When the listing is in order.**  The closure of `main` is transitive on the links of a list if
and only if no link without a name is put by the devices between two links with names, against the
names.  Such a list is printed sorted, with every link in it. -/
theorem transitive_iff (links : List NetworkLinkStatus) :
    ((∀ a ∈ links, ∀ b ∈ links, ∀ c ∈ links, a.notAfter b = true → b.notAfter c = true →
        a.notAfter c = true) ↔
      ∀ a ∈ links, ∀ b ∈ links, ∀ unnamed ∈ links, ¬ Conflict a b unnamed) ∧
    ((∀ a ∈ links, ∀ b ∈ links, ∀ unnamed ∈ links, ¬ Conflict a b unnamed) →
      (sortLinks links).Pairwise (fun a b => a.notAfter b = true) ∧ (sortLinks links).Perm links) := by
  refine ⟨⟨fun htrans a ha b hb unnamed hunnamed hconflict => ?_, fun h a ha b hb c hc => ?_⟩,
    fun h => ⟨pairwise_sortLinks h, List.mergeSort_perm _ _⟩⟩
  · obtain ⟨⟨hbu, hua, hab⟩, hfalse⟩ := hconflict.not_transitive
    rcases hfalse with hfalse | hfalse | hfalse
    · rw [htrans b hb unnamed hunnamed a ha hbu hua] at hfalse
      cases hfalse
    · rw [htrans unnamed hunnamed a ha b hb hua hab] at hfalse
      cases hfalse
    · rw [htrans a ha b hb unnamed hunnamed hab hbu] at hfalse
      cases hfalse
  · exact notAfter_trans (h a ha b hb c hc) (h c hc a ha b hb) (h b hb c hc a ha)

/-- Three links that `main` cannot sort: `lan` on `wlan0` and `wan` on `dsl0`, and `eth0` unnamed. -/
example : Conflict ⟨some "lan", "wlan0", .up⟩ ⟨some "wan", "dsl0", .up⟩ ⟨none, "eth0", .up⟩ :=
  ⟨rfl, rfl, rfl, by decide, by decide, by decide, Or.inl (by decide)⟩

end NetworkLinkStatus

end RustyRouter
