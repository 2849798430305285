/-
**An inventory is a finite map.**

An inventory is a row of entries that is searched from its beginning, changed in place, added to at
its end and filtered.  To whoever asks how often an item is carried, it is a finite map from items
to counts: what effects make of the count of one item can be told from those effects alone that add
or remove that item, in their order, whatever other items and effects stand between them.

An entry keeps the data of its item for as long as it lasts.  Entries that last keep their order,
and what has been added anew stands after them.

Main definitions:

* `Storyworld.Inventory.Distinct`, `Storyworld.Inventory.held?` — inventories without two entries of
  one item, and **how often an item is carried, if it is**;
* `Storyworld.SupplyChange`, `Storyworld.supplyChanges` — the two operations of the map, and those
  that effects carry out on one item;
* `Storyworld.InventoryEntry.through` — what becomes of an entry that lasts through some effects;
* `Storyworld.Inventory.Arrives` — entries that effects create and that last.

Main results:

* `Storyworld.Effect.held?_inventoryAfter`, `Storyworld.Effect.inventoryAfter_eq` — **one effect**,
  told by counts and told by entries;
* `Storyworld.Inventory.held?_afterAll`, `Storyworld.Inventory.afterAll_eq` — **effects in a row**;
* `Storyworld.Engine.inventory_is_a_map` — **applying effects is folding the operations of a map**.
-/

import Mathlib.Data.List.Nodup
import Storyworld.Proofs.Inventories
import Storyworld.Proofs.LastTeleport

set_option relaxedAutoImplicit false
set_option autoImplicit false

namespace Storyworld

variable {e : Engine} {id : String} {inventory : Inventory}

/-! ### Inventories as maps -/

namespace Inventory

/-- The items that are carried, in the order of their entries. -/
def ids (inventory : Inventory) : List String := inventory.map (·.item.id)

/-- **No item has two entries.** -/
def Distinct (inventory : Inventory) : Prop := inventory.ids.Nodup

instance : Decidable inventory.Distinct := by
  unfold Distinct
  infer_instance

/-- **How often an item is carried**, if there is an entry of it. -/
def held? (inventory : Inventory) (id : String) : Option Int :=
  inventory.entry? id |>.map (·.count)

theorem held?_eq_none_iff : inventory.held? id = none ↔ ∀ y ∈ inventory, y.item.id ≠ id := by
  rw [held?, Option.map_eq_none_iff, entry?_eq_none_iff]

theorem entry?_cons (y : InventoryEntry) (rest : Inventory) (id : String) :
    entry? (y :: rest) id = if y.item.id = id then some y else rest.entry? id := by
  unfold entry?
  by_cases h : y.item.id = id
  · simp [h]
  · simp [h]

/-- An adjustment changes the entry of its item and no other. -/
theorem entry?_adjust (inventory : Inventory) (id' : String) (amount : Int) (id : String) :
    entry? (inventory.adjust id' amount) id =
      if id' = id then inventory.entry? id |>.map fun y => ⟨y.item, y.count + amount⟩
      else inventory.entry? id := by
  induction inventory with
  | nil => split <;> rfl
  | cons y rest ih =>
      by_cases hy : y.item.id = id'
      · rw [adjust, if_pos hy, entry?_cons, entry?_cons, hy]
        split <;> rfl
      · rw [adjust, if_neg hy, entry?_cons, entry?_cons, ih]
        by_cases hid : id' = id
        · simp [hid, hid ▸ hy]
        · simp [hid]

theorem entry?_without (inventory : Inventory) (id' id : String) :
    entry? (inventory.without id') id = if id' = id then none else inventory.entry? id := by
  unfold without
  induction inventory with
  | nil => split <;> rfl
  | cons y rest ih =>
      by_cases hy : y.item.id = id'
      · rw [List.filter_cons_of_neg (by simpa using hy), ih, entry?_cons, hy]
        split <;> rfl
      · rw [List.filter_cons_of_pos (by simpa using hy), entry?_cons, entry?_cons, ih]
        by_cases hid : id' = id
        · simp [hid, hid ▸ hy]
        · simp [hid]

/-- **What is added** goes onto the entry of the item, or makes one. -/
theorem entry?_add (inventory : Inventory) (item : Item) (n : Int) (id : String) :
    entry? (inventory.add item n) id =
      if item.id = id then
        match inventory.entry? id with
        | some y => some ⟨y.item, y.count + n⟩
        | none => some ⟨item, n⟩
      else inventory.entry? id := by
  unfold add
  cases hy : inventory.entry? item.id with
  | some y =>
      dsimp only
      rw [entry?_adjust]
      split
      · next h =>
        rw [← h, hy]
        rfl
      · rfl
  | none =>
      dsimp only
      by_cases hid : item.id = id
      · subst hid
        rw [if_pos rfl, hy]
        unfold entry? at hy ⊢
        simp [List.find?_append, hy]
      · rw [if_neg hid]
        unfold entry?
        simp [List.find?_append, hid]

/-- **What is removed** is taken from the entry of the item, which is gone if nothing is left. -/
theorem entry?_remove_eq (inventory : Inventory) (id' : String) (n : Int) (id : String) :
    entry? (inventory.remove id' n) id =
      if id' = id then
        inventory.entry? id |>.bind fun y =>
          if y.count - n ≤ 0 then none else some ⟨y.item, y.count - n⟩
      else inventory.entry? id := by
  unfold remove
  cases hy : inventory.entry? id' with
  | none =>
      dsimp only
      split
      · next h =>
        rw [← h, hy]
        rfl
      · rfl
  | some y =>
      by_cases hid : id' = id
      · subst hid
        rw [if_pos rfl, hy, Option.bind_some]
        dsimp only
        split
        · rw [entry?_without, if_pos rfl]
        · rw [entry?_adjust, if_pos rfl, hy]
          rfl
      · rw [if_neg hid]
        dsimp only
        split
        · rw [entry?_without, if_neg hid]
        · rw [entry?_adjust, if_neg hid]

end Inventory

/-! ### Changes to the count of one item -/

/-- An operation on the count of an item. -/
inductive SupplyChange where
  | add (n : Int)
  | remove (n : Int)

/-- **What an operation makes of a count**; an item that is not carried has none. -/
def SupplyChange.on : SupplyChange → Option Int → Option Int
  | add n, none => some n
  | add n, some c => some (c + n)
  | remove _, none => none
  | remove n, some c => if c - n ≤ 0 then none else some (c - n)

/-- Operations in a row. -/
def SupplyChange.onAll (cs : List SupplyChange) (held : Option Int) : Option Int :=
  cs.foldl (fun held c => c.on held) held

/-- The operation that an effect carries out on an item.  It adds or removes the item once unless it
says how often. -/
def Effect.supplyChange? (id : String) : Effect → Option SupplyChange
  | addItem item count => if item.id = id then some (.add (count.getD 1)) else none
  | removeItem id' count => if id' = id then some (.remove (count.getD 1)) else none
  | _ => none

/-- **The operations on one item** among what effects do, in order. -/
def supplyChanges (id : String) (xs : List Effect) : List SupplyChange :=
  xs.filterMap (Effect.supplyChange? id)

/-- **What becomes of an entry that lasts through some effects**; nothing, if it is removed by one
of them. -/
def InventoryEntry.through (xs : List Effect) (y : InventoryEntry) : Option InventoryEntry :=
  ((supplyChanges y.item.id xs).foldlM (fun n (c : SupplyChange) => c.on (some n)) y.count).map
    fun n => ⟨y.item, n⟩

/-- The item that an effect adds. -/
def Effect.item? : Effect → Option Item
  | addItem item _ => some item
  | _ => none

/-- **An entry that is new and lasts**: an effect has added its item when there was no entry of it,
and the entry has lasted through the effects after that one. -/
inductive Inventory.Arrives (inventory : Inventory) (xs : List Effect) (y : InventoryEntry) : Prop
  | added {before after : List Effect} {item : Item} {count : Option Int}
      (hxs : xs = before ++ .addItem item count :: after)
      (hbefore : SupplyChange.onAll (supplyChanges item.id before) (inventory.held? item.id) = none)
      (hafter : InventoryEntry.through after ⟨item, count.getD 1⟩ = some y)

namespace InventoryEntry

theorem through_nil (y : InventoryEntry) : y.through [] = some y := rfl

theorem through_cons (x : Effect) (xs : List Effect) (y : InventoryEntry) :
    y.through (x :: xs) = (y.through [x]).bind (·.through xs) := by
  unfold through supplyChanges
  rw [List.filterMap_cons, List.filterMap_cons]
  cases x.supplyChange? y.item.id with
  | none => simp
  | some c => cases hc : c.on (some y.count) <;> simp [hc]

/-- **An entry keeps the data of its item.** -/
theorem through_item {xs : List Effect} {y z : InventoryEntry} (h : y.through xs = some z) :
    z.item = y.item := by
  obtain ⟨n, -, rfl⟩ := Option.map_eq_some_iff.1 h
  rfl

end InventoryEntry

/-! ### One effect -/

namespace Inventory

theorem held?_add (inventory : Inventory) (item : Item) (n : Int) (id : String) :
    held? (inventory.add item n) id =
      if item.id = id then (SupplyChange.add n).on (inventory.held? id)
      else inventory.held? id := by
  unfold held?
  rw [entry?_add]
  split
  · cases inventory.entry? id <;> rfl
  · rfl

theorem held?_remove (inventory : Inventory) (id' : String) (n : Int) (id : String) :
    held? (inventory.remove id' n) id =
      if id' = id then (SupplyChange.remove n).on (inventory.held? id) else inventory.held? id := by
  unfold held?
  rw [entry?_remove_eq]
  split
  · cases inventory.entry? id with
    | none => rfl
    | some y =>
        rw [Option.bind_some, Option.map_some, SupplyChange.on]
        split <;> rfl
  · rfl

/-- Of an inventory without two entries of one item, the count of an entry is that of its item. -/
theorem held?_of_mem (hd : inventory.Distinct) {y : InventoryEntry} (hy : y ∈ inventory) :
    inventory.held? y.item.id = some y.count := by
  induction inventory with
  | nil => cases hy
  | cons z rest ih =>
      obtain ⟨hz, hrest⟩ := List.nodup_cons.1 hd
      rw [held?, entry?_cons]
      rcases List.mem_cons.1 hy with rfl | hy
      · rw [if_pos rfl]
        rfl
      · rw [if_neg fun h => hz (List.mem_map.2 ⟨y, hy, h.symm⟩), ← held?, ih hrest hy]

/-- In an inventory without two entries of one item, all entries of the item are added to. -/
theorem adjust_eq_map (hd : inventory.Distinct) (id : String) (amount : Int) :
    inventory.adjust id amount =
      inventory.map fun y => if y.item.id = id then ⟨y.item, y.count + amount⟩ else y := by
  induction inventory with
  | nil => rfl
  | cons y rest ih =>
      obtain ⟨hy, hrest⟩ := List.nodup_cons.1 hd
      by_cases hid : y.item.id = id
      · rw [adjust, if_pos hid, List.map_cons, if_pos hid]
        -- there is no other entry of the item
        have hothers : ∀ z ∈ rest, z.item.id ≠ id := fun z hz h =>
          hy (List.mem_map.2 ⟨z, hz, h.trans hid.symm⟩)
        rw [List.map_congr_left fun z hz => if_neg (hothers z hz), List.map_id']
      · rw [adjust, if_neg hid, List.map_cons, if_neg hid, ih hrest]

/-- **Adding** changes the entries of the item, or puts one at the end. -/
theorem add_eq (hd : inventory.Distinct) (item : Item) (n : Int) : inventory.add item n =
    (inventory.map fun y => if y.item.id = item.id then ⟨y.item, y.count + n⟩ else y) ++
      if inventory.held? item.id = none then [⟨item, n⟩] else [] := by
  unfold add held?
  cases hy : inventory.entry? item.id with
  | some y => exact (adjust_eq_map hd item.id n).trans (List.append_nil _).symm
  | none =>
      have hothers := entry?_eq_none_iff.1 hy
      rw [List.map_congr_left fun z hz => if_neg (hothers z hz), List.map_id']
      rfl

/-- **Removing** changes the entries of the item, or removes them. -/
theorem remove_eq (hd : inventory.Distinct) (id : String) (n : Int) : inventory.remove id n =
    inventory.filterMap fun y =>
      if y.item.id = id then ((SupplyChange.remove n).on (some y.count)).map (⟨y.item, ·⟩)
      else some y := by
  unfold remove
  cases hy : inventory.entry? id with
  | none =>
      have hothers := entry?_eq_none_iff.1 hy
      rw [List.filterMap_congr fun z hz => if_neg (hothers z hz), List.filterMap_some]
  | some x =>
      -- every entry of the item has the count of the one that is found
      have hcount : ∀ y ∈ inventory, y.item.id = id → y.count = x.count := by
        intro y hmem hid
        have hheld := held?_of_mem hd hmem
        rw [hid, held?, hy] at hheld
        exact (Option.some.inj hheld).symm
      dsimp only
      split
      · next hgone =>
        rw [without, ← List.filterMap_eq_filter]
        refine List.filterMap_congr fun y hmem => ?_
        by_cases hid : y.item.id = id
        · simp [Option.guard, hid, SupplyChange.on, hcount y hmem hid, hgone]
        · simp [Option.guard, hid]
      · next hleft =>
        rw [adjust_eq_map hd, ← List.filterMap_eq_map]
        refine List.filterMap_congr fun y hmem => ?_
        by_cases hid : y.item.id = id
        · rw [if_pos hid, hcount y hmem hid, SupplyChange.on, if_neg hleft]
          simp [hid, hcount y hmem hid, Int.sub_eq_add_neg]
        · simp [hid]

end Inventory

/-- Entries that last keep their items and their order. -/
theorem Inventory.ids_through_sublist (inventory : Inventory) (xs : List Effect) :
    (ids (inventory.filterMap (·.through xs))).Sublist inventory.ids := by
  unfold ids
  induction inventory with
  | nil => exact .slnil
  | cons y rest ih =>
      rw [List.filterMap_cons]
      cases hy : y.through xs with
      | none => exact ih.cons _
      | some z =>
          dsimp only
          rw [List.map_cons, List.map_cons, InventoryEntry.through_item hy]
          exact ih.cons_cons _

/-- What becomes of an entry by one effect. -/
theorem InventoryEntry.through_one (x : Effect) (y : InventoryEntry) :
    y.through [x] = match x.supplyChange? y.item.id with
      | none => some y
      | some c => (c.on (some y.count)).map fun n => ⟨y.item, n⟩ := by
  unfold through supplyChanges
  rw [List.filterMap_cons]
  cases x.supplyChange? y.item.id with
  | none => rfl
  | some c => cases hc : c.on (some y.count) <;> simp [hc]

namespace Effect

/-- **What one effect makes of the count of an item.** -/
theorem held?_inventoryAfter (inventory : Inventory) (x : Effect) (id : String) :
    (inventoryAfter inventory x).held? id =
      SupplyChange.onAll (x.supplyChange? id).toList (inventory.held? id) := by
  cases x with
  | addItem item count =>
      rw [inventoryAfter, supplyChange?, Inventory.held?_add]
      split <;> rfl
  | removeItem id' count =>
      rw [inventoryAfter, supplyChange?, Inventory.held?_remove]
      split <;> rfl
  | _ => rfl

/-- The entry that an effect creates, if there is none of the item that it adds. -/
def arrival? (inventory : Inventory) : Effect → Option InventoryEntry
  | addItem item count =>
    if inventory.held? item.id = none then some ⟨item, count.getD 1⟩ else none
  | _ => none

/-- **What one effect makes of the entries**: each lasts or is removed, whatever the others do, and
at the end stands the entry that the effect creates. -/
theorem inventoryAfter_eq (hd : inventory.Distinct) (x : Effect) :
    inventoryAfter inventory x =
      inventory.filterMap (·.through [x]) ++ (arrival? inventory x).toList := by
  simp only [InventoryEntry.through_one]
  cases x with
  | addItem item count =>
      rw [inventoryAfter, Inventory.add_eq hd, arrival?, ← List.filterMap_eq_map]
      congr 1
      · refine List.filterMap_congr fun y _ => ?_
        by_cases h : y.item.id = item.id
        · simp [supplyChange?, h, SupplyChange.on]
        · simp [supplyChange?, h, Ne.symm h]
      · split <;> rfl
  | removeItem id' count =>
      rw [inventoryAfter, Inventory.remove_eq hd]
      refine (List.filterMap_congr fun y _ => ?_).trans (List.append_nil _).symm
      by_cases h : y.item.id = id'
      · simp [supplyChange?, h]
      · simp [supplyChange?, h, Ne.symm h]
  | _ => simp [inventoryAfter, supplyChange?, arrival?]

theorem arrival?_eq_some {x : Effect} {y : InventoryEntry} (h : arrival? inventory x = some y) :
    ∃ item count, x = addItem item count ∧ inventory.held? item.id = none ∧
      y = ⟨item, count.getD 1⟩ := by
  cases x with
  | addItem item count =>
      rw [arrival?] at h
      split at h
      · next hnew => exact ⟨item, count, rfl, hnew, (Option.some.inj h).symm⟩
      · cases h
  | _ => cases h

/-- **No effect makes a second entry** of an item. -/
theorem distinct_inventoryAfter (hd : inventory.Distinct) (x : Effect) :
    (inventoryAfter inventory x).Distinct := by
  have hlasting := Inventory.ids_through_sublist inventory [x]
  rw [inventoryAfter_eq hd, Inventory.Distinct, Inventory.ids, List.map_append]
  refine List.nodup_append.2 ⟨hd.sublist hlasting, ?_, ?_⟩
  · cases arrival? inventory x with
    | none => exact List.nodup_nil
    | some y => exact List.nodup_singleton _
  · rintro _ hlasts _ hy rfl
    obtain ⟨y, hx, hid⟩ := List.mem_map.1 hy
    obtain ⟨item, count, -, hnew, rfl⟩ := arrival?_eq_some (Option.mem_toList.1 hx)
    obtain ⟨z, hz, hlasts⟩ := List.mem_map.1 (hlasting.subset hlasts)
    exact Inventory.held?_eq_none_iff.1 hnew z hz (hlasts.trans hid.symm)

end Effect

/-! ### Effects in a row -/

theorem supplyChanges_cons (id : String) (x : Effect) (xs : List Effect) :
    supplyChanges id (x :: xs) = (x.supplyChange? id).toList ++ supplyChanges id xs := by
  unfold supplyChanges
  rw [List.filterMap_cons]
  cases x.supplyChange? id <;> rfl

theorem SupplyChange.onAll_append (cs ds : List SupplyChange) (held : Option Int) :
    onAll (cs ++ ds) held = onAll ds (onAll cs held) := List.foldl_append

namespace Inventory

/-- **What effects in a row make of an inventory.** -/
def afterAll (inventory : Inventory) (xs : List Effect) : Inventory :=
  xs.foldl Effect.inventoryAfter inventory

/-- **The count of an item after effects in a row** depends only on those that add or remove it. -/
theorem held?_afterAll (inventory : Inventory) (xs : List Effect) (id : String) :
    held? (inventory.afterAll xs) id =
      SupplyChange.onAll (supplyChanges id xs) (inventory.held? id) := by
  induction xs generalizing inventory with
  | nil => rfl
  | cons x xs ih =>
      show held? (afterAll (Effect.inventoryAfter inventory x) xs) id = _
      rw [ih, Effect.held?_inventoryAfter, supplyChanges_cons, SupplyChange.onAll_append]

theorem distinct_afterAll (hd : inventory.Distinct) (xs : List Effect) :
    Distinct (inventory.afterAll xs) := by
  induction xs generalizing inventory with
  | nil => exact hd
  | cons x xs ih => exact ih (Effect.distinct_inventoryAfter hd x)

/-- What arrives after one effect arrives after it in the row. -/
theorem Arrives.later {x : Effect} {xs : List Effect} {y : InventoryEntry}
    (h : Arrives (Effect.inventoryAfter inventory x) xs y) : inventory.Arrives (x :: xs) y := by
  obtain ⟨rfl, hbefore, hafter⟩ := h
  refine .added (List.cons_append ..).symm ?_ hafter
  rw [supplyChanges_cons, SupplyChange.onAll_append, ← Effect.held?_inventoryAfter, hbefore]

/-- **What effects in a row make of the entries**: those that last keep their order, and after them
stand those that are new and last, in the order in which the effects have added their items. -/
theorem afterAll_eq (hd : inventory.Distinct) (xs : List Effect) : ∃ arrivals : Inventory,
    inventory.afterAll xs = inventory.filterMap (·.through xs) ++ arrivals ∧
      (∀ y ∈ arrivals, inventory.Arrives xs y) ∧
      (arrivals.map (·.item)).Sublist (xs.filterMap Effect.item?) := by
  induction xs generalizing inventory with
  | nil =>
      refine ⟨[], ?_, (fun _ h => nomatch h), .slnil⟩
      rw [List.append_nil, List.filterMap_congr fun y _ => y.through_nil, List.filterMap_some]
      rfl
  | cons x xs ih =>
      obtain ⟨arrivals, heq, harrive, horder⟩ := ih (Effect.distinct_inventoryAfter hd x)
      -- the entry that the first effect creates may last through the others
      refine ⟨(Effect.arrival? inventory x).toList.filterMap (·.through xs) ++ arrivals, ?_, ?_, ?_⟩
      · show afterAll (Effect.inventoryAfter inventory x) xs = _
        rw [heq, Effect.inventoryAfter_eq hd, List.filterMap_append, List.append_assoc,
          List.filterMap_filterMap]
        congr 1
        exact List.filterMap_congr fun y _ => (InventoryEntry.through_cons x xs y).symm
      · intro y hy
        rcases List.mem_append.1 hy with hy | hy
        · obtain ⟨z, hz, hlasts⟩ := List.mem_filterMap.1 hy
          obtain ⟨item, count, rfl, hnew, rfl⟩ :=
            Effect.arrival?_eq_some (Option.mem_toList.1 hz)
          exact .added (List.nil_append _).symm hnew hlasts
        · exact (harrive y hy).later
      · rw [List.map_append, List.filterMap_cons]
        cases hz : Effect.arrival? inventory x with
        | none =>
            refine List.Sublist.trans horder ?_
            split
            · exact .refl _
            · exact .cons _ (.refl _)
        | some z =>
            obtain ⟨item, count, rfl, -, rfl⟩ := Effect.arrival?_eq_some hz
            show List.Sublist (_ ++ _) ([item] ++ xs.filterMap Effect.item?)
            refine List.Sublist.append ?_ horder
            rw [Option.toList_some, List.filterMap_cons, List.filterMap_nil]
            cases hlasts : InventoryEntry.through xs ⟨item, count.getD 1⟩ with
            | none => exact List.nil_sublist _
            | some y =>
                dsimp only
                rw [List.map_singleton, InventoryEntry.through_item hlasts]

end Inventory

/-! ### Applying effects -/

theorem Engine.Applies.inventory_eq {xs : List Effect} {p q : Play} (h : e.Applies xs p q) :
    q.state.character.inventory = p.state.character.inventory.afterAll xs := by
  induction h with
  | nil => rfl
  | @cons x xs p q s warning hx _ ih =>
      rw [ih]
      show Inventory.afterAll s.character.inventory xs = _
      rw [Effect.outcome_inventory hx]
      rfl

/-- **An inventory is a finite map.**  Take a play whose inventory has no two entries of one item,
and effects that are applied without a fault.  Afterwards the inventory still has no two entries of
one item.  Of every item there is an entry, with a count, exactly as the operations on that item
say that the effects carry out, in their order.  The inventory consists of the entries that have
lasted, with the data of their items as before and in their order, and after them of entries that an
effect has created with the data of its item when there was none, in the order of those effects. -/
theorem Engine.inventory_is_a_map {p q : Play} {xs : List Effect} {target : Option String}
    (hd : p.state.character.inventory.Distinct)
    (h : (e.applyAll xs).on p = (.ok target, q)) :
    q.state.character.inventory.Distinct ∧
    (∀ id, q.state.character.inventory.held? id =
      SupplyChange.onAll (supplyChanges id xs) (p.state.character.inventory.held? id)) ∧
    ∃ arrivals : Inventory,
      q.state.character.inventory =
        p.state.character.inventory.filterMap (·.through xs) ++ arrivals ∧
      (∀ y ∈ arrivals, p.state.character.inventory.Arrives xs y) ∧
      (arrivals.map (·.item)).Sublist (xs.filterMap Effect.item?) := by
  obtain ⟨happlied, -⟩ := on_applyAll_iff.1 h
  rw [happlied.inventory_eq]
  exact ⟨Inventory.distinct_afterAll hd xs, Inventory.held?_afterAll _ xs,
    Inventory.afterAll_eq hd xs⟩

/-- A traveller with a lantern and three candles who loses the lantern, lights two candles, and
finds the lantern again and a coin. -/
theorem Engine.inventory_is_a_map_lanternRoad :
    let e := LanternRoad.engine
    let item (id : String) : Item := ⟨id, id, none, none, none, none⟩
    let traveller : Character := { LanternRoad.traveller with
      inventory := [⟨item "lantern", 1⟩, ⟨item "candle", 3⟩] }
    let p := e.beginning traveller LanternRoad.alone
    let xs : List Effect := [.removeItem "lantern" none, .setFlag "dark" true,
      .removeItem "candle" (some 2),
      .addItem ⟨"lantern", "Dented lantern", none, none, none, none⟩ none,
      .removeItem "rope" none, .addItem (item "coin") (some 5), .removeItem "coin" (some 1)]
    let q := ((e.applyAll xs).on p).2
    p.state.character.inventory.Distinct ∧ (e.applyAll xs).on p = (.ok none, q) ∧
      q.state.character.inventory.map (fun y => (y.item.name, y.count)) =
        [("candle", 1), ("Dented lantern", 1), ("coin", 4)] ∧
      q.state.character.inventory.Distinct ∧
      (∀ id, q.state.character.inventory.held? id =
        SupplyChange.onAll (supplyChanges id xs) (p.state.character.inventory.held? id)) ∧
      ∃ arrivals : Inventory,
        q.state.character.inventory =
          p.state.character.inventory.filterMap (·.through xs) ++ arrivals ∧
        (∀ y ∈ arrivals, p.state.character.inventory.Arrives xs y) ∧
        (arrivals.map (·.item)).Sublist (xs.filterMap Effect.item?) := by
  intro e item traveller p xs q
  have hd : p.state.character.inventory.Distinct := by decide +kernel
  have hrun : (e.applyAll xs).on p = (.ok none, q) := rfl
  exact ⟨hd, hrun, by decide +kernel, inventory_is_a_map hd hrun⟩

end Storyworld
