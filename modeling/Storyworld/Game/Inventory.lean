/-
**Inventories.**

An inventory is a row of entries, each with an item and a count.  What is added to an item that is
carried goes onto its first entry, and an item whose count falls to zero or below is no longer
carried.

Main definitions:

* `Storyworld.Inventory` — the items that a character carries;
* `Storyworld.Inventory.count` — how often an item is carried;
* `Storyworld.Inventory.add`, `Storyworld.Inventory.remove` — **items come and go**.
-/

import Storyworld.Story.Basic

set_option relaxedAutoImplicit false
set_option autoImplicit false

namespace Storyworld

/-- An item that the character carries, and how often. -/
structure InventoryEntry where
  item : Item
  count : Int

/-- The items that a character carries, in the order in which they came. -/
abbrev Inventory := List InventoryEntry

namespace Inventory

/-- The first entry of an item. -/
def entry? (inventory : Inventory) (itemId : String) : Option InventoryEntry :=
  inventory.find? (·.item.id == itemId)

/-- How often an item is carried. -/
def count (inventory : Inventory) (itemId : String) : Int :=
  match inventory.entry? itemId with
  | some e => e.count
  | none => 0

/-- The inventory with so much added to the count of the first entry of an item. -/
def adjust (itemId : String) (amount : Int) : Inventory → Inventory
  | [] => []
  | e :: rest =>
    if e.item.id = itemId then { e with count := e.count + amount } :: rest
    else e :: adjust itemId amount rest

/-- The inventory without an item. -/
def without (inventory : Inventory) (itemId : String) : Inventory :=
  inventory.filter fun e => e.item.id != itemId

/-- **Adds so many of an item.**  The entry of an item that is carried keeps its data. -/
def add (inventory : Inventory) (item : Item) (amount : Int) : Inventory :=
  match inventory.entry? item.id with
  | some _ => inventory.adjust item.id amount
  | none => inventory ++ [⟨item, amount⟩]

/-- **Removes so many of an item.**  An item whose count falls to zero or below is gone. -/
def remove (inventory : Inventory) (itemId : String) (amount : Int) : Inventory :=
  match inventory.entry? itemId with
  | none => inventory
  | some e =>
    if e.count - amount ≤ 0 then inventory.without itemId else inventory.adjust itemId (-amount)

end Inventory

end Storyworld
