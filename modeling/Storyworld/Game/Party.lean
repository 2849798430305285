/-
**Relationships and companions.**

A companion in the party has a name, may have a role, and stands in some relationship to the player.
A change to a companion changes the first one with its id.

Main definitions:

* `Storyworld.Relationship` — how someone stands to the player;
* `Storyworld.Companionship`, `Storyworld.Party` — companions in the party;
* `Storyworld.Party.find?`, `Storyworld.Party.update` — one companion of a party.
-/

import Storyworld.Number.Basic
import Storyworld.Table

set_option relaxedAutoImplicit false
set_option autoImplicit false

namespace Storyworld

/-- How someone stands to the player. -/
structure Relationship where
  value : Number
  stage : Option String
  flags : Option (Table Bool)

/-- A relationship that has just begun. -/
def Relationship.neutral : Relationship := ⟨.int 0, none, none⟩

/-- A companion in the party. -/
structure Companionship where
  id : String
  name : String
  role : Option String
  relationship : Option Relationship
  flags : Option (Table Bool)

/-- The companions of the player, in the order in which they joined. -/
abbrev Party := List Companionship

namespace Party

/-- The companion with an id. -/
def find? (party : Party) (id : String) : Option Companionship := List.find? (·.id == id) party

/-- Changes the first companion with an id. -/
def update (id : String) (f : Companionship → Companionship) : Party → Party
  | [] => []
  | c :: rest => if c.id = id then f c :: rest else c :: update id f rest

/-- The party without a companion. -/
def without (party : Party) (id : String) : Party := party.filter fun c => c.id != id

end Party

end Storyworld
