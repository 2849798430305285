/-
**Tables that remember the order in which their names first came.**

Flags, stats, variables and the fields of a document are tables from names to values.  A table is
a list of pairs: a new name goes to the end, and a name that is present keeps its place when its
value changes.

Main definitions:

* `Storyworld.Table` — a table from names to values;
* `Storyworld.Table.get?`, `Storyworld.Table.put` — reading and writing one name;
* `Storyworld.Table.ofPairs` — the table of a row of pairs, the last value of a name winning.

Main results:

* `Storyworld.Table.get?_put_self`, `Storyworld.Table.get?_put_of_ne` — **what is read after a
  write**.
-/

set_option relaxedAutoImplicit false
set_option autoImplicit false

namespace Storyworld

/-- A table from names to values, in the order in which the names first came. -/
abbrev Table (α : Type) := List (String × α)

namespace Table

variable {α : Type}

/-! ### Reading and writing -/

/-- The value of a name. -/
def get? : Table α → String → Option α
  | [], _ => none
  | (k', v) :: t, k => if k' = k then some v else get? t k

/-- Whether a name is present. -/
def has (t : Table α) (k : String) : Bool := (t.get? k).isSome

/-- Sets the value of a name: in place if it is present, else at the end. -/
def put : Table α → String → α → Table α
  | [], k, v => [(k, v)]
  | (k', v') :: t, k, v => if k' = k then (k', v) :: t else (k', v') :: put t k v

/-- The names, in order. -/
def keys (t : Table α) : List String := t.map Prod.fst

/-- The table of a row of pairs: a repeated name keeps its first place and its last value. -/
def ofPairs (ps : List (String × α)) : Table α := ps.foldl (fun t p => put t p.1 p.2) []

/-! ### What is read after a write -/

theorem get?_put_self (t : Table α) (k : String) (v : α) : (put t k v).get? k = some v := by
  induction t with
  | nil => simp [put, get?]
  | cons e t ih =>
      obtain ⟨k', v'⟩ := e
      by_cases h : k' = k
      · simp [put, get?, h]
      · simp [put, get?, h, ih]

theorem get?_put_of_ne (t : Table α) {k k' : String} (v : α) (h : k' ≠ k) :
    (put t k v).get? k' = t.get? k' := by
  induction t with
  | nil => simp [put, get?, Ne.symm h]
  | cons e t ih =>
      obtain ⟨l, w⟩ := e
      by_cases hl : l = k
      · subst hl
        simp [put, get?, Ne.symm h]
      · by_cases hk : l = k'
        · subst hk
          simp [put, get?, hl]
        · simp [put, get?, hl, hk, ih]

end Table

end Storyworld
