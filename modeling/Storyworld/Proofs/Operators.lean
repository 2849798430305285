/-
**What operators make of a condition.**

Operators are any texts.  Each type of condition knows a few of them, and an operator that it does
not know is taken in two ways: conditions on stats and on the inventory do not hold then, but
conditions on flags and on lore hold as though they asked for equality.

Some operators come in pairs, of which one asks for the opposite of the other.  Two things keep the
answers of such a pair from being opposite.  Lore keys that ask about the character or what the
player knows are answered outright, whatever the operator.  And an item is neither there nor missing
where its count is negative, which it never is if every addition adds at least one.

Main definitions:

* `Storyworld.Condition.vocabulary`, `Storyworld.Condition.HasUnknown` — **the operators that a
  condition knows**, and that it has another one;
* `Storyworld.Condition.Negates` — **a condition asks for the opposite of another one**;
* `Storyworld.AsksOutright` — a lore key is answered whatever the operator;
* `Storyworld.Condition.Lopsided` — what keeps the answers of a pair from being opposite.

Main results:

* `Storyworld.loreHolds_of_asksOutright`, `Storyworld.loreHolds_of_not_asksOutright` — **lore is
  answered outright or by comparison**;
* `Storyworld.Engine.unknown_operators` — **what comes of an unknown operator**;
* `Storyworld.Engine.negated_operators` — **when a negated operator negates**;
* `Storyworld.Engine.there_or_missing` — items that are added at least once are there or missing
  throughout a game;
* `Storyworld.Border.passes_unknown_operators`, `Storyworld.Border.answers_alike` — a border that is
  open to the wrong travellers.
-/

import Mathlib.Data.List.Basic
import Storyworld.Proofs.Inventories

set_option relaxedAutoImplicit false
set_option autoImplicit false

namespace Storyworld

variable {e : Engine}

/-! ### Operators -/

namespace Condition

/-- **The operators that a condition knows.** -/
def vocabulary : Condition → List String
  | .flag .. => ["equals", "notEquals", "exists", "notExists"]
  | .stat .. => ["gt", "gte", "lt", "lte", "eq", "neq"]
  | .inventory .. => ["has", "notHas", "countGte", "countLte"]
  | .lore .. => ["equals", "notEquals", "has", "notHas"]
  | .expression _ | .custom .. => []

/-- The operator of a condition, if it is of a type that has one and it is given. -/
def operator? : Condition → Option String
  | .flag _ operator _ | .inventory _ operator _ | .lore _ operator _ => operator
  | .stat _ operator _ => some operator
  | .expression _ | .custom .. => none

/-- **A condition has an operator that it does not know.** -/
structure HasUnknown (c : Condition) (operator : String) : Prop where
  given : c.operator? = some operator
  nonempty : operator ≠ ""
  unknown : operator ∉ c.vocabulary

/-- The condition that asks for equality, of a condition on a flag or on lore. -/
def withEquals? : Condition → Option Condition
  | .flag key _ value => some (.flag key (some "equals") value)
  | .lore key _ value => some (.lore key (some "equals") value)
  | .stat .. | .inventory .. | .expression _ | .custom .. => none

/-- **A condition asks for the opposite of another one**, by its operator. -/
inductive Negates : Condition → Condition → Prop
  | flagEquals (key : String) (value : Option Bool) :
      Negates (.flag key (some "notEquals") value) (.flag key (some "equals") value)
  | flagExists (key : String) (value : Option Bool) :
      Negates (.flag key (some "notExists") value) (.flag key (some "exists") value)
  | inventoryHas (itemId : String) (value : Option Number) :
      Negates (.inventory itemId (some "notHas") value) (.inventory itemId (some "has") value)
  | loreEquals (key : String) (value : Json) :
      Negates (.lore key (some "notEquals") value) (.lore key (some "equals") value)
  | loreHas (key : String) (value : Json) :
      Negates (.lore key (some "notHas") value) (.lore key (some "has") value)

end Condition

theorem operatorOr_some {operator : String} (usual : String) (h : operator ≠ "") :
    operatorOr usual (some operator) = operator := by
  simp [operatorOr, Option.filter, h]

/-! ### Flags, stats and the inventory -/

variable {s : GameState} {operator : String}

theorem flagHolds_unknown {key : String} {value : Option Bool}
    (h : (Condition.flag key (some operator) value).HasUnknown operator) :
    flagHolds s key (some operator) value = flagHolds s key (some "equals") value := by
  have hunknown := h.unknown
  simp only [Condition.vocabulary, List.mem_cons, not_or] at hunknown
  simp [flagHolds, operatorOr_some, h.nonempty, hunknown]

theorem statHolds_unknown {key : String} {value target : Number}
    (h : (Condition.stat key operator target).HasUnknown operator) :
    statHolds value operator target = false := by
  have hunknown := h.unknown
  simp only [Condition.vocabulary, List.mem_cons, not_or] at hunknown
  simp [statHolds, hunknown]

theorem inventoryHolds_unknown {itemId : String} {count : Int} {value : Option Number}
    (h : (Condition.inventory itemId (some operator) value).HasUnknown operator) :
    inventoryHolds count (some operator) value = false := by
  have hunknown := h.unknown
  simp only [Condition.vocabulary, List.mem_cons, not_or] at hunknown
  simp [inventoryHolds, operatorOr_some, h.nonempty, hunknown]

theorem flagHolds_notEquals (s : GameState) (key : String) (value : Option Bool) :
    flagHolds s key (some "notEquals") value = !flagHolds s key (some "equals") value := by
  simp [flagHolds, operatorOr_some]

theorem flagHolds_notExists (s : GameState) (key : String) (value : Option Bool) :
    flagHolds s key (some "notExists") value = !flagHolds s key (some "exists") value := by
  simp [flagHolds, operatorOr_some]

/-- **An item is there or missing** just if its count is not negative. -/
theorem inventoryHolds_notHas_iff (count : Int) (value : Option Number) :
    inventoryHolds count (some "notHas") value = (!inventoryHolds count (some "has") value) ↔
      0 ≤ count := by
  have hmissing : inventoryHolds count (some "notHas") value = decide (count = 0) := by
    simp [inventoryHolds, operatorOr_some]
  have hthere : inventoryHolds count (some "has") value = decide (0 < count) := by
    simp [inventoryHolds, operatorOr_some]
  rw [hmissing, hthere, ← decide_not, decide_eq_decide]
  omega

/-! ### Lore -/

/-- The beginnings of keys that ask about the character or what the player knows. -/
def outrightBeginnings : List String := ["race:", "faction:", "knows:"]

/-- **A lore key is answered outright**, whatever the operator. -/
def AsksOutright (key : String) : Prop :=
  ∃ beginning ∈ outrightBeginnings, (after? beginning key).isSome

theorem asksOutright_iff {key : String} : AsksOutright key ↔ (after? "race:" key).isSome ∨
    (after? "faction:" key).isSome ∨ (after? "knows:" key).isSome := by
  simp [AsksOutright, outrightBeginnings]

theorem after?_isSome {beginning text : String} :
    (after? beginning text).isSome ↔ beginning.toList <+: text.toList := by
  rw [after?, Option.isSome_map, List.isSome_isPrefixOf?_eq_isPrefixOf, List.isPrefixOf_iff_prefix]

/-- Keys that are answered outright ask for no reveal. -/
theorem after?_lore_of_asksOutright {key : String} (h : AsksOutright key) :
    after? "lore:" key = none := by
  obtain ⟨beginning, hmem, hkey⟩ := h
  -- of two beginnings of one key, one begins with the other
  have hapart : ∀ b ∈ outrightBeginnings,
      ¬ "lore:".toList <+: b.toList ∧ ¬ b.toList <+: "lore:".toList := by decide +kernel
  obtain ⟨hlonger, hshorter⟩ := hapart beginning hmem
  rw [after?_isSome] at hkey
  by_contra hlore
  rw [← ne_eq, ← Option.isSome_iff_ne_none, after?_isSome] at hlore
  rcases List.prefix_or_prefix_of_prefix hlore hkey with h | h
  · exact hlonger h
  · exact hshorter h

/-- **Keys that are answered outright** are so whatever the operator, the value and the features. -/
theorem loreHolds_of_asksOutright {key : String} (h : AsksOutright key) (s : GameState) :
    ∃ answer, ∀ reveals operator value, loreHolds reveals s key operator value = answer := by
  refine ⟨loreHolds false s key none .null, fun reveals operator value => ?_⟩
  unfold loreHolds
  rw [after?_lore_of_asksOutright h, ite_self, ite_self]
  rw [asksOutright_iff] at h
  -- what is answered outright comes before the comparison, which is not reached
  cases hrace : after? "race:" key with
  | some race => rfl
  | none =>
      cases hfaction : after? "faction:" key with
      | some faction => rfl
      | none =>
          cases hknows : after? "knows:" key with
          | some topic => rfl
          | none => simp [hrace, hfaction, hknows] at h

/-- **All other keys are compared**: what is found does not depend on the operator and the value. -/
theorem loreHolds_of_not_asksOutright {key : String} (h : ¬ AsksOutright key) (reveals : Bool)
    (s : GameState) : ∃ present found, ∀ operator value,
      loreHolds reveals s key operator value = compareLore operator present found value := by
  rw [asksOutright_iff] at h
  simp only [not_or, Option.not_isSome_iff_eq_none] at h
  obtain ⟨hrace, hfaction, hknows⟩ := h
  unfold loreHolds
  rw [hrace, hfaction, hknows]
  split
  · exact ⟨_, _, fun _ _ => rfl⟩
  · exact ⟨_, _, fun _ _ => rfl⟩

theorem compareLore_unknown {key : String} {value expected found : Json} {present : Bool}
    (h : (Condition.lore key (some operator) value).HasUnknown operator) :
    compareLore (some operator) present found expected =
      compareLore (some "equals") present found expected := by
  have hunknown := h.unknown
  simp only [Condition.vocabulary, List.mem_cons, not_or] at hunknown
  simp [compareLore, operatorOr_some, h.nonempty, hunknown]

theorem compareLore_notEquals (present : Bool) (found expected : Json) :
    compareLore (some "notEquals") present found expected =
      !compareLore (some "equals") present found expected := by
  simp [compareLore, operatorOr_some]

theorem compareLore_notHas (present : Bool) (found expected : Json) :
    compareLore (some "notHas") present found expected =
      !compareLore (some "has") present found expected := by
  simp [compareLore, operatorOr_some]

/-- An operator that is not known asks for equality. -/
theorem loreHolds_unknown {reveals : Bool} {key : String} {value : Json}
    (h : (Condition.lore key (some operator) value).HasUnknown operator) :
    loreHolds reveals s key (some operator) value =
      loreHolds reveals s key (some "equals") value := by
  by_cases hkey : AsksOutright key
  · obtain ⟨answer, hanswer⟩ := loreHolds_of_asksOutright hkey s
    rw [hanswer, hanswer]
  · obtain ⟨present, found, hcompared⟩ := loreHolds_of_not_asksOutright hkey reveals s
    rw [hcompared, hcompared, compareLore_unknown h]

/-- Operators of which one negates the other have opposite answers, just if they are regarded. -/
theorem loreHolds_negated_iff {operator operator' : Option String} {value : Json}
    (hnegated : ∀ present found expected, compareLore operator present found expected =
      !compareLore operator' present found expected) (reveals : Bool) (s : GameState)
    (key : String) : loreHolds reveals s key operator value =
      (!loreHolds reveals s key operator' value) ↔ ¬ AsksOutright key := by
  by_cases hkey : AsksOutright key
  · obtain ⟨answer, hanswer⟩ := loreHolds_of_asksOutright hkey s
    rw [hanswer, hanswer]
    exact iff_of_false (by cases answer <;> decide) fun hnot => hnot hkey
  · obtain ⟨present, found, hcompared⟩ := loreHolds_of_not_asksOutright hkey reveals s
    rw [hcompared, hcompared]
    exact iff_of_true (hnegated present found value) hkey

/-! ### All conditions -/

/-- **What keeps the answers of a pair from being opposite**: a lore key that is answered outright,
or an item whose count is negative. -/
def Condition.Lopsided (s : GameState) : Condition → Prop
  | .inventory itemId _ _ => s.character.inventory.count itemId < 0
  | .lore key _ _ => AsksOutright key
  | .flag .. | .stat .. | .expression _ | .custom .. => False

namespace Engine

variable {c c' : Condition} (p : Play)

theorem on_holds_flag (key : String) (operator : Option String) (value : Option Bool) :
    (e.holds (.flag key operator value)).on p = (.ok (flagHolds p.state key operator value), p) :=
  rfl

theorem on_holds_stat (key operator : String) (value : Number) :
    (e.holds (.stat key operator value)).on p =
      (.ok (statHolds (p.state.character.stat key) operator value), p) := rfl

theorem on_holds_inventory (itemId : String) (operator : Option String) (value : Option Number) :
    (e.holds (.inventory itemId operator value)).on p =
      (.ok (inventoryHolds (p.state.character.inventory.count itemId) operator value), p) := rfl

theorem on_holds_lore (key : String) (operator : Option String) (value : Json) :
    (e.holds (.lore key operator value)).on p =
      (.ok (loreHolds e.features.loreReveals p.state key operator value), p) := rfl

/-- **What comes of an unknown operator.**  A condition with one is answered, and leaves the play as
it is.  It holds just if it is a condition on a flag or on lore that would hold with the operator
for equality; so it never holds if it is one on a stat or on the inventory. -/
theorem unknown_operators (h : c.HasUnknown operator) :
    ∃ answer, (e.holds c).on p = (.ok answer, p) ∧
      (answer = true ↔ ∃ c' ∈ c.withEquals?, (e.holds c').on p = (.ok true, p)) := by
  cases c with
  | flag key given value =>
      obtain rfl : given = some operator := h.given
      refine ⟨_, e.on_holds_flag p _ _ _, ?_⟩
      rw [flagHolds_unknown h]
      simp [Condition.withEquals?, on_holds_flag]
  | stat key given value =>
      obtain rfl : given = operator := Option.some.inj h.given
      refine ⟨_, e.on_holds_stat p _ _ _, ?_⟩
      rw [statHolds_unknown h]
      simp [Condition.withEquals?]
  | inventory itemId given value =>
      obtain rfl : given = some operator := h.given
      refine ⟨_, e.on_holds_inventory p _ _ _, ?_⟩
      rw [inventoryHolds_unknown h]
      simp [Condition.withEquals?]
  | lore key given value =>
      obtain rfl : given = some operator := h.given
      refine ⟨_, e.on_holds_lore p _ _ _, ?_⟩
      rw [loreHolds_unknown h]
      simp [Condition.withEquals?, on_holds_lore]
  | expression text => cases h.given
  | custom type fields => cases h.given

/-- A traveller who met the keeper of the Lantern Road is asked for it by an unknown operator. -/
theorem unknown_operators_lanternRoad :
    let e := LanternRoad.engine
    let q := Operation.afterAll e [.enter "scene.gate", .act "act.talk"]
      (e.beginning LanternRoad.traveller LanternRoad.alone)
    let c : Condition := .flag "met.keeper" (some "is") none
    c.HasUnknown "is" ∧ ∃ answer, (e.holds c).on q = (.ok answer, q) ∧
      (answer = true ↔ ∃ c' ∈ c.withEquals?, (e.holds c').on q = (.ok true, q)) := by
  intro e q c
  have hunknown : c.HasUnknown "is" := ⟨rfl, by decide, by decide⟩
  exact ⟨hunknown, unknown_operators q hunknown⟩

/-- **When a negated operator negates.**  Both conditions of a pair are answered, and leave the play
as it is.  The answers are opposite unless the pair is about a lore key that is answered outright,
or about an item whose count is negative. -/
theorem negated_operators (h : c.Negates c') :
    ∃ answer answer', (e.holds c).on p = (.ok answer, p) ∧ (e.holds c').on p = (.ok answer', p) ∧
      (answer = !answer' ↔ ¬ c'.Lopsided p.state) := by
  cases h with
  | flagEquals key value =>
      exact ⟨_, _, e.on_holds_flag p _ _ _, e.on_holds_flag p _ _ _,
        iff_of_true (flagHolds_notEquals _ _ _) not_false⟩
  | flagExists key value =>
      exact ⟨_, _, e.on_holds_flag p _ _ _, e.on_holds_flag p _ _ _,
        iff_of_true (flagHolds_notExists _ _ _) not_false⟩
  | inventoryHas itemId value =>
      exact ⟨_, _, e.on_holds_inventory p _ _ _, e.on_holds_inventory p _ _ _,
        (inventoryHolds_notHas_iff _ _).trans Int.not_lt.symm⟩
  | loreEquals key value =>
      exact ⟨_, _, e.on_holds_lore p _ _ _, e.on_holds_lore p _ _ _,
        loreHolds_negated_iff compareLore_notEquals _ _ _⟩
  | loreHas key value =>
      exact ⟨_, _, e.on_holds_lore p _ _ _, e.on_holds_lore p _ _ _,
        loreHolds_negated_iff compareLore_notHas _ _ _⟩

/-- A traveller who took the lantern of the Lantern Road either has it or does not. -/
theorem negated_operators_lanternRoad :
    let e := LanternRoad.engine
    let q := Operation.afterAll e [.enter "scene.gate", .act "act.lantern"]
      (e.beginning LanternRoad.traveller LanternRoad.alone)
    let missing : Condition := .inventory "lantern" (some "notHas") none
    let there : Condition := .inventory "lantern" (some "has") none
    missing.Negates there ∧ ¬ there.Lopsided q.state ∧
      ∃ answer answer', (e.holds missing).on q = (.ok answer, q) ∧
        (e.holds there).on q = (.ok answer', q) ∧ answer = !answer' := by
  intro e q missing there
  have hnegates : missing.Negates there := .inventoryHas _ _
  have hcount : ¬ q.state.character.inventory.count "lantern" < 0 := by decide +kernel
  obtain ⟨answer, answer', h, h', hiff⟩ := negated_operators (e := e) q hnegates
  exact ⟨hnegates, hcount, answer, answer', h, h', hiff.2 hcount⟩

/-- **Items are there or missing throughout a game** that begins with an empty inventory, if the
story, the modules and what is applied from outside add at least one whenever they add the item. -/
theorem there_or_missing {itemId : String}
    (hstory : ∀ scene ∈ e.story.scenes, ∀ a ∈ scene.actions, ∀ x ∈ a.effects, x.AddsSome itemId)
    (hmodules : e.modules.Always fun answer => ∀ r, answer = .ok (some r) →
      ∀ x ∈ r.effects, x.AddsSome itemId)
    {os : List Operation} (hos : ∀ o ∈ os, ∀ x ∈ o.effects, x.AddsSome itemId)
    {character : Character} (hempty : character.inventory = []) (shared : Shared)
    (value : Option Number) :
    let q := Operation.afterAll e os (e.beginning character shared)
    ∃ there, (e.holds (.inventory itemId (some "has") value)).on q = (.ok there, q) ∧
      (e.holds (.inventory itemId (some "notHas") value)).on q = (.ok !there, q) := by
  intro q
  have hbegins : (e.beginning character shared).state.character.inventory.Positive itemId := by
    show character.inventory.Positive itemId
    rw [hempty]
    exact Inventory.positive_nil
  have hpositive : q.state.character.inventory.Positive itemId :=
    (whileSharing_positive hstory hmodules).keeps_afterAll hos _ hbegins
  refine ⟨_, e.on_holds_inventory q _ _ _, ?_⟩
  rw [on_holds_inventory, (inventoryHolds_notHas_iff _ _).2 hpositive.count_nonneg]

end Engine

/-! ### A border that is open to the wrong travellers -/

namespace Border

open LanternRoad

def lore (key operator : String) : Json :=
  typed "lore" [field "key" key, field "operator" operator]

def coin (operator : String) : Json :=
  typed "inventory" [field "key" "coin", field "operator" operator]

/-- The story of the border as a document.  Elves take the one path and others the other one, or
papers with a stamp are shown; for the toll, a coin is borrowed. -/
def document : Json :=
  entry "story.border" "Border" [field "version" "1.0.0", ("ruleModules", .arr []),
    ("world", .obj [("locations", .arr [])]),
    ("story", .obj [field "startScene" "scene.border",
      ("scenes", .arr [
        .obj [field "id" "scene.border", ("narrative", .obj [field "text" "A border."]),
          ("actions", .arr [
            action "act.stamp" "Have the papers stamped" [("effects", .arr [setFlag "stamped"])],
            action "act.borrow" "Borrow a coin" [("effects", .arr [
              typed "addItem" [("item", entry "coin" "Coin" []), ("count", .int (-1))]])],
            action "act.pay" "Pay the toll" [("condition", coin "has")],
            action "act.beg" "Beg for a coin" [("condition", coin "notHas")]]),
          ("exits", .arr [
            exit "Show the papers" "scene.road" [("condition",
              typed "flag" [field "key" "stamped", field "operator" "is"])],
            exit "Walk the path of the elves" "scene.road" [("condition", lore "race:elf" "has")],
            exit "Walk the path of the others" "scene.road"
              [("condition", lore "race:elf" "notHas")]])],
        .obj [field "id" "scene.road", ("narrative", .obj [field "text" "A road."])]])])]

theorem loads : (StoryBundle.load (.document document)).toOption.isSome = true := by
  decide +kernel

def setup : Setup := .bare ((StoryBundle.load (.document document)).toOption.get loads)

theorem built : (Engine.build setup).engine.isSome = true := by decide +kernel

/-- The engine of the border. -/
def engine : Engine := (Engine.build setup).engine.get built

/-- A traveller who is an elf. -/
def elf : Character := { traveller with raceId := some "elf" }

/-- What comes of having the papers stamped in a new game. -/
def stamped : Play := Operation.afterAll engine [.act "act.stamp"] (engine.beginning elf alone)

/-- What comes of borrowing a coin in a new game. -/
def indebted : Play := Operation.afterAll engine [.act "act.borrow"] (engine.beginning elf alone)

/-- **A border that is open to an unknown operator**, of a flag and of two kinds of lore keys. -/
theorem passes_unknown_operators :
    let papers : Condition := .flag "stamped" (some "is") none
    let path : Condition := .lore "race:elf" (some "is") .null
    let rumour : Condition := .lore "stamped" (some "is") (.bool true)
    (Engine.build setup).engine = some engine ∧ engine.Reachable elf stamped ∧
      (papers.HasUnknown "is" ∧ (engine.holds papers).on stamped = (.ok true, stamped)) ∧
      (path.HasUnknown "is" ∧ (engine.holds path).on stamped = (.ok true, stamped)) ∧
      rumour.HasUnknown "is" ∧ (engine.holds rumour).on stamped = (.ok true, stamped) := by
  intro papers path rumour
  obtain ⟨hpapers, hpath, hrumour⟩ :
      flagHolds stamped.state "stamped" (some "is") none = true ∧
      loreHolds engine.features.loreReveals stamped.state "race:elf" (some "is") .null = true ∧
      loreHolds engine.features.loreReveals stamped.state "stamped" (some "is") (.bool true) =
        true := by decide +kernel
  refine ⟨(Option.some_get built).symm, .afterAll (.beginning alone) _,
    ⟨⟨rfl, by decide, by decide⟩, ?_⟩, ⟨⟨rfl, by decide, by decide⟩, ?_⟩,
    ⟨rfl, by decide, by decide⟩, ?_⟩
  · rw [Engine.on_holds_flag, hpapers]
  · rw [Engine.on_holds_lore, hpath]
  · rw [Engine.on_holds_lore, hrumour]

/-- **A border that answers alike** when it asks for the opposite: an elf may walk either path, and
one who owes a coin may neither pay nor beg. -/
theorem answers_alike :
    (Engine.build setup).engine = some engine ∧ engine.Reachable elf indebted ∧
      (engine.holds (.lore "race:elf" (some "notHas") .null)).on indebted = (.ok true, indebted) ∧
      (engine.holds (.lore "race:elf" (some "has") .null)).on indebted = (.ok true, indebted) ∧
      (engine.holds (.inventory "coin" (some "notHas") none)).on indebted =
        (.ok false, indebted) ∧
      (engine.holds (.inventory "coin" (some "has") none)).on indebted = (.ok false, indebted) := by
  obtain ⟨hothers, helves, hcount⟩ :
      loreHolds engine.features.loreReveals indebted.state "race:elf" (some "notHas") .null = true ∧
      loreHolds engine.features.loreReveals indebted.state "race:elf" (some "has") .null = true ∧
      indebted.state.character.inventory.count "coin" = -1 := by decide +kernel
  refine ⟨(Option.some_get built).symm, .afterAll (.beginning alone) _, ?_, ?_, ?_, ?_⟩
  · rw [Engine.on_holds_lore, hothers]
  · rw [Engine.on_holds_lore, helves]
  · rw [Engine.on_holds_inventory, hcount]
    rfl
  · rw [Engine.on_holds_inventory, hcount]
    rfl

end Border

end Storyworld
