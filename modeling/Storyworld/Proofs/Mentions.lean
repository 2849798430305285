/-
**What an expression mentions, and that nothing else matters to it.**

An identifier names an entry of a state: a flag, a stat, a variable or a reputation.  The identifiers
of an expression are known before it is evaluated, but the items that it asks for are not, because
the argument of a call may be computed.  So two states that agree on the entries which an expression
mentions, and on the counts of all items, are the same to it: evaluation takes the same way through
the expression, meets the same values, and ends in the same answer or for want of the same.

Lists and tables are compared as objects.  So the two states must also agree on which of the
variables hold one and the same object; what the objects are called does not matter.

Main definitions:

* `Storyworld.Expression.Entry` — what an identifier can name;
* `Storyworld.Expression.Expr.identifiers` — **what an expression mentions**;
* `Storyworld.Expression.Agree` — two scopes agree on what is mentioned;
* `Storyworld.Expression.Alike` — two values are the same but for the name of the object;
* `Storyworld.Expression.Matches` — two outcomes of evaluation.

Main results:

* `Storyworld.Expression.resolve_alike`, `Storyworld.Expression.call_alike` — an identifier and a
  call;
* `Storyworld.Expression.eval_alike` — an expression, at any depth;
* `Storyworld.Expression.evaluate_sees_only_mentioned` — **only what is mentioned matters**;
* `Storyworld.Expression.evaluate_sees_objects` — values alone are not enough.
-/

import Mathlib.Data.List.Forall2
import Storyworld.Game.NewGame
import Storyworld.Proofs.Checked
import Storyworld.Proofs.Evaluation

set_option relaxedAutoImplicit false
set_option autoImplicit false

namespace Storyworld.Expression

/-! ### Entries -/

/-- An entry of a state that an identifier can name. -/
inductive Entry where
  | flag (key : String)
  | stat (key : String)
  | var (key : String)
  | reputation (key : String)

/-- The identifier that names an entry: a namespace, a point and the key. -/
def Entry.name : Entry → String
  | flag key => "flag." ++ key
  | stat key => "stat." ++ key
  | var key => "var." ++ key
  | reputation key => "rep." ++ key

/-- The value of an entry, where an entry that is not there has the value that stands for it. -/
def Scope.value (scope : Scope) : Entry → Json
  | .flag key => scope.flag key
  | .stat key => scope.stat key
  | .var key => scope.var key
  | .reputation key => scope.reputation key

/-- No identifier names two entries. -/
theorem Entry.name_injective {entry entry' : Entry} (h : entry.name = entry'.name) :
    entry = entry' := by
  rw [← String.toList_inj] at h
  cases entry <;> cases entry' <;> simp_all [name, String.toList_inj]

mutual

/-- **The identifiers of an expression.**  The name of a call is none. -/
def Expr.identifiers : Expr → List String
  | .number _ | .string _ | .boolean _ => []
  | .identifier name => [name]
  | .call _ args => identifiersAll args
  | .not e => e.identifiers
  | .binary _ left right => left.identifiers ++ right.identifiers

def identifiersAll : List Expr → List String
  | [] => []
  | e :: es => e.identifiers ++ identifiersAll es

end

/-- **Two scopes agree** on the entries with some names, on which of the variables among them hold
one and the same list or table, and on the counts of all items. -/
structure Agree (names : List String) (scope scope' : Scope) : Prop where
  value : ∀ entry : Entry, entry.name ∈ names → scope.value entry = scope'.value entry
  object : ∀ key key', (Entry.var key).name ∈ names → (Entry.var key').name ∈ names →
    (scope.var key).isCompound = true → (scope.var key').isCompound = true →
      (scope.object key = scope.object key' ↔ scope'.object key = scope'.object key')
  itemCount : ∀ itemId, scope.itemCount itemId = scope'.itemCount itemId

section Agreement

variable {scope scope' : Scope} {names : List String}

/-- It is enough to compare the entries that are named. -/
theorem agree_of_entries {entries : List Entry}
    (hvalue : ∀ entry ∈ entries, scope.value entry = scope'.value entry)
    (hobject : ∀ key key', .var key ∈ entries → .var key' ∈ entries →
      (scope.object key = scope.object key' ↔ scope'.object key = scope'.object key'))
    (hcount : ∀ itemId, scope.itemCount itemId = scope'.itemCount itemId) :
    Agree (entries.map Entry.name) scope scope' := by
  have hmem {entry : Entry} (h : entry.name ∈ entries.map Entry.name) : entry ∈ entries := by
    obtain ⟨entry', hmem, hname⟩ := List.mem_map.1 h
    exact Entry.name_injective hname ▸ hmem
  exact ⟨fun entry h => hvalue entry (hmem h),
    fun key key' h h' _ _ => hobject key key' (hmem h) (hmem h'), hcount⟩

theorem identifiers_subset {e : Expr} {es : List Expr} (he : e ∈ es) :
    e.identifiers ⊆ identifiersAll es := by
  induction es with
  | nil => cases he
  | cons e' es ih =>
      intro name hname
      rw [identifiersAll, List.mem_append]
      rcases List.mem_cons.1 he with rfl | he
      · exact .inl hname
      · exact .inr (ih he hname)

/-! ### Identifiers and calls -/

/-- What stands behind a namespace and its point is the key. -/
theorem keyIn?_eq_some {space : String} {name key : List Char} :
    keyIn? space name = some key ↔ name = space.toList ++ '.' :: key := by
  unfold keyIn?
  dsimp only
  rw [Option.ite_none_right_eq_some, List.isPrefixOf_iff_prefix, Option.some.injEq]
  constructor
  · rintro ⟨⟨rest, rfl⟩, rfl⟩
    rw [List.drop_left, List.append_assoc, List.singleton_append]
  · rintro rfl
    have happend : space.toList ++ '.' :: key = (space.toList ++ ['.']) ++ key := by simp
    rw [happend, List.drop_left]
    exact ⟨List.prefix_append _ _, rfl⟩

theorem eq_of_keyIn? {space name key : String}
    (h : (keyIn? space name.toList).map String.ofList = some key) : name = space ++ "." ++ key := by
  obtain ⟨cs, hcs, rfl⟩ := Option.map_eq_some_iff.1 h
  rw [← String.toList_inj, keyIn?_eq_some.1 hcs]
  simp

/-- **Two values are alike**: they are the same document, and if it is a list or a table that a
variable holds, they are the objects that this variable holds in the one scope and in the other. -/
inductive Alike (names : List String) (scope scope' : Scope) : Value → Value → Prop
  | computed (j : Json) : Alike names scope scope' (.computed j) (.computed j)
  | held {key : String} (hkey : (Entry.var key).name ∈ names)
      (hcompound : (scope.var key).isCompound = true) :
      Alike names scope scope' ⟨scope.var key, some (scope.object key)⟩
        ⟨scope.var key, some (scope'.object key)⟩

variable {v v' w w' : Value}

theorem Alike.json_eq (h : Alike names scope scope' v v') : v.json = v'.json := by
  cases h <;> rfl

theorem Alike.refl_of_object (hv : v.object = none) : Alike names scope scope' v v := by
  obtain ⟨j, object⟩ := v
  cases hv
  exact .computed j

/-- **Equality does not tell apart what is alike.** -/
theorem equals_alike (h : Agree names scope scope') (hv : Alike names scope scope' v v')
    (hw : Alike names scope scope' w w') : v.equals w = v'.equals w' := by
  cases hv with
  | computed j => cases hw <;> rfl
  | held hkey hcompound =>
      cases hw with
      | computed j => rfl
      | held hkey' hcompound' =>
          simp only [Value.equals]
          rw [Bool.eq_iff_iff, beq_iff_eq, beq_iff_eq]
          exact h.object _ _ hkey hkey' hcompound hcompound'

/-- What a variable holds. -/
theorem held_alike (h : Agree names scope scope') {key : String}
    (hkey : (Entry.var key).name ∈ names) :
    Alike names scope scope' (scope.held key) (scope'.held key) := by
  have hvalue : scope.var key = scope'.var key := h.value (.var key) hkey
  unfold Scope.held
  rw [← hvalue]
  split
  · next hcompound => exact .held hkey hcompound
  · exact .computed _

/-- **The value of an identifier.** -/
theorem resolve_alike (h : Agree names scope scope') {name : String} (hname : name ∈ names) :
    Alike names scope scope' (scope.resolve name) (scope'.resolve name) := by
  have hcomputed (entry : Entry) (heq : name = entry.name) :
      Alike names scope scope' (.computed (scope.value entry))
        (.computed (scope'.value entry)) := by
    rw [h.value entry (heq ▸ hname)]
    exact .computed _
  unfold Scope.resolve
  dsimp only
  split
  · next key hkey => exact hcomputed (.flag key) (eq_of_keyIn? hkey)
  · split
    · next key hkey => exact hcomputed (.stat key) (eq_of_keyIn? hkey)
    · split
      · next key hkey =>
        have heq : name = (Entry.var key).name := eq_of_keyIn? hkey
        exact held_alike h (heq ▸ hname)
      · split
        · next key hkey => exact hcomputed (.reputation key) (eq_of_keyIn? hkey)
        · exact .computed .null

/-- The value of a call is computed. -/
theorem object_call (scope : Scope) (name : String) (args : List Value) :
    (scope.call name args).object = none := by
  unfold Scope.call
  dsimp only
  split
  · rfl
  · split <;> rfl

/-- **The value of a call**, whatever item it asks for. -/
theorem call_alike (h : Agree names scope scope') (name : String) {args args' : List Value}
    (hargs : List.Forall₂ (Alike names scope scope') args args') :
    Alike names scope scope' (scope.call name args) (scope'.call name args') := by
  have hcall : scope.call name args = scope'.call name args' := by
    unfold Scope.call
    cases hargs with
    | nil => simp only [h.itemCount]
    | cons hv _ => simp only [h.itemCount, hv.json_eq]
  rw [← hcall]
  exact .refl_of_object (object_call scope name args)

/-! ### Expressions -/

/-- **Two outcomes of evaluation**: results that are related, or one fault. -/
inductive Matches {α : Type} (R : α → α → Prop) :
    Except EvalFault α → Except EvalFault α → Prop
  | ok {a a' : α} (h : R a a') : Matches R (.ok a) (.ok a')
  | error (f : EvalFault) : Matches R (.error f) (.error f)

theorem Matches.bind {α β : Type} {R : α → α → Prop} {S : β → β → Prop}
    {r r' : Except EvalFault α} {k k' : α → Except EvalFault β} (h : Matches R r r')
    (hk : ∀ a a', R a a' → Matches S (k a) (k' a')) : Matches S (r >>= k) (r' >>= k') := by
  cases h with
  | ok h => exact hk _ _ h
  | error f => exact .error f

theorem ofBool_alike {b b' : Bool} (h : b = b') :
    Matches (Alike names scope scope') (.ok (.ofBool b)) (.ok (.ofBool b')) := by
  rw [h]
  exact .ok (.computed _)

/-- An operator does not tell apart what is alike. -/
theorem apply_alike (h : Agree names scope scope') (op : Operator)
    (hv : Alike names scope scope' v v') (hw : Alike names scope scope' w w') :
    Matches (Alike names scope scope') (apply op v w) (apply op v' w') := by
  have hnumbers (holds : Double → Double → Bool) :
      Matches (Alike names scope scope') (compareNumbers v w holds)
        (compareNumbers v' w' holds) := by
    unfold compareNumbers
    rw [← hv.json_eq, ← hw.json_eq]
    split
    · exact .error _
    · split
      · exact .error _
      · exact ofBool_alike rfl
  cases op with
  | equal => exact ofBool_alike (equals_alike h hv hw)
  | notEqual => exact ofBool_alike (congrArg _ (equals_alike h hv hw))
  | or | and => exact ofBool_alike (by rw [hv.json_eq, hw.json_eq])
  | less | lessEqual | greater | greaterEqual => exact hnumbers _

/-- The values of the arguments of a call, if each of them is alike. -/
theorem evalAll_alike {depth : Nat} {es : List Expr}
    (h : ∀ e ∈ es, Matches (Alike names scope scope') (eval scope depth e) (eval scope' depth e)) :
    Matches (List.Forall₂ (Alike names scope scope')) (evalAll scope depth es)
      (evalAll scope' depth es) := by
  induction es with
  | nil => exact .ok .nil
  | cons e es ih =>
      obtain ⟨he, hes⟩ := List.forall_mem_cons.1 h
      rw [evalAll, evalAll]
      exact he.bind fun _ _ hv => (ih hes).bind fun _ _ hvs => .ok (.cons hv hvs)

/-- **The value of an expression**, or why it has none, at any depth. -/
theorem eval_alike (h : Agree names scope scope') {t : Expr} (ht : t.identifiers ⊆ names)
    (depth : Nat) :
    Matches (Alike names scope scope') (eval scope depth t) (eval scope' depth t) := by
  induction depth generalizing t with
  | zero =>
      rw [eval_zero, eval_zero]
      exact .error _
  | succ depth ih =>
      cases t with
      | number | string | boolean => exact .ok (.computed _)
      | identifier name => exact .ok (resolve_alike h (ht List.mem_cons_self))
      | call name args =>
          have hargs := evalAll_alike fun e he =>
            ih (List.Subset.trans (identifiers_subset he) ht)
          rw [eval_call, eval_call]
          exact hargs.bind fun _ _ hvs => .ok (call_alike h name hvs)
      | not e =>
          have he : e.identifiers ⊆ names := ht
          rw [eval_not, eval_not]
          exact (ih he).bind fun _ _ hv => ofBool_alike (by rw [hv.json_eq])
      | binary op left right =>
          rw [eval_binary, eval_binary]
          have hleft := ih (List.Subset.trans (List.subset_append_left _ _) ht)
          have hright := ih (List.Subset.trans (List.subset_append_right _ _) ht)
          refine hleft.bind fun v v' hv => ?_
          -- both sides take the same way, because the left value decides for both or for neither
          have hdecided : op.decidedBy v = op.decidedBy v' := by
            unfold Operator.decidedBy
            rw [hv.json_eq]
          rw [hdecided]
          split
          · exact ofBool_alike rfl
          · exact hright.bind fun _ _ hw => apply_alike h op hv hw

end Agreement

/-- **Only what an expression mentions matters to it.**  Two states that agree on the entries which
an expression mentions, on which of these are one object, and on the counts of all items, have the
same outcome, whatever else is in them. -/
theorem evaluate_sees_only_mentioned {s s' : GameState} {objects objects' : String → String}
    {text : String} {t : Expr} (hparse : parse text = .ok t)
    (hagree : Agree t.identifiers (s.scopeWith objects) (s'.scopeWith objects')) :
    evaluate (s.scopeWith objects) text = evaluate (s'.scopeWith objects') text := by
  have heval := eval_alike hagree (List.Subset.refl _) maxEvalDepth
  unfold evaluate evaluateRaw
  rw [hparse]
  dsimp only
  generalize eval (s.scopeWith objects) maxEvalDepth t = r,
    eval (s'.scopeWith objects') maxEvalDepth t = r' at heval
  cases heval with
  | ok hv =>
      dsimp only
      rw [hv.json_eq]
  | error f => rfl

/-- A traveller on the Lantern Road, and one whom Mara has joined in the hills, are asked for an item
that a variable names. -/
theorem evaluate_sees_only_mentioned_lanternRoad :
    let s := LanternRoad.engine.fresh LanternRoad.traveller
    let s' := { s with
      flags := [("mara.joined", true)]
      currentLocationId := some "loc.hills" }
    let t := Expr.binary .or (.identifier "flag.met.keeper")
      (.not (.call "hasItem" [.identifier "var.wanted"]))
    parse "flag.met.keeper || !hasItem(var.wanted)" = .ok t ∧ Agree t.identifiers s.scope s'.scope ∧
      s.scope.flag "mara.joined" ≠ s'.scope.flag "mara.joined" ∧
      evaluate s.scope "flag.met.keeper || !hasItem(var.wanted)" =
        evaluate s'.scope "flag.met.keeper || !hasItem(var.wanted)" := by
  intro s s' t
  have hparse : parse "flag.met.keeper || !hasItem(var.wanted)" = .ok t := rfl
  have hvalue : ∀ entry ∈ [Entry.flag "met.keeper", .var "wanted"],
      s.scope.value entry = s'.scope.value entry := by
    intro entry hentry
    simp only [List.mem_cons, List.not_mem_nil, or_false] at hentry
    rcases hentry with rfl | rfl <;> rfl
  have hagree : Agree t.identifiers s.scope s'.scope :=
    agree_of_entries hvalue (fun _ _ _ _ => Iff.rfl) fun _ => rfl
  have hother : s.scope.flag "mara.joined" ≠ s'.scope.flag "mara.joined" := by
    intro h
    cases h
  exact ⟨hparse, hagree, hother, evaluate_sees_only_mentioned hparse hagree⟩

/-- **Values alone are not enough**: where two variables hold equal lists, it matters to an
expression whether they hold one list, or two. -/
theorem evaluate_sees_objects :
    let s := { LanternRoad.engine.fresh LanternRoad.traveller with
      vars := [("a", .arr [.int 1]), ("b", .arr [.int 1])] }
    let one := s.scopeWith fun _ => "a"
    let two := s.scopeWith id
    (∀ entry, one.value entry = two.value entry) ∧
      (∀ itemId, one.itemCount itemId = two.itemCount itemId) ∧
      evaluate one "var.a == var.b" = .ok (.answer true) ∧
      evaluate two "var.a == var.b" = .ok (.answer false) := by
  intro s one two
  refine ⟨fun entry => ?_, fun _ => rfl, by rfl, by rfl⟩
  cases entry <;> rfl

end Storyworld.Expression
