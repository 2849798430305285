/-
**Reading documents that were written.**

The reader gives back every document that was written in the indented form, but for two things: a
floating-point number may come back as another value, and of a name that is repeated in a table only
one is kept.  A document that holds neither, and no integer with too many digits, is read as it was
written, unless its lists and tables stand too deep inside one another.  Where a floating-point
number is not read to its end, no list or table goes on behind it, so nothing is ever read in another
place than that in which it was written.

Main definitions:

* `Storyworld.Json.Plain` — the documents that are read as they were written;
* `Storyworld.Json.PlainWithin` — those of them that are not too deep;
* `Storyworld.Json.Reread` — **what a document can be read as when it was written**;
* `Storyworld.Json.Comes` — what comes of reading what was written.

Main results:

* `Storyworld.Json.comes_value` — **any document, at any depth**;
* `Storyworld.Json.reread_of_read` — **what is read of what was written**;
* `Storyworld.Json.read_pretty` — **reading undoes writing**, for plain documents that are not too
  deep.
-/

import Storyworld.Proofs.Tokens

set_option relaxedAutoImplicit false
set_option autoImplicit false

namespace Storyworld.Json

open Reader

/-! ### Documents -/

/-- **A document that is read as it was written**: it holds no floating-point number, no integer
with more digits than are read, and no table in which a name is repeated. -/
inductive Plain : Json → Prop
  | null : Plain null
  | bool (b : Bool) : Plain (bool b)
  | int {n : Int} (hn : n.natAbs < Nat.pow 10 maxDigits) : Plain (int n)
  | str (s : String) : Plain (str s)
  | arr {items : List Json} (h : ∀ v ∈ items, Plain v) : Plain (arr items)
  | obj {fields : List (String × Json)} (hkeys : (fields.map Prod.fst).Nodup)
      (h : ∀ f ∈ fields, Plain f.2) : Plain (obj fields)

mutual

/-- **What a document can be read as when it was written**: a floating-point number may be read as
anything, and of a name that is repeated in a table only one is kept. -/
inductive Reread : Json → Json → Prop
  | null : Reread null null
  | bool (b : Bool) : Reread (bool b) (bool b)
  | int (n : Int) : Reread (int n) (int n)
  | float (x : Double) (j : Json) : Reread (float x) j
  | str (s : String) : Reread (str s) (str s)
  | arr {vs ws : List Json} (h : RereadItems vs ws) : Reread (arr vs) (arr ws)
  | obj {fs gs : List (String × Json)} (h : RereadFields fs gs) :
      Reread (obj fs) (obj (Table.ofPairs gs))

inductive RereadItems : List Json → List Json → Prop
  | nil : RereadItems [] []
  | cons {v w : Json} {vs ws : List Json} (hv : Reread v w) (h : RereadItems vs ws) :
      RereadItems (v :: vs) (w :: ws)

inductive RereadFields : List (String × Json) → List (String × Json) → Prop
  | nil : RereadFields [] []
  | cons {k : String} {v w : Json} {fs gs : List (String × Json)} (hv : Reread v w)
      (h : RereadFields fs gs) : RereadFields ((k, v) :: fs) ((k, w) :: gs)

end

/-- Induction over a document, where a list or a table comes with the claim for each of its
parts. -/
@[elab_as_elim]
theorem induct {P : Json → Prop} (null : P null) (bool : ∀ b, P (bool b)) (int : ∀ n, P (int n))
    (float : ∀ x, P (float x)) (str : ∀ s, P (str s)) (arr : ∀ vs, (∀ v ∈ vs, P v) → P (arr vs))
    (obj : ∀ fs, (∀ f ∈ fs, P f.2) → P (obj fs)) (j : Json) : P j :=
  @Json.rec P (fun vs => ∀ v ∈ vs, P v) (fun fs => ∀ f ∈ fs, P f.2) (fun f => P f.2) null bool int
    float str arr obj (by simp) (fun _ _ hv hvs => List.forall_mem_cons.2 ⟨hv, hvs⟩) (by simp)
    (fun _ _ hf hfs => List.forall_mem_cons.2 ⟨hf, hfs⟩) (fun _ _ hv => hv) j

theorem nestingItems_le {vs : List Json} {n : Nat} :
    nestingItems vs ≤ n ↔ ∀ v ∈ vs, v.nesting ≤ n := by
  induction vs with
  | nil => simp [nestingItems]
  | cons v vs ih => rw [nestingItems, Nat.max_le, ih, List.forall_mem_cons]

theorem nestingFields_le {fs : List (String × Json)} {n : Nat} :
    nestingFields fs ≤ n ↔ ∀ f ∈ fs, f.2.nesting ≤ n := by
  induction fs with
  | nil => simp [nestingFields]
  | cons f fs ih => rw [nestingFields, Nat.max_le, ih, List.forall_mem_cons]

/-- A name that is new goes to the end of a table. -/
theorem put_of_not_mem {t : Table Json} {k : String} (hk : k ∉ t.map Prod.fst) (v : Json) :
    Table.put t k v = t ++ [(k, v)] := by
  induction t with
  | nil => rfl
  | cons e t ih =>
      obtain ⟨l, w⟩ := e
      rw [List.map_cons, List.mem_cons, not_or] at hk
      rw [Table.put, if_neg (Ne.symm hk.1), ih hk.2, List.cons_append]

/-- **A row of pairs in which no name is repeated is a table as it stands.** -/
theorem ofPairs_of_nodup {ps : List (String × Json)} (h : (ps.map Prod.fst).Nodup) :
    Table.ofPairs ps = ps := by
  have hfold : ∀ (t ps : List (String × Json)), ((t ++ ps).map Prod.fst).Nodup →
      ps.foldl (fun t p => Table.put t p.1 p.2) t = t ++ ps := by
    intro t ps
    -- the table so far stays in front of the pairs that are still to come
    induction ps generalizing t with
    | nil =>
        intro _
        rw [List.append_nil]
        rfl
    | cons p ps ih =>
        intro hnodup
        have hp : p.1 ∉ t.map Prod.fst := by
          rw [List.map_append, List.map_cons] at hnodup
          intro hmem
          exact (List.nodup_append.1 hnodup).2.2 _ hmem _ List.mem_cons_self rfl
        rw [List.foldl_cons, put_of_not_mem hp, ih _ (by rwa [List.append_assoc]),
          List.append_assoc]
        rfl
  exact hfold [] ps h

theorem RereadFields.names {fs gs : List (String × Json)} (h : RereadFields fs gs) :
    gs.map Prod.fst = fs.map Prod.fst := by
  induction fs generalizing gs with
  | nil =>
      cases h
      rfl
  | cons f fs ih =>
      cases h with
      | cons _ h => rw [List.map_cons, List.map_cons, ih h]

theorem RereadFields.get? {fs gs : List (String × Json)} (h : RereadFields fs gs) {k : String}
    {v : Json} (hv : Table.get? fs k = some v) : ∃ w, Table.get? gs k = some w ∧ Reread v w := by
  induction fs generalizing gs with
  | nil => cases hv
  | cons f fs ih =>
      cases h with
      | @cons l u w _ gs hu h =>
          rw [Table.get?] at hv
          rw [Table.get?]
          split at hv
          · next hl =>
            cases hv
            exact ⟨w, if_pos hl, hu⟩
          · next hl =>
            rw [if_neg hl]
            exact ih h hv

/-- **A field is read as what was written of it**, where no name is repeated. -/
theorem Reread.field? {fs : List (String × Json)} (hn : (fs.map Prod.fst).Nodup) {j : Json}
    (h : Reread (.obj fs) j) {k : String} {v : Json} (hv : (Json.obj fs).field? k = some v) :
    ∃ w, j.field? k = some w ∧ Reread v w := by
  cases h with
  | @obj _ gs h =>
      rw [ofPairs_of_nodup (h.names ▸ hn)]
      exact h.get? hv

/-- **A plain document is read as it was written.** -/
theorem Reread.eq_of_plain {j j' : Json} (hj : Plain j) (h : Reread j j') : j' = j := by
  induction hj generalizing j' with
  | null => cases h; rfl
  | bool b => cases h; rfl
  | int hn => cases h; rfl
  | str s => cases h; rfl
  | @arr vs hvs ih =>
      cases h with
      | arr h => rw [items ih h]
  | @obj fs hkeys hfs ih =>
      cases h with
      | obj h =>
          rw [fields ih h, ofPairs_of_nodup hkeys]
where
  items {vs ws : List Json} (ih : ∀ v ∈ vs, ∀ {w}, Reread v w → w = v)
      (h : RereadItems vs ws) : ws = vs := by
    induction vs generalizing ws with
    | nil => cases h; rfl
    | cons v vs hvs =>
        cases h with
        | cons hv h =>
            rw [ih v List.mem_cons_self hv, hvs (fun w hw => ih w (List.mem_cons_of_mem v hw)) h]
  fields {fs gs : List (String × Json)} (ih : ∀ f ∈ fs, ∀ {w}, Reread f.2 w → w = f.2)
      (h : RereadFields fs gs) : gs = fs := by
    induction fs generalizing gs with
    | nil => cases h; rfl
    | cons f fs hfs =>
        cases h with
        | @cons k v w _ _ hv h =>
            rw [ih (k, v) List.mem_cons_self hv,
              hfs (fun g hg => ih g (List.mem_cons_of_mem (k, v) hg)) h]

/-! ### What comes of reading -/

/-- **What comes of reading what was written**: a document with the rest of the text behind it, or
else, if the document was not plain, a stop or a place at which reading is stuck. -/
def Comes (plain : Prop) (A : Json → Prop) (rest : List Char)
    (r : Except Stop (Json × List Char)) : Prop :=
  (∃ j, r = .ok (j, rest) ∧ A j) ∨ (¬ plain ∧ ∀ j rest', r = .ok (j, rest') → Stuck rest')

theorem comes_ok {plain : Prop} {A : Json → Prop} {rest : List Char} {j : Json} (h : A j) :
    Comes plain A rest (.ok (j, rest)) := .inl ⟨j, rfl, h⟩

theorem comes_error {plain : Prop} {A : Json → Prop} {rest : List Char} (h : ¬ plain)
    (stop : Stop) : Comes plain A rest (.error stop) := .inr ⟨h, nofun⟩

theorem Comes.mono {plain plain' : Prop} {A B : Json → Prop} {rest : List Char}
    {r : Except Stop (Json × List Char)} (h : Comes plain A rest r) (hplain : plain' → plain)
    (hAB : ∀ j, A j → B j) : Comes plain' B rest r := by
  rcases h with ⟨j, hr, hj⟩ | ⟨hno, hr⟩
  · exact .inl ⟨j, hr, hAB j hj⟩
  · exact .inr ⟨fun h => hno (hplain h), hr⟩

/-- The head of what was written of a document is neither skipped nor does it close a list or a
table, and it is no byte order mark. -/
def Heading (cs : List Char) : Prop :=
  ∃ c rest, cs = c :: rest ∧ isSpace c = false ∧ c ≠ ']' ∧ c ≠ '\x7d' ∧ c ≠ '\ufeff'

theorem Heading.append {cs : List Char} (h : Heading cs) (rest : List Char) :
    Heading (cs ++ rest) := by
  obtain ⟨c, cs, rfl, hc⟩ := h
  exact ⟨c, cs ++ rest, rfl, hc⟩

theorem heading_token {cs : List Char} (h : Token cs) : Heading cs := by
  obtain ⟨hne, hnumeric⟩ := h
  obtain ⟨c, cs, rfl⟩ := List.exists_cons_of_ne_nil hne
  have hc : isNumeric c = true := hnumeric c List.mem_cons_self
  exact ⟨c, cs, rfl, isSpace_of_isNumeric hc, ne_of_isNumeric hc rfl, ne_of_isNumeric hc rfl,
    ne_of_isNumeric hc rfl⟩

theorem heading_quoteChars (s : String) : Heading (quoteChars s) := ⟨'"', _, rfl, rfl, by decide⟩

/-- What was written of a list or a table begins with its bracket. -/
theorem exists_prettyChars_arr (level : Nat) (vs : List Json) :
    ∃ inner, prettyChars level (arr vs) = '[' :: inner := by
  cases vs with
  | nil => exact ⟨_, by rw [prettyChars]⟩
  | cons v vs => exact ⟨_, by rw [prettyChars]; rfl⟩

theorem exists_prettyChars_obj (level : Nat) (fs : List (String × Json)) :
    ∃ inner, prettyChars level (obj fs) = '\x7b' :: inner := by
  cases fs with
  | nil => exact ⟨_, by rw [prettyChars]⟩
  | cons f fs => exact ⟨_, by rw [prettyChars]; rfl⟩

theorem heading_prettyChars (j : Json) (level : Nat) : Heading (prettyChars level j) := by
  cases j with
  | null => exact ⟨'n', _, rfl, rfl, by decide⟩
  | bool b =>
      cases b with
      | false => exact ⟨'f', _, rfl, rfl, by decide⟩
      | true => exact ⟨'t', _, rfl, rfl, by decide⟩
  | int n =>
      rw [prettyChars]
      exact heading_token (token_integerChars n)
  | float x =>
      rw [prettyChars]
      rcases render_cases x with h | h
      · exact ⟨'n', _, h, rfl, by decide⟩
      · exact heading_token h
  | str s =>
      rw [prettyChars]
      exact heading_quoteChars s
  | arr items =>
      obtain ⟨inner, hinner⟩ := exists_prettyChars_arr level items
      exact ⟨'[', inner, hinner, rfl, by decide⟩
  | obj fields =>
      obtain ⟨inner, hinner⟩ := exists_prettyChars_obj level fields
      exact ⟨'\x7b', inner, hinner, rfl, by decide⟩

theorem skip_of_head {c : Char} (hc : isSpace c = false) (cs : List Char) :
    skip (c :: cs) = c :: cs := by
  rw [skip, List.dropWhile_cons, hc, if_neg Bool.false_ne_true]

/-- The line end and the indentation before what was written are skipped. -/
theorem skip_newline (level : Nat) {c : Char} (hc : isSpace c = false) (cs : List Char) :
    skip (newline level ++ c :: cs) = c :: cs := by
  have hall : ∀ d ∈ newline level, isSpace d = true := by
    intro d hd
    rcases List.mem_cons.1 hd with rfl | hd
    · rfl
    · rw [List.eq_of_mem_replicate hd]
      rfl
  rw [skip, List.dropWhile_append_of_pos hall]
  exact skip_of_head hc cs

theorem Heading.skip_newline {cs : List Char} (h : Heading cs) (level : Nat) (rest : List Char) :
    skip (newline level ++ (cs ++ rest)) = cs ++ rest := by
  obtain ⟨c, cs, rfl, hc, -⟩ := h
  exact Json.skip_newline level hc _

theorem Heading.skip_space {cs : List Char} (h : Heading cs) (rest : List Char) :
    skip (' ' :: (cs ++ rest)) = cs ++ rest := by
  obtain ⟨c, cs, rfl, hc, -⟩ := h
  have hspace : skip (' ' :: (c :: cs ++ rest)) = skip (c :: cs ++ rest) := rfl
  rw [hspace]
  exact skip_of_head hc _

theorem closing_cons {c : Char} (hc : c = ',' ∨ c = '\n') (cs : List Char) : Closing (c :: cs) := by
  intro d hd
  cases hd
  exact hc

theorem closing_nil : Closing [] := fun _ h => nomatch h

/-- What stands behind an item or a field: the further ones, and the bracket. -/
theorem closing_behind {more : List Char} (hmore : Closing more) (level : Nat) (rest : List Char) :
    Closing (more ++ (newline level ++ rest)) := by
  cases more with
  | nil => exact closing_cons (.inr rfl) _
  | cons c cs => exact closing_cons (hmore c rfl) _

theorem closing_prettyItems (level : Nat) (vs : List Json) : Closing (prettyItems level vs) := by
  cases vs with
  | nil => exact closing_nil
  | cons v vs => exact closing_cons (.inl rfl) _

theorem closing_prettyFields (level : Nat) (fs : List (String × Json)) :
    Closing (prettyFields level fs) := by
  cases fs with
  | nil => exact closing_nil
  | cons f fs => exact closing_cons (.inl rfl) _

/-- A document that is read as it was written where so many lists and tables may stand inside one
another. -/
def PlainWithin (depth : Nat) (j : Json) : Prop := Plain j ∧ j.nesting ≤ depth

theorem PlainWithin.item {depth : Nat} {vs : List Json} (h : PlainWithin (depth + 1) (arr vs)) :
    ∀ v ∈ vs, PlainWithin depth v := by
  obtain ⟨hplain, hnesting⟩ := h
  have hinner := nestingItems_le.1 (Nat.le_of_succ_le_succ hnesting)
  cases hplain with
  | arr hplain => exact fun v hv => ⟨hplain v hv, hinner v hv⟩

theorem PlainWithin.member {depth : Nat} {fs : List (String × Json)}
    (h : PlainWithin (depth + 1) (obj fs)) : ∀ f ∈ fs, PlainWithin depth f.2 := by
  obtain ⟨hplain, hnesting⟩ := h
  have hinner := nestingFields_le.1 (Nat.le_of_succ_le_succ hnesting)
  cases hplain with
  | obj _ hplain => exact fun f hf => ⟨hplain f hf, hinner f hf⟩

/-- What comes of reading a document from what was written of it, at any level of indentation and
any depth, if there is enough fuel and the text goes on as it does behind a value. -/
def ReadsBack (j : Json) : Prop :=
  ∀ (level fuel depth : Nat) (rest : List Char), Closing rest →
    2 * (prettyChars level j).length ≤ fuel + 1 →
    Comes (PlainWithin depth j) (Reread j) rest (value fuel depth (prettyChars level j ++ rest))

/-- What was written is not empty. -/
theorem length_prettyChars_pos (level : Nat) (j : Json) : 0 < (prettyChars level j).length := by
  obtain ⟨c, cs, hcs, -⟩ := heading_prettyChars j level
  rw [hcs]
  exact Nat.succ_pos _

/-! ### Lists -/

section Lists

variable {fuel depth : Nat} {before : List Json} {cs tail rest : List Char} {v : Json}

theorem items_last (hv : value fuel depth cs = .ok (v, tail)) (htail : skip tail = ']' :: rest) :
    Reader.items (fuel + 1) depth before cs = .ok (arr (v :: before).reverse, rest) := by
  rw [Reader.items, hv]
  simp only [bind, Except.bind, htail]

theorem items_next (hv : value fuel depth cs = .ok (v, tail)) (htail : skip tail = ',' :: rest) :
    Reader.items (fuel + 1) depth before cs = Reader.items fuel depth (v :: before) (skip rest) := by
  rw [Reader.items, hv]
  simp only [bind, Except.bind, htail]

/-- A list does not go on where reading is stuck. -/
theorem items_stuck (before : List Json)
    (hv : ∀ j rest', value fuel depth cs = .ok (j, rest') → Stuck rest') :
    ∃ stop, Reader.items (fuel + 1) depth before cs = .error stop := by
  rw [Reader.items]
  cases hread : value fuel depth cs with
  | error stop => exact ⟨stop, rfl⟩
  | ok found =>
      obtain ⟨j, rest'⟩ := found
      obtain ⟨c, cs, rfl, hspace, hcomma, hbracket, -⟩ := hv j rest' hread
      simp only [bind, Except.bind, skip_of_head hspace]
      split
      · next h => exact absurd (List.head_eq_of_cons_eq h) hbracket
      · next h => exact absurd (List.head_eq_of_cons_eq h) hcomma
      · exact ⟨_, rfl⟩

/-- The items of a list, from one that stands behind others. -/
theorem comes_items {level outer : Nat} {vs : List Json} (hback : ∀ w ∈ v :: vs, ReadsBack w)
    (hfuel : 2 * ((prettyChars level v).length + (prettyItems level vs).length) ≤ fuel) :
    Comes (∀ w ∈ v :: vs, PlainWithin depth w)
      (fun j => ∃ ws, RereadItems (v :: vs) ws ∧ j = arr (before.reverse ++ ws)) rest
      (Reader.items fuel depth before (prettyChars level v ++ (prettyItems level vs ++
        (newline outer ++ ']' :: rest)))) := by
  -- an item uses up one unit of fuel, and at least two are counted for its text
  induction vs generalizing v before fuel with
  | nil =>
      have hpos := length_prettyChars_pos level v
      obtain ⟨n, rfl⟩ := Nat.exists_eq_add_one_of_ne_zero (by omega : fuel ≠ 0)
      rcases hback v List.mem_cons_self level n depth _
        (closing_behind (closing_prettyItems level []) outer (']' :: rest)) (by omega) with
        ⟨w, hw, hvw⟩ | ⟨hno, hstuck⟩
      · rw [items_last hw (skip_newline outer rfl rest)]
        exact comes_ok ⟨[w], .cons hvw .nil, by rw [List.reverse_cons]⟩
      · obtain ⟨stop, hstop⟩ := items_stuck before hstuck
        rw [hstop]
        exact comes_error (fun h => hno (h v List.mem_cons_self)) stop
  | cons u vs ih =>
      have hpos := length_prettyChars_pos level v
      obtain ⟨n, rfl⟩ := Nat.exists_eq_add_one_of_ne_zero (by omega : fuel ≠ 0)
      have hv := hback v List.mem_cons_self level n depth _
        (closing_behind (closing_prettyItems level (u :: vs)) outer (']' :: rest)) (by omega)
      have hu := heading_prettyChars u level
      simp only [prettyItems, List.length_cons, List.length_append] at hfuel
      simp only [prettyItems, List.append_assoc, List.cons_append] at hv ⊢
      rcases hv with ⟨w, hw, hvw⟩ | ⟨hno, hstuck⟩
      · rw [items_next hw (skip_of_head rfl _), hu.skip_newline]
        refine (ih (fun x hx => hback x (List.mem_cons_of_mem v hx)) (by omega)).mono
          (fun h x hx => h x (List.mem_cons_of_mem v hx)) ?_
        rintro j ⟨ws, hws, rfl⟩
        exact ⟨w :: ws, .cons hvw hws, by rw [List.reverse_cons, List.append_assoc]; rfl⟩
      · obtain ⟨stop, hstop⟩ := items_stuck before hstuck
        rw [hstop]
        exact comes_error (fun h => hno (h v List.mem_cons_self)) stop

end Lists

/-! ### Tables -/

section Tables

variable {fuel depth : Nat} {before : List (String × Json)} {inner mid more tail rest : List Char}
  {k : String} {v : Json}

theorem members_last (hk : string inner = .ok (k, mid)) (hmid : skip mid = ':' :: more)
    (hv : value fuel depth (skip more) = .ok (v, tail)) (htail : skip tail = '\x7d' :: rest) :
    members (fuel + 1) depth before ('"' :: inner) =
      .ok (obj (Table.ofPairs ((k, v) :: before).reverse), rest) := by
  rw [members]
  simp only [bind, Except.bind, hk, hmid, hv, htail]

theorem members_next (hk : string inner = .ok (k, mid)) (hmid : skip mid = ':' :: more)
    (hv : value fuel depth (skip more) = .ok (v, tail)) (htail : skip tail = ',' :: rest) :
    members (fuel + 1) depth before ('"' :: inner) =
      members fuel depth ((k, v) :: before) (skip rest) := by
  rw [members]
  simp only [bind, Except.bind, hk, hmid, hv, htail]

/-- A table does not go on where reading is stuck. -/
theorem members_stuck (before : List (String × Json)) (hk : string inner = .ok (k, mid))
    (hmid : skip mid = ':' :: more)
    (hv : ∀ j rest', value fuel depth (skip more) = .ok (j, rest') → Stuck rest') :
    ∃ stop, members (fuel + 1) depth before ('"' :: inner) = .error stop := by
  rw [members]
  simp only [bind, Except.bind, hk, hmid]
  cases hread : value fuel depth (skip more) with
  | error stop => exact ⟨stop, rfl⟩
  | ok found =>
      obtain ⟨j, rest'⟩ := found
      obtain ⟨c, cs, rfl, hspace, hcomma, -, hbrace⟩ := hv j rest' hread
      simp only [skip_of_head hspace]
      split
      · next h => exact absurd (List.head_eq_of_cons_eq h) hbrace
      · next h => exact absurd (List.head_eq_of_cons_eq h) hcomma
      · exact ⟨_, rfl⟩

/-- The fields of a table, from one that stands behind others. -/
theorem comes_members {level outer : Nat} {fs : List (String × Json)}
    (hback : ∀ f ∈ (k, v) :: fs, ReadsBack f.2)
    (hfuel : 2 * ((prettyChars level v).length + (prettyFields level fs).length) ≤ fuel) :
    Comes (∀ f ∈ (k, v) :: fs, PlainWithin depth f.2)
      (fun j => ∃ gs, RereadFields ((k, v) :: fs) gs ∧
        j = obj (Table.ofPairs (before.reverse ++ gs))) rest
      (members fuel depth before (quoteChars k ++ ':' :: ' ' :: (prettyChars level v ++
        (prettyFields level fs ++ (newline outer ++ '\x7d' :: rest))))) := by
  induction fs generalizing k v before fuel with
  | nil =>
      have hpos := length_prettyChars_pos level v
      obtain ⟨n, rfl⟩ := Nat.exists_eq_add_one_of_ne_zero (by omega : fuel ≠ 0)
      have hback' : ReadsBack v := hback (k, v) List.mem_cons_self
      have hv := hback' level n depth _
        (closing_behind (closing_prettyFields level []) outer ('\x7d' :: rest)) (by omega)
      obtain ⟨inner, hinner, hk⟩ := string_quoteChars k (':' :: ' ' :: (prettyChars level v ++
        (prettyFields level [] ++ (newline outer ++ '\x7d' :: rest))))
      rw [← (heading_prettyChars v level).skip_space] at hv
      rw [hinner]
      rcases hv with ⟨w, hw, hvw⟩ | ⟨hno, hstuck⟩
      · rw [members_last hk (skip_of_head rfl _) hw (skip_newline outer rfl rest)]
        exact comes_ok ⟨[(k, w)], .cons hvw .nil, by rw [List.reverse_cons]⟩
      · obtain ⟨stop, hstop⟩ := members_stuck before hk (skip_of_head rfl _) hstuck
        rw [hstop]
        exact comes_error (fun h => hno (h (k, v) List.mem_cons_self)) stop
  | cons f fs ih =>
      obtain ⟨l, u⟩ := f
      have hpos := length_prettyChars_pos level v
      obtain ⟨n, rfl⟩ := Nat.exists_eq_add_one_of_ne_zero (by omega : fuel ≠ 0)
      have hback' : ReadsBack v := hback (k, v) List.mem_cons_self
      have hv := hback' level n depth _
        (closing_behind (closing_prettyFields level ((l, u) :: fs)) outer ('\x7d' :: rest))
        (by omega)
      obtain ⟨inner, hinner, hk⟩ := string_quoteChars k (':' :: ' ' :: (prettyChars level v ++
        (prettyFields level ((l, u) :: fs) ++ (newline outer ++ '\x7d' :: rest))))
      rw [← (heading_prettyChars v level).skip_space] at hv
      simp only [prettyFields, List.length_cons, List.length_append] at hfuel
      simp only [prettyFields, List.append_assoc, List.cons_append] at hv hk hinner ⊢
      rw [hinner]
      rcases hv with ⟨w, hw, hvw⟩ | ⟨hno, hstuck⟩
      · rw [members_next hk (skip_of_head rfl _) hw (skip_of_head rfl _),
          (heading_quoteChars l).skip_newline]
        refine (ih (fun g hg => hback g (List.mem_cons_of_mem _ hg)) (by omega)).mono
          (fun h g hg => h g (List.mem_cons_of_mem _ hg)) ?_
        rintro j ⟨gs, hgs, rfl⟩
        exact ⟨(k, w) :: gs, .cons hvw hgs, by rw [List.reverse_cons, List.append_assoc]; rfl⟩
      · obtain ⟨stop, hstop⟩ := members_stuck before hk (skip_of_head rfl _) hstuck
        rw [hstop]
        exact comes_error (fun h => hno (h (k, v) List.mem_cons_self)) stop

end Tables

/-! ### Whole texts -/

section

variable (n depth : Nat)

theorem value_other {c : Char} {cs : List Char} (hquote : c ≠ '"') (htable : c ≠ '\x7b')
    (hlist : c ≠ '[') : value (n + 1) depth (c :: cs) = wordOrNumber (c :: cs) := by
  rw [value]
  · exact fun _ h => hquote (List.head_eq_of_cons_eq h)
  · exact fun _ h => htable (List.head_eq_of_cons_eq h)
  · exact fun _ h => hlist (List.head_eq_of_cons_eq h)

theorem value_token {tok rest : List Char} (htok : Token tok) (hrest : Closing rest) :
    value (n + 1) depth (tok ++ rest) = number (tok ++ rest) := by
  rw [← wordOrNumber_token htok hrest]
  obtain ⟨hne, hnumeric⟩ := htok
  obtain ⟨c, cs, rfl⟩ := List.exists_cons_of_ne_nil hne
  have hc : isNumeric c = true := hnumeric c List.mem_cons_self
  exact value_other n depth (ne_of_isNumeric hc rfl) (ne_of_isNumeric hc rfl)
    (ne_of_isNumeric hc rfl)

theorem value_items {cs inner : List Char} (hinner : Heading inner) (hskip : skip cs = inner) :
    value (n + 1) (depth + 1) ('[' :: cs) = Reader.items n depth [] inner := by
  obtain ⟨c, rest, rfl, -, hc, -⟩ := hinner
  rw [value, if_neg (Nat.succ_ne_zero depth), hskip]
  split
  · next h => exact absurd (List.head_eq_of_cons_eq h) hc
  · rfl

theorem value_members {cs inner : List Char} (hinner : Heading inner) (hskip : skip cs = inner) :
    value (n + 1) (depth + 1) ('\x7b' :: cs) = members n depth [] inner := by
  obtain ⟨c, rest, rfl, -, -, hc, -⟩ := hinner
  rw [value, if_neg (Nat.succ_ne_zero depth), hskip]
  split
  · next h => exact absurd (List.head_eq_of_cons_eq h) hc
  · rfl

end

/-- What was written is not empty, so there is fuel for a first step. -/
theorem readsBack_of_step {j : Json} (h : ∀ (level n depth : Nat) (rest : List Char),
    Closing rest → 2 * (prettyChars level j).length ≤ n + 2 →
      Comes (PlainWithin depth j) (Reread j) rest
        (value (n + 1) depth (prettyChars level j ++ rest))) :
    ReadsBack j := by
  intro level fuel depth rest hrest hfuel
  have hpos := length_prettyChars_pos level j
  obtain ⟨n, rfl⟩ := Nat.exists_eq_add_one_of_ne_zero (by omega : fuel ≠ 0)
  exact h level n depth rest hrest hfuel

theorem readsBack_int (n : Int) : ReadsBack (int n) := by
  refine readsBack_of_step fun level m depth rest hrest _ => ?_
  rw [prettyChars, value_token m depth (token_integerChars n) hrest, number_integerChars n hrest]
  split
  · next hmax =>
    refine comes_error (fun hplain => ?_) _
    cases hplain.1 with
    | int hn => exact absurd (length_digitChars_le (by decide) hn) (Nat.not_le.2 hmax)
  · exact comes_ok (.int n)

theorem readsBack_float (x : Double) : ReadsBack (float x) := by
  refine readsBack_of_step fun level m depth rest hrest _ => ?_
  have hno : ¬ PlainWithin depth (float x) := fun h => nomatch h.1
  rw [prettyChars]
  rcases render_cases x with h | h
  · rw [h]
    exact comes_ok (.float x .null)
  · rw [value_token m depth h hrest]
    have heats := (eatsNumber_number ((savedNumber.render x).toList ++ rest)).eats
    cases hread : number ((savedNumber.render x).toList ++ rest) with
    | error stop => exact comes_error hno stop
    | ok found =>
        obtain ⟨j, rest'⟩ := found
        rcases rest_of_eats h.numeric hrest (heats j rest' hread) with rfl | hstuck
        · exact comes_ok (.float x j)
        · refine .inr ⟨hno, ?_⟩
          rintro _ _ ⟨⟩
          exact hstuck

/-- **What comes of reading any document**, at any depth. -/
theorem comes_value (j : Json) : ReadsBack j := by
  induction j using induct with
  | null => exact readsBack_of_step fun _ _ _ rest _ _ => comes_ok .null
  | bool b =>
      refine readsBack_of_step fun _ _ _ rest _ _ => ?_
      cases b
      · exact comes_ok (.bool false)
      · exact comes_ok (.bool true)
  | int n => exact readsBack_int n
  | float x => exact readsBack_float x
  | str s =>
      refine readsBack_of_step fun level m depth rest _ _ => ?_
      obtain ⟨inner, hinner, hs⟩ := string_quoteChars s rest
      rw [prettyChars, hinner, value]
      simp only [bind, Except.bind, hs]
      exact comes_ok (.str s)
  | arr vs ih =>
      refine readsBack_of_step fun level m depth rest _ hfuel => ?_
      cases depth with
      | zero =>
          obtain ⟨inner, hinner⟩ := exists_prettyChars_arr level vs
          rw [hinner, List.cons_append, value, if_pos rfl]
          exact comes_error (fun h => absurd h.2 (Nat.not_succ_le_zero _)) _
      | succ depth =>
      cases vs with
      | nil =>
          rw [prettyChars]
          exact comes_ok (.arr .nil)
      | cons v vs =>
          have hv := heading_prettyChars v (level + 1)
          simp only [prettyChars, List.length_cons, List.length_append] at hfuel
          simp only [prettyChars, List.append_assoc, List.cons_append, List.nil_append]
          rw [value_items m depth (hv.append _) (hv.skip_newline _ _)]
          refine (comes_items ih (by omega)).mono PlainWithin.item ?_
          rintro j ⟨ws, hws, rfl⟩
          exact .arr hws
  | obj fs ih =>
      refine readsBack_of_step fun level m depth rest _ hfuel => ?_
      cases depth with
      | zero =>
          obtain ⟨inner, hinner⟩ := exists_prettyChars_obj level fs
          rw [hinner, List.cons_append, value, if_pos rfl]
          exact comes_error (fun h => absurd h.2 (Nat.not_succ_le_zero _)) _
      | succ depth =>
      cases fs with
      | nil =>
          rw [prettyChars]
          exact comes_ok (.obj .nil)
      | cons f fs =>
          obtain ⟨k, v⟩ := f
          have hquote := heading_quoteChars k
          simp only [prettyChars, List.length_cons, List.length_append] at hfuel
          simp only [prettyChars, List.append_assoc, List.cons_append, List.nil_append]
          rw [value_members m depth (hquote.append _) (hquote.skip_newline _ _)]
          refine (comes_members ih (by omega)).mono PlainWithin.member ?_
          rintro j ⟨gs, hgs, rfl⟩
          exact .obj hgs

/-- What comes of reading a whole text that was written. -/
theorem comes_readChars (j : Json) :
    (∃ j', readChars (prettyChars 0 j) = .ok j' ∧ Reread j j') ∨
      ¬ PlainWithin maxNesting j ∧ ∃ f, readChars (prettyChars 0 j) = .error f := by
  obtain ⟨c, cs, hcs, hc, -⟩ := heading_prettyChars j 0
  have hskip : skip (prettyChars 0 j) = prettyChars 0 j := by
    rw [hcs]
    exact skip_of_head hc cs
  have hcomes := comes_value j 0 (2 * (prettyChars 0 j).length + 1) maxNesting [] closing_nil
    (by omega)
  rw [List.append_nil] at hcomes
  rw [readChars, whole, hskip]
  rcases hcomes with ⟨j', hread, hj'⟩ | ⟨hno, hstuck⟩
  · rw [hread]
    exact .inl ⟨j', rfl, hj'⟩
  · refine .inr ⟨hno, ?_⟩
    cases hread : value (2 * (prettyChars 0 j).length + 1) maxNesting (prettyChars 0 j) with
    | error stop => exact ⟨_, rfl⟩
    | ok found =>
        obtain ⟨j', rest'⟩ := found
        obtain ⟨d, ds, rfl, hspace, -⟩ := hstuck j' rest' hread
        simp only [bind, Except.bind, skip_of_head hspace]
        exact ⟨_, rfl⟩

/-- What was written begins with no byte order mark. -/
theorem read_pretty_eq (j : Json) : read j.pretty = readChars (prettyChars 0 j) := by
  obtain ⟨c, cs, hcs, -, -, -, hmark⟩ := heading_prettyChars j 0
  rw [read, pretty, String.toList_ofList, hcs]
  split
  · next h => exact absurd (List.head_eq_of_cons_eq h) hmark
  · rfl

/-- **What is read of what was written** is the document but for its floating-point numbers and its
repeated names. -/
theorem reread_of_read {j j' : Json} (h : readChars (prettyChars 0 j) = .ok j') :
    Reread j j' := by
  rcases comes_readChars j with ⟨_, hread, hj'⟩ | ⟨-, f, hf⟩
  · rw [h] at hread
    cases hread
    exact hj'
  · rw [h] at hf
    cases hf

/-- **Reading undoes writing.** -/
theorem read_pretty {j : Json} (h : Plain j) (hnesting : j.nesting ≤ maxNesting) :
    read j.pretty = .ok j := by
  rw [read_pretty_eq]
  rcases comes_readChars j with ⟨j', hread, hj'⟩ | ⟨hno, -⟩
  · rw [hread, hj'.eq_of_plain h]
  · exact absurd ⟨h, hnesting⟩ hno

end Storyworld.Json
