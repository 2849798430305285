/-
**What the reader complains of.**

Reading a document from text goes on from left to right, and what is still to be read is always an
end of the text.  So two complaints are never made without cause.  Where an integer is said to have
too many digits, somewhere in the text stands a run of just so many digits, and they are too many.
Where lists and tables are said to stand too deep inside one another, more of them are opened in the
text than may stand so.

Main definitions:

* `Storyworld.Json.HoldsRun` — a text holds a run of digits of some length;
* `Storyworld.Json.openings` — how many lists and tables are opened in a text;
* `Storyworld.Json.Reader.Proceeds` — **a step of the reader goes on behind what it has read**, and
  complains only of digits and brackets that are there.

Main results:

* `Storyworld.Json.Reader.Proceeds.bind` — one step after another;
* `Storyworld.Json.Reader.eatsNumber_number` — what is read of a number;
* `Storyworld.Json.Reader.proceeds_value` — reading a value;
* `Storyworld.Json.holdsRun_of_readChars` — **a complaint about digits is about a run of digits in
  the text**;
* `Storyworld.Json.openings_of_readChars` — **a complaint about depth is about brackets in the
  text**;
* `Storyworld.Json.read_ones`, `Storyworld.Json.read_brackets` — and there are texts that they are
  made of.
-/

import Storyworld.Json.Reader

set_option relaxedAutoImplicit false
set_option autoImplicit false

namespace Storyworld.Json

/-- A text holds a run of `n` digits. -/
def HoldsRun (cs : List Char) (n : Nat) : Prop :=
  ∃ ds, ds <:+: cs ∧ (∀ c ∈ ds, Text.isAsciiDigit c = true) ∧ ds.length = n

theorem HoldsRun.of_suffix {cs rest : List Char} {n : Nat} (hrest : rest <:+ cs)
    (h : HoldsRun rest n) : HoldsRun cs n := by
  obtain ⟨ds, hds, hdigits⟩ := h
  exact ⟨ds, hds.trans hrest.isInfix, hdigits⟩

/-- The brackets that open a list or a table. -/
def isOpening (c : Char) : Bool := c == '[' || c == '\x7b'

/-- How many lists and tables are opened in a text. -/
def openings (cs : List Char) : Nat := cs.countP isOpening

theorem openings_cons {c : Char} (hc : isOpening c = true) (cs : List Char) :
    openings (c :: cs) = openings cs + 1 := List.countP_cons_of_pos hc

theorem openings_le_of_suffix {cs rest : List Char} (hrest : rest <:+ cs) :
    openings rest ≤ openings cs := hrest.sublist.countP_le

namespace Reader

section Proceeds

variable {α β : Type} {depth : Nat} {cs rest : List Char}

/-- **A step of the reader goes on behind what it has read**, and complains of too many digits only
if they are there and too many, and of depth only if more brackets are opened than may be. -/
structure Proceeds (depth : Nat) (cs : List Char) (r : Except Stop (α × List Char)) : Prop where
  behind : ∀ a rest, r = .ok (a, rest) → rest <:+ cs
  digits : ∀ n, r = .error (.tooManyDigits n) → HoldsRun cs n ∧ maxDigits < n
  deep : r = .error .tooDeep → depth < openings cs

theorem proceeds_ok (a : α) (h : rest <:+ cs) : Proceeds depth cs (.ok (a, rest)) where
  behind := by
    rintro b rest' ⟨⟩
    exact h
  digits := nofun
  deep := nofun

theorem proceeds_complaint (c : Complaint) (unread : Nat) :
    Proceeds depth cs (.error (.complaint c unread) : Except Stop (α × List Char)) where
  behind := nofun
  digits := nofun
  deep := nofun

theorem Proceeds.of_suffix {r : Except Stop (α × List Char)} (hrest : rest <:+ cs)
    (h : Proceeds depth rest r) : Proceeds depth cs r where
  behind a rest' hr := (h.behind a rest' hr).trans hrest
  digits n hr := ⟨(h.digits n hr).1.of_suffix hrest, (h.digits n hr).2⟩
  deep hr := Nat.lt_of_lt_of_le (h.deep hr) (openings_le_of_suffix hrest)

/-- **One step after another.** -/
theorem Proceeds.bind {r : Except Stop (α × List Char)}
    {k : α × List Char → Except Stop (β × List Char)} (h : Proceeds depth cs r)
    (hk : ∀ a rest, Proceeds depth rest (k (a, rest))) : Proceeds depth cs (r >>= k) := by
  cases r with
  | ok found =>
      obtain ⟨a, rest⟩ := found
      exact (hk a rest).of_suffix (h.behind a rest rfl)
  | error stop =>
      exact ⟨nofun, fun n hn => h.digits n (by cases hn; rfl), fun hd => h.deep (by cases hd; rfl)⟩

/-- **Behind a bracket that is opened**, one list or table less may be opened inside another. -/
theorem Proceeds.inside {c : Char} (hc : isOpening c = true) {r : Except Stop (α × List Char)}
    (h : Proceeds (depth - 1) rest r) :
    Proceeds depth (c :: rest) (if depth = 0 then .error .tooDeep else r) := by
  split
  · next hdepth => exact ⟨nofun, nofun, fun _ => by rw [openings_cons hc]; omega⟩
  · next hdepth =>
    have hsuffix := List.suffix_cons c rest
    refine ⟨fun a rest' hr => (h.behind a rest' hr).trans hsuffix, fun n hr => ?_, fun hr => ?_⟩
    · exact ⟨(h.digits n hr).1.of_suffix hsuffix, (h.digits n hr).2⟩
    · have hdeep := h.deep hr
      rw [openings_cons hc]
      omega

end Proceeds

theorem skip_suffix (cs : List Char) : skip cs <:+ cs := List.dropWhile_suffix _

theorem suffix_of_skip {cs rest : List Char} {c : Char} (h : skip cs = c :: rest) :
    rest <:+ cs := by
  have hskip : c :: rest <:+ cs := h ▸ skip_suffix cs
  exact (List.suffix_cons c rest).trans hskip

/-! ### Strings -/

theorem proceeds_scanString (depth opening : Nat) (cs : List Char) (mode : StringMode)
    (s : StringSoFar) : Proceeds depth cs (scanString opening cs mode s) := by
  induction cs generalizing mode s with
  | nil => cases mode <;> exact proceeds_complaint _ _
  | cons c rest ih =>
      have hrest : rest <:+ c :: rest := List.suffix_cons c rest
      have hgo (mode : StringMode) (s : StringSoFar) :
          Proceeds depth (c :: rest) (scanString opening rest mode s) :=
        (ih mode s).of_suffix hrest
      cases mode with
      | plain =>
          rw [scanString]
          split
          · exact proceeds_ok _ hrest
          · split
            · exact hgo _ _
            · split
              · exact proceeds_complaint _ _
              · exact hgo _ _
      | escape place =>
          rw [scanString]
          split
          · exact hgo _ _
          · split
            · exact hgo _ _
            · exact proceeds_complaint _ _
      | numbered place left value =>
          rw [scanString]
          split
          · exact proceeds_complaint _ _
          · split
            · split
              · exact proceeds_complaint _ _
              · exact hgo _ _
            · exact hgo _ _

theorem proceeds_string (depth : Nat) (rest : List Char) : Proceeds depth rest (string rest) :=
  proceeds_scanString _ _ _ _ _

/-! ### Numbers -/

/-- The characters of numbers. -/
def isNumeric (c : Char) : Bool :=
  Text.isAsciiDigit c || c == '.' || c == 'e' || c == 'E' || c == '+' || c == '-'

theorem isNumeric_of_isAsciiDigit {c : Char} (h : Text.isAsciiDigit c = true) :
    isNumeric c = true := by
  simp [isNumeric, h]

/-- What is read in front of the rest of a text consists of characters of numbers. -/
def Eats (cs rest : List Char) : Prop :=
  ∃ eaten, cs = eaten ++ rest ∧ ∀ c ∈ eaten, isNumeric c = true

theorem Eats.refl (cs : List Char) : Eats cs cs := ⟨[], rfl, nofun⟩

theorem Eats.cons {c : Char} {cs rest : List Char} (hc : isNumeric c = true) (h : Eats cs rest) :
    Eats (c :: cs) rest := by
  obtain ⟨eaten, rfl, heaten⟩ := h
  exact ⟨c :: eaten, rfl, List.forall_mem_cons.2 ⟨hc, heaten⟩⟩

theorem Eats.trans {cs mid rest : List Char} (h : Eats cs mid) (h' : Eats mid rest) :
    Eats cs rest := by
  obtain ⟨eaten, rfl, heaten⟩ := h
  obtain ⟨more, rfl, hmore⟩ := h'
  exact ⟨eaten ++ more, (List.append_assoc _ _ _).symm, List.forall_mem_append.2 ⟨heaten, hmore⟩⟩

theorem Eats.suffix {cs rest : List Char} (h : Eats cs rest) : rest <:+ cs := by
  obtain ⟨eaten, rfl, -⟩ := h
  exact List.suffix_append eaten rest

theorem isAsciiDigit_of_digits (cs : List Char) :
    ∀ c ∈ (digits cs).1, Text.isAsciiDigit c = true :=
  List.all_eq_true.1 List.all_takeWhile

theorem eats_digits (cs : List Char) : Eats cs (digits cs).2 :=
  ⟨(digits cs).1, List.takeWhile_append_dropWhile.symm,
    fun c hc => isNumeric_of_isAsciiDigit (isAsciiDigit_of_digits cs c hc)⟩

theorem eats_fraction (cs : List Char) : Eats cs (fraction cs).2 := by
  unfold fraction
  split
  · split
    · exact .refl _
    · exact (eats_digits _).cons rfl
  · exact .refl _

theorem eats_exponent? (cs : List Char) : Eats cs (exponent? cs).2 := by
  unfold exponent?
  dsimp only
  split
  · next mark rest =>
    split
    · next hmark =>
      have hmark : isNumeric mark = true := by
        rcases hmark with rfl | rfl <;> rfl
      split
      · split
        · exact .refl _
        · exact ((eats_digits _).cons rfl).cons hmark
      · split
        · exact .refl _
        · exact ((eats_digits _).cons rfl).cons hmark
      · split
        · exact .refl _
        · exact (eats_digits _).cons hmark
    · exact .refl _
  · exact .refl _

/-- Digits at the head of a text, and what follows them. -/
theorem holdsRun_append {ds rest : List Char} (h : ∀ c ∈ ds, Text.isAsciiDigit c = true) :
    HoldsRun (ds ++ rest) ds.length :=
  ⟨ds, (List.prefix_append ds rest).isInfix, h, rfl⟩

/-- **What comes of reading a number**: it goes on behind characters of numbers, there are too many
digits only if they are there, and nothing is too deep. -/
structure EatsNumber (cs : List Char) (r : Except Stop (Json × List Char)) : Prop where
  eats : ∀ j rest, r = .ok (j, rest) → Eats cs rest
  digits : ∀ n, r = .error (.tooManyDigits n) → HoldsRun cs n ∧ maxDigits < n
  deep : r ≠ .error .tooDeep

theorem EatsNumber.proceeds {cs : List Char} {r : Except Stop (Json × List Char)}
    (h : EatsNumber cs r) (depth : Nat) : Proceeds depth cs r where
  behind j rest hr := (h.eats j rest hr).suffix
  digits := h.digits
  deep hr := absurd hr h.deep

theorem eatsNumber_unsigned (start : List Char) (negative : Bool) (cs : List Char) :
    EatsNumber cs (unsigned start negative cs) := by
  unfold unsigned
  split
  next ds rest hds =>
  obtain ⟨rfl, hdigits⟩ : cs = ds ++ rest ∧ ∀ c ∈ ds, Text.isAsciiDigit c = true := by
    split at hds
    · cases hds
      exact ⟨rfl, List.all_eq_true.1 rfl⟩
    · cases hds
      exact ⟨List.takeWhile_append_dropWhile.symm, isAsciiDigit_of_digits cs⟩
  have heats : Eats (ds ++ rest) (exponent? (fraction rest).2).2 := by
    have hds : Eats (ds ++ rest) rest :=
      ⟨ds, rfl, fun c hc => isNumeric_of_isAsciiDigit (hdigits c hc)⟩
    exact (hds.trans (eats_fraction rest)).trans (eats_exponent? _)
  split
  · exact ⟨nofun, nofun, nofun⟩
  · dsimp only
    split
    · split
      · next hmax =>
        refine ⟨nofun, ?_, nofun⟩
        rintro n ⟨⟩
        exact ⟨holdsRun_append hdigits, hmax⟩
      · refine ⟨?_, nofun, nofun⟩
        rintro j rest' ⟨⟩
        exact heats
    · refine ⟨?_, nofun, nofun⟩
      rintro j rest' ⟨⟩
      exact heats

theorem eatsNumber_number (cs : List Char) : EatsNumber cs (number cs) := by
  unfold number
  split
  · next rest =>
    have h := eatsNumber_unsigned ('-' :: rest) true rest
    refine ⟨fun j rest' hr => (h.eats j rest' hr).cons rfl, fun n hn => ?_, h.deep⟩
    exact ⟨(h.digits n hn).1.of_suffix (List.suffix_cons _ rest), (h.digits n hn).2⟩
  · exact eatsNumber_unsigned _ false cs

theorem proceeds_wordOrNumber (depth : Nat) (cs : List Char) :
    Proceeds depth cs (wordOrNumber cs) := by
  unfold wordOrNumber
  split
  · next found hfound =>
    obtain ⟨w, -, hw⟩ := List.exists_of_findSome?_eq_some hfound
    obtain ⟨rest, hafter, rfl⟩ := Option.map_eq_some_iff.1 hw
    unfold after? at hafter
    split at hafter
    · cases hafter
      exact proceeds_ok _ (List.drop_suffix _ cs)
    · cases hafter
  · exact (eatsNumber_number cs).proceeds depth

/-! ### Values -/

/-- **Reading a value, the items of a list, or the fields of a table.** -/
theorem proceeds_value (fuel : Nat) : (∀ depth cs, Proceeds depth cs (value fuel depth cs)) ∧
    (∀ depth before cs, Proceeds depth cs (items fuel depth before cs)) ∧
    ∀ depth before cs, Proceeds depth cs (members fuel depth before cs) := by
  induction fuel with
  | zero =>
      refine ⟨fun depth cs => ?_, fun depth before cs => ?_, fun depth before cs => ?_⟩
      · rw [value]
        exact proceeds_complaint _ _
      · rw [items]
        exact proceeds_complaint _ _
      · rw [members]
        exact proceeds_complaint _ _
  | succ fuel ih =>
      obtain ⟨hvalue, hitems, hmembers⟩ := ih
      refine ⟨fun depth cs => ?_, fun depth before cs => ?_, fun depth before cs => ?_⟩
      · rw [value.eq_def]
        dsimp only
        split
        · next rest =>
          refine Proceeds.of_suffix (List.suffix_cons _ rest) ?_
          exact (proceeds_string depth rest).bind fun s rest => proceeds_ok _ (List.suffix_refl rest)
        · next rest =>
          refine Proceeds.inside rfl ?_
          split
          · next hskip => exact proceeds_ok _ (suffix_of_skip hskip)
          · exact (hmembers _ _ _).of_suffix (skip_suffix rest)
        · next rest =>
          refine Proceeds.inside rfl ?_
          split
          · next hskip => exact proceeds_ok _ (suffix_of_skip hskip)
          · exact (hitems _ _ _).of_suffix (skip_suffix rest)
        · exact proceeds_wordOrNumber depth cs
      · rw [items]
        refine (hvalue depth cs).bind fun v rest => ?_
        dsimp only
        split
        · next hskip => exact proceeds_ok _ (suffix_of_skip hskip)
        · next hskip =>
          refine (hitems _ _ _).of_suffix ?_
          exact (skip_suffix _).trans (suffix_of_skip hskip)
        · exact proceeds_complaint _ _
      · rw [members.eq_def]
        dsimp only
        split
        · next rest =>
          refine Proceeds.of_suffix (List.suffix_cons _ rest) ?_
          refine (proceeds_string depth rest).bind fun k rest => ?_
          dsimp only
          split
          · next hskip =>
            refine Proceeds.of_suffix ((skip_suffix _).trans (suffix_of_skip hskip)) ?_
            refine (hvalue depth _).bind fun v rest => ?_
            dsimp only
            split
            · next hskip => exact proceeds_ok _ (suffix_of_skip hskip)
            · next hskip =>
              refine (hmembers _ _ _).of_suffix ?_
              exact (skip_suffix _).trans (suffix_of_skip hskip)
            · exact proceeds_complaint _ _
          · exact proceeds_complaint _ _
        · exact proceeds_complaint _ _

/-- **Reading a whole text.** -/
theorem proceeds_whole (cs : List Char) :
    Proceeds maxNesting cs ((whole cs).map fun j => (j, [])) := by
  have hvalue := ((proceeds_value (2 * cs.length + 1)).1 maxNesting (skip cs)).of_suffix
    (skip_suffix cs)
  unfold whole
  cases hread : value (2 * cs.length + 1) maxNesting (skip cs) with
  | ok found =>
      simp only [bind, Except.bind]
      split
      · exact proceeds_ok _ List.nil_suffix
      · exact proceeds_complaint _ _
  | error stop =>
      rw [hread] at hvalue
      exact ⟨nofun, fun n hn => hvalue.digits n (by cases hn; rfl),
        fun hd => hvalue.deep (by cases hd; rfl)⟩

end Reader

section

variable {cs : List Char}

/-- What is complained of in a text is what the reader has stopped at. -/
theorem exists_stop_of_readChars {f : ReadFault} (h : readChars cs = .error f) :
    ∃ stop : Reader.Stop, Reader.whole cs = .error stop ∧ stop.fault cs = f := by
  unfold readChars at h
  cases hwhole : Reader.whole cs with
  | ok d =>
      rw [hwhole] at h
      cases h
  | error stop =>
      rw [hwhole] at h
      cases h
      exact ⟨stop, rfl, rfl⟩

/-- **A complaint about digits is about a run of digits in the text.** -/
theorem holdsRun_of_readChars {n : Nat} (h : readChars cs = .error (.tooManyDigits n)) :
    HoldsRun cs n ∧ maxDigits < n := by
  obtain ⟨stop, hwhole, hfault⟩ := exists_stop_of_readChars h
  refine (Reader.proceeds_whole cs).digits n ?_
  rw [hwhole]
  cases stop <;> cases hfault
  rfl

/-- **A complaint about depth is about brackets in the text.** -/
theorem openings_of_readChars (h : readChars cs = .error .tooDeep) : maxNesting < openings cs := by
  obtain ⟨stop, hwhole, hfault⟩ := exists_stop_of_readChars h
  refine (Reader.proceeds_whole cs).deep ?_
  rw [hwhole]
  cases stop <;> cases hfault
  rfl

end

/-! ### A row of ones -/

theorem Reader.digits_ones (n : Nat) :
    digits (List.replicate n '1') = (List.replicate n '1', []) := by
  have hdigit : ∀ c ∈ List.replicate n '1', Text.isAsciiDigit c = true := by
    intro c hc
    rw [List.eq_of_mem_replicate hc]
    rfl
  have htake : (List.replicate n '1' ++ []).takeWhile Text.isAsciiDigit =
      List.replicate n '1' ++ [] := List.takeWhile_append_of_pos hdigit
  have hdrop : (List.replicate n '1' ++ []).dropWhile Text.isAsciiDigit = [] :=
    List.dropWhile_append_of_pos hdigit
  rw [List.append_nil] at htake hdrop
  rw [digits, htake, hdrop]

theorem Reader.unsigned_ones {n : Nat} (h : maxDigits < n + 1) (start : List Char)
    (negative : Bool) :
    unsigned start negative ('1' :: List.replicate n '1') = .error (.tooManyDigits (n + 1)) := by
  have hdigits := digits_ones (n + 1)
  rw [List.replicate_succ] at hdigits
  have hlength : ('1' :: List.replicate n '1').length = n + 1 := by simp
  unfold unsigned
  simp only [hdigits]
  -- behind the digits there is neither a fraction nor an exponent
  change (if maxDigits < ('1' :: List.replicate n '1').length then
    Except.error (Stop.tooManyDigits ('1' :: List.replicate n '1').length) else _) = _
  rw [hlength, if_pos h]

/-- **A row of too many ones is not read.** -/
theorem read_ones {n : Nat} (h : maxDigits < n + 1) :
    read (String.ofList (List.replicate (n + 1) '1')) = .error (.tooManyDigits (n + 1)) := by
  have hvalue (fuel depth : Nat) : Reader.value (fuel + 1) depth ('1' :: List.replicate n '1') =
      Reader.unsigned ('1' :: List.replicate n '1') false ('1' :: List.replicate n '1') := rfl
  have hskip : Reader.skip ('1' :: List.replicate n '1') = '1' :: List.replicate n '1' := rfl
  have hwhole :
      Reader.whole ('1' :: List.replicate n '1') = .error (.tooManyDigits (n + 1)) := by
    unfold Reader.whole
    rw [hskip, hvalue, Reader.unsigned_ones h]
    rfl
  have hread : readChars ('1' :: List.replicate n '1') = .error (.tooManyDigits (n + 1)) := by
    rw [readChars, hwhole]
    rfl
  rw [read, String.toList_ofList, List.replicate_succ]
  exact hread

/-! ### A row of brackets -/

/-- Reading a row of brackets is given up when one is opened too deep inside the others. -/
theorem Reader.value_brackets {fuel depth n : Nat} (hfuel : 2 * depth < fuel) (h : depth < n) :
    value fuel depth (List.replicate n '[') = .error .tooDeep := by
  have hskip (m : Nat) : skip (List.replicate m '[') = List.replicate m '[' := by
    cases m <;> rfl
  induction depth generalizing fuel n with
  | zero =>
      obtain ⟨fuel, rfl⟩ := Nat.exists_eq_add_one_of_ne_zero (by omega : fuel ≠ 0)
      obtain ⟨n, rfl⟩ := Nat.exists_eq_add_one_of_ne_zero (by omega : n ≠ 0)
      rfl
  | succ depth ih =>
      obtain ⟨fuel, rfl⟩ : ∃ m, fuel = m + 2 := ⟨fuel - 2, by omega⟩
      obtain ⟨n, rfl⟩ : ∃ m, n = m + 2 := ⟨n - 2, by omega⟩
      have hitems : items (fuel + 1) depth [] (List.replicate (n + 1) '[') = .error .tooDeep := by
        rw [items, ih (by omega) (Nat.lt_of_succ_lt_succ h)]
        rfl
      rw [List.replicate_succ, value, if_neg (Nat.succ_ne_zero depth), hskip]
      exact hitems

/-- **A row of too many brackets is not read.** -/
theorem read_brackets {n : Nat} (h : maxNesting < n) :
    read (String.ofList (List.replicate n '[')) = .error .tooDeep := by
  have hskip : Reader.skip (List.replicate n '[') = List.replicate n '[' := by
    cases n <;> rfl
  have hread : readChars (List.replicate n '[') = .error .tooDeep := by
    rw [readChars, Reader.whole, hskip,
      Reader.value_brackets (by rw [List.length_replicate]; omega) h]
    rfl
  obtain ⟨n, rfl⟩ := Nat.exists_eq_add_one_of_ne_zero (by omega : n ≠ 0)
  rw [read, String.toList_ofList, List.replicate_succ]
  exact hread

end Storyworld.Json
