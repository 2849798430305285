/-
**What is typed, and what is answered.**

A player may type anything.  A line is trimmed and put into small letters, and then it is a word that
is understood, or it may name one of the choices that are offered, or it is not understood, which is
said, and play goes on as if nothing had been typed.

To find out whether a line names a choice, the program first asks whether all its characters have a
digit value, and then reads the number.  The two do not agree on every line.  There are characters
with a digit value that are no decimal digits, such as the superscripts; and a number is not read if
it has too many digits.  On such a line the program breaks off.  This is the only way in which it
breaks off while it makes out what a line says; otherwise it does so only when a look or a choice has
been carried out and has ended in a fault that does not belong to the game.

Main definitions:

* `Storyworld.Terminal.IsWord`, `Storyworld.Terminal.Spells`, `Storyworld.Terminal.IsUnreadable` —
  what a line can be: a word, a number, and a number that cannot be read;
* `Storyworld.Terminal.Playing.Picks` — a line names a choice that is offered;
* `Storyworld.Terminal.Playing.Reaches` — **what a game has come to after some lines**;
* `Storyworld.Terminal.Playing.Breaks` — the program breaks off on a line.

Main results:

* `Storyworld.Terminal.readRequest_eq_choice_iff`, `Storyworld.Terminal.readRequest_eq_unreadable_iff`
  — how numbers are read;
* `Storyworld.Terminal.Playing.answer_of_unknown`, `Storyworld.Terminal.Playing.answer_breaks_iff` —
  what is answered to one line;
* `Storyworld.Terminal.Playing.converse_of_reaches`,
  `Storyworld.Terminal.Playing.converse_breaks_iff` — from lines to conversations;
* `Storyworld.Terminal.Command.typing_is_answered` — **what is answered to any lines**;
* `Storyworld.Terminal.Command.superscript_breaks` — lines on which the program breaks off.
-/

import Storyworld.Proofs.Turn
import Storyworld.Terminal.Run

set_option relaxedAutoImplicit false
set_option autoImplicit false

namespace Storyworld.Terminal

variable {typed : String} {f : Fault}

/-! ### What a line can be -/

/-- The words that are understood. -/
def words : List String := ["quit", "exit", "q", "help", "look", "state"]

/-- A line that says a word. -/
def IsWord (typed : String) : Prop := normalized typed ∈ words

instance : DecidablePred IsWord := fun typed => inferInstanceAs (Decidable (normalized typed ∈ words))

/-- **A line that spells a number** in decimal digits, which are not too many. -/
structure Spells (typed : String) (n : Nat) : Prop where
  nonempty : (normalized typed).toList ≠ []
  decimal : ∀ c ∈ (normalized typed).toList, Text.isDecimal c = true
  short : (normalized typed).toList.length ≤ maxDigits
  value : Text.natOfDecimals (normalized typed).toList = n

/-- **A line that spells no number though all its characters have a digit value**: one of them is no
decimal digit, or they are too many. -/
structure IsUnreadable (typed : String) : Prop where
  nonempty : (normalized typed).toList ≠ []
  digits : ∀ c ∈ (normalized typed).toList, Text.isDigitLike c = true
  numberless : (∃ c ∈ (normalized typed).toList, Text.isDecimal c = false) ∨
    maxDigits < (normalized typed).toList.length

theorem isDigitLike_of_isDecimal {c : Char} (h : Text.isDecimal c = true) :
    Text.isDigitLike c = true := by
  rw [Text.isDigitLike, h, Bool.true_or]

/-- **How a number is read.** -/
theorem readRequest_eq_choice_iff {n : Nat} :
    readRequest (normalized typed) = .choice n ↔ Spells typed n := by
  unfold readRequest
  dsimp only
  constructor
  · intro h
    split at h
    · cases h
    · next hdigits =>
      split at h
      · next hread =>
        simp only [List.isEmpty_iff, not_or, List.all_eq_true] at hdigits hread
        exact ⟨hdigits.1, hread.1, hread.2, Request.choice.inj h⟩
      · cases h
  · intro h
    have hdigits : (normalized typed).toList.all Text.isDigitLike = true :=
      List.all_eq_true.2 fun c hc => isDigitLike_of_isDecimal (h.decimal c hc)
    have hnonempty : (normalized typed).toList.isEmpty = false := by
      rw [List.isEmpty_eq_false_iff]
      exact h.nonempty
    rw [if_neg (by simp [hdigits, hnonempty]),
      if_pos ⟨List.all_eq_true.2 h.decimal, h.short⟩, h.value]

/-- **When a number cannot be read.** -/
theorem readRequest_eq_unreadable_iff :
    readRequest (normalized typed) = .unreadable ↔ IsUnreadable typed := by
  unfold readRequest
  dsimp only
  constructor
  · intro h
    split at h
    · cases h
    · next hdigits =>
      split at h
      · cases h
      · next hread =>
        simp only [List.isEmpty_iff, not_or, Bool.not_eq_true', Bool.not_eq_false,
          List.all_eq_true] at hdigits
        refine ⟨hdigits.1, hdigits.2, ?_⟩
        by_cases hlong : maxDigits < (normalized typed).toList.length
        · exact .inr hlong
        · refine .inl ?_
          have hall : ¬ ((normalized typed).toList.all Text.isDecimal = true) :=
            fun hall => hread ⟨hall, Nat.le_of_not_lt hlong⟩
          simpa using hall
  · intro h
    have hdigits : (normalized typed).toList.all Text.isDigitLike = true :=
      List.all_eq_true.2 h.digits
    have hnonempty : (normalized typed).toList.isEmpty = false := by
      rw [List.isEmpty_eq_false_iff]
      exact h.nonempty
    rw [if_neg (by simp [hdigits, hnonempty]), if_neg]
    rintro ⟨hdecimal, hshort⟩
    rcases h.numberless with ⟨c, hc, hno⟩ | hlong
    · rw [List.all_eq_true.1 hdecimal c hc] at hno
      cases hno
    · omega

/-- A number that cannot be read is none that a line spells. -/
theorem IsUnreadable.not_spells (h : IsUnreadable typed) (n : Nat) : ¬ Spells typed n := by
  intro hspells
  have hread := readRequest_eq_unreadable_iff.2 h
  rw [readRequest_eq_choice_iff.2 hspells] at hread
  cases hread

instance : DecidablePred IsUnreadable := fun _ => decidable_of_iff _ readRequest_eq_unreadable_iff

theorem normalized_ones (n : Nat) :
    (normalized (String.ofList (List.replicate n '1'))).toList = List.replicate n '1' := by
  have hblank : Text.isBlank '1' = false := by decide
  have hsmall : smallLetter '1' = '1' := by decide
  simp [normalized, Text.trimList, hblank, hsmall]

/-- **Too many digits** cannot be read. -/
theorem isUnreadable_ones {n : Nat} (h : maxDigits < n) :
    IsUnreadable (String.ofList (List.replicate n '1')) where
  nonempty := by
    rw [normalized_ones, ne_eq, List.replicate_eq_nil_iff]
    omega
  digits c hc := by
    rw [normalized_ones] at hc
    rw [List.eq_of_mem_replicate hc]
    decide
  numberless := by
    rw [normalized_ones, List.length_replicate]
    exact .inr h

/-- No word is made of digits: each begins with a letter. -/
theorem IsWord.not_digits (h : IsWord typed) :
    ¬ ∀ c ∈ (normalized typed).toList, Text.isDigitLike c = true := by
  have hletter : ∃ c ∈ (normalized typed).toList, c ∈ ['q', 'e', 'h', 'l', 's'] := by
    simp only [IsWord, words, List.mem_cons, List.not_mem_nil, or_false] at h
    rcases h with h | h | h | h | h | h <;> simp [h]
  have hletters : ['q', 'e', 'h', 'l', 's'].all (fun c => !Text.isDigitLike c) = true := by decide
  obtain ⟨c, hc, hmem⟩ := hletter
  intro hdigits
  have hnot := List.all_eq_true.1 hletters c hmem
  rw [hdigits c hc] at hnot
  cases hnot

namespace Playing

variable {g g' : Playing} {o : Offer}

/-- **A line names a choice that is offered.**  The choices are counted from one. -/
def Picks (g : Playing) (typed : String) (o : Offer) : Prop :=
  ∃ n, Spells typed (n + 1) ∧ (choices g.view)[n]? = some o

/-! ### One line -/

/-- What is answered to a line that says no word. -/
theorem answer_of_not_word (hword : ¬ IsWord typed) :
    g.answer typed = match readRequest (normalized typed) with
      | .unknown => (notUnderstood, .goOn g)
      | .unreadable => ("", .stop (.broken .badValue))
      | .choice 0 => (notUnderstood, .goOn g)
      | .choice (n + 1) =>
        match (choices g.view)[n]? with
        | some c => g.choose c
        | none => (notUnderstood, .goOn g) := by
  simp only [IsWord, words, List.mem_cons, List.not_mem_nil, or_false, not_or] at hword
  unfold answer
  split
  case h_7 => rfl
  all_goals simp_all

/-- **A line that is not understood** is said not to be, and changes nothing. -/
theorem answer_of_unknown (hword : ¬ IsWord typed) (hpicks : ∀ o, ¬ g.Picks typed o)
    (hreadable : ¬ IsUnreadable typed) : g.answer typed = (notUnderstood, .goOn g) := by
  rw [answer_of_not_word hword]
  cases hread : readRequest (normalized typed) with
  | unknown => rfl
  | unreadable => exact absurd (readRequest_eq_unreadable_iff.1 hread) hreadable
  | choice n =>
      have hspells := readRequest_eq_choice_iff.1 hread
      cases n with
      | zero => rfl
      | succ n =>
          cases hfound : (choices g.view)[n]? with
          | none => simp only [hfound]
          | some o => exact absurd ⟨n, hspells, hfound⟩ (hpicks o)

/-- **A number that cannot be read** breaks the program off. -/
theorem answer_of_unreadable (h : IsUnreadable typed) :
    g.answer typed = ("", .stop (.broken .badValue)) := by
  rw [answer_of_not_word fun hword => hword.not_digits h.digits,
    readRequest_eq_unreadable_iff.2 h]

theorem answer_of_picks (h : g.Picks typed o) : g.answer typed = g.choose o := by
  obtain ⟨n, hspells, hfound⟩ := h
  have hdigits : ∀ c ∈ (normalized typed).toList, Text.isDigitLike c = true := fun c hc =>
    isDigitLike_of_isDecimal (hspells.decimal c hc)
  rw [answer_of_not_word fun hword => hword.not_digits hdigits,
    readRequest_eq_choice_iff.2 hspells]
  simp only [hfound]

theorem answer_of_look (h : normalized typed = "look") : g.answer typed = g.look := by
  simp only [answer, h]

/-- **The program breaks off on a line**: it cannot read a number, or it looks or takes a choice, and
that ends in a fault which is not reported. -/
inductive Breaks (g : Playing) (typed : String) : Fault → Prop
  | unreadable (h : IsUnreadable typed) : Breaks g typed .badValue
  | looked {f : Fault} (h : normalized typed = "look") (hl : (g.engine.look.on g.play).1 = .error f) :
      Breaks g typed f
  | chosen {f : Fault} {o : Offer} (h : g.Picks typed o)
      (hc : ((move g.engine o).on g.play).1 = .error f) (hlookup : f.isLookup = false)
      (hgame : f.isOfGame = false) : Breaks g typed f

theorem look_breaks_iff :
    g.look.2 = .stop (.broken f) ↔ (g.engine.look.on g.play).1 = .error f := by
  unfold look
  rcases g.engine.look.on g.play with ⟨f' | v, p⟩ <;> simp

theorem choose_breaks_iff : (g.choose o).2 = .stop (.broken f) ↔
    ((move g.engine o).on g.play).1 = .error f ∧ f.isLookup = false ∧ f.isOfGame = false := by
  unfold choose
  rcases (move g.engine o).on g.play with ⟨f' | v, p⟩
  · dsimp only
    split
    · next hlookup =>
      simp only [reduceCtorEq, Except.error.injEq, false_iff, not_and]
      rintro rfl hnot
      rw [hlookup] at hnot
      cases hnot
    · next hlookup =>
      split
      · next hgame =>
        simp only [Next.stop.injEq, reduceCtorEq, Except.error.injEq, false_iff, not_and]
        rintro rfl - hnot
        rw [hgame] at hnot
        cases hnot
      · next hgame =>
        simp only [Next.stop.injEq, Ending.broken.injEq, Except.error.injEq]
        constructor
        · rintro rfl
          exact ⟨rfl, Bool.eq_false_iff.2 hlookup, Bool.eq_false_iff.2 hgame⟩
        · exact fun h => h.1
  · simp

/-- **When the program breaks off on a line.** -/
theorem answer_breaks_iff : (g.answer typed).2 = .stop (.broken f) ↔ g.Breaks typed f := by
  constructor
  · intro h
    by_cases hword : IsWord typed
    · simp only [IsWord, words, List.mem_cons, List.not_mem_nil, or_false] at hword
      rcases hword with hw | hw | hw | hw | hw | hw
      case inr.inr.inr.inr.inl =>
        rw [answer_of_look hw, look_breaks_iff] at h
        exact .looked hw h
      all_goals simp [answer, hw] at h
    · by_cases hpicks : ∃ o, g.Picks typed o
      · obtain ⟨o, ho⟩ := hpicks
        rw [answer_of_picks ho, choose_breaks_iff] at h
        exact .chosen ho h.1 h.2.1 h.2.2
      · by_cases hread : IsUnreadable typed
        · rw [answer_of_unreadable hread] at h
          cases h
          exact .unreadable hread
        · rw [answer_of_unknown hword (fun o ho => hpicks ⟨o, ho⟩) hread] at h
          cases h
  · intro h
    cases h with
    | unreadable hread => rw [answer_of_unreadable hread]
    | looked hw hl =>
        rw [answer_of_look hw, look_breaks_iff]
        exact hl
    | chosen ho hc hlookup hgame =>
        rw [answer_of_picks ho, choose_breaks_iff]
        exact ⟨hc, hlookup, hgame⟩

/-! ### Conversations -/

/-- **What a game has come to after some lines**, and what the program has written by then. -/
inductive Reaches : Playing → List String → String → Playing → Prop
  | begun (g : Playing) : Reaches g [] "" g
  | next {g g₁ g' : Playing} {typed said told : String} {rest : List String}
      (h : g.answer typed = (said, .goOn g₁)) (hrest : Reaches g₁ rest told g') :
      Reaches g (typed :: rest) (g.prompt ++ said ++ told) g'

/-- **A conversation goes on** from what the game has come to. -/
theorem converse_of_reaches {before : List String} {told : String} (h : g.Reaches before told g')
    (after : List String) : g.converse (before ++ after) =
      (told ++ (g'.converse after).1, (g'.converse after).2) := by
  induction h with
  | begun g => simp
  | next h _ ih =>
      rw [List.cons_append, converse, h]
      dsimp only
      rw [ih]
      simp only [String.append_assoc]

/-- **When a conversation breaks off.** -/
theorem converse_breaks_iff {lines : List String} : (g.converse lines).2 = .broken f ↔
    ∃ before typed after told g', lines = before ++ typed :: after ∧ g.Reaches before told g' ∧
      g'.Breaks typed f := by
  constructor
  · intro h
    induction lines generalizing g with
    | nil => cases h
    | cons typed rest ih =>
        rw [converse] at h
        split at h
        · next said ending hanswer =>
          dsimp only at h
          refine ⟨[], typed, rest, "", g, rfl, .begun g, answer_breaks_iff.1 ?_⟩
          rw [hanswer, h]
        · next said g₁ hanswer =>
          obtain ⟨before, typed', after, told, g', rfl, hreaches, hbreaks⟩ := ih h
          exact ⟨typed :: before, typed', after, _, g', rfl, .next hanswer hreaches, hbreaks⟩
  · rintro ⟨before, typed, after, told, g', rfl, hreaches, hbreaks⟩
    have hanswer := answer_breaks_iff.2 hbreaks
    rcases hon : g'.answer typed with ⟨said, next⟩
    rw [hon] at hanswer
    cases hanswer
    rw [converse_of_reaches hreaches, converse, hon]

end Playing

namespace Command

variable {files : Files} {c : Command} {said : String} {g : Playing}

/-- What a command comes to that has begun a game. -/
theorem run_of_begin (hb : c.begin files = (said, .goOn g)) (lines : List String) :
    c.run files lines = (said ++ (g.converse lines).1, (g.converse lines).2) := by
  rw [run, hb]

/-- No files at all: the story that comes with the program is played. -/
def noFiles : Files := fun _ => none

/-- Playing the story that comes with the program, without its lore. -/
def playing : Command := .play none [] true none (some 1)

theorem playing_begins : (match (playing.begin noFiles).2 with
    | .goOn _ => true
    | .stop _ => false) = true := by decide +kernel

/-- The game that begins. -/
theorem exists_begun : ∃ said g, playing.begin noFiles = (said, .goOn g) := by
  have hbegins := playing_begins
  rcases hbegin : playing.begin noFiles with ⟨said, g | ending⟩
  · exact ⟨said, g, rfl⟩
  · rw [hbegin] at hbegins
    cases hbegins

/-- **What is answered to any lines.**  Take a command that has begun a game, and any lines.  A line
that says no word, names no choice that is offered then, and is no number that cannot be read, is
said not to be understood, and play goes on with the next line as if it had not been typed.  The
program breaks off just if one of the lines is a number that cannot be read, or if a look or a choice
that a line asks for ends in a fault that is not reported. -/
theorem typing_is_answered (hb : c.begin files = (said, .goOn g)) (lines : List String) :
    (∀ before typed after told g', lines = before ++ typed :: after → g.Reaches before told g' →
      ¬ IsWord typed → (∀ o, ¬ g'.Picks typed o) → ¬ IsUnreadable typed →
        c.run files lines = (said ++ (told ++ (g'.prompt ++ notUnderstood ++ (g'.converse after).1)),
          (g'.converse after).2)) ∧
    ∀ f, (c.run files lines).2 = .broken f ↔
      ∃ before typed after told g', lines = before ++ typed :: after ∧ g.Reaches before told g' ∧
        g'.Breaks typed f := by
  rw [run_of_begin hb]
  refine ⟨?_, fun f => Playing.converse_breaks_iff⟩
  intro before typed after told g' hlines hreaches hword hpicks hreadable
  rw [hlines, Playing.converse_of_reaches hreaches, Playing.converse,
    Playing.answer_of_unknown hword hpicks hreadable]

/-- On the Lantern Road a player wants to dance. -/
theorem typing_is_answered_lanternRoad : ∃ said g, playing.begin noFiles = (said, .goOn g) ∧
    playing.run noFiles ["dance"] = (said ++ ("" ++ (g.prompt ++ notUnderstood ++
      (g.prompt ++ Playing.leaveTaking))), .returned) ∧
    ∀ f, (playing.run noFiles ["dance"]).2 = .broken f ↔
      ∃ before typed after told g', ["dance"] = before ++ typed :: after ∧
        g.Reaches before told g' ∧ g'.Breaks typed f := by
  obtain ⟨said, g, hb⟩ := exists_begun
  have hword : ¬ IsWord "dance" := by decide +kernel
  have hreadable : ¬ IsUnreadable "dance" := by decide +kernel
  have hpicks : ∀ o, ¬ g.Picks "dance" o := by
    rintro o ⟨n, hspells, -⟩
    have hread : readRequest (normalized "dance") = .unknown := by decide +kernel
    rw [readRequest_eq_choice_iff.2 hspells] at hread
    cases hread
  obtain ⟨hanswered, hbreaks⟩ := typing_is_answered hb ["dance"]
  exact ⟨said, g, hb, hanswered [] "dance" [] "" g rfl (.begun g) hword hpicks hreadable, hbreaks⟩

/-- **Lines on which the program breaks off**: a superscript, and a number that is too long.  They
say no word and name no choice, but they are not said not to be understood. -/
theorem superscript_breaks : ∃ said g, playing.begin noFiles = (said, .goOn g) ∧
    ∀ typed ∈ ["²", String.ofList (List.replicate 4301 '1')],
      ¬ IsWord typed ∧ (∀ o, ¬ g.Picks typed o) ∧
        playing.run noFiles [typed] = (said ++ g.prompt, .broken .badValue) := by
  obtain ⟨said, g, hb⟩ := exists_begun
  have hunreadable : ∀ typed ∈ ["²", String.ofList (List.replicate 4301 '1')],
      IsUnreadable typed := by
    rw [List.forall_mem_cons, List.forall_mem_singleton]
    exact ⟨by decide +kernel, isUnreadable_ones (by decide)⟩
  refine ⟨said, g, hb, fun typed htyped => ?_⟩
  have h := hunreadable typed htyped
  refine ⟨fun hword => hword.not_digits h.digits, ?_, ?_⟩
  · rintro o ⟨n, hspells, -⟩
    exact h.not_spells _ hspells
  · rw [run_of_begin hb, Playing.converse, Playing.answer_of_unreadable h]
    simp only [String.append_empty]

end Command

end Storyworld.Terminal
