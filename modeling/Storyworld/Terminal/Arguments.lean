/-
**The arguments of the command line.**

There are two commands: one plays a story, the other checks one.  Options may stand anywhere behind
their command and may be shortened as long as it is clear which is meant.  The value of an option
follows it, or is joined to it by an equals sign.  Short flags may be joined to each other.  Behind
`--` nothing is an option.  A number with a minus is no option either.  An option that is joined to
`--` by an equals sign has no value.

Main definitions:

* `Storyworld.Terminal.Options`, `Storyworld.Terminal.Options.classify` — the options of a command,
  and what an argument is among them;
* `Storyworld.Terminal.readArguments` — the options and words of a command, in order;
* `Storyworld.Terminal.Command.read` — **the command that some arguments give**.
-/

import Storyworld.Number.Numeral
import Storyworld.Table

set_option relaxedAutoImplicit false
set_option autoImplicit false

namespace Storyworld.Terminal

/-! ### Options -/

/-- The options of a command.  Only long options take a value. -/
structure Options where
  flags : List String
  valued : List String

/-- What stands in an argument besides the option: nothing, something behind an equals sign, or
something joined to a short option. -/
inductive Given where
  | nothing
  | equal (text : String)
  | joined (text : String)
deriving DecidableEq

/-- What an argument is. -/
inductive Piece where
  | word
  | separator
  | named (option : String) (given : Given)
  | unknown
  /-- the beginning of more than one option -/
  | ambiguous
deriving DecidableEq

/-- The parts of an argument before and behind its first equals sign. -/
def splitEquals (cs : List Char) : List Char × Given :=
  match cs.span (· != '=') with
  | (before, _ :: after) => (before, .equal (String.ofList after))
  | (before, []) => (before, .nothing)

/-- Whether an argument is a negative number. -/
def isNegativeNumber (cs : List Char) : Bool :=
  match cs with
  | '-' :: rest =>
    let (whole, rest) := Numeral.split Text.isDecimal rest
    match rest with
    | [] => !whole.isEmpty
    | '.' :: places => !places.isEmpty && places.all Text.isDecimal
    | _ => false
  | _ => false

namespace Options

def names (o : Options) : List String := o.flags ++ o.valued

/-- The options that an argument may stand for.  One that begins with two dashes stands for those
that it begins; one with a single dash may also be a short option with more behind it. -/
def candidates (o : Options) (cs : List Char) : List Piece :=
  match cs with
  | '-' :: '-' :: _ =>
    let (beginning, given) := splitEquals cs
    (o.names.filter fun name => beginning.isPrefixOf name.toList).map (.named · given)
  | '-' :: c :: rest =>
    o.names.filterMap fun name =>
      if name.toList = ['-', c] then some (.named name (.joined (String.ofList rest)))
      else if cs.isPrefixOf name.toList then some (.named name .nothing)
      else none
  | _ => []

/-- What an argument before any `--` is. -/
def classify (o : Options) (arg : String) : Piece :=
  let cs := arg.toList
  let (before, given) := splitEquals cs
  if cs.head? != some '-' then .word
  else if o.names.contains arg then .named arg .nothing
  else if cs.length = 1 then .word
  else if o.names.contains (String.ofList before) then
    .named (String.ofList before) given
  else
    match o.candidates cs with
    | [piece] => piece
    | _ :: _ :: _ => .ambiguous
    | [] => if isNegativeNumber cs ∨ ' ' ∈ cs then .word else .unknown

/-- What each of some arguments is. -/
def classifyAll (o : Options) : List String → List (String × Piece)
  | [] => []
  | arg :: rest =>
    if arg = "--" then (arg, .separator) :: rest.map (·, .word)
    else (arg, o.classify arg) :: o.classifyAll rest

end Options

/-! ### Options and words in order -/

/-- What a command finds among its arguments. -/
inductive Found where
  | flag (name : String)
  | value (name text : String)
  | word (text : String)
  /-- an argument for which there is no use -/
  | stray
  /-- an option without its value, or with one that it does not take -/
  | wrong
deriving DecidableEq

/-- Short flags joined to a short flag; none if a character is no flag. -/
def joinedFlags? (o : Options) : List Char → Option (List Found)
  | [] => some []
  | c :: rest =>
    let name := String.ofList ['-', c]
    if o.flags.contains name then (joinedFlags? o rest).map (.flag name :: ·) else none

/-- A flag with something joined to it, which must be short flags behind a short flag. -/
def joined (o : Options) (name text : String) : List Found :=
  if name.length = 2 ∧ text ≠ "" then
    ((joinedFlags? o text.toList).map (.flag name :: ·)).getD [.wrong]
  else [.wrong]

/-- An option with what stands in its argument besides it, where no value can follow. -/
def complete (o : Options) (name : String) : Given → List Found
  | .nothing => [.flag name]
  | .equal text => if o.valued.contains name then [.value name text] else joined o name text
  | .joined text => joined o name text

/-- The options and words of a command that takes so many words.  A `--` next to a word that is
taken goes with it. -/
def readArguments (o : Options) : Nat → List (String × Piece) → List Found
  | _, [] => []
  | n + 1, (w, .word) :: (_, .separator) :: rest => .word w :: readArguments o n rest
  | n + 1, (_, .separator) :: (w, .word) :: rest => .word w :: readArguments o n rest
  | n + 1, (w, .word) :: rest => .word w :: readArguments o n rest
  | 0, (_, .word) :: rest => .stray :: readArguments o 0 rest
  | n, (_, .separator) :: rest => .stray :: readArguments o n rest
  | n, (_, .unknown) :: rest => .stray :: readArguments o n rest
  | _, (_, .ambiguous) :: _ => [.wrong]
  | n, (_, .named name given) :: rest =>
    if given = .nothing ∧ o.valued.contains name then
      match rest with
      | (v, .word) :: rest => .value name v :: readArguments o n rest
      | _ => [.wrong]
    else complete o name given ++ readArguments o n rest

/-- The options and words among some arguments.  An ambiguous one is noticed before all others. -/
def findAll (o : Options) (words : Nat) (args : List String) : List Found :=
  let pieces := o.classifyAll args
  if pieces.any fun p => p.2 = .ambiguous then [.wrong] else readArguments o words pieces

/-! ### Commands -/

/-- What the surroundings of the program say about options that are not given. -/
structure Surroundings where
  locale : Option String
  seed : Option String

/-- A command. -/
inductive Command where
  /-- plays a story; without files the one that comes with the program; the seed is missing if its
  option has no value -/
  | play (story : Option String) (lore : List String) (withoutLore : Bool)
      (locale : Option String) (seed : Option Int)
  /-- checks a story together with its lore -/
  | check (story : String) (lore : List String)
  /-- says how the program is used, because that was asked for or because no command was given -/
  | usage (asked : Bool)
  /-- the arguments give no command -/
  | refused
deriving DecidableEq

/-- What the options and words behind a command add up to. -/
structure Gathered where
  words : List String
  values : List (String × String)
  flags : List String
  hasStray : Bool

/-- Everything that was found, or the command that it comes to at once: a question for help or
something wrong ends the reading.  The test says which values an option takes. -/
def gather (takes : String → String → Bool) (g : Gathered) : List Found → Except Command Gathered
  | [] => .ok g
  | .wrong :: _ => .error .refused
  | .stray :: rest => gather takes { g with hasStray := true } rest
  | .word w :: rest => gather takes { g with words := g.words ++ [w] } rest
  | .value name v :: rest =>
    if takes name v then gather takes { g with values := g.values ++ [(name, v)] } rest
    else .error .refused
  | .flag name :: rest =>
    if name = "-h" ∨ name = "--help" then .error (.usage true)
    else gather takes { g with flags := g.flags ++ [name] } rest

namespace Gathered

def start : Gathered := ⟨[], [], [], false⟩

/-- All values of an option. -/
def all (g : Gathered) (name : String) : List String :=
  (g.values.filter (·.1 == name)).map Prod.snd

/-- The last value of an option. -/
def last? (g : Gathered) (name : String) : Option String := (g.all name).getLast?

end Gathered

/-- The most digits of a seed. -/
def maxSeedDigits : Nat := 4300

/-- The seed that a text spells: digits of any script with an optional sign, single underscores
between digits, and blanks around it. -/
def readSeed? (s : String) : Option Int :=
  let (negative, cs) := Numeral.sign (Text.trimList Text.isBlank s.toList)
  match Numeral.grouped? Text.isDecimal cs with
  | none => none
  | some ds =>
    if maxSeedDigits < ds.length then none
    else
      let n : Int := Text.natOfDecimals ds
      some (if negative then -n else n)

def helpFlags : List String := ["-h", "--help"]

def topOptions : Options := ⟨helpFlags ++ ["--verbose", "-v"], []⟩

def playOptions : Options :=
  ⟨helpFlags ++ ["--no-lore"], ["--story", "--lore", "--locale", "--seed"]⟩

def checkOptions : Options := ⟨helpFlags, ["--lore"]⟩

/-- What stands for the value of an option that is joined to it and has no value. -/
def noValue : String := "--"

/-- Whether an option takes a value: a seed must spell a number. -/
def takesValue (name v : String) : Bool :=
  name != "--seed" || v == noValue || (readSeed? v).isSome

namespace Command

/-- The seed of a game, which an option gives or else the surroundings; the outer failure is a text
in the surroundings that spells none. -/
def seedOf? (around : Surroundings) (g : Gathered) : Option (Option Int) :=
  match g.last? "--seed" with
  | some v => some (readSeed? v)
  | none => (readSeed? (around.seed.getD "1")).map some

/-- The language of a game, which an option gives or else the surroundings. -/
def localeOf (around : Surroundings) (g : Gathered) : Option String :=
  match g.last? "--locale" with
  | some v => some (if v = noValue then "" else v)
  | none => around.locale

/-- The command to play that some arguments give. -/
def readPlay (around : Surroundings) (hasStray : Bool) (args : List String) : Command :=
  match gather takesValue .start (findAll playOptions 0 args) with
  | .error c => c
  | .ok g =>
    match seedOf? around g with
    | none => .refused
    | some seed =>
      if hasStray || g.hasStray then .refused
      else
        .play (g.last? "--story") (g.all "--lore") (g.flags.contains "--no-lore")
          (localeOf around g) seed

/-- The command to check that some arguments give. -/
def readCheck (hasStray : Bool) (args : List String) : Command :=
  match gather takesValue .start (findAll checkOptions 1 args) with
  | .error c => c
  | .ok g =>
    match g.words, hasStray || g.hasStray with
    | [story], false => .check story (g.all "--lore")
    | _, _ => .refused

/-- The arguments before a command, and the command with what follows it. -/
def splitAtCommand : List (String × Piece) → List (String × Piece) × List String
  | [] => ([], [])
  | (arg, .word) :: rest => ([], arg :: rest.map Prod.fst)
  | (arg, .separator) :: rest => ([], arg :: rest.map Prod.fst)
  | p :: rest =>
    let (before, command) := splitAtCommand rest
    (p :: before, command)

/-- **The command that some arguments give.** -/
def read (around : Surroundings) (args : List String) : Command :=
  let pieces := topOptions.classifyAll args
  if pieces.any fun p => p.2 = .ambiguous then .refused
  else
    let (before, command) := splitAtCommand pieces
    match gather takesValue .start (readArguments topOptions 0 before) with
    | .error c => c
    | .ok g =>
      match command with
      | [] => if g.hasStray then .refused else .usage false
      | "play" :: rest => readPlay around g.hasStray rest
      | "validate" :: rest => readCheck g.hasStray rest
      | _ => .refused

end Command

end Storyworld.Terminal
