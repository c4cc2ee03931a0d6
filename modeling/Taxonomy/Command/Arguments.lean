/-!
# Arguments of a command line

A command line is a row of words: options, the values that some of them take, and plain words.
Every option of more than one letter is written with two dashes, its value behind an equality sign
or as the next word; options of one letter may be written together behind one dash.

* `Arguments.read`: the options and the plain words of a row.
-/

namespace Taxonomy

/-- **An option that a command knows.** -/
structure OptionSpec where
  /-- The name behind two dashes. -/
  name : String
  /-- The letter behind one dash. -/
  letter : Option Char := none
  takesValue : Bool := false
  deriving DecidableEq, Repr, Inhabited

/-- The option as it is written. -/
def OptionSpec.text (o : OptionSpec) : String := "--" ++ o.name

/-- **Why a row of words is not understood.** -/
inductive UsageFault where
  | unknownOption (option : String)
  | valueMissing (option : String)
  | valueUnexpected (option : String)
  | commandMissing
  | unknownCommand (name : String)
  | argumentMissing (name : String)
  | argumentUnexpected (word : String)
  | missingFile (path : String)
  | notAFile (path : String)
  deriving DecidableEq, Repr, Inhabited

/-- The wording of a usage fault. -/
def UsageFault.message : UsageFault → String
  | unknownOption option => s!"No such option: {option}"
  | valueMissing option => s!"Option '{option}' requires an argument."
  | valueUnexpected option => s!"Option '{option}' does not take a value."
  | commandMissing => "Missing command."
  | unknownCommand name => s!"No such command '{name}'."
  | argumentMissing name => s!"Missing argument '{name}'."
  | argumentUnexpected word => s!"Got unexpected extra argument ({word})"
  | missingFile path => s!"Invalid value for --config / -c: File '{path}' does not exist."
  | notAFile path => s!"Invalid value for '--config' / '-c': File '{path}' is a directory."

/-- An option as it is given, with its value if it takes one. -/
structure GivenOption where
  name : String
  value : String := ""
  deriving DecidableEq, Repr, Inhabited

/-- **What a row of words says**: options in the order in which they are given, and plain words. -/
structure Arguments where
  options : List GivenOption := []
  words : List String := []
  deriving DecidableEq, Repr, Inhabited

namespace Arguments

/-- Does a word give options? A dash alone does not. -/
def isOption : List Char → Bool
  | '-' :: _ :: _ => true
  | _ => false

/-- The parts of an option word around the first equality sign. -/
def splitValue (w : List Char) : String × Option String :=
  let name := w.takeWhile (· != '=')
  (String.ofList name, if name.length < w.length
    then some (String.ofList (w.drop (name.length + 1))) else none)

variable (specs : List OptionSpec)

/-- Reads options of one letter that are written together. The last of them may wait for its value
in the next word. -/
def readLetters : List Char → Except UsageFault (List GivenOption × Option OptionSpec)
  | [] => pure ([], none)
  | c :: cs => do
    let some o := specs.find? (·.letter == some c) | throw (.unknownOption ("-" ++ c.toString))
    if o.takesValue then
      return if cs.isEmpty then ([], some o) else ([⟨o.name, String.ofList cs⟩], none)
    let (given, waiting) ← readLetters cs
    return (⟨o.name, ""⟩ :: given, waiting)

/-- **Reads a word that gives options.** The last of them may wait for its value in the next
word. -/
def readOption (w : List Char) : Except UsageFault (List GivenOption × Option OptionSpec) :=
  let (written, value?) := splitValue w
  match specs.find? (·.text == written), value? with
  | some o, some v =>
    if o.takesValue then pure ([⟨o.name, v⟩], none) else throw (.valueUnexpected written)
  | some o, none => pure (if o.takesValue then ([], some o) else ([⟨o.name, ""⟩], none))
  | none, _ =>
    if ['-', '-'].isPrefixOf w then throw (.unknownOption written) else readLetters specs (w.drop 1)

/-- Puts options in front. -/
def addOptions (a : Arguments) (given : List GivenOption) : Arguments :=
  { a with options := given ++ a.options }

/-- **The options and the plain words of a row.** Two dashes end the options; where words and
options are not mixed, the first plain word does so too. -/
def read (mixed : Bool) : List String → Except UsageFault Arguments
  | [] => pure {}
  | w :: ws =>
    if w == "--" then pure { words := ws }
    else if isOption w.toList then do
      let (given, waiting) ← readOption specs w.toList
      match waiting, ws with
      | none, ws => return (← read mixed ws).addOptions given
      | some o, v :: ws => return (← read mixed ws).addOptions (given ++ [⟨o.name, v⟩])
      | some o, [] => throw (.valueMissing o.text)
    else if mixed then do
      let a ← read mixed ws
      return { a with words := w :: a.words }
    else pure { words := w :: ws }

variable (a : Arguments)

/-- Is an option given? -/
def has (name : String) : Bool := a.options.any (·.name == name)

/-- The value of an option, the last one if it is given several times. -/
def value? (name : String) : Option String :=
  (a.options.reverse.find? (·.name == name)).map (·.value)

end Arguments

end Taxonomy
