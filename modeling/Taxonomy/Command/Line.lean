import Taxonomy.Command.Arguments
import Taxonomy.Command.Basic
import Taxonomy.Config

/-!
# The command line

Options that concern all commands stand in front of the command's name, those of the command
behind it. The configuration is the file that is named, or the nearest one.

* `CommandName.request`: the command that a row of words asks for.
* `CommandLine.wanted`: the files that have to be known.
* `CommandLine.run`: what the command line prints and how it ends.
-/

namespace Taxonomy

/-- The name and the number of this release. -/
def release : String := "metatypes, version 0.1.0"

/-- **The commands.** -/
inductive CommandName where
  | types
  | typeInfo
  | providers
  | checkPlacement
  | checkValue
  | health
  deriving DecidableEq, Repr, Inhabited

namespace CommandName

/-- All commands. -/
def all : List CommandName := [types, typeInfo, providers, checkPlacement, checkValue, health]

/-- The name of a command as it is written. -/
def text : CommandName → String
  | types => "types"
  | typeInfo => "type-info"
  | providers => "providers"
  | checkPlacement => "check-placement"
  | checkValue => "check-value"
  | health => "health"

/-- The command of a name. -/
def ofText? (s : String) : Option CommandName := all.find? (·.text == s)

/-- The options of a command. -/
def options (c : CommandName) : List OptionSpec :=
  [{ name := "json" }, { name := "help" }] ++ match c with
    | types => [{ name := "family", letter := 'f', takesValue := true }]
    | checkValue => [{ name := "name", takesValue := true }]
    | health => [{ name := "strict" }]
    | _ => []

/-- The arguments that a command cannot do without, and those that may be left out. -/
def arguments : CommandName → List String × List String
  | types | providers | health => ([], [])
  | typeInfo => (["TYPE_NAME"], [])
  | checkPlacement => (["PARENT", "CHILD"], ["NAME"])
  | checkValue => (["TYPE_NAME", "ATTRIBUTE", "VALUE"], [])

/-- How a command is written. -/
def usage (c : CommandName) : String :=
  let (required, optional) := c.arguments
  " ".intercalate (["Usage: metatypes", c.text] ++ c.options.map (fun o => "[" ++ o.text ++ "]") ++
    required ++ optional.map fun a => "[" ++ a ++ "]")

/-- **The command with its arguments**, or why they do not fit. -/
def request (c : CommandName) (sources : ProviderSources) (a : Arguments) :
    Except UsageFault Command :=
  let json := a.has "json"
  let (required, optional) := c.arguments
  match (required.drop a.words.length).head?,
    (a.words.drop (required.length + optional.length)).head? with
  | some missing, _ => throw (.argumentMissing missing)
  | none, some extra => throw (.argumentUnexpected extra)
  | none, none =>
    let word (i : Nat) : String := a.words.getD i ""
    pure (match c with
      | types => Command.types (Command.orNull (a.value? "family")) json
      | typeInfo => Command.typeInfo (word 0) json
      | providers => Command.providers sources json
      | checkPlacement => 
        Command.checkPlacement (word 0) (word 1) (Command.orNull a.words[2]?) json
      | checkValue =>
        Command.checkValue (word 0) (word 1) (word 2) ((a.value? "name").getD "" : String) json
      | health => Command.health (a.has "strict") json)

end CommandName

/-- **How a command line ends**: it is not understood, or prints something; then there may be a
level of logging that it chose. -/
inductive Ending where
  | usage (fault : UsageFault)
  | printed (output : Output) (logLevel : Option String := none)
  deriving Inhabited

namespace CommandLine

/-- The options that stand in front of a command. -/
def options : List OptionSpec :=
  [{ name := "config", letter := 'c', takesValue := true }, { name := "verbose" },
    { name := "version" }, { name := "help" }]

/-- How a command line is written. -/
def usage : String := "Usage: metatypes [--config FILE] [--verbose] [--version] [--help] " ++
  "|".intercalate (CommandName.all.map (·.text))

/-- The line that an option asks for, whatever else the command line says: the first of those that
ask for one. -/
def answer? (a : Arguments) (usage : String) : Option Output :=
  a.options.findSome? fun o =>
    if o.name == "version" then some ⟨0, release ++ "\n", ""⟩
    else if o.name == "help" then some ⟨0, usage ++ "\n", ""⟩
    else none

/-- A fault that ends the command line, in words. -/
def refusal (f : Fault) : Output := ⟨1, "", s!"Error: {f.message}\n"⟩

/-- **The file of configuration**: the one that is named, or else the nearest. -/
def configPath (files : FileTree) (a : Arguments) : Result (Except UsageFault (Option Path)) :=
  match a.value? "config" with
  | none => pure (.ok (findConfig files files.here))
  | some given =>
    let path := Path.ofText given
    match files.find path with
    | .file _ => pure (.ok (some path))
    | .directory _ | .outside =>
      pure (if given == "" then .ok (some path) else .error (.notAFile given))
    | .nowhere .nulInside => throw (.file .nulInside path.text)
    | .nowhere _ => do
      discard (files.exists path)
      return .error (.missingFile path.text)

/-- The configuration of a file, or the usual one where there is no file. -/
def loadConfig (files : FileTree) : Option Path → Result Config
  | some path => Config.load files path
  | none => pure {}

/-- **The files that a command line may ask for**, as far as the known ones tell: the one that is
named, those that may be the nearest, and the rulesets of the one that counts. -/
def wanted (files : FileTree) (args : List String) : List Path :=
  let front := ((Arguments.read options false args).toOption).getD {}
  let named := ((front.value? "config").map Path.ofText).toList
  let near := (List.range (files.here.length + 1)).map fun n =>
    files.pathOf (files.here.take n ++ [configName])
  let config := match configPath files front with
    | .ok (.ok path) => (loadConfig files path).toOption
    | _ => none
  named ++ near ++ (config.map (·.rulesets)).getD []

/-- Runs a command on the registry that a configuration describes. Faults of files and of what they
say end it in words. -/
def runCommand (files : FileTree) (sources : ProviderSources) (config : Config)
    (command : Command) : Result Output :=
  match (Config.build config files sources).run.run ({} : Registry) with
  | (.error f, _) => if f.isBadInput || f.isFileFault then pure (refusal f) else throw f
  | (.ok _, r) => (command.run.run r).1

/-- Runs what follows the options in front: the name of a command and its words. -/
def runNamed (files : FileTree) (sources : ProviderSources) (front : Arguments)
    (name : CommandName) (words : List String) : Result Ending := do
  let path ← match ← configPath files front with
    | .ok path => pure path
    | .error f => return .usage f
  match loadConfig files path with
  | .error f => if f.isBadInput then return .printed (refusal f) else throw f
  | .ok config =>
    let level := if front.has "verbose" then "DEBUG" else config.logLevel
    let understood : Except UsageFault (Output ⊕ Command) := do
      let a ← Arguments.read name.options true words
      match answer? a name.usage with
      | some output => return .inl output
      | none => return .inr (← name.request sources a)
    match understood with
    | .error f => return .usage f
    | .ok (.inl output) => return .printed output level
    | .ok (.inr command) => return .printed (← runCommand files sources config command) level

/-- **What the command line prints and how it ends.** A word with a dash in the place of a command
is read as an option once more, for what it may ask for. -/
def run (files : FileTree) (args : List String) (sources : ProviderSources := {}) :
    Result Ending :=
  match Arguments.read options false args with
  | .error f => pure (.usage f)
  | .ok front =>
    match answer? front usage, front.words with
    | some output, _ => pure (.printed output)
    | none, [] => pure (.usage .commandMissing)
    | none, word :: words =>
      match CommandName.ofText? word with
      | some name => runNamed files sources front name words
      | none =>
        match (Arguments.read options false (word :: words)).map (answer? · usage) with
        | .ok (some output) => pure (.printed output)
        | _ => pure (.usage (.unknownCommand word))

end CommandLine

end Taxonomy
