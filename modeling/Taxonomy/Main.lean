import Taxonomy.Command.Line

/-!
# The program

Reads the files that the command line may ask for, runs it and prints what it has to say.
-/

namespace Taxonomy

/-- Takes the content at the end of a path into a tree, if there is anything. -/
def takeIn (files : FileTree) (path : Path) : IO FileTree := do
  let way := files.wayOf path
  try
    let bytes ← IO.FS.readBinFile path.text
    return { files with files := (way, .bytes (bytes.toList.map (·.toNat))) :: files.files }
  catch
    | .inappropriateType .. => return { files with directories := way :: files.directories }
    | _ => return files

/-- The tree of the files that a command line may ask for. The rulesets are known only after the
configuration. -/
def filesFor (args : List String) : IO FileTree := do
  let here := (Path.ofText ((← IO.getEnv "PWD").getD "/")).parts
  let empty : FileTree := { anchor := "/", here, directories := [here] }
  let configured ← (CommandLine.wanted empty args).foldlM takeIn empty
  (CommandLine.wanted configured args).foldlM takeIn configured

end Taxonomy

/-- Runs the command line. -/
def main (args : List String) : IO UInt32 := do
  match Taxonomy.CommandLine.run (← Taxonomy.filesFor args) args with
  | .ok (.printed output _) =>
    IO.print output.stdout
    IO.eprint output.stderr
    return output.exit.toUInt32
  | .ok (.usage fault) =>
    IO.eprintln s!"{Taxonomy.CommandLine.usage}\n\nError: {fault.message}"
    return 2
  | .error fault =>
    IO.eprintln s!"{fault.label}: {fault.message}"
    return 1
