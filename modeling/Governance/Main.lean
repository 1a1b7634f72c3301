import Governance.Invocation
import Std.Time.DateTime.Timestamp

/-!
# The program

Reads the command line, the environment and the files that are named, runs the command, and prints
what it gives. Files are named one by one; a pattern of the shell names those of a directory.
-/

namespace Governance.Main

/-- The files among some paths that can be read, with their contents. -/
def readable : List String → IO (List (String × String))
  | [] => return []
  | path :: more => do
    let others ← readable more
    try
      return (path, ← IO.FS.readFile path) :: others
    catch _ => return others

/-- The variables of the environment that set limits, by `Config.variableNames`. -/
def settings : List String → IO (List (String × String))
  | [] => return []
  | name :: more => do
    let others ← settings more
    match ← IO.getEnv name with
    | some value => return (name, value) :: others
    | none => return others

/-- A source of identifiers that starts at a random place. -/
def randomIds : IO IdSource := do
  let bytes ← IO.getRandomBytes 16
  let start := bytes.toList.foldl (fun n b => n * 256 + b.toNat) 0
  return ⟨fun n => Uuid.ofNat (start + n), 0⟩

/-- The present second. -/
def present : IO Timestamp := do
  return ⟨(← Std.Time.Timestamp.now).toSecondsSinceUnixEpoch.val, 0⟩

/-- Ends with `message` on the error stream. -/
def fail (message : String) : IO UInt32 := do
  IO.eprintln ("error: " ++ message)
  return UInt32.ofNat ExitCode.failure.number

variable [Pattern.Library]

/-- Runs what the command line asks for, by `Invocation.run`. -/
def run (i : Invocation) : IO UInt32 := do
  let files := Files.ofEntries (← readable i.paths)
  let set ← settings Config.variableNames
  match i.run files (set.lookup ·) .still (← randomIds) (← present) with
  | .ok printed =>
    IO.print printed.output
    return UInt32.ofNat printed.exit.number
  | .error e => fail e.message

end Governance.Main

def main (arguments : List String) : IO UInt32 :=
  match Governance.Invocation.ofArguments arguments with
  | .ok i => Governance.Main.run i
  | .error e => Governance.Main.fail e.message
