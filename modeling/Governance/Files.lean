import Governance.Text.LowerCase

/-!
# Files and directories

The files and directories that a command can see, each at its way down from the top. A path is
followed step by step: every step but the last leads into a directory. A directory lists the
documents that lie directly in it, in ascending order of their names.
-/

namespace Governance

/-- Why a path does not lead to a file. -/
inductive FileFault
  | notFound
  | notDirectory
  | isDirectory
deriving DecidableEq

def FileFault.message : FileFault → String
  | notFound => "No such file or directory (os error 2)"
  | notDirectory => "Not a directory (os error 20)"
  | isDirectory => "Is a directory (os error 21)"

/-- What a path leads to. -/
inductive FileEntry
  | file (content : String)
  /-- A directory, with the names and contents of the files in it. -/
  | directory (files : List (String × String))

/-- The files and directories there are. A way is a list of names, from the top down. -/
structure Files where
  files : List (List String × String)
  /-- Directories that need not hold any file. -/
  directories : List (List String)

namespace Files

/-! ### Paths -/

/-- The steps of `path`; a path that starts at the very top says so in its first step. -/
def steps (path : String) : List String :=
  let parts := path.splitOn "/"
  match parts with
  | "" :: more => "/" :: more
  | _ => parts

/-- The way that goes on from `way` by `step`; `..` goes back, except at the start of a way. -/
def onward (way : List String) (step : String) : List String :=
  if step = "" ∨ step = "." then way
  else if step = ".." ∧ way ≠ [] ∧ way ≠ ["/"] ∧ way.getLast? ≠ some ".." then way.dropLast
  else way ++ [step]

/-- The way of `path`, wherever it leads. -/
def wayOf (path : String) : List String := (steps path).foldl onward []

/-- The files and directories under the names in `entries`; a name that ends in a slash is that of a
directory, any other that of a file. -/
def ofEntries (entries : List (String × String)) : Files where
  files := (entries.filter fun e => !e.1.endsWith "/").map fun e => (wayOf e.1, e.2)
  directories := (entries.filter fun e => e.1.endsWith "/").map fun e => wayOf e.1

/-- Whether `way` leads to a directory. -/
def isDirectoryAt (f : Files) (way : List String) : Bool :=
  way.isEmpty || f.directories.any way.isPrefixOf
    || f.files.any fun e => way.isPrefixOf e.1 && way != e.1

/-- The way that steps lead on from `way`, each step taken from a directory. -/
def follow (f : Files) (way : List String) : List String → Except FileFault (List String)
  | [] => .ok way
  | step :: more =>
    if f.isDirectoryAt way then follow f (onward way step) more
    else if (f.files.lookup way).isSome then .error .notDirectory
    else .error .notFound

/-- What `path` leads to. -/
def entry (f : Files) (path : String) : Except FileFault FileEntry := do
  let way ← if path = "" then .error .notFound else f.follow [] (steps path)
  match f.files.lookup way with
  | some content => .ok (.file content)
  | none =>
    if f.isDirectoryAt way then
      .ok (.directory ((f.files.filter fun e => e.1.dropLast = way ∧ e.1 ≠ []).map fun e =>
        (e.1.getLastD "", e.2)))
    else .error .notFound

/-- The content of the file that `path` leads to. -/
def content (f : Files) (path : String) : Except FileFault String :=
  match f.entry path with
  | .ok (.file content) => .ok content
  | .ok (.directory _) => .error .isDirectory
  | .error e => .error e

/-! ### Documents -/

/-- What follows the last point of `name`, unless it has no other or only starts with it. -/
def extension? (name : String) : Option String :=
  let reversed := name.toList.reverse
  match reversed.dropWhile (· ≠ '.') with
  | '.' :: _ :: _ => some (String.ofList (reversed.takeWhile (· ≠ '.')).reverse)
  | _ => none

/-- Extensions of documents, in any case. -/
def documentExtensions : List String := ["yaml", "yml", "json"]

def isDocument (name : String) : Bool :=
  (extension? name).any fun e => documentExtensions.any fun d => Text.sameIgnoringAsciiCase e d

/-- The path of `name` in the directory at `path`. -/
def join (path name : String) : String :=
  if path.endsWith "/" then path ++ name else path ++ "/" ++ name

/-- The files that `path` stands for: a file for itself, a directory for the documents in it. -/
def documentsAt (f : Files) (path : String) : Option (List String) :=
  match f.entry path with
  | .ok (.file _) => some [path]
  | .ok (.directory files) =>
    some (((files.map Prod.fst).filter isDocument).mergeSort.map (join path))
  | .error _ => none

/-- The files that some paths stand for, or the first path that stands for none. -/
def documents (f : Files) : List String → Except String (List String)
  | [] => .ok []
  | path :: more =>
    match f.documentsAt path with
    | none => .error path
    | some found => (f.documents more).map (found ++ ·)

end Files

end Governance
