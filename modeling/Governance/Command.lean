import Governance.Bulk
import Governance.Documents
import Governance.Pattern.Program
import Governance.Registry
import Governance.Report

/-!
# Commands

The commands of the command line: check documents, judge one policy, judge all policies of a
tenant. A command sees files and gives what it prints and how it exits, a `Printed`, or the
`CommandFault` that keeps it from printing anything. It exits with one when it ran and found
something wanting. What the outside decides is handed in: the files, the clock, the identifiers, the
time (all in `Session`), and whether a `Runtime` starts.
-/

namespace Governance

/-- How a command exits. -/
inductive ExitCode
  | clean
  | findings
  | failure
deriving DecidableEq

def ExitCode.number : ExitCode → Nat
  | clean => 0
  | findings => 1
  | failure => 2

/-- Exits with one unless `isWell`. -/
def ExitCode.ofBool (isWell : Bool) : ExitCode := if isWell then clean else findings

/-- What a command prints and how it exits. -/
structure Printed where
  output : String
  exit : ExitCode

/-- What keeps a command from running. -/
inductive CommandFault
  | document (cause : DocumentFault)
  | noFile (path : String)
  | configDocument (path : String) (cause : DocumentFault)
  | config (cause : Config.Fault)
  /-- A file that should hold one policy. -/
  | policyCount (path : String) (count : Nat)
  | policy (path : String) (cause : PolicyError)
  | namedPolicy (path name : String) (cause : RegistryError)
  /-- The runtime did not start; `cause` says why. -/
  | runtime (cause : String)

namespace CommandFault

/-- The message, in which `describe` words what is wrong with the text of a file. -/
def messageWith (describe : Yaml.Fault → String) : CommandFault → String
  | document cause => cause.messageWith describe
  | noFile path => path ++ " does not exist"
  | configDocument path cause =>
    "invalid engine configuration in " ++ path ++ ": " ++ cause.messageWith describe
  | config cause => "invalid engine configuration: " ++ cause.message
  | policyCount path count =>
    path ++ " holds " ++ Number.intText count ++ " policies; expected exactly one"
  | policy path cause => path ++ ": invalid policy: " ++ cause.message
  | namedPolicy path name cause =>
    path ++ ": policy " ++ Text.quote name ++ " is invalid: " ++ cause.message
  | runtime cause => "failed to start async runtime: " ++ cause

def message : CommandFault → String := messageWith Yaml.Fault.message

end CommandFault

/-- The outcome of a step of a command. -/
abbrev Attempt (α : Type) := Except CommandFault α

namespace Files

/-! ### Steps -/

/-- The configuration of the file at `path`, or the default one, with what variables of the
`environment` set. -/
def configWith (f : Files) (path : Option String) (environment : String → Option String) :
    Attempt Config := do
  let base ← match path with
    | none => .ok Config.default
    | some path => (f.config path).mapError (.configDocument path)
  (base.withOverrides environment).mapError .config

/-- The files that `paths` stand for. -/
def collect (f : Files) (paths : List String) : Attempt (List String) :=
  (f.documents paths).mapError .noFile

/-- The only policy of the file at `path`. -/
def singlePolicy (f : Files) (path : String) : Attempt NewPolicy := do
  match ← (f.policies path).mapError .document with
  | [new] => .ok new
  | news => .error (.policyCount path news.length)

end Files

/-- Starts threads for a number of workers, or tells why they cannot be had. -/
abbrev Runtime := Nat → Except String Unit

/-- The runtime that starts with any number of workers. -/
def Runtime.ready : Runtime := fun _ => .ok ()

/-- What a command works with. -/
structure Session where
  files : Files
  config : Config
  clock : Pattern.Clock
  ids : IdSource
  now : Timestamp

namespace Session

def engine (s : Session) : Engine := ⟨s.clock, s.config.evaluationLimits⟩

def evaluator (s : Session) : BulkEvaluator := .ofConfig s.clock s.config

variable [Pattern.Library]

/-- Registers new policies of the file at `path`, each under a fresh identifier of `ids`. -/
def register (s : Session) (path : String) (ids : IdSource) (r : Registry) :
    List NewPolicy → Attempt (IdSource × Registry)
  | [] => .ok (ids, r)
  | new :: more =>
    match r.create ⟨ids.nth 0⟩ s.now new with
    | .error cause => .error (.namedPolicy path new.content.name cause)
    | .ok (_, r) => s.register path (ids.advance 1) r more

/-- Loads and registers the policies of some files, one file after the other, by `register`. -/
def registerFiles (s : Session) (ids : IdSource) (r : Registry) :
    List String → Attempt (IdSource × Registry)
  | [] => .ok (ids, r)
  | path :: more => do
    let news ← (s.files.policies path).mapError .document
    let (ids, r) ← s.register path ids r news
    s.registerFiles ids r more

/-! ### Commands -/

/-- The document `j` as it is printed. -/
def shown (j : Json) : String := j.indented ++ "\n"

/-- The report on the file at `path`. -/
def report (s : Session) (path : String) : Attempt Report := do
  let doc ← (s.files.document path).mapError .document
  .ok (.ofDocument s.config.validationLimits path doc)

/-- Checks the documents that `paths` stand for. -/
def validate (s : Session) (asJson : Bool) (paths : List String) : Attempt Printed := do
  let files ← s.files.collect paths
  let reports ← files.mapM s.report
  .ok
    { output :=
        if asJson then shown (.array (reports.map Report.toJson))
        else String.join ((reports.flatMap Report.lines).map (· ++ "\n"))
      exit := .ofBool (reports.all Report.isValid) }

/-- Judges the only policy of the file at `policyPath`, whatever its status, against the assessment
at `assessmentPath`. -/
def evaluate (s : Session) (policyPath assessmentPath : String) : Attempt Printed := do
  let new ← s.files.singlePolicy policyPath
  let p ← (Policy.create ⟨s.ids.nth 0⟩ s.now s.config.validationLimits new).mapError
    (.policy policyPath)
  let a ← (s.files.assessment assessmentPath).mapError .document
  match s.engine.judge (s.ids.advance 1) s.now a p with
  | .ok outcome => .ok ⟨shown outcome.toJson, .ofBool outcome.passed⟩
  | .error _ => .ok ⟨"", .failure⟩

/-- Judges the active policies of the tenant of an assessment, with the workers that `runtime`
starts once all documents have been read. -/
def evaluateAll (s : Session) (policyPaths : List String) (assessmentPath : String)
    (runtime : Runtime := .ready) : Attempt Printed := do
  let a ← (s.files.assessment assessmentPath).mapError .document
  let files ← s.files.collect policyPaths
  let (ids, r) ← s.registerFiles s.ids (.empty s.config.validationLimits) files
  let policies := r.activePolicies a.tenant
  (runtime s.config.maxWorkers).mapError .runtime
  let result := s.evaluator.engine.judgeAll ids s.now a policies
  .ok ⟨shown result.toJson, .ofBool (!result.isBlocked)⟩

end Session

end Governance
