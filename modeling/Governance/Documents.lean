import Governance.Assessment
import Governance.Config
import Governance.Files
import Governance.Policy.Basic
import Governance.Yaml.Shape

/-!
# Documents in files

What the files of a command hold: documents of any kind, policies, an assessment, a configuration.
A file of policies holds one policy or an array of them.
-/

namespace Governance

/-! ### Faults -/

/-- Why policies cannot be read from a document. -/
inductive PoliciesFault
  | single (cause : Refusal)
  | item (index : Nat) (cause : Refusal)

/-- Why a document cannot be read from a file. -/
inductive DocumentFault
  | unreadable (path : String) (cause : FileFault)
  | unparsed (path : String) (cause : Yaml.Fault)
  | policies (path : String) (cause : PoliciesFault)

namespace DocumentFault

/-- The message, in which `describe` words what is wrong with the text of a file. -/
def messageWith (describe : Yaml.Fault → String) : DocumentFault → String
  | unreadable path cause => "failed to read " ++ path ++ ": " ++ cause.message
  | unparsed path cause => "failed to parse " ++ path ++ ": " ++ describe cause
  | policies path (.single cause) => path ++ ": malformed policy document: " ++ cause.message
  | policies path (.item index cause) =>
    path ++ ": policy #" ++ Number.intText index ++ " is malformed: " ++ cause.message

def message : DocumentFault → String := messageWith Yaml.Fault.message

end DocumentFault

/-! ### Policies of a document -/

namespace NewPolicy

/-- Reads the items of an array, the first of which has the given `index`. -/
def itemsOfJson (index : Nat) : List Json → Except PoliciesFault (List NewPolicy)
  | [] => .ok []
  | item :: more =>
    match ofJson item with
    | .error cause => .error (.item index cause)
    | .ok new => (itemsOfJson (index + 1) more).map (new :: ·)

/-- Reads one policy, or an array of policies. -/
def listOfJson : Json → Except PoliciesFault (List NewPolicy)
  | .array items => itemsOfJson 0 items
  | doc =>
    match ofJson doc with
    | .error cause => .error (.single cause)
    | .ok new => .ok [new]

end NewPolicy

/-! ### Shapes in files -/

namespace Assessment

/-- What the members of an assessment want in a file. -/
def shape : Yaml.RecordShape where
  fields :=
    [("id", .text), ("geographyAccountId", .text), ("name", .optional .text),
     ("status", .optional .text), ("industry", .optional .text),
     ("systemCriticality", .optional .text), ("riskLevel", .optional .text),
     ("riskScore", .optional .number), ("complianceScore", .optional .number),
     ("vendorRiskScore", .optional .number), ("processesPersonalData", .optional .truth),
     ("humanOversight", .optional .truth), ("jurisdictions", .texts), ("dataTypes", .texts),
     ("techStack", .texts), ("deploymentRegions", .texts), ("vendors", .texts),
     ("customFields", .members)]
  isClosed := false

theorem shape_names : shape.fields.map Prod.fst = declared := rfl

end Assessment

namespace Config

/-- What the members of a configuration want in a file. -/
def shape : Yaml.RecordShape where
  fields := declared.map fun name => (name, .natural)
  isClosed := true

end Config

/-! ### Reading files -/

namespace Files

/-- Reads the text of the file at `path` by `read`. -/
def readWith {α : Type} (f : Files) (read : String → Except Yaml.Fault α) (path : String) :
    Except DocumentFault α :=
  match f.content path with
  | .error cause => .error (.unreadable path cause)
  | .ok text =>
    match read text with
    | .error cause => .error (.unparsed path cause)
    | .ok a => .ok a

/-- The document of a file, by `Yaml.read`. -/
def document (f : Files) : String → Except DocumentFault Json := f.readWith Yaml.read

/-- The policies of the file at `path`. -/
def policies (f : Files) (path : String) : Except DocumentFault (List NewPolicy) := do
  let doc ← f.document path
  match NewPolicy.listOfJson doc with
  | .ok news => .ok news
  | .error cause => .error (.policies path cause)

/-- The assessment of a file. -/
def assessment (f : Files) : String → Except DocumentFault Assessment :=
  f.readWith (Assessment.shape.read Assessment.ofJson)

/-- The configuration of a file. -/
def config (f : Files) : String → Except DocumentFault Config :=
  f.readWith (Config.shape.read Config.ofJson)

end Files

end Governance
