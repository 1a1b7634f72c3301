import Governance.Policy.Lifecycle

/-!
# Reports on documents

The check of one document, without judging anything. A document with conditions and no operator is
a policy, and any other is a written condition on its own. A report lists every issue of the
written condition, with its place in the document, and the problems of the rest: what keeps the
condition or the policy from being read, or the policy from being created.
-/

namespace Governance

/-- What a document is checked as. -/
inductive Subject
  | policy
  | condition
deriving DecidableEq

namespace Subject

/-- What `doc` is to be checked as. -/
def of (doc : Json) : Subject :=
  if (doc.get? "conditions").isSome && (doc.get? "operator").isNone then .policy else .condition

/-- The written condition in `doc`. -/
def tree (doc : Json) : Subject → Json
  | policy => (doc.get? "conditions").getD .null
  | condition => doc

/-- A place `p` of the written condition as a place of the document. -/
def pathTo (p : Place) : Subject → String
  | policy => p.textUnder "/conditions"
  | condition => p.text

end Subject

/-- What is wrong with a document apart from the issues of its condition. -/
inductive DocumentProblem
  | malformedCondition (cause : Refusal)
  | malformedPolicy (cause : Refusal)
  | refusedPolicy (cause : PolicyError)

def DocumentProblem.message (s : Subject) : DocumentProblem → String
  | malformedCondition cause =>
    s.pathTo (.root .whole) ++ ": malformed condition tree: " ++ cause.message
  | malformedPolicy cause => "malformed policy document: " ++ cause.message
  | refusedPolicy cause => cause.message

/-- The check of the document of a file. -/
structure Report where
  file : String
  subject : Subject
  issues : List Issue
  problems : List DocumentProblem

namespace Report

/-- Whether nothing is wrong, neither in `r.issues` nor in `r.problems`. -/
def isValid (r : Report) : Bool := r.issues.isEmpty && r.problems.isEmpty

variable [Pattern.Library]

/-- What keeps a policy with a sound condition from being created of `doc`. -/
def policyProblems (limits : ValidationLimits) (doc : Json) : List DocumentProblem :=
  match NewPolicy.ofJson doc with
  | .error cause => [.malformedPolicy cause]
  | .ok new =>
    match new.accept limits with
    | .error cause => [.refusedPolicy cause]
    | .ok _ => []

/-- The report on a sound document `doc` with the written condition `w`. -/
def ofCondition (limits : ValidationLimits) (file : String) (doc : Json) (w : WrittenCondition) :
    Report where
  file := file
  subject := .of doc
  issues := w.issues limits
  problems :=
    if Subject.of doc = .policy ∧ w.issues limits = [] then policyProblems limits doc else []

/-- Checks the document `doc` of a file. -/
def ofDocument (limits : ValidationLimits) (file : String) (doc : Json) : Report :=
  match WrittenCondition.ofJson ((Subject.of doc).tree doc) with
  | .error cause => ⟨file, .of doc, [], [.malformedCondition cause]⟩
  | .ok w => ofCondition limits file doc w

/-! ### Output -/

/-- The place of the issue `i` in the document. -/
def path (r : Report) (i : Issue) : String := r.subject.pathTo i.place

/-- The messages of `r.problems`. -/
def problemTexts (r : Report) : List String := r.problems.map (·.message r.subject)

def toJson (r : Report) : Json :=
  .object
    ([("file", .text r.file), ("valid", .bool r.isValid),
      ("errors", .array (r.issues.map fun i => i.toJsonAt (r.path i)))]
      ++ if r.problems.isEmpty then [] else [("policyErrors", .texts r.problemTexts)])

/-- The lines of the report `r`. -/
def lines (r : Report) : List String :=
  if r.isValid then ["OK:   " ++ r.file]
  else
    ("FAIL: " ++ r.file)
      :: (r.issues.map fun i => "  " ++ r.path i ++ ": " ++ i.problem.message)
      ++ r.problemTexts.map ("  " ++ ·)

end Report

end Governance
