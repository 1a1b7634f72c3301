import Governance.Text.Blank
import Governance.Text.CaseTables
import Governance.Text.HiddenTable
import Governance.Text.WordTables
import Governance.Text.LowerCase
import Governance.Text.Quoted
import Governance.Number.Shortest
import Governance.Number.Style
import Governance.Number.Numeral
import Governance.Json.Reader
import Governance.Json.Canonical
import Governance.Digest.Content
import Governance.Json.Decode
import Governance.Severity
import Governance.Time.Reader
import Governance.FieldValue
import Governance.Pattern.Limits
import Governance.Pattern.Program
import Governance.Operator.Apply
import Governance.Context
import Governance.Condition.Validation
import Governance.Condition.Walker
import Governance.Evaluation.Evaluator
import Governance.Policy.Lifecycle
import Governance.Violation.Lifecycle
import Governance.InPlace
import Governance.Service
import Governance.Config
import Governance.Main
import Governance.Proofs.Condition.Structure
import Governance.Proofs.Condition.Classical
import Governance.Proofs.Condition.Grammar
import Governance.Proofs.Condition.Acceptance
import Governance.Proofs.Evaluation.Finding
import Governance.Proofs.Evaluation.Truth
import Governance.Proofs.Except
import Governance.Proofs.Evaluation.Walk
import Governance.Proofs.Evaluation.Errors
import Governance.Proofs.Evaluation.Safety
import Governance.Proofs.Violation.Origin
import Governance.Proofs.Policy.Admission
import Governance.Proofs.Policy.Editions
import Governance.Proofs.Policy.Audit
import Governance.Proofs.Policy.Course
import Governance.Proofs.Registry.Updates
import Governance.Proofs.Judgement.Outcome
import Governance.Proofs.Judgement.Judged
import Governance.Proofs.Pool
import Governance.Proofs.Judgement.Bulk
import Governance.Proofs.Evaluation.Reasons
import Governance.Proofs.Condition.WireForm
import Governance.Proofs.Violation.Replay
import Governance.Proofs.Violation.Course
import Governance.Proofs.Judgement.Decision
import Governance.Proofs.Judgement.Workers
import Governance.Proofs.Judgement.Merged
import Governance.Proofs.Registry.Ordered
import Governance.Proofs.Registry.Course
import Governance.Proofs.InPlace
import Governance.Proofs.Service.Transcript
import Governance.Proofs.Service.Isolation
import Governance.Proofs.Number.ReadBack
import Governance.Proofs.Json.Unambiguous
import Governance.Proofs.Condition.Equality
import Governance.Proofs.Condition.CanonicalText
import Governance.Proofs.Condition.Digest
import Governance.Proofs.Judgement.Owned
import Governance.Proofs.Judgement.Reordered
import Governance.Proofs.Judgement.Notified
import Governance.Proofs.Judgement.Blocking
import Governance.Proofs.Condition.Widened
import Governance.Proofs.Time.Calendar
import Governance.Proofs.Time.ReadBack
import Governance.Proofs.Identity.ReadBack
import Governance.Proofs.Policy.Stored
import Governance.Proofs.Policy.Equality
import Governance.Proofs.Policy.Update
import Governance.Proofs.Violation.Stored
import Governance.Proofs.Condition.Occurrences
import Governance.Proofs.Evaluation.Attribution
import Governance.Proofs.Evaluation.Algebra
import Governance.Proofs.Evaluation.Rewriting
import Governance.Proofs.Evaluation.Duality
import Governance.Proofs.Evaluation.Dependence
import Governance.Proofs.Command.Report
import Governance.Proofs.Command.Gate
import Governance.Proofs.Policy.Resubmitted
import Governance.Proofs.Policy.Versions
import Governance.Proofs.Condition.Nodes
import Governance.Proofs.Evaluation.Depth
import Governance.Proofs.Condition.Paths
import Governance.Proofs.Condition.Located
import Governance.Proofs.Condition.Walker
import Governance.Proofs.Condition.Reported
import Governance.Proofs.Text.LowerCase
import Governance.Proofs.Operator.Texts
import Governance.Proofs.Number.Rounding
import Governance.Proofs.Number.Texts
import Governance.Proofs.Operator.Comparison
import Governance.Proofs.Operator.Scalars
import Governance.Proofs.Operator.Digits
import Governance.Proofs.Operator.Families
import Governance.Proofs.Text.Folding
import Governance.Proofs.Operator.Sets
import Governance.Proofs.FieldValue.Readers
import Governance.Proofs.Keyed
import Governance.Proofs.Assessment.Projection
import Governance.Proofs.Violation.Distinct
import Governance.Proofs.Violation.Words
import Governance.Proofs.Evaluation.Account
import Governance.Proofs.Time.StrictForm
import Governance.Proofs.Time.Rendered
import Governance.Proofs.Time.Fractions
import Governance.Proofs.Time.Documents
