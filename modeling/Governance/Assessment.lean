import Governance.Context
import Governance.Identity.Names

/-!
# Assessments

The risk record that policies are judged against, and the context that conditions see of it:
fifteen fixed fields, and one field for every custom field, under a name that no fixed field has.
An absent list reads as an empty one; any other absent or unusable value reads as null.
-/

namespace Governance

open Decode Number

/-- A risk assessment of one system of a tenant. -/
structure Assessment where
  id : AssessmentId
  tenant : TenantId
  name : Option String
  status : Option String
  industry : Option String
  systemCriticality : Option String
  riskLevel : Option String
  riskScore : Option Binary64
  complianceScore : Option Binary64
  vendorRiskScore : Option Binary64
  processesPersonalData : Option Bool
  humanOversight : Option Bool
  jurisdictions : List String
  dataTypes : List String
  techStack : List String
  deploymentRegions : List String
  vendors : List String
  /-- Whatever else the author recorded, by name. -/
  customFields : List (String × Json)

namespace Assessment

/-- The assessment of which nothing but `id` and `tenant` is known. -/
def bare (id : AssessmentId) (tenant : TenantId) : Assessment where
  id := id
  tenant := tenant
  name := none
  status := none
  industry := none
  systemCriticality := none
  riskLevel := none
  riskScore := none
  complianceScore := none
  vendorRiskScore := none
  processesPersonalData := none
  humanOversight := none
  jurisdictions := []
  dataTypes := []
  techStack := []
  deploymentRegions := []
  vendors := []
  customFields := []

/-! ### Documents -/

def toJson (a : Assessment) : Json :=
  .object
    [("id", a.id.toJson), ("geographyAccountId", a.tenant.toJson),
      ("name", .ofOption .text a.name), ("status", .ofOption .text a.status),
      ("industry", .ofOption .text a.industry),
      ("systemCriticality", .ofOption .text a.systemCriticality),
      ("riskLevel", .ofOption .text a.riskLevel), ("riskScore", .ofOption .float a.riskScore),
      ("complianceScore", .ofOption .float a.complianceScore),
      ("vendorRiskScore", .ofOption .float a.vendorRiskScore),
      ("processesPersonalData", .ofOption .bool a.processesPersonalData),
      ("humanOversight", .ofOption .bool a.humanOversight),
      ("jurisdictions", .texts a.jurisdictions), ("dataTypes", .texts a.dataTypes),
      ("techStack", .texts a.techStack), ("deploymentRegions", .texts a.deploymentRegions),
      ("vendors", .texts a.vendors), ("customFields", .object a.customFields)]

def declared : List String :=
  ["id", "geographyAccountId", "name", "status", "industry", "systemCriticality", "riskLevel",
   "riskScore", "complianceScore", "vendorRiskScore", "processesPersonalData", "humanOversight",
   "jurisdictions", "dataTypes", "techStack", "deploymentRegions", "vendors", "customFields"]

def ofJson (j : Json) : Reading Assessment := do
  let r ← record "Assessment" declared j
  let id := r.slot "id" AssessmentId.ofJson
  let tenant := r.slot "geographyAccountId" TenantId.ofJson
  let name := r.slot "name" (option text)
  let status := r.slot "status" (option text)
  let industry := r.slot "industry" (option text)
  let systemCriticality := r.slot "systemCriticality" (option text)
  let riskLevel := r.slot "riskLevel" (option text)
  let riskScore := r.slot "riskScore" (option number)
  let complianceScore := r.slot "complianceScore" (option number)
  let vendorRiskScore := r.slot "vendorRiskScore" (option number)
  let processesPersonalData := r.slot "processesPersonalData" (option bool)
  let humanOversight := r.slot "humanOversight" (option bool)
  let jurisdictions := r.slot "jurisdictions" texts
  let dataTypes := r.slot "dataTypes" texts
  let techStack := r.slot "techStack" texts
  let deploymentRegions := r.slot "deploymentRegions" texts
  let vendors := r.slot "vendors" texts
  let customFields := r.slot "customFields" members
  r.settle
    [id.fault, tenant.fault, name.fault, status.fault, industry.fault, systemCriticality.fault,
      riskLevel.fault, riskScore.fault, complianceScore.fault, vendorRiskScore.fault,
      processesPersonalData.fault, humanOversight.fault, jurisdictions.fault, dataTypes.fault,
      techStack.fault, deploymentRegions.fault, vendors.fault, customFields.fault]
  .ok
    { id := ← r.required id
      tenant := ← r.required tenant
      name := ← name.getD none
      status := ← status.getD none
      industry := ← industry.getD none
      systemCriticality := ← systemCriticality.getD none
      riskLevel := ← riskLevel.getD none
      riskScore := ← riskScore.getD none
      complianceScore := ← complianceScore.getD none
      vendorRiskScore := ← vendorRiskScore.getD none
      processesPersonalData := ← processesPersonalData.getD none
      humanOversight := ← humanOversight.getD none
      jurisdictions := ← jurisdictions.getD []
      dataTypes := ← dataTypes.getD []
      techStack := ← techStack.getD []
      deploymentRegions := ← deploymentRegions.getD []
      vendors := ← vendors.getD []
      customFields := ← customFields.getD [] }

/-! ### The context -/

def textField : Option String → FieldValue
  | some s => .text s
  | none => .null

/-- A number that is infinite or none counts as absent. -/
def numberField : Option Binary64 → FieldValue
  | some x => if x.isFinite then .number x else .null
  | none => .null

def boolField : Option Bool → FieldValue
  | some b => .bool b
  | none => .null

/-- The fields that every assessment has, with what `a` says of them. -/
def fixedFields (a : Assessment) : List (String × FieldValue) :=
  [("jurisdictions", .texts a.jurisdictions), ("dataTypes", .texts a.dataTypes),
   ("techStack", .texts a.techStack), ("deploymentRegions", .texts a.deploymentRegions),
   ("vendors", .texts a.vendors), ("industry", textField a.industry),
   ("systemCriticality", textField a.systemCriticality), ("riskLevel", textField a.riskLevel),
   ("name", textField a.name), ("status", textField a.status),
   ("riskScore", numberField a.riskScore), ("complianceScore", numberField a.complianceScore),
   ("vendorRiskScore", numberField a.vendorRiskScore),
   ("processesPersonalData", boolField a.processesPersonalData),
   ("humanOversight", boolField a.humanOversight)]

/-- The name that a context gives to the custom field `name`. -/
def customName (name : String) : String := "custom." ++ name

/-- The value of a custom field; `j` is `null` if no field value stands for it. -/
def customValue (j : Json) : FieldValue :=
  match FieldValue.ofJson j with
  | .ok v => v
  | .error _ => .null

def customContextFields (a : Assessment) : List (String × FieldValue) :=
  a.customFields.map fun f => (customName f.1, customValue f.2)

/-- What conditions see of the assessment `a`. -/
def context (a : Assessment) : Context :=
  ⟨Keyed.ofList (a.fixedFields ++ a.customContextFields)⟩

theorem isFinite_textField (s : Option String) : (textField s).isFinite = true := by
  cases s <;> rfl

theorem isFinite_boolField (b : Option Bool) : (boolField b).isFinite = true := by
  cases b <;> rfl

theorem isFinite_numberField (x : Option Binary64) : (numberField x).isFinite = true := by
  cases x with
  | none => rfl
  | some x =>
    rw [numberField]
    split
    · next hfinite => exact hfinite
    · rfl

theorem isFinite_customValue (j : Json) : (customValue j).isFinite = true := by
  unfold customValue
  split
  · next v hv => exact FieldValue.isFinite_of_ofJson hv
  · rfl

theorem isFinite_of_mem_fixedFields {a : Assessment} {f : String × FieldValue}
    (h : f ∈ a.fixedFields) : f.2.isFinite = true := by
  have hall : ∀ v ∈ a.fixedFields.map Prod.snd, v.isFinite = true := by
    simp only [fixedFields, List.map_cons, List.map_nil, List.forall_mem_cons,
      isFinite_textField, isFinite_boolField, isFinite_numberField]
    simp [FieldValue.isFinite]
  exact hall f.2 (List.mem_map_of_mem h)

/-- No field of `a.context` holds a number that is infinite or none. -/
theorem isFinite_valueOf_context (a : Assessment) (name : String) :
    (a.context.valueOf name).isFinite = true := by
  rw [Context.valueOf, Context.get?, context]
  cases hfind : Keyed.find? (Keyed.ofList (a.fixedFields ++ a.customContextFields)) name with
  | none => rfl
  | some v =>
    show v.isFinite = true
    rcases List.mem_append.1 (Keyed.mem_of_find?_ofList hfind) with hfixed | hcustom
    · exact isFinite_of_mem_fixedFields hfixed
    · obtain ⟨f, -, hf⟩ := List.mem_map.1 hcustom
      obtain rfl : customValue f.2 = v := congrArg Prod.snd hf
      exact isFinite_customValue f.2

end Assessment

end Governance
