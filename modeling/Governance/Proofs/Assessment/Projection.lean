import Governance.Assessment
import Governance.Proofs.Evaluation.Dependence
import Governance.Proofs.Keyed
import Governance.Pattern.Program

/-!
# What conditions see of an assessment

The context of an assessment has its fifteen fixed fields and one field for every custom field. The
names of custom fields begin alike and in a way in which no fixed name begins, so whatever the
author has called them, none takes the place of a fixed field or of another one. A condition that
names no custom field is evaluated alike whatever the custom fields are.

* `nodup_names`: no two fields of a context collide.
* `get?_context`: each is found in the context.
* `valueOf_context_of_customFields`: fixed fields do not change with custom ones.
* `context_faithful`: the context field by field, and what custom fields leave as it is.
-/

namespace Governance

namespace Assessment

/-! ### Attributes by the names of their fields -/

def listAttributes (a : Assessment) : List (String × List String) :=
  [("jurisdictions", a.jurisdictions), ("dataTypes", a.dataTypes), ("techStack", a.techStack),
   ("deploymentRegions", a.deploymentRegions), ("vendors", a.vendors)]

def textAttributes (a : Assessment) : List (String × Option String) :=
  [("industry", a.industry), ("systemCriticality", a.systemCriticality),
   ("riskLevel", a.riskLevel), ("name", a.name), ("status", a.status)]

def numberAttributes (a : Assessment) : List (String × Option Number.Binary64) :=
  [("riskScore", a.riskScore), ("complianceScore", a.complianceScore),
   ("vendorRiskScore", a.vendorRiskScore)]

def truthAttributes (a : Assessment) : List (String × Option Bool) :=
  [("processesPersonalData", a.processesPersonalData), ("humanOversight", a.humanOversight)]

/-- The names of the fixed fields. -/
def fixedNames : List String :=
  ["jurisdictions", "dataTypes", "techStack", "deploymentRegions", "vendors", "industry",
   "systemCriticality", "riskLevel", "name", "status", "riskScore", "complianceScore",
   "vendorRiskScore", "processesPersonalData", "humanOversight"]

/-- How the names of custom fields begin, by `customName`. -/
def customMark : String := "custom."

/-- The field `name` is that of a custom field. -/
def IsCustomName (name : String) : Prop := customMark.toList <+: name.toList

variable {a : Assessment}

theorem map_fst_fixedFields (a : Assessment) : a.fixedFields.map Prod.fst = fixedNames := rfl

/-- The `fixedFields` kind by kind. -/
theorem mem_fixedFields_iff {f : String × FieldValue} :
    f ∈ a.fixedFields ↔
      (∃ g ∈ a.listAttributes, (g.1, .texts g.2) = f)
        ∨ (∃ g ∈ a.textAttributes, (g.1, textField g.2) = f)
        ∨ (∃ g ∈ a.numberAttributes, (g.1, numberField g.2) = f)
        ∨ ∃ g ∈ a.truthAttributes, (g.1, boolField g.2) = f := by
  have hparts : a.fixedFields = a.listAttributes.map (fun g => (g.1, .texts g.2))
      ++ a.textAttributes.map (fun g => (g.1, textField g.2))
      ++ a.numberAttributes.map (fun g => (g.1, numberField g.2))
      ++ a.truthAttributes.map (fun g => (g.1, boolField g.2)) := rfl
  simp only [hparts, List.mem_append, List.mem_map, or_assoc]

theorem textField_eq (s : Option String) : textField s = s.elim .null .text := by
  cases s <;> rfl

theorem numberField_eq (x : Option Number.Binary64) :
    numberField x = (x.filter Number.Binary64.isFinite).elim .null .number := by
  cases x with
  | none => rfl
  | some x =>
    rw [numberField, Option.filter_some]
    split <;> rfl

theorem boolField_eq (b : Option Bool) : boolField b = b.elim .null .bool := by
  cases b <;> rfl

theorem customValue_eq (j : Json) :
    customValue j = (FieldValue.ofJson j).toOption.getD .null := by
  rw [customValue]
  cases FieldValue.ofJson j <;> rfl

/-! ### Names -/

theorem isCustomName_customName (name : String) : IsCustomName (customName name) := by
  rw [IsCustomName, customName, String.toList_append]
  exact List.prefix_append _ _

theorem customName_injective {name other : String} (h : customName name = customName other) :
    name = other := by
  rw [customName, customName, ← String.toList_inj, String.toList_append, String.toList_append] at h
  exact String.toList_inj.1 (List.append_cancel_left h)

theorem not_isCustomName_of_mem_fixedNames {name : String} (h : name ∈ fixedNames) :
    ¬IsCustomName name := by
  have hall : ∀ name ∈ fixedNames, ¬customMark.toList <+: name.toList := by decide
  exact hall name h

theorem map_fst_customContextFields (a : Assessment) :
    a.customContextFields.map Prod.fst = a.customFields.map fun f => customName f.1 := by
  rw [customContextFields, List.map_map]
  rfl

/-- **No two fields of a context collide**, when no two of `a.customFields` have one name. -/
theorem nodup_names (h : (a.customFields.map Prod.fst).Nodup) :
    ((a.fixedFields ++ a.customContextFields).map Prod.fst).Nodup := by
  rw [List.map_append, map_fst_fixedFields, map_fst_customContextFields]
  refine List.nodup_append.2 ⟨by decide, ?_, fun name hfixed other hcustom heq => ?_⟩
  · have hnames : ((a.customFields.map Prod.fst).map customName).Nodup :=
      List.Pairwise.map customName (fun _ _ => mt customName_injective) h
    rwa [List.map_map] at hnames
  · obtain ⟨f, -, rfl⟩ := List.mem_map.1 hcustom
    exact not_isCustomName_of_mem_fixedNames hfixed (heq ▸ isCustomName_customName f.1)

/-! ### Fields -/

theorem fields_context (a : Assessment) :
    a.context.fields = Keyed.ofList (a.fixedFields ++ a.customContextFields) := by
  rw [context]

theorem fields_context_perm (h : (a.customFields.map Prod.fst).Nodup) :
    a.context.fields.Perm (a.fixedFields ++ a.customContextFields) := by
  rw [fields_context]
  exact Keyed.perm_ofList (nodup_names h)

/-- **Each field is found in the context** by `get?`. -/
theorem get?_context (h : (a.customFields.map Prod.fst).Nodup) {name : String} {value : FieldValue}
    (hfield : (name, value) ∈ a.fixedFields ++ a.customContextFields) :
    a.context.get? name = some value := by
  have hperm := fields_context_perm h
  exact Keyed.find?_eq_some_of_nodup ((hperm.map Prod.fst).nodup_iff.2 (nodup_names h))
    (hperm.mem_iff.2 hfield)

/-- **Fixed fields do not change with custom ones**: `valueOf` says the same of a name that is not
custom. -/
theorem valueOf_context_of_customFields (customFields : List (String × Json)) {name : String}
    (h : ¬IsCustomName name) :
    { a with customFields := customFields }.context.valueOf name = a.context.valueOf name := by
  have hother (a : Assessment) :
      a.context.valueOf name = ((Keyed.find? (Keyed.ofList a.fixedFields) name).getD .null) := by
    have hname : name ∉ a.customContextFields.map Prod.fst := by
      rw [map_fst_customContextFields]
      intro hmem
      obtain ⟨f, -, rfl⟩ := List.mem_map.1 hmem
      exact h (isCustomName_customName f.1)
    rw [Context.valueOf, Context.get?, fields_context, Keyed.ofList, List.foldl_append,
      Keyed.find?_foldl_of_not_mem hname, Keyed.ofList]
  have hfixed : { a with customFields := customFields }.fixedFields = a.fixedFields := rfl
  rw [hother, hother, hfixed]

/-! ### The whole context -/

section Library

variable [Pattern.Library]

/-- **The context of an assessment is faithful, and custom fields shadow nothing.** The fields of
`a.context` are the fixed ones and one for every custom field, and no two have one name. Each fixed
field tells its own attribute: an absent list is empty, and any other attribute that is absent,
infinite or no number is `null`. Each custom field tells the value that stands for what was
recorded, `null` if none does. And a condition `c` that names no custom field leaves the same trace,
or none for the same reason, whatever the custom fields are. -/
theorem context_faithful (a : Assessment) (h : (a.customFields.map Prod.fst).Nodup) :
    (a.context.fields.map Prod.fst).Perm
        (fixedNames ++ a.customFields.map fun f => "custom." ++ f.1)
      ∧ (a.context.fields.map Prod.fst).Nodup
      ∧ a.context.size = 15 + a.customFields.length
      ∧ (∀ f ∈ a.listAttributes, a.context.get? f.1 = some (.texts f.2))
      ∧ (∀ f ∈ a.textAttributes, a.context.get? f.1 = some (f.2.elim .null .text))
      ∧ (∀ f ∈ a.numberAttributes,
        a.context.get? f.1 = some ((f.2.filter Number.Binary64.isFinite).elim .null .number))
      ∧ (∀ f ∈ a.truthAttributes, a.context.get? f.1 = some (f.2.elim .null .bool))
      ∧ (∀ f ∈ a.customFields,
        a.context.get? ("custom." ++ f.1) = some ((FieldValue.ofJson f.2).toOption.getD .null))
      ∧ ∀ (customFields : List (String × Json)) (clock : Pattern.Clock) (limits : EvaluationLimits)
        (c : Condition), (∀ l ∈ c.leaves, ¬"custom.".toList <+: l.field.toList) →
          c.evaluate clock limits { a with customFields := customFields }.context
            = c.evaluate clock limits a.context := by
  have hperm := fields_context_perm h
  have hfixed {f : String × FieldValue} (hf : f ∈ a.fixedFields) :
      a.context.get? f.1 = some f.2 := get?_context h (List.mem_append_left _ hf)
  refine ⟨?_, (hperm.map Prod.fst).nodup_iff.2 (nodup_names h), ?_, fun f hf => ?_, fun f hf => ?_,
    fun f hf => ?_, fun f hf => ?_, fun f hf => ?_, fun customFields clock limits c hc => ?_⟩
  · have hnames := hperm.map Prod.fst
    rwa [List.map_append, map_fst_fixedFields, map_fst_customContextFields] at hnames
  · have hlength := hperm.length_eq
    rwa [List.length_append, customContextFields, List.length_map] at hlength
  · exact hfixed (mem_fixedFields_iff.2 (.inl ⟨f, hf, rfl⟩))
  · rw [← textField_eq]
    exact hfixed (mem_fixedFields_iff.2 (.inr (.inl ⟨f, hf, rfl⟩)))
  · rw [← numberField_eq]
    exact hfixed (mem_fixedFields_iff.2 (.inr (.inr (.inl ⟨f, hf, rfl⟩))))
  · rw [← boolField_eq]
    exact hfixed (mem_fixedFields_iff.2 (.inr (.inr (.inr ⟨f, hf, rfl⟩))))
  · rw [← customValue_eq]
    exact get?_context h (List.mem_append_right _ (List.mem_map_of_mem hf))
  · exact Condition.evaluate_congr fun l hl =>
      valueOf_context_of_customFields customFields (hc l hl)

end Library

/-- Custom fields named like a fixed one, like a custom one, and not at all; and a score that is no
number. The rule asks for a name that only starts like a custom one. -/
theorem context_faithful_shadows :
    let a : Assessment :=
      { bare ⟨⟨"system", by decide⟩⟩ ⟨⟨"geo-eu", by decide⟩⟩ with
        industry := some "health"
        riskScore := some .nan
        customFields := [("industry", .text "law"), ("custom.", .bool true), ("", .object [])] }
    let rule : Condition :=
      .and [.leaf ⟨"industry", .equals, .text "law"⟩, .leaf ⟨"custom", .isNull, .null⟩]
    (a.customFields.map Prod.fst).Nodup
      ∧ a.context.size = 18
      ∧ a.context.get? "industry" = some (.text "health")
      ∧ a.context.get? "custom.industry" = some (.text "law")
      ∧ a.context.get? "custom.custom." = some (.bool true)
      ∧ a.context.get? "custom." = some .null
      ∧ a.context.get? "riskScore" = some .null
      ∧ rule.evaluate .still .default { a with customFields := [] }.context
        = rule.evaluate .still .default a.context := by
  intro a rule
  have hnodup : (a.customFields.map Prod.fst).Nodup := by decide
  obtain ⟨-, -, hsize, -, htexts, hnumbers, -, hcustom, hevaluate⟩ := context_faithful a hnodup
  exact ⟨hnodup, hsize, htexts ("industry", some "health") (by simp [textAttributes, a]),
    hcustom ("industry", .text "law") (by simp [a]),
    hcustom ("custom.", .bool true) (by simp [a]),
    hcustom ("", .object []) (by simp [a]),
    hnumbers ("riskScore", some .nan) (by simp [numberAttributes, a]),
    hevaluate [] .still .default rule (by decide)⟩

end Assessment

end Governance
