import Governance.Evaluation.Evaluator
import Governance.Number.Numeral

/-!
# Configuration

Four limits that validation and evaluation share. Each has a default, may be given in a document
that knows no other member, and may be overridden by a variable of the environment. None may be
zero.
-/

namespace Governance

open Decode

/-- The limits of an engine. -/
structure Config where
  /-- Milliseconds that one pattern may take. -/
  regexBudgetMs : Nat
  /-- The size that a compiled pattern may have. -/
  regexSizeLimit : Nat
  /-- How many policies may be judged at a time. -/
  maxWorkers : Nat
  /-- The greatest depth of conditions. -/
  maxConditionDepth : Nat
deriving DecidableEq

namespace Config

def default : Config := ⟨Pattern.defaultBudgetMs, Pattern.defaultSizeLimit, 16, defaultMaxDepth⟩

def evaluationLimits (c : Config) : EvaluationLimits :=
  ⟨⟨c.regexBudgetMs, c.regexSizeLimit⟩, c.maxConditionDepth⟩

def validationLimits (c : Config) : ValidationLimits := ⟨c.maxConditionDepth, c.regexSizeLimit⟩

/-! ### Documents -/

def toJson (c : Config) : Json :=
  .object
    [("regex_budget_ms", .nat c.regexBudgetMs), ("regex_size_limit", .nat c.regexSizeLimit),
      ("max_workers", .nat c.maxWorkers), ("max_condition_depth", .nat c.maxConditionDepth)]

def declared : List String :=
  ["regex_budget_ms", "regex_size_limit", "max_workers", "max_condition_depth"]

def ofJson (j : Json) : Reading Config := do
  let r ← record "EngineConfig" declared j
  let budget := r.slot "regex_budget_ms" (natural "u64")
  let size := r.slot "regex_size_limit" (natural "usize")
  let workers := r.slot "max_workers" (natural "usize")
  let depth := r.slot "max_condition_depth" (natural "usize")
  r.settle ([budget.fault, size.fault, workers.fault, depth.fault] ++ r.strangers)
  .ok
    { regexBudgetMs := ← budget.getD default.regexBudgetMs
      regexSizeLimit := ← size.getD default.regexSizeLimit
      maxWorkers := ← workers.getD default.maxWorkers
      maxConditionDepth := ← depth.getD default.maxConditionDepth }

/-! ### Faults -/

/-- Why a configuration is refused. -/
inductive Fault
  /-- Variable `name` is set to a `value` that is no number. -/
  | invalidVariable (name value : String)
  | zero (field : String)
deriving DecidableEq

def Fault.message : Fault → String
  | invalidVariable name value =>
    name ++ "=" ++ Text.quote value ++ " is not a valid unsigned integer"
  | zero field => field ++ " must be greater than zero"

/-- The configuration `c`, if no limit is zero. -/
def validate (c : Config) : Except Fault Config :=
  if c.regexBudgetMs = 0 then .error (.zero "regex_budget_ms")
  else if c.regexSizeLimit = 0 then .error (.zero "regex_size_limit")
  else if c.maxWorkers = 0 then .error (.zero "max_workers")
  else if c.maxConditionDepth = 0 then .error (.zero "max_condition_depth")
  else .ok c

/-! ### The environment -/

/-- The natural number of at most 64 bits that `s` writes, with an optional plus sign. -/
def readNatural? (s : String) : Option Nat :=
  let digits := match s.toList with
    | '+' :: rest => rest
    | cs => cs
  (Number.natOfChars? digits).filter fun n => n < UInt64.size

/-- The value that the variable `name` sets, or the `present` one. -/
def override (environment : String → Option String) (name : String) (present : Nat) :
    Except Fault Nat :=
  match environment name with
  | none => .ok present
  | some value =>
    match readNatural? (Text.trim value) with
    | some n => .ok n
    | none => .error (.invalidVariable name value)

def budgetVariable : String := "RGOV_REGEX_BUDGET_MS"

def sizeVariable : String := "RGOV_REGEX_SIZE_LIMIT"

def workersVariable : String := "RGOV_MAX_WORKERS"

def depthVariable : String := "RGOV_MAX_CONDITION_DEPTH"

/-- The variables that set limits. -/
def variableNames : List String := [budgetVariable, sizeVariable, workersVariable, depthVariable]

/-- The configuration `c` with the values that variables set, none of them zero. -/
def withOverrides (c : Config) (environment : String → Option String) : Except Fault Config := do
  let budget ← override environment budgetVariable c.regexBudgetMs
  let size ← override environment sizeVariable c.regexSizeLimit
  let workers ← override environment workersVariable c.maxWorkers
  let depth ← override environment depthVariable c.maxConditionDepth
  validate ⟨budget, size, workers, depth⟩

/-! ### What is known of an accepted configuration -/

theorem validate_eq_ok_iff {c d : Config} :
    c.validate = .ok d ↔
      d = c ∧ c.regexBudgetMs ≠ 0 ∧ c.regexSizeLimit ≠ 0 ∧ c.maxWorkers ≠ 0
        ∧ c.maxConditionDepth ≠ 0 := by
  unfold validate
  repeat' split
  all_goals simp_all [eq_comm]

theorem validate_default : default.validate = .ok default := rfl

end Config

end Governance
