import Governance.Number.Style
import Governance.Pattern.Library
import Governance.Text.Quoted

/-!
# Patterns under limits

Patterns come from outside, so they run under two limits: the size of the compiled pattern, which
the library of patterns keeps, and a budget of time, checked after compilation and after the match
against a clock that is handed in. Whether a pattern compiles depends on the pattern and the size
limit alone.
-/

namespace Governance.Pattern

/-! ### Limits and failures -/

/-- Limits on one match. -/
structure Limits where
  budgetMs : Nat
  sizeLimit : Nat
deriving DecidableEq

def defaultBudgetMs : Nat := 50

def defaultSizeLimit : Nat := 1048576

def Limits.default : Limits := ⟨defaultBudgetMs, defaultSizeLimit⟩

/-- Milliseconds that compiling a pattern and then matching a text take. One `Clock` tells the times
of one visit. That a pattern takes the same time at every visit is an assumption, which an
evaluation under one clock makes (`Evaluator.Steady`). -/
structure Clock where
  compiling : String → Nat
  matching : String → String → Nat

/-- The clock that stands still. -/
def Clock.still : Clock := ⟨fun _ => 0, fun _ _ => 0⟩

/-- Why a pattern gives no answer. -/
inductive Failure
  | timeout (pattern : String) (budgetMs : Nat)
  | tooComplex (pattern : String) (sizeLimit : Nat)
  | invalid (pattern : String) (message : String)
deriving DecidableEq

def Failure.message : Failure → String
  | timeout pattern budget =>
    "pattern " ++ Text.quote pattern ++ " exceeded the " ++ Number.intText budget
      ++ "ms evaluation budget"
  | tooComplex pattern limit =>
    "pattern " ++ Text.quote pattern ++ " exceeds the compiled size limit of "
      ++ Number.intText limit ++ " bytes"
  | invalid pattern message => "pattern " ++ Text.quote pattern ++ " is invalid: " ++ message

section Library

variable [Library]

/-- Has the library build a pattern under a size limit. -/
def compile (pattern : String) (sizeLimit : Nat) : Except Failure Library.Program :=
  match Library.build pattern sizeLimit with
  | .ok program => .ok program
  | .error .tooBig => .error (.tooComplex pattern sizeLimit)
  | .error (.malformed message) => .error (.invalid pattern message)

/-- Checks that a pattern compiles within a size. -/
def check (pattern : String) (sizeLimit : Nat) : Except Failure Unit :=
  (compile pattern sizeLimit).map fun _ => ()

/-- Whether a pattern matches somewhere in a text, within limits. The `clock` is looked at after the
pattern has been compiled and again after the match. -/
def matchWithin (clock : Clock) (limits : Limits) (pattern text : String) : Except Failure Bool :=
  match compile pattern limits.sizeLimit with
  | .error e => .error e
  | .ok program =>
    if limits.budgetMs ≤ clock.compiling pattern
        ∨ limits.budgetMs ≤ clock.compiling pattern + clock.matching pattern text then
      .error (.timeout pattern limits.budgetMs)
    else .ok (Library.isMatch program text)

theorem compile_eq_ok_iff {pattern : String} {sizeLimit : Nat} {program : Library.Program} :
    compile pattern sizeLimit = .ok program ↔ Library.build pattern sizeLimit = .ok program := by
  unfold compile
  cases Library.build pattern sizeLimit with
  | ok built => simp
  | error e => cases e <;> simp

theorem check_eq_ok_iff {pattern : String} {sizeLimit : Nat} :
    check pattern sizeLimit = .ok () ↔ ∃ program, compile pattern sizeLimit = .ok program := by
  unfold check
  cases compile pattern sizeLimit <;> simp [Except.map]

/-- **A pattern that compiles within a size compiles within a larger one.** -/
theorem check_of_le {pattern : String} {sizeLimit larger : Nat}
    (h : check pattern sizeLimit = .ok ()) (hle : sizeLimit ≤ larger) :
    check pattern larger = .ok () := by
  simp only [check_eq_ok_iff, compile_eq_ok_iff] at h ⊢
  exact Library.build_mono hle h

/-- A pattern that can be compiled can only run out of time. -/
theorem matchWithin_of_check {clock : Clock} {limits : Limits} {pattern text : String} {e : Failure}
    (h : check pattern limits.sizeLimit = .ok ())
    (he : matchWithin clock limits pattern text = .error e) :
    e = .timeout pattern limits.budgetMs := by
  obtain ⟨program, hprogram⟩ := check_eq_ok_iff.1 h
  unfold matchWithin at he
  rw [hprogram] at he
  simp only at he
  split at he <;> simp_all

end Library

end Governance.Pattern
