import Governance.Identity.Names
import Governance.Text.LowerCase

/-!
# Severity

Five levels, the most severe first. The order is the order of reports.
-/

namespace Governance

/-- How severe a policy's violations are. -/
inductive Severity
  | critical
  | high
  | medium
  | low
  | info
deriving DecidableEq

namespace Severity

def all : List Severity := [critical, high, medium, low, info]

def label : Severity → String
  | critical => "CRITICAL"
  | high => "HIGH"
  | medium => "MEDIUM"
  | low => "LOW"
  | info => "INFO"

/-- The place in reports; the most severe comes first. -/
def rank : Severity → Nat
  | critical => 0
  | high => 1
  | medium => 2
  | low => 3
  | info => 4

/-- Labels with their levels. -/
def table : List (String × Severity) := all.map fun s => (s.label, s)

/-- A label that names no level. -/
structure Unknown where
  label : String

def Unknown.message (u : Unknown) : String := "unknown severity: " ++ Text.quote u.label

/-- Reads a label, `s`, in any case of letters, blanks around it passed over. -/
def read (s : String) : Except Unknown Severity :=
  match table.find? fun entry => entry.1 == Text.upperAscii (Text.trim s) with
  | some entry => .ok entry.2
  | none => .error ⟨s⟩

def toJson (s : Severity) : Json := .text s.label

def ofJson : Json → Decode.Reading Severity := Decode.variant table

/-- Puts the level `s` in its place by `rank`, behind equal ones. -/
def insertByRank (s : Severity) : List Severity → List Severity
  | [] => [s]
  | t :: rest => if s.rank < t.rank then s :: t :: rest else t :: insertByRank s rest

/-- The levels from most to least severe. -/
def sorted (levels : List Severity) : List Severity :=
  levels.foldl (fun acc s => insertByRank s acc) []

theorem rank_injective {s t : Severity} (h : s.rank = t.rank) : s = t := by
  cases s <;> cases t <;> simp_all [rank]

end Severity

end Governance
