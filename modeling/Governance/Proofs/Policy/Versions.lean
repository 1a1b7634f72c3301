import Governance.Proofs.Policy.Stored
import Governance.Pattern.Program

/-!
# Version numbers of a policy

Each revision puts the version up by one, and the count starts anew after the last number. A policy
with numbers enough to go turns down all that was meant for an earlier version. One that is read
from a document may be at the last number, and then its next version comes before all the others.

* `Change.version_eq`: a change counts on by one, or not at all.
* `version_le_live`: as long as there are numbers to go, a life counts upwards only.
* `update_advances`: an update makes the next version, and everybody who has seen an earlier one is
  told so, exactly when the old version was not the last number.
-/

namespace Governance

namespace Policy

variable {p q : Policy} {limits : ValidationLimits} {expected : Version} {u : PolicyUpdate}

/-! ### Counting -/

section Library

variable [Pattern.Library]

theorem Change.version_eq (h : p.Change q) : q.version = p.version ∨ q.version = p.version + 1 := by
  cases h with
  | none => exact .inl rfl
  | revised now limits u conditions => exact .inr rfl
  | moved now target => exact .inl rfl

omit [Pattern.Library] in
/-- The next number, of `q`, is greater unless the count starts anew. -/
theorem lt_succ_version_iff (h : q.version = p.version + 1) :
    p.version < q.version ↔ p.version.toNat + 1 < UInt64.size := by
  constructor
  · intro hlt
    by_contra hroom
    -- Behind the last number comes zero, and nothing is below that.
    have hbound := p.version.toNat_lt_size
    have hlast : p.version.toNat + 1 = UInt64.size := by omega
    have hzero : q.version.toNat = (p.version.toNat + 1) % UInt64.size := by
      rw [h, UInt64.toNat_add]
      rfl
    rw [hlast, Nat.mod_self] at hzero
    rw [UInt64.lt_iff_toNat_lt, hzero] at hlt
    exact Nat.not_lt_zero _ hlt
  · intro hroom
    rw [UInt64.lt_iff_toNat_lt, toNat_succ_version h hroom]
    exact Nat.lt_succ_self _

/-- A `Change` does not count backwards, and takes one number at most. -/
theorem Change.toNat_version (h : p.Change q) (hroom : p.version.toNat + 1 < UInt64.size) :
    p.version.toNat ≤ q.version.toNat ∧ q.version.toNat ≤ p.version.toNat + 1 := by
  rcases h.version_eq with hsame | hnext
  · rw [hsame]
    omega
  · rw [toNat_succ_version hnext hroom]
    omega

/-- **A life counts upwards**: `live` does not lower the version, as long as there are numbers to
go. -/
theorem version_le_live (requests : List Request)
    (hroom : p.version.toNat + requests.length < UInt64.size) :
    p.version ≤ (p.live requests).version := by
  rw [UInt64.le_iff_toNat_le]
  induction requests generalizing p with
  | nil => exact Nat.le_refl _
  | cons r rest ih =>
    rw [List.length_cons] at hroom
    obtain ⟨hle, hnext⟩ := (p.change_grant r).toNat_version (by omega)
    exact Nat.le_trans hle (ih (by omega))

/-! ### Earlier versions -/

/-- An update is turned down as stale (`staleVersion`) when the policy is not archived and has
another version than `expected`. -/
theorem update_eq_stale_iff {now : Timestamp} :
    p.update now limits expected u = .error (.staleVersion expected p.version) ↔
      p.status ≠ .archived ∧ expected ≠ p.version := by
  rw [update_eq_error_iff]
  constructor
  · rintro (_ | ⟨hlive, hstale⟩)
    exact ⟨hlive, hstale⟩
  · rintro ⟨hlive, hstale⟩
    exact .stale hlive hstale

/-- **An update makes the next version.** Let `p` admit the update `u` for its current version, and
let `u` ask for something that `p.content` does not have. It goes through, and leaves a policy `q`.
The version of `q` is greater than that of `p`, and everybody who has seen the old one or an earlier
one is turned down as stale (`staleVersion`), if and only if the old one was not the last number.
With numbers enough to go this stays so, whatever `q` is asked in between, until it is archived. -/
theorem update_advances (p : Policy) (limits : ValidationLimits) (u : PolicyUpdate)
    (hadmits : p.Admits limits p.version u) (hchanges : ¬ u.MetBy limits p.content)
    (now : Timestamp) :
    ∃ q, p.update now limits p.version u = .ok (some q)
      ∧ q.version.toNat = (p.version.toNat + 1) % UInt64.size
      ∧ (p.version < q.version ↔ p.version.toNat + 1 < UInt64.size)
      ∧ ((∀ v ≤ p.version, ∀ later limits' u',
          q.update later limits' v u' = .error (.staleVersion v q.version))
        ↔ p.version.toNat + 1 < UInt64.size)
      ∧ ∀ requests : List Request, p.version.toNat + 1 + requests.length < UInt64.size →
        ∀ v ≤ p.version, ∀ later limits' u',
          let s := q.live requests
          s.update later limits' v u' = .error (.terminalState .archived)
            ∨ s.update later limits' v u' = .error (.staleVersion v s.version) := by
  obtain ⟨q, hq⟩ : ∃ q, p.update now limits p.version u = .ok (some q) := by
    cases hanswer : p.update now limits p.version u with
    | error e => exact absurd (update_eq_error_iff.1 hanswer) (admits_iff.1 hadmits e)
    | ok changed =>
      cases changed with
      | none => exact absurd (metBy_of_update_eq_none hanswer) hchanges
      | some q => exact ⟨q, rfl⟩
  have hrevised := revised_of_update_eq_some hq
  have hlt := lt_succ_version_iff hrevised.version
  have hlive : q.status ≠ .archived := hrevised.status ▸ hadmits.live
  refine ⟨q, hq, by rw [hrevised.version, UInt64.toNat_add]; rfl, hlt, ?_, ?_⟩
  · rw [← hlt]
    constructor
    · -- The new version would itself be turned down if it did not come later.
      intro hstale
      by_contra hnot
      have hself := hstale q.version (UInt64.not_lt.1 hnot) now limits u
      exact (update_eq_stale_iff.1 hself).2 rfl
    · intro hlt v hv later limits' u'
      have hne : v ≠ q.version := by
        rintro rfl
        exact UInt64.not_lt.2 hv hlt
      exact update_eq_stale_iff.2 ⟨hlive, hne⟩
  · intro requests hroom v hv later limits' u' s
    have hnext := toNat_succ_version hrevised.version (by omega)
    have hle : q.version ≤ s.version := version_le_live requests (by omega)
    have hne : v ≠ s.version := by
      rintro rfl
      exact UInt64.not_lt.2 (UInt64.le_trans hle hv) (hlt.2 (by omega))
    by_cases harchived : s.status = .archived
    · exact .inl (update_eq_error_iff.2 (.terminal harchived))
    · exact .inr (update_eq_stale_iff.2 ⟨harchived, hne⟩)

/-- The rule of oversight at the given `version`. -/
def oversightAt (version : Version) : Policy where
  id := ⟨Uuid.ofNat 1⟩
  tenant := oversightRule.tenant
  version := version
  content := oversightRule.content.withConditions
    (.or [.leaf ⟨"humanOversight", .isTrue, .null⟩, .not (.leaf ⟨"riskLevel", .isNull, .null⟩)])
  status := .active
  createdAt := ⟨0, 0⟩
  updatedAt := ⟨0, 0⟩
  history := []
  transitions := []

theorem storable_oversightAt (version : Version) : (oversightAt version).Storable := by
  have hcheck : oversightRule.content.conditions.check .default
    = .ok (oversightAt version).content.conditions := rfl
  have htree := Condition.storable_of_check hcheck ⟨Nat.le_refl _, Nat.le_refl _⟩
  have htold : Timestamp.Tellable ⟨0, 0⟩ := ⟨by decide, .inl (by decide)⟩
  exact ⟨htree, nofun, htold, htold, nofun, nofun⟩

end Library

/-- Whoever has seen the first version of the rule is turned down once its severity has been
lowered, and also when it has been archived since. -/
theorem update_advances_oversightAt :
    let p := oversightAt 1
    p.Admits .default p.version (severityUpdate .low)
      ∧ ¬ (severityUpdate .low).MetBy .default p.content
      ∧ ∃ q, p.update ⟨1, 0⟩ .default p.version (severityUpdate .low) = .ok (some q)
        ∧ p.version < q.version
        ∧ q.update ⟨2, 0⟩ .default 1 (severityUpdate .medium) = .error (.staleVersion 1 2)
        ∧ ∃ e, (q.live [.markDeprecated ⟨3, 0⟩, .archive ⟨4, 0⟩]).update ⟨5, 0⟩ .default 1
          (severityUpdate .medium) = .error e := by
  intro p
  have hadmits : p.Admits .default p.version (severityUpdate .low) := ⟨by decide, rfl, nofun, nofun⟩
  have hchanges : ¬ (severityUpdate .low).MetBy .default p.content := fun h =>
    absurd (h.severity .low rfl) (by decide)
  have hroom : p.version.toNat + 1 < UInt64.size := by decide
  obtain ⟨q, hq, hversion, hlt, hstale, hlater⟩ :=
    update_advances p .default (severityUpdate .low) hadmits hchanges ⟨1, 0⟩
  have htwo : q.version = 2 := UInt64.toNat_inj.1 hversion
  have hturned := hstale.2 hroom 1 (by decide) ⟨2, 0⟩ .default (severityUpdate .medium)
  rw [htwo] at hturned
  refine ⟨hadmits, hchanges, q, hq, hlt.2 hroom, hturned, ?_⟩
  rcases hlater [.markDeprecated ⟨3, 0⟩, .archive ⟨4, 0⟩] (by decide) 1 (by decide) ⟨5, 0⟩ .default
    (severityUpdate .medium) with h | h
  · exact ⟨_, h⟩
  · exact ⟨_, h⟩

/-- A policy may be read from a document at the last number. Then its update goes through, the new
version is zero, and whoever has seen version zero is not turned down. -/
theorem update_startsAnew_oversightAt :
    let p := oversightAt 18446744073709551615
    (∀ fresh now, ofJson fresh now p.toJson = .ok p)
      ∧ p.status ≠ .archived
      ∧ ∃ q, p.update ⟨1, 0⟩ .default p.version (severityUpdate .low) = .ok (some q)
        ∧ q.version = 0 ∧ ¬ p.version < q.version
        ∧ ∃ s, q.update ⟨2, 0⟩ .default 0 (severityUpdate .medium) = .ok (some s) := by
  intro p
  let q := p.revise ⟨1, 0⟩ ((severityUpdate .low).apply none p.content)
  let s := q.revise ⟨2, 0⟩ ((severityUpdate .medium).apply none q.content)
  have hversion : q.version = 0 := by decide
  have hq : p.update ⟨1, 0⟩ .default p.version (severityUpdate .low) = .ok (some q) :=
    update_eq_some_iff.2 ⟨rfl, rfl, rfl, none, rfl, by decide, rfl⟩
  have hs : q.update ⟨2, 0⟩ .default 0 (severityUpdate .medium) = .ok (some s) :=
    update_eq_some_iff.2 ⟨rfl, hversion.symm, rfl, none, rfl, by decide, rfl⟩
  refine ⟨(storable_oversightAt _).ofJson_toJson, by decide, q, hq, hversion, ?_, s, hs⟩
  rw [hversion]
  exact UInt64.not_lt_zero

end Policy

end Governance
