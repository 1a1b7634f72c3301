import Mathlib.Data.List.Nodup
import Governance.Proofs.Policy.Admission

/-!
# The editions of a policy

A policy keeps what each of its versions says: that of the earlier ones in its history, that of the
current one in its content. `Policy.Change` lists all that a call can do to a policy, refusals
included, and what is said here of calls goes through it.

* `change_after`: a call does nothing else.
* `Change.editions_prefix`: an edition, once kept, stays at its place.
* `Numbered.editionAt`: as long as version numbers have not come round, a version is kept once, and
  at the place that its number gives.
-/

namespace Governance

namespace Policy

/-! ### Calls -/

/-- A call that may change a policy. -/
inductive Call
  | update (now : Timestamp) (limits : ValidationLimits) (expected : Version) (u : PolicyUpdate)
  | transition (now : Timestamp) (target : PolicyStatus)

variable [Pattern.Library]

def Call.answer : Call → Policy → Except PolicyError (Option Policy)
  | update now limits expected u, p => p.update now limits expected u
  | transition now target, p => p.transition now target

/-- The policy `p` after the call `c`. One that is refused, or finds nothing to change, leaves it as
it is. -/
def after (p : Policy) (c : Call) : Policy :=
  match c.answer p with
  | .ok (some q) => q
  | _ => p

/-- The policy `p` in the status `target`. -/
def moved (p : Policy) (now : Timestamp) (target : PolicyStatus) : Policy :=
  { p with
    status := target
    updatedAt := now
    transitions := p.transitions ++ [⟨p.status, target, now⟩] }

/-- An `update` goes through when it is made for the current version of a policy that is not
archived, has a name and acceptable conditions, and changes something. -/
theorem update_eq_some_iff {now : Timestamp} {limits : ValidationLimits} {expected : Version}
    {u : PolicyUpdate} {p q : Policy} :
    p.update now limits expected u = .ok (some q) ↔
      p.status.isTerminal = false ∧ expected = p.version ∧ u.name.any Text.isAllBlank = false
        ∧ ∃ conditions, checkedConditions limits u = .ok conditions
          ∧ ({ p with content := u.apply conditions p.content } == p) = false
          ∧ q = p.revise now (u.apply conditions p.content) := by
  constructor
  · intro h
    have hadmits := admits_of_update_eq_ok h
    obtain ⟨conditions, hconditions, hupdate⟩ := hadmits.update_eq now
    rw [hupdate] at h
    split at h
    · exact absurd h (by simp)
    · next hsame =>
      have hq := Option.some.inj (Except.ok.inj h)
      exact ⟨PolicyStatus.isTerminal_eq_false_iff.2 hadmits.live, hadmits.current,
        (Option.any_eq_false _ _).2 hadmits.named, conditions, hconditions,
        Bool.eq_false_iff.2 hsame, hq.symm⟩
  · rintro ⟨hstatus, rfl, hname, conditions, hconditions, hsame, rfl⟩
    simp [update, hstatus, hname, hconditions, hsame]

omit [Pattern.Library] in
theorem transition_eq_some_iff {now : Timestamp} {target : PolicyStatus} {p q : Policy} :
    p.transition now target = .ok (some q) ↔
      p.status ≠ target ∧ p.status.isTerminal = false ∧ p.status.mayBecome target = true
        ∧ q = p.moved now target := by
  unfold transition
  by_cases hsame : p.status = target
  · simp [hsame]
  · cases hterminal : p.status.isTerminal with
    | true => simp [hsame]
    | false =>
      cases hmay : p.status.mayBecome target with
      | true => simp [hsame, moved, eq_comm]
      | false => simp [hsame]

/-- What a call can do to the policy `p`. -/
inductive Change (p : Policy) : Policy → Prop
  | none : Change p p
  | revised (now : Timestamp) (limits : ValidationLimits) (u : PolicyUpdate)
      (conditions : Option Condition) (hstatus : p.status.isTerminal = false)
      (hname : u.name.any Text.isAllBlank = false)
      (hconditions : checkedConditions limits u = .ok conditions) :
      Change p (p.revise now (u.apply conditions p.content))
  | moved (now : Timestamp) (target : PolicyStatus) (hne : p.status ≠ target)
      (hmay : p.status.mayBecome target = true) : Change p (p.moved now target)

theorem change_of_answer {c : Call} {p q : Policy} (h : c.answer p = .ok (some q)) :
    p.Change q := by
  cases c with
  | update now limits expected u =>
    obtain ⟨hstatus, -, hname, conditions, hconditions, -, rfl⟩ := update_eq_some_iff.1 h
    exact .revised now limits u conditions hstatus hname hconditions
  | transition now target =>
    obtain ⟨hne, -, hmay, rfl⟩ := transition_eq_some_iff.1 h
    exact .moved now target hne hmay

/-- **Calls change policies in these ways only**: `p.after c` is a `Change` of `p`. -/
theorem change_after (p : Policy) (c : Call) : p.Change (p.after c) := by
  unfold after
  split
  · next q h => exact change_of_answer h
  · exact .none

/-! ### Editions -/

/-- What a policy keeps of one of its versions. -/
structure Edition where
  version : Version
  conditions : Condition
  severity : Severity

end Policy

def Revision.edition (r : Revision) : Policy.Edition := ⟨r.version, r.conditions, r.severity⟩

namespace Policy

/-- The edition of `p` in force. -/
def current (p : Policy) : Edition := ⟨p.version, p.content.conditions, p.content.severity⟩

/-- All editions of `p`, oldest first. -/
def editions (p : Policy) : List Edition := p.history.map Revision.edition ++ [p.current]

/-- Where the edition of the version `v` is to be looked up: below the current version in the
history, otherwise in the content. -/
def editionAt (p : Policy) (v : Version) : Option Edition :=
  if v < p.version then (p.history[v.toNat - 1]?).map Revision.edition else some p.current

theorem length_editions (p : Policy) : p.editions.length = p.history.length + 1 := by
  rw [editions, List.length_append, List.length_map, List.length_singleton]

theorem current_mem_editions (p : Policy) : p.current ∈ p.editions :=
  List.mem_append_right _ (List.mem_singleton.2 rfl)

/-- A revision by `revise` adds an edition and keeps the others. -/
theorem editions_revise (p : Policy) (now : Timestamp) (content : PolicyContent Condition) :
    (p.revise now content).editions = p.editions ++ [(p.revise now content).current] := by
  rw [editions, revise, List.map_append]
  rfl

namespace Change

variable {p q : Policy}

variable [Pattern.Library]

/-- **Editions stay**: those of `p` begin those of `q`. -/
theorem editions_prefix (h : p.Change q) : p.editions <+: q.editions := by
  cases h with
  | none => exact List.prefix_rfl
  | revised now limits u conditions =>
    rw [editions_revise]
    exact List.prefix_append _ _
  | moved now target => exact List.prefix_rfl

theorem length_history_le (h : p.Change q) : q.history.length ≤ p.history.length + 1 := by
  cases h with
  | none => exact Nat.le_succ _
  | revised now limits u conditions =>
    show (p.history ++ [p.revision now]).length ≤ _
    rw [List.length_append]
    exact Nat.le_refl _
  | moved now target => exact Nat.le_succ _

theorem id_eq (h : p.Change q) : q.id = p.id := by
  cases h <;> rfl

theorem tenant_eq (h : p.Change q) : q.tenant = p.tenant := by
  cases h <;> rfl

end Change

/-! ### Version numbers -/

/-- Versions of `p` count from one on. Numbers may come round, but only where the editions are too
many for them. -/
structure Numbered (p : Policy) : Prop where
  history : p.history.map Revision.version
    = (List.range p.history.length).map fun i => UInt64.ofNat (i + 1)
  version : p.version = UInt64.ofNat (p.history.length + 1)

theorem numbered_initial (id : PolicyId) (now : Timestamp) (new : NewPolicy)
    (conditions : Condition) : (initial id now new conditions).Numbered := ⟨rfl, rfl⟩

namespace Numbered

variable {p q : Policy}

theorem revise (h : p.Numbered) (now : Timestamp) (content : PolicyContent Condition) :
    (p.revise now content).Numbered := by
  have hlength : (p.revise now content).history.length = p.history.length + 1 := by
    rw [Policy.revise, List.length_append, List.length_singleton]
  constructor
  · rw [hlength, List.range_succ, List.map_append, ← h.history, Policy.revise, List.map_append,
      List.map_singleton, List.map_singleton, ← h.version]
    rfl
  · rw [hlength, UInt64.ofNat_add, ← h.version]
    rfl

variable [Pattern.Library]

/-- **Calls keep the count**: what is `Numbered` stays so. -/
theorem change (h : p.Numbered) (hpq : p.Change q) : q.Numbered := by
  cases hpq with
  | none => exact h
  | revised now limits u conditions => exact h.revise now _
  | moved now target => exact ⟨h.history, h.version⟩

omit [Pattern.Library] in
theorem versions_eq (h : p.Numbered) :
    p.editions.map Edition.version
      = (List.range p.editions.length).map fun i => UInt64.ofNat (i + 1) := by
  rw [length_editions, List.range_succ, List.map_append, ← h.history, List.map_singleton,
    ← h.version, editions, List.map_append, List.map_map]
  rfl

omit [Pattern.Library] in
/-- No version is kept twice among `p.editions`. -/
theorem nodup_versions (h : p.Numbered) (hlen : p.editions.length < UInt64.size) :
    (p.editions.map Edition.version).Nodup := by
  rw [h.versions_eq]
  refine List.nodup_range.map_on fun i hi j hj hij => ?_
  rw [List.mem_range] at hi hj
  have hnat := congrArg UInt64.toNat hij
  rw [UInt64.toNat_ofNat_of_lt' (by omega), UInt64.toNat_ofNat_of_lt' (by omega)] at hnat
  omega

omit [Pattern.Library] in
/-- **The number of a version is its place**: `p.editionAt` finds each edition `k` by its
version. -/
theorem editionAt (h : p.Numbered) (hlen : p.editions.length < UInt64.size) {k : Edition}
    (hk : k ∈ p.editions) : p.editionAt k.version = some k := by
  rcases List.mem_append.1 hk with hpast | hcurrent
  · obtain ⟨r, hr, rfl⟩ := List.mem_map.1 hpast
    obtain ⟨i, hi, rfl⟩ := List.getElem_of_mem hr
    rw [length_editions] at hlen
    have hversion : (p.history[i]).version = UInt64.ofNat (i + 1) := by
      have hat := congrArg (fun l => l[i]?) h.history
      simpa [hi] using hat
    have hnat : (UInt64.ofNat (i + 1)).toNat = i + 1 := UInt64.toNat_ofNat_of_lt' (by omega)
    have hbelow : UInt64.ofNat (i + 1) < p.version := by
      rw [UInt64.lt_iff_toNat_lt, hnat, h.version, UInt64.toNat_ofNat_of_lt' hlen]
      omega
    show p.editionAt (p.history[i]).version = _
    rw [hversion, Policy.editionAt, if_pos hbelow, hnat, Nat.add_sub_cancel,
      List.getElem?_eq_getElem hi]
    rfl
  · obtain rfl := List.mem_singleton.1 hcurrent
    show p.editionAt p.version = _
    rw [Policy.editionAt, if_neg (UInt64.lt_irrefl _)]

end Numbered

end Policy

end Governance
