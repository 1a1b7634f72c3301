import Governance.Proofs.Policy.Course
import Governance.Proofs.Registry.Ordered
import Governance.Pattern.Program

/-!
# The course of registered policies

A registered policy is called through the registry, next to operations on other policies. As long as
it is not removed, what is found under its identifier is the same policy at a later time: it belongs
to the same tenant, and its status has gone forward or stayed. So a policy that is no longer among
the active ones of its tenant does not come back to them.

* `Policy.Change.continues`: what a call leaves is the same policy at a later time.
* `continued_run`: so is what a run of operations leaves.
* `Policy.Continues.status_ne`: a status that was left is not taken again.
* `course_of_registered`: what holds of a registry at every moment, and from one moment to another.
-/

namespace Governance

theorem PolicyStatus.eq_of_stage_eq {s t : PolicyStatus} (h : s.stage = t.stage) : s = t := by
  cases s <;> cases t <;> first | rfl | exact absurd h (by decide)

namespace Policy

/-- Written `q.Continues p`: `q` is the policy `p`, then or later. Its status has not gone back. -/
structure Continues (q p : Policy) : Prop where
  id : q.id = p.id
  tenant : q.tenant = p.tenant
  stage_le : p.status.stage ≤ q.status.stage

namespace Continues

variable {p q u : Policy}

theorem refl (p : Policy) : p.Continues p := ⟨rfl, rfl, Nat.le_refl _⟩

theorem trans (hlater : u.Continues q) (h : q.Continues p) : u.Continues p where
  id := hlater.id.trans h.id
  tenant := hlater.tenant.trans h.tenant
  stage_le := Nat.le_trans h.stage_le hlater.stage_le

/-- **A status that was left is not taken again**: when `q` has left that of `p`, no later `u` has
it. -/
theorem status_ne (h : q.Continues p) (hlater : u.Continues q) (hleft : q.status ≠ p.status) :
    u.status ≠ p.status := by
  intro hback
  have hle := hlater.stage_le
  rw [hback] at hle
  exact hleft (PolicyStatus.eq_of_stage_eq (Nat.le_antisymm hle h.stage_le))

end Continues

section Library

variable [Pattern.Library]

/-- **What a call leaves is the same policy**: a `Change` of `p` continues it. -/
theorem Change.continues {p q : Policy} (h : p.Change q) : q.Continues p where
  id := h.id_eq
  tenant := h.tenant_eq
  stage_le := by
    cases h with
    | none => exact Nat.le_refl _
    | revised now limits u conditions => exact Nat.le_refl _
    | moved now target hne hmay => exact Nat.le_of_lt (PolicyStatus.stage_lt_of_mayBecome hmay)

omit [Pattern.Library] in
theorem isActive_iff {p : Policy} : p.isActive = true ↔ p.status = .active := by
  rw [isActive, beq_iff_eq]

end Library

end Policy

namespace Registry

/-! ### Runs -/

/-- The identifier that is minted for an operation, if it is a `create`. -/
def Operation.minted? : Operation → Option PolicyId
  | create id _ _ => some id
  | _ => none

section Library

variable [Pattern.Library]

/-- From `r` on, identifiers are minted afresh: none under which a policy is held at the time. -/
def MintsFresh (r : Registry) : List Operation → Prop
  | [] => True
  | op :: ops => (∀ id ∈ op.minted?, r.get? id = none) ∧ (r.after op).MintsFresh ops

theorem mintsFresh_append {r : Registry} {ops later : List Operation} :
    r.MintsFresh (ops ++ later) ↔ r.MintsFresh ops ∧ (r.run ops).MintsFresh later := by
  induction ops generalizing r with
  | nil => exact ⟨fun h => ⟨trivial, h⟩, And.right⟩
  | cons op ops ih =>
    show _ ∧ (r.after op).MintsFresh (ops ++ later) ↔ (_ ∧ (r.after op).MintsFresh ops) ∧ _
    rw [ih, and_assoc]
    rfl

variable {r : Registry} {id : PolicyId} {p : Policy}

/-- An operation `op` that does not remove the policy `p` leaves it there, as it was or later. -/
theorem continued_after (hp : r.get? id = some p) {op : Operation}
    (hfresh : ∀ id ∈ op.minted?, r.get? id = none) (hdelete : ∀ now, op ≠ .delete now id .hard) :
    ∃ q, (r.after op).get? id = some q ∧ q.Continues p := by
  have hcreate : ∀ now new, op ≠ .create id now new := by
    rintro now new rfl
    rw [hfresh id rfl] at hp
    exact absurd hp (by simp)
  rcases called_after hp op hcreate hdelete with ⟨hsame, -⟩ | ⟨c, hcalled, -⟩
  · exact ⟨p, hsame, .refl p⟩
  · exact ⟨p.after c, hcalled, (p.change_after c).continues⟩

/-- **So does a run of operations** `ops`, if they mint fresh identifiers. -/
theorem continued_run (hp : r.get? id = some p) {ops : List Operation} (hfresh : r.MintsFresh ops)
    (hdelete : ∀ now, .delete now id .hard ∉ ops) :
    ∃ q, (r.run ops).get? id = some q ∧ q.Continues p := by
  induction ops generalizing r p with
  | nil => exact ⟨p, hp, .refl p⟩
  | cons op ops ih =>
    obtain ⟨hfirst, hrest⟩ := hfresh
    obtain ⟨q, hq, hstep⟩ := continued_after hp hfirst fun now hop =>
      hdelete now (hop ▸ List.mem_cons_self)
    obtain ⟨u, hu, hlater⟩ := ih hq hrest fun now hmem =>
      hdelete now (List.mem_cons_of_mem op hmem)
    exact ⟨u, hu, hlater.trans hstep⟩

namespace Ordered

variable {tenant : TenantId}

omit [Pattern.Library] in
/-- A policy `p` that is found under `id` is among the active ones of `tenant` when it belongs to it
and is active. -/
theorem id_mem_activePolicies_iff (h : r.Ordered) (hp : r.get? id = some p) :
    id ∈ (r.activePolicies tenant).map Policy.id ↔ p.tenant = tenant ∧ p.status = .active := by
  rw [List.mem_map]
  constructor
  · rintro ⟨q, hq, rfl⟩
    obtain ⟨hfound, htenant, hactive⟩ := h.mem_activePolicies_iff.1 hq
    obtain rfl : p = q := Option.some.inj (hp.symm.trans hfound)
    exact ⟨htenant, Policy.isActive_iff.1 hactive⟩
  · rintro ⟨htenant, hactive⟩
    have hid := h.id_eq_of_get? hp
    exact ⟨p, h.mem_activePolicies_iff.2 ⟨hid ▸ hp, htenant, Policy.isActive_iff.2 hactive⟩, hid⟩

end Ordered

/-- **The course of registered policies.** Let `earlier`, `between` and `later` be done with a
registry that was empty at first, where the identifiers of new policies are fresh ones
(`MintsFresh`), and look at it after each of them. At `first`, every policy is held under its own
identifier. The `activePolicies` of a tenant are its policies that are active, in ascending order of
identifiers and none twice; `policiesOf` lists those that are found and belong to it. Whatever is
done next, policies of other identifiers than `op.target` stay as they are, and an `op` that is
refused changes nothing. A policy `p` that is not removed until `third` is found at all three
moments; it has kept its tenant, and a status that it has left at `second` it does not have at
`third`. So, if it was among the active policies of a tenant at `first` and was not any more at
`second`, it is not at `third`. -/
theorem course_of_registered (limits : ValidationLimits) (earlier between later : List Operation)
    (hfresh : (empty limits).MintsFresh (earlier ++ between ++ later)) :
    let first := (empty limits).run earlier
    let second := first.run between
    let third := second.run later
    (∀ entry ∈ first.policies, entry.2.id = entry.1)
      ∧ (∀ tenant, first.activePolicies tenant = (first.policiesOf tenant).filter Policy.isActive
        ∧ ((first.activePolicies tenant).Pairwise fun p q => p.id < q.id)
        ∧ ((first.activePolicies tenant).map Policy.id).Nodup
        ∧ ∀ p, p ∈ first.policiesOf tenant ↔ first.get? p.id = some p ∧ p.tenant = tenant)
      ∧ (∀ op : Operation, (∀ id, id ≠ op.target → (first.after op).get? id = first.get? id)
        ∧ ∀ e, op.result first = .error e → first.after op = first)
      ∧ ∀ id p, first.get? id = some p → (∀ now, .delete now id .hard ∉ between ++ later) →
        (∃ q u, second.get? id = some q ∧ third.get? id = some u
          ∧ q.tenant = p.tenant ∧ u.tenant = p.tenant
          ∧ (q.status ≠ p.status → u.status ≠ p.status))
        ∧ ∀ tenant, id ∈ (first.activePolicies tenant).map Policy.id →
          id ∉ (second.activePolicies tenant).map Policy.id →
          id ∉ (third.activePolicies tenant).map Policy.id := by
  intro first second third
  have hfirst : first.Ordered := ordered_run limits earlier
  have hsecond : second.Ordered := hfirst.run between
  have hthird : third.Ordered := hsecond.run later
  obtain ⟨hearly, hlast⟩ := mintsFresh_append.1 hfresh
  obtain ⟨-, hbetween⟩ := mintsFresh_append.1 hearly
  rw [run_append] at hlast
  refine ⟨hfirst.named, fun tenant => ⟨rfl, hfirst.ascending_activePolicies,
      hfirst.nodup_activePolicies, fun p => hfirst.mem_policiesOf_iff⟩,
    fun op => ⟨fun id hne => first.get?_after_of_ne hne, fun e h => after_of_error h⟩,
    fun id p hp hdelete => ?_⟩
  obtain ⟨q, hq, hqp⟩ := continued_run hp hbetween fun now hmem =>
    hdelete now (List.mem_append_left later hmem)
  obtain ⟨u, hu, huq⟩ := continued_run hq hlast fun now hmem =>
    hdelete now (List.mem_append_right between hmem)
  refine ⟨⟨q, u, hq, hu, hqp.tenant, (huq.trans hqp).tenant, hqp.status_ne huq⟩,
    fun tenant hthen hleft hback => ?_⟩
  rw [hfirst.id_mem_activePolicies_iff hp] at hthen
  rw [hsecond.id_mem_activePolicies_iff hq] at hleft
  rw [hthird.id_mem_activePolicies_iff hu] at hback
  obtain ⟨htenant, hactive⟩ := hthen
  -- It still belongs to the tenant, so it is its status that it has left.
  have hstatus : q.status ≠ p.status := fun hsame =>
    hleft ⟨hqp.tenant.trans htenant, hsame.trans hactive⟩
  exact hqp.status_ne huq hstatus (hback.2.trans hactive.symm)

end Library

/-- A rule is in force, then deprecated. It cannot be put into force again, nor registered anew, and
is archived in the end. -/
theorem course_of_registered_oversightRule :
    let id : PolicyId := ⟨Uuid.ofNat 1⟩
    let rule := Policy.initial id ⟨0, 0⟩ Policy.oversightRule
      (.leaf ⟨"humanOversight", .isTrue, .null⟩)
    let earlier : List Operation :=
      [.insert rule, .create ⟨Uuid.ofNat 2⟩ ⟨1, 0⟩ Policy.oversightRule]
    let between : List Operation := [.transition ⟨2, 0⟩ id .deprecated]
    let later : List Operation :=
      [.transition ⟨3, 0⟩ id .active, .insert rule, .delete ⟨4, 0⟩ id .soft]
    let first := (empty .default).run earlier
    let second := first.run between
    let third := second.run later
    (empty .default).MintsFresh (earlier ++ between ++ later)
      ∧ first.get? id = some rule ∧ (∀ now, .delete now id .hard ∉ between ++ later)
      ∧ (first.activePolicies rule.tenant).map Policy.id = [id, ⟨Uuid.ofNat 2⟩]
      ∧ (second.activePolicies rule.tenant).map Policy.id = [⟨Uuid.ofNat 2⟩]
      ∧ ∃ u, third.get? id = some u ∧ u.tenant = rule.tenant ∧ u.status ≠ .active
        ∧ id ∉ (third.activePolicies rule.tenant).map Policy.id := by
  intro id rule earlier between later first second third
  have hunused : ((empty .default).after (.insert rule)).get? ⟨Uuid.ofNat 2⟩ = none :=
    get?_after_of_ne _ (by decide)
  have hfresh : (empty .default).MintsFresh (earlier ++ between ++ later) := by
    refine ⟨nofun, fun other hother => ?_, nofun, nofun, nofun, nofun, trivial⟩
    obtain rfl := Option.some.inj hother
    exact hunused
  have hrule : first.get? id = some rule := rfl
  have hdelete : ∀ now, .delete now id .hard ∉ between ++ later := by simp [between, later]
  have hthen : (first.activePolicies rule.tenant).map Policy.id = [id, ⟨Uuid.ofNat 2⟩] := by
    decide +kernel
  have hleft : (second.activePolicies rule.tenant).map Policy.id = [⟨Uuid.ofNat 2⟩] := by
    decide +kernel
  obtain ⟨-, -, -, hcourse⟩ := course_of_registered .default earlier between later hfresh
  obtain ⟨⟨q, u, hq, hu, -, htenant, hstatus⟩, hactive⟩ := hcourse id rule hrule hdelete
  have hdeprecated : (second.get? id).map Policy.status = some .deprecated := by decide +kernel
  have hne : q.status ≠ rule.status := by
    rw [show second.get? id = some q from hq] at hdeprecated
    rw [Option.some.inj hdeprecated]
    decide
  have hmember : id ∈ (first.activePolicies rule.tenant).map Policy.id := by
    rw [hthen]
    exact List.mem_cons_self
  have hnone : id ∉ (second.activePolicies rule.tenant).map Policy.id := by
    rw [hleft]
    decide
  have hlast := hactive rule.tenant hmember hnone
  have hnot : u.status ≠ .active := hstatus hne
  exact ⟨hfresh, hrule, hdelete, hthen, hleft, u, hu, htenant, hnot, hlast⟩

end Registry

end Governance
