import Governance.Proofs.Judgement.Decision
import Governance.Proofs.Judgement.Merged
import Governance.Proofs.Registry.Ordered
import Governance.Proofs.Service.Transcript
import Governance.Pattern.Program

/-!
# Tenants keep to themselves

A service that takes its policies from a registry judges for one tenant at a time. Two registries
may differ in the policies of other tenants, and in policies that are not active, as much as they
please: as long as they agree on the active policies of the tenant, a request for the tenant does
the same under either, and what it does has to do with these policies only.

* `transcript_eq_of_load_eq`: a request depends on its policies through what is loaded.
* `transcript_alike`: minted parts aside, it depends on nothing else.
* `exists_of_mem_offers`, `exists_of_mem_sent`: what is offered and sent comes from judging an
  active policy of the tenant.
* `tenant_isolated`: two registries, one tenant.
-/

namespace Governance

/-! ### Minted parts -/

def PersistFailure.unminted (f : PersistFailure) : PersistFailure := { f with violation := .blank }

/-- The answer without what was minted for it. -/
def unmintedAnswer : Except ServiceError BulkResult → Except ServiceError BulkResult
  | .ok result => .ok result.unminted
  | .error (.persist failures result) =>
    .error (.persist (failures.map PersistFailure.unminted) result.unminted)
  | .error error => .error error

namespace Offer

/-- What is reported of a violation if the store refuses it, but for its identifier. -/
def refusal? : Except StoreError Unit → Option PersistFailure
  | .ok _ => none
  | .error e => some ⟨.blank, e⟩

theorem failures_unminted (offers : List Offer) :
    (offers.filterMap failure?).map PersistFailure.unminted
      = (offers.map reply).filterMap refusal? := by
  rw [List.map_filterMap, List.filterMap_map]
  refine congrArg (offers.filterMap ·) (funext fun o => ?_)
  obtain ⟨v, reply⟩ := o
  cases reply <;> rfl

end Offer

namespace Transcript

variable {σ τ : Type}

/-- Requests `r` and `q` that did the same, but for what was minted: they have offered violations
that are alike and have sent notifications that are alike; and if the store said the same of the
violations, the answers are alike. -/
structure Alike (r q : Transcript σ τ) : Prop where
  offered : (r.offers.map Offer.violation).map Violation.unminted
    = (q.offers.map Offer.violation).map Violation.unminted
  sent : r.sent.map (List.map Notification.unminted) = q.sent.map (List.map Notification.unminted)
  answer : r.offers.map Offer.reply = q.offers.map Offer.reply →
    unmintedAnswer r.answer = unmintedAnswer q.answer

end Transcript

namespace Collaborators

variable {σ τ : Type}

/-- By `answerTo`, results that are alike up to minted parts lead to answers that are. -/
theorem answerTo_unminted {result result' : BulkResult} {offers offers' : List Offer}
    (hresult : result.unminted = result'.unminted)
    (hreplies : offers.map Offer.reply = offers'.map Offer.reply) :
    unmintedAnswer (answerTo result offers) = unmintedAnswer (answerTo result' offers') := by
  have hfailures : (offers.filterMap Offer.failure?).map PersistFailure.unminted
      = (offers'.filterMap Offer.failure?).map PersistFailure.unminted := by
    rw [Offer.failures_unminted, Offer.failures_unminted, hreplies]
  have hempty : (offers.filterMap Offer.failure?).isEmpty
      = (offers'.filterMap Offer.failure?).isEmpty := by
    simpa using congrArg List.isEmpty hfailures
  rw [answerTo, answerTo, hempty]
  split
  · exact congrArg Except.ok hresult
  · simp only [unmintedAnswer, hfailures, hresult]

/-! ### What a request depends on -/

section Load

variable {c d : Collaborators σ τ} {e : Engine} {tenant : TenantId} {id : AssessmentId}

/-- **What is loaded decides what is done**: if `d` loads and does what `c` does, they have the same
`transcript`. -/
theorem transcript_eq_of_load_eq [Pattern.Library] (hload : d.load tenant id = c.load tenant id)
    (hkeep : d.keep = c.keep) (hsend : d.send = c.send) (ids : IdSource) (now : Timestamp) (s : σ)
    (t : τ) :
    d.transcript e ids now tenant id s t = c.transcript e ids now tenant id s t := by
  cases h : c.load tenant id with
  | error error =>
    rw [c.transcript_of_unready e ids now s t h,
      d.transcript_of_unready e ids now s t (hload.trans h)]
  | ok loaded =>
    obtain ⟨a, policies⟩ := loaded
    rw [c.transcript_of_ready e ids now s t h, d.transcript_of_ready e ids now s t (hload.trans h)]
    simp only [sendAny, hkeep, hsend]

/-- **What is minted has no part in it**: transcripts under `ids` and under `later`, made at any two
times, are `Alike`. -/
theorem transcript_alike [Pattern.Library] (c : Collaborators σ τ) (e : Engine)
    (tenant : TenantId) (id : AssessmentId) (ids later : IdSource) (now then' : Timestamp) (s : σ)
    (t : τ) :
    (c.transcript e later then' tenant id s t).Alike (c.transcript e ids now tenant id s t) := by
  cases h : c.load tenant id with
  | error error =>
    rw [c.transcript_of_unready e ids now s t h, c.transcript_of_unready e later then' s t h]
    exact ⟨rfl, rfl, fun _ => rfl⟩
  | ok loaded =>
    obtain ⟨a, policies⟩ := loaded
    rw [c.transcript_of_ready e ids now s t h, c.transcript_of_ready e later then' s t h]
    have hresult := e.judgeAll_unminted a policies later ids then' now
    have hsent (ns : List Notification) :
        (if ns.isEmpty then [] else [ns]).map (List.map Notification.unminted)
          = if (ns.map Notification.unminted).isEmpty then []
            else [ns.map Notification.unminted] := by
      cases ns <;> rfl
    constructor
    · dsimp only
      rw [Offer.map_violation_sequence, Offer.map_violation_sequence]
      exact congrArg BulkResult.violations hresult
    · dsimp only
      rw [hsent, hsent]
      have hnotifications := congrArg BulkResult.notifications hresult
      dsimp only [BulkResult.unminted] at hnotifications
      rw [hnotifications]
    · exact answerTo_unminted hresult

end Load

/-! ### Registries -/

/-- The collaborators `c`, with the policies of the registry `r`. -/
def under (c : Collaborators σ τ) (r : Registry) : Collaborators σ τ :=
  { c with activePolicies := fun tenant => .ok (r.activePolicies tenant) }

theorem load_under_of_ready {c : Collaborators σ τ} {r : Registry} {tenant : TenantId}
    {id : AssessmentId} {a : Assessment} {policies : List Policy}
    (h : (c.under r).load tenant id = .ok (a, policies)) :
    c.assessment id = .ok a ∧ policies = r.activePolicies tenant := by
  unfold load at h
  split at h
  · exact absurd h (by simp)
  · next a' ha =>
    split at h
    · have hsame : Except.ok (a', r.activePolicies tenant) = Except.ok (a, policies) := h
      obtain ⟨rfl, rfl⟩ := Prod.mk.inj (Except.ok.inj hsame)
      exact ⟨ha, rfl⟩
    · exact absurd h (by simp)

end Collaborators

/-- By `e` the outcome `o` comes from judging an active policy `p` of `tenant` that `r` holds. -/
structure Registry.Yields [Pattern.Library] (r : Registry) (tenant : TenantId) (e : Engine)
    (now : Timestamp) (a : Assessment) (p : Policy) (o : Outcome) : Prop where
  held : r.get? p.id = some p
  tenant : p.tenant = tenant
  active : p.isActive = true
  judged : ∃ own, e.judge own now a p = .ok o

namespace Collaborators

variable {σ τ : Type}

section Origin

variable {c : Collaborators σ τ} {r : Registry} {e : Engine} {ids : IdSource} {now : Timestamp}
  {tenant : TenantId} {id : AssessmentId} {s : σ} {t : τ}

theorem exists_of_mem_offers [Pattern.Library] (hr : r.Ordered) {offer : Offer}
    (h : offer ∈ ((c.under r).transcript e ids now tenant id s t).offers) :
    ∃ a p o, c.assessment id = .ok a ∧ r.Yields tenant e now a p o
      ∧ offer.violation ∈ o.violations := by
  cases hload : (c.under r).load tenant id with
  | error error =>
    rw [(c.under r).transcript_of_unready e ids now s t hload] at h
    exact absurd h List.not_mem_nil
  | ok loaded =>
    obtain ⟨a, policies⟩ := loaded
    obtain ⟨ha, rfl⟩ := load_under_of_ready hload
    rw [(c.under r).transcript_of_ready e ids now s t hload] at h
    have hviolation := List.mem_map_of_mem (f := Offer.violation) h
    rw [Offer.map_violation_sequence] at hviolation
    obtain ⟨p, hp, -, own, o, ho, hv⟩ := Engine.exists_of_mem_violations_judgeAll hviolation
    obtain ⟨hheld, htenant, hactive⟩ := hr.mem_activePolicies_iff.1 hp
    exact ⟨a, p, o, ha, ⟨hheld, htenant, hactive, own, ho⟩, hv⟩

theorem exists_of_mem_sent [Pattern.Library] (hr : r.Ordered) {call : List Notification}
    {n : Notification} (h : call ∈ ((c.under r).transcript e ids now tenant id s t).sent)
    (hn : n ∈ call) :
    ∃ a p o, c.assessment id = .ok a ∧ r.Yields tenant e now a p o
      ∧ n ∈ o.decision.notifications := by
  cases hload : (c.under r).load tenant id with
  | error error =>
    rw [(c.under r).transcript_of_unready e ids now s t hload] at h
    exact absurd h List.not_mem_nil
  | ok loaded =>
    obtain ⟨a, policies⟩ := loaded
    obtain ⟨ha, rfl⟩ := load_under_of_ready hload
    rw [(c.under r).transcript_of_ready e ids now s t hload] at h
    dsimp only at h
    split at h
    · exact absurd h List.not_mem_nil
    · obtain rfl := List.mem_singleton.1 h
      obtain ⟨p, hp, -, own, o, ho, hsent⟩ := Engine.exists_of_mem_notifications_judgeAll hn
      obtain ⟨hheld, htenant, hactive⟩ := hr.mem_activePolicies_iff.1 hp
      exact ⟨a, p, o, ha, ⟨hheld, htenant, hactive, own, ho⟩, hsent⟩

end Origin

/-- **Tenants keep to themselves.** Let two registries, whatever `ops` and `ops'` have done with
them, agree on the active policies of `tenant`. Then a request for `tenant` has the same answer
under either, asks the same of store and dispatcher and leaves them alike; with `later` identifiers,
at another time, it differs in these only (`Alike`). Each violation that is offered, and each
notification that is sent, is the tenant's and comes from judging an active policy of the tenant
(`Yields`). A request for the assessment of another tenant is refused and does nothing, whatever the
registry holds. -/
theorem tenant_isolated [Pattern.Library] (c : Collaborators σ τ) (e : Engine) (tenant : TenantId)
    (id : AssessmentId) (limits limits' : ValidationLimits) (ops ops' : List Registry.Operation)
    (hagree : ∀ p : Policy, p.tenant = tenant → p.isActive = true →
      (((Registry.empty limits).run ops).get? p.id = some p
        ↔ ((Registry.empty limits').run ops').get? p.id = some p))
    (ids later : IdSource) (now then' : Timestamp) (s : σ) (t : τ) :
    let r := (Registry.empty limits).run ops
    let r' := (Registry.empty limits').run ops'
    let done := (c.under r).transcript e ids now tenant id s t
    (c.under r').govern e ids now tenant id s t = (c.under r).govern e ids now tenant id s t
      ∧ (c.under r').transcript e ids now tenant id s t = done
      ∧ ((c.under r').transcript e later then' tenant id s t).Alike done
      ∧ (∀ offer ∈ done.offers, offer.violation.tenant = tenant
        ∧ ∃ a p o, c.assessment id = .ok a ∧ r.Yields tenant e now a p o
          ∧ offer.violation ∈ o.violations ∧ offer.violation.policyId = p.id)
      ∧ (∀ call ∈ done.sent, ∀ n ∈ call, n.tenant = tenant
        ∧ ∃ a p o, c.assessment id = .ok a ∧ r.Yields tenant e now a p o
          ∧ n ∈ o.decision.notifications ∧ n.policyId = p.id)
      ∧ ∀ a, c.assessment id = .ok a → a.tenant ≠ tenant →
        done = ⟨.error (.tenantMismatch a.id tenant a.tenant), [], [], s, t⟩ := by
  intro r r' done
  have hr : r.Ordered := Registry.ordered_run limits ops
  have hr' : r'.Ordered := Registry.ordered_run limits' ops'
  have hactive : r'.activePolicies tenant = r.activePolicies tenant :=
    (hr.activePolicies_eq_of_agree hr' hagree).symm
  have hload : (c.under r').load tenant id = (c.under r).load tenant id := by
    simp only [load, under, hactive]
  have hdone (ids : IdSource) (now : Timestamp) :
      (c.under r').transcript e ids now tenant id s t
        = (c.under r).transcript e ids now tenant id s t :=
    transcript_eq_of_load_eq hload rfl rfl ids now s t
  refine ⟨?_, hdone ids now, ?_, fun offer hoffer => ?_, fun call hcall n hn => ?_,
    fun a ha hne => ?_⟩
  · rw [govern_eq_transcript, govern_eq_transcript, hdone]
  · rw [hdone]
    exact (c.under r).transcript_alike e tenant id ids later now then' s t
  · obtain ⟨a, p, o, ha, hyields, hv⟩ := exists_of_mem_offers hr hoffer
    obtain ⟨own, ho⟩ := hyields.judged
    obtain ⟨hpolicy, htenant, -⟩ := Engine.judge_violation ho hv
    exact ⟨htenant.trans hyields.tenant, a, p, o, ha, hyields, hv, hpolicy⟩
  · obtain ⟨a, p, o, ha, hyields, hsent⟩ := exists_of_mem_sent hr hcall hn
    obtain ⟨own, ho⟩ := hyields.judged
    obtain ⟨hpolicy, htenant, -⟩ := Engine.judge_notification ho hsent
    exact ⟨htenant.trans hyields.tenant, a, p, o, ha, hyields, hsent, hpolicy⟩
  · exact (c.under r).transcript_of_unready e ids now s t (load_of_unready (.foreign a ha hne))

/-- Collaborators with a store and a dispatcher that take everything, and the assessment `a`. -/
def willing (a : Assessment) : Collaborators (List Violation) (List Notification) where
  activePolicies _ := .ok []
  assessment _ := .ok a
  keep kept v := (.ok (), kept ++ [v])
  send sent notifications := (.ok (), sent ++ notifications)

/-- Next to a rule of one tenant, the other registry holds the same rule of another tenant and a
draft of the same tenant. One violation is found under either. -/
theorem tenant_isolated_twoTenants :
    let rule := Policy.initial ⟨Uuid.ofNat 1⟩ ⟨0, 0⟩ Engine.remedyRule Engine.deniedTwice
    let foreign := { rule with id := ⟨Uuid.ofNat 2⟩, tenant := ⟨⟨"us", by decide⟩⟩ }
    let draft := { rule with id := ⟨Uuid.ofNat 3⟩, status := .draft }
    let r := (Registry.empty .default).run [.insert rule]
    let r' := (Registry.empty .default).run [.insert foreign, .insert draft, .insert rule]
    let a := Assessment.bare ⟨⟨"system", by decide⟩⟩ rule.tenant
    let done := ((willing a).under r).transcript ⟨.still, .default⟩ ⟨Uuid.ofNat, 4⟩ ⟨0, 0⟩
      rule.tenant a.id [] []
    (∀ p : Policy, p.tenant = rule.tenant → p.isActive = true →
        (r.get? p.id = some p ↔ r'.get? p.id = some p))
      ∧ ((willing a).under r').transcript ⟨.still, .default⟩ ⟨Uuid.ofNat, 4⟩ ⟨0, 0⟩ rule.tenant a.id
        [] [] = done
      ∧ done.offers.length = 1 ∧ (done.sent.map List.length) = [2]
      ∧ ∀ offer ∈ done.offers, offer.violation.tenant = rule.tenant := by
  intro rule foreign draft r r' a done
  have hr : r.policies = [(rule.id, rule)] := rfl
  have hr' : r'.policies = [(rule.id, rule), (foreign.id, foreign), (draft.id, draft)] := rfl
  have hagree : ∀ p : Policy, p.tenant = rule.tenant → p.isActive = true →
      (r.get? p.id = some p ↔ r'.get? p.id = some p) := by
    intro p htenant hactive
    have hforeign : foreign ≠ p := by
      rintro rfl
      exact absurd htenant (by decide)
    have hdraft : draft ≠ p := by
      rintro rfl
      exact absurd hactive (by decide)
    rw [Registry.get?, Registry.get?, hr, hr']
    simp only [Keyed.find?_cons, Keyed.find?_nil]
    split
    · exact Iff.rfl
    · refine iff_of_false (by simp) ?_
      split
      · simpa using hforeign
      · split
        · simpa using hdraft
        · simp
  have hfound : done.offers.length = 1 ∧ done.sent.map List.length = [2] := by decide +kernel
  obtain ⟨-, hsame, -, hoffers, -⟩ :=
    tenant_isolated (willing a) ⟨.still, .default⟩ rule.tenant a.id .default .default _ _ hagree
      ⟨Uuid.ofNat, 4⟩ ⟨Uuid.ofNat, 4⟩ ⟨0, 0⟩ ⟨0, 0⟩ [] []
  exact ⟨hagree, hsame, hfound.1, hfound.2, fun offer hoffer => (hoffers offer hoffer).1⟩

end Collaborators

end Governance
