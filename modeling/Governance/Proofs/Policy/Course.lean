import Mathlib.Data.List.Chain
import Mathlib.Data.List.Induction
import Governance.Proofs.Policy.Audit
import Governance.Pattern.Program

/-!
# The course of a policy's life

After its creation a policy is asked to change: by updates, by the three named changes of status,
and by changes to any status. It grants or refuses each request. Whatever is asked, its statuses go
forward only, what earlier versions said stays as it was, and an archived policy stays as it is.

* `Leads.nodup_statuses`: allowed changes of status lead to no status twice.
* `Regular.change`: what is said here of a policy's life survives every change.
* `history_live`: the history keeps what was in force when its version was the current one.
* `lifecycle_of_create`: all of it, of every policy and every list of requests.
-/

namespace Governance

/-! ### Changes of status -/

namespace PolicyStatus

/-- How far in its life a policy of this status is. -/
def stage : PolicyStatus → Nat
  | draft => 0
  | active => 1
  | deprecated => 2
  | archived => 3

theorem stage_lt_of_mayBecome {s t : PolicyStatus} (h : s.mayBecome t = true) :
    s.stage < t.stage := by
  cases s <;> cases t <;> revert h <;> decide

theorem mayBecome_of_isTerminal {s : PolicyStatus} (h : s.isTerminal = true) (t : PolicyStatus) :
    s.mayBecome t = false := by
  cases s <;> cases t <;> revert h <;> decide

end PolicyStatus

namespace PolicyTransition

/-- Written `Leads s ts t`: the changes `ts` lead from the status `s` to the status `t`. Each sets
out from where the one before has led, and each is allowed. -/
inductive Leads : PolicyStatus → List PolicyTransition → PolicyStatus → Prop
  | stay (s : PolicyStatus) : Leads s [] s
  | move {s t u : PolicyStatus} {ts : List PolicyTransition} (now : Timestamp)
      (hmay : s.mayBecome t = true) (h : Leads t ts u) : Leads s (⟨s, t, now⟩ :: ts) u

/-- The statuses that the changes `ts` lead through, from `s` on. -/
def statuses (s : PolicyStatus) (ts : List PolicyTransition) : List PolicyStatus :=
  s :: ts.map target

namespace Leads

variable {s t : PolicyStatus} {ts : List PolicyTransition}

/-- One more change at the end, from `t` to `u`. -/
theorem concat (h : Leads s ts t) (now : Timestamp) {u : PolicyStatus}
    (hmay : t.mayBecome u = true) : Leads s (ts ++ [⟨t, u, now⟩]) u := by
  induction h with
  | stay s => exact .move now hmay (.stay u)
  | move at' hfirst _ ih => exact .move at' hfirst (ih hmay)

/-- By `mayBecome`, the statuses follow each other. -/
theorem isChain_statuses (h : Leads s ts t) :
    (statuses s ts).IsChain fun a b => a.mayBecome b = true := by
  induction h with
  | stay s => exact .singleton s
  | move at' hfirst _ ih => exact .cons_cons hfirst ih

/-- **No status comes twice** among the `statuses`. -/
theorem nodup_statuses (h : Leads s ts t) : (statuses s ts).Nodup := by
  have hstages : ((statuses s ts).map PolicyStatus.stage).IsChain (· < ·) :=
    (List.isChain_map _).2 (h.isChain_statuses.imp fun _ _ => PolicyStatus.stage_lt_of_mayBecome)
  exact (List.pairwise_map.1 hstages.pairwise).imp fun hlt heq =>
    absurd (congrArg PolicyStatus.stage heq) (Nat.ne_of_lt hlt)

end Leads

end PolicyTransition

open PolicyTransition (Leads statuses)

/-- What is known of a policy `new` that is accepted under `limits`. -/
theorem NewPolicy.accept_eq_ok [Pattern.Library] {limits : ValidationLimits} {new : NewPolicy}
    {c : Condition} (h : new.accept limits = .ok c) :
    (new.status = .draft ∨ new.status = .active) ∧ Text.isAllBlank new.content.name = false
      ∧ new.content.conditions.check limits = .ok c := by
  unfold accept at h
  split at h
  · exact absurd h (by simp)
  · next hstatus =>
    split at h
    · exact absurd h (by simp)
    · next hname =>
      split at h
      · exact absurd h (by simp)
      · next d hd =>
        obtain rfl := Except.ok.inj h
        refine ⟨?_, Bool.eq_false_iff.2 hname, hd⟩
        by_cases hdraft : new.status = .draft
        · exact .inl hdraft
        · exact .inr (Decidable.not_not.1 fun hactive => hstatus ⟨hdraft, hactive⟩)

namespace Policy

/-! ### Requests -/

/-- What a policy may be asked. -/
inductive Request
  | update (now : Timestamp) (limits : ValidationLimits) (expected : Version) (u : PolicyUpdate)
  | activate (now : Timestamp)
  | markDeprecated (now : Timestamp)
  | archive (now : Timestamp)
  | transition (now : Timestamp) (target : PolicyStatus)

namespace Request

def answer [Pattern.Library] : Request → Policy → Except PolicyError (Option Policy)
  | update now limits expected u, p => p.update now limits expected u
  | activate now, p => p.activate now
  | markDeprecated now, p => p.markDeprecated now
  | archive now, p => p.archive now
  | transition now target, p => p.transition now target

/-- The call that the request comes down to, by `Policy.Call`. -/
def call : Request → Call
  | update now limits expected u => .update now limits expected u
  | activate now => .transition now .active
  | markDeprecated now => .transition now .deprecated
  | archive now => .transition now .archived
  | transition now target => .transition now target

theorem answer_eq_call [Pattern.Library] (r : Request) (p : Policy) :
    r.answer p = r.call.answer p := by
  cases r <;> rfl

end Request

section Library

variable [Pattern.Library]

/-- The policy `p` after the request `r`. One that is refused, or finds nothing to change, leaves it
as it is. -/
def grant (p : Policy) (r : Request) : Policy :=
  match r.answer p with
  | .ok (some q) => q
  | _ => p

/-- The policy `p` after `requests`, one after the other. -/
def live (p : Policy) (requests : List Request) : Policy := requests.foldl grant p

/-- **Requests change policies in the ways of calls**: `p.grant r` is a `Change` of `p`. -/
theorem change_grant (p : Policy) (r : Request) : p.Change (p.grant r) := by
  unfold grant
  rw [r.answer_eq_call p]
  exact p.change_after r.call

theorem live_append (p : Policy) (requests later : List Request) :
    p.live (requests ++ later) = (p.live requests).live later := List.foldl_append

theorem live_concat (p : Policy) (requests : List Request) (r : Request) :
    p.live (requests ++ [r]) = (p.live requests).grant r := p.live_append requests [r]

/-! ### What a change keeps -/

/-- What holds all through the life of a policy `p` that began as `origin`. -/
structure Regular (origin p : Policy) : Prop where
  id : p.id = origin.id
  tenant : p.tenant = origin.tenant
  createdAt : p.createdAt = origin.createdAt
  named : Text.isAllBlank p.content.name = false
  digests : ∀ r ∈ p.history, r.conditionsDigest = r.conditions.digest
  course : Leads origin.status p.transitions p.status

omit [Pattern.Library] in
theorem regular_initial (id : PolicyId) (now : Timestamp) {new : NewPolicy}
    (conditions : Condition) (h : Text.isAllBlank new.content.name = false) :
    (initial id now new conditions).Regular (initial id now new conditions) where
  id := rfl
  tenant := rfl
  createdAt := rfl
  named := h
  digests := fun _ hr => absurd hr List.not_mem_nil
  course := .stay _

end Library

namespace Regular

variable {origin p q : Policy}

/-- The name after `u.apply` is not blank, given that `u` sets no blank one. -/
private theorem named_apply {u : PolicyUpdate} (conditions : Option Condition)
    (hname : u.name.any Text.isAllBlank = false) (h : Text.isAllBlank p.content.name = false) :
    Text.isAllBlank (u.apply conditions p.content).name = false := by
  show Text.isAllBlank (u.name.getD p.content.name) = false
  cases hu : u.name with
  | none => exact h
  | some name =>
    rw [hu] at hname
    exact hname

/-- **A change keeps it all**: what is `Regular` stays so. -/
theorem change [Pattern.Library] (h : origin.Regular p) (hpq : p.Change q) : origin.Regular q := by
  cases hpq with
  | none => exact h
  | revised now limits u conditions hstatus hname hconditions =>
    refine ⟨h.id, h.tenant, h.createdAt, named_apply conditions hname h.named, fun r hr => ?_,
      h.course⟩
    -- The digest of the new entry is taken from the conditions that it keeps.
    rcases List.mem_append.1 hr with hold | hnew
    · exact h.digests r hold
    · obtain rfl := List.mem_singleton.1 hnew
      rfl
  | moved now target hne hmay =>
    exact ⟨h.id, h.tenant, h.createdAt, h.named, h.digests, h.course.concat now hmay⟩

end Regular

section Library

variable [Pattern.Library]

/-- A policy whose status is terminal does not change. -/
theorem Change.eq_of_isTerminal {p q : Policy} (h : p.Change q)
    (hterminal : p.status.isTerminal = true) : q = p := by
  cases h with
  | none => rfl
  | revised now limits u conditions hstatus =>
    rw [hterminal] at hstatus
    exact absurd hstatus (by decide)
  | moved now target hne hmay =>
    rw [PolicyStatus.mayBecome_of_isTerminal hterminal] at hmay
    exact absurd hmay (by decide)

/-! ### What a life keeps -/

/-- What every `Change` keeps holds after any `requests`. -/
theorem live_induction {P : Policy → Prop} (step : ∀ {p q : Policy}, P p → p.Change q → P q)
    {p : Policy} (h : P p) (requests : List Request) : P (p.live requests) := by
  induction requests generalizing p with
  | nil => exact h
  | cons r rest ih => exact ih (step h (p.change_grant r))

theorem live_of_isTerminal {p : Policy} (h : p.status.isTerminal = true) (requests : List Request) :
    p.live requests = p :=
  live_induction (P := (· = p)) (fun hq hchange => by
    subst hq
    exact hchange.eq_of_isTerminal h) rfl requests

theorem editions_prefix_live (p : Policy) (requests : List Request) :
    p.editions <+: (p.live requests).editions :=
  live_induction (P := fun q => p.editions <+: q.editions)
    (fun h hchange => h.trans hchange.editions_prefix) List.prefix_rfl requests

theorem length_history_live_le (p : Policy) (requests : List Request) :
    (p.live requests).history.length ≤ p.history.length + requests.length := by
  induction requests generalizing p with
  | nil => exact Nat.le_refl _
  | cons r rest ih =>
    have hstep := (p.change_grant r).length_history_le
    have hrest := ih (p.grant r)
    rw [List.length_cons]
    show ((p.grant r).live rest).history.length ≤ _
    omega

/-- No length `n` of the history is skipped by `live`. -/
theorem exists_prefix_length_history (p : Policy) (requests : List Request) {n : Nat}
    (hle : p.history.length ≤ n) (hn : n ≤ (p.live requests).history.length) :
    ∃ earlier, earlier <+: requests ∧ (p.live earlier).history.length = n := by
  induction requests using List.reverseRecOn with
  | nil => exact ⟨[], List.prefix_rfl, Nat.le_antisymm hle hn⟩
  | append_singleton requests r ih =>
    by_cases hbefore : n ≤ (p.live requests).history.length
    · obtain ⟨earlier, hpre, hlength⟩ := ih hbefore
      exact ⟨earlier, hpre.trans (List.prefix_append _ _), hlength⟩
    · -- The history grows by one entry at most, so it has just reached the length.
      have hstep := ((p.live requests).change_grant r).length_history_le
      rw [live_concat] at hn
      refine ⟨requests ++ [r], List.prefix_rfl, ?_⟩
      rw [live_concat]
      omega

omit [Pattern.Library] in
theorem getElem_editions_of_lt {p : Policy} {i : Nat} (hi : i < p.history.length)
    (h : i < p.editions.length) : p.editions[i] = (p.history[i]).edition := by
  simp only [editions]
  rw [List.getElem_append_left (by rwa [List.length_map]), List.getElem_map]

omit [Pattern.Library] in
theorem getElem_editions_length {p : Policy} (h : p.history.length < p.editions.length) :
    p.editions[p.history.length] = p.current := by
  simp [editions]

/-- **The history keeps what was in force.** What `p` said after the requests `earlier` is found at
the place that its history had then. -/
theorem history_live (p : Policy) {earlier requests : List Request} (h : earlier <+: requests)
    (hlt : (p.live earlier).history.length < (p.live requests).history.length) :
    ((p.live requests).history[(p.live earlier).history.length]).edition
      = (p.live earlier).current := by
  obtain ⟨later, rfl⟩ := h
  have hpre := (p.live earlier).editions_prefix_live later
  rw [← live_append] at hpre
  have hthen : (p.live earlier).history.length < (p.live earlier).editions.length := by
    rw [length_editions]
    exact Nat.lt_succ_self _
  have hlater := Nat.lt_of_lt_of_le hthen hpre.length_le
  rw [← getElem_editions_of_lt hlt hlater, ← getElem_editions_length hthen]
  exact (hpre.getElem hthen).symm

omit [Pattern.Library] in
theorem Numbered.toNat_version {p : Policy} (h : p.Numbered)
    (hlen : p.history.length + 1 < UInt64.size) : p.version.toNat = 1 + p.history.length := by
  rw [h.version, UInt64.toNat_ofNat_of_lt' hlen, Nat.add_comm]

/-- **The life of a policy.** Let `p` be created and then asked `requests`, fewer than there are
version numbers, and let `q` be the policy after them. Its version counts its history. The entries
of `q.history` are numbered from one on, and each keeps the conditions and the severity that were in
force when its number was the current version, and the digest of these conditions. The changes
`q.transitions` lead, by allowed steps (`Leads`), from the status of its creation to the present one
and to no status twice. Its `id`, its `tenant` and its `createdAt` are those it was created with,
and its name is not blank. Once `archived`, it stays as it is. -/
theorem lifecycle_of_create (id : PolicyId) (now : Timestamp) (limits : ValidationLimits)
    (new : NewPolicy) (p : Policy) (h : create id now limits new = .ok p)
    (requests : List Request) (hlen : requests.length < UInt64.size - 1) :
    let q := p.live requests
    q.version.toNat = 1 + q.history.length
      ∧ (∀ i (hi : i < q.history.length),
        (q.history[i]).version.toNat = i + 1
          ∧ (q.history[i]).conditionsDigest = (q.history[i]).conditions.digest
          ∧ (∃ earlier, earlier <+: requests ∧ (p.live earlier).version.toNat = i + 1)
          ∧ ∀ earlier, earlier <+: requests → (p.live earlier).version.toNat = i + 1 →
            (q.history[i]).conditions = (p.live earlier).content.conditions
              ∧ (q.history[i]).severity = (p.live earlier).content.severity)
      ∧ (p.status = .draft ∨ p.status = .active) ∧ Leads p.status q.transitions q.status
      ∧ (statuses p.status q.transitions).Nodup
      ∧ q.id = p.id ∧ q.tenant = p.tenant ∧ q.createdAt = p.createdAt
      ∧ Text.isAllBlank q.content.name = false
      ∧ (q.status = .archived → ∀ later, q.live later = q) := by
  intro q
  obtain ⟨conditions, hconditions, hp⟩ := map_eq_ok_iff.1 h
  obtain ⟨hstatus, hname, -⟩ := NewPolicy.accept_eq_ok hconditions
  have hbegin : p.history = [] := by rw [← hp]; rfl
  have hnumbered (requests : List Request) : (p.live requests).Numbered :=
    live_induction Numbered.change (hp ▸ numbered_initial id now new conditions) requests
  have hregular : p.Regular q :=
    live_induction Regular.change (hp ▸ regular_initial id now conditions hname) requests
  -- The versions of the whole life are numbers of their histories, since there are numbers enough.
  have hversion {earlier : List Request} (hpre : earlier <+: requests) :
      (p.live earlier).version.toNat = 1 + (p.live earlier).history.length := by
    refine (hnumbered earlier).toNat_version ?_
    have hhistory := p.length_history_live_le earlier
    rw [hbegin, List.length_nil] at hhistory
    have hle := hpre.length_le
    omega
  refine ⟨hversion List.prefix_rfl, fun i hi => ?_, ?_, hregular.course,
    hregular.course.nodup_statuses, hregular.id, hregular.tenant, hregular.createdAt,
    hregular.named, fun harchived => live_of_isTerminal (by rw [harchived]; rfl)⟩
  · have hkept {earlier : List Request} (hpre : earlier <+: requests)
        (hat : (p.live earlier).version.toNat = i + 1) :
        (q.history[i]).edition = (p.live earlier).current := by
      have hlength : (p.live earlier).history.length = i := by
        have := hversion hpre
        omega
      subst hlength
      exact p.history_live hpre hi
    obtain ⟨then', hthen, hlength⟩ :=
      p.exists_prefix_length_history requests (by rw [hbegin]; exact Nat.zero_le i)
        (Nat.le_of_lt hi)
    have hat : (p.live then').version.toNat = i + 1 := by
      rw [hversion hthen, hlength, Nat.add_comm]
    refine ⟨?_, hregular.digests _ (List.getElem_mem hi), ⟨then', hthen, hat⟩,
      fun earlier hpre hearlier => ?_⟩
    · rw [← hat]
      exact congrArg (fun k : Edition => k.version.toNat) (hkept hthen hat)
    · exact ⟨congrArg Edition.conditions (hkept hpre hearlier),
        congrArg Edition.severity (hkept hpre hearlier)⟩
  · rw [← hp]
    exact hstatus

end Library

/-- A draft that is put into force, made less severe and archived, with an update in between that
comes too late: its history has the severity of its first version, and it stays as it is. -/
theorem lifecycle_of_create_oversightRule :
    let requests : List Request :=
      [.activate ⟨1, 0⟩, .update ⟨2, 0⟩ .default 1 (severityUpdate .low),
       .update ⟨3, 0⟩ .default 1 (severityUpdate .info), .archive ⟨4, 0⟩]
    ∃ p, create ⟨Uuid.ofNat 1⟩ ⟨0, 0⟩ .default { oversightRule with status := .draft } = .ok p
      ∧ requests.length < UInt64.size - 1
      ∧ let q := p.live requests
        q.status = .archived ∧ q.history.length = 1 ∧ q.version.toNat = 2
          ∧ q.history.map Revision.severity = [.high] ∧ q.content.severity = .low
          ∧ (statuses .draft q.transitions).Nodup ∧ ∀ later, q.live later = q := by
  intro requests
  obtain ⟨p, hp⟩ : ∃ p, create ⟨Uuid.ofNat 1⟩ ⟨0, 0⟩ .default
      { oversightRule with status := .draft } = .ok p := ⟨_, rfl⟩
  have hlen : requests.length < UInt64.size - 1 := by decide
  obtain ⟨hversion, -, -, -, hnodup, -, -, -, -, hstays⟩ :=
    lifecycle_of_create _ _ _ { oversightRule with status := .draft } p hp requests hlen
  obtain rfl := Except.ok.inj hp
  exact ⟨_, rfl, hlen, rfl, rfl, hversion, rfl, rfl, hnodup, hstays rfl⟩

end Policy

end Governance
