import Mathlib.Data.List.Chain
import Governance.Violation.Lifecycle

/-!
# The course of a violation's handling

An open violation is asked to move on: to be acknowledged, to be taken into remediation, to be
resolved, or to go to any status with or without a resolution. Whatever is asked, its statuses go
forward only, it is resolved exactly when somebody and something are on record for it, and nothing
of what was found is touched.

* `answer_cases`: a request is granted by a move, finds nothing to change, or is refused for one of
  four reasons.
* `Regular.move`: what is said here of the handling survives every move.
* `Regular.nodup_statuses`: no status comes twice.
* `lifecycle_of_opened`: all of it, of every violation and every list of requests.
-/

namespace Governance

namespace ViolationStatus

/-- How far the handling is at this status. -/
def stage : ViolationStatus → Nat
  | unresolved => 0
  | acknowledged => 1
  | inRemediation => 2
  | resolved => 3

theorem stage_lt_of_mayBecome {s t : ViolationStatus} (h : s.mayBecome t = true) :
    s.stage < t.stage := by
  cases s <;> cases t <;> revert h <;> decide

theorem isTerminal_iff {s : ViolationStatus} : s.isTerminal = true ↔ s = .resolved := by
  cases s <;> decide

/-- By `mayBecome`, nothing follows `resolved`. -/
theorem ne_resolved_of_mayBecome {s t : ViolationStatus} (h : s.mayBecome t = true) :
    s ≠ .resolved := by
  rintro rfl
  cases t <;> exact absurd h (by decide)

end ViolationStatus

namespace Violation

/-! ### Requests -/

/-- What may be asked of a violation. -/
inductive Request
  | acknowledge (now : Timestamp) (actor : Option String)
  | startRemediation (now : Timestamp) (actor : Option String)
  | resolve (now : Timestamp) (r : Resolution)
  | transition (now : Timestamp) (target : ViolationStatus) (actor : Option String)
      (resolution : Option Resolution)

namespace Request

def answer : Request → Violation → Except ViolationError (Option Violation)
  | acknowledge now actor, v => v.acknowledge now actor
  | startRemediation now actor, v => v.startRemediation now actor
  | resolve now r, v => v.resolve now r
  | transition now target actor resolution, v => v.transition now target actor resolution

/-- The status that the request is to lead to. -/
def target : Request → ViolationStatus
  | acknowledge _ _ => .acknowledged
  | startRemediation _ _ => .inRemediation
  | resolve _ _ => .resolved
  | transition _ target _ _ => target

/-- The resolution that the request brings, if it is to `resolve`. -/
def resolution? : Request → Option Resolution
  | acknowledge _ _ => none
  | startRemediation _ _ => none
  | resolve _ r => some r
  | transition _ _ _ resolution => resolution

/-- A request `r` is answered as a `transition` to its target with its resolution. -/
theorem exists_answer_eq (r : Request) (v : Violation) :
    ∃ now actor, r.answer v = v.transition now r.target actor r.resolution? := by
  cases r with
  | acknowledge now actor => exact ⟨now, actor, rfl⟩
  | startRemediation now actor => exact ⟨now, actor, rfl⟩
  | resolve now r => exact ⟨now, some r.resolvedBy, rfl⟩
  | transition now target actor resolution => exact ⟨now, actor, rfl⟩

end Request

/-- The violation `v` after the request `r`. One that is refused, or finds nothing to change, leaves
it as it is. -/
def grant (v : Violation) (r : Request) : Violation :=
  match r.answer v with
  | .ok (some w) => w
  | _ => v

/-- The violation `v` after `requests`, one after the other. -/
def live (v : Violation) (requests : List Request) : Violation := requests.foldl grant v

/-! ### Answers -/

/-- How the violation `v` moves when a request is granted: onward with nothing on record, or to its
resolution, which is put on record. -/
inductive Move (v : Violation) : Violation → Prop
  | onward (now : Timestamp) (target : ViolationStatus) (actor : Option String)
      (hmay : v.status.mayBecome target = true) (hopen : target ≠ .resolved) :
      Move v (v.moved now target actor)
  | settled (now : Timestamp) (actor : Option String) (r : Resolution)
      (hmay : v.status.mayBecome .resolved = true) (hwho : Text.isAllBlank r.resolvedBy = false)
      (hhow : Text.isAllBlank r.resolution = false) :
      Move v ((v.settledBy now r).moved now .resolved actor)

/-- The reasons for which the violation `v` refuses to go to the status `target`. -/
inductive Refuses (v : Violation) (target : ViolationStatus) (resolution : Option Resolution) :
    ViolationError → Prop
  | terminal (h : v.status = .resolved) (hne : v.status ≠ target) :
      Refuses v target resolution (.terminalState v.status)
  | invalid (h : v.status.mayBecome target = false) (hne : v.status ≠ target) :
      Refuses v target resolution (.invalidTransition v.status target)
  | nobody (htarget : target = .resolved)
      (h : ∀ r, resolution = some r → Text.isAllBlank r.resolvedBy = true) :
      Refuses v target resolution (.missingResolution .resolvedBy)
  | nothing (htarget : target = .resolved) (r : Resolution) (h : resolution = some r)
      (hblank : Text.isAllBlank r.resolution = true) :
      Refuses v target resolution (.missingResolution .resolution)

/-- A `resolution` either counts as `settled`, or lacks the one who resolved or what was done. -/
theorem settled_cases (resolution : Option Resolution) :
    (∃ r, Resolution.settled resolution = .ok r ∧ Text.isAllBlank r.resolvedBy = false
        ∧ Text.isAllBlank r.resolution = false)
      ∨ (Resolution.settled resolution = .error (.missingResolution .resolvedBy)
        ∧ ∀ r, resolution = some r → Text.isAllBlank r.resolvedBy = true)
      ∨ Resolution.settled resolution = .error (.missingResolution .resolution)
        ∧ ∃ r, resolution = some r ∧ Text.isAllBlank r.resolution = true := by
  cases resolution with
  | none => exact .inr (.inl ⟨rfl, by simp⟩)
  | some r =>
    cases hwho : Text.isAllBlank r.resolvedBy with
    | true =>
      refine .inr (.inl ⟨if_pos hwho, fun s hs => ?_⟩)
      obtain rfl := Option.some.inj hs
      exact hwho
    | false =>
      cases hhow : Text.isAllBlank r.resolution with
      | true => exact .inr (.inr ⟨by simp [Resolution.settled, hwho, hhow], r, rfl, hhow⟩)
      | false => exact .inl ⟨r, by simp [Resolution.settled, hwho, hhow], hwho, hhow⟩

/-- **What comes of a request.** By `answer` it is granted by a `Move` to its target, or its target
is reached already, or there is a reason to refuse it. -/
theorem answer_cases (v : Violation) (r : Request) :
    (∃ w, r.answer v = .ok (some w) ∧ v.Move w ∧ w.status = r.target)
      ∨ (r.answer v = .ok none ∧ v.status = r.target)
      ∨ ∃ e, r.answer v = .error e ∧ v.Refuses r.target r.resolution? e := by
  obtain ⟨now, actor, hanswer⟩ := r.exists_answer_eq v
  rw [hanswer, transition]
  by_cases hsame : v.status = r.target
  · exact .inr (.inl ⟨if_pos hsame, hsame⟩)
  rw [if_neg hsame]
  by_cases hterminal : v.status.isTerminal = true
  · exact .inr (.inr ⟨_, if_pos hterminal,
      .terminal (ViolationStatus.isTerminal_iff.1 hterminal) hsame⟩)
  rw [if_neg hterminal]
  cases hmay : v.status.mayBecome r.target with
  | false => exact .inr (.inr ⟨_, rfl, .invalid hmay hsame⟩)
  | true =>
    rw [if_neg (by decide)]
    by_cases htarget : r.target = .resolved
    · rw [if_pos htarget]
      rcases settled_cases r.resolution? with
        ⟨s, hs, hwho, hhow⟩ | ⟨hs, hnobody⟩ | ⟨hs, s, hresolution, hnothing⟩
      · rw [hs, htarget]
        exact .inl ⟨_, rfl, .settled now actor s (htarget ▸ hmay) hwho hhow, rfl⟩
      · rw [hs]
        exact .inr (.inr ⟨_, rfl, .nobody htarget hnobody⟩)
      · rw [hs]
        exact .inr (.inr ⟨_, rfl, .nothing htarget s hresolution hnothing⟩)
    · rw [if_neg htarget]
      exact .inl ⟨_, rfl, .onward now r.target actor hmay htarget, rfl⟩

theorem Move.mayBecome {v w : Violation} (h : v.Move w) : v.status.mayBecome w.status = true := by
  cases h with
  | onward now target actor hmay hopen => exact hmay
  | settled now actor r hmay hwho hhow => exact hmay

/-- **A request moves a violation or leaves it as it is**: `grant` is a `Move` of `v`, or gives
`v`. -/
theorem grant_cases (v : Violation) (r : Request) : v.Move (v.grant r) ∨ v.grant r = v := by
  unfold grant
  rcases v.answer_cases r with ⟨w, hanswer, hmove, -⟩ | ⟨hanswer, -⟩ | ⟨e, hanswer, -⟩
  · rw [hanswer]
    exact .inl hmove
  · rw [hanswer]
    exact .inr rfl
  · rw [hanswer]
    exact .inr rfl

/-! ### What a move keeps -/

/-- The statuses that the handling of `v` has led through. -/
def statuses (v : Violation) : List ViolationStatus :=
  .unresolved :: v.transitions.map ViolationTransition.target

/-- Who resolved the violation `v`, how, and when is on record; it was the last thing that
happened. -/
def OnRecord (v : Violation) : Prop :=
  ∃ t who how, v.resolvedAt = some t ∧ v.resolvedBy = some who ∧ v.resolution = some how
    ∧ Text.isAllBlank who = false ∧ Text.isAllBlank how = false
    ∧ v.transitions.getLast?.map ViolationTransition.timestamp = some t

/-- What holds all through the handling of the violation `v` that was opened as `origin`. -/
structure Regular (origin v : Violation) : Prop where
  /-- What was found is as it was. -/
  found : v = { origin with
    status := v.status
    resolvedAt := v.resolvedAt
    resolution := v.resolution
    resolvedBy := v.resolvedBy
    transitions := v.transitions }
  /-- Each change of status sets out from where the one before has led. -/
  contiguous : v.transitions.map ViolationTransition.source ++ [v.status] = v.statuses
  allowed : ∀ t ∈ v.transitions, t.source.mayBecome t.target = true
  onRecord : v.status = .resolved → v.OnRecord
  offRecord : v.status ≠ .resolved →
    v.resolvedAt = none ∧ v.resolvedBy = none ∧ v.resolution = none

theorem regular_opened (id : ViolationId) (now : Timestamp) (d : Detection) :
    (opened id now d).Regular (opened id now d) where
  found := rfl
  contiguous := rfl
  allowed := fun _ ht => absurd ht List.not_mem_nil
  onRecord := fun h => ViolationStatus.noConfusion h
  offRecord := fun _ => ⟨rfl, rfl, rfl⟩

namespace Regular

variable {origin v w : Violation}

/-- One more change of status, to `target`, sets out from the present one. -/
theorem contiguous_moved (h : origin.Regular v) (now : Timestamp) (target : ViolationStatus)
    (actor : Option String) :
    (v.moved now target actor).transitions.map ViolationTransition.source ++ [target]
      = (v.moved now target actor).statuses := by
  rw [moved, statuses, List.map_append, List.map_append, ← List.cons_append]
  exact congrArg (· ++ [target]) h.contiguous

theorem allowed_moved (h : origin.Regular v) (now : Timestamp) {target : ViolationStatus}
    (actor : Option String) (hmay : v.status.mayBecome target = true) :
    ∀ t ∈ (v.moved now target actor).transitions, t.source.mayBecome t.target = true := by
  intro t ht
  rcases List.mem_append.1 ht with hold | hnew
  · exact h.allowed t hold
  · obtain rfl := List.mem_singleton.1 hnew
    exact hmay

/-- **A move keeps it all**: what is `Regular` stays so. -/
theorem move (h : origin.Regular v) (hvw : v.Move w) : origin.Regular w := by
  have hopen := ViolationStatus.ne_resolved_of_mayBecome hvw.mayBecome
  cases hvw with
  | onward now target actor hmay htarget =>
    constructor
    · rw [h.found]
      rfl
    · exact h.contiguous_moved now target actor
    · exact h.allowed_moved now actor hmay
    · exact fun hresolved => absurd hresolved htarget
    · exact fun _ => h.offRecord hopen
  | settled now actor r hmay hwho hhow =>
    constructor
    · rw [h.found]
      rfl
    · exact h.contiguous_moved now .resolved actor
    · exact h.allowed_moved now actor hmay
    · exact fun _ => ⟨now, r.resolvedBy, r.resolution, rfl, rfl, rfl, hwho, hhow, by
        simp [moved, settledBy]⟩
    · exact fun hunresolved => absurd rfl hunresolved

/-- By `mayBecome` the `statuses` follow each other. -/
theorem isChain_statuses (h : origin.Regular v) :
    v.statuses.IsChain fun s t => s.mayBecome t = true := by
  have hsources : v.statuses.dropLast = v.transitions.map ViolationTransition.source := by
    rw [← h.contiguous, List.dropLast_concat]
  rw [List.isChain_iff_forall₂, hsources]
  show List.Forall₂ _ _ (v.transitions.map ViolationTransition.target)
  rw [List.forall₂_map_left_iff, List.forall₂_map_right_iff, List.forall₂_same]
  exact h.allowed

/-- **No status comes twice** among the `statuses`. -/
theorem nodup_statuses (h : origin.Regular v) : v.statuses.Nodup := by
  have hstages : (v.statuses.map ViolationStatus.stage).IsChain (· < ·) :=
    (List.isChain_map _).2 (h.isChain_statuses.imp fun _ _ => ViolationStatus.stage_lt_of_mayBecome)
  exact (List.pairwise_map.1 hstages.pairwise).imp fun hlt heq =>
    absurd (congrArg ViolationStatus.stage heq) (Nat.ne_of_lt hlt)

end Regular

/-! ### What the handling keeps -/

/-- Whatever is asked, `v.live requests` stays `Regular`. -/
theorem regular_live {origin v : Violation} (h : origin.Regular v) (requests : List Request) :
    origin.Regular (v.live requests) := by
  induction requests generalizing v with
  | nil => exact h
  | cons r rest ih =>
    refine ih ?_
    rcases v.grant_cases r with hmove | hsame
    · exact h.move hmove
    · rw [hsame]
      exact h

/-- A violation that is `resolved` stays as it is. -/
theorem live_of_resolved {v : Violation} (h : v.status = .resolved) (requests : List Request) :
    v.live requests = v := by
  induction requests with
  | nil => rfl
  | cons r rest ih =>
    have hsame : v.grant r = v := (v.grant_cases r).resolve_left fun hmove =>
      ViolationStatus.ne_resolved_of_mayBecome hmove.mayBecome h
    show (v.grant r).live rest = v
    rw [hsame]
    exact ih

/-- **The handling of a violation.** Let `v` be opened and then asked `requests`, and let `q` be the
violation after them. If it is `resolved`, it is on record who resolved it, how, and that it was at
the time of the last change of status; neither entry is blank. If it is not, none of this is on
record. The changes `q.transitions` lead, by steps that `mayBecome` allows, from being open to the
present status and to no status twice. All else is as it was when `v` was opened. A request `r` that
is granted moves the violation to the status asked for. Any other leaves it as it is, either because
it has this status already or for one of the reasons to refuse (`Refuses`). Once `resolved`, the
violation stays as it is. -/
theorem lifecycle_of_opened (id : ViolationId) (now : Timestamp) (d : Detection)
    (requests : List Request) :
    let v := opened id now d
    let q := v.live requests
    (q.status = .resolved →
        ∃ t who how, q.resolvedAt = some t ∧ q.resolvedBy = some who ∧ q.resolution = some how
          ∧ Text.isAllBlank who = false ∧ Text.isAllBlank how = false
          ∧ q.transitions.getLast?.map ViolationTransition.timestamp = some t)
      ∧ (q.status ≠ .resolved →
        q.resolvedAt = none ∧ q.resolvedBy = none ∧ q.resolution = none)
      ∧ q.transitions.map ViolationTransition.source ++ [q.status]
        = .unresolved :: q.transitions.map ViolationTransition.target
      ∧ (∀ t ∈ q.transitions, t.source.mayBecome t.target = true)
      ∧ (ViolationStatus.unresolved :: q.transitions.map ViolationTransition.target).Nodup
      ∧ q = { v with
          status := q.status
          resolvedAt := q.resolvedAt
          resolution := q.resolution
          resolvedBy := q.resolvedBy
          transitions := q.transitions }
      ∧ (∀ r : Request,
        (∃ w, r.answer q = .ok (some w) ∧ q.grant r = w ∧ w.status = r.target
            ∧ q.status.mayBecome w.status = true)
          ∨ q.grant r = q
            ∧ (r.answer q = .ok none ∧ q.status = r.target
              ∨ ∃ e, r.answer q = .error e ∧ q.Refuses r.target r.resolution? e))
      ∧ (q.status = .resolved → ∀ later, q.live later = q) := by
  intro v q
  have hregular : v.Regular q := regular_live (regular_opened id now d) requests
  refine ⟨hregular.onRecord, hregular.offRecord, hregular.contiguous, hregular.allowed,
    hregular.nodup_statuses, hregular.found, fun r => ?_, live_of_resolved⟩
  unfold grant
  rcases q.answer_cases r with ⟨w, hanswer, hmove, htarget⟩ | ⟨hanswer, hsame⟩ | ⟨e, hanswer, he⟩
  · rw [hanswer]
    exact .inl ⟨w, rfl, rfl, htarget, hmove.mayBecome⟩
  · rw [hanswer]
    exact .inr ⟨rfl, .inl ⟨rfl, hsame⟩⟩
  · rw [hanswer]
    exact .inr ⟨rfl, .inr ⟨e, rfl, he⟩⟩

/-- Human oversight was asked for, and is missing. -/
def unattended : Detection where
  policyId := ⟨Uuid.ofNat 1⟩
  policyVersion := 1
  tenant := ⟨⟨"north", by decide⟩⟩
  assessmentId := ⟨⟨"intake", by decide⟩⟩
  severity := .high
  data := ⟨"humanOversight", .isTrue, .null, .null, false, none⟩

/-- A violation is acknowledged, to be resolved by nobody, resolved, and acknowledged again: the
second and the last request are refused. -/
theorem lifecycle_of_opened_unattended :
    let v := opened ⟨Uuid.ofNat 2⟩ ⟨0, 0⟩ unattended
    let q := v.live
      [.acknowledge ⟨1, 0⟩ none, .resolve ⟨2, 0⟩ ⟨" ", "overseer named"⟩,
       .resolve ⟨3, 0⟩ ⟨"dpo", "overseer named"⟩, .acknowledge ⟨4, 0⟩ none]
    q.status = .resolved ∧ q.resolvedBy = some "dpo" ∧ q.detectedAt = ⟨0, 0⟩
      ∧ q.resolvedAt = some ⟨3, 0⟩
      ∧ q.transitions.getLast?.map ViolationTransition.timestamp = some ⟨3, 0⟩
      ∧ q.transitions.map ViolationTransition.target = [.acknowledged, .resolved]
      ∧ q.Refuses .acknowledged none (.terminalState .resolved) ∧ ∀ later, q.live later = q := by
  intro v q
  have hresolved : q.status = .resolved := rfl
  obtain ⟨hrecord, -, -, -, -, hfound, hanswers, hstays⟩ :=
    lifecycle_of_opened ⟨Uuid.ofNat 2⟩ ⟨0, 0⟩ unattended
      [.acknowledge ⟨1, 0⟩ none, .resolve ⟨2, 0⟩ ⟨" ", "overseer named"⟩,
       .resolve ⟨3, 0⟩ ⟨"dpo", "overseer named"⟩, .acknowledge ⟨4, 0⟩ none]
  obtain ⟨t, who, how, ht, -, -, -, -, hlast⟩ := hrecord hresolved
  have hat : q.resolvedAt = some ⟨3, 0⟩ := rfl
  obtain rfl : t = ⟨3, 0⟩ := Option.some.inj (ht.symm.trans hat)
  have hrefused : q.Refuses .acknowledged none (.terminalState .resolved) := by
    have hanswer : (Request.acknowledge ⟨5, 0⟩ none).answer q
        = .error (.terminalState .resolved) := rfl
    rcases hanswers (.acknowledge ⟨5, 0⟩ none) with
      ⟨w, hgranted, -⟩ | ⟨-, ⟨hnothing, -⟩ | ⟨error, herror, hrefuses⟩⟩
    · exact absurd (hanswer.symm.trans hgranted) (by simp)
    · exact absurd (hanswer.symm.trans hnothing) (by simp)
    · obtain rfl := Except.error.inj (hanswer.symm.trans herror)
      exact hrefuses
  exact ⟨hresolved, rfl, congrArg detectedAt hfound, hat, hlast, rfl, hrefused, hstays hresolved⟩

end Violation

end Governance
