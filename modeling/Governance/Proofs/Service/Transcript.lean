import Governance.Proofs.Judgement.Decision
import Governance.Service
import Governance.Pattern.Program

/-!
# What a request for judgement does

The collaborators of a service are asked to keep violations and to send notifications, and may fail
whenever they please. Here they are given a record of what they are asked and what they say, so that
the calls of a request can be told apart from its answer. Keeping such a record changes nothing.

* `keepAll_eq`: every violation is offered once and in order, whatever became of those before.
* `transcript_of_unready`, `transcript_of_ready`: what a request does, by whether its assessment and
  its policies can be had.
* `every_violation_accounted`: no violation is lost between the result, the store and the answer.
-/

namespace Governance

/-- A violation that was offered to a store, and what the store said. -/
structure Offer where
  violation : Violation
  reply : Except StoreError Unit

namespace Offer

/-- Whether the violation of `o` was kept. -/
def kept (o : Offer) : Bool :=
  match o.reply with
  | .ok _ => true
  | .error _ => false

/-- What is reported of the violation of `o` if it was refused. -/
def failure? (o : Offer) : Option PersistFailure :=
  match o.reply with
  | .ok _ => none
  | .error e => some ⟨o.violation.id, e⟩

theorem failure?_eq_none_iff {o : Offer} : o.failure? = none ↔ o.kept = true := by
  obtain ⟨v, reply⟩ := o
  cases reply <;> simp [failure?, kept]

/-- Nothing is reported (`failure?`) when everything was kept. -/
theorem failures_eq_nil_iff {offers : List Offer} :
    offers.filterMap failure? = [] ↔ ∀ o ∈ offers, o.kept = true := by
  simp only [List.filterMap_eq_nil_iff, failure?_eq_none_iff]

/-- By `failure?`, what is reported is reported of the violations that were refused. -/
theorem map_violation_failures (offers : List Offer) :
    (offers.filterMap failure?).map PersistFailure.violation
      = (offers.filter fun o => !o.kept).map fun o => o.violation.id := by
  induction offers with
  | nil => rfl
  | cons o offers ih =>
    obtain ⟨v, reply⟩ := o
    cases reply with
    | ok u => exact ih
    | error e => exact congrArg (v.id :: ·) ih

/-- The offers of violations to a store that replies and changes as `keep` says. -/
def sequence {σ : Type} (keep : σ → Violation → Except StoreError Unit × σ) :
    σ → List Violation → List Offer
  | _, [] => []
  | s, v :: vs => ⟨v, (keep s v).1⟩ :: sequence keep (keep s v).2 vs

/-- **Every violation is offered once**, also behind one that was refused: `sequence` offers all of
`vs`. -/
theorem map_violation_sequence {σ : Type} (keep : σ → Violation → Except StoreError Unit × σ)
    (s : σ) (vs : List Violation) : (sequence keep s vs).map violation = vs := by
  induction vs generalizing s with
  | nil => rfl
  | cons v vs ih => exact congrArg (v :: ·) (ih (keep s v).2)

end Offer

/-- What a request did: its answer, what it asked of its collaborators, and how it left them. -/
structure Transcript (σ τ : Type) where
  answer : Except ServiceError BulkResult
  offers : List Offer
  /-- What was handed over in each call to send. -/
  sent : List (List Notification)
  store : σ
  dispatcher : τ

namespace Collaborators

variable {σ τ : Type}

/-- The collaborators `c`, with a record of the violations offered and of the calls to `send`. -/
def recording (c : Collaborators σ τ) :
    Collaborators (σ × List Offer) (τ × List (List Notification)) where
  activePolicies := c.activePolicies
  assessment := c.assessment
  keep := fun (s, offers) v =>
    let (reply, s') := c.keep s v
    (reply, s', offers ++ [⟨v, reply⟩])
  send := fun (t, sent) notifications =>
    let (reply, t') := c.send t notifications
    (reply, t', sent ++ [notifications])

/-- The collaborators `c`, but for `send`, which says where notifications go. -/
def sendingBy {υ : Type} (c : Collaborators σ τ)
    (send : υ → List Notification → Except DispatchError Unit × υ) : Collaborators σ υ where
  activePolicies := c.activePolicies
  assessment := c.assessment
  keep := c.keep
  send := send

section Library

variable [Pattern.Library]

/-- What a request for `tenant` about the assessment `id` does, on record. -/
def transcript (c : Collaborators σ τ) (e : Engine) (ids : IdSource) (now : Timestamp)
    (tenant : TenantId) (id : AssessmentId) (s : σ) (t : τ) : Transcript σ τ :=
  let (answer, (store, offers), dispatcher, sent) :=
    c.recording.govern e ids now tenant id (s, []) (t, [])
  ⟨answer, offers, sent, store, dispatcher⟩

/-! ### Keeping and sending -/

omit [Pattern.Library] in
/-- **Keeping violations, on record or not**: `keepAll` on record does what it does otherwise, and
adds the offers to those `before`. -/
theorem keepAll_recording (c : Collaborators σ τ) (s : σ) (before : List Offer)
    (vs : List Violation) :
    c.recording.keepAll (s, before) vs
      = ((c.keepAll s vs).1, (c.keepAll s vs).2, before ++ Offer.sequence c.keep s vs) := by
  induction vs generalizing s before with
  | nil => simp [keepAll, Offer.sequence]
  | cons v vs ih =>
    have hkeep : c.recording.keep (s, before) v
        = ((c.keep s v).1, (c.keep s v).2, before ++ [⟨v, (c.keep s v).1⟩]) := rfl
    rw [keepAll, keepAll, Offer.sequence, hkeep]
    obtain ⟨reply, s'⟩ := c.keep s v
    cases reply with
    | ok u => simp [ih]
    | error e => simp [ih]

omit [Pattern.Library] in
/-- What `keepAll` reports are the refusals, and the store is left as all offers have left it. -/
theorem keepAll_eq (c : Collaborators σ τ) (s : σ) (vs : List Violation) :
    c.keepAll s vs
      = ((Offer.sequence c.keep s vs).filterMap Offer.failure?,
        vs.foldl (fun s v => (c.keep s v).2) s) := by
  induction vs generalizing s with
  | nil => rfl
  | cons v vs ih =>
    rw [keepAll, Offer.sequence, List.filterMap_cons, List.foldl_cons]
    cases hkeep : c.keep s v with
    | mk reply s' =>
      cases reply with
      | ok u => exact ih s'
      | error e => simp [Offer.failure?, ih]

omit [Pattern.Library] in
theorem sendAny_recording (c : Collaborators σ τ) (t : τ) (notifications : List Notification) :
    c.recording.sendAny (t, []) notifications
      = (c.sendAny t notifications,
        if notifications.isEmpty then [] else [notifications]) := by
  unfold sendAny
  split
  · rfl
  · rfl

/-! ### Loading -/

/-- The reasons for which a request for `tenant` about `id` is not taken up. -/
inductive Unready (c : Collaborators σ τ) (tenant : TenantId) (id : AssessmentId) :
    ServiceError → Prop
  /-- Reading the assessment fails. -/
  | lost (cause : StoreError) (h : c.assessment id = .error cause) :
      Unready c tenant id (.store cause)
  /-- The assessment is not the tenant's. -/
  | foreign (a : Assessment) (h : c.assessment id = .ok a) (hne : a.tenant ≠ tenant) :
      Unready c tenant id (.tenantMismatch a.id tenant a.tenant)
  /-- The policies cannot be had. -/
  | unpoliced (a : Assessment) (cause : StoreError) (h : c.assessment id = .ok a)
      (htenant : a.tenant = tenant) (hpolicies : c.activePolicies tenant = .error cause) :
      Unready c tenant id (.store cause)

omit [Pattern.Library] in
theorem load_of_unready {c : Collaborators σ τ} {tenant : TenantId} {id : AssessmentId}
    {error : ServiceError} (h : c.Unready tenant id error) : c.load tenant id = .error error := by
  unfold load
  cases h with
  | lost cause h => rw [h]
  | foreign a h hne => rw [h]; exact if_neg hne
  | unpoliced a cause h htenant hpolicies =>
    rw [h, hpolicies]
    exact if_pos htenant

omit [Pattern.Library] in
theorem load_of_ready {c : Collaborators σ τ} {tenant : TenantId} {id : AssessmentId}
    {a : Assessment} {policies : List Policy} (h : c.assessment id = .ok a)
    (htenant : a.tenant = tenant) (hpolicies : c.activePolicies tenant = .ok policies) :
    c.load tenant id = .ok (a, policies) := by
  unfold load
  rw [h, hpolicies]
  exact if_pos htenant

omit [Pattern.Library] in
theorem load_recording (c : Collaborators σ τ) (tenant : TenantId) (id : AssessmentId) :
    c.recording.load tenant id = c.load tenant id := rfl

/-! ### Requests -/

/-- The answer to a request, once it is known what became of the violations of `result`. -/
def answerTo (result : BulkResult) (offers : List Offer) : Except ServiceError BulkResult :=
  if (offers.filterMap Offer.failure?).isEmpty then .ok result
  else .error (.persist (offers.filterMap Offer.failure?) result)

section Request

variable (c : Collaborators σ τ) (e : Engine) (ids : IdSource) (now : Timestamp)
  {tenant : TenantId} {id : AssessmentId} (s : σ) (t : τ)

/-- **A request that is not taken up does nothing**: when `load` fails, its `error` is the
answer. -/
theorem transcript_of_unready {error : ServiceError} (h : c.load tenant id = .error error) :
    c.transcript e ids now tenant id s t = ⟨.error error, [], [], s, t⟩ := by
  rw [transcript, govern, load_recording, h]

/-- **What is done of a request that is taken up**, when `load` gives an assessment and policies. -/
theorem transcript_of_ready {a : Assessment} {policies : List Policy}
    (h : c.load tenant id = .ok (a, policies)) :
    let result := e.judgeAll ids now a policies
    let offers := Offer.sequence c.keep s result.violations
    c.transcript e ids now tenant id s t
      = { answer := answerTo result offers
          offers := offers
          sent := if result.notifications.isEmpty then [] else [result.notifications]
          store := result.violations.foldl (fun s v => (c.keep s v).2) s
          dispatcher := c.sendAny t result.notifications } := by
  intro result offers
  rw [transcript, govern, load_recording, h]
  dsimp only
  rw [keepAll_recording, keepAll_eq, sendAny_recording]
  cases hrefused : (offers.filterMap Offer.failure?).isEmpty <;>
    simp [answerTo, offers, result, hrefused]

variable (tenant id)

/-- The `transcript` is of what `govern` does. -/
theorem govern_eq_transcript :
    c.govern e ids now tenant id s t
      = ((c.transcript e ids now tenant id s t).answer,
        (c.transcript e ids now tenant id s t).store,
        (c.transcript e ids now tenant id s t).dispatcher) := by
  cases h : c.load tenant id with
  | error error => rw [transcript, govern, govern, load_recording, h]
  | ok loaded =>
    obtain ⟨a, policies⟩ := loaded
    rw [c.transcript_of_ready e ids now s t h, govern, h]
    dsimp only
    rw [keepAll_eq, answerTo]
    split <;> rfl

/-- Where notifications go (`sendingBy`) has no part in the answer and in what is kept. -/
theorem govern_sendingBy {υ : Type} (send : υ → List Notification → Except DispatchError Unit × υ)
    (u : υ) :
    ((c.sendingBy send).govern e ids now tenant id s u).1 = (c.govern e ids now tenant id s t).1
      ∧ ((c.sendingBy send).govern e ids now tenant id s u).2.1
        = (c.govern e ids now tenant id s t).2.1 := by
  have hload : (c.sendingBy send).load tenant id = c.load tenant id := rfl
  cases h : c.load tenant id with
  | error error =>
    rw [govern, govern, hload, h]
    exact ⟨rfl, rfl⟩
  | ok loaded =>
    have hkeepAll : ∀ vs, (c.sendingBy send).keepAll s vs = c.keepAll s vs := fun vs => by
      rw [keepAll_eq, keepAll_eq]
      rfl
    rw [govern, govern, hload, h]
    dsimp only
    rw [hkeepAll]
    constructor <;> split <;> rfl

end Request

/-! ### Violations are accounted for -/

omit [Pattern.Library] in
theorem answerTo_eq_ok_iff {result : BulkResult} {offers : List Offer} :
    answerTo result offers = .ok result ↔ ∀ o ∈ offers, o.kept = true := by
  rw [← Offer.failures_eq_nil_iff, answerTo]
  split
  · next h => exact iff_of_true rfl (List.isEmpty_iff.1 h)
  · next h => exact iff_of_false (by simp) fun hnil => h (List.isEmpty_iff.2 hnil)

omit [Pattern.Library] in
theorem answerTo_of_refused {result : BulkResult} {offers : List Offer}
    (h : ¬ ∀ o ∈ offers, o.kept = true) :
    answerTo result offers = .error (.persist (offers.filterMap Offer.failure?) result) :=
  if_neg fun hnone => h (Offer.failures_eq_nil_iff.1 (List.isEmpty_iff.1 hnone))

end Library

end Collaborators

/-- What a request has done with a result: it has offered every violation once and in order, and has
left the store as these offers have. The answer is the result if all violations were kept. Otherwise
it holds the result and what the store said of each violation that it refused. Every violation was
kept or refused. All notifications were handed over at once, if there were any. -/
structure Transcript.Accounts {σ τ : Type} (c : Collaborators σ τ) (s : σ) (result : BulkResult)
    (r : Transcript σ τ) : Prop where
  offers : r.offers = Offer.sequence c.keep s result.violations
  offered : r.offers.map Offer.violation = result.violations
  store : r.store = result.violations.foldl (fun s v => (c.keep s v).2) s
  answer_ok : r.answer = .ok result ↔ ∀ o ∈ r.offers, o.kept = true
  answer_error : (¬ ∀ o ∈ r.offers, o.kept = true) →
    r.answer = .error (.persist (r.offers.filterMap Offer.failure?) result)
  failures : (r.offers.filterMap Offer.failure?).map PersistFailure.violation
    = (r.offers.filter fun o => !o.kept).map fun o => o.violation.id
  kept_or_refused : ((r.offers.filter Offer.kept).map Offer.violation
    ++ (r.offers.filter fun o => !o.kept).map Offer.violation).Perm result.violations
  sent : r.sent = if result.notifications.isEmpty then [] else [result.notifications]

namespace Collaborators

variable {σ τ : Type}

theorem accounts_of_ready [Pattern.Library] (c : Collaborators σ τ) (e : Engine) (ids : IdSource)
    (now : Timestamp) {tenant : TenantId} {id : AssessmentId} (s : σ) (t : τ) {a : Assessment}
    {policies : List Policy} (h : c.load tenant id = .ok (a, policies)) :
    (c.transcript e ids now tenant id s t).Accounts c s (e.judgeAll ids now a policies) := by
  rw [c.transcript_of_ready e ids now s t h]
  have hoffered := Offer.map_violation_sequence c.keep s (e.judgeAll ids now a policies).violations
  constructor
  · rfl
  · exact hoffered
  · rfl
  · exact answerTo_eq_ok_iff
  · exact answerTo_of_refused
  · exact Offer.map_violation_failures _
  · rw [← List.map_append]
    exact ((List.filter_append_perm Offer.kept _).map Offer.violation).trans (.of_eq hoffered)
  · rfl

/-- **Every violation is accounted for**, whatever the collaborators `c` do. If the assessment
cannot be had or is another tenant's, or if the policies cannot be had (`Unready`), the answer is
that, and nothing is asked of store and dispatcher. Any other request is accounted for
(`Transcript.Accounts`). Where notifications go, and whether they get there, changes neither the
answer nor the store. -/
theorem every_violation_accounted [Pattern.Library] (c : Collaborators σ τ) (e : Engine)
    (ids : IdSource) (now : Timestamp) (tenant : TenantId) (id : AssessmentId) (s : σ) (t : τ) :
    let r := c.transcript e ids now tenant id s t
    c.govern e ids now tenant id s t = (r.answer, r.store, r.dispatcher)
      ∧ (∀ error, c.Unready tenant id error → r = ⟨.error error, [], [], s, t⟩)
      ∧ (∀ a policies, c.assessment id = .ok a → a.tenant = tenant →
        c.activePolicies tenant = .ok policies →
        r.Accounts c s (e.judgeAll ids now a policies))
      ∧ ∀ (υ : Type) (send : υ → List Notification → Except DispatchError Unit × υ) (u : υ),
        ((c.sendingBy send).govern e ids now tenant id s u).1 = r.answer
          ∧ ((c.sendingBy send).govern e ids now tenant id s u).2.1 = r.store := by
  intro r
  have hgovern : c.govern e ids now tenant id s t = (r.answer, r.store, r.dispatcher) :=
    c.govern_eq_transcript e ids now tenant id s t
  refine ⟨hgovern, fun error h => ?_, ?_, fun υ send u => ?_⟩
  · exact c.transcript_of_unready e ids now s t (load_of_unready h)
  · intro a policies h htenant hpolicies
    exact c.accounts_of_ready e ids now s t (load_of_ready h htenant hpolicies)
  · have hsame := c.govern_sendingBy e ids now tenant id s t send u
    rw [hgovern] at hsame
    exact hsame

/-- Collaborators with a store that refuses the first violation it is asked to keep, a dispatcher
that is down, and the assessment `a` with some `policies`. -/
def reluctant (a : Assessment) (policies : List Policy) : Collaborators Nat Unit where
  activePolicies _ := .ok policies
  assessment _ := .ok a
  keep asked _ := (if asked = 0 then .error (.unavailable "full") else .ok (), asked + 1)
  send _ _ := (.error (.unavailable "down"), ())

/-- Two rules are violated. The first violation is refused, the second is kept all the same, and the
answer tells of the first. A request for another tenant is not taken up. -/
theorem every_violation_accounted_reluctant :
    let rule := Policy.initial ⟨Uuid.ofNat 1⟩ ⟨0, 0⟩ Engine.remedyRule Engine.deniedTwice
    let other := { rule with id := ⟨Uuid.ofNat 2⟩ }
    let a := Assessment.bare ⟨⟨"system", by decide⟩⟩ rule.tenant
    let foreigner : TenantId := ⟨⟨"us", by decide⟩⟩
    let c := reluctant a [rule, other]
    let e : Engine := ⟨.still, .default⟩
    let result := e.judgeAll ⟨Uuid.ofNat, 3⟩ ⟨0, 0⟩ a [rule, other]
    let r := c.transcript e ⟨Uuid.ofNat, 3⟩ ⟨0, 0⟩ rule.tenant a.id 0 ()
    r.offers.map Offer.kept = [false, true]
      ∧ r.offers.map Offer.violation = result.violations
      ∧ r.answer = .error (.persist (r.offers.filterMap Offer.failure?) result)
      ∧ (r.offers.filterMap Offer.failure?).map PersistFailure.error = [.unavailable "full"]
      ∧ r.sent = [result.notifications] ∧ result.notifications.length = 4
      ∧ c.transcript e ⟨Uuid.ofNat, 3⟩ ⟨0, 0⟩ foreigner a.id 0 ()
        = ⟨.error (.tenantMismatch a.id foreigner rule.tenant), [], [], 0, ()⟩ := by
  intro rule other a foreigner c e result r
  obtain ⟨-, -, hready, -⟩ :=
    every_violation_accounted c e ⟨Uuid.ofNat, 3⟩ ⟨0, 0⟩ rule.tenant a.id 0 ()
  have haccounts : r.Accounts c 0 result := hready a [rule, other] rfl rfl rfl
  have htwo : result.violations.length = 2 := by
    show (List.mergeSort _ _).length = 2
    rw [List.length_mergeSort]
    decide +kernel
  obtain ⟨v, w, hviolations⟩ := List.length_eq_two.1 htwo
  have hoffers : r.offers = [⟨v, .error (.unavailable "full")⟩, ⟨w, .ok ()⟩] := by
    rw [haccounts.offers, hviolations]
    rfl
  have hrefused : ¬ ∀ o ∈ r.offers, o.kept = true := by
    rw [hoffers]
    exact fun hall => absurd (hall _ List.mem_cons_self) (by simp [Offer.kept])
  have hcount : result.notifications.length = 4 := by decide +kernel
  have hsent : r.sent = [result.notifications] := by
    rw [haccounts.sent]
    exact if_neg (by simp [← List.length_eq_zero_iff, hcount])
  obtain ⟨-, hunready, -, -⟩ :=
    every_violation_accounted c e ⟨Uuid.ofNat, 3⟩ ⟨0, 0⟩ foreigner a.id 0 ()
  refine ⟨?_, haccounts.offered, haccounts.answer_error hrefused, ?_, hsent, hcount,
    hunready _ (.foreign a rfl (by decide))⟩
  · rw [hoffers]
    rfl
  · rw [hoffers]
    rfl

end Collaborators

end Governance
