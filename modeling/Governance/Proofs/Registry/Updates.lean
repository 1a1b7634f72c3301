import Governance.Registry
import Governance.Proofs.Policy.Update
import Governance.Pattern.Program

/-!
# Updates of registered policies

Clients change the policies of a registry, each as it pleases. An operation is done as a whole, so
what the clients do between them is a list of operations in the order in which they are done. A
client reads a policy, and later asks for an update of the version that it has read. Of the clients
that have read one version, at most one gets its update through.

* `writes_after`: what an operation may do to a registry.
* `get?_after_of_ne`: it leaves the policies of other identifiers as they are.
* `called_after`: it calls the policy of its own identifier, or leaves it as it is.
* `grown_run`: a run adds to the version and to the history what its updates have replaced.
* `no_update_lost`: every update is granted, finds nothing to change or is refused; of those for one
  version at most one is granted; and none that is granted gets lost.
-/

namespace Governance

namespace Policy

/-- The reasons for which the policy `p` refuses an update that was made for the version
`expected`. -/
inductive Refuses (p : Policy) (expected : Version) : PolicyError → Prop
  | terminal (h : p.status.isTerminal = true) : Refuses p expected (.terminalState p.status)
  | stale (h : expected ≠ p.version) : Refuses p expected (.staleVersion expected p.version)
  | unnamed : Refuses p expected .emptyName
  | unsound (rejection : Rejection) : Refuses p expected (.invalidConditions rejection)

section Library

variable [Pattern.Library]

theorem Rejects.refuses {limits : ValidationLimits} {expected : Version} {u : PolicyUpdate}
    {p : Policy} {e : PolicyError} (h : p.Rejects limits expected u e) : p.Refuses expected e := by
  cases h with
  | terminal harchived =>
    have hrefuses : p.Refuses expected (.terminalState p.status) :=
      .terminal (PolicyStatus.isTerminal_iff.2 harchived)
    rwa [harchived] at hrefuses
  | stale _ hstale => exact .stale hstale
  | unnamed => exact .unnamed
  | unsound => exact .unsound _

/-- By a `transition` a policy keeps its version and its history. -/
theorem after_transition (p : Policy) (now : Timestamp) (target : PolicyStatus) :
    (p.after (.transition now target)).version = p.version
      ∧ (p.after (.transition now target)).history = p.history := by
  unfold after
  split
  · next q h =>
    obtain ⟨-, -, -, rfl⟩ := transition_eq_some_iff.1 h
    exact ⟨rfl, rfl⟩
  · exact ⟨rfl, rfl⟩

/-! ### Replaced content -/

/-- The policy `p`, if the update `u` replaces what it says. -/
def replacedBy? (now : Timestamp) (limits : ValidationLimits) (expected : Version)
    (u : PolicyUpdate) (p : Policy) : Option Policy :=
  match p.update now limits expected u with
  | .ok (some _) => some p
  | _ => none

/-- Written `Grown p replaced q`: from `p` to `q`, the policies `replaced` have given way one after
the other. Each has put up the version by one, and the history has kept what it said. -/
structure Grown (p : Policy) (replaced : List Policy) (q : Policy) : Prop where
  version : q.version = p.version + UInt64.ofNat replaced.length
  history : ∃ added, q.history = p.history ++ added
    ∧ added.map Revision.edition = replaced.map current

namespace Grown

variable {p q s : Policy} {replaced later : List Policy}

omit [Pattern.Library] in
/-- When version and history are the same, nothing has been replaced. -/
theorem of_eq (hversion : q.version = p.version) (hhistory : q.history = p.history) :
    Grown p [] q where
  version := by rw [hversion]; exact (UInt64.add_zero _).symm
  history := ⟨[], by rw [hhistory, List.append_nil], rfl⟩

omit [Pattern.Library] in
theorem revise (p : Policy) (now : Timestamp) (content : PolicyContent Condition) :
    Grown p [p] (p.revise now content) where
  version := rfl
  history := ⟨[p.revision now], rfl, rfl⟩

omit [Pattern.Library] in
theorem trans (h : Grown p replaced q) (hlater : Grown q later s) :
    Grown p (replaced ++ later) s := by
  obtain ⟨added, hadded, hsaid⟩ := h.history
  obtain ⟨more, hmore, hlatersaid⟩ := hlater.history
  constructor
  · rw [hlater.version, h.version, List.length_append, UInt64.ofNat_add, UInt64.add_assoc]
  · exact ⟨added ++ more, by rw [hmore, hadded, List.append_assoc],
      by rw [List.map_append, List.map_append, hsaid, hlatersaid]⟩

omit [Pattern.Library] in
/-- As long as there are version numbers enough, `q.version` counts what has been `replaced`. -/
theorem toNat_version (h : Grown p replaced q)
    (hroom : p.version.toNat + replaced.length < UInt64.size) :
    q.version.toNat = p.version.toNat + replaced.length := by
  have hlength : (UInt64.ofNat replaced.length).toNat = replaced.length :=
    UInt64.toNat_ofNat_of_lt' (by omega)
  rw [h.version, UInt64.toNat_add, hlength]
  exact Nat.mod_eq_of_lt hroom

end Grown

/-- The policy `p`, if the call replaces what it says. -/
def replacedIn? (p : Policy) : Call → Option Policy
  | .update now limits expected u => p.replacedBy? now limits expected u
  | .transition _ _ => none

/-- An update leaves `p` as it is, or replaces what it says. -/
theorem grown_after_update (p : Policy) (now : Timestamp) (limits : ValidationLimits)
    (expected : Version) (u : PolicyUpdate) :
    Grown p (p.replacedBy? now limits expected u).toList
      (p.after (.update now limits expected u)) := by
  unfold after replacedBy?
  cases hanswer : p.update now limits expected u with
  | error e =>
    simp only [Call.answer, hanswer]
    exact .of_eq rfl rfl
  | ok changed =>
    cases changed with
    | none =>
      simp only [Call.answer, hanswer]
      exact .of_eq rfl rfl
    | some q =>
      obtain ⟨-, -, -, conditions, -, -, rfl⟩ := update_eq_some_iff.1 hanswer
      simp only [Call.answer, hanswer]
      exact .revise p now _

theorem grown_after (p : Policy) (c : Call) : Grown p (p.replacedIn? c).toList (p.after c) := by
  cases c with
  | update now limits expected u => exact p.grown_after_update now limits expected u
  | transition now target =>
    obtain ⟨hversion, hhistory⟩ := p.after_transition now target
    exact .of_eq hversion hhistory

end Library

end Policy

namespace Registry

/-! ### Operations -/

/-- What a client may ask of a registry. -/
inductive Operation
  | create (id : PolicyId) (now : Timestamp) (new : NewPolicy)
  | insert (p : Policy)
  | update (now : Timestamp) (id : PolicyId) (expected : Version) (u : PolicyUpdate)
  | transition (now : Timestamp) (id : PolicyId) (target : PolicyStatus)
  | delete (now : Timestamp) (id : PolicyId) (mode : DeleteMode)

namespace Operation

/-- The identifier that the operation is about. -/
def target : Operation → PolicyId
  | create id _ _ => id
  | insert p => p.id
  | update _ id _ _ => id
  | transition _ id _ => id
  | delete _ id _ => id

/-- The registry that the operation gives back, made of `r`. -/
def result [Pattern.Library] (r : Registry) : Operation → Except RegistryError Registry
  | create id now new => (r.create id now new).map Prod.snd
  | insert p => r.insert p
  | update now id expected u => (r.update now id expected u).map Prod.snd
  | transition now id target => (r.transition now id target).map Prod.snd
  | delete now id mode => (r.delete now id mode).map Prod.snd

/-- The stored policy of `id`, if the operation is an update that replaces what it says. -/
def replaced? [Pattern.Library] (id : PolicyId) (r : Registry) : Operation → Option Policy
  | update now target expected u =>
    if target = id then (r.get? id).bind (Policy.replacedBy? now r.limits expected u) else none
  | _ => none

end Operation

section Library

variable [Pattern.Library]

/-- The registry `r` after the operation `op`. One that is refused leaves it as it is. -/
def after (r : Registry) (op : Operation) : Registry :=
  match op.result r with
  | .ok s => s
  | .error _ => r

/-- The registry `r` after `ops`, one after the other. -/
def run (r : Registry) (ops : List Operation) : Registry := ops.foldl after r

/-- The policies of `id` that the updates among the operations replace, in their order. -/
def replaced (id : PolicyId) (r : Registry) : List Operation → List Policy
  | [] => []
  | op :: ops => (op.replaced? id r).toList ++ replaced id (r.after op) ops

theorem after_of_ok {r s : Registry} {op : Operation} (h : op.result r = .ok s) :
    r.after op = s := by
  rw [after, h]

theorem after_of_error {r : Registry} {op : Operation} {e : RegistryError}
    (h : op.result r = .error e) : r.after op = r := by
  rw [after, h]

theorem run_append (r : Registry) (ops later : List Operation) :
    r.run (ops ++ later) = (r.run ops).run later := List.foldl_append

theorem replaced_append (id : PolicyId) (r : Registry) (ops later : List Operation) :
    r.replaced id (ops ++ later) = r.replaced id ops ++ (r.run ops).replaced id later := by
  induction ops generalizing r with
  | nil => rfl
  | cons op ops ih =>
    show (op.replaced? id r).toList ++ (r.after op).replaced id (ops ++ later) = _
    rw [ih, ← List.append_assoc]
    rfl

theorem length_replaced_le (id : PolicyId) (r : Registry) {ops later : List Operation}
    (h : ops <+: later) : (r.replaced id ops).length ≤ (r.replaced id later).length := by
  obtain ⟨rest, rfl⟩ := h
  rw [replaced_append, List.length_append]
  exact Nat.le_add_right _ _

/-! ### One operation -/

section Modify

variable {r : Registry} {id : PolicyId} {p : Policy}
  {change : Policy → Except PolicyError (Option Policy)}

omit [Pattern.Library] in
theorem modify_of_refused {e : PolicyError} (hp : r.get? id = some p) (h : change p = .error e) :
    r.modify id change = .error (.policy e) := by
  simp [modify, hp, h]

omit [Pattern.Library] in
theorem modify_of_unchanged (hp : r.get? id = some p) (h : change p = .ok none) :
    r.modify id change = .ok (p, r) := by
  simp [modify, hp, h]

omit [Pattern.Library] in
theorem modify_of_changed {q : Policy} (hp : r.get? id = some p) (h : change p = .ok (some q)) :
    r.modify id change = .ok (q, { r with policies := Keyed.insert id q r.policies }) := by
  simp [modify, hp, h]

end Modify

/-- What an operation on `id` may do to the registry `r`. -/
inductive Writes (r : Registry) (id : PolicyId) : Registry → Prop
  | none : Writes r id r
  | registered (p : Policy) (h : p.id = id) : Writes r id (r.put p)
  | changed (p q : Policy) (hp : r.get? id = some p) (h : p.Change q) :
      Writes r id { r with policies := Keyed.insert id q r.policies }
  | removed : Writes r id { r with policies := Keyed.erase r.policies id }

theorem writes_of_modify {r s : Registry} {id : PolicyId} (c : Policy.Call)
    (h : (r.modify id c.answer).map Prod.snd = .ok s) : r.Writes id s := by
  obtain ⟨⟨q, t⟩, hmodify, rfl⟩ := map_eq_ok_iff.1 h
  unfold modify at hmodify
  split at hmodify
  · exact absurd hmodify (by simp)
  · next p hp =>
    split at hmodify
    · exact absurd hmodify (by simp)
    · obtain ⟨-, rfl⟩ := Prod.mk.inj (Except.ok.inj hmodify)
      exact .none
    · next q' hq =>
      obtain ⟨-, rfl⟩ := Prod.mk.inj (Except.ok.inj hmodify)
      exact .changed p q' hp (Policy.change_of_answer hq)

theorem result_delete_soft (r : Registry) (now : Timestamp) (id : PolicyId) :
    (Operation.delete now id .soft).result r
      = (Operation.transition now id .archived).result r := by
  show ((r.transition now id .archived).map _).map _ = (r.transition now id .archived).map _
  cases r.transition now id .archived <;> rfl

/-- **Operations write under their own identifier**, `op.target`, and in these ways only. -/
theorem writes_of_result {r s : Registry} {op : Operation} (h : op.result r = .ok s) :
    r.Writes op.target s := by
  cases op with
  | create id now new =>
    obtain ⟨⟨p, t⟩, hcreate, rfl⟩ := map_eq_ok_iff.1 h
    unfold create at hcreate
    split at hcreate
    · next p' hp =>
      obtain ⟨-, rfl⟩ := Prod.mk.inj (Except.ok.inj hcreate)
      obtain ⟨conditions, -, rfl⟩ := map_eq_ok_iff.1 hp
      exact .registered _ rfl
    · exact absurd hcreate (by simp)
  | insert p =>
    change r.insert p = .ok s at h
    unfold insert at h
    split at h
    · exact absurd h (by simp)
    · obtain rfl := Except.ok.inj h
      exact .registered p rfl
  | update now id expected u => exact writes_of_modify (.update now r.limits expected u) h
  | transition now id status => exact writes_of_modify (.transition now status) h
  | delete now id mode =>
    cases mode with
    | soft =>
      rw [result_delete_soft] at h
      exact writes_of_modify (.transition now .archived) h
    | hard =>
      obtain ⟨⟨deleted, t⟩, hdelete, rfl⟩ := map_eq_ok_iff.1 h
      unfold delete at hdelete
      dsimp only at hdelete
      split at hdelete
      · exact absurd hdelete (by simp)
      · obtain ⟨-, rfl⟩ := Prod.mk.inj (Except.ok.inj hdelete)
        exact .removed

theorem writes_after (r : Registry) (op : Operation) : r.Writes op.target (r.after op) := by
  unfold after
  split
  · next s h => exact writes_of_result h
  · exact .none

theorem Writes.get?_of_ne {r s : Registry} {id other : PolicyId} (h : r.Writes id s)
    (hne : other ≠ id) : s.get? other = r.get? other := by
  cases h with
  | none => rfl
  | registered p hid => exact get?_put_of_ne (hid ▸ hne)
  | changed p q hp h => exact Keyed.find?_insert_of_ne hne _ _
  | removed => exact Keyed.find?_erase_of_ne hne _

/-- **Other policies stay as they are**: `r.after op` has them as `r` has. -/
theorem get?_after_of_ne (r : Registry) {id : PolicyId} {op : Operation} (hne : id ≠ op.target) :
    (r.after op).get? id = r.get? id :=
  (r.writes_after op).get?_of_ne hne

section Stored

variable {r : Registry} {id : PolicyId} {p : Policy}

theorem replaced?_update (hp : r.get? id = some p) (now : Timestamp) (expected : Version)
    (u : PolicyUpdate) :
    (Operation.update now id expected u).replaced? id r
      = p.replacedBy? now r.limits expected u := by
  rw [Operation.replaced?, if_pos rfl, hp, Option.bind_some]

/-- A call `c` made on a stored policy `p` leaves there what it leaves. -/
theorem get?_after_of_call (hp : r.get? id = some p) {op : Operation} (c : Policy.Call)
    (hresult : op.result r = (r.modify id c.answer).map Prod.snd) :
    (r.after op).get? id = some (p.after c) := by
  cases hanswer : c.answer p with
  | error e =>
    have hafter : r.after op = r :=
      after_of_error (by rw [hresult, modify_of_refused hp hanswer]; rfl)
    rw [hafter, Policy.after, hanswer, hp]
  | ok changed =>
    cases changed with
    | none =>
      have hafter : r.after op = r :=
        after_of_ok (by rw [hresult, modify_of_unchanged hp hanswer]; rfl)
      rw [hafter, Policy.after, hanswer, hp]
    | some q =>
      have hafter : r.after op = { r with policies := Keyed.insert id q r.policies } :=
        after_of_ok (by rw [hresult, modify_of_changed hp hanswer]; rfl)
      rw [hafter, Policy.after, hanswer]
      exact Keyed.find?_insert_self id q r.policies

/-- **What an operation does to a stored policy.** If `op` neither takes `id` for a new policy nor
removes it, it calls the policy `p`, or leaves it alone. -/
theorem called_after (hp : r.get? id = some p) (op : Operation)
    (hcreate : ∀ now new, op ≠ .create id now new) (hdelete : ∀ now, op ≠ .delete now id .hard) :
    ((r.after op).get? id = some p ∧ op.replaced? id r = none)
      ∨ ∃ c : Policy.Call, (r.after op).get? id = some (p.after c)
        ∧ op.replaced? id r = p.replacedIn? c := by
  by_cases htarget : id = op.target
  · cases op with
    | create newId now new => exact absurd (by rw [htarget]; rfl) (hcreate now new)
    | insert p' =>
      -- The identifier is taken, so the registration is refused.
      obtain rfl : id = p'.id := htarget
      have hrefused : (Operation.insert p').result r = .error (.duplicate p'.id) := by
        simp [Operation.result, insert, hp]
      exact .inl ⟨by rw [after_of_error hrefused, hp], rfl⟩
    | update now target expected u =>
      obtain rfl : id = target := htarget
      exact .inr ⟨.update now r.limits expected u, get?_after_of_call hp _ rfl,
        replaced?_update hp now expected u⟩
    | transition now target status =>
      obtain rfl : id = target := htarget
      exact .inr ⟨.transition now status, get?_after_of_call hp _ rfl, rfl⟩
    | delete now target mode =>
      obtain rfl : id = target := htarget
      cases mode with
      | soft =>
        exact .inr ⟨.transition now .archived,
          get?_after_of_call hp _ (r.result_delete_soft now id), rfl⟩
      | hard => exact absurd rfl (hdelete now)
  · refine .inl ⟨(r.get?_after_of_ne htarget).trans hp, ?_⟩
    cases op with
    | update now target expected u => exact if_neg fun h => htarget h.symm
    | _ => rfl

/-- A policy `q` is left there. It has given way if `op` is an update that was granted; otherwise
version and history are as before. -/
theorem stored_after (hp : r.get? id = some p) (op : Operation)
    (hcreate : ∀ now new, op ≠ .create id now new) (hdelete : ∀ now, op ≠ .delete now id .hard) :
    ∃ q, (r.after op).get? id = some q ∧ p.Grown (op.replaced? id r).toList q := by
  rcases called_after hp op hcreate hdelete with ⟨hsame, hnone⟩ | ⟨c, hcalled, hreplaced⟩
  · exact ⟨p, hsame, by rw [hnone]; exact .of_eq rfl rfl⟩
  · exact ⟨p.after c, hcalled, by rw [hreplaced]; exact p.grown_after c⟩

/-! ### Runs -/

/-- **Nothing that was replaced is forgotten**: a run of `ops` makes `p` grow by
`r.replaced id ops`. -/
theorem grown_run (hp : r.get? id = some p) {ops : List Operation}
    (hcreate : ∀ now new, .create id now new ∉ ops) (hdelete : ∀ now, .delete now id .hard ∉ ops) :
    ∃ q, (r.run ops).get? id = some q ∧ p.Grown (r.replaced id ops) q := by
  induction ops generalizing r p with
  | nil => exact ⟨p, hp, .of_eq rfl rfl⟩
  | cons op ops ih =>
    obtain ⟨q, hq, hstep⟩ := stored_after hp op
      (fun now new h => hcreate now new (h ▸ List.mem_cons_self))
      (fun now h => hdelete now (h ▸ List.mem_cons_self))
    obtain ⟨s, hs, hrest⟩ := ih hq
      (fun now new h => hcreate now new (List.mem_cons_of_mem op h))
      (fun now h => hdelete now (List.mem_cons_of_mem op h))
    exact ⟨s, hs, hstep.trans hrest⟩

/-- **What comes of an update of a stored policy** `p`: it replaces what `p` says, or leaves the
registry as it is and gives `p` or a refusal. -/
theorem update_stored (hp : r.get? id = some p) (now : Timestamp) (v : Version)
    (u : PolicyUpdate) :
    let op := Operation.update now id v u
    (op.replaced? id r = some p ∧ v = p.version
        ∧ ∃ q, r.update now id v u = .ok (q, r.after op) ∧ (r.after op).get? id = some q
          ∧ q.version = v + 1 ∧ ({ p with content := q.content } == p) = false)
      ∨ op.replaced? id r = none ∧ r.after op = r
        ∧ (r.update now id v u = .ok (p, r)
          ∨ ∃ e, r.update now id v u = .error (.policy e) ∧ p.Refuses v e) := by
  intro op
  have hresult : op.result r = (r.update now id v u).map Prod.snd := rfl
  cases hanswer : p.update now r.limits v u with
  | error e =>
    have hupdate : r.update now id v u = .error (.policy e) := modify_of_refused hp hanswer
    refine .inr ⟨?_, after_of_error (by rw [hresult, hupdate]; rfl),
      .inr ⟨e, hupdate, (Policy.update_eq_error_iff.1 hanswer).refuses⟩⟩
    rw [replaced?_update hp, Policy.replacedBy?, hanswer]
  | ok changed =>
    cases changed with
    | none =>
      have hupdate : r.update now id v u = .ok (p, r) := modify_of_unchanged hp hanswer
      refine .inr ⟨?_, after_of_ok (by rw [hresult, hupdate]; rfl), .inl hupdate⟩
      rw [replaced?_update hp, Policy.replacedBy?, hanswer]
    | some q =>
      have hupdate : r.update now id v u
          = .ok (q, { r with policies := Keyed.insert id q r.policies }) :=
        modify_of_changed hp hanswer
      have hafter : r.after op = { r with policies := Keyed.insert id q r.policies } :=
        after_of_ok (by rw [hresult, hupdate]; rfl)
      obtain ⟨-, hv, -, conditions, -, hdiffers, hq⟩ := Policy.update_eq_some_iff.1 hanswer
      refine .inl ⟨?_, hv, q, ?_, ?_, ?_, ?_⟩
      · rw [replaced?_update hp, Policy.replacedBy?, hanswer]
      · rw [hafter]
        exact hupdate
      · rw [hafter]
        exact Keyed.find?_insert_self id q r.policies
      · rw [hq, hv]
        rfl
      · rw [hq]
        exact hdiffers

/-- The operation at the place `i` of `ops` is an update of the policy of `id`, was made for the
version `v`, and replaces what the policy says. -/
def GrantedAt (r : Registry) (ops : List Operation) (id : PolicyId) (v : Version) (i : Nat) :
    Prop :=
  ∃ now u, ops[i]? = some (.update now id v u)
    ∧ ((Operation.update now id v u).replaced? id (r.run (ops.take i))).isSome = true

/-- The next state of a run, after `op`. -/
theorem run_take_succ (r : Registry) {ops : List Operation} {i : Nat} {op : Operation}
    (h : ops[i]? = some op) : r.run (ops.take (i + 1)) = (r.run (ops.take i)).after op := by
  rw [List.take_add_one, h, run_append]
  rfl

theorem replaced_take_succ (r : Registry) {ops : List Operation} {i : Nat} {op : Operation}
    (h : ops[i]? = some op) :
    r.replaced id (ops.take (i + 1))
      = r.replaced id (ops.take i) ++ (op.replaced? id (r.run (ops.take i))).toList := by
  rw [List.take_add_one, h, replaced_append]
  exact congrArg _ (List.append_nil _)

/-- An update that is `GrantedAt` the place `i` was made for the version that all updates granted
before it have led to. -/
theorem toNat_of_grantedAt (hp : r.get? id = some p) {ops : List Operation}
    (hcreate : ∀ now new, .create id now new ∉ ops) (hdelete : ∀ now, .delete now id .hard ∉ ops)
    (hroom : p.version.toNat + (r.replaced id ops).length < UInt64.size) {v : Version} {i : Nat}
    (h : r.GrantedAt ops id v i) :
    v.toNat = p.version.toNat + (r.replaced id (ops.take i)).length
      ∧ (r.replaced id (ops.take (i + 1))).length = (r.replaced id (ops.take i)).length + 1 := by
  obtain ⟨now, u, hi, hgranted⟩ := h
  have hpre := List.take_prefix i ops
  obtain ⟨stored, hstored, hgrown⟩ := grown_run hp
    (fun now new hmem => hcreate now new (hpre.subset hmem))
    (fun now hmem => hdelete now (hpre.subset hmem))
  have hlength := length_replaced_le id r hpre
  rcases update_stored hstored now v u with ⟨hreplaced, rfl, -⟩ | ⟨hnone, -⟩
  · refine ⟨hgrown.toNat_version (by omega), ?_⟩
    rw [replaced_take_succ r hi, hreplaced, List.length_append]
    rfl
  · rw [hnone] at hgranted
    exact absurd hgranted (by decide)

end Stored

/-- **No update is lost.** Let `p` be registered in `r`, and let clients do with `r` what they
please (`ops`), except to remove `p`; the identifiers of new policies are fresh ones, and the
version has room for the updates that are granted. Of the updates made for one version, one at most
is granted (`GrantedAt`). Every other update finds nothing to change, and gives the stored policy,
or is refused; in both cases the registry is as before. In the end the version has gone up by the
number of updates granted, and the history has taken in, in their order, what they have
`replaced`. -/
theorem no_update_lost (r : Registry) (id : PolicyId) (p : Policy) (hp : r.get? id = some p)
    (ops : List Operation) (hcreate : ∀ now new, .create id now new ∉ ops)
    (hdelete : ∀ now, .delete now id .hard ∉ ops)
    (hroom : p.version.toNat + (r.replaced id ops).length < UInt64.size) :
    (∀ v i j, r.GrantedAt ops id v i → r.GrantedAt ops id v j → i = j)
      ∧ (∀ i now v u, ops[i]? = some (.update now id v u) →
        let before := r.run (ops.take i)
        let afterwards := r.run (ops.take (i + 1))
        ∃ stored, before.get? id = some stored
          ∧ ((r.GrantedAt ops id v i ∧ v = stored.version
              ∧ ∃ next, before.update now id v u = .ok (next, afterwards)
                ∧ afterwards.get? id = some next ∧ next.version = v + 1
                ∧ ({ stored with content := next.content } == stored) = false)
            ∨ ¬ r.GrantedAt ops id v i ∧ afterwards = before
              ∧ (before.update now id v u = .ok (stored, before)
                ∨ ∃ e, before.update now id v u = .error (.policy e) ∧ stored.Refuses v e)))
      ∧ ∃ q, (r.run ops).get? id = some q
        ∧ q.version.toNat = p.version.toNat + (r.replaced id ops).length
        ∧ ∃ added, q.history = p.history ++ added
          ∧ added.map Revision.edition = (r.replaced id ops).map Policy.current := by
  refine ⟨fun v i j hi hj => ?_, fun i now v u hi => ?_, ?_⟩
  · -- The earlier of two granted updates has put the version beyond the one it was made for.
    have hlater {i j : Nat} (hi : r.GrantedAt ops id v i) (hj : r.GrantedAt ops id v j) :
        ¬ i < j := fun hlt => by
      obtain ⟨hvi, hnext⟩ := toNat_of_grantedAt hp hcreate hdelete hroom hi
      obtain ⟨hvj, -⟩ := toNat_of_grantedAt hp hcreate hdelete hroom hj
      have hpre : ops.take (i + 1) <+: ops.take j := List.take_prefix_take_left hlt
      have hle := length_replaced_le id r hpre
      omega
    exact Nat.le_antisymm (Nat.not_lt.1 (hlater hj hi)) (Nat.not_lt.1 (hlater hi hj))
  · intro before afterwards
    have hpre := List.take_prefix i ops
    obtain ⟨stored, hstored, -⟩ := grown_run hp
      (fun now new hmem => hcreate now new (hpre.subset hmem))
      (fun now hmem => hdelete now (hpre.subset hmem))
    have hafter : afterwards = before.after (.update now id v u) := r.run_take_succ hi
    refine ⟨stored, hstored, ?_⟩
    rw [hafter]
    rcases update_stored hstored now v u with ⟨hreplaced, hv, hnext⟩ | ⟨hnone, hsame, hanswer⟩
    · exact .inl ⟨⟨now, u, hi, by rw [hreplaced]; rfl⟩, hv, hnext⟩
    · refine .inr ⟨fun ⟨now', u', hi', hgranted⟩ => ?_, hsame, hanswer⟩
      obtain ⟨rfl, -, -, rfl⟩ : now = now' ∧ id = id ∧ v = v ∧ u = u' := by
        simpa using hi.symm.trans hi'
      rw [hnone] at hgranted
      exact absurd hgranted (by decide)
  · obtain ⟨q, hq, hgrown⟩ := grown_run hp hcreate hdelete
    exact ⟨q, hq, hgrown.toNat_version hroom, hgrown.history⟩

end Library

/-- Two clients have read the first version of a rule. One lowers its severity; the other comes too
late, reads again and raises it. Then the rule is archived. -/
theorem no_update_lost_oversightRule :
    let id : PolicyId := ⟨Uuid.ofNat 1⟩
    let ops : List Operation :=
      [.update ⟨1, 0⟩ id 1 (Policy.severityUpdate .low),
       .update ⟨2, 0⟩ id 1 (Policy.severityUpdate .critical),
       .create ⟨Uuid.ofNat 2⟩ ⟨3, 0⟩ Policy.oversightRule,
       .update ⟨4, 0⟩ id 2 (Policy.severityUpdate .critical),
       .delete ⟨5, 0⟩ id .soft]
    ∃ p, Policy.create id ⟨0, 0⟩ .default Policy.oversightRule = .ok p
      ∧ let r := (Registry.empty .default).put p
        (∀ now new, .create id now new ∉ ops) ∧ (∀ now, .delete now id .hard ∉ ops)
          ∧ p.version.toNat + (r.replaced id ops).length < UInt64.size
          ∧ r.GrantedAt ops id 1 0 ∧ (∀ i, r.GrantedAt ops id 1 i → i = 0)
          ∧ ∃ q, (r.run ops).get? id = some q ∧ q.version.toNat = 3
            ∧ q.history.map Revision.severity = [.high, .low] := by
  intro id ops
  obtain ⟨p, hp⟩ : ∃ p, Policy.create id ⟨0, 0⟩ .default Policy.oversightRule = .ok p := ⟨_, rfl⟩
  refine ⟨p, hp, ?_⟩
  intro r
  obtain rfl := Except.ok.inj hp
  have hother : Uuid.ofNat 1 ≠ Uuid.ofNat 2 := by decide
  have hcreate : ∀ now new, .create id now new ∉ ops := by simp [ops, id, hother]
  have hdelete : ∀ now, .delete now id .hard ∉ ops := by simp [ops]
  have hreplaced : (r.replaced id ops).length = 2 := rfl
  have hroom : (1 : Nat) + (r.replaced id ops).length < UInt64.size := by
    rw [hreplaced]
    decide
  have hgranted : r.GrantedAt ops id 1 0 := ⟨_, _, rfl, rfl⟩
  obtain ⟨honce, -, q, hq, hversion, added, hadded, hsaid⟩ :=
    no_update_lost r id _ (get?_put_self _ _) ops hcreate hdelete hroom
  refine ⟨hcreate, hdelete, hroom, hgranted, fun i hi => honce 1 i 0 hi hgranted, q, hq,
    hversion.trans (by rw [hreplaced]; rfl), ?_⟩
  have hseverities := congrArg (List.map Policy.Edition.severity) hsaid
  rw [List.map_map] at hseverities
  rw [hadded]
  exact hseverities

end Registry

end Governance
