import Governance.InPlace
import Governance.Proofs.Registry.Ordered
import Governance.Proofs.Violation.Course

/-!
# What calls in place leave behind

A call in place answers what the function of the same name answers, and leaves behind the value that
`after` and `grant` tell: the changed one when it answers with a change, and the value as it was
when it finds nothing to change or throws. For a registry that is in order, this holds of every
operation, and so of operations one after the other.

* `Policy.Call.called_inPlace`: updates and changes of status of a policy.
* `Violation.Request.called_inPlace`: requests to a violation.
* `Registry.Ordered.called_inPlace`: operations of a registry.
* `Registry.Ordered.foldl_leftBy`: a run of operations in place leaves the registry that
  `Registry.run` tells.
-/

namespace Governance

section Called

variable {ε σ α β : Type} (s : σ)

theorem called_get_bind (f : σ → EStateM ε σ α) : called (get >>= f) s = called (f s) s := rfl

theorem called_ofExcept_ok_bind (a : α) (f : α → EStateM ε σ β) :
    called ((MonadExcept.ofExcept (.ok a : Except ε α) : EStateM ε σ α) >>= f) s = called (f a) s :=
  rfl

theorem called_map (f : α → β) (x : EStateM ε σ α) :
    called (f <$> x) s = ((called x s).1.map f, (called x s).2) := by
  have hrun : (f <$> x).run s = EStateM.map f x s := rfl
  rw [called, called, hrun, EStateM.map, EStateM.run]
  cases x s <;> rfl

/-- Calls are the same if by `called` they answer the same and leave the same behind. -/
theorem eq_of_called {x y : EStateM ε σ α} (h : ∀ s, called x s = called y s) : x = y := by
  funext s
  have hs := h s
  unfold called EStateM.run at hs
  cases hx : x s <;> cases hy : y s <;> simp_all

theorem run_inPlace (answer : σ → Except ε (Option σ)) :
    (inPlace answer).run s
      = match answer s with
        | .error e => .error e s
        | .ok none => .ok false s
        | .ok (some t) => .ok true t := by
  show EStateM.run
    (match answer s with
      | .error e => throw e
      | .ok none => return false
      | .ok (some t) => do set t; return true) s = _
  cases answer s with
  | error e => rfl
  | ok changed => cases changed <;> rfl

/-- A call by `inPlace` answers whether it wrote something, and leaves behind what it wrote. -/
theorem called_inPlace (answer : σ → Except ε (Option σ)) :
    called (inPlace answer) s
      = ((answer s).map Option.isSome, match answer s with | .ok (some t) => t | _ => s) := by
  rw [called, run_inPlace]
  cases answer s with
  | error e => rfl
  | ok changed => cases changed <;> rfl

end Called

/-! ### Policies -/

namespace Policy

variable [Pattern.Library]

theorem updateInPlace_eq (now : Timestamp) (limits : ValidationLimits) (expected : Version)
    (u : PolicyUpdate) :
    updateInPlace now limits expected u = inPlace (update now limits expected u) := by
  refine eq_of_called fun p => ?_
  rw [called_inPlace]
  unfold updateInPlace update
  rw [called_get_bind]
  by_cases hterminal : p.status.isTerminal = true
  · simp only [if_pos hterminal]
    rfl
  · by_cases hversion : expected ≠ p.version
    · simp only [if_neg hterminal, if_pos hversion]
      rfl
    · by_cases hname : u.name.any Text.isAllBlank = true
      · simp only [if_neg hterminal, if_neg hversion, if_pos hname]
        rfl
      · simp only [if_neg hterminal, if_neg hversion, if_neg hname]
        cases checkedConditions limits u with
        | error e => rfl
        | ok conditions =>
          rw [called_ofExcept_ok_bind]
          by_cases hsame : ({ p with content := u.apply conditions p.content } == p) = true
          · simp only [if_pos hsame]
            rfl
          · simp only [if_neg hsame]
            rfl

omit [Pattern.Library] in
theorem transitionInPlace_eq (now : Timestamp) (target : PolicyStatus) :
    transitionInPlace now target = inPlace (transition now target) := by
  refine eq_of_called fun p => ?_
  rw [called_inPlace]
  unfold transitionInPlace transition
  rw [called_get_bind]
  by_cases hsame : p.status = target
  · simp only [if_pos hsame]
    rfl
  · by_cases hterminal : p.status.isTerminal = true
    · simp only [if_neg hsame, if_pos hterminal]
      rfl
    · cases hmay : p.status.mayBecome target with
      | false =>
        simp only [if_neg hsame, if_neg hterminal]
        rfl
      | true =>
        simp only [if_neg hsame, if_neg hterminal]
        rfl

/-- The call, made on the policy itself. -/
def Call.inPlace : Call → EStateM PolicyError Policy Bool
  | update now limits expected u => updateInPlace now limits expected u
  | transition now target => transitionInPlace now target

/-- **A call leaves behind what `after` tells**: a policy that is refused a change is as it was. -/
theorem Call.called_inPlace (c : Call) (p : Policy) :
    called c.inPlace p = ((c.answer p).map Option.isSome, p.after c) := by
  have hcall : c.inPlace = Governance.inPlace c.answer := by
    cases c with
    | update now limits expected u => exact updateInPlace_eq now limits expected u
    | transition now target => exact transitionInPlace_eq now target
  rw [hcall, Governance.called_inPlace, after]
  cases c.answer p with
  | error e => rfl
  | ok changed => cases changed <;> rfl

end Policy

/-! ### Violations -/

namespace Violation

theorem transitionInPlace_eq (now : Timestamp) (target : ViolationStatus) (actor : Option String)
    (resolution : Option Resolution) :
    transitionInPlace now target actor resolution
      = inPlace (transition now target actor resolution) := by
  refine eq_of_called fun v => ?_
  rw [called_inPlace]
  unfold transitionInPlace transition
  rw [called_get_bind]
  by_cases hsame : v.status = target
  · simp only [if_pos hsame]
    rfl
  · by_cases hterminal : v.status.isTerminal = true
    · simp only [if_neg hsame, if_pos hterminal]
      rfl
    · by_cases hmay : (!v.status.mayBecome target) = true
      · simp only [if_neg hsame, if_neg hterminal, if_pos hmay]
        rfl
      · by_cases hresolved : target = .resolved
        · simp only [if_neg hsame, if_neg hterminal, if_neg hmay, if_pos hresolved]
          cases resolution with
          | none => rfl
          | some r =>
            by_cases hwho : Text.isAllBlank r.resolvedBy = true
            · simp only [Resolution.settled, if_pos hwho]
              rfl
            · by_cases hhow : Text.isAllBlank r.resolution = true
              · simp only [Resolution.settled, if_neg hwho, if_pos hhow]
                rfl
              · simp only [Resolution.settled, if_neg hwho, if_neg hhow]
                rfl
        · simp only [if_neg hsame, if_neg hterminal, if_neg hmay, if_neg hresolved]
          rfl

/-- The request, made on the violation itself. -/
def Request.inPlace : Request → EStateM ViolationError Violation Bool
  | acknowledge now actor => transitionInPlace now .acknowledged actor none
  | startRemediation now actor => transitionInPlace now .inRemediation actor none
  | resolve now r => transitionInPlace now .resolved (some r.resolvedBy) (some r)
  | transition now target actor resolution => transitionInPlace now target actor resolution

/-- **A request leaves behind what `grant` tells**: a violation that refuses is as it was. -/
theorem Request.called_inPlace (r : Request) (v : Violation) :
    called r.inPlace v = ((r.answer v).map Option.isSome, v.grant r) := by
  have hcall : r.inPlace = Governance.inPlace r.answer := by
    cases r with
    | acknowledge now actor => exact transitionInPlace_eq now .acknowledged actor none
    | startRemediation now actor => exact transitionInPlace_eq now .inRemediation actor none
    | resolve now r => exact transitionInPlace_eq now .resolved (some r.resolvedBy) (some r)
    | transition now target actor resolution =>
      exact transitionInPlace_eq now target actor resolution
  rw [hcall, Governance.called_inPlace, grant]
  cases r.answer v with
  | error e => rfl
  | ok changed => cases changed <;> rfl

end Violation

/-! ### Registries -/

namespace Registry

variable {r : Registry} {id : PolicyId} {p : Policy}

/-- Where identifiers ascend, writing over the entry of `id` is `Keyed.insert`. -/
theorem map_eq_insert {entries : List (PolicyId × Policy)}
    (h : entries.Pairwise fun x y => x.1 < y.1) (hp : Keyed.find? entries id = some p)
    (q : Policy) :
    (entries.map fun entry => if entry.1 = id then (id, q) else entry)
      = Keyed.insert id q entries := by
  induction entries with
  | nil => exact absurd hp (by simp [Keyed.find?_nil])
  | cons first rest ih =>
    obtain ⟨k, x⟩ := first
    obtain ⟨hbehind, hrest⟩ := List.pairwise_cons.1 h
    rw [Keyed.find?_cons] at hp
    rw [List.map_cons]
    unfold Keyed.insert
    by_cases hk : k = id
    · subst hk
      -- Nothing behind has the same identifier.
      have hothers : (rest.map fun entry => if entry.1 = k then (k, q) else entry) = rest := by
        conv_rhs => rw [← List.map_id rest]
        refine List.map_congr_left fun entry hentry => if_neg fun hid => ?_
        have hlt := hbehind entry hentry
        rw [hid] at hlt
        exact PolicyId.not_lt_of_lt hlt hlt
      rw [if_pos rfl, if_pos rfl, hothers]
    · rw [if_neg hk] at hp ⊢
      have hlt : k < id := hbehind _ (Keyed.mem_of_find?_eq_some hp)
      rw [if_neg (Ne.symm hk), if_neg (PolicyId.not_lt_of_lt hlt), ih hrest hp]

theorem Ordered.overwrite_eq (h : r.Ordered) (hp : r.get? id = some p) (q : Policy) :
    r.overwrite id q = { r with policies := Keyed.insert id q r.policies } :=
  congrArg (Registry.mk r.limits) (map_eq_insert h.ascending hp q)

/-- To `overwrite` what is stored with itself changes nothing. -/
theorem Ordered.overwrite_self (h : r.Ordered) (hp : r.get? id = some p) :
    r.overwrite id p = r := by
  have hentries : (r.policies.map fun entry => if entry.1 = id then (id, p) else entry)
      = r.policies := by
    conv_rhs => rw [← List.map_id r.policies]
    refine List.map_congr_left fun entry hentry => ?_
    split
    · next hid =>
      subst hid
      have hstored := h.get?_iff.2 hentry
      rw [hp] at hstored
      exact Prod.ext rfl (Option.some.inj hstored)
    · rfl
  exact congrArg (Registry.mk r.limits) hentries

/-- Called on `r`, the call `x` answers and leaves behind what `y` gives, and `r` where `y` is a
refusal. -/
def Performs {α : Type} (r : Registry) (x : EStateM RegistryError Registry α)
    (y : Except RegistryError (α × Registry)) : Prop :=
  called x r = (y.map Prod.fst, match y with | .ok done => done.2 | .error _ => r)

theorem Performs.map {α β : Type} {x : EStateM RegistryError Registry α}
    {y : Except RegistryError (α × Registry)} (h : r.Performs x y) (f : α → β) :
    r.Performs (f <$> x) (y.map fun done => (f done.1, done.2)) := by
  unfold Performs at h ⊢
  rw [called_map, h]
  cases y <;> rfl

/-- **A call on a stored policy changes that policy, or nothing**: `callInPlace` does what `modify`
gives. -/
theorem Ordered.performs_callInPlace (h : r.Ordered) (id : PolicyId)
    (answer : Policy → Except PolicyError (Option Policy)) :
    r.Performs (callInPlace id (inPlace answer)) (r.modify id answer) := by
  unfold Performs callInPlace modify
  rw [called_get_bind]
  cases hp : r.get? id with
  | none => rfl
  | some p =>
    simp only [run_inPlace]
    cases hanswer : answer p with
    | error e =>
      simp only [h.overwrite_self hp]
      rfl
    | ok changed =>
      cases changed with
      | none =>
        simp only [h.overwrite_self hp]
        rfl
      | some q =>
        simp only [h.overwrite_eq hp]
        rfl

variable [Pattern.Library]

theorem performs_createInPlace (r : Registry) (id : PolicyId) (now : Timestamp)
    (new : NewPolicy) : r.Performs (createInPlace id now new) (r.create id now new) := by
  unfold Performs createInPlace create
  rw [called_get_bind]
  cases Policy.create id now r.limits new <;> rfl

omit [Pattern.Library] in
theorem performs_insertInPlace (r : Registry) (p : Policy) :
    r.Performs (insertInPlace p) ((r.insert p).map fun s => ((), s)) := by
  unfold Performs insertInPlace insert
  rw [called_get_bind]
  cases r.get? p.id <;> rfl

theorem Ordered.performs_updateInPlace (h : r.Ordered) (now : Timestamp) (id : PolicyId)
    (expected : Version) (u : PolicyUpdate) :
    r.Performs (updateInPlace now id expected u) (r.update now id expected u) := by
  unfold Performs updateInPlace
  rw [called_get_bind, Policy.updateInPlace_eq]
  exact h.performs_callInPlace id (Policy.update now r.limits expected u)

omit [Pattern.Library] in
theorem Ordered.performs_transitionInPlace (h : r.Ordered) (now : Timestamp) (id : PolicyId)
    (target : PolicyStatus) :
    r.Performs (transitionInPlace now id target) (r.transition now id target) := by
  rw [transitionInPlace, Policy.transitionInPlace_eq]
  exact h.performs_callInPlace id (Policy.transition now target)

omit [Pattern.Library] in
theorem Ordered.performs_deleteInPlace (h : r.Ordered) (now : Timestamp) (id : PolicyId)
    (mode : DeleteMode) : r.Performs (deleteInPlace now id mode) (r.delete now id mode) := by
  cases mode with
  | soft => exact (h.performs_transitionInPlace now id .archived).map Deleted.archived
  | hard =>
    unfold Performs deleteInPlace delete
    rw [called_get_bind]
    cases r.get? id <;> rfl

/-! ### Operations in place -/

/-- The operation, performed on the registry itself. -/
def Operation.inPlace : Operation → EStateM RegistryError Registry Unit
  | create id now new => (fun _ => ()) <$> createInPlace id now new
  | insert p => (fun _ => ()) <$> insertInPlace p
  | update now id expected u => (fun _ => ()) <$> updateInPlace now id expected u
  | transition now id target => (fun _ => ()) <$> transitionInPlace now id target
  | delete now id mode => (fun _ => ()) <$> deleteInPlace now id mode

theorem Performs.called_eq {α : Type} {x : EStateM RegistryError Registry α}
    {y : Except RegistryError (α × Registry)} (h : r.Performs x y) {op : Operation}
    (hresult : op.result r = y.map Prod.snd) :
    called ((fun _ => ()) <$> x) r = ((op.result r).map fun _ => (), r.after op) := by
  rw [called_map, h, after, hresult]
  cases y <;> rfl

/-- **An operation leaves behind what `after` tells**: a registry that refuses it is as it was. -/
theorem Ordered.called_inPlace (h : r.Ordered) (op : Operation) :
    called op.inPlace r = ((op.result r).map fun _ => (), r.after op) := by
  cases op with
  | create id now new => exact (performs_createInPlace r id now new).called_eq rfl
  | insert p =>
    have hresult : r.insert p = ((r.insert p).map fun s => ((), s)).map Prod.snd := by
      cases r.insert p <;> rfl
    exact (performs_insertInPlace r p).called_eq hresult
  | update now id expected u => exact (h.performs_updateInPlace now id expected u).called_eq rfl
  | transition now id target => exact (h.performs_transitionInPlace now id target).called_eq rfl
  | delete now id mode => exact (h.performs_deleteInPlace now id mode).called_eq rfl

/-- The registry that the operation `op` leaves behind, when it is performed on `r`. -/
def leftBy (r : Registry) (op : Operation) : Registry := (called op.inPlace r).2

/-- **Operations in place, one after the other, leave the registry that `run` tells.** -/
theorem Ordered.foldl_leftBy (h : r.Ordered) (ops : List Operation) :
    ops.foldl leftBy r = r.run ops := by
  induction ops generalizing r with
  | nil => rfl
  | cons op ops ih =>
    have hleft : r.leftBy op = r.after op := congrArg Prod.snd (h.called_inPlace op)
    rw [List.foldl_cons, hleft]
    exact ih (h.writes (r.writes_after op))

end Registry

end Governance
