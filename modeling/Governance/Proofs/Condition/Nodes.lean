import Mathlib.Data.List.Nodup
import Governance.Proofs.Condition.Grammar

/-!
# The nodes of a written condition

`WrittenCondition.ways` lists the ways down to all nodes in the order of the document. A check does
not come to all of them: it goes on below a combination and below a node whose operator it does not
know, and it stops where the limit on depth is reached. `Reaches` tells the nodes in its way.

* `mem_ways_iff`: the ways are those that lead to a node, and `nodup_ways`: none is listed twice.
* `issuesWithin_eq`: the issues of a node are its own, followed by those of the nodes seen below it.
* `filter_issuesWithin`: what is found at and below a node is what is found in that node on its own.
-/

namespace Governance

namespace Issue

/-- Whether the issue `i` is about the node at the end of `way`, or about one below that. -/
def isBelow (way : List Nat) (i : Issue) : Bool := way.isPrefixOf i.place.way

/-- The same issue, seen from the root of a condition in which this one stands at the end of
`way`. -/
def below (way : List Nat) (i : Issue) : Issue := ⟨⟨way ++ i.place.way, i.place.part⟩, i.problem⟩

/-- The issue `i` is about the root itself, and not for want of room. -/
def IsOwn (i : Issue) : Prop := i.place.way = [] ∧ ∀ maxDepth, i.problem ≠ .tooDeep maxDepth

theorem isBelow_nil (i : Issue) : i.isBelow [] = true := rfl

theorem isBelow_cons_under (index k : Nat) (way : List Nat) (i : Issue) :
    (i.under k).isBelow (index :: way) = (index == k && i.isBelow way) := rfl

end Issue

namespace WrittenCondition

/-! ### Ways -/

/-- **Induction over written conditions.** A `node` may use the claim for each of its children. -/
@[elab_as_elim, induction_eliminator]
theorem nodeInduction {motive : WrittenCondition → Prop}
    (node : ∀ w, (∀ c ∈ w.children, motive c) → motive w) : ∀ w, motive w
  | ⟨field, operator, value, none⟩ => node ⟨field, operator, value, none⟩ (by simp [children])
  | ⟨field, operator, value, some ws⟩ =>
    node ⟨field, operator, value, some ws⟩ fun c (_ : c ∈ ws) => nodeInduction node c

/-- The node at the end of a way, if the way leads to one. -/
def at? : WrittenCondition → List Nat → Option WrittenCondition
  | w, [] => some w
  | w, index :: way => w.children[index]?.bind fun c => c.at? way

mutual

/-- The ways to all nodes: first the way to the root, then those to the nodes below it, from left to
right. -/
def ways : WrittenCondition → List (List Nat)
  | ⟨_, _, _, none⟩ => [[]]
  | ⟨_, _, _, some ws⟩ => [] :: waysFrom 0 ws

/-- The ways to the nodes of children, the first of which has the index `index`. -/
def waysFrom (index : Nat) : List WrittenCondition → List (List Nat)
  | [] => []
  | w :: ws => (ways w).map (index :: ·) ++ waysFrom (index + 1) ws

end

theorem ways_eq (w : WrittenCondition) : w.ways = [] :: waysFrom 0 w.children := by
  obtain ⟨field, operator, value, conditions⟩ := w
  cases conditions with
  | none => rfl
  | some ws => rfl

/-- A way in `waysFrom index ws` goes down at `index` or later. -/
theorem exists_of_mem_waysFrom {ws : List WrittenCondition} {index : Nat} {way : List Nat}
    (h : way ∈ waysFrom index ws) : ∃ i rest, index ≤ i ∧ way = i :: rest := by
  induction ws generalizing index with
  | nil => exact absurd h List.not_mem_nil
  | cons w ws ih =>
    rcases List.mem_append.1 h with hw | hws
    · obtain ⟨rest, -, rfl⟩ := List.mem_map.1 hw
      exact ⟨index, rest, Nat.le_refl _, rfl⟩
    · obtain ⟨i, rest, hi, hway⟩ := ih hws
      exact ⟨i, rest, by omega, hway⟩

theorem nil_not_mem_waysFrom (index : Nat) (ws : List WrittenCondition) :
    [] ∉ waysFrom index ws := by
  intro h
  obtain ⟨i, rest, -, hway⟩ := exists_of_mem_waysFrom h
  exact absurd hway (by simp)

/-- No way in `waysFrom index ws` goes down at an earlier index `k`. -/
theorem cons_not_mem_waysFrom {index k : Nat} (hk : k < index) (way : List Nat)
    (ws : List WrittenCondition) : k :: way ∉ waysFrom index ws := by
  intro h
  obtain ⟨i, rest, hi, hway⟩ := exists_of_mem_waysFrom h
  obtain ⟨rfl, -⟩ := List.cons.inj hway
  omega

theorem cons_mem_waysFrom_iff {ws : List WrittenCondition} {index k : Nat} {way : List Nat} :
    (index + k) :: way ∈ waysFrom index ws ↔ ∃ c, ws[k]? = some c ∧ way ∈ c.ways := by
  induction ws generalizing index k with
  | nil => simp [waysFrom]
  | cons w ws ih =>
    rw [waysFrom, List.mem_append]
    cases k with
    | zero =>
      have hlater := cons_not_mem_waysFrom (Nat.lt_succ_self index) way ws
      simp [hlater]
    | succ k =>
      have hnext : index + (k + 1) = index + 1 + k := by omega
      have hfirst : (index + (k + 1)) :: way ∉ w.ways.map (index :: ·) := by
        intro h
        obtain ⟨rest, -, hway⟩ := List.mem_map.1 h
        have hhead := (List.cons.inj hway).1
        omega
      rw [List.getElem?_cons_succ, ← ih, ← hnext]
      exact or_iff_right hfirst

/-- **The ways are those that lead to a node**, by `at?`. -/
theorem mem_ways_iff {w : WrittenCondition} {way : List Nat} :
    way ∈ w.ways ↔ ∃ n, w.at? way = some n := by
  induction way generalizing w with
  | nil => simp [ways_eq, at?]
  | cons index way ih =>
    have hbelow : index :: way ∈ waysFrom 0 w.children ↔
        ∃ c, w.children[index]? = some c ∧ way ∈ c.ways := by
      rw [← cons_mem_waysFrom_iff, Nat.zero_add]
    rw [ways_eq, List.mem_cons, hbelow, at?]
    simp only [reduceCtorEq, false_or, ih, Option.bind_eq_some_iff]
    constructor
    · rintro ⟨c, hc, n, hn⟩
      exact ⟨n, c, hc, hn⟩
    · rintro ⟨n, c, hc, hn⟩
      exact ⟨c, hc, n, hn⟩

/-- **No way is listed twice.** -/
theorem nodup_ways (w : WrittenCondition) : w.ways.Nodup := by
  have children (ws : List WrittenCondition) (ih : ∀ c ∈ ws, c.ways.Nodup) (index : Nat) :
      (waysFrom index ws).Nodup := by
    induction ws generalizing index with
    | nil => exact .nil
    | cons w ws ihws =>
      rw [List.forall_mem_cons] at ih
      rw [waysFrom, List.nodup_append]
      refine ⟨ih.1.map fun _ _ h => (List.cons.inj h).2, ihws ih.2 (index + 1), ?_⟩
      rintro a ha b hb rfl
      obtain ⟨rest, -, rfl⟩ := List.mem_map.1 ha
      exact cons_not_mem_waysFrom (Nat.lt_succ_self index) rest ws hb
  induction w with
  | node w ih =>
    rw [ways_eq, List.nodup_cons]
    exact ⟨nil_not_mem_waysFrom 0 w.children, children w.children ih 0⟩

/-! ### What a check sees -/

/-- Whether a check goes on below `w`: at a combination, and where it does not know the operator. -/
def opens (w : WrittenCondition) : Bool :=
  match Operator.read? w.operator with
  | none => true
  | some op => op.isLogical

/-- Written `Reaches w way n`: the way leads from `w` down to `n`, and all nodes above `n` on it are
open. -/
inductive Reaches : WrittenCondition → List Nat → WrittenCondition → Prop
  | here (w : WrittenCondition) : Reaches w [] w
  | down {w c n : WrittenCondition} {index : Nat} {way : List Nat} (hopens : w.opens = true)
      (hchild : w.children[index]? = some c) (h : Reaches c way n) : Reaches w (index :: way) n

namespace Reaches

variable {w n c : WrittenCondition} {way : List Nat} {index : Nat}

theorem at?_eq (h : Reaches w way n) : w.at? way = some n := by
  induction h with
  | here w => rfl
  | down _ hchild _ ih => rw [at?, hchild, Option.bind_some, ih]

/-- From `n`, if it is open, `Reaches` goes one step further, to its child `c`. -/
theorem child (h : Reaches w way n) (hopens : n.opens = true)
    (hchild : n.children[index]? = some c) : Reaches w (way ++ [index]) c := by
  induction h with
  | here w => exact .down hopens hchild (.here c)
  | down hopens' hchild' _ ih => exact .down hopens' hchild' (ih hopens hchild)

end Reaches

variable [Pattern.Library]

/-- The issues of a node that may be `room` deep, those of the nodes below left aside. -/
def ownIssues (limits : ValidationLimits) : Nat → WrittenCondition → List Issue
  | 0, _ => [⟨.root .whole, .tooDeep limits.maxDepth⟩]
  | _ + 1, w =>
    match Operator.read? w.operator with
    | none => [⟨.root .operator, .unknownOperator w.operator⟩]
    | some op =>
      if op.isLogical then combinationIssues op w else leafIssues limits.patternSize op w

/-- The nodes below one that may be `room` deep, as far as a check goes on to them. -/
def seenBelow : Nat → WrittenCondition → List WrittenCondition
  | 0, _ => []
  | _ + 1, w => if w.opens then w.children else []

section Seen

variable {limits : ValidationLimits}

/-- **Issues come node by node**: `issuesWithin` lists the `ownIssues` of `w` and then those
below. -/
theorem issuesWithin_eq (room : Nat) (w : WrittenCondition) :
    issuesWithin limits room w = ownIssues limits room w
      ++ issuesBelow (issuesWithin limits (room - 1)) 0 (seenBelow room w) := by
  cases room with
  | zero => rfl
  | succ room =>
    rw [issuesWithin, ownIssues, seenBelow, opens, Nat.add_sub_cancel]
    cases Operator.read? w.operator with
    | none => rfl
    | some op => cases hop : op.isLogical <;> simp [hop, issuesBelow]

omit [Pattern.Library] in
theorem isOwn_of_mem_leafShapeIssues {op : Operator} {w : WrittenCondition} {i : Issue}
    (h : i ∈ leafShapeIssues op w) : i.IsOwn := by
  rw [leafShapeIssues, List.mem_append, List.mem_append] at h
  rcases h with (h | h) | h <;> split at h <;> simp_all [Place.root, Issue.IsOwn]

theorem isOwn_of_mem_leafIssues {patternSize : Nat} {op : Operator} {w : WrittenCondition}
    {i : Issue} (h : i ∈ leafIssues patternSize op w) : i.IsOwn := by
  unfold leafIssues at h
  split at h
  · split at h
    · split at h <;> simp_all [Place.root, Issue.IsOwn]
    · exact absurd h List.not_mem_nil
  · exact isOwn_of_mem_leafShapeIssues h

omit [Pattern.Library] in
theorem isOwn_of_mem_combinationIssues {op : Operator} {w : WrittenCondition} {i : Issue}
    (h : i ∈ combinationIssues op w) : i.IsOwn := by
  rw [combinationIssues, List.mem_append, List.mem_append] at h
  rcases h with (h | h) | h
  · split at h <;> simp_all [Place.root, Issue.IsOwn]
  · split at h <;> simp_all [Place.root, Issue.IsOwn]
  · split at h <;> split at h <;> simp_all [Place.root, Issue.IsOwn]

theorem isOwn_of_mem_ownIssues {room : Nat} {w : WrittenCondition} {i : Issue}
    (h : i ∈ ownIssues limits (room + 1) w) : i.IsOwn := by
  rw [ownIssues] at h
  split at h
  · obtain rfl := List.mem_singleton.1 h
    exact ⟨rfl, by simp⟩
  · split at h
    · exact isOwn_of_mem_combinationIssues h
    · exact isOwn_of_mem_leafIssues h

/-- Among `ownIssues` all are about the node itself. -/
theorem way_of_mem_ownIssues {room : Nat} {w : WrittenCondition} {i : Issue}
    (h : i ∈ ownIssues limits room w) : i.place.way = [] := by
  cases room with
  | zero =>
    obtain rfl := List.mem_singleton.1 h
    rfl
  | succ room => exact (isOwn_of_mem_ownIssues h).1

variable {issues : WrittenCondition → List Issue} {ws : List WrittenCondition}

omit [Pattern.Library] in
/-- Issues in `issuesBelow issues index ws` are about children, from `index` on. -/
theorem exists_of_mem_issuesBelow {index : Nat} {i : Issue} (h : i ∈ issuesBelow issues index ws) :
    ∃ k way, index ≤ k ∧ i.place.way = k :: way := by
  induction ws generalizing index with
  | nil => exact absurd h List.not_mem_nil
  | cons w ws ih =>
    rcases List.mem_append.1 h with hw | hws
    · obtain ⟨j, -, rfl⟩ := List.mem_map.1 hw
      exact ⟨index, j.place.way, Nat.le_refl _, rfl⟩
    · obtain ⟨k, way, hk, hway⟩ := ih hws
      exact ⟨k, way, by omega, hway⟩

omit [Pattern.Library] in
/-- What `issuesBelow` lists at and below a child `c` is what `issues c` does. -/
theorem filter_issuesBelow {index k : Nat} {c : WrittenCondition} (hc : ws[k]? = some c)
    (way : List Nat) :
    (issuesBelow issues index ws).filter (Issue.isBelow ((index + k) :: way))
      = ((issues c).filter (Issue.isBelow way)).map (Issue.under (index + k)) := by
  induction ws generalizing index k with
  | nil => exact absurd hc (by simp)
  | cons w ws ih =>
    rw [issuesBelow, List.filter_append, List.filter_map]
    cases k with
    | zero =>
      obtain rfl := Option.some.inj hc
      have hlater : (issuesBelow issues (index + 1) ws).filter (Issue.isBelow (index :: way))
          = [] := by
        refine List.filter_eq_nil_iff.2 fun i hi => ?_
        obtain ⟨k, rest, hk, hway⟩ := exists_of_mem_issuesBelow hi
        have hne : index ≠ k := by omega
        simp [Issue.isBelow, hway, hne]
      have hsame : Issue.isBelow (index :: way) ∘ Issue.under index = Issue.isBelow way := by
        funext i
        simp [Issue.isBelow_cons_under]
      rw [Nat.add_zero, hlater, hsame, List.append_nil]
    | succ k =>
      have hnext : index + (k + 1) = index + 1 + k := by omega
      have hfirst : (issues w).filter (Issue.isBelow ((index + (k + 1)) :: way) ∘ Issue.under index)
          = [] := by
        refine List.filter_eq_nil_iff.2 fun i _ => ?_
        simp [Issue.isBelow_cons_under]
      rw [hfirst, List.map_nil, List.nil_append, hnext]
      exact ih hc

/-- **Nodes are checked one by one.** What `issuesWithin` finds in `w` at and below a node `n` that
it comes to is what it finds in `n` on its own, with the room that is left. -/
theorem filter_issuesWithin {w n : WrittenCondition} {way : List Nat} (h : Reaches w way n)
    {room : Nat} (hroom : way.length ≤ room) :
    (issuesWithin limits room w).filter (Issue.isBelow way)
      = (issuesWithin limits (room - way.length) n).map (Issue.below way) := by
  induction h generalizing room with
  | here w =>
    have hall : (issuesWithin limits room w).filter (Issue.isBelow [])
        = issuesWithin limits room w := List.filter_eq_self.2 fun i _ => i.isBelow_nil
    rw [hall]
    exact (List.map_id _).symm
  | @down w c n index way hopens hchild _ ih =>
    obtain ⟨room, rfl⟩ : ∃ r, room = r + 1 := Nat.exists_eq_add_one_of_ne_zero (by
      rw [List.length_cons] at hroom
      omega)
    have hown : (ownIssues limits (room + 1) w).filter (Issue.isBelow (index :: way)) = [] := by
      refine List.filter_eq_nil_iff.2 fun i hi => ?_
      simp [Issue.isBelow, way_of_mem_ownIssues hi]
    have hseen : seenBelow (room + 1) w = w.children := by rw [seenBelow, if_pos hopens]
    have hchildren : (issuesBelow (issuesWithin limits room) 0 w.children).filter
          (Issue.isBelow (index :: way))
        = ((issuesWithin limits room c).filter (Issue.isBelow way)).map (Issue.under index) := by
      rw [← Nat.zero_add index]
      exact filter_issuesBelow hchild way
    rw [List.length_cons] at hroom
    rw [issuesWithin_eq, List.filter_append, hown, hseen, List.nil_append, Nat.add_sub_cancel,
      hchildren, ih (by omega), List.map_map, List.length_cons, Nat.add_sub_add_right]
    rfl

end Seen

end WrittenCondition

end Governance
