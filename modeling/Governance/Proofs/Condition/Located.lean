import Governance.Proofs.Condition.Nodes
import Governance.Proofs.Condition.Paths
import Governance.Proofs.Command.Report
import Governance.Pattern.Program

/-!
# Where issues are found

The issues of a written condition are precise: no two are at one place, each is about a node that
there is, and they come in the order of the document. They are compositional as well: what is
reported below a child is what is wrong with the child on its own.

* `nodup_places`: no two issues are at one place.
* `grouped_issuesWithin`: issues come node by node, in the order of the document.
* `issues_located`: this and the rest of it, said of the paths that are shown.
-/

namespace Governance

/-! ### Limits in messages -/

/-- The same problem under another `maxDepth`. -/
def Problem.withLimit (maxDepth : Nat) : Problem → Problem
  | tooDeep _ => tooDeep maxDepth
  | p => p

/-- The same issue under another `maxDepth`. -/
def Issue.withLimit (maxDepth : Nat) (i : Issue) : Issue := ⟨i.place, i.problem.withLimit maxDepth⟩

theorem Issue.IsOwn.withLimit_eq {i : Issue} (h : i.IsOwn) (maxDepth : Nat) :
    i.withLimit maxDepth = i := by
  obtain ⟨place, problem⟩ := i
  cases problem with
  | tooDeep limit => exact absurd rfl (h.2 limit)
  | _ => rfl

/-! ### Issues by node -/

/-- Whether the issue `i` is about the node at the end of `way`. -/
def Issue.isAt (way : List Nat) (i : Issue) : Bool := i.place.way == way

/-- All `issues` come way by way, in the order of `ways`, and none is elsewhere. -/
def Grouped (ways : List (List Nat)) (issues : List Issue) : Prop :=
  issues = ways.flatMap fun way => issues.filter (Issue.isAt way)

namespace Grouped

variable {ways ways' : List (List Nat)} {issues issues' : List Issue}

theorem nil (ways : List (List Nat)) : Grouped ways [] :=
  (List.flatMap_eq_nil_iff.2 fun _ _ => rfl).symm

theorem mem (h : Grouped ways issues) {i : Issue} (hi : i ∈ issues) : i.place.way ∈ ways := by
  rw [h] at hi
  obtain ⟨way, hway, hi⟩ := List.mem_flatMap.1 hi
  obtain rfl : i.place.way = way := beq_iff_eq.1 (List.mem_filter.1 hi).2
  exact hway

/-- No issue is at the end of a `way` that is not listed in `ways`. -/
theorem filter_eq_nil (h : Grouped ways issues) {way : List Nat} (hway : way ∉ ways) :
    issues.filter (Issue.isAt way) = [] := by
  refine List.filter_eq_nil_iff.2 fun i hi hat => hway ?_
  obtain rfl : i.place.way = way := beq_iff_eq.1 hat
  exact h.mem hi

/-- Own issues are about the root, whose way is `[]`. -/
theorem root (h : ∀ i ∈ issues, i.place.way = []) : Grouped [[]] issues := by
  have hall : issues.filter (Issue.isAt []) = issues :=
    List.filter_eq_self.2 fun i hi => beq_iff_eq.2 (h i hi)
  rw [Grouped, List.flatMap_singleton, hall]

theorem append (h : Grouped ways issues) (h' : Grouped ways' issues')
    (hdisjoint : ∀ way ∈ ways, way ∉ ways') : Grouped (ways ++ ways') (issues ++ issues') := by
  have hfirst : ∀ way ∈ ways, (issues ++ issues').filter (Issue.isAt way)
      = issues.filter (Issue.isAt way) := by
    intro way hway
    rw [List.filter_append, h'.filter_eq_nil (hdisjoint way hway), List.append_nil]
  have hsecond : ∀ way ∈ ways', (issues ++ issues').filter (Issue.isAt way)
      = issues'.filter (Issue.isAt way) := by
    intro way hway
    rw [List.filter_append, h.filter_eq_nil fun hmem => hdisjoint way hmem hway, List.nil_append]
  rw [Grouped, List.flatMap_append, List.flatMap_congr hfirst, List.flatMap_congr hsecond, ← h,
    ← h']

/-- Issues of a child are grouped by the ways through its `index`. -/
theorem under (h : Grouped ways issues) (index : Nat) :
    Grouped (ways.map (index :: ·)) (issues.map (Issue.under index)) := by
  have hat (way : List Nat) : Issue.isAt (index :: way) ∘ Issue.under index = Issue.isAt way := by
    funext i
    simp [Issue.isAt, Issue.under, Place.under]
  have hfilter (way : List Nat) : (issues.map (Issue.under index)).filter
      (Issue.isAt (index :: way)) = (issues.filter (Issue.isAt way)).map (Issue.under index) := by
    rw [List.filter_map, hat]
  rw [Grouped, List.flatMap_map]
  simp only [hfilter]
  rw [← List.map_flatMap, ← h]

end Grouped

namespace WrittenCondition

variable {limits : ValidationLimits}

theorem grouped_issuesBelow {issues : WrittenCondition → List Issue} {ws : List WrittenCondition}
    (h : ∀ w ∈ ws, Grouped w.ways (issues w)) (index : Nat) :
    Grouped (waysFrom index ws) (issuesBelow issues index ws) := by
  induction ws generalizing index with
  | nil => exact .nil _
  | cons w ws ih =>
    rw [List.forall_mem_cons] at h
    refine (h.1.under index).append (ih h.2 (index + 1)) fun way hway hlater => ?_
    obtain ⟨rest, -, rfl⟩ := List.mem_map.1 hway
    exact cons_not_mem_waysFrom (Nat.lt_succ_self index) rest ws hlater

section Library

variable [Pattern.Library]

/-- **Issues come in the order of the document**: `issuesWithin` is grouped by `w.ways`. -/
theorem grouped_issuesWithin (room : Nat) (w : WrittenCondition) :
    Grouped w.ways (issuesWithin limits room w) := by
  have node (room : Nat) (w : WrittenCondition) (hbelow : Grouped (waysFrom 0 w.children)
      (issuesBelow (issuesWithin limits (room - 1)) 0 (seenBelow room w))) :
      Grouped w.ways (issuesWithin limits room w) := by
    rw [issuesWithin_eq, ways_eq]
    refine (Grouped.root fun i => way_of_mem_ownIssues).append hbelow fun way hway => ?_
    obtain rfl := List.mem_singleton.1 hway
    exact nil_not_mem_waysFrom 0 w.children
  induction room generalizing w with
  | zero => exact node 0 w (.nil _)
  | succ room ih =>
    refine node (room + 1) w ?_
    rw [seenBelow]
    split
    · exact grouped_issuesBelow (fun c _ => ih c) 0
    · exact .nil _

/-! ### One issue at a place -/

theorem nodup_places_leafIssues (patternSize : Nat) (op : Operator) (w : WrittenCondition) :
    ((leafIssues patternSize op w).map Issue.place).Nodup := by
  unfold leafIssues
  split
  · split
    · split <;> simp
    · exact .nil
  · rw [leafShapeIssues]
    cases w.conditions.isSome <;> cases w.fieldName.isEmpty <;> cases w.operand <;>
      simp [Place.root]

omit [Pattern.Library] in
theorem nodup_places_combinationIssues (op : Operator) (w : WrittenCondition) :
    ((combinationIssues op w).map Issue.place).Nodup := by
  rw [combinationIssues]
  split_ifs <;> simp [Place.root]

theorem nodup_places_ownIssues (room : Nat) (w : WrittenCondition) :
    ((ownIssues limits room w).map Issue.place).Nodup := by
  cases room with
  | zero => exact List.nodup_singleton _
  | succ room =>
    rw [ownIssues]
    split
    · exact List.nodup_singleton _
    · split
      · exact nodup_places_combinationIssues _ w
      · exact nodup_places_leafIssues _ _ w

omit [Pattern.Library] in
theorem nodup_places_issuesBelow {issues : WrittenCondition → List Issue}
    {ws : List WrittenCondition} (h : ∀ w ∈ ws, ((issues w).map Issue.place).Nodup)
    (index : Nat) : ((issuesBelow issues index ws).map Issue.place).Nodup := by
  induction ws generalizing index with
  | nil => exact .nil
  | cons w ws ih =>
    rw [List.forall_mem_cons] at h
    have hinj : Function.Injective (Place.under index) := by
      rintro ⟨way, part⟩ ⟨way', part'⟩ heq
      simpa [Place.under] using heq
    have hfirst : ((issues w).map (Issue.under index)).map Issue.place
        = ((issues w).map Issue.place).map (Place.under index) := by
      rw [List.map_map, List.map_map]
      rfl
    rw [issuesBelow, List.map_append, hfirst, List.nodup_append]
    refine ⟨h.1.map hinj, ih h.2 (index + 1), ?_⟩
    rintro p hp q hq rfl
    obtain ⟨p', -, rfl⟩ := List.mem_map.1 hp
    obtain ⟨i, hi, hplace⟩ := List.mem_map.1 hq
    obtain ⟨k, way, hk, hway⟩ := exists_of_mem_issuesBelow hi
    rw [hplace] at hway
    obtain ⟨rfl, -⟩ := List.cons.inj hway
    omega

/-- **No two issues are at one place.** -/
theorem nodup_places (room : Nat) (w : WrittenCondition) :
    ((issuesWithin limits room w).map Issue.place).Nodup := by
  have node (room : Nat) (w : WrittenCondition) (hbelow : ∀ c ∈ seenBelow room w,
      ((issuesWithin limits (room - 1) c).map Issue.place).Nodup) :
      ((issuesWithin limits room w).map Issue.place).Nodup := by
    rw [issuesWithin_eq, List.map_append, List.nodup_append]
    refine ⟨nodup_places_ownIssues room w, nodup_places_issuesBelow hbelow 0, ?_⟩
    rintro p hp q hq rfl
    obtain ⟨i, hi, hplace⟩ := List.mem_map.1 hp
    obtain ⟨j, hj, hsame⟩ := List.mem_map.1 hq
    obtain ⟨k, way, -, hway⟩ := exists_of_mem_issuesBelow hj
    rw [hsame, ← hplace, way_of_mem_ownIssues hi] at hway
    exact absurd hway (by simp)
  induction room generalizing w with
  | zero => exact node 0 w (by simp [seenBelow])
  | succ room ih => exact node (room + 1) w fun c _ => ih c

/-! ### Another limit -/

omit [Pattern.Library] in
theorem map_issuesBelow {issues : WrittenCondition → List Issue} {g : Issue → Issue}
    (hg : ∀ index i, g (i.under index) = (g i).under index) (index : Nat)
    (ws : List WrittenCondition) :
    (issuesBelow issues index ws).map g = issuesBelow (fun w => (issues w).map g) index ws := by
  induction ws generalizing index with
  | nil => rfl
  | cons w ws ih =>
    rw [issuesBelow, issuesBelow, List.map_append, ih, List.map_map, List.map_map]
    congr 2
    funext i
    exact hg index i

/-- With as much `room`, another `maxDepth` shows in the messages only. -/
theorem issuesWithin_withLimit (maxDepth room : Nat) (w : WrittenCondition) :
    (issuesWithin { limits with maxDepth := maxDepth } room w).map
      (Issue.withLimit limits.maxDepth) = issuesWithin limits room w := by
  induction room generalizing w with
  | zero => rfl
  | succ room ih =>
    have hown : (ownIssues { limits with maxDepth := maxDepth } (room + 1) w).map
        (Issue.withLimit limits.maxDepth) = ownIssues limits (room + 1) w := by
      show (ownIssues limits (room + 1) w).map (Issue.withLimit limits.maxDepth) = _
      refine (List.map_congr_left fun i hi => ?_).trans (List.map_id _)
      exact (isOwn_of_mem_ownIssues hi).withLimit_eq limits.maxDepth
    rw [issuesWithin_eq, issuesWithin_eq, List.map_append, hown,
      map_issuesBelow (fun _ _ => rfl), Nat.add_sub_cancel]
    simp only [ih]

/-! ### Paths of issues -/

/-- What is found below a child `c` is what is wrong with `c` on its own, in the room that is left
below `n`. -/
theorem filter_issues_child {w n c : WrittenCondition} {way : List Nat} {index : Nat}
    (h : Reaches w way n) (hroom : way.length < limits.maxDepth) (hopens : n.opens = true)
    (hchild : n.children[index]? = some c) :
    (w.issues limits).filter (Issue.isBelow (way ++ [index]))
      = (c.issues { limits with maxDepth := limits.maxDepth - (way.length + 1) }).map fun i =>
        (i.withLimit limits.maxDepth).below (way ++ [index]) := by
  have hlength : (way ++ [index]).length = way.length + 1 := List.length_append
  have hle : (way ++ [index]).length ≤ limits.maxDepth := by omega
  rw [issues, filter_issuesWithin (h.child hopens hchild) hle, hlength,
    ← issuesWithin_withLimit (limits.maxDepth - (way.length + 1)), List.map_map]
  rfl

/-- A report `ofDocument` about a policy lists the issues of its conditions. -/
theorem issues_ofDocument {file : String} {doc : Json} {w : WrittenCondition}
    (hpolicy : Subject.of doc = .policy)
    (hw : WrittenCondition.ofJson (Subject.policy.tree doc) = .ok w) :
    (Report.ofDocument limits file doc).issues = w.issues limits := by
  rw [Report.ofDocument, hpolicy, hw]
  rfl

/-- In a report about a policy, a `path` has that of its conditions in front. -/
theorem path_ofDocument {file : String} {doc : Json} (hpolicy : Subject.of doc = .policy)
    (i : Issue) :
    (Report.ofDocument limits file doc).path i = rebase "/conditions" i.place.text := by
  rw [Report.path, Report.subject_ofDocument, hpolicy, ← Place.textUnder_eq_rebase]
  rfl

/-- **Issues are located precisely, and part by part.** No two of `w.issues limits` have the same
path. Each path, with `/` read as no step at all, goes down to a node that there is (`at?`) and ends
with a part of it; the nodes come in the order of the document, which is that of `w.ways`. What is
reported below a child `c` of an open node `n` is what is wrong with `c` on its own, under the limit
that is left for it: each path has the way to the child in front, and only the limit in the messages
is that of the whole. In the same way the paths in the document of a policy have that of its
conditions in front. -/
theorem issues_located (limits : ValidationLimits) (w : WrittenCondition) :
    ((w.issues limits).map fun i => i.place.text).Nodup
      ∧ (∀ i ∈ w.issues limits, (∃ n, w.at? i.place.way = some n)
        ∧ (if i.place.text = "/" then "" else i.place.text)
          = steps i.place.way ++ i.place.part.text)
      ∧ (w.issues limits
        = w.ways.flatMap fun way => (w.issues limits).filter fun i => i.place.way == way)
      ∧ (∀ way n index c, Reaches w way n → way.length < limits.maxDepth → n.opens = true →
        n.children[index]? = some c →
          ((w.issues limits).filter (Issue.isBelow (way ++ [index]))).map
              (fun i => (i.place.text, i.problem))
            = (c.issues { limits with maxDepth := limits.maxDepth - (way.length + 1) }).map
              fun i => (rebase (steps (way ++ [index])) i.place.text,
                i.problem.withLimit limits.maxDepth))
      ∧ ∀ file doc, Subject.of doc = .policy →
        WrittenCondition.ofJson (Subject.policy.tree doc) = .ok w →
          ((Report.ofDocument limits file doc).issues.map fun i =>
              ((Report.ofDocument limits file doc).path i, i.problem))
            = (w.issues limits).map fun i => (rebase "/conditions" i.place.text, i.problem) := by
  have hgrouped : Grouped w.ways (w.issues limits) := grouped_issuesWithin limits.maxDepth w
  refine ⟨?_, fun i hi => ⟨mem_ways_iff.1 (hgrouped.mem hi), ?_⟩, hgrouped, ?_, ?_⟩
  · have htexts : ((w.issues limits).map fun i => i.place.text)
        = ((w.issues limits).map Issue.place).map Place.text := by
      rw [List.map_map]
      rfl
    rw [htexts]
    exact (nodup_places limits.maxDepth w).map fun _ _ => Place.text_inj
  · rw [← Place.pointer_eq]
    exact i.place.pointer_of_text
  · intro way n index c hreach hroom hopens hchild
    rw [filter_issues_child hreach hroom hopens hchild, List.map_map]
    refine List.map_congr_left fun i _ => ?_
    exact Prod.ext (Place.text_append_way (by simp) i.place) rfl
  · intro file doc hpolicy hw
    rw [issues_ofDocument hpolicy hw]
    exact List.map_congr_left fun i _ => Prod.ext (path_ofDocument hpolicy i) rfl

/-- Written node whose operator is not known, with two leaves below that lack an operand. -/
def unknownRule : WrittenCondition :=
  ⟨none, "XOR", none,
    some [⟨some "draft", "IS_FALSE", none, none⟩, ⟨some "risk", "EQUALS", none, none⟩,
      ⟨none, "AND", none, some [⟨some "owner", "CONTAINS", none, none⟩]⟩]⟩

end Library

/-- With a limit of two levels, `unknownRule` alone and as the conditions of a policy. What is below
its third child may have no level on its own, and is too deep under the limit of the whole. -/
theorem issues_located_unknownRule :
    let limits : ValidationLimits := { ValidationLimits.default with maxDepth := 2 }
    let doc : Json := .object [("conditions", unknownRule.toJson)]
    let report := Report.ofDocument limits "doc.yaml" doc
    ((unknownRule.issues limits).map fun i => i.place.text)
        = ["/operator", "/conditions/1/value", "/conditions/2/conditions/0"]
      ∧ (((unknownRule.issues limits).filter (Issue.isBelow [2, 0])).map
          fun i => (i.place.text, i.problem.message))
        = [("/conditions/2/conditions/0", "nesting exceeds maximum depth 2")]
      ∧ (report.issues.map fun i => report.path i)
        = ["/conditions/operator", "/conditions/conditions/1/value",
            "/conditions/conditions/2/conditions/0"] := by
  intro limits doc report
  have hread : WrittenCondition.ofJson (Subject.policy.tree doc) = .ok unknownRule := by rfl
  obtain ⟨-, -, -, hchild, hpolicy⟩ := issues_located limits unknownRule
  have hbelow := hchild [2] _ 0 _ (.down (by decide) rfl (.here _)) (by decide) (by decide) rfl
  have hrebased := hpolicy "doc.yaml" doc (by decide) hread
  refine ⟨by decide +kernel, ?_, ?_⟩
  · have hmessages := congrArg (List.map (Prod.map id Problem.message)) hbelow
    rw [List.map_map, List.map_map] at hmessages
    exact hmessages.trans (by decide +kernel)
  · have hpaths := congrArg (List.map Prod.fst) hrebased
    rw [List.map_map, List.map_map] at hpaths
    exact hpaths.trans (by decide +kernel)

end WrittenCondition

end Governance
