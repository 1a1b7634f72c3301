import Governance.Proofs.Number.Texts
import Governance.Proofs.Operator.Comparison
import Governance.Pattern.Program

/-!
# Comparing texts of digits

A text of digits is compared as the number nearest to what it denotes. So the order of what two such
texts denote is kept, but two that denote different numbers are equal when both are rounded alike;
and a text that denotes more than every finite number is no number at all.

* `place?_of_digits`: the place of a text of digits.
* `digits_compared`: what comparison answers of two texts of digits.
* `digits_confused`: different numbers that are equal, and numbers in no order.
-/

namespace Governance

open Number

/-- The text `s` is of decimal digits, one at least. -/
structure IsDigits (s : String) : Prop where
  ne_empty : s ≠ ""
  digits : ∀ c ∈ s.toList, c.isDigit = true

instance (s : String) : Decidable (IsDigits s) :=
  decidable_of_iff (s ≠ "" ∧ s.toList.all Char.isDigit = true)
    ⟨fun h => ⟨h.1, List.all_eq_true.1 h.2⟩, fun h => ⟨h.ne_empty, List.all_eq_true.2 h.digits⟩⟩

/-- The natural number that the digits of `s` denote. -/
def denoted (s : String) : Nat := Nat.ofDigitChars 10 s.toList 0

theorem isDigits_ofList {cs : List Char} (hne : cs ≠ []) (h : cs.all Char.isDigit = true) :
    IsDigits (String.ofList cs) where
  ne_empty := mt String.ofList_eq_empty_iff.1 hne
  digits := by rwa [String.toList_ofList, ← List.all_eq_true]

theorem denoted_ofList (cs : List Char) :
    denoted (String.ofList cs) = Nat.ofDigitChars 10 cs 0 := by
  rw [denoted, String.toList_ofList]

variable {s t : String}

/-- **A text of digits lies where the number nearest to what it denotes does**, if that one is
finite: `place?` by `nearestWhole`. -/
theorem place?_of_digits (hs : IsDigits s) :
    (FieldValue.text s).place?
      = if denoted s < wholeBound then some ((nearestWhole (denoted s) * unitsPerOne : Nat) : Int)
        else none := by
  have hread := readChars_digits (fun hnil => hs.ne_empty (String.toList_eq_nil_iff.1 hnil))
    hs.digits
  have hnumber : (FieldValue.text s).asNumber
      = FieldValue.finite? (.ofUnits false (nearestWhole (denoted s) * unitsPerOne)) := by
    rw [FieldValue.asNumber, FieldValue.numberOfText,
      trim_of_isNumeral fun c hc => .inl (isDigit_of_isDigit (hs.digits c hc)), read?, hread,
      Option.bind_some, denoted]
  rw [FieldValue.place?, hnumber]
  split
  · next h =>
    rw [Binary64.ofUnits_of_representable (representable_nearestWhole_iff.2 h)]
    rfl
  · next h =>
    have hunfit : ¬Representable (nearestWhole (denoted s) * unitsPerOne) := fun hfits =>
      h (representable_nearestWhole_iff.1 hfits)
    rw [Binary64.ofUnits, dif_neg hunfit]
    rfl

section Library

variable [Pattern.Library]

/-- Below `wholeBound`, the range of finite numbers, texts of digits are compared as what they are
rounded to. -/
theorem compared_within (env : Surroundings) (hs : IsDigits s) (ht : IsDigits t)
    (hm : denoted s < wholeBound) (hn : denoted t < wholeBound) :
    Operator.equals.answer? env (.text s) (.text t)
        = some (.ok (decide (nearestWhole (denoted s) = nearestWhole (denoted t))))
      ∧ Operator.greaterThan.answer? env (.text s) (.text t)
        = some (.ok (decide (nearestWhole (denoted t) < nearestWhole (denoted s))))
      ∧ Operator.lessThan.answer? env (.text s) (.text t)
        = some (.ok (decide (nearestWhole (denoted s) < nearestWhole (denoted t)))) := by
  have hplace : (FieldValue.text s).place? = _ := (place?_of_digits hs).trans (if_pos hm)
  have hplace' : (FieldValue.text t).place? = _ := (place?_of_digits ht).trans (if_pos hn)
  generalize nearestWhole (denoted s) = a at hplace ⊢
  generalize nearestWhole (denoted t) = b at hplace' ⊢
  -- both are counted in units, which changes no comparison
  have hequal :
      decide (a = b) = decide (((a * unitsPerOne : Nat) : Int) = (b * unitsPerOne : Nat)) := by
    rw [decide_eq_decide, Int.ofNat_inj, Nat.mul_left_inj (Nat.ne_of_gt unitsPerOne_pos)]
  have hless (a b : Nat) :
      decide (a < b) = decide (((a * unitsPerOne : Nat) : Int) < (b * unitsPerOne : Nat)) := by
    rw [decide_eq_decide, Int.ofNat_lt, Nat.mul_lt_mul_right unitsPerOne_pos]
  rw [hequal, hless, hless]
  exact ⟨answer?_of_places (r := fun a b => decide (a = b)) env rfl hplace hplace',
    answer?_of_places (r := fun a b => decide (b < a)) env rfl hplace hplace',
    answer?_of_places (r := fun a b => decide (a < b)) env rfl hplace hplace'⟩

/-- From `wholeBound` on, a text of digits is compared as any other text. -/
theorem compared_beyond (env : Surroundings) (hs : IsDigits s) (ht : IsDigits t)
    (hbeyond : wholeBound ≤ denoted s ∨ wholeBound ≤ denoted t) :
    Operator.equals.answer? env (.text s) (.text t) = some (.ok (decide (s = t)))
      ∧ ∀ op : Operator, op.isOrdering = true →
        op.answer? env (.text s) (.text t)
          = some (.error (.unordered op (if wholeBound ≤ denoted s then .context else .operand)
              (.text s) (.text t))) := by
  have hnone {s : String} (hs : IsDigits s) (h : wholeBound ≤ denoted s) :
      (FieldValue.text s).place? = none :=
    (place?_of_digits hs).trans (if_neg (Nat.not_lt.2 h))
  constructor
  · have hequal := looselyEqual_of_no_place (hbeyond.imp (hnone hs) (hnone ht))
    have htext : looselyEqual (.text s) (.text t) = decide (s = t) := by
      rw [hequal, FieldValue.toText, FieldValue.toText, Option.some_beq_some, Bool.eq_iff_iff,
        beq_iff_eq, decide_eq_true_iff]
    exact congrArg (fun b => some (Except.ok b)) htext
  · intro op hop
    split
    · next hm => exact answer?_of_context env hop (hnone hs hm)
    · next hm =>
      exact answer?_of_operand env hop ((place?_of_digits hs).trans (if_pos (Nat.not_le.1 hm)))
        (hnone ht (hbeyond.resolve_left hm))

/-- **What comparison answers of two texts of digits.** Where `s` and `t` denote less than
`wholeBound`, the range of finite numbers, they are compared as the numbers of 53 bits nearest to
what they denote (`IsNearest`), which are those themselves where 53 bits hold them, and which stand
in the same order. Beyond it a text is equal only to itself, and is refused by every ordering. -/
theorem digits_compared (env : Surroundings) (s t : String) (hs : IsDigits s) (ht : IsDigits t) :
    (denoted s < wholeBound → denoted t < wholeBound →
        ∃ a b, IsNearest (denoted s) a ∧ IsNearest (denoted t) b
          ∧ (FitsBits 53 (denoted s) → a = denoted s) ∧ (FitsBits 53 (denoted t) → b = denoted t)
          ∧ (denoted s ≤ denoted t → a ≤ b) ∧ (denoted t ≤ denoted s → b ≤ a)
          ∧ Operator.equals.answer? env (.text s) (.text t) = some (.ok (decide (a = b)))
          ∧ Operator.greaterThan.answer? env (.text s) (.text t) = some (.ok (decide (b < a)))
          ∧ Operator.lessThan.answer? env (.text s) (.text t) = some (.ok (decide (a < b))))
      ∧ (wholeBound ≤ denoted s ∨ wholeBound ≤ denoted t →
          Operator.equals.answer? env (.text s) (.text t) = some (.ok (decide (s = t)))
            ∧ ∀ op : Operator, op.isOrdering = true →
              op.answer? env (.text s) (.text t)
                = some (.error (.unordered op (if wholeBound ≤ denoted s then .context else .operand)
                    (.text s) (.text t)))) :=
  ⟨fun hm hn => ⟨nearestWhole (denoted s), nearestWhole (denoted t), isNearest_nearestWhole _,
    isNearest_nearestWhole _, nearestWhole_of_fitsBits, nearestWhole_of_fitsBits,
    nearestWhole_mono, nearestWhole_mono, compared_within env hs ht hm hn⟩,
    compared_beyond env hs ht⟩

end Library

/-- Identifiers of which 53 bits hold one, and a row of nines past every finite number. -/
theorem digits_compared_identifiers :
    let env : Surroundings := ⟨.default, .still⟩
    let s := "0018014398509481985"
    let t := "18014398509481984"
    let nines := String.ofList (List.replicate 309 '9')
    (IsDigits s ∧ IsDigits t ∧ denoted s < wholeBound ∧ denoted t < wholeBound
        ∧ ∃ a b, IsNearest (denoted s) a ∧ IsNearest (denoted t) b ∧ b = denoted t ∧ b ≤ a
          ∧ Operator.greaterThan.answer? env (.text s) (.text t) = some (.ok (decide (b < a))))
      ∧ IsDigits nines ∧ wholeBound ≤ denoted nines
        ∧ Operator.equals.answer? env (.text nines) (.text t)
          = some (.ok (decide (nines = t))) := by
  intro env s t nines
  have hs : IsDigits s := by decide +kernel
  have ht : IsDigits t := by decide +kernel
  have hnines : IsDigits nines := isDigits_ofList (by decide) (by decide +kernel)
  have hm : denoted s < wholeBound := by decide +kernel
  have hn : denoted t < wholeBound := by decide +kernel
  have hbeyond : wholeBound ≤ denoted nines := by
    rw [denoted_ofList]
    decide +kernel
  have hfits : FitsBits 53 (denoted t) := by decide +kernel
  have hle : denoted t ≤ denoted s := by decide +kernel
  obtain ⟨a, b, ha, hb, -, hexact, -, hmono, -, hgreater, -⟩ :=
    (digits_compared env s t hs ht).1 hm hn
  exact ⟨⟨hs, ht, hm, hn, a, b, ha, hb, hexact hfits, hmono hle, hgreater⟩, hnines, hbeyond,
    ((digits_compared env nines t hnines ht).2 (.inl hbeyond)).1⟩

/-- **Different numbers that are equal, and numbers in no order**: 2^53 and the next number are
rounded alike, and ten to the power of 309 is not greater than one. -/
theorem digits_confused :
    let env : Surroundings := ⟨.default, .still⟩
    let great := String.ofList ('1' :: List.replicate 309 '0')
    (IsDigits "9007199254740992" ∧ IsDigits "9007199254740993"
        ∧ denoted "9007199254740992" < denoted "9007199254740993"
        ∧ Operator.equals.answer? env (.text "9007199254740992") (.text "9007199254740993")
          = some (.ok true)
        ∧ Operator.lessThan.answer? env (.text "9007199254740992") (.text "9007199254740993")
          = some (.ok false))
      ∧ IsDigits great ∧ denoted "1" < denoted great
        ∧ Operator.greaterThan.answer? env (.text great) (.text "1")
          = some (.error (.notNumeric .greaterThan .context "string" great)) := by
  intro env great
  have hs : IsDigits "9007199254740992" := by decide +kernel
  have ht : IsDigits "9007199254740993" := by decide +kernel
  have hgreat : IsDigits great := isDigits_ofList (by decide) (by decide +kernel)
  have hone : IsDigits "1" := by decide +kernel
  have hm : denoted "9007199254740992" < wholeBound := by decide +kernel
  have hn : denoted "9007199254740993" < wholeBound := by decide +kernel
  have hbeyond : wholeBound ≤ denoted great := by
    rw [denoted_ofList]
    decide +kernel
  have halike : nearestWhole (denoted "9007199254740992")
      = nearestWhole (denoted "9007199254740993") := by decide +kernel
  obtain ⟨hequal, -, hless⟩ := compared_within env hs ht hm hn
  rw [halike, decide_eq_true rfl] at hequal
  rw [halike, decide_eq_false (Nat.lt_irrefl _)] at hless
  have hrefused := (compared_beyond env hgreat hone (.inl hbeyond)).2 .greaterThan rfl
  rw [if_pos hbeyond] at hrefused
  have hless' : denoted "1" < wholeBound := by decide +kernel
  exact ⟨⟨hs, ht, by decide +kernel, hequal, hless⟩, hgreat, Nat.lt_of_lt_of_le hless' hbeyond,
    hrefused⟩

end Governance
