import Governance.Proofs.Time.Rendered

/-!
# What the readers of timestamps make of a fraction

The strict reader cuts a timestamp to whole seconds, and the lenient reader keeps its fraction and
its leap second. So the two agree on the second, and on the instant just when the text writes
neither. What the lenient reader takes can be told, so its documents tell it apart.

* `tellable_of_ofJson`: what a document says can be told.
* `nanos_eq_zero_iff`: which texts of the strict form write a whole second.
* `ofJson_of_read`: what the strict reader takes the lenient reader takes, to the same second.
* `toJson_inj`: timestamps that can be told are told apart by their documents.
-/

namespace Governance.Timestamp

open Time Number

/-! ### Fractions -/

section Fraction

variable {most n : Nat} {cs ds rest : List Char}

theorem digitsUpTo_eq_ok (h : digitsUpTo most cs = .ok (n, rest)) :
    ∃ ds, ds = (cs.take most).takeWhile isDigit ∧ cs = ds ++ rest ∧ n = valueOfChars ds := by
  simp only [digitsUpTo] at h
  split at h
  · exact absurd h (by simp)
  · split at h
    · exact absurd h (by simp)
    · obtain ⟨rfl, rfl⟩ := Prod.mk.inj (Except.ok.inj h)
      refine ⟨_, rfl, ?_, rfl⟩
      have hprefix : (cs.take most).takeWhile isDigit <+: cs :=
        (List.takeWhile_prefix _).trans (List.take_prefix _ _)
      exact (List.prefix_iff_eq_append.1 hprefix).symm

/-- A row of digits `ds` writes zero when all of them are. -/
theorem valueOfChars_eq_zero_iff (h : ∀ c ∈ ds, isDigit c = true) :
    valueOfChars ds = 0 ↔ ∀ c ∈ ds, c = '0' := by
  induction ds using List.reverseRecOn with
  | nil => exact ⟨fun _ => nofun, fun _ => rfl⟩
  | append_singleton ds d ih =>
    obtain ⟨hds, hd⟩ := List.forall_mem_append.1 h
    obtain ⟨n, -, hvalue, hchar⟩ := exists_digitValue (hd d List.mem_cons_self)
    have hzero : n = 0 ↔ d = '0' := by
      rw [← Char.toNat_inj, hchar]
      exact Nat.add_eq_right.symm
    rw [valueOfChars_snoc ds hvalue, List.forall_mem_append, List.forall_mem_singleton, ← ih hds,
      ← hzero]
    omega

/-- The digits of the fraction `cs` that count. -/
def countedDigits (cs : List Char) : List Char := (cs.take 9).takeWhile isDigit

theorem readFraction_eq_ok (h : readFraction cs = .ok (n, rest)) :
    n < perSecond ∧ (n = 0 ↔ ∀ c ∈ countedDigits cs, c = '0') := by
  obtain ⟨⟨m, rest'⟩, hdigits, h⟩ := bind_eq_ok_iff.1 h
  obtain ⟨rfl, -⟩ := Prod.mk.inj (Except.ok.inj h)
  obtain ⟨ds, hds, hsplit, rfl⟩ := digitsUpTo_eq_ok hdigits
  have hall : ∀ c ∈ ds, isDigit c = true := by
    rw [hds]
    exact List.all_eq_true.1 (List.all_takeWhile)
  have hlength : ds.length ≤ 9 := by
    rw [hds]
    exact (List.takeWhile_prefix _).length_le.trans (List.length_take_le _ _)
  have hused : cs.length - rest'.length = ds.length := by
    rw [hsplit, List.length_append, Nat.add_sub_cancel]
  have hwidth : 10 ^ ds.length * 10 ^ (9 - ds.length) = perSecond := by
    rw [← Nat.pow_add, Nat.add_sub_cancel' hlength]
    rfl
  have hpositive : 0 < 10 ^ (9 - ds.length) := Nat.pos_of_ne_zero (by simp)
  have hscale : Nat.pow 10 (9 - ds.length) = 10 ^ (9 - ds.length) := rfl
  rw [hused, hscale, ← hwidth]
  refine ⟨Nat.mul_lt_mul_of_pos_right (valueOfChars_lt hall) hpositive, ?_⟩
  rw [Nat.mul_eq_zero, or_iff_left (Nat.ne_of_gt hpositive), valueOfChars_eq_zero_iff hall, hds,
    countedDigits]

theorem fraction_eq_ok (h : fraction cs = .ok (n, rest)) :
    n < perSecond ∧ (n = 0 ↔ ∀ ds, cs = '.' :: ds → ∀ c ∈ countedDigits ds, c = '0') := by
  unfold fraction at h
  split at h
  · next ds =>
    obtain ⟨hlt, hzero⟩ := readFraction_eq_ok h
    refine ⟨hlt, hzero.trans ⟨fun hall ds' hds => ?_, fun hall => hall ds rfl⟩⟩
    obtain rfl := (List.cons.inj hds).2
    exact hall
  · next hnone =>
    obtain ⟨rfl, -⟩ := Prod.mk.inj (Except.ok.inj h)
    exact ⟨by decide, fun _ ds hds => absurd hds (hnone ds), fun _ => rfl⟩

end Fraction

/-! ### What the lenient reader takes can be told -/

section Minutes

variable {afterHours : List Char → Except Fault (List Char)} {zone rest : List Char} {offset : Int}

/-- An offset that `readOffset` reads is one of whole minutes. -/
theorem readOffset_minutes (h : readOffset afterHours zone = .ok (offset, rest)) :
    offset % 60 = 0 := by
  unfold readOffset at h
  split at h
  · obtain ⟨rfl, -⟩ := Prod.mk.inj (Except.ok.inj h)
    rfl
  · obtain ⟨rfl, -⟩ := Prod.mk.inj (Except.ok.inj h)
    rfl
  · obtain ⟨⟨negative, cs⟩, -, h⟩ := bind_eq_ok_iff.1 h
    dsimp only at h
    split at h
    · exact absurd h (by simp)
    split at h
    · exact absurd h (by simp)
    obtain ⟨cs', -, h⟩ := bind_eq_ok_iff.1 h
    split at h
    · exact absurd h (by simp)
    split at h
    · exact absurd h (by simp)
    split at h
    · exact absurd h (by simp)
    obtain ⟨rfl, -⟩ := Prod.mk.inj (Except.ok.inj h)
    split <;> omega

theorem looseOffset_minutes (h : looseOffset zone = .ok (offset, rest)) : offset % 60 = 0 := by
  simp only [looseOffset] at h
  split at h
  · obtain ⟨rfl, -⟩ := Prod.mk.inj (Except.ok.inj h)
    rfl
  · exact readOffset_minutes h

end Minutes

/-- Whole minutes off, a leap second stays in the last second of a minute, so what is settled is
`Tellable`. -/
theorem tellable_of_settle {p : Parts} {t : Timestamp} (hnanos : p.nanos < perSecond)
    (hminutes : p.offset % 60 = 0) (h : p.settle = .ok t) : t.Tellable := by
  obtain ⟨-, -, hrange, rfl⟩ := of_settle_eq_ok h
  refine ⟨hrange, ?_⟩
  by_cases hleap : p.second = 60
  · right
    rw [seconds_instant, nanos_instant, if_pos hleap, if_pos hleap]
    omega
  · left
    rw [nanos_instant, if_neg hleap]
    exact hnanos

theorem tellable_of_readLenientChars {cs : List Char} {t : Timestamp}
    (h : readLenientChars cs = .ok t) : t.Tellable := by
  unfold readLenientChars at h
  obtain ⟨year, -, h⟩ := bind_eq_ok_iff.1 h
  obtain ⟨_, -, h⟩ := bind_eq_ok_iff.1 h
  obtain ⟨month, -, h⟩ := bind_eq_ok_iff.1 h
  obtain ⟨_, -, h⟩ := bind_eq_ok_iff.1 h
  obtain ⟨day, -, h⟩ := bind_eq_ok_iff.1 h
  obtain ⟨_, -, h⟩ := bind_eq_ok_iff.1 h
  obtain ⟨hour, -, h⟩ := bind_eq_ok_iff.1 h
  obtain ⟨_, -, h⟩ := bind_eq_ok_iff.1 h
  obtain ⟨minute, -, h⟩ := bind_eq_ok_iff.1 h
  obtain ⟨_, -, h⟩ := bind_eq_ok_iff.1 h
  obtain ⟨second, -, h⟩ := bind_eq_ok_iff.1 h
  obtain ⟨nanos, hfraction, h⟩ := bind_eq_ok_iff.1 h
  obtain ⟨offset, hoffset, h⟩ := bind_eq_ok_iff.1 h
  obtain ⟨-, hsettle⟩ := guard_eq_ok_iff.1 h
  exact tellable_of_settle (fraction_eq_ok hfraction).1 (looseOffset_minutes hoffset) hsettle

theorem ofJson_text_eq_ok_iff {s : String} {t : Timestamp} :
    ofJson (.text s) = .ok t ↔ readLenientChars s.toList = .ok t := by
  simp only [ofJson]
  cases readLenientChars s.toList <;> simp

/-- **What a document says can be told**: `ofJson` gives what is `Tellable`. -/
theorem tellable_of_ofJson {j : Json} {t : Timestamp} (h : ofJson j = .ok t) : t.Tellable := by
  cases j with
  | text s => exact tellable_of_readLenientChars (ofJson_text_eq_ok_iff.1 h)
  | _ => exact absurd h (by simp [ofJson])

/-! ### Whole seconds -/

/-- The text `cs`, of the strict form, writes a whole second: no leap second, and no fraction but
one of zeros. -/
def WritesWhole (cs : List Char) : Prop :=
  (cs.drop 17).take 2 ≠ ['6', '0']
    ∧ ∀ ds, cs.drop 19 = '.' :: ds → ∀ c ∈ countedDigits ds, c = '0'

section Whole

variable {cs : List Char} {p : Parts} {t : Timestamp}

/-- In a text of `StrictForm` the seconds stand in their place, and a fraction follows. -/
theorem StrictForm.exists_seconds (h : StrictForm cs p) : ∃ tail zone,
    cs.drop 17 = padded 2 p.second ++ tail ∧ fraction tail = .ok (p.nanos, zone) := by
  obtain @⟨_, mark, tail, zone, hyear, hdate, htime, -, hfraction, -, -⟩ := h
  obtain ⟨⟨-, hmonth⟩, -, hday⟩ := Date.bounds_of_isValid hdate
  obtain ⟨hhour, hminute, -⟩ := of_decide_eq_true htime
  have hwidth {n : Nat} (hn : n < 10 ^ 2) : (padded 2 n).length = 2 := length_padded (by decide) hn
  have hfour : (yearChars p.date.year).length = 4 := by
    rw [yearChars, if_pos hyear, length_padded (by decide) (by omega)]
  have hsplit : p.written mark tail
      = (yearChars p.date.year ++ '-' :: padded 2 p.date.month ++ '-' :: padded 2 p.date.day
        ++ mark :: padded 2 p.hour ++ ':' :: padded 2 p.minute ++ [':'])
        ++ (padded 2 p.second ++ tail) := by
    simp only [Parts.written, List.append_assoc, List.cons_append, List.nil_append]
  refine ⟨tail, zone, ?_, hfraction⟩
  rw [hsplit]
  refine List.drop_left' ?_
  simp only [List.length_append, List.length_cons, List.length_nil, hfour]
  rw [hwidth (by omega), hwidth (by omega), hwidth (by omega), hwidth (by omega)]

/-- **What a text of the strict form writes is whole when the text says so**, by `WritesWhole`. -/
theorem nanos_eq_zero_iff (hform : StrictForm cs p) (h : p.settle = .ok t) :
    t.nanos = 0 ↔ WritesWhole cs := by
  obtain ⟨⟨-, htime⟩, -, -, rfl⟩ := of_settle_eq_ok h
  obtain ⟨tail, zone, hdrop, hfraction⟩ := hform.exists_seconds
  obtain ⟨-, -, hsecond⟩ := of_decide_eq_true htime
  have hwidth : (padded 2 p.second).length = 2 := length_padded (by decide) (by omega)
  have htake : (cs.drop 17).take 2 = padded 2 p.second := by
    rw [hdrop, List.take_left' hwidth]
  have htail : cs.drop 19 = tail := by
    rw [show 19 = 17 + 2 from rfl, ← List.drop_drop, hdrop, List.drop_left' hwidth]
  have hleap : padded 2 p.second = ['6', '0'] ↔ p.second = 60 := by
    refine ⟨fun hchars => ?_, fun h => h ▸ rfl⟩
    rw [← valueOfChars_padded 2 p.second, hchars]
    rfl
  have hpositive : perSecond ≠ 0 := by decide
  rw [WritesWhole, htake, htail, ← (fraction_eq_ok hfraction).2, Ne, hleap, nanos_instant,
    Nat.add_eq_zero_iff, and_comm]
  split <;> simp [*]

end Whole

/-- **What the strict reader takes the lenient reader takes, to the same second**: `ofJson` gives a
`u` of the second that `read` gives. -/
theorem ofJson_of_read {s : String} {t : Timestamp} (h : read s = .ok t) :
    ∃ u, ofJson (.text s) = .ok u ∧ u.truncate = t ∧ (u = t ↔ WritesWhole s.toList) := by
  obtain ⟨p, hform, u, hsettle, rfl⟩ := read_eq_ok_iff.1 h
  refine ⟨u, ofJson_text_eq_ok_iff.2 (hform.readLenientChars.trans hsettle), rfl, ?_⟩
  rw [← nanos_eq_zero_iff hform hsettle]
  exact ⟨fun hsame => congrArg nanos hsame, fun hwhole => congrArg (mk u.seconds) hwhole⟩

/-! ### Told apart -/

section Apart

variable {t u : Timestamp}

theorem order_eq_eq_iff : t.order u = .eq ↔ t = u := by
  obtain ⟨s, n⟩ := t
  obtain ⟨s', n'⟩ := u
  simp [order]

/-- **Timestamps that can be told are told apart by their documents**: `toJson` is injective on what
is `Tellable`. -/
theorem toJson_inj (ht : t.Tellable) (hu : u.Tellable) : t.toJson = u.toJson ↔ t = u := by
  refine ⟨fun h => ?_, congrArg toJson⟩
  exact Except.ok.inj ((ofJson_toJson ht).symm.trans (h ▸ ofJson_toJson hu))

/-- In `text` a leap second is told from the second before it, and no other fraction is. -/
theorem text_eq_iff_of_seconds_eq (h : t.seconds = u.seconds) :
    t.text = u.text ↔ t.nanos / perSecond = u.nanos / perSecond := by
  obtain ⟨seconds, n⟩ := t
  obtain ⟨_, n'⟩ := u
  obtain rfl : seconds = _ := h
  rw [text, text, String.ofList_inj, clockChars_append, clockChars_append]
  simp only [Parts.written, parts, List.append_cancel_left_eq, List.append_cancel_right_eq,
    List.cons.injEq, true_and]
  refine ⟨fun h => ?_, fun h => h ▸ rfl⟩
  have hvalue := congrArg valueOfChars h
  rw [valueOfChars_padded, valueOfChars_padded] at hvalue
  exact Nat.add_left_cancel hvalue

end Apart

end Governance.Timestamp
