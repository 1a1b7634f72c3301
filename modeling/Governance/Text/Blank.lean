import Governance.Text.Ranges

/-!
# Blank characters

The characters that count as white space in every script, and the text that is left when they are
taken off both ends. Two facts: trimming leaves no blank at either end, and trimming twice is
trimming once.
-/

namespace Governance.Text

/-- White space of every script. -/
def blanks : Ranges :=
  [(0x9, 0xd), (0x20, 0x20), (0x85, 0x85), (0xa0, 0xa0), (0x1680, 0x1680), (0x2000, 0x200a),
   (0x2028, 0x2029), (0x202f, 0x202f), (0x205f, 0x205f), (0x3000, 0x3000)]

def isBlank (c : Char) : Bool := blanks.has c.toNat

/-- The characters of `cs` without the blanks at their start (`isBlank`). -/
def trimStartChars (cs : List Char) : List Char := cs.dropWhile isBlank

/-- The characters of `cs` without the blanks at their end. -/
def trimEndChars (cs : List Char) : List Char := (cs.reverse.dropWhile isBlank).reverse

def trimChars (cs : List Char) : List Char := trimEndChars (trimStartChars cs)

/-- The text `s` without the blanks at its two ends. -/
def trim (s : String) : String := String.ofList (trimChars s.toList)

/-- Whether nothing but blanks stands in `s`. -/
def isAllBlank (s : String) : Bool := s.toList.all isBlank

theorem toList_trim (s : String) : (trim s).toList = trimChars s.toList := by
  simp [trim]

theorem dropWhile_eq_nil {p : Char → Bool} {cs : List Char} :
    cs.dropWhile p = [] ↔ cs.all p = true := by
  induction cs with
  | nil => simp
  | cons c cs ih => by_cases h : p c <;> simp [List.dropWhile, h, ih]

theorem trimEndChars_eq_nil {cs : List Char} : trimEndChars cs = [] ↔ cs.all isBlank = true := by
  simp only [trimEndChars, List.reverse_eq_nil_iff, dropWhile_eq_nil, List.all_reverse]

theorem all_dropWhile {p : Char → Bool} {cs : List Char} (h : (cs.dropWhile p).all p = true) :
    cs.all p = true := by
  induction cs with
  | nil => rfl
  | cons c cs ih =>
    by_cases hc : p c
    · simp only [List.dropWhile, hc] at h
      simp [hc, ih h]
    · simp [List.dropWhile, hc] at h

/-- `trimChars` leaves nothing exactly when all characters are blank. -/
theorem trimChars_eq_nil {cs : List Char} : trimChars cs = [] ↔ cs.all isBlank = true := by
  constructor
  · intro h
    exact all_dropWhile (trimEndChars_eq_nil.1 h)
  · intro h
    have : cs.dropWhile isBlank = [] := dropWhile_eq_nil.2 h
    simp [trimChars, trimStartChars, this, trimEndChars]

theorem trim_isEmpty (s : String) : (trim s).isEmpty = isAllBlank s := by
  rw [Bool.eq_iff_iff, String.isEmpty_iff, ← String.toList_eq_nil_iff, toList_trim,
    trimChars_eq_nil]
  rfl

/-- `dropWhile` takes off all there are at once. -/
theorem dropWhile_dropWhile (p : Char → Bool) (cs : List Char) :
    (cs.dropWhile p).dropWhile p = cs.dropWhile p := by
  induction cs with
  | nil => rfl
  | cons c cs ih =>
    by_cases h : p c
    · simpa [List.dropWhile, h] using ih
    · simp [List.dropWhile, h]

theorem trimEndChars_trimEndChars (cs : List Char) :
    trimEndChars (trimEndChars cs) = trimEndChars cs := by
  rw [trimEndChars, trimEndChars, List.reverse_reverse, dropWhile_dropWhile]

/-- No blank is left at the start, for `trimEndChars` keeps the first character that is none. -/
theorem trimStartChars_trimChars (cs : List Char) :
    trimStartChars (trimChars cs) = trimChars cs := by
  unfold trimChars
  cases hstart : trimStartChars cs with
  | nil => rfl
  | cons c rest =>
    have hc : isBlank c = false := by
      have hdrop : cs.dropWhile isBlank = c :: rest := hstart
      simpa [hdrop] using List.head?_dropWhile_not isBlank cs
    have hkept : trimEndChars (c :: rest) = c :: trimEndChars rest := by
      simp [trimEndChars, List.dropWhile_append, hc]
    rw [hkept]
    simp [trimStartChars, hc]

/-- `trimChars` twice is `trimChars` once. -/
theorem trimChars_trimChars (cs : List Char) : trimChars (trimChars cs) = trimChars cs := by
  rw [trimChars, trimStartChars_trimChars, trimChars, trimEndChars_trimEndChars]

theorem trim_trim (s : String) : trim (trim s) = trim s := by
  rw [trim, toList_trim, trimChars_trimChars, trim]

/-- `trim` keeps whether a text is blank. -/
theorem isAllBlank_trim (s : String) : isAllBlank (trim s) = isAllBlank s := by
  rw [← trim_isEmpty, trim_trim, trim_isEmpty]

end Governance.Text
