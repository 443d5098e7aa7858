import Mathlib.Data.List.TakeWhile
import Mathlib.Algebra.Order.Ring.Nat

/-! # Decimal numerals

The number that a row of digits stands for, and the texts that are a whole signed numeral. Digits of
a fixed width stand in texts whose order is that of the numbers.
-/

namespace Decimal

def digitValue (c : Char) : Nat := c.toNat - '0'.toNat

/-- The number that the digits stand for, the highest first. -/
def value (digits : List Char) : Nat := digits.foldl (fun n c => 10 * n + digitValue c) 0

def isSpace (c : Char) : Bool := [' ', '\t', '\n', '\x0b', '\x0c', '\r'].contains c

/-- A text that is a decimal numeral from its first character to its last, with blanks in front. -/
inductive Numeral : List Char → Int → Prop
  | unsigned {blanks digits : List Char} (hBlanks : blanks.all isSpace) (hDigits : digits.all Char.isDigit)
      (hNonempty : digits ≠ []) : Numeral (blanks ++ digits) (value digits)
  | plus {blanks digits : List Char} (hBlanks : blanks.all isSpace) (hDigits : digits.all Char.isDigit)
      (hNonempty : digits ≠ []) : Numeral (blanks ++ '+' :: digits) (value digits)
  | minus {blanks digits : List Char} (hBlanks : blanks.all isSpace) (hDigits : digits.all Char.isDigit)
      (hNonempty : digits ≠ []) : Numeral (blanks ++ '-' :: digits) (-value digits)

/-- The number at the head of a text, with what stands behind it. -/
def digitsAt (text : List Char) : Option (Nat × List Char) :=
  if text.takeWhile Char.isDigit = [] then none
  else some (value (text.takeWhile Char.isDigit), text.dropWhile Char.isDigit)

/-- The longest signed number at the head of a text. -/
def signedAt (text : List Char) : Option (Int × List Char) :=
  match text with
  | '-' :: number => (digitsAt number).map fun found => (-(found.1 : Int), found.2)
  | '+' :: number => (digitsAt number).map fun found => ((found.1 : Int), found.2)
  | number => (digitsAt number).map fun found => ((found.1 : Int), found.2)

/-- The number at the head of a text, behind its blanks. -/
def leadingNumber (text : List Char) : Option (Int × List Char) := signedAt (text.dropWhile isSpace)

theorem digitsAt_append {digits rest : List Char} (hDigits : digits.all Char.isDigit)
    (hNonempty : digits ≠ []) (hRest : ∀ c ∈ rest.head?, c.isDigit = false) :
    digitsAt (digits ++ rest) = some (value digits, rest) := by
  have hAll : ∀ c ∈ digits, c.isDigit = true := List.all_eq_true.mp hDigits
  have hTake : rest.takeWhile Char.isDigit = [] := by
    cases rest with
    | nil => rfl
    | cons c rest => exact List.takeWhile_cons_of_neg (by simp [hRest c rfl])
  have hDrop : rest.dropWhile Char.isDigit = rest := by
    cases rest with
    | nil => rfl
    | cons c rest => exact List.dropWhile_cons_of_neg (by simp [hRest c rfl])
  rw [digitsAt, List.takeWhile_append_of_pos hAll, List.dropWhile_append_of_pos hAll, hTake, hDrop,
    List.append_nil, if_neg hNonempty]

theorem eq_of_digitsAt {text rest : List Char} {n : Nat} (h : digitsAt text = some (n, rest)) :
    ∃ digits : List Char, text = digits ++ rest ∧ digits.all Char.isDigit ∧ digits ≠ [] ∧
      n = value digits := by
  unfold digitsAt at h
  split at h
  · cases h
  · rename_i hNonempty
    simp only [Option.some.injEq, Prod.mk.injEq] at h
    refine ⟨text.takeWhile Char.isDigit, ?_, List.all_takeWhile, hNonempty, h.1.symm⟩
    rw [← h.2, List.takeWhile_append_dropWhile]

theorem leadingNumber_append {blanks text : List Char} (hBlanks : blanks.all isSpace)
    (hText : ∀ c ∈ text.head?, isSpace c = false) : leadingNumber (blanks ++ text) = signedAt text := by
  have hDrop : text.dropWhile isSpace = text := by
    cases text with
    | nil => rfl
    | cons c text => exact List.dropWhile_cons_of_neg (by simp [hText c rfl])
  rw [leadingNumber, List.dropWhile_append_of_pos (List.all_eq_true.mp hBlanks), hDrop]

theorem signedAt_digit {c : Char} (h : c.isDigit) (text : List Char) :
    signedAt (c :: text) = (digitsAt (c :: text)).map fun found => ((found.1 : Int), found.2) := by
  unfold signedAt
  split
  · rename_i hEq
    rw [(List.cons.inj hEq).1] at h
    exact absurd h (by decide)
  · rename_i hEq
    rw [(List.cons.inj hEq).1] at h
    exact absurd h (by decide)
  · rfl

theorem isSpace_of_isDigit {c : Char} (h : c.isDigit) : isSpace c = false := by
  unfold isSpace
  by_contra hSpace
  have hMem : c ∈ [' ', '\t', '\n', '\x0b', '\x0c', '\r'] :=
    List.contains_iff_mem.mp (by simpa only [Bool.not_eq_false] using hSpace)
  simp only [List.mem_cons, List.not_mem_nil, or_false] at hMem
  rcases hMem with rfl | rfl | rfl | rfl | rfl | rfl <;> exact absurd h (by decide)

/-- A numeral in front of something that is no digit is found whole. -/
theorem leadingNumber_of_numeral {text rest : List Char} {n : Int} (h : Numeral text n)
    (hRest : ∀ c ∈ rest.head?, c.isDigit = false) : leadingNumber (text ++ rest) = some (n, rest) := by
  cases h with
  | @unsigned blanks digits hBlanks hDigits hNonempty =>
    obtain ⟨c, tail, rfl⟩ := List.exists_cons_of_ne_nil hNonempty
    have hHead : c.isDigit = true := List.all_eq_true.mp hDigits c List.mem_cons_self
    have hFound := digitsAt_append hDigits hNonempty hRest
    rw [List.append_assoc, leadingNumber_append hBlanks, List.cons_append, signedAt_digit hHead,
      ← List.cons_append, hFound]
    · rfl
    · rintro _ ⟨⟩
      exact isSpace_of_isDigit hHead
  | @plus blanks digits hBlanks hDigits hNonempty =>
    rw [List.append_assoc, leadingNumber_append hBlanks]
    · show (digitsAt (digits ++ rest)).map _ = _
      rw [digitsAt_append hDigits hNonempty hRest]
      rfl
    · rintro _ ⟨⟩
      decide
  | @minus blanks digits hBlanks hDigits hNonempty =>
    rw [List.append_assoc, leadingNumber_append hBlanks]
    · show (digitsAt (digits ++ rest)).map _ = _
      rw [digitsAt_append hDigits hNonempty hRest]
      rfl
    · rintro _ ⟨⟩
      decide

theorem numeral_of_leadingNumber {text rest : List Char} {n : Int}
    (h : leadingNumber text = some (n, rest)) : ∃ numeral, text = numeral ++ rest ∧ Numeral numeral n := by
  have hText : text.takeWhile isSpace ++ text.dropWhile isSpace = text :=
    List.takeWhile_append_dropWhile
  have hBlanks : (text.takeWhile isSpace).all isSpace := List.all_takeWhile
  unfold leadingNumber signedAt at h
  split at h
  · rename_i number hNumber
    obtain ⟨⟨value, behind⟩, hFound, hEq⟩ := Option.map_eq_some_iff.mp h
    obtain ⟨rfl, rfl⟩ := Prod.mk.inj hEq
    obtain ⟨digits, rfl, hDigits, hNonempty, rfl⟩ := eq_of_digitsAt hFound
    refine ⟨_, ?_, .minus hBlanks hDigits hNonempty⟩
    rw [List.append_assoc, List.cons_append, ← hNumber, hText]
  · rename_i number hNumber
    obtain ⟨⟨value, behind⟩, hFound, hEq⟩ := Option.map_eq_some_iff.mp h
    obtain ⟨rfl, rfl⟩ := Prod.mk.inj hEq
    obtain ⟨digits, rfl, hDigits, hNonempty, rfl⟩ := eq_of_digitsAt hFound
    refine ⟨_, ?_, .plus hBlanks hDigits hNonempty⟩
    rw [List.append_assoc, List.cons_append, ← hNumber, hText]
  · obtain ⟨⟨value, behind⟩, hFound, hEq⟩ := Option.map_eq_some_iff.mp h
    obtain ⟨rfl, rfl⟩ := Prod.mk.inj hEq
    obtain ⟨digits, hNumber, hDigits, hNonempty, rfl⟩ := eq_of_digitsAt hFound
    refine ⟨_, ?_, .unsigned hBlanks hDigits hNonempty⟩
    rw [List.append_assoc, ← hNumber, hText]

/-- A text is a numeral exactly when nothing is left behind its number. -/
theorem leadingNumber_whole_iff {text : List Char} {n : Int} :
    leadingNumber text = some (n, []) ↔ Numeral text n := by
  constructor
  · intro h
    obtain ⟨numeral, rfl, hNumeral⟩ := numeral_of_leadingNumber h
    rwa [List.append_nil]
  · intro h
    have hWhole : leadingNumber (text ++ []) = some (n, []) := leadingNumber_of_numeral h (by simp)
    rwa [List.append_nil] at hWhole

/-! ## Digits of a fixed width -/

/-- The last digits of a number, with zeros in front where it has fewer. -/
def padded : Nat → Nat → List Char
  | 0, _ => []
  | width + 1, n => padded width (n / 10) ++ [Nat.digitChar (n % 10)]

@[simp] theorem length_padded (width n : Nat) : (padded width n).length = width := by
  induction width generalizing n with
  | zero => rfl
  | succ width ih => simp [padded, ih]

/-- The first digits are those of the number without the last ones. -/
theorem padded_add (width rest n : Nat) :
    padded (width + rest) n = padded width (n / 10 ^ rest) ++ padded rest n := by
  induction rest generalizing n with
  | zero => simp [padded]
  | succ rest ih =>
    rw [← Nat.add_assoc, padded, ih, padded, Nat.div_div_eq_div_mul, ← Nat.pow_succ', List.append_assoc]

theorem digitChar_lt_iff : ∀ m < 10, ∀ n < 10, (Nat.digitChar m < Nat.digitChar n ↔ m < n) := by
  decide

theorem digitChar_inj : ∀ m < 10, ∀ n < 10, (Nat.digitChar m = Nat.digitChar n ↔ m = n) := by
  decide

/-- Behind digits of the same width, texts are in the order of the numbers first. -/
theorem padded_append_lt_iff {width m n : Nat} (hM : m < 10 ^ width) (hN : n < 10 ^ width)
    (x y : List Char) : padded width m ++ x < padded width n ++ y ↔ m < n ∨ m = n ∧ x < y := by
  induction width generalizing m n x y with
  | zero =>
    have hZero : m = 0 ∧ n = 0 := by
      rw [Nat.pow_zero] at hM hN
      omega
    simp [padded, hZero]
  | succ width ih =>
    rw [Nat.pow_succ] at hM hN
    have hLastM : m % 10 < 10 := Nat.mod_lt _ (by omega)
    have hLastN : n % 10 < 10 := Nat.mod_lt _ (by omega)
    rw [padded, padded, List.append_assoc, List.append_assoc,
      ih (Nat.div_lt_of_lt_mul (by omega)) (Nat.div_lt_of_lt_mul (by omega)), List.singleton_append,
      List.singleton_append, List.cons_lt_cons_iff, digitChar_lt_iff _ hLastM _ hLastN,
      digitChar_inj _ hLastM _ hLastN]
    constructor
    · rintro (hFirst | ⟨hFirst, hLast | ⟨hLast, hRest⟩⟩)
      · exact .inl (by omega)
      · exact .inl (by omega)
      · exact .inr ⟨by omega, hRest⟩
    · rintro (hLess | ⟨rfl, hRest⟩)
      · by_cases hFirst : m / 10 = n / 10
        · exact .inr ⟨hFirst, .inl (by omega)⟩
        · exact .inl (by omega)
      · exact .inr ⟨rfl, .inr ⟨rfl, hRest⟩⟩

/-- A number without padding is padded to its own width. -/
theorem toDigits_eq_padded (n : Nat) : Nat.toDigits 10 n = padded (Nat.toDigits 10 n).length n := by
  induction n using Nat.strong_induction_on with
  | _ n ih =>
    by_cases hSmall : n < 10
    · rw [Nat.toDigits_of_lt_base hSmall]
      simp [padded, Nat.mod_eq_of_lt hSmall]
    · rw [Nat.toDigits_of_base_le (by decide) (by omega), List.length_append, List.length_singleton, padded,
        ← ih (n / 10) (by omega)]

end Decimal
