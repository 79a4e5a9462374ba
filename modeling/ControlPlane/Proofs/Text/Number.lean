/-
This file proves that numbers are read as they are written, and which texts are
read as a decimal number. The digits of a number are read back in any radix of at
most sixteen. A decimal number may also have a plus sign and zeros in front, so
many texts are read as the same number, but each of them consists of digits alone
otherwise, and these have the value that is read.
-/

import ControlPlane.Text.Blank
import ControlPlane.Text.Number

namespace ControlPlane.Text

/-! ### Single digits -/

theorem le_iff_toNat_le {first second : Char} : first ≤ second ↔ first.toNat ≤ second.toNat :=
  UInt32.le_iff_toNat_le

/-- The digits of a radix are letters of these three ranges. -/
theorem range_of_digitValue? {radix digit : Nat} {letter : Char}
    (isDigit : digitValue? radix letter = some digit) :
    (48 ≤ letter.toNat ∧ letter.toNat ≤ 57 ∧ digit = letter.toNat - 48) ∨
      (97 ≤ letter.toNat ∧ letter.toNat ≤ 102 ∧ digit = letter.toNat - 97 + 10) ∨
      65 ≤ letter.toNat ∧ letter.toNat ≤ 70 ∧ digit = letter.toNat - 65 + 10 := by
  have value := (Option.filter_eq_some_iff.1 isDigit).1
  simp only [le_iff_toNat_le] at value
  split at value
  next small => exact Or.inl ⟨small.1, small.2, (Option.some.inj value).symm⟩
  next =>
    split at value
    next lower => exact Or.inr (Or.inl ⟨lower.1, lower.2, (Option.some.inj value).symm⟩)
    next =>
      split at value
      next upper => exact Or.inr (Or.inr ⟨upper.1, upper.2, (Option.some.inj value).symm⟩)
      next => cases value

/-- The digits of a radix are the hexadecimal digits with a value below it. -/
theorem digitValue?_eq_filter {radix : Nat} (atMost : radix ≤ 16) (letter : Char) :
    digitValue? radix letter = (digitValue? 16 letter).filter fun digit => digit < radix := by
  rw [digitValue?, digitValue?, Option.filter_filter]
  congr 1
  funext digit
  have within : digit < radix → digit < 16 := fun small => Nat.lt_of_lt_of_le small atMost
  by_cases small : digit < radix <;> simp [small, within]

theorem digitValue?_digitChar {radix digit : Nat} (atMost : radix ≤ 16) (small : digit < radix) :
    digitValue? radix digit.digitChar = some digit := by
  have hexadecimal : ∀ digit < 16, digitValue? 16 digit.digitChar = some digit := by
    decide +kernel
  rw [digitValue?_eq_filter atMost, hexadecimal digit (Nat.lt_of_lt_of_le small atMost)]
  exact Option.filter_some_pos (decide_eq_true small)

theorem isHexadecimal_of_isDecimal {letter : Char} (isDecimal : (digitValue? 10 letter).isSome) :
    (digitValue? 16 letter).isSome := by
  obtain ⟨digit, found⟩ := Option.isSome_iff_exists.1 isDecimal
  rw [digitValue?_eq_filter (by decide)] at found
  exact Option.isSome_iff_exists.2 ⟨digit, (Option.filter_eq_some_iff.1 found).1⟩

theorem digitValue?_ten_eq_some_iff {letter : Char} {digit : Nat} :
    digitValue? 10 letter = some digit ↔
      letter.isDigit = true ∧ letter.toNat - '0'.toNat = digit := by
  have isDigit_iff : letter.isDigit = true ↔ 48 ≤ letter.toNat ∧ letter.toNat ≤ 57 := by
    rw [Char.isDigit, Bool.and_eq_true, decide_eq_true_eq, decide_eq_true_eq]
    exact and_congr UInt32.le_iff_toNat_le UInt32.le_iff_toNat_le
  rw [isDigit_iff]
  constructor
  · intro isDigit
    have small := of_decide_eq_true (Option.filter_eq_some_iff.1 isDigit).2
    obtain ⟨least, most, value⟩ | ⟨_, _, value⟩ | ⟨_, _, value⟩ := range_of_digitValue? isDigit
    · exact ⟨⟨least, most⟩, value.symm⟩
    · omega
    · omega
  · rintro ⟨range, rfl⟩
    refine Option.filter_eq_some_iff.2 ⟨if_pos ?_, decide_eq_true ?_⟩
    · exact ⟨le_iff_toNat_le.2 range.1, le_iff_toNat_le.2 range.2⟩
    · show letter.toNat - 48 < 10
      omega

/-- No digit is a blank. -/
theorem isBlank_of_isDigit {radix : Nat} {letter : Char}
    (isDigit : (digitValue? radix letter).isSome) : isBlank letter = false := by
  obtain ⟨digit, found⟩ := Option.isSome_iff_exists.1 isDigit
  have range := range_of_digitValue? found
  simp only [isBlank, Bool.or_eq_false_iff, Bool.and_eq_false_iff, decide_eq_false_iff_not,
    beq_eq_false_iff_ne]
  omega

/-! ### Written numbers -/

theorem digitsValue?_append (radix start : Nat) (earlier later : List Char) :
    digitsValue? radix start (earlier ++ later) =
      (digitsValue? radix start earlier).bind fun value => digitsValue? radix value later := by
  induction earlier generalizing start with
  | nil => rfl
  | cons letter rest inductionHypothesis =>
    rw [List.cons_append, digitsValue?, digitsValue?]
    cases digitValue? radix letter with
    | none => rfl
    | some digit => exact inductionHypothesis _

theorem isDigit_of_digitsValue? {radix start value : Nat} {letters : List Char}
    (read : digitsValue? radix start letters = some value) :
    ∀ letter ∈ letters, (digitValue? radix letter).isSome := by
  induction letters generalizing start with
  | nil => exact nofun
  | cons letter rest inductionHypothesis =>
    rw [digitsValue?] at read
    split at read
    next digit isDigit =>
      exact List.forall_mem_cons.2 ⟨by rw [isDigit]; rfl, inductionHypothesis read⟩
    next => cases read

section Written

variable {radix : Nat} (least : 1 < radix) (atMost : radix ≤ 16)

include least atMost

theorem digitsValue?_toDigits (number : Nat) :
    digitsValue? radix 0 (Nat.toDigits radix number) = some number := by
  induction number using Nat.strongRecOn with
  | ind number inductionHypothesis =>
    rw [Nat.toDigits_eq_if least]
    split
    next small =>
      rw [digitsValue?, digitValue?_digitChar atMost small]
      exact congrArg some (by omega)
    next large =>
      have last : number % radix < radix := Nat.mod_lt _ (by omega)
      have shorter : number / radix < number := Nat.div_lt_self (by omega) least
      rw [digitsValue?_append, inductionHypothesis _ shorter, Option.bind_some, digitsValue?,
        digitValue?_digitChar atMost last]
      exact congrArg some (Nat.div_add_mod' number radix)

theorem unsignedValue?_toDigits (number : Nat) :
    unsignedValue? radix (Nat.toDigits radix number) = some number := by
  rw [unsignedValue?, if_neg, digitsValue?_toDigits least atMost]
  rw [List.isEmpty_iff]
  exact Nat.toDigits_ne_nil

theorem isDigit_of_mem_toDigits {number : Nat} {letter : Char}
    (member : letter ∈ Nat.toDigits radix number) : (digitValue? radix letter).isSome :=
  isDigit_of_digitsValue? (digitsValue?_toDigits least atMost number) letter member

/-- Only the digits of zero start with a zero. -/
theorem head?_toDigits_ne_zero {number : Nat} (positive : 0 < number) :
    (Nat.toDigits radix number).head? ≠ some '0' := by
  induction number using Nat.strongRecOn with
  | ind number inductionHypothesis =>
    rw [Nat.toDigits_eq_if least]
    split
    next small =>
      intro isZero
      have value := digitValue?_digitChar atMost small
      rw [Option.some.inj isZero] at value
      have isNone : digitValue? radix (0 : Nat).digitChar = some 0 :=
        digitValue?_digitChar atMost (by omega)
      have zeroChar : (0 : Nat).digitChar = '0' := rfl
      rw [← zeroChar, isNone] at value
      exact absurd (Option.some.inj value) (Nat.ne_of_lt positive)
    next large =>
      have shorter : number / radix < number := Nat.div_lt_self positive least
      have more : 0 < number / radix := Nat.div_pos (by omega) (by omega)
      rw [List.head?_append, Option.or_of_isSome]
      · exact inductionHypothesis _ shorter more
      · rw [List.isSome_head?]
        exact Nat.toDigits_ne_nil

end Written

/-! ### Decimal numbers -/

/-- A text of decimal digits with a value; a plus sign may stand in front. -/
def IsDecimal (letters : List Char) (value : Nat) : Prop :=
  ∃ digits, (letters = digits ∨ letters = '+' :: digits) ∧ digits ≠ [] ∧
    (∀ letter ∈ digits, letter.isDigit = true) ∧ Nat.ofDigitChars 10 digits 0 = value

theorem digitsValue?_ten_eq_some_iff {start value : Nat} {letters : List Char} :
    digitsValue? 10 start letters = some value ↔
      (∀ letter ∈ letters, letter.isDigit = true) ∧
        Nat.ofDigitChars 10 letters start = value := by
  induction letters generalizing start with
  | nil => simp [digitsValue?, Nat.ofDigitChars_nil]
  | cons letter rest inductionHypothesis =>
    rw [digitsValue?, Nat.ofDigitChars_cons, List.forall_mem_cons]
    cases read : digitValue? 10 letter with
    | none =>
      refine iff_of_false nofun fun known => ?_
      rw [digitValue?_ten_eq_some_iff.2 ⟨known.1.1, rfl⟩] at read
      cases read
    | some digit =>
      obtain ⟨isDigit, isValue⟩ := digitValue?_ten_eq_some_iff.1 read
      rw [isValue, Nat.mul_comm 10]
      exact inductionHypothesis.trans (and_congr_left fun _ => (and_iff_right isDigit).symm)

theorem unsignedValue?_ten_eq_some_iff {value : Nat} {letters : List Char} :
    unsignedValue? 10 letters = some value ↔
      letters ≠ [] ∧ (∀ letter ∈ letters, letter.isDigit = true) ∧
        Nat.ofDigitChars 10 letters 0 = value := by
  rw [unsignedValue?, ← digitsValue?_ten_eq_some_iff]
  cases letters <;> simp

/-- The texts that are read as a decimal number. -/
theorem decimalBelow?_eq_some_iff {bound value : Nat} {letters : List Char} :
    decimalBelow? bound letters = some value ↔ value < bound ∧ IsDecimal letters value := by
  unfold decimalBelow? IsDecimal
  dsimp only
  rw [Option.filter_eq_some_iff, and_comm, decide_eq_true_eq]
  refine and_congr_right fun _ => ?_
  split
  next rest =>
    -- a plus sign is no digit, so what comes after it are the digits
    rw [unsignedValue?_ten_eq_some_iff]
    constructor
    · exact fun known => ⟨rest, Or.inr rfl, known⟩
    · rintro ⟨digits, rfl | same, known⟩
      · cases known.2.1 '+' List.mem_cons_self
      · cases same
        exact known
  next noPlus =>
    rw [unsignedValue?_ten_eq_some_iff]
    constructor
    · exact fun known => ⟨letters, Or.inl rfl, known⟩
    · rintro ⟨digits, rfl | rfl, known⟩
      · exact known
      · exact absurd rfl (noPlus digits)

theorem isDecimal_decimalLetters (number : Nat) : IsDecimal (decimalLetters number) number :=
  ⟨Nat.toDigits 10 number, Or.inl rfl, Nat.toDigits_ne_nil,
    fun _ member => Nat.isDigit_of_mem_toDigits (by decide) (by decide) member,
    Nat.ofDigitChars_toDigits (by decide) (by decide)⟩

end ControlPlane.Text
