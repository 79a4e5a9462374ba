/-
This file gives every key of the library its order. A key is written as a list
of numbers, its code, and two keys compare as their codes do, number by number.
No code begins another one, so the code of a pair is the code of its first part
followed by the code of its second part, and a value is known by its code. The
file ends with the sort of a list by code.

As all files stand on this one, it also fixes how powers and sums of numbers are
read. Other libraries bring instances of their own for them, which agree with
these but are different terms. With these instances first, an expression is the
same term in every module, whatever the module imports.
-/

namespace ControlPlane

/-! ### Numbers -/

/-- Powers of natural numbers. -/
@[default_instance 20000]
instance (priority := high) natPow : Pow Nat Nat :=
  instPowNat

/-- The zero from which sums of natural numbers start. -/
instance (priority := high) natZero : Zero Nat :=
  Zero.ofOfNat0

/-! ### Codes -/

/-- A type whose values are told apart and ordered by a list of numbers. The law says that a
code shows its own end: what follows it can be split off in one way only. -/
class OrderKey (Key : Type) where
  code : Key → List Nat
  split_code : ∀ {first second : Key} {rest rest' : List Nat},
    code first ++ rest = code second ++ rest' → first = second ∧ rest = rest'

namespace OrderKey

variable {Key : Type} [OrderKey Key]

theorem code_injective {first second : Key} (same : code first = code second) :
    first = second :=
  (split_code (congrArg (· ++ []) same)).1

/-- The order of keys is the lexicographic order of their codes. -/
def Before (first second : Key) : Prop :=
  code first < code second

instance (first second : Key) : Decidable (Before first second) :=
  inferInstanceAs (Decidable (code first < code second))

theorem not_before_self (key : Key) : ¬ Before key key :=
  List.lt_irrefl _

theorem Before.trans {first second third : Key} (left : Before first second)
    (right : Before second third) : Before first third :=
  List.lt_trans left right

theorem Before.asymm {first second : Key} (before : Before first second) :
    ¬ Before second first :=
  fun after => not_before_self first (before.trans after)

theorem Before.ne {first second : Key} (before : Before first second) : first ≠ second := by
  rintro rfl
  exact not_before_self _ before

/-- Two keys of which neither comes first are one key. -/
theorem eq_of_not_before {first second : Key} (notFirst : ¬ Before first second)
    (notSecond : ¬ Before second first) : first = second :=
  code_injective (List.le_antisymm notSecond notFirst)

theorem before_of_not_before_of_ne {first second : Key} (notFirst : ¬ Before first second)
    (different : first ≠ second) : Before second first :=
  Decidable.byContradiction fun notSecond => different (eq_of_not_before notFirst notSecond)

/-! ### Codes of numbers, texts, options and pairs -/

instance : OrderKey Nat where
  code number := [number]
  split_code same := by simpa using same

instance : OrderKey UInt8 where
  code word := [word.toNat]
  split_code same := by
    have parts := List.cons.inj same
    exact ⟨UInt8.toNat_inj.1 parts.1, parts.2⟩

instance : OrderKey UInt32 where
  code word := [word.toNat]
  split_code same := by
    have parts := List.cons.inj same
    exact ⟨UInt32.toNat_inj.1 parts.1, parts.2⟩

/-- The code of a text counts its characters from one and closes with a zero. -/
def textCode : List Char → List Nat
  | [] => [0]
  | letter :: letters => (letter.toNat + 1) :: textCode letters

theorem split_textCode {first second : List Char} {rest rest' : List Nat}
    (same : textCode first ++ rest = textCode second ++ rest') :
    first = second ∧ rest = rest' := by
  induction first generalizing second with
  | nil =>
    cases second with
    | nil => exact ⟨rfl, List.cons.inj same |>.2⟩
    | cons letter letters => simp [textCode] at same
  | cons letter letters inductionHypothesis =>
    cases second with
    | nil => simp [textCode] at same
    | cons letter' letters' =>
      simp only [textCode, List.cons_append, List.cons.injEq, Nat.add_right_cancel_iff] at same
      have tail := inductionHypothesis same.2
      exact ⟨by rw [Char.toNat_inj.1 same.1, tail.1], tail.2⟩

instance : OrderKey String where
  code text := textCode text.toList
  split_code same := by
    have parts := split_textCode same
    exact ⟨String.toList_inj.1 parts.1, parts.2⟩

instance {Value : Type} [OrderKey Value] : OrderKey (Option Value) where
  code
    | none => [0]
    | some value => 1 :: code value
  split_code {first second rest rest'} same := by
    cases first <;> cases second <;> simp at same
    · exact ⟨rfl, same⟩
    · have parts := split_code same
      exact ⟨by rw [parts.1], parts.2⟩

instance {Left Right : Type} [OrderKey Left] [OrderKey Right] : OrderKey (Left × Right) where
  code pair := code pair.1 ++ code pair.2
  split_code {first second rest rest'} same := by
    rw [List.append_assoc, List.append_assoc] at same
    have left := split_code same
    have right := split_code left.2
    exact ⟨Prod.ext left.1 right.1, right.2⟩

/-! ### Sorting by code -/

/-- Puts a key in front of the first listed key that it does not come after. -/
def insertOrdered (key : Key) : List Key → List Key
  | [] => [key]
  | head :: tail =>
    if Before head key then head :: insertOrdered key tail else key :: head :: tail

/-- The listed keys in ascending order, repetitions kept. -/
def sort : List Key → List Key
  | [] => []
  | key :: keys => insertOrdered key (sort keys)

theorem insertOrdered_perm (key : Key) (keys : List Key) :
    (insertOrdered key keys).Perm (key :: keys) := by
  induction keys with
  | nil => exact List.Perm.refl _
  | cons head tail inductionHypothesis =>
    simp only [insertOrdered]
    split
    · exact (inductionHypothesis.cons head).trans (List.Perm.swap key head tail)
    · exact List.Perm.refl _

theorem sort_perm (keys : List Key) : (sort keys).Perm keys := by
  induction keys with
  | nil => exact List.Perm.refl _
  | cons key keys inductionHypothesis =>
    exact (insertOrdered_perm key (sort keys)).trans (inductionHypothesis.cons key)

end OrderKey

end ControlPlane
