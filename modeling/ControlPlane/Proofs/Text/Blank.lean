/-
This file proves what it takes for a text to survive being cut. Pieces without a
separator come back when they are joined and split again, and a text is its own
trimmed form exactly if neither end has a blank to drop. What was cut out of a
text is such a piece itself: it has no separator, and a trimmed text is trimmed.
The words of a text are nonempty pieces without blanks, and such pieces are read
back as words when single blanks stand between them.
-/

import ControlPlane.Text.Blank

namespace ControlPlane.Text

/-! ### Splitting -/

theorem split_eq_splitOnP (separates : Char → Bool) (letters : List Char) :
    split separates letters = letters.splitOnP separates := by
  induction letters with
  | nil => rfl
  | cons letter rest inductionHypothesis =>
    rw [split, List.splitOnP_cons_eq_if_modifyHead, inductionHypothesis]
    split
    · rfl
    · cases found : rest.splitOnP separates with
      | nil => exact absurd found (List.splitOnP_ne_nil separates rest)
      | cons piece pieces => rfl

/-- Pieces that are joined by a letter that is in none of them can be told apart again. -/
theorem split_intercalate {separator : Char} {pieces : List (List Char)}
    (absent : ∀ piece ∈ pieces, separator ∉ piece) (some : pieces ≠ []) :
    split (· == separator) ([separator].intercalate pieces) = pieces := by
  rw [split_eq_splitOnP]
  exact List.splitOn_intercalate separator absent some

/-- The pieces of a text have none of the letters at which it was split. -/
theorem separates_of_mem_split {separates : Char → Bool} {letters piece : List Char}
    (member : piece ∈ split separates letters) {letter : Char} (inPiece : letter ∈ piece) :
    separates letter = false := by
  induction letters generalizing piece with
  | nil =>
    rw [List.mem_singleton.1 member] at inPiece
    cases inPiece
  | cons first rest inductionHypothesis =>
    rw [split] at member
    split at member
    · rcases List.mem_cons.1 member with rfl | later
      · cases inPiece
      · exact inductionHypothesis later inPiece
    next keeps =>
      split at member
      · obtain rfl := List.mem_singleton.1 member
        exact List.mem_singleton.1 inPiece ▸ Bool.eq_false_iff.2 keeps
      next head tail parts =>
        rcases List.mem_cons.1 member with rfl | later
        · rcases List.mem_cons.1 inPiece with rfl | inHead
          · exact Bool.eq_false_iff.2 keeps
          · exact inductionHypothesis (parts ▸ List.mem_cons_self) inHead
        · exact inductionHypothesis (parts ▸ List.mem_cons_of_mem head later) inPiece

theorem splitAtFirst?_append {separator : Char} {before : List Char} (absent : separator ∉ before)
    (after : List Char) :
    splitAtFirst? separator (before ++ separator :: after) = some (before, after) := by
  induction before with
  | nil => exact if_pos rfl
  | cons letter rest inductionHypothesis =>
    have differs : letter ≠ separator := fun same => absent (same ▸ List.mem_cons_self)
    rw [List.cons_append, splitAtFirst?, if_neg differs,
      inductionHypothesis fun inRest => absent (List.mem_cons_of_mem _ inRest)]
    rfl

theorem eq_append_of_splitAtFirst? {separator : Char} {letters before after : List Char}
    (found : splitAtFirst? separator letters = some (before, after)) :
    letters = before ++ separator :: after ∧ separator ∉ before := by
  induction letters generalizing before with
  | nil => cases found
  | cons letter rest inductionHypothesis =>
    rw [splitAtFirst?] at found
    split at found
    next same =>
      cases found
      exact ⟨by rw [same, List.nil_append], List.not_mem_nil⟩
    next differs =>
      obtain ⟨⟨earlier, _⟩, foundLater, same⟩ := Option.map_eq_some_iff.1 found
      cases same
      obtain ⟨rfl, absent⟩ := inductionHypothesis foundLater
      refine ⟨rfl, fun member => ?_⟩
      rcases List.mem_cons.1 member with isFirst | later
      · exact differs isFirst.symm
      · exact absent later

/-! ### Trimming -/

/-- There is no blank to drop exactly if the first letter is none. -/
theorem dropBlanks_eq_self_iff {letters : List Char} :
    dropBlanks letters = letters ↔ ∀ letter ∈ letters.head?, isBlank letter = false := by
  cases letters with
  | nil => simp [dropBlanks]
  | cons letter rest =>
    cases blank : isBlank letter with
    | false => simp [dropBlanks, blank]
    | true =>
      have shorter := (List.dropWhile_suffix isBlank (l := rest)).length_le
      refine iff_of_false (fun same => ?_) (by simp [blank])
      rw [dropBlanks, List.dropWhile_cons_of_pos blank] at same
      rw [same, List.length_cons] at shorter
      omega

theorem head?_dropBlanks (letters : List Char) :
    ∀ letter ∈ (dropBlanks letters).head?, isBlank letter = false := by
  intro letter isHead
  have isInk := List.head?_dropWhile_not isBlank letters
  rw [← dropBlanks, Option.mem_def.1 isHead] at isInk
  exact isInk

theorem dropBlanks_dropBlanks (letters : List Char) :
    dropBlanks (dropBlanks letters) = dropBlanks letters :=
  dropBlanks_eq_self_iff.2 (head?_dropBlanks letters)

/-- To trim a text changes nothing exactly if there is no blank to drop at either end. -/
theorem trim_eq_self_iff {letters : List Char} :
    trim letters = letters ↔
      dropBlanks letters = letters ∧ dropBlanks letters.reverse = letters.reverse := by
  constructor
  · intro trimmed
    -- Dropping can only shorten, so if the outcome is as long as the text then nothing was dropped.
    have atEnd : (dropBlanks (dropBlanks letters).reverse).length ≤
        (dropBlanks letters).length := by
      have bound := (List.dropWhile_suffix isBlank (l := (dropBlanks letters).reverse)).length_le
      rwa [List.length_reverse] at bound
    have whole : (dropBlanks (dropBlanks letters).reverse).length = letters.length := by
      have lengths := congrArg List.length trimmed
      rwa [trim, List.length_reverse] at lengths
    have atStart : dropBlanks letters = letters :=
      (List.dropWhile_suffix isBlank).eq_of_length
        (Nat.le_antisymm (List.dropWhile_suffix isBlank).length_le (whole ▸ atEnd))
    refine ⟨atStart, ?_⟩
    rw [trim, atStart] at trimmed
    rw [← List.reverse_reverse (dropBlanks letters.reverse), trimmed]
  · rintro ⟨atStart, atEnd⟩
    rw [trim, atStart, atEnd, List.reverse_reverse]

/-- A text has no blank at its start if it continues one that has none. -/
theorem dropBlanks_append {before after : List Char} (atStart : dropBlanks before = before)
    (afterStart : before = [] → dropBlanks after = after) :
    dropBlanks (before ++ after) = before ++ after := by
  cases before with
  | nil => exact afterStart rfl
  | cons letter rest =>
    exact dropBlanks_eq_self_iff.2 fun _ isHead => dropBlanks_eq_self_iff.1 atStart _ isHead

theorem mem_of_mem_trim {letters : List Char} {letter : Char} (member : letter ∈ trim letters) :
    letter ∈ letters := by
  have inReverse := (List.dropWhile_suffix isBlank).subset (List.mem_reverse.1 member)
  exact (List.dropWhile_suffix isBlank).subset (List.mem_reverse.1 inReverse)

/-- A trimmed text is trimmed. -/
theorem trim_trim (letters : List Char) : trim (trim letters) = trim letters := by
  refine trim_eq_self_iff.2 ⟨?_, ?_⟩
  · -- what is left at the end is a start of what was left at the start
    obtain ⟨dropped, whole⟩ := List.dropWhile_suffix isBlank (l := (dropBlanks letters).reverse)
    have starts : dropBlanks letters = trim letters ++ dropped.reverse := by
      rw [← List.reverse_reverse (dropBlanks letters), ← whole, List.reverse_append]
      rfl
    refine dropBlanks_eq_self_iff.2 fun letter isHead => head?_dropBlanks letters letter ?_
    rw [starts, List.head?_append, Option.mem_def.1 isHead]
    rfl
  · rw [trim, List.reverse_reverse, dropBlanks_dropBlanks]

/-! ### Words -/

/-- A nonempty text without blanks. -/
structure IsWord (letters : List Char) : Prop where
  nonempty : letters ≠ []
  noBlank : ∀ letter ∈ letters, isBlank letter = false

theorem isWord_of_mem_words {letters word : List Char} (member : word ∈ words letters) :
    IsWord word := by
  obtain ⟨isPiece, nonempty⟩ := List.mem_filter.1 member
  refine ⟨fun isEmpty => ?_, fun _ inWord => separates_of_mem_split isPiece inWord⟩
  rw [isEmpty] at nonempty
  cases nonempty

section Words

variable {word : List Char}

theorem words_of_isWord (isWord : IsWord word) : words word = [word] := by
  have whole : split isBlank word = [word] := by
    rw [split_eq_splitOnP]
    exact List.splitOnP_eq_singleton fun letter member => by simp [isWord.noBlank letter member]
  rw [words, whole]
  exact List.filter_cons_of_pos (by simp [isWord.nonempty])

/-- The first word of a text ends at the first blank. -/
theorem words_append_blank (isWord : IsWord word) (rest : List Char) :
    words (word ++ ' ' :: rest) = word :: words rest := by
  have parts : split isBlank (word ++ ' ' :: rest) = word :: split isBlank rest := by
    rw [split_eq_splitOnP, split_eq_splitOnP]
    exact List.splitOnP_append_cons_of_forall_mem
      (fun letter member => by simp [isWord.noBlank letter member]) ' ' (by decide) rest
  rw [words, parts]
  exact List.filter_cons_of_pos (by simp [isWord.nonempty])

theorem trim_of_isWord (isWord : IsWord word) : trim word = word := by
  refine trim_eq_self_iff.2 ⟨?_, ?_⟩ <;>
    refine dropBlanks_eq_self_iff.2 fun letter isHead => isWord.noBlank letter ?_
  · exact List.mem_of_mem_head? isHead
  · exact List.mem_reverse.1 (List.mem_of_mem_head? isHead)

end Words

end ControlPlane.Text
