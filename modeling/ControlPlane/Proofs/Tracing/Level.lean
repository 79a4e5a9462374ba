/-
This file proves that lists of levels are read as they are written. A tag can be
written if it has no comma, no equals sign and no blank at its ends; then the item
of the tag is one piece of the list and falls apart at the right place. A list that
repeats a tag is read with its repetitions merged, as if each item were assigned in
turn, and a list without repetitions is read as it is.
-/

import ControlPlane.Proofs.Text.Blank
import ControlPlane.Tracing.Level

namespace ControlPlane.Tracing

open Text

/-! ### Items -/

/-- A tag that can be written in front of a level. -/
def IsPlainTag (tag : String) : Prop :=
  ',' ∉ tag.toList ∧ '=' ∉ tag.toList ∧ trim tag.toList = tag.toList

instance (tag : String) : Decidable (IsPlainTag tag) :=
  inferInstanceAs (Decidable (_ ∧ _ ∧ _))

theorem Level.ofLetters?_name (level : Level) :
    ofLetters? (trim level.name.toList) = some level := by
  cases level <;> decide +kernel

theorem toList_itemText (tag : String) (level : Level) :
    (itemText tag level).toList = tag.toList ++ '=' :: level.name.toList := by
  simp [itemText]

theorem comma_notMem_itemText {tag : String} (plain : IsPlainTag tag) (level : Level) :
    ',' ∉ (itemText tag level).toList := by
  have inName : ',' ∉ level.name.toList := by cases level <;> decide
  rw [toList_itemText, List.mem_append, List.mem_cons]
  rintro (inTag | isEquals | inLevel)
  · exact plain.1 inTag
  · cases isEquals
  · exact inName inLevel

theorem trim_itemText {tag : String} (plain : IsPlainTag tag) (level : Level) :
    trim (itemText tag level).toList = (itemText tag level).toList := by
  have ends := trim_eq_self_iff.1 plain.2.2
  have nameEnds : dropBlanks level.name.toList.reverse = level.name.toList.reverse := by
    cases level <;> decide
  have named : level.name.toList.reverse ≠ [] := by cases level <;> decide
  rw [toList_itemText]
  refine trim_eq_self_iff.2 ⟨dropBlanks_append ends.1 fun _ => rfl, ?_⟩
  rw [List.reverse_append, List.reverse_cons, List.append_assoc]
  exact dropBlanks_append nameEnds fun none => absurd none named

theorem readItem_itemText {tag : String} (plain : IsPlainTag tag) (level : Level) :
    TagLevels.readItem (itemText tag level).toList = .ok (tag, level) := by
  rw [TagLevels.readItem, toList_itemText, splitAtFirst?_append plain.2.1]
  dsimp only
  rw [Level.ofLetters?_name]
  dsimp only
  rw [plain.2.2, String.ofList_toList]

namespace TagLevels

/-! ### Assignments -/

/-- The list after assigning the given levels in turn. -/
def assignAll (levels entries : TagLevels) : TagLevels :=
  entries.foldl (fun levels entry => assign entry.1 entry.2 levels) levels

theorem assignAll_cons (levels : TagLevels) (entry : String × Level) (rest : TagLevels) :
    levels.assignAll (entry :: rest) = (levels.assign entry.1 entry.2).assignAll rest :=
  rfl

theorem assign_of_fresh {tag : String} {level : Level} {levels : TagLevels}
    (fresh : tag ∉ levels.map Prod.fst) : levels.assign tag level = levels ++ [(tag, level)] := by
  induction levels with
  | nil => rfl
  | cons entry rest inductionHypothesis =>
    rw [List.map_cons, List.mem_cons, not_or] at fresh
    rw [assign, if_neg (Ne.symm fresh.1), inductionHypothesis fresh.2, List.cons_append]

theorem mem_of_mem_assign {tag : String} {level : Level} {levels : TagLevels}
    {entry : String × Level} (member : entry ∈ levels.assign tag level) :
    entry = (tag, level) ∨ entry ∈ levels := by
  induction levels with
  | nil => exact Or.inl (List.mem_singleton.1 member)
  | cons head rest inductionHypothesis =>
    unfold assign at member
    split at member
    · exact (List.mem_cons.1 member).imp id (List.mem_cons_of_mem head)
    · rcases List.mem_cons.1 member with rfl | inRest
      · exact Or.inr List.mem_cons_self
      · exact (inductionHypothesis inRest).imp id (List.mem_cons_of_mem head)

theorem keys_assign (tag : String) (level : Level) (levels : TagLevels) (other : String) :
    other ∈ (levels.assign tag level).map Prod.fst ↔
      other = tag ∨ other ∈ levels.map Prod.fst := by
  induction levels with
  | nil => simp [assign]
  | cons head rest inductionHypothesis =>
    unfold assign
    split
    next here => simp [here]
    next => rw [List.map_cons, List.mem_cons, inductionHypothesis, List.map_cons, List.mem_cons,
      or_left_comm]

/-- Assignments of other tags leave the first entry where it is. -/
theorem assignAll_cons_of_ne {first : String × Level} {entries : TagLevels}
    (others : ∀ entry ∈ entries, entry.1 ≠ first.1) (levels : TagLevels) :
    assignAll (first :: levels) entries = first :: levels.assignAll entries := by
  induction entries generalizing levels with
  | nil => rfl
  | cons entry rest inductionHypothesis =>
    rw [assignAll_cons, assign, if_neg (others entry List.mem_cons_self).symm, assignAll_cons]
    exact inductionHypothesis (fun later member => others later (List.mem_cons_of_mem _ member)) _

/-- Without repetitions every assignment adds an entry. -/
theorem assignAll_of_nodup {levels entries : TagLevels}
    (apart : ((levels ++ entries).map Prod.fst).Nodup) :
    levels.assignAll entries = levels ++ entries := by
  induction entries generalizing levels with
  | nil => exact (List.append_nil levels).symm
  | cons entry rest inductionHypothesis =>
    have fresh : entry.1 ∉ levels.map Prod.fst := by
      rw [List.map_append, List.map_cons] at apart
      exact fun inLevels =>
        (List.nodup_append.1 apart).2.2 entry.1 inLevels entry.1 List.mem_cons_self rfl
    rw [assignAll_cons, assign_of_fresh fresh, inductionHypothesis, List.append_assoc,
      List.singleton_append]
    rwa [List.append_assoc, List.singleton_append]

/-- What is listed after assignments was listed before or assigned. -/
theorem mem_of_mem_assignAll {levels entries : TagLevels} {entry : String × Level}
    (member : entry ∈ levels.assignAll entries) : entry ∈ levels ∨ entry ∈ entries := by
  induction entries generalizing levels with
  | nil => exact Or.inl member
  | cons first rest inductionHypothesis =>
    rcases inductionHypothesis member with assigned | inRest
    · rcases mem_of_mem_assign assigned with rfl | inLevels
      · exact Or.inr List.mem_cons_self
      · exact Or.inl inLevels
    · exact Or.inr (List.mem_cons_of_mem first inRest)

theorem keys_assignAll (levels entries : TagLevels) (tag : String) :
    tag ∈ (levels.assignAll entries).map Prod.fst ↔
      tag ∈ levels.map Prod.fst ∨ tag ∈ entries.map Prod.fst := by
  induction entries generalizing levels with
  | nil => exact (or_iff_left List.not_mem_nil).symm
  | cons first rest inductionHypothesis =>
    rw [assignAll_cons, inductionHypothesis, keys_assign, List.map_cons, List.mem_cons, or_assoc,
      or_left_comm]

/-! ### Lists -/

theorem readItems_map {entries : TagLevels} (plain : ∀ entry ∈ entries, IsPlainTag entry.1)
    (levels : TagLevels) :
    readItems levels (entries.map fun entry => (itemText entry.1 entry.2).toList) =
      .ok (levels.assignAll entries) := by
  induction entries generalizing levels with
  | nil => rfl
  | cons entry rest inductionHypothesis =>
    rw [List.map_cons, readItems, readItem_itemText (plain entry List.mem_cons_self)]
    exact inductionHypothesis (fun later member => plain later (List.mem_cons_of_mem _ member)) _

theorem items_intercalate {entries : TagLevels} (plain : ∀ entry ∈ entries, IsPlainTag entry.1) :
    items (String.intercalate "," (entries.map fun entry => itemText entry.1 entry.2)) =
      entries.map fun entry => (itemText entry.1 entry.2).toList := by
  cases entries with
  | nil => decide
  | cons first rest =>
    have pieces : (String.intercalate ","
        ((first :: rest).map fun entry => itemText entry.1 entry.2)).toList =
          [','].intercalate ((first :: rest).map fun entry =>
            (itemText entry.1 entry.2).toList) := by
      rw [String.toList_intercalate, List.map_map]
      rfl
    have absent : ∀ piece ∈ (first :: rest).map (fun entry => (itemText entry.1 entry.2).toList),
        ',' ∉ piece := by
      rw [List.forall_mem_map]
      exact fun entry member => comma_notMem_itemText (plain entry member) entry.2
    rw [items, pieces, split_intercalate absent (List.cons_ne_nil _ _), List.map_map]
    have trimmed : (first :: rest).map (trim ∘ fun entry => (itemText entry.1 entry.2).toList) =
        (first :: rest).map fun entry => (itemText entry.1 entry.2).toList :=
      List.map_congr_left fun entry member => trim_itemText (plain entry member) entry.2
    rw [trimmed, List.filter_eq_self, List.forall_mem_map]
    intro entry _
    simp [toList_itemText]

/-- A written list is read with its repetitions merged. -/
theorem ofText_intercalate {entries : TagLevels} (plain : ∀ entry ∈ entries, IsPlainTag entry.1) :
    ofText (String.intercalate "," (entries.map fun entry => itemText entry.1 entry.2)) =
      .ok (assignAll [] entries) := by
  rw [ofText, items_intercalate plain]
  exact readItems_map plain []

end TagLevels

end ControlPlane.Tracing
