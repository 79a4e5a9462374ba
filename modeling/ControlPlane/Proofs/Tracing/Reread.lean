/-
This file proves that a tracing configuration that was read is read again from the
text that it is written as. Reading leaves no freedom in what it answers: the
tags have no separator and no blank at their ends, since the text was cut and
trimmed before they were taken from it, no tag is listed twice, since a repeated
one is merged into its first place, and none is the one for the default level,
which is taken out. These are exactly the configurations whose text is read back
as it is: nothing of them is cut, trimmed, merged or taken out once more.
-/

import ControlPlane.Config.Tracing
import ControlPlane.Proofs.Tracing.Level
import Mathlib.Data.List.Nodup

namespace ControlPlane.Tracing

open Text

namespace TagLevels

/-! ### What reading answers -/

theorem comma_notMem_of_mem_items {text : String} {item : List Char}
    (member : item ∈ items text) : ',' ∉ item := by
  intro hasComma
  obtain ⟨piece, isPiece, rfl⟩ := List.mem_map.1 (List.mem_filter.1 member).1
  cases separates_of_mem_split isPiece (mem_of_mem_trim hasComma)

/-- The tag of an item that could be read can be written. -/
theorem isPlainTag_of_readItem {item : List Char} (isPiece : ',' ∉ item) {tag : String}
    {level : Level} (read : readItem item = .ok (tag, level)) : IsPlainTag tag := by
  unfold readItem at read
  split at read
  next => cases read
  next before after found =>
    split at read
    next level known =>
      cases read
      obtain ⟨rfl, noEquals⟩ := eq_append_of_splitAtFirst? found
      refine ⟨fun comma => ?_, fun equals => ?_, ?_⟩
      · rw [String.toList_ofList] at comma
        exact isPiece (List.mem_append_left _ (mem_of_mem_trim comma))
      · rw [String.toList_ofList] at equals
        exact noEquals (mem_of_mem_trim equals)
      · rw [String.toList_ofList, trim_trim]
    next => cases read

/-- Items are read by assigning levels to tags that can be written. -/
theorem exists_assignAll_of_readItems {pieces : List (List Char)}
    (arePieces : ∀ item ∈ pieces, ',' ∉ item) {levels result : TagLevels}
    (read : readItems levels pieces = .ok result) :
    ∃ entries : TagLevels, (∀ entry ∈ entries, IsPlainTag entry.1) ∧
      result = levels.assignAll entries := by
  induction pieces generalizing levels with
  | nil =>
    cases read
    exact ⟨[], nofun, rfl⟩
  | cons item rest inductionHypothesis =>
    rw [readItems] at read
    split at read
    next tag level readFirst =>
      have isPlain := isPlainTag_of_readItem (arePieces item List.mem_cons_self) readFirst
      obtain ⟨entries, arePlain, rfl⟩ := inductionHypothesis
        (fun later member => arePieces later (List.mem_cons_of_mem _ member)) read
      exact ⟨(tag, level) :: entries, List.forall_mem_cons.2 ⟨isPlain, arePlain⟩, rfl⟩
    next => cases read

theorem nodup_assign {levels : TagLevels} (apart : (levels.map Prod.fst).Nodup) (tag : String)
    (level : Level) : ((levels.assign tag level).map Prod.fst).Nodup := by
  induction levels with
  | nil => exact List.nodup_singleton tag
  | cons entry rest inductionHypothesis =>
    rw [List.map_cons, List.nodup_cons] at apart
    unfold assign
    split
    next here => exact List.nodup_cons.2 ⟨here ▸ apart.1, apart.2⟩
    next elsewhere =>
      refine List.nodup_cons.2 ⟨fun listed => ?_, inductionHypothesis apart.2⟩
      rcases (keys_assign tag level rest entry.1).1 listed with isTag | inRest
      · exact elsewhere isTag
      · exact apart.1 inRest

theorem nodup_assignAll {levels : TagLevels} (apart : (levels.map Prod.fst).Nodup)
    (entries : TagLevels) : ((levels.assignAll entries).map Prod.fst).Nodup :=
  List.foldlRecOn (motive := fun levels : TagLevels => (levels.map Prod.fst).Nodup) entries _ apart
    fun _ isApart entry _ => nodup_assign isApart entry.1 entry.2

/-- The tags of a list that was read can be written, and none is listed twice. -/
theorem isPlain_of_ofText {text : String} {levels : TagLevels} (read : ofText text = .ok levels) :
    (∀ entry ∈ levels, IsPlainTag entry.1) ∧ (levels.map Prod.fst).Nodup := by
  obtain ⟨entries, arePlain, rfl⟩ :=
    exists_assignAll_of_readItems (fun _ => comma_notMem_of_mem_items) read
  have noneListed : (([] : TagLevels).map Prod.fst).Nodup := List.nodup_nil
  refine ⟨fun entry listed => ?_, nodup_assignAll noneListed entries⟩
  exact arePlain entry ((mem_of_mem_assignAll listed).resolve_left List.not_mem_nil)

end TagLevels

end ControlPlane.Tracing

namespace ControlPlane.TracingConfig

open Tracing

variable {config : TracingConfig}

/-! ### Configurations -/

/-- The tags can be written, none is listed twice, and none stands for the default level. -/
structure IsWritable (config : TracingConfig) : Prop where
  plain : ∀ entry ∈ config.tags, IsPlainTag entry.1 ∧ entry.1 ≠ "default"
  apart : (config.tags.map Prod.fst).Nodup

/-- A configuration that was read can be written. -/
theorem isWritable_of_ofText {text : String} (read : ofText text = .ok config) :
    config.IsWritable := by
  unfold ofText at read
  split at read
  next levels readLevels =>
    cases read
    obtain ⟨arePlain, apart⟩ := TagLevels.isPlain_of_ofText readLevels
    refine ⟨fun entry member => ?_, apart.sublist (List.filter_sublist.map Prod.fst)⟩
    obtain ⟨listed, notDefault⟩ := List.mem_filter.1 member
    exact ⟨arePlain entry listed, of_decide_eq_true notDefault⟩
  next => cases read

/-- A configuration that can be written is read as it was written. -/
theorem ofText_text (isWritable : config.IsWritable) : ofText config.text = .ok config := by
  obtain ⟨level, tags⟩ := config
  have notListed : ∀ entry ∈ tags, entry.1 ≠ "default" := fun entry member =>
    (isWritable.plain entry member).2
  have arePlain : ∀ entry ∈ ("default", level) :: tags, IsPlainTag entry.1 := by
    refine List.forall_mem_cons.2 ⟨?_, fun entry member => (isWritable.plain entry member).1⟩
    show IsPlainTag "default"
    decide +kernel
  have apart : ((("default", level) :: tags).map Prod.fst).Nodup := by
    refine List.nodup_cons.2 ⟨fun listed => ?_, isWritable.apart⟩
    obtain ⟨entry, member, isDefault⟩ := List.mem_map.1 listed
    exact notListed entry member isDefault
  have readLevels : TagLevels.ofText (text ⟨level, tags⟩) = .ok (("default", level) :: tags) :=
    (TagLevels.ofText_intercalate arePlain).trans
      (congrArg Except.ok (TagLevels.assignAll_of_nodup apart))
  have others : TagLevels.without (("default", level) :: tags) "default" = tags := by
    refine (List.filter_cons_of_neg (by simp)).trans (List.filter_eq_self.2 fun entry member => ?_)
    exact decide_eq_true (notListed entry member)
  have ownLevel : TagLevels.levelOf? (("default", level) :: tags) "default" = some level := by
    simp [TagLevels.levelOf?]
  rw [ofText, readLevels]
  dsimp only
  rw [others, ownLevel, Option.getD_some]

/-- A configuration that was read from any text comes back, with its tags in their order, when it
is written and read again. The configurations that can be read are those that can be written. -/
theorem ofText_text_of_ofText {text : String} (read : ofText text = .ok config) :
    ofText config.text = .ok config ∧ config.IsWritable :=
  ⟨ofText_text (isWritable_of_ofText read), isWritable_of_ofText read⟩

/-- Blanks, empty items, a repeated tag, numbers, mixed case, an empty tag and an empty level. -/
theorem ofText_text_of_looseText :
    let loose := "\t Rib = 5 ,, default=WARN , = ,a b=+02,\u00a0Rib=oFF,"
    let config : TracingConfig := ⟨.warn, [("Rib", .off), ("", .error), ("a b", .warn)]⟩
    ofText loose = .ok config ∧ config.text = "default=warn,Rib=off,=error,a b=warn" ∧
      ofText config.text = .ok config := by
  intro loose config
  have read : ofText loose = .ok config := by decide +kernel
  exact ⟨read, by decide +kernel, (ofText_text_of_ofText read).1⟩

end ControlPlane.TracingConfig
