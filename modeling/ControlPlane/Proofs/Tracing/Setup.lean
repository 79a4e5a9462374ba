/-
This file proves what a list of levels does to a table of targets. Levels are the
only thing that changes: which targets carry a tag is read off the index, which
stays as it is. So the entries of a list may be applied one after the other with
the same index, and of all entries that reach a target the last one counts.

A list that names an unknown tag is applied up to this tag. Since the general
entries come first wherever they stand, what such a list leaves behind is what the
entries in front of the tag and the general ones leave when they are listed alone.
-/

import ControlPlane.Tracing.Components

namespace ControlPlane.Tracing

/-! ### The last entry that counts -/

namespace TagLevels

/-- The level of the last entry with a tag that a test accepts. -/
def lastLevel? (levels : TagLevels) (accepts : String → Bool) : Option Level :=
  (levels.filter fun entry => accepts entry.1).getLast?.map Prod.snd

theorem lastLevel?_cons (entry : String × Level) (rest : TagLevels) (accepts : String → Bool) :
    lastLevel? (entry :: rest) accepts =
      (lastLevel? rest accepts).or (if accepts entry.1 then some entry.2 else none) := by
  unfold lastLevel?
  by_cases accepted : accepts entry.1
  · rw [List.filter_cons, if_pos accepted, if_pos accepted, List.getLast?_cons]
    cases (List.filter (fun entry => accepts entry.1) rest).getLast? <;> rfl
  · rw [List.filter_cons, if_neg accepted, if_neg accepted, Option.or_none]

theorem lastLevel?_filter (levels : TagLevels) (keeps accepts : String → Bool) :
    lastLevel? (levels.filter fun entry => keeps entry.1) accepts =
      levels.lastLevel? fun tag => accepts tag && keeps tag := by
  unfold lastLevel?
  rw [List.filter_filter]

theorem levelOf?_eq_lookup (levels : TagLevels) (tag : String) :
    levels.levelOf? tag = List.lookup tag levels := by
  induction levels with
  | nil => rfl
  | cons entry rest inductionHypothesis =>
    unfold levelOf? at inductionHypothesis ⊢
    rw [List.find?_cons, List.lookup_cons, ← inductionHypothesis]
    by_cases here : entry.1 = tag
    · simp [here]
    · simp [here, beq_false_of_ne (Ne.symm here)]

/-- The level of a tag is the same in a list that keeps the entries of this tag. -/
theorem levelOf?_filter {levels : TagLevels} {tag : String} {keeps : String → Bool}
    (kept : keeps tag = true) :
    levelOf? (levels.filter fun entry => keeps entry.1) tag = levels.levelOf? tag := by
  unfold levelOf?
  rw [List.find?_filter]
  congr 2
  funext entry
  by_cases here : entry.1 = tag
  · simp [here, kept]
  · simp [here]

end TagLevels

namespace TargetTable

variable {table : TargetTable} {levels earlier later : TagLevels} {tag : String} {level : Level}

/-! ### Levels are all that changes -/

/-- The table with new levels for its targets. -/
def relevelled (table : TargetTable) (level : Target → Level) : TargetTable :=
  { table with targets := table.targets.map fun target => { target with level := level target } }

@[simp]
theorem carries_relevelled (table : TargetTable) (level : Target → Level) (tag : String)
    (target : Target) : (table.relevelled level).carries tag target = table.carries tag target :=
  rfl

/-- Which tags reach a target does not depend on its level. -/
theorem carries_withLevel (table : TargetTable) (tag : String) (target : Target) (level : Level) :
    table.carries tag { target with level } = table.carries tag target :=
  rfl

theorem relevelled_relevelled (table : TargetTable) (first second : Target → Level) :
    (table.relevelled first).relevelled second =
      table.relevelled fun target => second { target with level := first target } := by
  unfold relevelled
  dsimp only
  rw [List.map_map]
  rfl

theorem relevelled_congr {first second : Target → Level}
    (same : ∀ target ∈ table.targets, first target = second target) :
    table.relevelled first = table.relevelled second := by
  unfold relevelled
  congr 1
  refine List.map_congr_left fun target listed => ?_
  rw [same target listed]

theorem relevelled_self (table : TargetTable) : table.relevelled Target.level = table := by
  unfold relevelled
  rw [List.map_id']

/-- New levels leave the table as it is exactly if they are the old ones. -/
theorem relevelled_eq_self_iff {level : Target → Level} :
    table.relevelled level = table ↔ ∀ target ∈ table.targets, level target = target.level := by
  constructor
  · intro kept target listed
    have sameTargets : (table.relevelled level).targets = table.targets.map id := by
      rw [kept, List.map_id]
    exact congrArg Target.level (List.map_inj_left.1 sameTargets target listed)
  · exact fun same => (relevelled_congr same).trans table.relevelled_self

/-! ### Tags in order -/

theorem setTag_of_knows (known : table.knows tag = true) :
    table.setTag tag level =
      .ok (table.targets.countP fun target => table.carries tag target && target.level ≠ level,
        table.relevelled fun target =>
          if table.carries tag target then level else target.level) := by
  unfold setTag relevelled
  rw [if_pos known]
  dsimp only
  congr 3
  refine List.map_congr_left fun target _ => ?_
  by_cases carried : table.carries tag target
  · by_cases same : target.level = level
    · simp [carried, ← same]
    · simp [carried, same]
  · simp [carried]

theorem setTag_of_not_knows (unknown : table.knows tag = false) :
    table.setTag tag level = .error (.unknownTag tag) := by
  unfold setTag
  rw [unknown, if_neg Bool.false_ne_true]

/-- Tags that are all known are set, and a target gets the level of the last one it carries. -/
theorem setTags_of_known (known : ∀ entry ∈ levels, table.knows entry.1 = true) :
    table.setTags levels = (.ok (), table.relevelled fun target =>
      (levels.lastLevel? (table.carries · target)).getD target.level) := by
  induction levels generalizing table with
  | nil => exact congrArg (Prod.mk _) table.relevelled_self.symm
  | cons entry rest inductionHypothesis =>
    have others := @inductionHypothesis
      (table.relevelled fun target =>
        if table.carries entry.1 target then entry.2 else target.level)
      fun later member => known later (List.mem_cons_of_mem _ member)
    rw [setTags, setTag_of_knows (known entry List.mem_cons_self)]
    refine others.trans (congrArg (Prod.mk _) ?_)
    rw [relevelled_relevelled]
    refine relevelled_congr fun target _ => ?_
    simp only [carries_relevelled, carries_withLevel, TagLevels.lastLevel?_cons]
    cases TagLevels.lastLevel? rest (table.carries · target) with
    | some last => rfl
    | none => split <;> rfl

/-- The first unknown tag is the error, and the tags before it stay set. -/
theorem setTags_append_of_unknown (known : ∀ entry ∈ earlier, table.knows entry.1 = true)
    (unknown : table.knows tag = false) :
    table.setTags (earlier ++ (tag, level) :: later) =
      (.error (.unknownTag tag), (table.setTags earlier).2) := by
  induction earlier generalizing table with
  | nil =>
    rw [List.nil_append, setTags, setTags]
    dsimp only
    rw [setTag_of_not_knows unknown]
  | cons entry rest inductionHypothesis =>
    rw [List.cons_append, setTags, setTags, setTag_of_knows (known entry List.mem_cons_self)]
    exact inductionHypothesis (fun later member => known later (List.mem_cons_of_mem _ member))
      unknown

/-! ### Whole lists -/

/-- The table after the general entries of a list. -/
def withGeneral (table : TargetTable) (levels : TagLevels) : TargetTable where
  defaultLevel := (levels.levelOf? "default").getD table.defaultLevel
  targets := table.targets.map fun target =>
    { target with level := (levels.levelOf? "all").getD target.level }
  members := table.members

theorem setup_eq (table : TargetTable) (levels : TagLevels) :
    table.setup levels =
      (table.withGeneral levels).setTags (levels.filter fun entry => !isGeneral entry.1) := by
  unfold setup withGeneral
  cases levels.levelOf? "default" <;> cases levels.levelOf? "all" <;>
    simp [setDefault, setAll]

/-- The general entries of a list do not depend on the others. -/
theorem withGeneral_filter (table : TargetTable) (levels : TagLevels) :
    table.withGeneral (levels.filter fun entry => isGeneral entry.1) =
      table.withGeneral levels := by
  unfold withGeneral
  rw [TagLevels.levelOf?_filter (by decide), TagLevels.levelOf?_filter (by decide)]

/-- All tags of a list are known, or general. -/
def KnowsAll (table : TargetTable) (levels : TagLevels) : Prop :=
  ∀ entry ∈ levels, isGeneral entry.1 = false → table.knows entry.1 = true

theorem KnowsAll.withGeneral (known : table.KnowsAll levels) (others : TagLevels) :
    ∀ entry ∈ levels.filter fun entry => !isGeneral entry.1,
      (table.withGeneral others).knows entry.1 = true := by
  intro entry member
  obtain ⟨listed, isOwn⟩ := List.mem_filter.1 member
  exact known entry listed (by simpa using isOwn)

/-- A list of known tags is applied. Each target gets the level of the last entry with a tag it
carries, or else the level for all targets, or else it keeps its own. -/
theorem setup_of_knowsAll (known : table.KnowsAll levels) :
    table.setup levels = (.ok (),
      { defaultLevel := (List.lookup "default" levels).getD table.defaultLevel
        targets := table.targets.map fun target =>
          { target with
            level := (levels.lastLevel? fun tag => table.carries tag target && !isGeneral tag).getD
              ((List.lookup "all" levels).getD target.level) }
        members := table.members }) := by
  rw [setup_eq, setTags_of_known (known.withGeneral levels)]
  unfold relevelled withGeneral
  dsimp only
  rw [List.map_map, TagLevels.levelOf?_eq_lookup, TagLevels.levelOf?_eq_lookup]
  congr 3
  funext target
  exact congrArg (fun last : Option Level => { target with
      level := last.getD ((List.lookup "all" levels).getD target.level) })
    (levels.lastLevel?_filter (fun tag => !isGeneral tag) (table.carries · target))

/-- A list is applied up to the first tag that is neither known nor general. -/
theorem setup_append_of_unknown (known : table.KnowsAll earlier) (isOwn : isGeneral tag = false)
    (unknown : table.knows tag = false) :
    table.setup (earlier ++ (tag, level) :: later) = (.error (.unknownTag tag),
      (table.setup (earlier ++ later.filter fun entry => isGeneral entry.1)).2) := by
  have sameGeneral : table.withGeneral (earlier ++ (tag, level) :: later) =
      table.withGeneral (earlier ++ later.filter fun entry => isGeneral entry.1) := by
    rw [← table.withGeneral_filter (_ ++ _ :: _), ← table.withGeneral_filter (_ ++ _)]
    simp [isOwn]
  have ownOfAll : (earlier ++ (tag, level) :: later).filter (fun entry => !isGeneral entry.1) =
      earlier.filter (fun entry => !isGeneral entry.1) ++ (tag, level) ::
        later.filter fun entry => !isGeneral entry.1 := by
    simp [isOwn]
  have ownOfRest : (earlier ++ later.filter fun entry => isGeneral entry.1).filter
      (fun entry => !isGeneral entry.1) = earlier.filter fun entry => !isGeneral entry.1 := by
    simp [List.filter_filter]
  rw [setup_eq, setup_eq, sameGeneral, ownOfAll, ownOfRest]
  exact setTags_append_of_unknown (known.withGeneral _) unknown

/-- Either all tags of a list are known, or there is a first one that is not. -/
theorem knowsAll_or_exists_unknown (table : TargetTable) (levels : TagLevels) :
    table.KnowsAll levels ∨ ∃ earlier tag level later, levels = earlier ++ (tag, level) :: later ∧
      table.KnowsAll earlier ∧ isGeneral tag = false ∧ table.knows tag = false := by
  cases found : levels.find? fun entry => !isGeneral entry.1 && !table.knows entry.1 with
  | none =>
    refine Or.inl fun entry member isOwn => ?_
    have passed := List.find?_eq_none.1 found entry member
    simpa [isOwn] using passed
  | some entry =>
    obtain ⟨failed, earlier, later, rfl, passed⟩ := List.find?_eq_some_iff_append.1 found
    rw [Bool.and_eq_true, Bool.not_eq_true', Bool.not_eq_true'] at failed
    refine Or.inr ⟨earlier, entry.1, entry.2, later, rfl, fun listed member isOwn => ?_, failed⟩
    simpa [isOwn] using passed listed member

theorem setup_eq_ok_iff : (table.setup levels).1 = .ok () ↔ table.KnowsAll levels := by
  constructor
  · intro succeeded
    rcases table.knowsAll_or_exists_unknown levels with
      known | ⟨earlier, tag, level, later, rfl, known, isOwn, unknown⟩
    · exact known
    · rw [setup_append_of_unknown known isOwn unknown] at succeeded
      cases succeeded
  · intro known
    rw [setup_of_knowsAll known]

theorem checkTags_eq_ok_iff :
    table.checkTags (levels.map Prod.fst) = .ok () ↔ table.KnowsAll levels := by
  have iff_none : table.checkTags (levels.map Prod.fst) = .ok () ↔
      (levels.map Prod.fst).find? (fun tag => !isGeneral tag && !table.knows tag) = none := by
    unfold checkTags
    split <;> simp [*]
  rw [iff_none, List.find?_eq_none, List.forall_mem_map]
  refine forall₂_congr fun entry _ => ?_
  cases isGeneral entry.1 <;> simp

/-! ### Lists that cannot be applied -/

/-- The list comes to a tag that is neither known nor general. What it leaves is what the entries
before this tag and the general entries set on their own. -/
def StopsAt (table : TargetTable) (levels : TagLevels) (tag : String) (left : TargetTable) :
    Prop :=
  isGeneral tag = false ∧ table.knows tag = false ∧
    ∃ earlier level later, levels = earlier ++ (tag, level) :: later ∧
      table.setup (earlier ++ later.filter fun entry => isGeneral entry.1) = (.ok (), left)

theorem setup_eq_error_iff {error : TraceError} {left : TargetTable} :
    table.setup levels = (.error error, left) ↔
      ∃ tag, error = .unknownTag tag ∧ table.StopsAt levels tag left := by
  constructor
  · intro failed
    rcases table.knowsAll_or_exists_unknown levels with
      known | ⟨earlier, tag, level, later, rfl, known, isOwn, unknown⟩
    · rw [setup_of_knowsAll known] at failed
      cases failed
    · rw [setup_append_of_unknown known isOwn unknown] at failed
      cases failed
      refine ⟨tag, rfl, isOwn, unknown, earlier, level, later, rfl, Prod.ext ?_ rfl⟩
      refine setup_eq_ok_iff.2 fun entry member isOwnEntry => ?_
      rcases List.mem_append.1 member with inEarlier | inLater
      · exact known entry inEarlier isOwnEntry
      · rw [(List.mem_filter.1 inLater).2] at isOwnEntry
        cases isOwnEntry
  · rintro ⟨tag, rfl, isOwn, unknown, earlier, level, later, rfl, applied⟩
    have known : table.KnowsAll (earlier ++ later.filter fun entry => isGeneral entry.1) :=
      setup_eq_ok_iff.1 (congrArg Prod.fst applied)
    rw [setup_append_of_unknown (fun entry member => known entry (List.mem_append_left _ member))
      isOwn unknown, applied]

/-- A text that cannot be read changes nothing. One that can be read fails exactly at the first tag
that is neither known nor general; then the default level and the level of every target are those
that the entries before this tag and the general entries set on their own. The same holds of a list
that is given as such. -/
theorem setupFromText_eq_error_iff (table : TargetTable) (text : String) (error : TraceError)
    (left : TargetTable) :
    (table.setupFromText text = (.error error, left) ↔
      (TagLevels.ofText text = .error error ∧ left = table) ∨
        ∃ levels tag, TagLevels.ofText text = .ok levels ∧ error = .unknownTag tag ∧
          table.StopsAt levels tag left) ∧
      ∀ levels : TagLevels, table.setup levels = (.error error, left) ↔
        ∃ tag, error = .unknownTag tag ∧ table.StopsAt levels tag left := by
  refine ⟨?_, fun levels => setup_eq_error_iff⟩
  unfold setupFromText
  cases TagLevels.ofText text with
  | error unreadable => simp [eq_comm]
  | ok levels => simp [setup_eq_error_iff]

/-- An unknown tag behind a known one leaves the level that was set, and the default level. -/
theorem exists_changed_of_unknownTag :
    let table := ofDeclarations components
    let result := table.setupFromText "rib=debug,default=error,bgp=debug"
    result.1 = .error (.unknownTag "bgp") ∧ result.2.defaultLevel ≠ table.defaultLevel ∧
      (result.2.target? "ribd_routing::rib").map Target.level ≠
        (table.target? "ribd_routing::rib").map Target.level := by
  refine ⟨rfl, ?_, ?_⟩ <;> decide +kernel

end TargetTable

end ControlPlane.Tracing
