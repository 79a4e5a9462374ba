/-
This file proves what a list of levels means for declared targets. A table keeps
an index from tags to targets beside the targets themselves; the two are filled
together when a target is declared, and changes of levels touch neither the index
nor the tags. So with targets that are declared once, the index lists a target for
exactly the tags it was declared with and its name, after any changes, and a list
of levels can be read without the index: for each target, by its own tags.
-/

import ControlPlane.Proofs.SortedMap
import ControlPlane.Proofs.Tracing.Setup
import Mathlib.Data.List.Nodup

namespace ControlPlane.Tracing

theorem mem_tags_ofDeclaration {declaration : Declaration} {tag : String} :
    tag ∈ (Target.ofDeclaration declaration).tags ↔
      tag = declaration.name ∨ tag ∈ declaration.tags := by
  unfold Target.ofDeclaration
  split
  next listed =>
    exact (or_iff_right_of_imp fun isName => isName ▸ listed).symm
  next => rw [List.mem_append, List.mem_singleton, Or.comm]

/-- The target without its level. -/
def Target.erased (target : Target) : Target :=
  { target with level := .off }

/-- A call that changes levels. -/
inductive LevelChange
  | tag (tag : String) (level : Level)
  | all (level : Level)
  | default (level : Level)

namespace TargetTable

variable {table : TargetTable} {target : Target} {tag : String}

/-! ### The index of tags -/

/-- The targets that an index lists for a tag. -/
def indexed? (members : List (String × SortedSet String)) (tag : String) :
    Option (SortedSet String) :=
  (members.find? fun entry => entry.1 = tag).map Prod.snd

theorem indexed?_cons (entry : String × SortedSet String)
    (rest : List (String × SortedSet String)) (tag : String) :
    indexed? (entry :: rest) tag = if entry.1 = tag then some entry.2 else indexed? rest tag := by
  unfold indexed?
  rw [List.find?_cons]
  by_cases here : entry.1 = tag <;> simp [here]

theorem indexed?_addMember (target tag other : String)
    (members : List (String × SortedSet String)) :
    indexed? (addMember target tag members) other =
      if tag = other then some (((indexed? members tag).getD SortedMap.empty).insert target ())
      else indexed? members other := by
  induction members with
  | nil => rw [addMember, indexed?_cons]; rfl
  | cons entry rest inductionHypothesis =>
    unfold addMember
    split
    next here =>
      rw [indexed?_cons, indexed?_cons, if_pos here, indexed?_cons, here]
      split <;> rfl
    next elsewhere =>
      rw [indexed?_cons, inductionHypothesis, indexed?_cons, if_neg elsewhere, indexed?_cons]
      by_cases same : tag = other
      · rw [← same, if_neg elsewhere, if_pos rfl, if_pos rfl]
      · rw [if_neg same, if_neg same]

theorem indexed?_foldl_addMember (target : String) (tags : List String) (other : String)
    (members : List (String × SortedSet String)) :
    indexed? (tags.foldl (fun members tag => addMember target tag members) members) other =
      if other ∈ tags then
        some (((indexed? members other).getD SortedMap.empty).insert target ())
      else indexed? members other := by
  induction tags generalizing members with
  | nil => rfl
  | cons tag rest inductionHypothesis =>
    rw [List.foldl_cons, inductionHypothesis, indexed?_addMember]
    by_cases here : tag = other
    · subst here
      have again :
          (((indexed? members tag).getD SortedMap.empty).insert target ()).insert target () =
            ((indexed? members tag).getD SortedMap.empty).insert target () :=
        SortedSet.insert_of_contains (by simp [SortedMap.contains])
      simp [again]
    · simp [here, Ne.symm here]

/-- A declaration adds its target to the members of its tags. -/
theorem members?_register (table : TargetTable) (declaration : Declaration) (tag : String) :
    (table.register declaration).members? tag =
      if tag ∈ (Target.ofDeclaration declaration).tags then
        some (((table.members? tag).getD SortedMap.empty).insert declaration.target ())
      else table.members? tag :=
  indexed?_foldl_addMember declaration.target _ tag table.members

theorem knows_register (table : TargetTable) (declaration : Declaration) (tag : String) :
    (table.register declaration).knows tag = true ↔
      tag ∈ (Target.ofDeclaration declaration).tags ∨ table.knows tag = true := by
  unfold knows
  rw [members?_register]
  split <;> simp [*]

theorem carries_iff : table.carries tag target = true ↔
    ∃ members, table.members? tag = some members ∧ members.contains target.target = true := by
  unfold carries
  cases table.members? tag <;> simp

theorem carries_register (table : TargetTable) (declaration : Declaration) (tag : String)
    (target : Target) :
    (table.register declaration).carries tag target = true ↔
      (tag ∈ (Target.ofDeclaration declaration).tags ∧ declaration.target = target.target) ∨
        table.carries tag target = true := by
  rw [carries_iff, carries_iff, members?_register]
  by_cases listed : tag ∈ (Target.ofDeclaration declaration).tags
  · by_cases same : declaration.target = target.target
    · simp [listed, same, SortedMap.contains]
    · cases table.members? tag <;> simp [listed, same, SortedMap.contains]
  · simp [listed]

/-! ### Declared targets -/

theorem putTarget_of_fresh {targets : List Target}
    (fresh : ∀ listed ∈ targets, listed.target ≠ target.target) :
    putTarget target targets = targets ++ [target] := by
  induction targets with
  | nil => rfl
  | cons head rest inductionHypothesis =>
    rw [putTarget, if_neg (fresh head List.mem_cons_self), List.cons_append,
      inductionHypothesis fun later member => fresh later (List.mem_cons_of_mem _ member)]

theorem mem_of_mem_putTarget {listed : Target} {targets : List Target}
    (member : listed ∈ putTarget target targets) : listed = target ∨ listed ∈ targets := by
  induction targets with
  | nil => exact Or.inl (List.mem_singleton.1 member)
  | cons head rest inductionHypothesis =>
    unfold putTarget at member
    split at member
    · exact (List.mem_cons.1 member).imp id (List.mem_cons_of_mem head)
    · rcases List.mem_cons.1 member with rfl | inRest
      · exact Or.inr List.mem_cons_self
      · exact (inductionHypothesis inRest).imp id (List.mem_cons_of_mem head)

theorem knows_foldl_register (declarations : List Declaration) (table : TargetTable)
    (tag : String) :
    (declarations.foldl register table).knows tag = true ↔
      (∃ declaration ∈ declarations, tag ∈ (Target.ofDeclaration declaration).tags) ∨
        table.knows tag = true := by
  induction declarations generalizing table with
  | nil => simp
  | cons declaration rest inductionHypothesis =>
    rw [List.foldl_cons, inductionHypothesis, knows_register, List.exists_mem_cons_iff, or_assoc,
      or_left_comm]

theorem carries_foldl_register (declarations : List Declaration) (table : TargetTable)
    (tag : String) (target : Target) :
    (declarations.foldl register table).carries tag target = true ↔
      (∃ declaration ∈ declarations, tag ∈ (Target.ofDeclaration declaration).tags ∧
        declaration.target = target.target) ∨ table.carries tag target = true := by
  induction declarations generalizing table with
  | nil => simp
  | cons declaration rest inductionHypothesis =>
    rw [List.foldl_cons, inductionHypothesis, carries_register, List.exists_mem_cons_iff, or_assoc,
      or_left_comm]

theorem targets_foldl_register {declarations : List Declaration} {table : TargetTable}
    (fresh : ∀ listed ∈ table.targets, ∀ declaration ∈ declarations,
      listed.target ≠ declaration.target)
    (apart : (declarations.map Declaration.target).Nodup) :
    (declarations.foldl register table).targets =
      table.targets ++ declarations.map Target.ofDeclaration := by
  induction declarations generalizing table with
  | nil => exact (List.append_nil _).symm
  | cons declaration rest inductionHypothesis =>
    rw [List.map_cons, List.nodup_cons] at apart
    have added : (table.register declaration).targets =
        table.targets ++ [Target.ofDeclaration declaration] :=
      putTarget_of_fresh fun listed member => fresh listed member declaration List.mem_cons_self
    rw [List.foldl_cons, inductionHypothesis ?_ apart.2, added, List.append_assoc,
      List.singleton_append, List.map_cons]
    intro listed member later inRest
    rw [added, List.mem_append, List.mem_singleton] at member
    rcases member with isListed | rfl
    · exact fresh listed isListed later (List.mem_cons_of_mem _ inRest)
    · exact fun same => apart.1 (List.mem_map.2 ⟨later, inRest, same.symm⟩)

theorem mem_targets_foldl_register {declarations : List Declaration}
    (member : target ∈ (declarations.foldl register table).targets) :
    target ∈ table.targets ∨ ∃ declaration ∈ declarations,
      target = Target.ofDeclaration declaration := by
  induction declarations generalizing table with
  | nil => exact Or.inl member
  | cons declaration rest inductionHypothesis =>
    rcases inductionHypothesis member with inRegistered | ⟨later, inRest, same⟩
    · rcases mem_of_mem_putTarget inRegistered with rfl | listed
      · exact Or.inr ⟨declaration, List.mem_cons_self, rfl⟩
      · exact Or.inl listed
    · exact Or.inr ⟨later, List.mem_cons_of_mem _ inRest, same⟩

section OfDeclarations

variable {declarations : List Declaration}

theorem knows_ofDeclarations_iff : (ofDeclarations declarations).knows tag = true ↔
    ∃ declaration ∈ declarations, tag ∈ (Target.ofDeclaration declaration).tags := by
  rw [ofDeclarations, knows_foldl_register]
  exact or_iff_left Bool.false_ne_true

theorem carries_ofDeclarations_iff : (ofDeclarations declarations).carries tag target = true ↔
    ∃ declaration ∈ declarations, tag ∈ (Target.ofDeclaration declaration).tags ∧
      declaration.target = target.target := by
  rw [ofDeclarations, carries_foldl_register]
  exact or_iff_left Bool.false_ne_true

theorem targets_ofDeclarations (apart : (declarations.map Declaration.target).Nodup) :
    (ofDeclarations declarations).targets = declarations.map Target.ofDeclaration :=
  targets_foldl_register (fun _ member => nomatch member) apart

theorem exists_declaration_of_mem (member : target ∈ (ofDeclarations declarations).targets) :
    ∃ declaration ∈ declarations, target = Target.ofDeclaration declaration :=
  (mem_targets_foldl_register member).resolve_left List.not_mem_nil

end OfDeclarations

/-! ### Changes of levels -/

/-- The table without its levels. -/
def erased (table : TargetTable) : TargetTable :=
  (table.relevelled fun _ => .off).setDefault .off

/-- The table after a call that changes levels, whether it succeeds or not. -/
def change (table : TargetTable) : LevelChange → TargetTable
  | .tag tag level =>
    match table.setTag tag level with
    | .ok (_, changed) => changed
    | .error _ => table
  | .all level => table.setAll level
  | .default level => table.setDefault level

def changeAll (table : TargetTable) (changes : List LevelChange) : TargetTable :=
  changes.foldl change table

theorem erased_relevelled (table : TargetTable) (level : Target → Level) :
    (table.relevelled level).erased = table.erased := by
  unfold erased
  rw [relevelled_relevelled]

theorem erased_change (table : TargetTable) (step : LevelChange) :
    (table.change step).erased = table.erased := by
  cases step with
  | tag tag level =>
    cases known : table.knows tag with
    | true =>
      rw [change, setTag_of_knows known]
      exact table.erased_relevelled _
    | false => rw [change, setTag_of_not_knows known]
  | all level => exact table.erased_relevelled fun _ => level
  | default level => rfl

theorem erased_changeAll (table : TargetTable) (changes : List LevelChange) :
    (table.changeAll changes).erased = table.erased := by
  induction changes generalizing table with
  | nil => rfl
  | cons step rest inductionHypothesis =>
    exact (inductionHypothesis (table.change step)).trans (table.erased_change step)

theorem targets_erased (table : TargetTable) :
    table.erased.targets = table.targets.map Target.erased :=
  rfl

/-- Which tags reach a target does not depend on its level. -/
theorem carries_erased (table : TargetTable) (tag : String) (target : Target) :
    table.carries tag target.erased = table.carries tag target :=
  rfl

section SameErased

variable {first second : TargetTable} (same : first.erased = second.erased)
include same

theorem members_eq_of_erased_eq : first.members = second.members := by
  show first.erased.members = second.erased.members
  rw [same]

theorem knows_eq_of_erased_eq (tag : String) : first.knows tag = second.knows tag := by
  show first.erased.knows tag = second.erased.knows tag
  rw [same]

theorem carries_eq_of_erased_eq (tag : String) (target : Target) :
    first.carries tag target = second.carries tag target := by
  show first.erased.carries tag target = second.erased.carries tag target
  rw [same]

/-- New levels that do not depend on the old ones lead to the same targets. -/
theorem map_withLevel_eq_of_erased_eq {level : Target → Level}
    (ignores : ∀ target, level target.erased = level target) :
    (first.targets.map fun target => { target with level := level target }) =
      second.targets.map fun target => { target with level := level target } := by
  have fromErased : ∀ table : TargetTable,
      (table.targets.map fun target => { target with level := level target }) =
        table.erased.targets.map fun target => { target with level := level target } := by
    intro table
    rw [targets_erased, List.map_map]
    refine List.map_congr_left fun target _ => ?_
    rw [Function.comp_apply, ignores]
    rfl
  rw [fromErased first, fromErased second, same]

theorem exists_mem_of_erased_eq (member : target ∈ first.targets) :
    ∃ other ∈ second.targets, other.erased = target.erased := by
  have sameTargets : first.targets.map Target.erased = second.targets.map Target.erased :=
    congrArg targets same
  exact List.mem_map.1 (sameTargets ▸ List.mem_map_of_mem member)

end SameErased

/-! ### Declared targets after changes -/

section Changed

variable {declarations : List Declaration} {changes : List LevelChange}

/-- The tags that are known are the declared ones. -/
theorem knows_changeAll_iff : ((ofDeclarations declarations).changeAll changes).knows tag = true ↔
    ∃ declaration ∈ declarations, tag = declaration.name ∨ tag ∈ declaration.tags := by
  simp only [knows_eq_of_erased_eq (erased_changeAll _ changes), knows_ofDeclarations_iff,
    mem_tags_ofDeclaration]

theorem map_erased_changeAll (apart : (declarations.map Declaration.target).Nodup) :
    ((ofDeclarations declarations).changeAll changes).targets.map Target.erased =
      declarations.map fun declaration => (Target.ofDeclaration declaration).erased := by
  have sameTargets : ((ofDeclarations declarations).changeAll changes).targets.map Target.erased =
      (ofDeclarations declarations).targets.map Target.erased :=
    congrArg targets (erased_changeAll _ changes)
  rw [sameTargets, targets_ofDeclarations apart, List.map_map]
  rfl

/-- Every target of the table is a declared one. -/
theorem exists_declaration_of_mem_changeAll
    (listed : target ∈ ((ofDeclarations declarations).changeAll changes).targets) :
    ∃ declaration ∈ declarations, target.target = declaration.target ∧
      target.name = declaration.name ∧ target.tags = (Target.ofDeclaration declaration).tags := by
  obtain ⟨declared, isDeclared, sameTarget⟩ :=
    exists_mem_of_erased_eq (erased_changeAll _ changes) listed
  obtain ⟨declaration, inDeclarations, rfl⟩ := exists_declaration_of_mem isDeclared
  obtain ⟨sameKey, sameName, _, sameTags⟩ := Target.mk.inj sameTarget
  exact ⟨declaration, inDeclarations, sameKey.symm, sameName.symm, sameTags.symm⟩

/-- With targets that are declared once, the index lists a target for its own tags. -/
theorem carries_changeAll_iff (apart : (declarations.map Declaration.target).Nodup)
    (listed : target ∈ ((ofDeclarations declarations).changeAll changes).targets) :
    ((ofDeclarations declarations).changeAll changes).carries tag target = true ↔
      tag ∈ target.tags := by
  obtain ⟨declaration, isDeclared, sameKey, _, sameTags⟩ :=
    exists_declaration_of_mem_changeAll listed
  rw [carries_eq_of_erased_eq (erased_changeAll _ changes), carries_ofDeclarations_iff, sameTags]
  constructor
  · rintro ⟨other, inDeclarations, carried, otherKey⟩
    have unique : other = declaration :=
      List.inj_on_of_nodup_map apart inDeclarations isDeclared (otherKey.trans sameKey)
    exact unique ▸ carried
  · exact fun carried => ⟨declaration, isDeclared, carried, sameKey.symm⟩

end Changed

/-! ### Lists of levels over declared targets -/

/-- With targets that are declared once, after any changes of levels, a list whose tags are all
declared is applied. The default level is the one given for it, if there is one. Each target gets
the level of the last entry with one of its own tags, or else the level given for all targets, or
else it keeps its level. Tags are known if they are declared, and keys pass the check exactly if a
list with these keys is applied. -/
theorem setup_changeAll_ofDeclarations (declarations : List Declaration)
    (apart : (declarations.map Declaration.target).Nodup) (changes : List LevelChange)
    (levels : TagLevels)
    (known : ∀ entry ∈ levels, isGeneral entry.1 = true ∨
      ∃ declaration ∈ declarations, entry.1 = declaration.name ∨ entry.1 ∈ declaration.tags) :
    let table := (ofDeclarations declarations).changeAll changes
    table.setup levels = (.ok (),
        { defaultLevel := (List.lookup "default" levels).getD table.defaultLevel
          targets := table.targets.map fun target =>
            { target with
              level := (levels.lastLevel? fun tag => tag ∈ target.tags && !isGeneral tag).getD
                ((List.lookup "all" levels).getD target.level) }
          members := table.members }) ∧
      table.targets.map Target.erased =
        declarations.map (fun declaration => (Target.ofDeclaration declaration).erased) ∧
      (∀ tag, table.knows tag = true ↔
        ∃ declaration ∈ declarations, tag = declaration.name ∨ tag ∈ declaration.tags) ∧
      ∀ given : TagLevels,
        table.checkTags (given.map Prod.fst) = .ok () ↔ (table.setup given).1 = .ok () := by
  intro table
  have knowsAll : table.KnowsAll levels := by
    intro entry member isOwn
    rcases known entry member with general | declared
    · rw [general] at isOwn
      cases isOwn
    · exact knows_changeAll_iff.2 declared
  refine ⟨?_, map_erased_changeAll apart, fun _ => knows_changeAll_iff,
    fun given => checkTags_eq_ok_iff.trans setup_eq_ok_iff.symm⟩
  rw [setup_of_knowsAll knowsAll]
  congr 2
  refine List.map_congr_left fun target listed => ?_
  have reaches : (fun tag => table.carries tag target && !isGeneral tag) =
      fun tag => decide (tag ∈ target.tags) && !isGeneral tag := by
    funext tag
    have carriesOwn : table.carries tag target = true ↔ tag ∈ target.tags :=
      carries_changeAll_iff apart listed
    rw [Bool.eq_iff_iff.2 (carriesOwn.trans decide_eq_true_iff.symm)]
  rw [reaches]

/-- The tag of several targets overrides the name of one of them that stands before it. -/
theorem setup_changeAll_components :
    let levels : TagLevels :=
      [("ribmgr", .debug), ("all", .off), ("rib", .trace), ("kernel", .warn), ("default", .error)]
    let table := (ofDeclarations components).changeAll [.default .debug, .tag "config" .warn]
    (components.map Declaration.target).Nodup ∧
      (∀ entry ∈ levels, isGeneral entry.1 = true ∨
        ∃ declaration ∈ components, entry.1 = declaration.name ∨ entry.1 ∈ declaration.tags) ∧
      (table.setup levels).1 = .ok () ∧ (table.setup levels).2.defaultLevel = .error ∧
      (table.setup levels).2.targets.map Target.level =
        [.off, .off, .trace, .trace, .warn, .off, .off] := by
  intro levels table
  have apart : (components.map Declaration.target).Nodup := by decide +kernel
  have known : ∀ entry ∈ levels, isGeneral entry.1 = true ∨
      ∃ declaration ∈ components, entry.1 = declaration.name ∨ entry.1 ∈ declaration.tags := by
    decide +kernel
  have applied := (setup_changeAll_ofDeclarations components apart
    [.default .debug, .tag "config" .warn] levels known).1
  refine ⟨apart, known, ?_⟩
  rw [applied]
  refine ⟨rfl, rfl, ?_⟩
  decide +kernel

end TargetTable

end ControlPlane.Tracing
