/-
This file proves which levels the text of a table restores. The text names every
target once, and a name is a tag like any other. So an item reaches all targets
that carry the name, and of the items that reach a target the last one counts, be
it its own or not. Everything comes back exactly if for every target these two
agree, for instance if no target carries the name of one that is declared later.
The order of declarations decides: where the tags of a target name a later one,
the level of the later one is restored in its place.
-/

import ControlPlane.Proofs.Tracing.Declarations
import ControlPlane.Proofs.Tracing.Level

namespace ControlPlane.Tracing

open Text

namespace TagLevels

variable {levels : TagLevels} {accepts : String → Bool}

theorem lastLevel?_append (earlier later : TagLevels) (accepts : String → Bool) :
    lastLevel? (earlier ++ later) accepts =
      (lastLevel? later accepts).or (lastLevel? earlier accepts) := by
  unfold lastLevel?
  rw [List.filter_append, List.getLast?_append]
  cases (List.filter (fun entry => accepts entry.1) later).getLast? <;> rfl

theorem lastLevel?_eq_none_iff :
    levels.lastLevel? accepts = none ↔ ∀ entry ∈ levels, accepts entry.1 = false := by
  unfold lastLevel?
  rw [Option.map_eq_none_iff, List.getLast?_eq_none_iff, List.filter_eq_nil_iff]
  simp

theorem lastLevel?_congr {accepts' : String → Bool}
    (same : ∀ entry ∈ levels, accepts entry.1 = accepts' entry.1) :
    levels.lastLevel? accepts = levels.lastLevel? accepts' := by
  unfold lastLevel?
  rw [List.filter_congr same]

end TagLevels

namespace TargetTable

variable {table : TargetTable} {target : Target}

/-! ### What the text says -/

/-- The levels that the text of a table gives by name. A name that several targets share stands at
its first place, with its last level. -/
def described (table : TargetTable) : TagLevels :=
  .assignAll [] (table.targets.map fun target => (target.name, target.level))

/-- The table with the levels that its text leads to: for each target the level of the last name
that it carries as a tag. -/
def restored (table : TargetTable) : TargetTable :=
  table.relevelled fun target =>
    (table.described.lastLevel? (table.carries · target)).getD target.level

/-- The names of the targets can be written, and none of them is general. -/
def IsWritable (table : TargetTable) : Prop :=
  ∀ target ∈ table.targets, IsPlainTag target.name ∧ isGeneral target.name = false

/-- Every target carries its name. -/
def IsNamed (table : TargetTable) : Prop :=
  ∀ target ∈ table.targets, table.carries target.name target = true

theorem name_mem_described (listed : target ∈ table.targets) :
    target.name ∈ table.described.map Prod.fst := by
  rw [described, TagLevels.keys_assignAll, List.map_map]
  exact Or.inr (List.mem_map_of_mem listed)

theorem exists_of_mem_described {entry : String × Level} (member : entry ∈ table.described) :
    ∃ target ∈ table.targets, target.name = entry.1 ∧ target.level = entry.2 := by
  obtain ⟨target, listed, same⟩ :=
    List.mem_map.1 ((TagLevels.mem_of_mem_assignAll member).resolve_left List.not_mem_nil)
  exact ⟨target, listed, congrArg Prod.fst same, congrArg Prod.snd same⟩

/-- The default level stands in front, since it is not a name. -/
theorem assignAll_cons_default (isWritable : table.IsWritable) :
    TagLevels.assignAll [] (("default", table.defaultLevel) ::
        table.targets.map fun target => (target.name, target.level)) =
      ("default", table.defaultLevel) :: table.described := by
  refine TagLevels.assignAll_cons_of_ne (List.forall_mem_map.2 fun target listed isDefault => ?_) []
  have isOwn := (isWritable target listed).2
  rw [show target.name = "default" from isDefault] at isOwn
  cases isOwn

theorem ofText_configText (isWritable : table.IsWritable) :
    TagLevels.ofText table.configText =
      .ok (("default", table.defaultLevel) :: table.described) := by
  have written : table.configText = String.intercalate ","
      ((("default", table.defaultLevel) ::
        table.targets.map fun target => (target.name, target.level)).map
          fun entry => itemText entry.1 entry.2) := by
    rw [configText, List.map_cons, List.map_map]
    rfl
  rw [written, TagLevels.ofText_intercalate, assignAll_cons_default isWritable]
  refine List.forall_mem_cons.2 ⟨?_, List.forall_mem_map.2 fun target listed => ?_⟩
  · show IsPlainTag "default"
    decide +kernel
  · exact (isWritable target listed).1

/-! ### Applying the text -/

/-- Some item of the text reaches each target: its own. -/
theorem exists_lastLevel?_described {other : TargetTable} (isNamed : table.IsNamed)
    (same : other.erased = table.erased) (listed : target ∈ other.targets) :
    ∃ level, table.described.lastLevel? (table.carries · target) = some level := by
  obtain ⟨own, isListed, sameTarget⟩ := exists_mem_of_erased_eq same listed
  have sameCarries : ∀ tag, table.carries tag target = table.carries tag own := by
    intro tag
    rw [← carries_erased, ← sameTarget, carries_erased]
  refine Option.ne_none_iff_exists'.1 fun none => ?_
  obtain ⟨entry, member, isName⟩ := List.mem_map.1 (name_mem_described isListed)
  have passed := TagLevels.lastLevel?_eq_none_iff.1 none entry member
  rw [isName, sameCarries, isNamed own isListed] at passed
  cases passed

/-- The levels that the text leads to do not depend on the levels of the table it is applied to. -/
theorem map_withLevel_described {other : TargetTable} (isNamed : table.IsNamed)
    (same : other.erased = table.erased) (former : Target → Level) :
    (other.targets.map fun target =>
      { target with
        level :=
          (table.described.lastLevel? (table.carries · target)).getD (former target) }) =
      table.restored.targets := by
  have ignoresFormer : ∀ (listing : TargetTable), listing.erased = table.erased →
      ∀ former : Target → Level,
        (listing.targets.map fun target =>
          { target with
            level :=
              (table.described.lastLevel? (table.carries · target)).getD (former target) }) =
          listing.targets.map fun target =>
            { target with
              level := (table.described.lastLevel? (table.carries · target)).getD .off } := by
    intro listing sameListing former
    refine List.map_congr_left fun target listed => ?_
    obtain ⟨level, found⟩ := exists_lastLevel?_described isNamed sameListing listed
    rw [found]
    rfl
  rw [restored, relevelled, ignoresFormer other same, ignoresFormer table rfl]
  exact map_withLevel_eq_of_erased_eq same fun _ => rfl

theorem isGeneral_of_mem_described (isWritable : table.IsWritable) {entry : String × Level}
    (member : entry ∈ table.described) : isGeneral entry.1 = false := by
  obtain ⟨target, listed, isName, _⟩ := exists_of_mem_described member
  exact isName ▸ (isWritable target listed).2

/-- The tags of the text are names of targets, so they are known. -/
theorem knowsAll_described {other : TargetTable} (isNamed : table.IsNamed)
    (same : other.erased = table.erased) :
    other.KnowsAll (("default", table.defaultLevel) :: table.described) := by
  intro entry member isOwn
  rcases List.mem_cons.1 member with rfl | inDescribed
  · cases isOwn
  · obtain ⟨target, listed, isName, _⟩ := exists_of_mem_described inDescribed
    obtain ⟨members, found, _⟩ := carries_iff.1 (isNamed target listed)
    rw [knows_eq_of_erased_eq same, ← isName, knows, found]
    rfl

/-- The text of a table is applied to any table with the same declarations, and ends with the
levels that it leads to. -/
theorem setupFromText_configText_eq {other : TargetTable} (isWritable : table.IsWritable)
    (isNamed : table.IsNamed) (same : other.erased = table.erased) :
    other.setupFromText table.configText = (.ok (), table.restored) := by
  have ends : ∀ target : Target,
      (TagLevels.lastLevel? (("default", table.defaultLevel) :: table.described)
        fun tag => other.carries tag target && !isGeneral tag) =
        table.described.lastLevel? (table.carries · target) := by
    intro target
    have general : isGeneral "default" = true := by decide
    rw [TagLevels.lastLevel?_cons, general, Bool.not_true, Bool.and_false,
      if_neg Bool.false_ne_true, Option.or_none]
    refine TagLevels.lastLevel?_congr fun entry member => ?_
    rw [isGeneral_of_mem_described isWritable member, Bool.not_false, Bool.and_true,
      carries_eq_of_erased_eq same]
  rw [setupFromText, ofText_configText isWritable]
  dsimp only
  rw [setup_of_knowsAll (knowsAll_described isNamed same), List.lookup_cons_self, Option.getD_some]
  simp only [ends]
  rw [map_withLevel_described isNamed same, members_eq_of_erased_eq same]
  rfl

/-! ### When the levels come back -/

/-- The text restores a table exactly if for every target the last name that it carries is listed
with its level. -/
theorem restored_eq_self_iff (isNamed : table.IsNamed) :
    table.restored = table ↔ ∀ target ∈ table.targets,
      table.described.lastLevel? (table.carries · target) = some target.level := by
  refine relevelled_eq_self_iff.trans (forall₂_congr fun target listed => ?_)
  obtain ⟨level, found⟩ := exists_lastLevel?_described isNamed rfl listed
  rw [found, Option.getD_some, Option.some_inj]

/-- No target carries the name of one that stands after it. -/
def NoneCarriesLater (table : TargetTable) : Prop :=
  table.targets.Pairwise fun earlier later => table.carries later.name earlier = false

theorem described_of_noneCarriesLater (isNamed : table.IsNamed)
    (noneCarriesLater : table.NoneCarriesLater) :
    table.described = table.targets.map fun target => (target.name, target.level) := by
  refine TagLevels.assignAll_of_nodup ?_
  rw [List.nil_append, List.map_map, List.Nodup, List.pairwise_map]
  refine noneCarriesLater.imp_of_mem fun {earlier later} listed _ passed sameName => ?_
  have carriesLater : table.carries later.name earlier = true :=
    (show earlier.name = later.name from sameName) ▸ isNamed earlier listed
  rw [passed] at carriesLater
  cases carriesLater

/-- Where no target carries a later name, the own name of each target is the last one that reaches
it. -/
theorem restored_eq_self (isNamed : table.IsNamed) (noneCarriesLater : table.NoneCarriesLater) :
    table.restored = table := by
  refine (restored_eq_self_iff isNamed).2 fun target listed => ?_
  obtain ⟨before, after, order⟩ := List.append_of_mem listed
  have passed : ∀ later ∈ after, table.carries later.name target = false := by
    unfold NoneCarriesLater at noneCarriesLater
    rw [order, List.pairwise_append, List.pairwise_cons] at noneCarriesLater
    exact noneCarriesLater.2.1.1
  have afterNone : TagLevels.lastLevel? (after.map fun target => (target.name, target.level))
      (table.carries · target) = none :=
    TagLevels.lastLevel?_eq_none_iff.2 (List.forall_mem_map.2 passed)
  rw [described_of_noneCarriesLater isNamed noneCarriesLater, order, List.map_append,
    List.map_cons, TagLevels.lastLevel?_append, TagLevels.lastLevel?_cons, afterNone,
    Option.none_or, if_pos (isNamed target listed), Option.some_or]

/-! ### Declared targets -/

theorem isNamed_changeAll (declarations : List Declaration) (changes : List LevelChange) :
    ((ofDeclarations declarations).changeAll changes).IsNamed := by
  intro target listed
  obtain ⟨declaration, isDeclared, sameKey, sameName, _⟩ :=
    exists_declaration_of_mem_changeAll listed
  rw [carries_eq_of_erased_eq (erased_changeAll _ changes), carries_ofDeclarations_iff]
  exact ⟨declaration, isDeclared, mem_tags_ofDeclaration.2 (Or.inl sameName), sameKey.symm⟩

theorem isWritable_changeAll {declarations : List Declaration}
    (writable : ∀ declaration ∈ declarations,
      IsPlainTag declaration.name ∧ isGeneral declaration.name = false)
    (changes : List LevelChange) :
    ((ofDeclarations declarations).changeAll changes).IsWritable := by
  intro target listed
  obtain ⟨declaration, isDeclared, _, sameName, _⟩ := exists_declaration_of_mem_changeAll listed
  exact sameName ▸ writable declaration isDeclared

/-- The text of a table of declared targets, after any changes of levels, is applied to any table
of the same declarations, after any other changes. It restores the default level, and for each
target the level of the last name that the target carries. So the levels come back exactly if these
are the levels of the targets, and they do if no target carries the name of a later one. -/
theorem setupFromText_configText (declarations : List Declaration)
    (writable : ∀ declaration ∈ declarations,
      IsPlainTag declaration.name ∧ isGeneral declaration.name = false)
    (changes otherChanges : List LevelChange) :
    let table := (ofDeclarations declarations).changeAll changes
    let other := (ofDeclarations declarations).changeAll otherChanges
    other.setupFromText table.configText = (.ok (), table.restored) ∧
      table.restored.defaultLevel = table.defaultLevel ∧
      (table.restored = table ↔ ∀ target ∈ table.targets,
        table.described.lastLevel? (table.carries · target) = some target.level) ∧
      (table.NoneCarriesLater → table.restored = table) := by
  intro table other
  have isNamed : table.IsNamed := isNamed_changeAll declarations changes
  have same : other.erased = table.erased :=
    (erased_changeAll _ otherChanges).trans (erased_changeAll _ changes).symm
  exact ⟨setupFromText_configText_eq (isWritable_changeAll writable changes) isNamed same, rfl,
    restored_eq_self_iff isNamed, restored_eq_self isNamed⟩

/-- No target of a router carries the name of a later one, so its levels come back. -/
theorem setupFromText_configText_components :
    let table := (ofDeclarations components).changeAll
      [.tag "rib" .debug, .tag "ribmgr" .off, .default .warn]
    let other := (ofDeclarations components).changeAll [.all .error]
    (∀ declaration ∈ components,
        IsPlainTag declaration.name ∧ isGeneral declaration.name = false) ∧
      other.setupFromText table.configText = (.ok (), table) ∧ other ≠ table := by
  intro table other
  have writable : ∀ declaration ∈ components,
      IsPlainTag declaration.name ∧ isGeneral declaration.name = false := by
    decide +kernel
  have noneCarriesLater : table.NoneCarriesLater := by
    unfold NoneCarriesLater
    decide +kernel
  obtain ⟨applied, _, _, restores⟩ := setupFromText_configText components writable
    [.tag "rib" .debug, .tag "ribmgr" .off, .default .warn] [.all .error]
  rw [restores noneCarriesLater] at applied
  exact ⟨writable, applied, by decide +kernel⟩

/-- A target that carries the name of a later one is restored with the level of the later one. -/
theorem exists_level_lost :
    ∃ declarations : List Declaration,
      (∀ declaration ∈ declarations,
        IsPlainTag declaration.name ∧ isGeneral declaration.name = false) ∧
      let table := (ofDeclarations declarations).changeAll [.tag "ribmgr" .debug]
      (table.setupFromText table.configText).1 = .ok () ∧
        table.targets.map Target.level = [.debug, .info] ∧
        (table.setupFromText table.configText).2.targets.map Target.level = [.info, .info] := by
  refine ⟨[⟨"ribd_routing::ribmgr", "ribmgr", .info, ["rib"]⟩,
    ⟨"ribd_routing::rib", "rib", .info, ["rib"]⟩], ?_, rfl, ?_, ?_⟩ <;> decide +kernel

end TargetTable

end ControlPlane.Tracing
