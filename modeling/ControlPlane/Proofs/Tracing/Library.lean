/-
This file proves that lists of levels are read and written in the same way over
any library of level filters and of maps in the order of insertion. All that is
known of such a library is what it documents: how a level is written and of which
texts it is read, and which entries a map has after an insertion or a removal.
Keys are listed once, so to insert a key is to assign a level in the list of the
entries. Hence the entries of what is read are the list that is read here, and
what holds of a text here holds of it over the library.
-/

import ControlPlane.Proofs.Text.Number
import ControlPlane.Proofs.Tracing.Reread

namespace ControlPlane.Tracing

open Text

/-! ### Reading levels -/

namespace Level

/-- A level is read of its number, counted from no logging at all, and of its name in any case. The
one for errors is read of nothing as well. -/
def IsReadOf (level : Level) (letters : List Char) : Prop :=
  (∃ number, IsDecimal letters number ∧ all[number]? = some level) ∨
    (letters = [] ∧ level = error) ∨ letters.map lowerAscii = level.name.toList

theorem lowerAscii_of_isDigit {letter : Char} (isDigit : letter.isDigit = true) :
    lowerAscii letter = letter := by
  refine if_neg fun isUpper => ?_
  rw [Char.isDigit, Bool.and_eq_true, decide_eq_true_eq, decide_eq_true_eq] at isDigit
  have atMost : letter.toNat ≤ 57 := UInt32.le_iff_toNat_le.1 isDigit.2
  have atLeast : 65 ≤ letter.toNat := le_iff_toNat_le.1 isUpper.1
  omega

/-- No name of a level is a number, since it has no digit. -/
theorem not_isDecimal_of_isName {level : Level} {letters : List Char}
    (isName : letters.map lowerAscii = level.name.toList) (number : Nat) :
    ¬ IsDecimal letters number := by
  rintro ⟨digits, plus, nonempty, areDigits, -⟩
  obtain ⟨digit, member⟩ := List.exists_mem_of_ne_nil digits nonempty
  have inLetters : digit ∈ letters := by
    rcases plus with rfl | rfl
    · exact member
    · exact List.mem_cons_of_mem _ member
  have inName : digit ∈ level.name.toList := by
    rw [← isName, ← lowerAscii_of_isDigit (areDigits digit member)]
    exact List.mem_map_of_mem inLetters
  have noDigits : level.name.toList.any Char.isDigit = false := by cases level <;> decide
  exact List.any_eq_false.1 noDigits digit inName (areDigits digit member)

theorem numbered_eq_some_iff {level : Level} {letters : List Char} :
    ((decimalBelow? (2 ^ 64) letters).bind fun number => all[number]?) = some level ↔
      ∃ number, IsDecimal letters number ∧ all[number]? = some level := by
  rw [Option.bind_eq_some_iff]
  refine exists_congr fun number => and_congr_left fun listed => ?_
  obtain ⟨small, -⟩ := List.getElem?_eq_some_iff.1 listed
  rw [decimalBelow?_eq_some_iff]
  exact and_iff_right (Nat.lt_trans small (by decide))

/-- A name is read as its level, for it is neither a number nor empty. -/
theorem ofLetters?_of_isName {level : Level} {letters : List Char}
    (isName : letters.map lowerAscii = level.name.toList) : ofLetters? letters = some level := by
  have noNumber : ((decimalBelow? (2 ^ 64) letters).bind fun number => all[number]?) = none := by
    refine Option.eq_none_iff_forall_ne_some.2 fun other found => ?_
    obtain ⟨number, isDecimal, -⟩ := numbered_eq_some_iff.1 found
    exact not_isDecimal_of_isName isName number isDecimal
  have nonempty : ¬ letters.isEmpty = true := by
    intro isEmpty
    rw [List.isEmpty_iff.1 isEmpty] at isName
    cases level <;> cases isName
  have found : (all.find? fun other => other.name.toList = level.name.toList) = some level := by
    cases level <;> decide
  rw [ofLetters?, noNumber]
  dsimp only
  rw [if_neg nonempty, isName, found]

theorem ofLetters?_eq_some_iff {level : Level} {letters : List Char} :
    ofLetters? letters = some level ↔ level.IsReadOf letters := by
  constructor
  · intro read
    unfold ofLetters? at read
    split at read
    next listed =>
      cases read
      exact Or.inl (numbered_eq_some_iff.1 listed)
    next =>
      split at read
      next isEmpty =>
        cases read
        exact Or.inr (Or.inl ⟨List.isEmpty_iff.1 isEmpty, rfl⟩)
      next =>
        have named := List.find?_some read
        exact Or.inr (Or.inr (of_decide_eq_true named).symm)
  · rintro (isNumber | ⟨rfl, rfl⟩ | isName)
    · rw [ofLetters?, numbered_eq_some_iff.2 isNumber]
    · rfl
    · exact ofLetters?_of_isName isName

end Level

/-! ### Entries of maps -/

namespace TagLevels

variable {levels : TagLevels} {tag : String} {level : Level}

/-- A listed tag keeps its place. -/
theorem assign_of_listed (apart : (levels.map Prod.fst).Nodup)
    (listed : tag ∈ levels.map Prod.fst) :
    levels.assign tag level =
      levels.map fun entry => if entry.1 = tag then (tag, level) else entry := by
  induction levels with
  | nil => cases listed
  | cons entry rest inductionHypothesis =>
    rw [List.map_cons, List.nodup_cons] at apart
    rw [assign, List.map_cons]
    split
    next here =>
      have others : ∀ later ∈ rest, later.1 ≠ tag := fun later member same =>
        apart.1 (here ▸ same ▸ List.mem_map_of_mem member)
      refine congrArg (List.cons _) ?_
      exact (List.map_id rest).symm.trans
        (List.map_congr_left fun later member => (if_neg (others later member)).symm)
    next elsewhere =>
      have inRest := (List.mem_cons.1 listed).resolve_left (Ne.symm elsewhere)
      rw [inductionHypothesis apart.2 inRest]

theorem levelOf?_eq_some_iff (apart : (levels.map Prod.fst).Nodup) :
    levels.levelOf? tag = some level ↔ (tag, level) ∈ levels := by
  rw [levelOf?, Option.map_eq_some_iff]
  constructor
  · rintro ⟨⟨_, _⟩, found, rfl⟩
    have isTag := List.find?_some found
    rw [← of_decide_eq_true isTag]
    exact List.mem_of_find?_eq_some found
  · intro member
    have isSome : (List.find? (fun entry => decide (entry.1 = tag)) levels).isSome :=
      List.find?_isSome.2 ⟨(tag, level), member, decide_eq_true rfl⟩
    obtain ⟨entry, found⟩ := Option.isSome_iff_exists.1 isSome
    have isTag := List.find?_some found
    have isEntry : entry = (tag, level) := List.inj_on_of_nodup_map apart
      (List.mem_of_find?_eq_some found) member (of_decide_eq_true isTag)
    exact ⟨entry, found, congrArg Prod.snd isEntry⟩

end TagLevels

/-! ### Libraries -/

/-- A library of level filters, and of maps that list their keys in the order of insertion. -/
structure LevelLibrary where
  read : List Char → Option Level
  write : Level → String
  Map : Type
  empty : Map
  insert : Map → String → Level → Map
  remove : Map → String → Map
  get? : Map → String → Option Level
  entries : Map → TagLevels

namespace LevelLibrary

/-- The keys of a map in their order. -/
def keys (library : LevelLibrary) (map : library.Map) : List String :=
  (library.entries map).map Prod.fst

/-- What a library documents. A level is written by its name. A map is known by its entries, and no
key is listed twice. A key that is inserted keeps its place if it is listed and comes last if it is
not, and removing a key leaves the others in their order. -/
structure IsFaithful (library : LevelLibrary) : Prop where
  read_eq_some_iff : ∀ letters level, library.read letters = some level ↔ level.IsReadOf letters
  write_eq : ∀ level, library.write level = level.name
  eq_of_entries : ∀ map other, library.entries map = library.entries other → map = other
  keys_nodup : ∀ map, (library.keys map).Nodup
  entries_empty : library.entries library.empty = []
  entries_insert_of_mem : ∀ map key level, key ∈ library.keys map →
    library.entries (library.insert map key level) =
      (library.entries map).map fun entry => if entry.1 = key then (key, level) else entry
  entries_insert_of_notMem : ∀ map key level, key ∉ library.keys map →
    library.entries (library.insert map key level) = library.entries map ++ [(key, level)]
  entries_remove : ∀ map key, library.entries (library.remove map key) =
    (library.entries map).filter fun entry => entry.1 ≠ key
  get?_eq_some_iff : ∀ map key level,
    library.get? map key = some level ↔ (key, level) ∈ library.entries map

variable {library : LevelLibrary}

namespace IsFaithful

variable (isFaithful : library.IsFaithful)

include isFaithful

theorem read_eq : library.read = Level.ofLetters? := by
  funext letters
  exact Option.ext fun level =>
    (isFaithful.read_eq_some_iff letters level).trans Level.ofLetters?_eq_some_iff.symm

theorem entries_insert (map : library.Map) (tag : String) (level : Level) :
    library.entries (library.insert map tag level) = (library.entries map).assign tag level := by
  by_cases listed : tag ∈ library.keys map
  · rw [isFaithful.entries_insert_of_mem map tag level listed,
      TagLevels.assign_of_listed (isFaithful.keys_nodup map) listed]
  · rw [isFaithful.entries_insert_of_notMem map tag level listed,
      TagLevels.assign_of_fresh listed]

theorem get?_eq (map : library.Map) (tag : String) :
    library.get? map tag = (library.entries map).levelOf? tag :=
  Option.ext fun level => (isFaithful.get?_eq_some_iff map tag level).trans
    (TagLevels.levelOf?_eq_some_iff (isFaithful.keys_nodup map)).symm

end IsFaithful

/-! ### Lists of levels over a library -/

/-- Reads one item, already trimmed. -/
def readItem (library : LevelLibrary) (item : List Char) : Except TraceError (String × Level) :=
  match splitAtFirst? '=' item with
  | none => .error (.malformedItem (String.ofList item))
  | some (tag, level) =>
    match library.read (trim level) with
    | some level => .ok (String.ofList (trim tag), level)
    | none => .error (.unknownLevel (String.ofList (trim level)))

def readItems (library : LevelLibrary) (map : library.Map) :
    List (List Char) → Except TraceError library.Map
  | [] => .ok map
  | item :: rest =>
    match library.readItem item with
    | .ok (tag, level) => library.readItems (library.insert map tag level) rest
    | .error error => .error error

/-- Reads a list of levels; the first item that cannot be read is the error. -/
def readLevels (library : LevelLibrary) (text : String) : Except TraceError library.Map :=
  library.readItems library.empty (TagLevels.items text)

/-- The text of one level. -/
def itemText (library : LevelLibrary) (tag : String) (level : Level) : String :=
  tag ++ "=" ++ library.write level

namespace IsFaithful

variable (isFaithful : library.IsFaithful)

include isFaithful

theorem readItem_eq (item : List Char) : library.readItem item = TagLevels.readItem item := by
  unfold readItem TagLevels.readItem
  exact isFaithful.read_eq ▸ rfl

theorem entries_readItems (map : library.Map) (pieces : List (List Char)) :
    (library.readItems map pieces).map library.entries =
      TagLevels.readItems (library.entries map) pieces := by
  induction pieces generalizing map with
  | nil => rfl
  | cons item rest inductionHypothesis =>
    rw [readItems, TagLevels.readItems, isFaithful.readItem_eq]
    cases TagLevels.readItem item with
    | error _ => rfl
    | ok entry =>
      dsimp only
      rw [inductionHypothesis, isFaithful.entries_insert]

/-- The map that is read of a text has the list that is read of it as its entries. -/
theorem entries_readLevels (text : String) :
    (library.readLevels text).map library.entries = TagLevels.ofText text := by
  rw [readLevels, isFaithful.entries_readItems, isFaithful.entries_empty, TagLevels.ofText]

theorem itemText_eq : library.itemText = Tracing.itemText := by
  funext tag level
  rw [LevelLibrary.itemText, Tracing.itemText, isFaithful.write_eq]

end IsFaithful

/-! ### Tables -/

/-- Applies a list of levels to a table. -/
def setupFromText (library : LevelLibrary) (table : TargetTable) (text : String) :
    Except TraceError Unit × TargetTable :=
  match library.readLevels text with
  | .ok levels => table.setup (library.entries levels)
  | .error error => (.error error, table)

/-- The current levels of a table as a list that can be applied. -/
def configText (library : LevelLibrary) (table : TargetTable) : String :=
  String.intercalate ","
    (library.itemText "default" table.defaultLevel ::
      table.targets.map fun target => library.itemText target.name target.level)

theorem IsFaithful.setupFromText_eq (isFaithful : library.IsFaithful) (table : TargetTable)
    (text : String) : library.setupFromText table text = table.setupFromText text := by
  rw [setupFromText, TargetTable.setupFromText, ← isFaithful.entries_readLevels]
  cases library.readLevels text <;> rfl

theorem IsFaithful.configText_eq (isFaithful : library.IsFaithful) (table : TargetTable) :
    library.configText table = table.configText := by
  rw [configText, TargetTable.configText, isFaithful.itemText_eq]

end LevelLibrary

/-! ### The library of this project -/

/-- The lists of levels without repetitions as a library. -/
def TagLevels.library : LevelLibrary where
  read := Level.ofLetters?
  write := Level.name
  Map := { levels : TagLevels // (levels.map Prod.fst).Nodup }
  empty := ⟨[], List.nodup_nil⟩
  insert levels tag level := ⟨assign tag level levels.1, nodup_assign levels.2 tag level⟩
  remove levels tag := ⟨levels.1.without tag, levels.2.sublist (List.filter_sublist.map Prod.fst)⟩
  get? levels := levelOf? levels.1
  entries := Subtype.val

theorem TagLevels.isFaithful_library : library.IsFaithful where
  read_eq_some_iff _ _ := Level.ofLetters?_eq_some_iff
  write_eq _ := rfl
  eq_of_entries _ _ := Subtype.ext
  keys_nodup levels := levels.2
  entries_empty := rfl
  entries_insert_of_mem levels _ _ := assign_of_listed levels.2
  entries_insert_of_notMem _ _ _ := assign_of_fresh
  entries_remove _ _ := rfl
  get?_eq_some_iff levels _ _ := levelOf?_eq_some_iff levels.2

end ControlPlane.Tracing

namespace ControlPlane

open Tracing

/-! ### Configurations -/

/-- A default level and a map of the levels of tags. -/
structure TracingConfigOver (library : LevelLibrary) where
  default : Level
  tags : library.Map

namespace TracingConfigOver

variable {library : LevelLibrary}

/-- Reads a list of levels, where the tag `default` stands for the default level. -/
def ofText (library : LevelLibrary) (text : String) :
    Except ConfigError (TracingConfigOver library) :=
  match library.readLevels text with
  | .ok levels =>
    .ok ⟨(library.get? levels "default").getD Level.standard, library.remove levels "default"⟩
  | .error error => .error (.tracing error)

def text (config : TracingConfigOver library) : String :=
  String.intercalate ","
    (library.itemText "default" config.default ::
      (library.entries config.tags).map fun entry => library.itemText entry.1 entry.2)

/-- The configuration with the entries of the map. -/
def toConfig (config : TracingConfigOver library) : TracingConfig :=
  ⟨config.default, library.entries config.tags⟩

section Faithful

variable (isFaithful : library.IsFaithful)

include isFaithful

theorem eq_of_toConfig_eq {config other : TracingConfigOver library}
    (same : config.toConfig = other.toConfig) : config = other := by
  obtain ⟨level, tags⟩ := config
  obtain ⟨otherLevel, otherTags⟩ := other
  obtain ⟨rfl, sameEntries⟩ := TracingConfig.mk.inj same
  rw [isFaithful.eq_of_entries tags otherTags sameEntries]

theorem toConfig_ofText (text : String) :
    (ofText library text).map toConfig = TracingConfig.ofText text := by
  rw [ofText, TracingConfig.ofText, ← isFaithful.entries_readLevels]
  cases library.readLevels text with
  | error _ => rfl
  | ok levels =>
    refine congrArg Except.ok ?_
    rw [toConfig, isFaithful.get?_eq, isFaithful.entries_remove]
    rfl

theorem text_toConfig (config : TracingConfigOver library) :
    config.toConfig.text = config.text := by
  rw [text, isFaithful.itemText_eq]
  rfl

/-- Over any library, a configuration that was read is read again of the text that it is written
as. -/
theorem ofText_text_of_isFaithful {text : String} {config : TracingConfigOver library}
    (read : ofText library text = .ok config) : ofText library config.text = .ok config := by
  have readHere : TracingConfig.ofText text = .ok config.toConfig := by
    rw [← toConfig_ofText isFaithful, read]
    rfl
  have again : TracingConfig.ofText config.toConfig.text = .ok config.toConfig :=
    TracingConfig.ofText_text (TracingConfig.isWritable_of_ofText readHere)
  rw [text_toConfig isFaithful, ← toConfig_ofText isFaithful] at again
  cases found : ofText library config.text with
  | error _ =>
    rw [found] at again
    cases again
  | ok other =>
    rw [found] at again
    exact congrArg Except.ok (eq_of_toConfig_eq isFaithful (Except.ok.inj again))

end Faithful

end TracingConfigOver

end ControlPlane
