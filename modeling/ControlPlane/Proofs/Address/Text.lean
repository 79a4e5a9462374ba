/-
This file proves that addresses and networks are read as they are written, by the
strict reader and by the lenient one, and in front of any text that cannot be
taken for a part of them. The readers try the forms of an address in turn. A form
fails on the text of another one, since the first letter after its digits is not
the separator that it needs. The groups that are left out of an address of version
6 are zeros, and their number is what is missing to eight.
-/

import ControlPlane.Network
import ControlPlane.Proofs.Text.Number

namespace ControlPlane

open Text

/-! ### Numbers in front of a text -/

/-- A text that does not go on with a digit of a radix. -/
def EndsNumber (radix : Nat) (rest : List Char) : Prop :=
  ∀ letter ∈ rest.head?, digitValue? radix letter = none

theorem EndsNumber.decimal {rest : List Char} (ends : EndsNumber 16 rest) : EndsNumber 10 rest := by
  intro letter isHead
  rw [digitValue?_eq_filter (by decide), ends letter isHead]
  rfl

theorem endsNumber_cons {radix : Nat} {letter : Char} (isOther : digitValue? radix letter = none)
    (rest : List Char) : EndsNumber radix (letter :: rest) := by
  intro head isHead
  rwa [← Option.some.inj isHead]

namespace Address

section Numbers

variable {radix limit bound : Nat} {leadingZeros : Bool} {digits rest : List Char}

theorem takeWhile_digits (areDigits : ∀ letter ∈ digits, (digitValue? radix letter).isSome)
    (ends : EndsNumber radix rest) :
    (digits ++ rest).takeWhile (fun letter => (digitValue? radix letter).isSome) = digits ∧
      (digits ++ rest).dropWhile (fun letter => (digitValue? radix letter).isSome) = rest := by
  rw [List.takeWhile_append_of_pos areDigits, List.dropWhile_append_of_pos areDigits]
  cases rest with
  | nil => simp
  | cons letter rest =>
    have isOther := ends letter rfl
    simp [isOther]

/-- A number is read back in front of any text that does not go on with a digit. -/
theorem readNumber_toDigits {number : Nat} (least : 1 < radix) (atMost : radix ≤ 16)
    (fits : (Nat.toDigits radix number).length ≤ limit) (small : number < bound)
    (ends : EndsNumber radix rest) :
    readNumber radix limit bound leadingZeros (Nat.toDigits radix number ++ rest) =
      some (number, rest) := by
  have areDigits : ∀ letter ∈ Nat.toDigits radix number, (digitValue? radix letter).isSome :=
    fun _ => isDigit_of_mem_toDigits least atMost
  obtain ⟨taken, dropped⟩ := takeWhile_digits areDigits ends
  -- a number of several digits is not zero, so it does not start with a zero
  have noLeadingZero : (Nat.toDigits radix number).length > 1 →
      (Nat.toDigits radix number).head? ≠ some '0' := by
    intro several
    refine head?_toDigits_ne_zero least atMost (Nat.pos_of_ne_zero ?_)
    rintro rfl
    rw [Nat.toDigits_zero] at several
    exact absurd several (by decide)
  rw [readNumber, taken, dropped, if_neg, unsignedValue?_toDigits least atMost]
  · exact if_pos small
  · simp only [Bool.or_eq_true, Bool.and_eq_true, decide_eq_true_eq, beq_iff_eq]
    rintro (long | ⟨⟨_, several⟩, startsWithZero⟩)
    · exact absurd fits (Nat.not_le_of_gt long)
    · exact noLeadingZero several startsWithZero

theorem readNumber_eq_none (ends : EndsNumber radix rest) :
    readNumber radix limit bound leadingZeros rest = none := by
  have taken := (takeWhile_digits (List.forall_mem_nil _) ends).1
  rw [List.nil_append] at taken
  rw [readNumber, taken]
  simp [unsignedValue?]

end Numbers

/-! ### Pieces between separators -/

theorem intercalate_cons (separator : Char) (piece : List Char) (pieces : List (List Char)) :
    [separator].intercalate (piece :: pieces) =
      piece ++ pieces.flatMap (separator :: ·) := by
  induction pieces generalizing piece with
  | nil => simp
  | cons next rest inductionHypothesis =>
    rw [List.intercalate_cons_cons, inductionHypothesis, List.flatMap_cons]
    simp

theorem mem_intercalate {separator letter : Char} {pieces : List (List Char)}
    (member : letter ∈ [separator].intercalate pieces) :
    letter = separator ∨ ∃ piece ∈ pieces, letter ∈ piece := by
  cases pieces with
  | nil => cases member
  | cons piece pieces =>
    rw [intercalate_cons, List.mem_append, List.mem_flatMap] at member
    rcases member with inFirst | ⟨later, isLater, member⟩
    · exact Or.inr ⟨piece, List.mem_cons_self, inFirst⟩
    · exact (List.mem_cons.1 member).imp_right fun inLater =>
        ⟨later, List.mem_cons_of_mem piece isLater, inLater⟩

/-! ### Addresses of version 4 -/

section IPv4

variable (leniency : Leniency) {rest : List Char}

theorem octets_lt (word : IPv4) : ∀ octet ∈ word.octets, octet < 256 := by
  have small := word.isLt
  intro octet member
  simp only [IPv4.octets, List.mem_cons, List.not_mem_nil, or_false] at member
  omega

theorem ofOctets_octets (word : IPv4) : IPv4.ofOctets word.octets = word := by
  refine BitVec.eq_of_toNat_eq ?_
  have small := word.isLt
  simp only [IPv4.ofOctets, IPv4.octets, List.foldl_cons, List.foldl_nil, BitVec.toNat_ofNat]
  omega

theorem readOctet_decimalLetters {octet : Nat} (small : octet < 256) (ends : EndsNumber 10 rest) :
    readOctet leniency (decimalLetters octet ++ rest) = some (octet, rest) := by
  have fits : (Nat.toDigits 10 octet).length ≤ 3 :=
    (Nat.length_toDigits_le_iff (by decide) (by decide)).2 (Nat.lt_of_lt_of_le small (by decide))
  exact readNumber_toDigits (by decide) (by decide) fits small ends

theorem readDottedOctets_flatMap {octets : List Nat} (small : ∀ octet ∈ octets, octet < 256)
    (ends : EndsNumber 10 rest) :
    readDottedOctets leniency octets.length
      ((octets.map decimalLetters).flatMap ('.' :: ·) ++ rest) = some (octets, rest) := by
  induction octets with
  | nil => rfl
  | cons octet later inductionHypothesis =>
    obtain ⟨isSmall, laterSmall⟩ := List.forall_mem_cons.1 small
    have laterEnds :
        EndsNumber 10 ((later.map decimalLetters).flatMap ('.' :: ·) ++ rest) := by
      cases later with
      | nil => exact ends
      | cons => exact endsNumber_cons (by decide) _
    rw [List.length_cons, List.map_cons, List.flatMap_cons, List.append_assoc, List.cons_append,
      readDottedOctets, readOctet_decimalLetters leniency isSmall laterEnds]
    dsimp only
    rw [inductionHypothesis laterSmall]

/-- An address of version 4 is read back in front of any text that does not go on with a decimal
digit. -/
theorem readIPv4_letters (word : IPv4) (ends : EndsNumber 10 rest) :
    readIPv4 leniency (IPv4.letters word ++ rest) = some (word, rest) := by
  obtain ⟨first, later, octets, isLength⟩ :
      ∃ first later, word.octets = first :: later ∧ later.length = 3 := ⟨_, _, rfl, rfl⟩
  obtain ⟨isSmall, laterSmall⟩ := List.forall_mem_cons.1 (octets ▸ octets_lt word)
  have laterEnds : EndsNumber 10 ((later.map decimalLetters).flatMap ('.' :: ·) ++ rest) := by
    cases later with
    | nil => cases isLength
    | cons => exact endsNumber_cons (by decide) _
  rw [IPv4.letters, octets, List.map_cons, intercalate_cons, List.append_assoc, readIPv4,
    readOctet_decimalLetters leniency isSmall laterEnds]
  dsimp only
  rw [← isLength, readDottedOctets_flatMap leniency laterSmall ends]
  dsimp only
  rw [← octets, ofOctets_octets]

/-- An address of version 4 needs a dot after its first digits. -/
theorem readIPv4_eq_none {letters : List Char}
    (noDot : (letters.dropWhile fun letter => (digitValue? 10 letter).isSome).head? ≠ some '.') :
    readIPv4 leniency letters = none := by
  rw [readIPv4]
  split
  next octet after read =>
    have isAfter : after = letters.dropWhile fun letter => (digitValue? 10 letter).isSome := by
      rw [readOctet, readNumber] at read
      split at read
      · cases read
      · split at read
        · split at read
          · exact (congrArg Prod.snd (Option.some.inj read)).symm
          · cases read
        · cases read
    cases after with
    | nil => rfl
    | cons letter later =>
      have differs : letter ≠ '.' := fun isDot => noDot (by rw [← isAfter, isDot]; rfl)
      rw [readDottedOctets]
      exact fun rest same => differs (List.cons.inj same).1
  next => rfl

theorem readIPv4_of_endsNumber (ends : EndsNumber 10 rest) : readIPv4 leniency rest = none := by
  rw [readIPv4, readOctet, readNumber_eq_none ends]

/-- An address of version 4 is not read from hexadecimal digits without a dot after them. -/
theorem readIPv4_digits {digits : List Char}
    (areDigits : ∀ letter ∈ digits, (digitValue? 16 letter).isSome) (ends : EndsNumber 16 rest)
    (noDot : rest.head? ≠ some '.') : readIPv4 leniency (digits ++ rest) = none := by
  refine readIPv4_eq_none leniency ?_
  have dropped := (takeWhile_digits (List.forall_mem_nil _) ends.decimal).2
  rw [List.nil_append] at dropped
  rw [List.dropWhile_append]
  split
  · rwa [dropped]
  next remains =>
    rw [List.isEmpty_iff] at remains
    obtain ⟨letter, later, same⟩ := List.exists_cons_of_ne_nil remains
    have member : letter ∈ digits :=
      (List.dropWhile_suffix _).subset (same ▸ List.mem_cons_self)
    rw [same]
    intro isDot
    have isDigit := areDigits letter member
    rw [Option.some.inj isDot] at isDigit
    exact absurd isDigit (by decide)

end IPv4

/-! ### Groups -/

/-- A text that cannot be taken for further groups of an address of version 6. -/
structure EndsGroups (rest : List Char) : Prop where
  endsNumber : EndsNumber 16 rest
  noDot : rest.head? ≠ some '.'
  noGroup : ∀ later, rest = ':' :: later → EndsNumber 16 later

/-- Groups in hexadecimal digits, each after a colon. -/
def separatedGroups (groups : List Nat) : List Char :=
  (groups.map (Nat.toDigits 16)).flatMap (':' :: ·)

section Groups

variable (leniency : Leniency) {rest : List Char} {groups : List Nat}

theorem groupLetters_cons (group : Nat) (groups : List Nat) :
    groupLetters (group :: groups) = Nat.toDigits 16 group ++ separatedGroups groups :=
  intercalate_cons ':' _ _

/-- What comes after a group neither goes on with a digit nor with a dot. -/
theorem ends_separatedGroups (ends : EndsGroups rest) (groups : List Nat) :
    EndsNumber 16 (separatedGroups groups ++ rest) ∧
      (separatedGroups groups ++ rest).head? ≠ some '.' := by
  cases groups with
  | nil => exact ⟨ends.endsNumber, ends.noDot⟩
  | cons => exact ⟨endsNumber_cons (by decide) _, by simp [separatedGroups]⟩

theorem readGroup_toDigits {group : Nat} (small : group < 65536) (ends : EndsNumber 16 rest) :
    readGroup (Nat.toDigits 16 group ++ rest) = some (group, rest) := by
  have fits : (Nat.toDigits 16 group).length ≤ 4 :=
    (Nat.length_toDigits_le_iff (by decide) (by decide)).2 small
  exact readNumber_toDigits (by decide) (by decide) fits small ends

theorem isHexadecimal_toDigits (group : Nat) :
    ∀ letter ∈ Nat.toDigits 16 group, (digitValue? 16 letter).isSome :=
  fun _ => isDigit_of_mem_toDigits (by decide) (by decide)

/-- Where no group follows, none is read. -/
theorem readGroups_nil (ends : EndsGroups rest) (count : Nat) (first : Bool) :
    readGroups leniency count first rest = ⟨[], false, rest⟩ := by
  have fails : ∀ start, EndsNumber 16 start →
      (if count - 1 = 0 then none else readIPv4 leniency start) = none ∧
        readGroup start = none := fun start isEnd =>
    ⟨by rw [readIPv4_of_endsNumber leniency isEnd.decimal, ite_self], readNumber_eq_none isEnd⟩
  cases count with
  | zero => rfl
  | succ count =>
    rw [Nat.add_sub_cancel] at fails
    rw [readGroups]
    cases first with
    | true =>
      obtain ⟨noAddress, noGroup⟩ := fails rest ends.endsNumber
      simp only [afterSeparator?, if_true, noAddress, noGroup]
    | false =>
      cases separated : afterSeparator? false rest with
      | none => rfl
      | some start =>
        have isRest : rest = ':' :: start := by
          unfold afterSeparator? at separated
          rw [if_neg Bool.false_ne_true] at separated
          split at separated
          · rw [Option.some.inj separated]
          · cases separated
        obtain ⟨noAddress, noGroup⟩ := fails start (ends.noGroup start isRest)
        simp only [noAddress, noGroup]

/-- A group that follows is read, and then those after it. -/
theorem readGroups_succ {count group : Nat} {first : Bool} {letters more : List Char}
    (separated : afterSeparator? first letters = some (Nat.toDigits 16 group ++ more))
    (small : group < 65536) (ends : EndsNumber 16 more) (noDot : more.head? ≠ some '.') :
    readGroups leniency (count + 1) first letters =
      ⟨group :: (readGroups leniency count false more).groups,
        (readGroups leniency count false more).endsDotted,
        (readGroups leniency count false more).rest⟩ := by
  have noAddress : (if count = 0 then none
      else readIPv4 leniency (Nat.toDigits 16 group ++ more)) = none := by
    rw [readIPv4_digits leniency (isHexadecimal_toDigits group) ends noDot, ite_self]
  rw [readGroups, separated]
  simp only [noAddress, readGroup_toDigits small ends]

theorem readGroups_separatedGroups (ends : EndsGroups rest) {count : Nat}
    (fits : groups.length ≤ count) (small : ∀ group ∈ groups, group < 65536) :
    readGroups leniency count false (separatedGroups groups ++ rest) = ⟨groups, false, rest⟩ := by
  induction groups generalizing count with
  | nil => exact readGroups_nil leniency ends count false
  | cons group later inductionHypothesis =>
    obtain ⟨count, rfl⟩ : ∃ fewer, count = fewer + 1 :=
      ⟨count - 1, (Nat.sub_add_cancel (Nat.le_trans (Nat.succ_le_succ (Nat.zero_le _)) fits)).symm⟩
    obtain ⟨isSmall, laterSmall⟩ := List.forall_mem_cons.1 small
    obtain ⟨laterEnds, noDot⟩ := ends_separatedGroups ends later
    have separated : afterSeparator? false (separatedGroups (group :: later) ++ rest) =
        some (Nat.toDigits 16 group ++ (separatedGroups later ++ rest)) := by
      rw [← List.append_assoc]
      rfl
    rw [readGroups_succ leniency separated isSmall laterEnds noDot,
      inductionHypothesis (Nat.le_of_succ_le_succ fits) laterSmall]

/-- Written groups are read back. -/
theorem readGroups_groupLetters (ends : EndsGroups rest) {count : Nat}
    (fits : groups.length ≤ count) (small : ∀ group ∈ groups, group < 65536) :
    readGroups leniency count true (groupLetters groups ++ rest) = ⟨groups, false, rest⟩ := by
  cases groups with
  | nil => exact readGroups_nil leniency ends count true
  | cons group later =>
    obtain ⟨count, rfl⟩ : ∃ fewer, count = fewer + 1 :=
      ⟨count - 1, (Nat.sub_add_cancel (Nat.le_trans (Nat.succ_le_succ (Nat.zero_le _)) fits)).symm⟩
    obtain ⟨isSmall, laterSmall⟩ := List.forall_mem_cons.1 small
    obtain ⟨laterEnds, noDot⟩ := ends_separatedGroups ends later
    have separated : afterSeparator? true (groupLetters (group :: later) ++ rest) =
        some (Nat.toDigits 16 group ++ (separatedGroups later ++ rest)) := by
      rw [groupLetters_cons, List.append_assoc]
      rfl
    rw [readGroups_succ leniency separated isSmall laterEnds noDot,
      readGroups_separatedGroups leniency ends (Nat.le_of_succ_le_succ fits) laterSmall]

end Groups

/-! ### Addresses of version 6 -/

/-- The run that is left out of an address is a run of zeros between other groups. -/
theorem exists_longestZeroRun (position : Nat) (groups : List Nat) :
    ∃ before after,
      groups = before ++ List.replicate (longestZeroRun position groups).length 0 ++ after ∧
        (longestZeroRun position groups).start = position + before.length := by
  induction groups generalizing position with
  | nil => exact ⟨[], [], rfl, rfl⟩
  | cons group groups inductionHypothesis =>
    rw [longestZeroRun]
    split
    · have zeros : (group :: groups).takeWhile (· == 0) =
          List.replicate ((group :: groups).takeWhile (· == 0)).length 0 :=
        List.eq_replicate_of_mem fun other member => by
          have isZero := List.all_eq_true.1 (List.all_takeWhile (p := (· == 0))) other member
          exact eq_of_beq isZero
      refine ⟨[], (group :: groups).dropWhile (· == 0), ?_, rfl⟩
      rw [← zeros, List.nil_append, List.takeWhile_append_dropWhile]
    · obtain ⟨before, after, same, start⟩ := inductionHypothesis (position + 1)
      refine ⟨group :: before, after, by rw [List.cons_append, List.cons_append, ← same], ?_⟩
      rw [start, List.length_cons]
      omega

theorem eq_append_gap (groups : List Nat) :
    groups = groups.take (longestZeroRun 0 groups).start ++
      List.replicate (longestZeroRun 0 groups).length 0 ++
        groups.drop ((longestZeroRun 0 groups).start + (longestZeroRun 0 groups).length) := by
  obtain ⟨before, after, same, start⟩ := exists_longestZeroRun 0 groups
  rw [Nat.zero_add] at start
  generalize longestZeroRun 0 groups = run at same start ⊢
  subst same
  rw [start, List.drop_left' (by simp), List.append_assoc, List.take_left, List.append_assoc]

theorem groups_lt (word : IPv6) : ∀ group ∈ word.groups, group < 65536 := by
  intro group member
  obtain ⟨place, _, rfl⟩ := List.mem_map.1 member
  exact Nat.mod_lt _ (by decide)

/-- The places of a number, from the greatest one on, make up the number again. -/
theorem foldl_places (number width count start : Nat) :
    ((List.range count).reverse.map fun place => number / 2 ^ (width * place) % 2 ^ width).foldl
      (fun value digit => value * 2 ^ width + digit) start =
        start * 2 ^ (width * count) + number % 2 ^ (width * count) := by
  induction count generalizing start with
  | zero => simp [Nat.mod_one]
  | succ count inductionHypothesis =>
    rw [List.range_succ, List.reverse_append, List.reverse_singleton, List.singleton_append,
      List.map_cons, List.foldl_cons, inductionHypothesis, Nat.mul_succ, Nat.pow_add, Nat.mod_mul]
    rw [Nat.add_mul, Nat.mul_assoc, Nat.mul_comm (2 ^ width), Nat.add_assoc,
      Nat.mul_comm (number / _ % _), Nat.add_comm (number % _)]

theorem ofGroups_groups (word : IPv6) : IPv6.ofGroups word.groups = word := by
  have whole : word.groups.foldl (fun value group => value * 65536 + group) 0 =
      0 * 2 ^ (16 * 8) + word.toNat % 2 ^ (16 * 8) :=
    foldl_places word.toNat 16 8 0
  rw [IPv6.ofGroups, whole, Nat.zero_mul, Nat.zero_add, Nat.mod_eq_of_lt word.isLt,
    BitVec.ofNat_toNat, BitVec.setWidth_eq]

theorem endsGroups_gap (rest : List Char) : EndsGroups (':' :: ':' :: rest) where
  endsNumber := endsNumber_cons (by decide) _
  noDot := by simp
  noGroup _ same := (List.cons.inj same).2 ▸ endsNumber_cons (by decide) _

section IPv6

variable (leniency : Leniency) {rest : List Char}

/-- An address whose groups fit around a gap is read with zeros in the gap. -/
theorem readIPv6_gap {front back : List Nat} {gap : Nat} (isLong : 2 ≤ gap)
    (isWhole : front.length + gap + back.length = 8)
    (small : ∀ group ∈ front ++ back, group < 65536) (ends : EndsGroups rest) :
    readIPv6 leniency (groupLetters front ++ [':', ':'] ++ groupLetters back ++ rest) =
      some (IPv6.ofGroups (front ++ List.replicate gap 0 ++ back), rest) := by
  have readFront : readGroups leniency 8 true
      (groupLetters front ++ (':' :: ':' :: (groupLetters back ++ rest))) =
        ⟨front, false, ':' :: ':' :: (groupLetters back ++ rest)⟩ :=
    readGroups_groupLetters leniency (endsGroups_gap _) (by omega)
      fun group member => small group (List.mem_append_left back member)
  have room : back.length ≤ 8 - front.length - if leniency.emptyGap then 0 else 1 := by
    split <;> omega
  have readBack := readGroups_groupLetters leniency ends room
    fun group member => small group (List.mem_append_right front member)
  have missing : 8 - front.length - back.length = gap := by omega
  have unfinished : front.length ≠ 8 := by omega
  rw [List.append_assoc, List.append_assoc, List.cons_append, List.cons_append, List.nil_append,
    readIPv6, readFront]
  simp only [unfinished, if_false, Bool.false_eq_true, readBack, missing]

/-- The last groups of an address may be written as an address of version 4. -/
theorem readGroups_dotted (word : IPv4) (ends : EndsNumber 10 rest) (count : Nat) :
    readGroups leniency (count + 2) false (':' :: (IPv4.letters word ++ rest)) =
      ⟨[word.toNat / 65536, word.toNat % 65536], true, rest⟩ := by
  rw [readGroups]
  simp only [afterSeparator?, Bool.false_eq_true, if_false, Nat.add_one_ne_zero,
    readIPv4_letters leniency word ends]

theorem ofGroups_mapped {word : IPv6} (isMapped : word.toNat / 2 ^ 32 = 0xFFFF) :
    IPv6.ofGroups ([] ++ List.replicate 5 0 ++
      [0xFFFF, (BitVec.ofNat 32 word.toNat).toNat / 65536,
        (BitVec.ofNat 32 word.toNat).toNat % 65536]) = word := by
  refine BitVec.eq_of_toNat_eq ?_
  have small := word.isLt
  simp only [IPv6.ofGroups, List.replicate, List.nil_append, List.cons_append, List.foldl_cons,
    List.foldl_nil, BitVec.toNat_ofNat]
  omega

/-- The address of a mapped address of version 4 is read with the octets at its end. -/
theorem readIPv6_mapped {word : IPv6} (isMapped : word.toNat / 2 ^ 32 = 0xFFFF)
    (ends : EndsGroups rest) :
    readIPv6 leniency
      ("::ffff:".toList ++ IPv4.letters (BitVec.ofNat 32 word.toNat) ++ rest) =
        some (word, rest) := by
  let dotted := ':' :: (IPv4.letters (BitVec.ofNat 32 word.toNat) ++ rest)
  have written : "::ffff:".toList ++ IPv4.letters (BitVec.ofNat 32 word.toNat) ++ rest =
      ':' :: ':' :: (Nat.toDigits 16 0xFFFF ++ dotted) := by
    have front : "::ffff:".toList = ':' :: ':' :: (Nat.toDigits 16 0xFFFF ++ [':']) := by
      decide +kernel
    rw [front]
    simp [dotted]
  have readFront := readGroups_nil leniency
    (endsGroups_gap (Nat.toDigits 16 0xFFFF ++ dotted)) 8 true
  obtain ⟨count, room⟩ : ∃ count, 8 - (if leniency.emptyGap then 0 else 1) = count + 2 + 1 := by
    split
    · exact ⟨5, rfl⟩
    · exact ⟨4, rfl⟩
  have readBack : readGroups leniency (count + 2 + 1) true (Nat.toDigits 16 0xFFFF ++ dotted) = _ :=
    readGroups_succ leniency rfl (by decide) (endsNumber_cons (by decide) _) (by simp [dotted])
  rw [readGroups_dotted leniency _ ends.endsNumber.decimal] at readBack
  rw [written, readIPv6, readFront]
  simp only [List.length_nil, Nat.reduceEqDiff, if_false, Bool.false_eq_true, Nat.sub_zero, room,
    readBack]
  exact congrArg (fun word => some (word, rest)) (ofGroups_mapped isMapped)

/-- An address of version 6 is read back in front of any text that cannot be taken for a part of
it. -/
theorem readIPv6_letters (word : IPv6) (ends : EndsGroups rest) :
    readIPv6 leniency (IPv6.letters word ++ rest) = some (word, rest) := by
  rw [IPv6.letters]
  split
  next isMapped => exact readIPv6_mapped leniency isMapped ends
  next =>
    dsimp only
    split
    next isLong =>
      have whole := eq_append_gap word.groups
      have small := groups_lt word
      have isEight : word.groups.length = 8 := rfl
      generalize longestZeroRun 0 word.groups = run at whole isLong ⊢
      generalize word.groups.take run.start = front at whole ⊢
      generalize word.groups.drop (run.start + run.length) = back at whole ⊢
      rw [whole, List.length_append, List.length_append, List.length_replicate] at isEight
      rw [readIPv6_gap leniency isLong isEight (fun group member => small group ?_) ends, ← whole,
        ofGroups_groups]
      rw [whole, List.mem_append, List.mem_append]
      exact (List.mem_append.1 member).imp_left Or.inl
    next =>
      have isEight : word.groups.length ≤ 8 := Nat.le_refl 8
      have readAll := readGroups_groupLetters leniency ends isEight (groups_lt word)
      rw [readIPv6, readAll]
      dsimp only
      rw [if_pos (show word.groups.length = 8 from rfl), ofGroups_groups]

/-- The groups of an address of version 6 are not taken for an address of version 4. -/
theorem readIPv4_groupLetters (groups : List Nat) (ends : EndsGroups rest) :
    readIPv4 leniency (groupLetters groups ++ rest) = none := by
  cases groups with
  | nil => exact readIPv4_of_endsNumber leniency ends.endsNumber.decimal
  | cons group later =>
    obtain ⟨laterEnds, noDot⟩ := ends_separatedGroups ends later
    rw [groupLetters_cons, List.append_assoc]
    exact readIPv4_digits leniency (isHexadecimal_toDigits group) laterEnds noDot

theorem readIPv4_letters_v6 (word : IPv6) (ends : EndsGroups rest) :
    readIPv4 leniency (IPv6.letters word ++ rest) = none := by
  rw [IPv6.letters]
  split
  · have front : "::ffff:".toList = ':' :: ':' :: "ffff:".toList := by decide +kernel
    rw [front]
    exact readIPv4_of_endsNumber leniency (endsNumber_cons (by decide) _)
  · dsimp only
    split
    · rw [List.append_assoc, List.append_assoc]
      exact readIPv4_groupLetters leniency _ (endsGroups_gap _)
    · exact readIPv4_groupLetters leniency _ ends

end IPv6

/-! ### Addresses of either family -/

/-- An address is read back in front of any text that cannot be taken for a part of it. -/
theorem read_letters (leniency : Leniency) (address : Address) {rest : List Char}
    (ends : EndsGroups rest) :
    read leniency (address.letters ++ rest) = some (address, rest) := by
  cases address with
  | v4 word => rw [read, letters, readIPv4_letters leniency word ends.endsNumber.decimal]
  | v6 word =>
    rw [read, letters, readIPv4_letters_v6 leniency word ends, readIPv6_letters leniency word ends]
    rfl

theorem endsGroups_nil : EndsGroups [] :=
  ⟨nofun, nofun, nofun⟩

/-- An address is read as it is written. -/
theorem ofLetters?_letters (address : Address) : ofLetters? address.letters = some address := by
  have whole := List.append_nil address.letters
  cases address with
  | v4 word =>
    have read := readIPv4_letters .strict word endsGroups_nil.endsNumber.decimal
    rw [← whole, ofLetters?, letters, read]
  | v6 word =>
    have readNone := readIPv4_letters_v6 .strict word endsGroups_nil
    have read := readIPv6_letters .strict word endsGroups_nil
    rw [← whole, ofLetters?, letters, readNone, read]

theorem letters_ne_nil (address : Address) : address.letters ≠ [] := by
  intro isEmpty
  have read := ofLetters?_letters address
  rw [isEmpty] at read
  exact absurd read nofun

/-! ### The letters of an address -/

/-- A letter that addresses are written with. -/
def IsAddressLetter (letter : Char) : Prop :=
  (digitValue? 16 letter).isSome ∨ letter = '.' ∨ letter = ':'

theorem isAddressLetter_of_mem_ipv4 {word : IPv4} {letter : Char}
    (member : letter ∈ IPv4.letters word) : IsAddressLetter letter := by
  rcases mem_intercalate member with isDot | ⟨_, isOctet, inOctet⟩
  · exact Or.inr (Or.inl isDot)
  · obtain ⟨octet, _, rfl⟩ := List.mem_map.1 isOctet
    exact Or.inl (isHexadecimal_of_isDecimal
      (isDigit_of_mem_toDigits (by decide) (by decide) inOctet))

theorem isAddressLetter_of_mem_groups {groups : List Nat} {letter : Char}
    (member : letter ∈ groupLetters groups) : IsAddressLetter letter := by
  rcases mem_intercalate member with isColon | ⟨_, isGroup, inGroup⟩
  · exact Or.inr (Or.inr isColon)
  · obtain ⟨group, _, rfl⟩ := List.mem_map.1 isGroup
    exact Or.inl (isHexadecimal_toDigits group letter inGroup)

theorem isAddressLetter_of_mem_letters {address : Address} {letter : Char}
    (member : letter ∈ address.letters) : IsAddressLetter letter := by
  cases address with
  | v4 word => exact isAddressLetter_of_mem_ipv4 member
  | v6 word =>
    rw [letters, IPv6.letters] at member
    split at member
    · rcases List.mem_append.1 member with inFront | inOctets
      · have front : "::ffff:".toList = [':', ':', 'f', 'f', 'f', 'f', ':'] := by decide +kernel
        have isOne : letter = ':' ∨ letter = 'f' ∨ letter = ':' := by simpa [front] using inFront
        rcases isOne with rfl | rfl | rfl
        · exact Or.inr (Or.inr rfl)
        · exact Or.inl (by decide)
        · exact Or.inr (Or.inr rfl)
      · exact isAddressLetter_of_mem_ipv4 inOctets
    · dsimp only at member
      split at member
      · rcases List.mem_append.1 member with inFront | inBack
        · rcases List.mem_append.1 inFront with inFront | inGap
          · exact isAddressLetter_of_mem_groups inFront
          · have isColon : letter = ':' := by simpa using inGap
            exact Or.inr (Or.inr isColon)
        · exact isAddressLetter_of_mem_groups inBack
      · exact isAddressLetter_of_mem_groups member

theorem isBlank_of_mem_letters {address : Address} {letter : Char}
    (member : letter ∈ address.letters) : isBlank letter = false := by
  rcases isAddressLetter_of_mem_letters member with isDigit | rfl | rfl
  · exact isBlank_of_isDigit isDigit
  · decide
  · decide

end Address

/-! ### Networks -/

namespace Network

theorem ofLengthLetters?_decimalLetters (network : Network) :
    ofLengthLetters? network.address ('/' :: decimalLetters network.length) = some network := by
  have small : network.length < network.address.family.width + 1 :=
    Nat.lt_succ_of_le network.length_le
  have fits : (Nat.toDigits 10 network.length).length ≤ lengthDigits network.address.family := by
    have someDigits : 0 < lengthDigits network.address.family := by
      cases network.address.family <;> decide
    have widest : network.address.family.width < 10 ^ lengthDigits network.address.family := by
      cases network.address.family <;> decide
    exact (Nat.length_toDigits_le_iff (by decide) someDigits).2
      (Nat.lt_of_le_of_lt network.length_le widest)
  have read : Address.readNumber 10 (lengthDigits network.address.family)
      (network.address.family.width + 1) true (Nat.toDigits 10 network.length ++ []) = _ :=
    Address.readNumber_toDigits (by decide) (by decide) fits small nofun
  rw [List.append_nil] at read
  rw [ofLengthLetters?, decimalLetters, read]
  exact dif_pos network.length_le

/-- A network is read as it is written. -/
theorem ofLetters?_letters (network : Network) : ofLetters? network.letters = some network := by
  have ends : Address.EndsGroups ('/' :: decimalLetters network.length) :=
    ⟨endsNumber_cons (by decide) _, by simp,
      fun _ same => absurd (List.cons.inj same).1 (by decide)⟩
  rw [ofLetters?, letters, Address.read_letters .lenient network.address ends]
  exact network.ofLengthLetters?_decimalLetters

theorem ofText?_text (network : Network) : ofText? network.text = some network := by
  rw [ofText?, text, String.toList_ofList, ofLetters?_letters]

theorem mem_letters_slash (network : Network) : '/' ∈ network.letters :=
  List.mem_append_right _ List.mem_cons_self

theorem isBlank_of_mem_letters {network : Network} {letter : Char}
    (member : letter ∈ network.letters) : isBlank letter = false := by
  rcases List.mem_append.1 member with inAddress | inLength
  · exact Address.isBlank_of_mem_letters inAddress
  · rcases List.mem_cons.1 inLength with rfl | isDigit
    · decide
    · exact isBlank_of_isDigit (isDigit_of_mem_toDigits (by decide) (by decide) isDigit)

end Network

end ControlPlane
