/-
This file proves which texts are static routes, and that a static route that was
read from a text is written as a command whose arguments are read as the same
route. A text is read word by word and each word by itself. The words that are
written need not be those that were read: an address has many spellings, a number
may have zeros in front, and the standard distance is left out. But each of them
is a single word that is read as the same value. The name of an interface is the
word that was read, so it is not taken for an address when it is read again.
-/

import Mathlib.Data.List.Nodup
import ControlPlane.Config.StaticRoute
import ControlPlane.Proofs.Address.Text
import ControlPlane.Proofs.Text.Blank

namespace ControlPlane.StaticRoute

open Text

/-! ### Single words -/

section Word

variable {word : List Char}

theorem readDestination_eq_ok_iff (isWord : IsWord word) {network : Network} :
    readDestination word = .ok network ↔
      '/' ∈ word ∧ Network.ofLetters? word = some network := by
  rw [readDestination, trim_of_isWord isWord, ← List.contains_iff_mem]
  split
  next hasMask =>
    rw [and_iff_right hasMask]
    split
    next found read => rw [read, Except.ok.injEq, Option.some.injEq]
    next read => rw [read]; exact iff_of_false nofun nofun
  next noMask => exact iff_of_false nofun fun known => noMask known.1

/-- A next hop is an address, or the name of an interface that is not one. -/
theorem readNextHop_eq_ok_iff {nextHop : NextHop} :
    readNextHop word = .ok nextHop ↔
      (∃ address, Address.ofLetters? word = some address ∧ nextHop = .gateway address none) ∨
        Address.ofLetters? word = none ∧ ('.' ∉ word ∧ ':' ∉ word) ∧
          nextHop = .interface (String.ofList word) := by
  rw [readNextHop]
  split
  next address read => simp [read, eq_comm]
  next read =>
    simp only [read, Bool.or_eq_true, List.contains_iff_mem]
    split
    next isDotted => simp; tauto
    next isPlain => simp [not_or.1 isPlain, eq_comm]

/-- A distance is a decimal number that is positive and fits into a byte. -/
theorem readDistance_eq_ok_iff {distance : UInt8} :
    readDistance word = .ok distance ↔ IsDecimal word distance.toNat ∧ 0 < distance.toNat := by
  have small : distance.toNat < UInt8.size := distance.toNat_lt
  unfold readDistance
  constructor
  · intro answered
    split at answered
    next => cases answered
    next value read =>
      split at answered
      next inRange =>
        cases answered
        rw [UInt8.toNat_ofNat_of_lt' inRange.2]
        exact ⟨(decimalBelow?_eq_some_iff.1 read).2, inRange.1⟩
      next => cases answered
  · rintro ⟨isDecimal, positive⟩
    have read : decimalBelow? UInt16.size word = some distance.toNat :=
      decimalBelow?_eq_some_iff.2 ⟨Nat.lt_trans small (by decide), isDecimal⟩
    rw [read]
    dsimp only
    rw [if_pos ⟨positive, small⟩, UInt8.ofNat_toNat]

end Word

/-! ### Routes -/

/-- Except for a failure, a step of a reader passes its value on. -/
theorem readBind_eq_ok_iff {Value Result : Type} {first : Except ConfigError Value}
    {next : Value → Except ConfigError Result} {result : Result} :
    first >>= next = .ok result ↔ ∃ value, first = .ok value ∧ next value = .ok result := by
  cases first with
  | ok value =>
    constructor
    · exact fun passed => ⟨value, rfl, passed⟩
    · rintro ⟨_, same, passed⟩
      cases same
      exact passed
  | error error => exact iff_of_false nofun nofun

/-- What the words after the next hop say about the distance. -/
def ReadsDistance : List (List Char) → UInt8 → Prop
  | [], distance => distance = standardDistance
  | [word], distance => readDistance word = .ok distance
  | _, _ => False

/-- A route is read word by word. -/
theorem ofWords_eq_ok_iff {words : List (List Char)} {destination : Network} {nextHop : NextHop}
    {distance : UInt8} :
    ofWords words = .ok ⟨destination, nextHop, distance⟩ ↔
      ∃ first second rest, words = first :: second :: rest ∧
        readDestination first = .ok destination ∧ readNextHop second = .ok nextHop ∧
          ReadsDistance rest distance := by
  have returned : ∀ made route : StaticRoute,
      (pure made : Except ConfigError StaticRoute) = .ok route ↔ made = route :=
    fun _ _ => ⟨Except.ok.inj, congrArg Except.ok⟩
  have thrown : ∀ (error : ConfigError) (route : StaticRoute),
      (throw error : Except ConfigError StaticRoute) = .ok route ↔ False :=
    fun _ _ => iff_of_false nofun id
  match words with
  | [] => simp [ofWords, readBind_eq_ok_iff, thrown]
  | [_] => simp [ofWords, readBind_eq_ok_iff, thrown]
  | [_, _] =>
    simp only [ofWords, readBind_eq_ok_iff, returned]
    simp [ReadsDistance, eq_comm]
  | [_, _, _] =>
    simp only [ofWords, readBind_eq_ok_iff, returned]
    simp [ReadsDistance]
  | _ :: _ :: _ :: _ :: _ => simp [ofWords, readBind_eq_ok_iff, thrown, ReadsDistance]

/-- A network with an explicit mask length. -/
def IsDestinationWord (word : List Char) : Prop :=
  '/' ∈ word ∧ ∃ network, Network.ofLetters? word = some network

/-- An address, or a text without the letters that separate the parts of addresses. -/
def IsNextHopWord (word : List Char) : Prop :=
  (∃ address, Address.ofLetters? word = some address) ∨ '.' ∉ word ∧ ':' ∉ word

/-- A decimal number between 1 and 255; it may have a plus sign and zeros in front. -/
def IsDistanceWord (word : List Char) : Prop :=
  ∃ value, IsDecimal word value ∧ 1 ≤ value ∧ value ≤ 255

/-- The words of a static route. -/
def IsRouteWords : List (List Char) → Prop
  | [destination, nextHop] => IsDestinationWord destination ∧ IsNextHopWord nextHop
  | [destination, nextHop, distance] =>
    IsDestinationWord destination ∧ IsNextHopWord nextHop ∧ IsDistanceWord distance
  | _ => False

theorem isDestinationWord_iff {word : List Char} (isWord : IsWord word) :
    IsDestinationWord word ↔ ∃ network, readDestination word = .ok network := by
  simp only [readDestination_eq_ok_iff isWord, exists_and_left]
  rfl

theorem isNextHopWord_iff {word : List Char} :
    IsNextHopWord word ↔ ∃ nextHop, readNextHop word = .ok nextHop := by
  simp only [readNextHop_eq_ok_iff, IsNextHopWord]
  cases Address.ofLetters? word <;> simp

theorem isDistanceWord_iff {word : List Char} :
    IsDistanceWord word ↔ ∃ distance, readDistance word = .ok distance := by
  simp only [readDistance_eq_ok_iff]
  constructor
  · rintro ⟨value, isDecimal, least, most⟩
    refine ⟨UInt8.ofNat value, ?_⟩
    rw [UInt8.toNat_ofNat_of_lt' (Nat.lt_succ_of_le most)]
    exact ⟨isDecimal, least⟩
  · rintro ⟨distance, isDecimal, positive⟩
    exact ⟨distance.toNat, isDecimal, positive, Nat.le_of_lt_succ distance.toNat_lt⟩

/-- The texts that are static routes. -/
theorem exists_ofText_iff {text : String} :
    (∃ route, ofText text = .ok route) ↔ IsRouteWords (words text.toList) := by
  have areWords : ∀ word ∈ words text.toList, IsWord word := fun _ => isWord_of_mem_words
  have someRoute : (∃ route, ofText text = .ok route) ↔ ∃ destination nextHop distance,
      ofWords (words text.toList) = .ok ⟨destination, nextHop, distance⟩ :=
    ⟨fun ⟨⟨_, _, _⟩, read⟩ => ⟨_, _, _, read⟩, fun ⟨_, _, _, read⟩ => ⟨_, read⟩⟩
  rw [someRoute]
  simp only [ofWords_eq_ok_iff]
  match words text.toList, areWords with
  | [], _ => simp [IsRouteWords]
  | [_], _ => simp [IsRouteWords]
  | [first, _], areWords =>
    have isWord := areWords first List.mem_cons_self
    simp [IsRouteWords, isDestinationWord_iff isWord, isNextHopWord_iff, ReadsDistance]
  | [first, _, _], areWords =>
    have isWord := areWords first List.mem_cons_self
    simp [IsRouteWords, isDestinationWord_iff isWord, isNextHopWord_iff, isDistanceWord_iff,
      ReadsDistance]
  | _ :: _ :: _ :: _ :: _, _ => simp [IsRouteWords, ReadsDistance]

/-! ### Writing and reading again -/

theorem isWord_letters (address : Address) : IsWord address.letters :=
  ⟨address.letters_ne_nil, fun _ => Address.isBlank_of_mem_letters⟩

theorem isWord_networkLetters (network : Network) : IsWord network.letters :=
  ⟨List.ne_nil_of_mem network.mem_letters_slash, fun _ => Network.isBlank_of_mem_letters⟩

theorem isWord_decimalLetters (number : Nat) : IsWord (decimalLetters number) :=
  ⟨Nat.toDigits_ne_nil, fun _ member =>
    isBlank_of_isDigit (isDigit_of_mem_toDigits (by decide) (by decide) member)⟩

/-- A next hop that was read from a word is written as a word that is read as the same next
hop. -/
theorem readNextHop_configText {word : List Char} (isWord : IsWord word) {nextHop : NextHop}
    (read : readNextHop word = .ok nextHop) :
    IsWord nextHop.configText.toList ∧ readNextHop nextHop.configText.toList = .ok nextHop := by
  rcases readNextHop_eq_ok_iff.1 read with ⟨address, _, rfl⟩ | ⟨_, _, rfl⟩
  · rw [NextHop.configText, Address.text, String.toList_ofList]
    exact ⟨isWord_letters address,
      readNextHop_eq_ok_iff.2 (Or.inl ⟨address, address.ofLetters?_letters, rfl⟩)⟩
  · rw [NextHop.configText, String.toList_ofList]
    exact ⟨isWord, read⟩

/-- The words of the arguments. -/
theorem words_argumentText {route : StaticRoute} (isWord : IsWord route.nextHop.configText.toList) :
    words route.argumentText.toList =
      route.destination.letters :: route.nextHop.configText.toList ::
        if route.distance = standardDistance then []
        else [decimalLetters route.distance.toNat] := by
  have blank : " ".toList = [' '] := rfl
  rw [argumentText, Network.text]
  split
  · simp only [String.toList_append, String.toList_ofList, blank, String.toList_empty,
      List.append_nil, List.append_assoc, List.singleton_append]
    rw [words_append_blank (isWord_networkLetters _), words_of_isWord isWord]
  · simp only [String.toList_append, String.toList_ofList, blank, decimal,
      List.append_assoc, List.cons_append, List.nil_append]
    rw [words_append_blank (isWord_networkLetters _), words_append_blank isWord,
      words_of_isWord (isWord_decimalLetters _)]

/-- The arguments of a route that was read are read as the same route. -/
theorem ofText_argumentText {text : String} {route : StaticRoute} (read : ofText text = .ok route) :
    ofText route.argumentText = .ok route ∧ 0 < route.distance.toNat := by
  obtain ⟨destination, nextHop, distance⟩ := route
  obtain ⟨first, second, rest, isText, _, readSecond, readRest⟩ := ofWords_eq_ok_iff.1 read
  have areWords : ∀ word ∈ words text.toList, IsWord word := fun _ => isWord_of_mem_words
  rw [isText] at areWords
  obtain ⟨isWord, sameHop⟩ :=
    readNextHop_configText (areWords second (by simp)) readSecond
  have positive : 0 < distance.toNat := by
    match rest, readRest with
    | [], isStandard => rw [isStandard]; decide
    | [_], readDistance => exact (readDistance_eq_ok_iff.1 readDistance).2
  refine ⟨?_, positive⟩
  have written : words (argumentText ⟨destination, nextHop, distance⟩).toList = _ :=
    words_argumentText isWord
  rw [ofText, written]
  refine ofWords_eq_ok_iff.2 ⟨_, _, _, rfl, ?_, sameHop, ?_⟩
  · exact (readDestination_eq_ok_iff (isWord_networkLetters destination)).2
      ⟨destination.mem_letters_slash, destination.ofLetters?_letters⟩
  · dsimp only
    split
    next isStandard => exact isStandard
    next =>
      exact readDistance_eq_ok_iff.2 ⟨isDecimal_decimalLetters _, positive⟩

/-- What stands in front of the arguments. -/
theorem command_eq (family : Family) :
    commandWord family ++ " route " =
      if family = .ipv4 then "ip route " else "ipv6 route " := by
  cases family <;> rfl

/-- A static route that is read has a distance between 1 and 255 and is written as a command with
arguments that are read as the same route. A text can be read exactly if it has two or three
words: a network with a mask length, a next hop and perhaps a distance. -/
theorem ofText_reread_and_iff_words (text : String) :
    (∀ route, ofText text = .ok route →
      (1 ≤ route.distance.toNat ∧ route.distance.toNat ≤ 255) ∧
        ∃ arguments, ofText arguments = .ok route ∧
          route.text =
            (if route.destination.family = .ipv4 then "ip route " else "ipv6 route ") ++
              arguments) ∧
      ((∃ route, ofText text = .ok route) ↔ IsRouteWords (words text.toList)) := by
  refine ⟨fun route read => ?_, exists_ofText_iff⟩
  obtain ⟨readAgain, positive⟩ := ofText_argumentText read
  refine ⟨⟨positive, Nat.le_of_lt_succ route.distance.toNat_lt⟩, route.argumentText, readAgain, ?_⟩
  exact congrArg (· ++ route.argumentText) (command_eq route.destination.family)

/-- Another spelling of the address, digits as the name of an interface, and a distance with a
plus sign and a zero in front. -/
theorem ofText_reread_looseWords :
    let loose := "\t2002:0::1/120\u2003007  +0255\n"
    let route : StaticRoute :=
      ⟨⟨.v6 (IPv6.ofGroups [0x2002, 0, 0, 0, 0, 0, 0, 1]), 120, by decide⟩, .interface "007", 255⟩
    ofText loose = .ok route ∧ route.text = "ipv6 route 2002::1/120 007 255" ∧
      ∃ arguments, ofText arguments = .ok route ∧ route.text = "ipv6 route " ++ arguments := by
  intro loose route
  have read : ofText loose = .ok route := by decide +kernel
  obtain ⟨arguments, readAgain, written⟩ := ((ofText_reread_and_iff_words loose).1 route read).2
  exact ⟨read, by decide +kernel, arguments, readAgain, written⟩

end ControlPlane.StaticRoute
