/-
This file proves that the state of a LAG is derived from its members. Every event
refreshes the LAG of its interface and no other one, which is enough as long as
no other LAG is a member of a LAG: a refresh then changes the members of no other
LAG. From this it follows that an interface that goes down and comes up again
leaves no trace, neither in its own state nor in that of its LAG.
-/

import ControlPlane.Proofs.InterfaceEvents

namespace ControlPlane

/-! ### Members -/

/-- What the interface contributes to a LAG if it is a member of it: its kind, and whether it is
up. -/
def Interface.asMember? (interface : Interface) (lag : String) : Option (InterfaceKind × Bool) :=
  if interface.lag = some lag then some (interface.kind, interface.isUp) else none

/-- The interface with a derived operational state, if it is a LAG. -/
def Interface.withLagOper (oper : LinkState) (interface : Interface) : Interface :=
  if interface.kind = .lag then { interface with oper } else interface

namespace Interface

variable {interface : Interface} {lag : String}

theorem asMember?_eq_some_iff {kind : InterfaceKind} {isUp : Bool} :
    interface.asMember? lag = some (kind, isUp) ↔
      interface.lag = some lag ∧ interface.kind = kind ∧ interface.isUp = isUp := by
  rw [asMember?, Option.ite_none_right_eq_some, Option.some.injEq, Prod.mk.injEq]

theorem lag_withLagOper (oper : LinkState) (interface : Interface) :
    (interface.withLagOper oper).lag = interface.lag := by
  unfold withLagOper
  split <;> rfl

theorem isUp_withLagOper_up (isUp : interface.isUp = true) :
    (interface.withLagOper .up).isUp = true := by
  unfold withLagOper
  split
  · exact Bool.and_eq_true_iff.2 ⟨(Bool.and_eq_true_iff.1 isUp).1, rfl⟩
  · exact isUp

theorem isUp_of_withLagOper_down (isUp : (interface.withLagOper .down).isUp = true) :
    interface.isUp = true := by
  unfold withLagOper at isUp
  split at isUp
  · cases (Bool.and_eq_true_iff.1 isUp).2
  · exact isUp

end Interface

namespace InterfaceTable

/-- What the interface of a name contributes to a LAG. -/
def memberAt? (table : InterfaceTable) (lag name : String) : Option (InterfaceKind × Bool) :=
  (table.find? name).bind (Interface.asMember? · lag)

/-- The operational state that the members of a LAG give it. -/
def lagOper (table : InterfaceTable) (lag : String) : LinkState :=
  .ofBool ((table.lagMembers lag).any Interface.isUp)

/-- No other LAG is a member of the LAG. -/
def IsFlat (table : InterfaceTable) (lag : String) : Prop :=
  ∀ name isUp, lag ≠ name → table.memberAt? lag name ≠ some (.lag, isUp)

/-- The LAG, if it is one and is flat, has the state that its members give it. -/
def LagDerivedAt (table : InterfaceTable) (lag : String) : Prop :=
  table.IsFlat lag → ∀ interface, table.find? lag = some interface → interface.kind = .lag →
    interface.oper = table.lagOper lag

theorem any_lagMembers_iff {table : InterfaceTable} {lag : String} :
    (table.lagMembers lag).any Interface.isUp = true ↔
      ∃ name member, table.find? name = some member ∧ member.lag = some lag ∧
        member.isUp = true := by
  rw [List.any_eq_true]
  constructor
  · rintro ⟨member, listed, isUp⟩
    obtain ⟨listed, isMember⟩ := List.mem_filter.1 listed
    obtain ⟨name, found⟩ := SortedMap.mem_values_iff.1 listed
    exact ⟨name, member, found, of_decide_eq_true isMember, isUp⟩
  · rintro ⟨name, member, found, isMember, isUp⟩
    exact ⟨member, List.mem_filter.2
      ⟨SortedMap.mem_values_iff.2 ⟨name, found⟩, decide_eq_true isMember⟩, isUp⟩

theorem memberAt?_eq_some_iff {table : InterfaceTable} {lag name : String} {kind : InterfaceKind}
    {isUp : Bool} : table.memberAt? lag name = some (kind, isUp) ↔
      ∃ member, table.find? name = some member ∧ member.lag = some lag ∧ member.kind = kind ∧
        member.isUp = isUp := by
  simp only [memberAt?, Option.bind_eq_some_iff, Interface.asMember?_eq_some_iff]

section Congruence

variable {before after : InterfaceTable} {lag : String}

theorem lagOper_congr (same : ∀ name, after.memberAt? lag name = before.memberAt? lag name) :
    after.lagOper lag = before.lagOper lag := by
  refine congrArg LinkState.ofBool (Bool.eq_iff_iff.2 ?_)
  have alike : ∀ table : InterfaceTable, (table.lagMembers lag).any Interface.isUp = true ↔
      ∃ name kind, table.memberAt? lag name = some (kind, true) := fun table => by
    simp only [any_lagMembers_iff, memberAt?_eq_some_iff]
    grind
  simp only [alike, same]

/-- A LAG stays derived if it keeps its own state and its members. Members that are other LAGs may
change, as the LAG is not flat then. -/
theorem LagDerivedAt.congr (derived : before.LagDerivedAt lag)
    (own : ∀ interface, after.find? lag = some interface → interface.kind = .lag →
      ∃ earlier, before.find? lag = some earlier ∧ earlier.kind = .lag ∧
        interface.oper = earlier.oper)
    (members : ∀ name, after.memberAt? lag name = before.memberAt? lag name ∨
      lag ≠ name ∧ ∃ isUp, after.memberAt? lag name = some (.lag, isUp)) :
    after.LagDerivedAt lag := by
  intro isFlat interface found isLag
  have same : ∀ name, after.memberAt? lag name = before.memberAt? lag name := fun name =>
    (members name).resolve_right fun ⟨other, isUp, nested⟩ => isFlat name isUp other nested
  obtain ⟨earlier, foundEarlier, wasLag, sameOper⟩ := own interface found isLag
  rw [sameOper, lagOper_congr same]
  exact derived (fun name isUp other => same name ▸ isFlat name isUp other) earlier foundEarlier
    wasLag

end Congruence

/-! ### Refreshing a LAG -/

section RefreshLag

variable (table : InterfaceTable) (lag : String)

theorem find?_refreshLag (name : String) :
    (table.refreshLag lag).find? name =
      if lag = name then (table.find? name).map (Interface.withLagOper (table.lagOper lag))
      else table.find? name :=
  find?_modify table lag name _

/-- A refresh changes no member but the LAG, if that is a member. -/
theorem memberAt?_refreshLag (listed name : String) :
    (table.refreshLag lag).memberAt? listed name = table.memberAt? listed name ∨
      lag = name ∧ ∃ isUp, (table.refreshLag lag).memberAt? listed name = some (.lag, isUp) := by
  rw [memberAt?, memberAt?, find?_refreshLag]
  by_cases here : lag = name
  · rw [if_pos here]
    cases table.find? name with
    | none => exact Or.inl rfl
    | some interface =>
      rw [Option.map_some, Option.bind_some, Option.bind_some, Interface.withLagOper]
      by_cases isLag : interface.kind = .lag
      · rw [if_pos isLag]
        by_cases isMember : interface.lag = some listed
        · refine Or.inr ⟨here, ?_⟩
          rw [Interface.asMember?, if_pos isMember]
          exact ⟨_, congrArg (fun kind => some (kind, _)) isLag⟩
        · left
          rw [Interface.asMember?, Interface.asMember?, if_neg isMember, if_neg isMember]
      · rw [if_neg isLag]
        exact Or.inl rfl
  · rw [if_neg here]
    exact Or.inl rfl

/-- The members of a LAG give it the same state after it was refreshed, also if it is a member of
itself. -/
theorem lagOper_refreshLag : (table.refreshLag lag).lagOper lag = table.lagOper lag := by
  have others : ∀ name, lag ≠ name → (table.refreshLag lag).find? name = table.find? name :=
    fun name other => by rw [find?_refreshLag, if_neg other]
  have own : (table.refreshLag lag).find? lag =
      (table.find? lag).map (Interface.withLagOper (table.lagOper lag)) := by
    rw [find?_refreshLag, if_pos rfl]
  refine congrArg LinkState.ofBool (Bool.eq_iff_iff.2 ⟨fun anyUp => ?_, fun anyUp => ?_⟩)
  · obtain ⟨name, member, found, isMember, isUp⟩ := any_lagMembers_iff.1 anyUp
    by_cases here : lag = name
    · subst here
      cases before : (table.lagMembers lag).any Interface.isUp with
      | true => rfl
      | false =>
        have isDown : table.lagOper lag = .down := congrArg LinkState.ofBool before
        rw [own, isDown] at found
        obtain ⟨earlier, foundEarlier, rfl⟩ := Option.map_eq_some_iff.1 found
        rw [Interface.lag_withLagOper] at isMember
        rw [← before]
        exact any_lagMembers_iff.2 ⟨lag, earlier, foundEarlier, isMember,
          Interface.isUp_of_withLagOper_down isUp⟩
    · exact any_lagMembers_iff.2 ⟨name, member, (others name here).symm.trans found, isMember, isUp⟩
  · have isRaised : table.lagOper lag = .up := congrArg LinkState.ofBool anyUp
    obtain ⟨name, member, found, isMember, isUp⟩ := any_lagMembers_iff.1 anyUp
    by_cases here : lag = name
    · subst here
      rw [found, isRaised, Option.map_some] at own
      exact any_lagMembers_iff.2 ⟨lag, _, own, (Interface.lag_withLagOper _ _).trans isMember,
        Interface.isUp_withLagOper_up isUp⟩
    · exact any_lagMembers_iff.2 ⟨name, member, (others name here).trans found, isMember, isUp⟩

/-- A LAG is derived after it was refreshed. -/
theorem lagDerivedAt_refreshLag : (table.refreshLag lag).LagDerivedAt lag := by
  intro _ interface found isLag
  rw [find?_refreshLag, if_pos rfl] at found
  obtain ⟨earlier, _, rfl⟩ := Option.map_eq_some_iff.1 found
  rw [lagOper_refreshLag]
  rw [Interface.withLagOper] at isLag ⊢
  by_cases wasLag : earlier.kind = .lag
  · rw [if_pos wasLag]
  · rw [if_neg wasLag] at isLag
    exact absurd isLag wasLag

variable {table}

/-- To refresh a LAG does the others no harm. -/
theorem LagDerivedAt.refreshLag {listed : String}
    (derived : lag ≠ listed → table.LagDerivedAt listed) :
    (table.refreshLag lag).LagDerivedAt listed := by
  by_cases here : lag = listed
  · subst here
    exact table.lagDerivedAt_refreshLag lag
  · refine (derived here).congr (fun interface found isLag => ?_) fun name => ?_
    · rw [find?_refreshLag, if_neg here] at found
      exact ⟨interface, found, isLag, rfl⟩
    · refine (table.memberAt?_refreshLag lag listed name).imp_right fun ⟨same, nested⟩ => ?_
      exact ⟨fun own => here (same.trans own.symm), nested⟩

end RefreshLag

/-- A refresh for an interface makes up for all that happened to its LAG. -/
theorem LagDerivedAt.refreshLagOf {table : InterfaceTable} {name listed : String}
    (derived : table.lagOf? name ≠ some listed → table.LagDerivedAt listed) :
    (table.refreshLagOf name).LagDerivedAt listed := by
  unfold InterfaceTable.refreshLagOf
  cases own : table.lagOf? name with
  | none => exact derived (by rw [own]; nofun)
  | some lag =>
    refine LagDerivedAt.refreshLag lag fun other => derived fun same => other ?_
    exact Option.some.inj (own.symm.trans same)

/-! ### Events -/

section Events

variable {table after : InterfaceTable} {name : String} {changes : List InterfaceChange}

/-- Changes of an interface that is no member of the LAG, or stays up or down, leave the LAG
derived. -/
theorem LagDerivedAt.modify {listed : String} (derived : table.LagDerivedAt listed)
    {change : Interface → Interface}
    (sameKind : ∀ interface, (change interface).kind = interface.kind)
    (sameLag : ∀ interface, (change interface).lag = interface.lag)
    (sameOper : ∀ interface, table.find? name = some interface → interface.kind = .lag →
      (change interface).oper = interface.oper)
    (unaffected : ∀ interface, table.find? name = some interface →
      interface.lag ≠ some listed ∨ (change interface).isUp = interface.isUp) :
    (table.modify name change).LagDerivedAt listed := by
  refine derived.congr (fun interface found isLag => ?_) fun member => Or.inl ?_
  · rw [find?_modify] at found
    split at found
    next here =>
      obtain ⟨earlier, foundEarlier, rfl⟩ := Option.map_eq_some_iff.1 found
      have wasLag := (sameKind earlier).symm.trans isLag
      exact ⟨earlier, foundEarlier, wasLag, sameOper earlier (here ▸ foundEarlier) wasLag⟩
    next => exact ⟨interface, found, isLag, rfl⟩
  · rw [memberAt?, memberAt?, find?_modify]
    split
    next here =>
      subst here
      cases found : table.find? name with
      | none => rfl
      | some interface =>
        rw [Option.map_some, Option.bind_some, Option.bind_some, Interface.asMember?,
          Interface.asMember?, sameLag, sameKind]
        rcases unaffected interface found with other | sameUp
        · rw [if_neg other, if_neg other]
        · rw [sameUp]
    next => rfl

/-- All LAGs that are flat have the states that their members give them. -/
def LagsDerived (table : InterfaceTable) : Prop :=
  ∀ lag, table.LagDerivedAt lag

/-- The state of an interface changes, and its LAG follows. -/
theorem LagsDerived.linkChange (derived : table.LagsDerived) {change : Interface → Interface}
    (sameKind : ∀ interface, (change interface).kind = interface.kind)
    (sameLag : ∀ interface, (change interface).lag = interface.lag)
    (sameOper : ∀ interface, table.find? name = some interface → interface.kind = .lag →
      (change interface).oper = interface.oper) :
    (table.linkChange name change).LagsDerived := by
  refine fun listed => LagDerivedAt.refreshLagOf fun other => ?_
  refine (derived listed).modify sameKind sameLag sameOper fun interface found => Or.inl ?_
  rwa [lagOf?, find?_modify, if_pos rfl, found, Option.map_some, Option.bind_some, sameLag] at other

/-- What does not bring an interface up or down concerns no LAG. -/
theorem LagsDerived.modify (derived : table.LagsDerived) {change : Interface → Interface}
    (sameKind : ∀ interface, (change interface).kind = interface.kind)
    (sameLag : ∀ interface, (change interface).lag = interface.lag)
    (sameAdmin : ∀ interface, (change interface).admin = interface.admin)
    (sameOper : ∀ interface, (change interface).oper = interface.oper) :
    (table.modify name change).LagsDerived :=
  fun listed => (derived listed).modify sameKind sameLag (fun interface _ _ => sameOper interface)
    fun interface _ => Or.inr (by rw [Interface.isUp, Interface.isUp, sameAdmin, sameOper])

theorem LagsDerived.setAdmin (derived : table.LagsDerived) {isUp : Bool}
    (answered : table.setAdmin name isUp = .ok (changes, after)) : after.LagsDerived := by
  obtain ⟨rfl, rfl⟩ := setAdmin_cases answered
  refine derived.linkChange (fun _ => rfl) (fun _ => rfl) fun interface _ isLag => ?_
  rw [Interface.switched, isLag]
  rfl

theorem LagsDerived.setOper (derived : table.LagsDerived) {isUp : Bool}
    (answered : table.setOper name isUp = .ok (changes, after)) : after.LagsDerived := by
  rcases setOper_cases answered with ⟨rfl, rfl⟩ | ⟨interface, found, noLag, rfl, rfl⟩
  · exact derived
  · refine derived.linkChange (fun _ => rfl) (fun _ => rfl) fun other isFound isLag => ?_
    rw [found] at isFound
    cases isFound
    exact absurd isLag noLag

theorem LagsDerived.setRouting (derived : table.LagsDerived) {routes : Bool}
    (answered : table.setRouting name routes = .ok (changes, after)) : after.LagsDerived := by
  rcases setRouting_cases answered with ⟨rfl, rfl⟩ | ⟨_, _, _, rfl, rfl⟩
  · exact derived
  · exact derived.modify (fun _ => rfl) (fun _ => rfl) (fun _ => rfl) fun _ => rfl

theorem LagsDerived.addAddress (derived : table.LagsDerived) {network : Network}
    (answered : table.addAddress name network = .ok (changes, after)) : after.LagsDerived := by
  obtain ⟨_, _, ⟨_, rfl, rfl⟩ | ⟨_, rfl, rfl⟩⟩ := addAddress_cases answered
  · exact derived
  · exact derived.modify (fun _ => rfl) (fun _ => rfl) (fun _ => rfl) fun _ => rfl

theorem LagsDerived.removeAddress (derived : table.LagsDerived) {network : Network}
    (answered : table.removeAddress name network = .ok (changes, after)) : after.LagsDerived := by
  obtain ⟨_, _, ⟨_, rfl, rfl⟩ | ⟨_, rfl, rfl⟩⟩ := removeAddress_cases answered
  · exact derived
  · exact derived.modify (fun _ => rfl) (fun _ => rfl) (fun _ => rfl) fun _ => rfl

theorem LagsDerived.moveTo (derived : table.LagsDerived) {vrf : UInt32}
    (answered : table.moveTo name vrf = .ok (changes, after)) : after.LagsDerived := by
  obtain ⟨_, _, ⟨_, rfl, rfl⟩ | ⟨_, rfl, rfl⟩⟩ := moveTo_cases answered
  · exact derived
  · exact derived.modify (fun _ => rfl) (fun _ => rfl) (fun _ => rfl) fun _ => rfl

/-- A name that is no LAG has no state to derive. -/
theorem lagDerivedAt_of_kind_ne {listed : String}
    (noLag : ∀ interface, table.find? listed = some interface → interface.kind ≠ .lag) :
    table.LagDerivedAt listed :=
  fun _ interface found isLag => absurd isLag (noLag interface found)

/-- An interface that comes or goes concerns its own LAG alone. -/
theorem LagDerivedAt.replaced {listed : String} (derived : table.LagDerivedAt listed)
    (others : ∀ other, name ≠ other → after.find? other = table.find? other)
    (elsewhere : listed ≠ name)
    (was : ∀ interface, table.find? name = some interface → interface.lag ≠ some listed)
    (becomes : ∀ interface, after.find? name = some interface → interface.lag ≠ some listed) :
    after.LagDerivedAt listed := by
  have nothing : ∀ found : Option Interface,
      (∀ interface, found = some interface → interface.lag ≠ some listed) →
      found.bind (Interface.asMember? · listed) = none := by
    intro found other
    cases found with
    | none => rfl
    | some interface => exact if_neg (other interface rfl)
  refine derived.congr (fun interface found isLag => ?_) fun member => Or.inl ?_
  · rw [others listed (Ne.symm elsewhere)] at found
    exact ⟨interface, found, isLag, rfl⟩
  · by_cases here : name = member
    · subst here
      rw [memberAt?, memberAt?, nothing _ was, nothing _ becomes]
    · rw [memberAt?, memberAt?, others member here]

theorem LagsDerived.appear (derived : table.LagsDerived) {interface : Interface}
    (answered : table.appear interface = .ok (changes, after)) : after.LagsDerived := by
  obtain ⟨between, added, answered⟩ := exists_of_bind_eq_ok answered
  cases answered
  obtain ⟨free, found⟩ := find?_of_add added
  have ownFound : between.find? interface.name = some interface := by rw [found, if_pos rfl]
  have addedDerived : ∀ listed, interface.lag ≠ some listed → listed ≠ interface.name →
      between.LagDerivedAt listed := by
    intro listed other elsewhere
    refine (derived listed).replaced (fun name here => by rw [found, if_neg here]) elsewhere
      (fun known isFound => ?_) fun known isFound => ?_
    · rw [free] at isFound
      cases isFound
    · rw [ownFound] at isFound
      cases isFound
      exact other
  have ownLag : ∀ table : InterfaceTable, table.find? interface.name = some interface →
      table.lagOf? interface.name = interface.lag := by
    intro table isFound
    rw [lagOf?, isFound, Option.bind_some]
  refine fun listed => LagDerivedAt.refreshLagOf fun other => ?_
  by_cases isLag : interface.kind = .lag
  · rw [if_pos isLag, (restates_refreshLag between interface.name).lagOf?_eq, ownLag _ ownFound]
      at other
    rw [if_pos isLag]
    exact LagDerivedAt.refreshLag interface.name fun elsewhere =>
      addedDerived listed other (Ne.symm elsewhere)
  · rw [if_neg isLag, ownLag _ ownFound] at other
    rw [if_neg isLag]
    by_cases here : listed = interface.name
    · refine lagDerivedAt_of_kind_ne fun known isFound => ?_
      rw [here, ownFound] at isFound
      cases isFound
      exact isLag
    · exact addedDerived listed other here

theorem LagsDerived.disappear (derived : table.LagsDerived) {interface : Interface}
    (answered : table.disappear name = .ok (interface, changes, after)) : after.LagsDerived := by
  obtain ⟨⟨_, _⟩, removed, answered⟩ := exists_of_bind_eq_ok answered
  obtain ⟨_, got, removed⟩ := exists_of_bind_eq_ok removed
  cases removed
  cases answered
  have found := find?_of_get got
  have gone : (table.without name).find? name = none := by rw [find?_without, if_pos rfl]
  have removedDerived : ∀ listed, interface.lag ≠ some listed →
      (table.without name).LagDerivedAt listed := by
    intro listed other
    by_cases here : listed = name
    · refine lagDerivedAt_of_kind_ne fun known isFound => ?_
      rw [here, gone] at isFound
      cases isFound
    · refine (derived listed).replaced (fun member elsewhere => ?_) here
        (fun known isFound => ?_) fun known isFound => ?_
      · rw [find?_without, if_neg elsewhere]
      · rw [found] at isFound
        cases isFound
        exact other
      · rw [gone] at isFound
        cases isFound
  intro listed
  cases own : interface.lag with
  | none => exact removedDerived listed (by rw [own]; nofun)
  | some lag =>
    refine LagDerivedAt.refreshLag lag fun other => removedDerived listed fun same => other ?_
    exact Option.some.inj (own.symm.trans same)

end Events

/-! ### Down and up again -/

/-- No LAG is a member of a LAG. -/
def HasPlainLags (table : InterfaceTable) : Prop :=
  ∀ name interface, table.find? name = some interface → interface.kind = .lag →
    interface.lag = none

theorem ext_find? {first second : InterfaceTable}
    (alike : ∀ name, first.find? name = second.find? name) : first = second := by
  obtain ⟨byName⟩ := first
  obtain ⟨byName'⟩ := second
  exact congrArg InterfaceTable.mk (SortedMap.ext_find? alike)

section Flap

variable {table : InterfaceTable} {name : String} {interface : Interface}

theorem HasPlainLags.isFlat (plain : table.HasPlainLags) (lag : String) : table.IsFlat lag := by
  intro name isUp _ nested
  obtain ⟨member, found, isMember, isLag, _⟩ := memberAt?_eq_some_iff.1 nested
  rw [plain name member found isLag] at isMember
  cases isMember

/-- A table in which nothing but the state of one LAG differs is restored by a refresh. -/
theorem refreshLag_eq (derived : table.LagsDerived) (plain : table.HasPlainLags) {lag : String}
    {other : InterfaceTable} (oper : LinkState)
    (differs : ∀ name, other.find? name =
      if lag = name then (table.find? name).map (Interface.withLagOper oper)
      else table.find? name) : other.refreshLag lag = table := by
  have members : ∀ name, other.memberAt? lag name = table.memberAt? lag name := by
    intro name
    rw [memberAt?, memberAt?, differs]
    split
    next here =>
      cases found : table.find? name with
      | none => rfl
      | some interface =>
        rw [Option.map_some, Option.bind_some, Option.bind_some, Interface.withLagOper]
        by_cases isLag : interface.kind = .lag
        · have noMember := plain name interface found isLag
          rw [if_pos isLag, Interface.asMember?, Interface.asMember?, noMember]
          rfl
        · rw [if_neg isLag]
    next => rfl
  refine ext_find? fun name => ?_
  rw [find?_refreshLag, lagOper_congr members, differs]
  by_cases here : lag = name
  · subst here
    rw [if_pos rfl, if_pos rfl, Option.map_map]
    cases found : table.find? lag with
    | none => rfl
    | some interface =>
      refine congrArg some ?_
      show Interface.withLagOper _ (Interface.withLagOper oper interface) = interface
      by_cases isLag : interface.kind = .lag
      · simp only [Interface.withLagOper, if_pos isLag,
          ← derived lag (plain.isFlat lag) interface found isLag]
      · simp only [Interface.withLagOper, if_neg isLag]
  · rw [if_neg here, if_neg here]

/-- An interface whose state changes and changes back leaves no trace, for its LAG follows it both
times. -/
theorem linkChange_linkChange (derived : table.LagsDerived) (plain : table.HasPlainLags)
    (found : table.find? name = some interface) {down up : Interface → Interface}
    (sameKind : (down interface).kind = interface.kind)
    (sameLag : (down interface).lag = interface.lag) (restores : up (down interface) = interface) :
    (table.linkChange name down).linkChange name up = table := by
  have lowered : ∀ listed, (table.modify name down).find? listed =
      if name = listed then some (down interface) else table.find? listed := by
    intro listed
    rw [find?_modify]
    split
    next here => rw [← here, found, Option.map_some]
    next => rfl
  have refreshes : ∀ (changed : InterfaceTable) state, changed.find? name = some state →
      state.lag = interface.lag →
      changed.refreshLagOf name = interface.lag.elim changed changed.refreshLag := by
    intro changed state isFound same
    rw [refreshLagOf, lagOf?, isFound, Option.bind_some, same]
    cases interface.lag <;> rfl
  have isLowered : (table.modify name down).find? name = some (down interface) := by
    rw [lowered, if_pos rfl]
  unfold linkChange
  rw [refreshes _ _ isLowered sameLag]
  cases own : interface.lag with
  | none =>
    rw [Option.elim_none]
    have restored : ((table.modify name down).modify name up).find? name = some interface := by
      rw [find?_modify, if_pos rfl, isLowered, Option.map_some, restores]
    rw [refreshes _ _ restored rfl, own, Option.elim_none]
    refine ext_find? fun listed => ?_
    by_cases here : name = listed
    · rw [← here, restored, found]
    · rw [find?_modify, if_neg here, lowered, if_neg here]
  | some lag =>
    rw [Option.elim_some]
    have notLag : interface.kind ≠ .lag := fun isLag => by
      rw [plain name interface found isLag] at own
      cases own
    have kept : ∀ oper, Interface.withLagOper oper (down interface) = down interface := fun oper =>
      if_neg fun isLag => notLag (sameKind.symm.trans isLag)
    have keptUp : ∀ oper, Interface.withLagOper oper interface = interface := fun oper =>
      if_neg notLag
    have followed :
        ((table.modify name down).refreshLag lag).find? name = some (down interface) := by
      rw [find?_refreshLag, isLowered, Option.map_some, kept, ite_self]
    have restored : (((table.modify name down).refreshLag lag).modify name up).find? name =
        some interface := by
      rw [find?_modify, if_pos rfl, followed, Option.map_some, restores]
    rw [refreshes _ _ restored rfl, own, Option.elim_some]
    refine refreshLag_eq derived plain ((table.modify name down).lagOper lag) fun listed => ?_
    by_cases here : name = listed
    · rw [← here, restored, found, Option.map_some, keptUp, ite_self]
    · rw [find?_modify, if_neg here, find?_refreshLag, lowered, if_neg here]

end Flap

end InterfaceTable

end ControlPlane
