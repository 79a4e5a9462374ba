/-
This file says once what an event on an interface can do to a table of interfaces,
and what it answers. Most events change the states of a few interfaces and nothing
else, those of the interface itself and of its LAG. Whatever is proved of events
elsewhere is proved from the cases given here.
-/

import ControlPlane.Interface.Change

namespace ControlPlane

/-! ### States of interfaces -/

namespace Interface

/-- The interface after it was switched on or off. -/
def switched (state : LinkState) (interface : Interface) : Interface :=
  { interface with
    admin := state
    oper := if interface.kind = .loopback then state else interface.oper }

/-- The interface after its link went up or down. -/
def linked (state : LinkState) (interface : Interface) : Interface :=
  { interface with oper := state }

/-- The interface after it was told to route or to bridge. -/
def moded (mode : LinkMode) (interface : Interface) : Interface :=
  { interface with mode }

/-- Two interfaces differ in their states at most. -/
def SameButState (first second : Interface) : Prop :=
  second = { first with admin := second.admin, oper := second.oper, mode := second.mode }

variable {first second third : Interface}

theorem SameButState.refl (interface : Interface) : interface.SameButState interface :=
  rfl

theorem sameButState_switched (state : LinkState) (interface : Interface) :
    interface.SameButState (interface.switched state) :=
  rfl

theorem sameButState_linked (state : LinkState) (interface : Interface) :
    interface.SameButState (interface.linked state) :=
  rfl

theorem sameButState_moded (mode : LinkMode) (interface : Interface) :
    interface.SameButState (interface.moded mode) :=
  rfl

theorem SameButState.trans (left : first.SameButState second) (right : second.SameButState third) :
    first.SameButState third := by
  rw [SameButState] at right ⊢
  rw [left] at right
  exact right

theorem SameButState.name_eq (same : first.SameButState second) : second.name = first.name := by
  rw [same]

theorem SameButState.vrf_eq (same : first.SameButState second) : second.vrf = first.vrf := by
  rw [same]

theorem SameButState.lag_eq (same : first.SameButState second) : second.lag = first.lag := by
  rw [same]

end Interface

namespace InterfaceTable

open Interface

/-! ### Changes of state -/

/-- The interface of a name changes its state at most. -/
def RestatedAt (before after : InterfaceTable) (name : String) : Prop :=
  ∃ change : Interface → Interface,
    (∀ interface : Interface, interface.SameButState (change interface)) ∧
      after.find? name = (before.find? name).map change

/-- Only the states of some interfaces change from one table to the next. -/
structure Restates (names : List String) (before after : InterfaceTable) : Prop where
  others : ∀ name, name ∉ names → after.find? name = before.find? name
  same : ∀ name, RestatedAt before after name

theorem find?_modify (table : InterfaceTable) (name listed : String)
    (change : Interface → Interface) :
    (table.modify name change).find? listed =
      if name = listed then (table.find? listed).map change else table.find? listed :=
  SortedMap.find?_modify table.byName name listed change

theorem restates_refl (table : InterfaceTable) : Restates [] table table :=
  ⟨fun _ _ => rfl, fun name => ⟨id, SameButState.refl, by rw [Option.map_id, id]⟩⟩

theorem restates_modify (table : InterfaceTable) (name : String) {change : Interface → Interface}
    (same : ∀ interface : Interface, interface.SameButState (change interface)) :
    Restates [name] table (table.modify name change) := by
  refine ⟨fun listed elsewhere => ?_, fun listed => ?_⟩
  · have different : name ≠ listed := fun here =>
      elsewhere (here ▸ List.mem_singleton_self name)
    rw [find?_modify, if_neg different]
  · unfold RestatedAt
    rw [find?_modify]
    split
    · exact ⟨change, same, rfl⟩
    · exact ⟨id, SameButState.refl, by rw [Option.map_id, id]⟩

theorem Restates.trans {firstNames secondNames : List String} {first second third : InterfaceTable}
    (left : Restates firstNames first second) (right : Restates secondNames second third) :
    Restates (firstNames ++ secondNames) first third := by
  refine ⟨fun name elsewhere => ?_, fun name => ?_⟩
  · rw [List.mem_append, not_or] at elsewhere
    rw [right.others name elsewhere.2, left.others name elsewhere.1]
  · obtain ⟨change, same, found⟩ := left.same name
    obtain ⟨change', same', found'⟩ := right.same name
    exact ⟨change' ∘ change, fun interface => (same interface).trans (same' (change interface)),
      by rw [found', found, Option.map_map]⟩

theorem restates_refreshLag (table : InterfaceTable) (lag : String) :
    Restates [lag] table (table.refreshLag lag) := by
  refine restates_modify table lag fun interface => ?_
  split
  · rfl
  · exact SameButState.refl interface

theorem restates_refreshLagOf (table : InterfaceTable) (name : String) :
    Restates (table.lagOf? name).toList table (table.refreshLagOf name) := by
  unfold refreshLagOf
  cases table.lagOf? name with
  | none => exact restates_refl table
  | some lag => exact restates_refreshLag table lag

/-- An interface belongs to the LAG that it belonged to. -/
theorem Restates.lagOf?_eq {names : List String} {before after : InterfaceTable}
    (restates : Restates names before after) (name : String) :
    after.lagOf? name = before.lagOf? name := by
  obtain ⟨change, same, found⟩ := restates.same name
  rw [lagOf?, lagOf?, found]
  cases before.find? name with
  | none => rfl
  | some interface => exact (same interface).lag_eq

/-- An interface of the later table is one of the earlier table in another state. -/
theorem Restates.exists_before {names : List String} {before after : InterfaceTable}
    (restates : Restates names before after) {name : String} {interface : Interface}
    (found : after.find? name = some interface) :
    ∃ earlier, before.find? name = some earlier ∧ earlier.SameButState interface := by
  obtain ⟨change, same, image⟩ := restates.same name
  rw [found] at image
  obtain ⟨earlier, foundEarlier, rfl⟩ := Option.map_eq_some_iff.1 image.symm
  exact ⟨earlier, foundEarlier, same earlier⟩

/-- A change of usability is that of a listed interface which is not as usable as it was. -/
theorem mem_usabilityChanges_iff {before after : InterfaceTable} {listed : List String}
    {change : InterfaceChange} :
    change ∈ usabilityChanges before after listed ↔
      ∃ name ∈ listed, ∃ interface, after.find? name = some interface ∧
        interface.isUsable ≠ before.isUsable name ∧
        change = .of interface (.usable interface.isUsable) := by
  refine List.mem_filterMap.trans (exists_congr fun name => and_congr_right fun _ => ?_)
  cases found : after.find? name with
  | none => simp
  | some interface =>
    by_cases same : interface.isUsable = before.isUsable name
    · simp [same]
    · simp [same, eq_comm]

/-! ### What events do -/

/-- The table after the state of an interface changed and its LAG followed. -/
def linkChange (table : InterfaceTable) (name : String) (change : Interface → Interface) :
    InterfaceTable :=
  (table.modify name change).refreshLagOf name

/-- The table without the interface of a name. -/
def without (table : InterfaceTable) (name : String) : InterfaceTable :=
  ⟨table.byName.erase name⟩

theorem find?_without (table : InterfaceTable) (name listed : String) :
    (table.without name).find? listed = if name = listed then none else table.find? listed :=
  SortedMap.find?_erase table.byName name listed

/-- The interface and its LAG are the ones whose state may change. -/
theorem restates_linkChange (table : InterfaceTable) (name : String)
    {change : Interface → Interface}
    (same : ∀ interface : Interface, interface.SameButState (change interface)) :
    Restates (table.withLag name) table (table.linkChange name change) := by
  have changed := restates_modify table name same
  have refreshed := restates_refreshLagOf (table.modify name change) name
  rw [changed.lagOf?_eq] at refreshed
  exact changed.trans refreshed

/-- When an interface appears, its own state and that of its LAG may change. -/
theorem restates_appeared (between : InterfaceTable) (own : String) (isLag : Prop)
    [Decidable isLag] :
    Restates (own :: (between.lagOf? own).toList) between
      ((if isLag then between.refreshLag own else between).refreshLagOf own) := by
  have first : Restates [own] between (if isLag then between.refreshLag own else between) := by
    split
    · exact restates_refreshLag between own
    · exact ⟨fun _ _ => rfl, (restates_refl between).same⟩
  have second := restates_refreshLagOf (if isLag then between.refreshLag own else between) own
  rw [first.lagOf?_eq] at second
  exact first.trans second

/-- When an interface disappears, the state of its LAG may change. -/
theorem restates_disappeared (between : InterfaceTable) (lag : Option String) :
    Restates lag.toList between
      (match lag with
        | some lag => between.refreshLag lag
        | none => between) := by
  cases lag with
  | none => exact restates_refl between
  | some lag => exact restates_refreshLag between lag

section Outcomes

variable {table after : InterfaceTable} {changes : List InterfaceChange} {name : String}

theorem find?_of_get {interface : Interface} (got : table.get name = .ok interface) :
    table.find? name = some interface := by
  unfold get at got
  split at got
  next found =>
    cases got
    exact found
  next => cases got

/-- An interface is added under its name, which was free. -/
theorem find?_of_add {interface : Interface} (added : table.add interface = .ok after) :
    table.find? interface.name = none ∧
      ∀ listed, after.find? listed =
        if interface.name = listed then some interface else table.find? listed := by
  unfold add at added
  split at added
  · cases added
  next free =>
    cases added
    rw [Bool.or_eq_true, not_or] at free
    refine ⟨Option.not_isSome_iff_eq_none.1 free.1, fun listed => ?_⟩
    exact SortedMap.find?_insert table.byName interface.name listed interface

/-- The interface is added, and then its own state and that of its LAG may change. -/
theorem appear_cases {interface : Interface}
    (answered : table.appear interface = .ok (changes, after)) :
    ∃ between, table.add interface = .ok between ∧
      Restates (interface.name :: interface.lag.toList) between after ∧
      changes = .of interface .attached :: usabilityChanges table after interface.lag.toList := by
  obtain ⟨between, added, answered⟩ := exists_of_bind_eq_ok answered
  cases answered
  have ownFound : between.find? interface.name = some interface := by
    rw [(find?_of_add added).2, if_pos rfl]
  have restates := restates_appeared between interface.name (interface.kind = .lag)
  have sameLag : between.lagOf? interface.name = interface.lag := by
    rw [lagOf?, ownFound, Option.bind_some]
  rw [sameLag] at restates
  refine ⟨between, added, restates, ?_⟩
  generalize refreshLagOf _ interface.name = after at restates ⊢
  obtain ⟨change, same, image⟩ := restates.same interface.name
  rw [ownFound, Option.map_some] at image
  -- the interface may have changed its state since it was added, but not its name, index or VRF
  have attached : InterfaceChange.of (change interface) .attached = .of interface .attached := by
    rw [same interface]
    rfl
  rw [image, Option.toList_some, List.map_singleton, attached]
  rfl

/-- The interface is removed, and then the state of its LAG may change. -/
theorem disappear_cases {interface : Interface}
    (answered : table.disappear name = .ok (interface, changes, after)) :
    table.find? name = some interface ∧
      Restates interface.lag.toList (table.without name) after ∧
      changes = .of interface .detached :: usabilityChanges table after interface.lag.toList := by
  obtain ⟨⟨_, _⟩, removed, answered⟩ := exists_of_bind_eq_ok answered
  obtain ⟨_, got, removed⟩ := exists_of_bind_eq_ok removed
  cases removed
  cases answered
  exact ⟨find?_of_get got, restates_disappeared (table.without name) interface.lag, rfl⟩

theorem setAdmin_cases {isUp : Bool} (answered : table.setAdmin name isUp = .ok (changes, after)) :
    after = table.linkChange name (switched (.ofBool isUp)) ∧
      changes = usabilityChanges table after (table.withLag name) := by
  obtain ⟨interface, _, answered⟩ := exists_of_bind_eq_ok answered
  cases answered
  exact ⟨rfl, rfl⟩

/-- The link of an interface changes, unless it is a LAG. -/
theorem setOper_cases {isUp : Bool} (answered : table.setOper name isUp = .ok (changes, after)) :
    changes = [] ∧ after = table ∨
      ∃ interface, table.find? name = some interface ∧ interface.kind ≠ .lag ∧
        after = table.linkChange name (linked (.ofBool isUp)) ∧
        changes = usabilityChanges table after (table.withLag name) := by
  obtain ⟨interface, got, answered⟩ := exists_of_bind_eq_ok answered
  by_cases isLag : interface.kind = .lag
  · simp only [isLag, if_true] at answered
    cases answered
    exact .inl ⟨rfl, rfl⟩
  · simp only [isLag, if_false] at answered
    cases answered
    exact .inr ⟨interface, find?_of_get got, isLag, rfl, rfl⟩

theorem setRouting_cases {routes : Bool}
    (answered : table.setRouting name routes = .ok (changes, after)) :
    changes = [] ∧ after = table ∨
      ∃ interface, table.find? name = some interface ∧ interface.mode ≠ .ofBool routes ∧
        after = table.modify name (moded (.ofBool routes)) ∧
        changes =
          (if LinkMode.ofBool routes = .bridging then [.of interface .routingDisabled] else []) ++
            usabilityChanges table after [name] := by
  obtain ⟨interface, got, answered⟩ := exists_of_bind_eq_ok answered
  by_cases same : interface.mode = LinkMode.ofBool routes
  · simp only [same, if_true] at answered
    cases answered
    exact .inl ⟨rfl, rfl⟩
  · simp only [same, if_false] at answered
    cases answered
    exact .inr ⟨interface, find?_of_get got, same, rfl, rfl⟩

/-- An interface wins an address, unless it has it. -/
theorem addAddress_cases {network : Network}
    (answered : table.addAddress name network = .ok (changes, after)) :
    ∃ interface, table.find? name = some interface ∧
      (interface.addresses.contains network = true ∧ changes = [] ∧ after = table ∨
        interface.addresses.contains network = false ∧
          changes = [.of interface (.addressAdded network)] ∧
          after = table.modify name fun interface =>
            { interface with addresses := interface.addresses.insert network () }) := by
  obtain ⟨interface, got, answered⟩ := exists_of_bind_eq_ok answered
  refine ⟨interface, find?_of_get got, ?_⟩
  cases has : interface.addresses.contains network with
  | true =>
    simp only [has, if_true] at answered
    cases answered
    exact .inl ⟨rfl, rfl, rfl⟩
  | false =>
    simp only [has] at answered
    cases answered
    exact .inr ⟨rfl, rfl, rfl⟩

/-- An interface loses an address, unless it does not have it. -/
theorem removeAddress_cases {network : Network}
    (answered : table.removeAddress name network = .ok (changes, after)) :
    ∃ interface, table.find? name = some interface ∧
      (interface.addresses.contains network = false ∧ changes = [] ∧ after = table ∨
        interface.addresses.contains network = true ∧
          changes = [.of interface (.addressRemoved network)] ∧
          after = table.modify name fun interface =>
            { interface with addresses := interface.addresses.erase network }) := by
  obtain ⟨interface, got, answered⟩ := exists_of_bind_eq_ok answered
  refine ⟨interface, find?_of_get got, ?_⟩
  cases has : interface.addresses.contains network with
  | true =>
    simp only [has, Bool.not_true, Bool.false_eq_true, if_false] at answered
    cases answered
    exact .inr ⟨rfl, rfl, rfl⟩
  | false =>
    simp only [has, Bool.not_false, if_true] at answered
    cases answered
    exact .inl ⟨rfl, rfl, rfl⟩

/-- An interface moves, unless it is in the VRF already. -/
theorem moveTo_cases {vrf : UInt32} (answered : table.moveTo name vrf = .ok (changes, after)) :
    ∃ interface, table.find? name = some interface ∧
      (interface.vrf = vrf ∧ changes = [] ∧ after = table ∨
        interface.vrf ≠ vrf ∧
          changes = [.of interface .detached, .of { interface with vrf } .attached] ∧
          after = table.modify name fun interface => { interface with vrf }) := by
  obtain ⟨interface, got, answered⟩ := exists_of_bind_eq_ok answered
  refine ⟨interface, find?_of_get got, ?_⟩
  by_cases same : interface.vrf = vrf
  · simp only [same, if_true] at answered
    cases answered
    exact .inl ⟨same, rfl, rfl⟩
  · simp only [same, if_false] at answered
    cases answered
    exact .inr ⟨same, rfl, rfl⟩

end Outcomes

end InterfaceTable

end ControlPlane
