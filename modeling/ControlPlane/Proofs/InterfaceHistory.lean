/-
This file follows a table of interfaces through every sequence of events from the
empty one; an event that is refused changes nothing. In all tables that arise so,
interfaces are listed under their names, and a LAG is up if and only if one of its
members is, unless another LAG is among them. An event brings no news further than
to the LAG of its own interface, so that a LAG of LAGs may stay down over members
that are up.
-/

import ControlPlane.Config.System
import ControlPlane.Proofs.Interface
import ControlPlane.Proofs.Lag
import ControlPlane.Tracing.Components

namespace ControlPlane

/-! ### Histories -/

/-- What may happen to a table of interfaces. -/
inductive InterfaceStep
  | appear (interface : Interface)
  | disappear (name : String)
  | setAdmin (name : String) (isUp : Bool)
  | setOper (name : String) (isUp : Bool)
  | setRouting (name : String) (routes : Bool)
  | addAddress (name : String) (network : Network)
  | removeAddress (name : String) (network : Network)
  | moveTo (name : String) (vrf : UInt32)

namespace InterfaceTable

/-- What an event answers. -/
def answer (table : InterfaceTable) : InterfaceStep → Tracked
  | .appear interface => table.appear interface
  | .disappear name => (table.disappear name).map Prod.snd
  | .setAdmin name isUp => table.setAdmin name isUp
  | .setOper name isUp => table.setOper name isUp
  | .setRouting name routes => table.setRouting name routes
  | .addAddress name network => table.addAddress name network
  | .removeAddress name network => table.removeAddress name network
  | .moveTo name vrf => table.moveTo name vrf

/-- The table after an event. -/
def step (table : InterfaceTable) (step : InterfaceStep) : InterfaceTable :=
  match table.answer step with
  | .ok (_, after) => after
  | .error _ => table

/-- The table after some events. -/
def history (table : InterfaceTable) (steps : List InterfaceStep) : InterfaceTable :=
  steps.foldl step table

theorem exists_of_answer_disappear {table after : InterfaceTable} {name : String}
    {changes : List InterfaceChange}
    (answered : table.answer (.disappear name) = .ok (changes, after)) :
    ∃ interface, table.disappear name = .ok (interface, changes, after) := by
  rw [answer] at answered
  cases disappeared : table.disappear name with
  | error error =>
    rw [disappeared] at answered
    cases answered
  | ok result =>
    obtain ⟨interface, _, _⟩ := result
    rw [disappeared] at answered
    cases answered
    exact ⟨interface, rfl⟩

/-! ### Names -/

section Names

variable {table after : InterfaceTable} {changes : List InterfaceChange}

/-- The changes that an event answers account for what it does. -/
theorem accounts_answer (isKeyed : table.IsKeyed) {step : InterfaceStep}
    (answered : table.answer step = .ok (changes, after)) : Accounts changes table after := by
  cases step with
  | appear interface => exact accounts_appear isKeyed answered
  | disappear name =>
    obtain ⟨interface, disappeared⟩ := exists_of_answer_disappear answered
    exact accounts_disappear isKeyed disappeared
  | setAdmin name isUp => exact accounts_setAdmin isKeyed answered
  | setOper name isUp => exact accounts_setOper isKeyed answered
  | setRouting name routes => exact accounts_setRouting isKeyed answered
  | addAddress name network => exact accounts_addAddress isKeyed answered
  | removeAddress name network => exact accounts_removeAddress isKeyed answered
  | moveTo name vrf => exact accounts_moveTo isKeyed answered

theorem IsKeyed.step (isKeyed : table.IsKeyed) (step : InterfaceStep) :
    (table.step step).IsKeyed := by
  unfold InterfaceTable.step
  split
  next answered => exact (accounts_answer isKeyed answered).isKeyed
  next => exact isKeyed

theorem IsKeyed.history (isKeyed : table.IsKeyed) (steps : List InterfaceStep) :
    (table.history steps).IsKeyed :=
  List.foldlRecOn (motive := IsKeyed) steps InterfaceTable.step isKeyed
    fun _ isKeyed step _ => isKeyed.step step

theorem isKeyed_empty : IsKeyed empty :=
  fun _ _ found => nomatch found

end Names

/-! ### LAGs -/

section Lags

variable {table : InterfaceTable}

theorem LagsDerived.step (derived : table.LagsDerived) (step : InterfaceStep) :
    (table.step step).LagsDerived := by
  unfold InterfaceTable.step
  cases answered : table.answer step with
  | error error => exact derived
  | ok result =>
    obtain ⟨changes, after⟩ := result
    cases step with
    | appear interface => exact derived.appear answered
    | disappear name =>
      obtain ⟨interface, disappeared⟩ := exists_of_answer_disappear answered
      exact derived.disappear disappeared
    | setAdmin name isUp => exact derived.setAdmin answered
    | setOper name isUp => exact derived.setOper answered
    | setRouting name routes => exact derived.setRouting answered
    | addAddress name network => exact derived.addAddress answered
    | removeAddress name network => exact derived.removeAddress answered
    | moveTo name vrf => exact derived.moveTo answered

theorem LagsDerived.history (derived : table.LagsDerived) (steps : List InterfaceStep) :
    (table.history steps).LagsDerived :=
  List.foldlRecOn (motive := LagsDerived) steps InterfaceTable.step derived
    fun _ derived step _ => derived.step step

theorem lagsDerived_empty : LagsDerived empty :=
  fun _ _ _ found => nomatch found

/-- A LAG that is derived is up if and only if a member of it is up. -/
theorem LagDerivedAt.oper_eq_up_iff {lag : String} (derived : table.LagDerivedAt lag)
    (isFlat : ∀ name member, table.find? name = some member → member.lag = some lag →
      lag ≠ name → member.kind ≠ .lag)
    {interface : Interface} (found : table.find? lag = some interface)
    (isLag : interface.kind = .lag) :
    interface.oper = .up ↔
      ∃ name member, table.find? name = some member ∧ member.lag = some lag ∧
        member.isUp = true := by
  have noNested : table.IsFlat lag := fun name isUp other nested => by
    obtain ⟨member, foundMember, isMember, nestedLag, _⟩ := memberAt?_eq_some_iff.1 nested
    exact isFlat name member foundMember isMember other nestedLag
  rw [derived noNested interface found isLag, lagOper, ← any_lagMembers_iff]
  cases (table.lagMembers lag).any Interface.isUp <;> decide

end Lags

/-- After all sequences of events, a LAG is up if and only if a member of it is up, provided that
no other LAG is a member of it. -/
theorem oper_eq_up_iff_of_history (steps : List InterfaceStep) {lag : String}
    {interface : Interface} (found : (empty.history steps).find? lag = some interface)
    (isLag : interface.kind = .lag)
    (isFlat : ∀ name member, (empty.history steps).find? name = some member →
      member.lag = some lag → lag ≠ name → member.kind ≠ .lag) :
    interface.oper = .up ↔
      ∃ name member, (empty.history steps).find? name = some member ∧ member.lag = some lag ∧
        member.isUp = true :=
  (lagsDerived_empty.history steps lag).oper_eq_up_iff isFlat found isLag

/-- A LAG of LAGs: a link that is a member of the inner one. -/
def nestedLags : List InterfaceConfig :=
  [{ name := "bond1", index := 1, kind := .lag },
    { name := "bond0", index := 2, kind := .lag, lag := some "bond1" },
    { name := "eth0", index := 3, lag := some "bond0" }]

/-- The table after the configured interfaces appeared one after the other. -/
def appeared (configs : List InterfaceConfig) : InterfaceTable :=
  empty.history (configs.map fun config => .appear (.ofConfig config defaultVrfId))

/-- The inner LAG is up, and so is the member that it then must have. -/
theorem oper_eq_up_iff_of_nestedLags : ∃ interface,
    (appeared nestedLags).find? "bond0" = some interface ∧ interface.kind = .lag ∧
      interface.oper = .up ∧ ∃ name member, (appeared nestedLags).find? name = some member ∧
        member.lag = some "bond0" ∧ member.isUp = true := by
  have isInner : (((appeared nestedLags).find? "bond0").filter fun interface =>
      interface.kind = .lag ∧ interface.oper = .up).isSome = true := by
    decide +kernel
  have noNested : ∀ entry ∈ (appeared nestedLags).byName.entries,
      entry.2.lag = some "bond0" → "bond0" ≠ entry.1 → entry.2.kind ≠ .lag := by
    decide +kernel
  obtain ⟨interface, inner⟩ := Option.isSome_iff_exists.1 isInner
  obtain ⟨found, decided⟩ := Option.filter_eq_some_iff.1 inner
  obtain ⟨isLag, isUp⟩ := of_decide_eq_true decided
  exact ⟨interface, found, isLag, isUp, (oper_eq_up_iff_of_history _ found isLag
    fun name member isFound => noNested (name, member) (SortedMap.find?_eq_some_iff.1 isFound)).1
      isUp⟩

/-- The interfaces of a valid configuration may be LAGs of LAGs, and then the outer one stays down
when the link appears, although the inner one goes up. -/
theorem exists_lag_down_of_nestedLags :
    SystemConfig.validate (.ofDeclarations Tracing.components) { interfaces := nestedLags } =
        .ok () ∧
      ∃ outer inner, (appeared nestedLags).find? "bond1" = some outer ∧ outer.kind = .lag ∧
        outer.oper = .down ∧ (appeared nestedLags).find? "bond0" = some inner ∧
        inner.lag = some "bond1" ∧ inner.isUp = true := by
  refine ⟨by rfl, ?_⟩
  have isDown : ((appeared nestedLags).find? "bond1").any (fun outer =>
      outer.kind = .lag ∧ outer.oper = .down) = true := by
    decide +kernel
  have isUp : ((appeared nestedLags).find? "bond0").any (fun inner =>
      inner.lag = some "bond1" ∧ inner.isUp = true) = true := by
    decide +kernel
  obtain ⟨outer, foundOuter, outerDown⟩ := (Option.any_eq_true _ _).1 isDown
  obtain ⟨inner, foundInner, innerUp⟩ := (Option.any_eq_true _ _).1 isUp
  obtain ⟨isLag, down⟩ := of_decide_eq_true outerDown
  obtain ⟨isMember, up⟩ := of_decide_eq_true innerUp
  exact ⟨outer, inner, foundOuter, isLag, down, foundInner, isMember, up⟩

end InterfaceTable

end ControlPlane
