import Mathlib.Data.List.Forall2
import Mathlib.Tactic.Common

/-!
# Messages by reflection

A structured message as reflection shows it: fields under their names, repeated
fields with their elements in order, and a oneof of which no member is set.  Its
JSON renders every field and every element; where a oneof has no member there is
nothing to render.
-/

namespace DrachtioModules.Reflection

/-- JSON with its members in order; numbers are kept as they are. -/
inductive Json (ν : Type*) where
  | null
  | bool (value : Bool)
  | number (value : ν)
  | string (text : String)
  | array (items : List (Json ν))
  | object (members : List (String × Json ν))

inductive Reflected (ν : Type*) where
  | null
  | bool (value : Bool)
  | number (value : ν)
  | text (text : String)
  | repeated (items : List (Reflected ν))
  | message (fields : List (String × Reflected ν))
  | unset

variable {α : Type*} {ν : Type*}

def Json.members : Json ν → List (String × Json ν)
  | .object members => members
  | _ => []

/-- The first member with that key. -/
def Json.item (json : Json ν) (key : String) : Option (Json ν) :=
  json.members.lookup key

theorem item_cons_self (key : String) (item : Json ν)
    (members : List (String × Json ν)) :
    (Json.object ((key, item) :: members)).item key = some item :=
  List.lookup_cons_self

theorem item_cons_of_ne {key other : String} (different : key ≠ other)
    (item : Json ν) (members : List (String × Json ν)) :
    (Json.object ((other, item) :: members)).item key =
      (Json.object members).item key := by
  have missed : (key == other) = false := beq_false_of_ne different
  show List.lookup key ((other, item) :: members) = _
  rw [List.lookup_cons, missed]
  rfl

mutual

def Reflected.render : Reflected ν → Option (Json ν)
  | .null => some .null
  | .bool value => some (.bool value)
  | .number value => some (.number value)
  | .text text => some (.string text)
  | .repeated items => (renderItems items).map .array
  | .message fields => (renderFields fields).map .object
  | .unset => none
termination_by structural tree => tree

def renderItems : List (Reflected ν) → Option (List (Json ν))
  | [] => some []
  | tree :: rest =>
      match tree.render, renderItems rest with
      | some json, some items => some (json :: items)
      | _, _ => none
termination_by structural items => items

def renderFields : List (String × Reflected ν) → Option (List (String × Json ν))
  | [] => some []
  | (key, tree) :: rest =>
      match tree.render, renderFields rest with
      | some json, some members => some ((key, json) :: members)
      | _, _ => none
termination_by structural fields => fields

end

@[simp] theorem render_text (text : String) :
    (Reflected.text text : Reflected ν).render = some (.string text) := rfl

@[simp] theorem renderFields_nil :
    renderFields ([] : List (String × Reflected ν)) = some [] := rfl

theorem renderFields_cons {key : String} {tree : Reflected ν} {json : Json ν}
    {rest : List (String × Reflected ν)} (here : tree.render = some json) :
    renderFields ((key, tree) :: rest) =
      (renderFields rest).map fun members => (key, json) :: members := by
  rw [renderFields, here]
  cases renderFields rest <;> rfl

theorem renderItems_cons {tree : Reflected ν} {json : Json ν}
    {rest : List (Reflected ν)} (here : tree.render = some json) :
    renderItems (tree :: rest) =
      (renderItems rest).map fun items => json :: items := by
  rw [renderItems, here]
  cases renderItems rest <;> rfl

/-- Every element of a repeated field is rendered, in order. -/
theorem renderItems_eq_some {trees : List (Reflected ν)}
    {items : List (Json ν)} :
    renderItems trees = some items ↔
      List.Forall₂ (fun tree json => tree.render = some json) trees items := by
  induction trees generalizing items with
  | nil =>
      rw [renderItems, List.forall₂_nil_left_iff, Option.some.injEq]
      exact eq_comm
  | cons tree trees ih =>
      constructor
      · intro rendered
        cases here : tree.render with
        | none => simp [renderItems, here] at rendered
        | some json =>
            rw [renderItems_cons here, Option.map_eq_some_iff] at rendered
            obtain ⟨rest, later, rfl⟩ := rendered
            exact .cons here (ih.mp later)
      · intro each
        cases each with
        | cons here later =>
            rw [renderItems_cons here, ih.mpr later]
            rfl

theorem renderFields_eq_some {fields : List (String × Reflected ν)}
    {members : List (String × Json ν)} :
    renderFields fields = some members ↔
      List.Forall₂ (fun field item =>
        field.1 = item.1 ∧ field.2.render = some item.2) fields members := by
  induction fields generalizing members with
  | nil =>
      rw [renderFields, List.forall₂_nil_left_iff, Option.some.injEq]
      exact eq_comm
  | cons field fields ih =>
      obtain ⟨key, tree⟩ := field
      constructor
      · intro rendered
        cases here : tree.render with
        | none => simp [renderFields, here] at rendered
        | some json =>
            rw [renderFields_cons here, Option.map_eq_some_iff] at rendered
            obtain ⟨rest, later, rfl⟩ := rendered
            exact .cons ⟨rfl, here⟩ (ih.mp later)
      · intro each
        cases each with
        | @cons _ item _ _ here later =>
            obtain ⟨rfl, rendered⟩ := here
            rw [renderFields_cons rendered, ih.mpr later]
            rfl

/-- A repeated field of things each of which has a rendering of its own. -/
theorem render_repeated {reflect : α → Reflected ν} {parse : α → Json ν}
    (agree : ∀ value, (reflect value).render = some (parse value))
    (values : List α) :
    (Reflected.repeated (values.map reflect)).render =
      some (.array (values.map parse)) := by
  have each : renderItems (values.map reflect) = some (values.map parse) := by
    apply renderItems_eq_some.mpr
    rw [List.forall₂_map_left_iff, List.forall₂_map_right_iff]
    exact List.forall₂_same.mpr fun value _ => agree value
  rw [Reflected.render, each]
  rfl

theorem render_message_nil :
    (Reflected.message [] : Reflected ν).render = some (.object []) := rfl

theorem render_message_cons {key : String} {tree : Reflected ν} {item : Json ν}
    {fields : List (String × Reflected ν)} {members : List (String × Json ν)}
    (here : tree.render = some item)
    (rest : (Reflected.message fields).render = some (.object members)) :
    (Reflected.message ((key, tree) :: fields)).render =
      some (.object ((key, item) :: members)) := by
  rw [Reflected.render, Option.map_eq_some_iff] at rest ⊢
  obtain ⟨_, rendered, same⟩ := rest
  cases same
  refine ⟨_, renderFields_eq_some.mpr ?_, rfl⟩
  exact .cons ⟨rfl, here⟩ (renderFields_eq_some.mp rendered)

end DrachtioModules.Reflection
