import RecordGraph.Payload.Basic

/-!
Contract: values whose parts may be shared, and the payloads they unfold to.

Owns: `Shared`, replacement of a place by the part at another place, and unfolding.
Does not own: what a payload means.

Every part has a number, and parts refer to parts by number, so that one part can stand at several
places, even inside itself.
-/

namespace RecordGraph

inductive Part where
  | scalar (value : Value)
  | list (items : List Nat)
  | object (fields : List (String × Nat))
deriving Repr, Inhabited

/-- One step from a part to a part inside it. -/
inductive PathStep where
  | field (name : String)
  | item (position : Nat)
deriving DecidableEq, Repr, Inhabited

structure Shared where
  parts : Array Part
  root : Nat
deriving Repr, Inhabited

namespace Shared

mutual

def add (parts : Array Part) : Value → Array Part × Nat
  | .list items =>
      let (parts, numbers) := addItems parts items
      (parts.push (.list numbers), parts.size)
  | .object fields =>
      let (parts, numbers) := addFields parts fields
      (parts.push (.object numbers), parts.size)
  | value => (parts.push (.scalar value), parts.size)

def addItems (parts : Array Part) : List Value → Array Part × List Nat
  | [] => (parts, [])
  | item :: rest =>
      let (parts, number) := add parts item
      let (parts, numbers) := addItems parts rest
      (parts, number :: numbers)

def addFields (parts : Array Part) :
    List (String × Value) → Array Part × List (String × Nat)
  | [] => (parts, [])
  | (name, value) :: rest =>
      let (parts, number) := add parts value
      let (parts, numbers) := addFields parts rest
      (parts, (name, number) :: numbers)

end

/-- A value no two places of which share a part. -/
def ofValue (value : Value) : Shared :=
  let (parts, root) := add #[] value
  { parts, root }

/-- The part one step inside a part. -/
def inside? (shared : Shared) (number : Nat) : PathStep → Option Nat
  | .field name =>
      match shared.parts[number]? with
      | some (.object fields) => fields.lookup name
      | _ => none
  | .item position =>
      match shared.parts[number]? with
      | some (.list items) => items[position]?
      | _ => none

def at? (shared : Shared) (number : Nat) : List PathStep → Option Nat
  | [] => some number
  | step :: rest =>
      match shared.inside? number step with
      | some inner => shared.at? inner rest
      | none => none

def setField (name : String) (number : Nat) :
    List (String × Nat) → List (String × Nat)
  | [] => [(name, number)]
  | (key, old) :: rest =>
      if key = name then (key, number) :: rest else (key, old) :: setField name number rest

/-- Puts a part one step inside another one. -/
def put (shared : Shared) (outer : Nat) (step : PathStep) (inner : Nat) : Shared :=
  match shared.parts[outer]?, step with
  | some (.object fields), .field name =>
      { shared with
        parts := shared.parts.setIfInBounds outer (.object (setField name inner fields)) }
  | some (.list items), .item position =>
      { shared with parts := shared.parts.setIfInBounds outer (.list (items.set position inner)) }
  | _, _ => shared

/-- Lets the place at one path hold the very part at another path. -/
def identify (shared : Shared) (place target : List PathStep) : Shared :=
  match shared.at? shared.root target, place.getLast? with
  | some inner, none => { shared with root := inner }
  | some inner, some step =>
      match shared.at? shared.root place.dropLast with
      | some outer => shared.put outer step inner
      | none => shared
  | none, _ => shared

/-- Unfolds a part inside the given objects. No path meets more parts than `fuel`, because an
object is not unfolded inside itself and a list not directly inside itself. -/
def unfold (shared : Shared) : (fuel : Nat) → (objects lists : List Nat) → Nat → Payload
  | 0, _, _, _ => .again
  | fuel + 1, objects, lists, number =>
      match shared.parts[number]? with
      | none => .scalar .null
      | some (.scalar value) => .scalar value
      | some (.list items) =>
          if lists.contains number then .list []
          else .list (items.map (shared.unfold fuel objects (number :: lists)))
      | some (.object fields) =>
          if objects.contains number then .again
          else .object (fields.map fun (name, inner) =>
            (name, shared.unfold fuel (number :: objects) [] inner))

def toPayload (shared : Shared) : Payload :=
  shared.unfold ((shared.parts.size + 1) * (shared.parts.size + 1)) [] [] shared.root

end Shared

end RecordGraph
