import SwapPayout.Json.Value

/-!
# Records in JSON

A record with named fields may be written in two ways. As an object, its fields come in any order, a
field may not be repeated, and keys that are no field are ignored. As an array, the fields come in
their declared order, and only trailing ones may be left out.

A field is required, or has a default, or may be missing altogether, which `null` says as well.
-/

namespace SwapPayout.Json

/-- The fields that a written record gives. -/
structure Record where
  /-- Were the fields told apart by their position? -/
  positional : Bool
  fields : List (String × Value)

namespace Record

/-- The record with the given field names that a value spells. -/
def ofValue? (names : List String) : Value → Option Record
  | .array items =>
    if items.length ≤ names.length then some ⟨true, names.zip items⟩ else none
  | value => do
    let members ← value.members?
    let known := members.filter fun (key, _) => names.contains key
    let keys := known.map (·.1)
    if keys.eraseDups.length = keys.length then some ⟨false, known⟩ else none

def given? (r : Record) (name : String) : Option Value :=
  (r.fields.find? (·.1 == name)).map (·.2)

def required {α : Type} (r : Record) (name : String) (read : Value → Option α) : Option α :=
  (r.given? name).bind read

/-- A field with a value of its own when it is left out. -/
def defaulted {α : Type} (r : Record) (name : String) (value : α) (read : Value → Option α) :
    Option α :=
  match r.given? name with
  | none => some value
  | some v => read v

/-- A field that may be `null` or left out. -/
def omissible {α : Type} (r : Record) (name : String) (read : Value → Option α) :
    Option (Option α) :=
  match r.given? name with
  | none | some .null => some none
  | some v => (read v).map some

end Record

/-- An object as a table: every key a text, and of a repeated key the last value alone. -/
def Value.table? {α : Type} (read : Value → Option α) (v : Value) : Option (List (String × α)) := do
  let members ← v.members?
  let entries ← members.mapM fun (key, value) => (read value).map (key, ·)
  return entries.foldl (fun table (key, value) => table.filter (·.1 != key) ++ [(key, value)]) []

end SwapPayout.Json
