import ManifestLint.Json.Basic

/-!
# Records in JSON documents

A record is written as an object whose members are its fields. It is read from an object by the
names of its fields, or from an array by their places. Members that are no fields are passed over,
but a field must not be written twice.
-/
namespace ManifestLint.Json

/-- The fields of a record, by name. -/
structure Fields where
  /-- The value of a field, if there is one. -/
  get? : String → Option Json

/-- The fields of a record whose field names are given in order. An object must not repeat the name
of a field, and an array must not have more places than there are fields. -/
def fields? (names : List String) : Json → Option Fields
  | .obj members =>
    if names.all fun name => (named name members).length ≤ 1 then
      some ⟨fun name => (named name members).head?⟩
    else none
  | .arr items =>
    if items.length ≤ names.length then some ⟨fun name => (names.zip items).lookup name⟩
    else none
  | _ => none

namespace Fields

/-- A field that must be there. -/
def required {α : Type} (fields : Fields) (name : String) (read : Json → Option α) : Option α :=
  (fields.get? name).bind read

/-- A field that may be left out. -/
def optional {α : Type} (fields : Fields) (name : String) (read : Json → Option α) (absent : α) :
    Option α :=
  match fields.get? name with
  | none => some absent
  | some value => read value

end Fields

/-- Reads `null` as none. -/
def optional? {α : Type} (read : Json → Option α) : Json → Option (Option α)
  | .null => some none
  | value => (read value).map some

/-- An array without the items past a given number. -/
def truncate (count : Nat) : Json → Json
  | .arr items => .arr (items.take count)
  | value => value

end ManifestLint.Json
