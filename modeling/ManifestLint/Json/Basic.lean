import ManifestLint.Text.Word

/-!
# JSON values

An object keeps its members in the order they were written, repeated names included, because some
readers of a document refuse a repeated name and others take the last. `canonical` gives the form
in which every object has each name once, in increasing order.

A document may be well formed and still hold a value that denotes nothing: a string with half of a
surrogate pair, an object with such a name, or a number too large for a double. Such a value is
`unreadable`; it does no harm where it is skipped.
-/
namespace ManifestLint

/-- A number of a document: an integer of 64 bits, signed or unsigned, or the bits of a double. -/
inductive JsonNumber where
  | int (value : Int)
  | double (bits : UInt64)
  deriving DecidableEq, Repr, Inhabited

/-- A JSON value. -/
inductive Json where
  | null
  | bool (value : Bool)
  | num (value : JsonNumber)
  | str (value : String)
  | arr (items : List Json)
  | obj (members : List (String × Json))
  | unreadable
  deriving Repr, Inhabited

namespace Json

/-- A natural number as a value. -/
def nat (n : Nat) : Json := .num (.int n)

mutual

/-- Structural equality, member order included. -/
def beq : Json → Json → Bool
  | .null, .null => true
  | .bool a, .bool b => a == b
  | .num a, .num b => a == b
  | .str a, .str b => a == b
  | .arr xs, .arr ys => beqItems xs ys
  | .obj xs, .obj ys => beqMembers xs ys
  | .unreadable, .unreadable => true
  | _, _ => false

/-- Structural equality of the items of two arrays. -/
def beqItems : List Json → List Json → Bool
  | [], [] => true
  | x :: xs, y :: ys => beq x y && beqItems xs ys
  | _, _ => false

/-- Structural equality of the members of two objects. -/
def beqMembers : List (String × Json) → List (String × Json) → Bool
  | [], [] => true
  | (k, x) :: xs, (l, y) :: ys => k == l && beq x y && beqMembers xs ys
  | _, _ => false

end

instance : BEq Json := ⟨beq⟩

mutual

/-- The nesting depth: scalars have none, a container is one deeper than what it holds. -/
def depth : Json → Nat
  | .arr items => depthItems items + 1
  | .obj members => depthMembers members + 1
  | _ => 0

/-- The greatest depth among the items of an array. -/
def depthItems : List Json → Nat
  | [] => 0
  | x :: xs => max (depth x) (depthItems xs)

/-- The greatest depth among the members of an object. -/
def depthMembers : List (String × Json) → Nat
  | [] => 0
  | (_, x) :: xs => max (depth x) (depthMembers xs)

end

mutual

/-- Whether every part of a value denotes something. -/
def isReadable : Json → Bool
  | .unreadable => false
  | .arr items => readableItems items
  | .obj members => readableMembers members
  | _ => true

/-- Whether every item of an array denotes something. -/
def readableItems : List Json → Bool
  | [] => true
  | x :: xs => isReadable x && readableItems xs

/-- Whether every member of an object denotes something. -/
def readableMembers : List (String × Json) → Bool
  | [] => true
  | (_, x) :: xs => isReadable x && readableMembers xs

end

/-- Puts a member in its place among members in increasing order of name, over any other member of
that name. -/
def insertMember {α : Type} (name : String) (value : α) : List (String × α) → List (String × α)
  | [] => [(name, value)]
  | (other, v) :: rest =>
    if name = other then (name, value) :: rest
    else if name < other then (name, value) :: (other, v) :: rest
    else (other, v) :: insertMember name value rest

/-- Members in increasing order of name; of a repeated name the last member stays. -/
def sortMembers {α : Type} (members : List (String × α)) : List (String × α) :=
  members.foldl (fun sorted (name, value) => insertMember name value sorted) []

mutual

/-- The form in which every object has each name once, in increasing order of name. -/
def canonical : Json → Json
  | .arr items => .arr (canonicalItems items)
  | .obj members => .obj (sortMembers (canonicalMembers members))
  | value => value

/-- The canonical forms of the items of an array. -/
def canonicalItems : List Json → List Json
  | [] => []
  | x :: xs => canonical x :: canonicalItems xs

/-- The members of an object with their values in canonical form. -/
def canonicalMembers : List (String × Json) → List (String × Json)
  | [] => []
  | (name, x) :: xs => (name, canonical x) :: canonicalMembers xs

end

/-- The members of an object that have a given name. -/
def named (name : String) (members : List (String × Json)) : List Json :=
  (members.filter fun member => member.1 == name).map (·.2)

/-- The value of a string. -/
def asString? : Json → Option String
  | .str s => some s
  | _ => none

/-- The value of a truth value. -/
def asBool? : Json → Option Bool
  | .bool b => some b
  | _ => none

/-- The value of an integer that fits an unsigned word of 64 bits. -/
def asNat? : Json → Option Nat
  | .num (.int (.ofNat n)) => if n < Text.wordCount then some n else none
  | _ => none

/-- The items of an array. -/
def asArray? : Json → Option (List Json)
  | .arr items => some items
  | _ => none

/-- The strings of an array that holds nothing else. -/
def asStrings? (value : Json) : Option (List String) := do
  (← value.asArray?).mapM asString?

end Json

end ManifestLint
