import ManifestLint.Toml.Scalar
import ManifestLint.Toml.Text

/-!
# Settings files

A file is a sequence of lines: a key with a value, the header of a table, or the header of a further
table in an array of tables. What a table may still take depends on how it came about, so a document
under construction remembers that of each table.
-/
namespace ManifestLint.Toml

/-- How a table came about. -/
inductive Origin where
  /-- By its own header. -/
  | header
  /-- By the header of a table inside it. -/
  | implied
  /-- By a key with dots. -/
  | dotted
  deriving DecidableEq, Repr

/-- An entry of a document under construction. -/
inductive Item where
  /-- A value, which takes nothing more. -/
  | value (value : Value)
  /-- A table. -/
  | table (origin : Origin) (entries : List (String × Item))
  /-- An array of tables, the latest first. -/
  | tables (all : List (List (String × Item)))
  deriving Repr, Inhabited

/-- The entries of a table. -/
abbrev Entries := List (String × Item)

namespace Entries

/-- Puts another item under a key that is there. -/
def replace (entries : Entries) (key : String) (item : Item) : Entries :=
  entries.map fun entry => if entry.1 == key then (key, item) else entry

/-- Changes the table at the end of a path. Tables on the way that are not there are made; of an
array of tables the latest is meant. A key with dots must not lead through a table with a header of
its own. -/
def descend (byKey : Bool) (change : Origin → Entries → Option Entries) :
    List String → Origin → Entries → Option Entries
  | [], origin, entries => change origin entries
  | key :: path, _, entries =>
    match entries.lookup key with
    | none => do
      let origin := if byKey then .dotted else .implied
      some (entries ++ [(key, .table origin (← descend byKey change path origin []))])
    | some (.table origin children) =>
      -- A table with a header of its own takes nothing from outside its lines.
      if byKey && origin == .header then none
      else do
        some (entries.replace key (.table origin (← descend byKey change path origin children)))
    | some (.tables (latest :: earlier)) => do
      some (entries.replace key
        (.tables ((← descend byKey change path .header latest) :: earlier)))
    | some (.tables []) | some (.value _) => none

/-- Adds a value under a key with dots. The table that takes it must have been made by keys with
dots, unless the key has none. -/
def insertValue (entries : Entries) (path : List String) (key : String) (value : Value) :
    Option Entries :=
  descend true
    (fun origin entries =>
      if (origin == .dotted) == path.isEmpty || (entries.lookup key).isSome then none
      else some (entries ++ [(key, .value value)]))
    path .header entries

/-- Opens a table by its header. A table implied before is taken over with what it holds. -/
def openTable (entries : Entries) (path : List String) (key : String) : Option Entries :=
  descend false
    (fun _ entries =>
      match entries.lookup key with
      | none => some (entries ++ [(key, .table .header [])])
      | some (.table .implied children) => some (entries.replace key (.table .header children))
      | _ => none)
    path .header entries

/-- Opens a further table of an array of tables by its header. -/
def openElement (entries : Entries) (path : List String) (key : String) : Option Entries :=
  descend false
    (fun _ entries =>
      match entries.lookup key with
      | none => some (entries ++ [(key, .tables [[]])])
      | some (.tables all) => some (entries.replace key (.tables ([] :: all)))
      | _ => none)
    path .header entries

mutual

/-- The value of an item. -/
def itemValue : Item → Value
  | .value value => value
  | .table _ entries => .table (values entries)
  | .tables all => .array (tableValues all).reverse

/-- The values of the entries of a table. -/
def values : List (String × Item) → List (String × Value)
  | [] => []
  | (key, item) :: rest => (key, itemValue item) :: values rest

/-- The values of an array of tables. -/
def tableValues : List (List (String × Item)) → List Value
  | [] => []
  | entries :: rest => .table (values entries) :: tableValues rest

end

end Entries

mutual

/-- The value at the beginning of a text. Each step takes one of the given number of rounds, and
containers may be nested to a given depth. -/
def value? (depth : Nat) : Nat → List Char → Option (Value × List Char)
  | 0, _ => none
  | _ + 1, '"' :: rest => do
    let (chars, rest) ← string? ('"' :: rest)
    some (.string (String.ofList chars), rest)
  | _ + 1, '\'' :: rest => do
    let (chars, rest) ← string? ('\'' :: rest)
    some (.string (String.ofList chars), rest)
  | rounds + 1, '[' :: rest =>
    match depth with
    | 0 => none
    | depth + 1 => do
      let (items, rest) ← items? depth rounds (skipLines false rest)
      some (.array items, rest)
  | rounds + 1, '{' :: rest =>
    match depth with
    | 0 => none
    | depth + 1 =>
      match skipBlanks rest with
      | '}' :: rest => some (.table [], rest)
      | rest => do
        let (entries, rest) ← pairs? depth rounds [] rest
        some (.table (Entries.values entries), rest)
  | _ + 1, text => scalar? text

/-- The items of an array and its closing bracket. -/
def items? (depth : Nat) : Nat → List Char → Option (List Value × List Char)
  | 0, _ => none
  | _ + 1, ']' :: rest => some ([], rest)
  | rounds + 1, text => do
    let (value, rest) ← value? depth rounds text
    match skipLines false rest with
    | ',' :: rest =>
      let (values, rest) ← items? depth rounds (skipLines false rest)
      some (value :: values, rest)
    | ']' :: rest => some ([value], rest)
    | _ => none

/-- The pairs of an inline table and its closing brace, added to the entries before them. -/
def pairs? (depth : Nat) : Nat → Entries → List Char → Option (Entries × List Char)
  | 0, _, _ => none
  | rounds + 1, entries, text => do
    let (path, key, rest) ← key? text
    let (value, rest) ← value? depth rounds (skipBlanks (← expect? '=' rest))
    let entries ← entries.insertValue path key value
    -- A comma must be followed by another pair.
    match skipBlanks rest with
    | ',' :: rest => pairs? depth rounds entries rest
    | '}' :: rest => some (entries, rest)
    | _ => none

end

/-- A document under construction: its entries, and the path of the table that takes keys. -/
structure Document where
  entries : Entries
  header : List String
  deriving Repr

namespace Document

/-- Adds a value to the table that takes keys. -/
def insert (document : Document) (path : List String) (key : String) (value : Value) :
    Option Document := do
  let entries ← Entries.descend false
    (fun _ entries => entries.insertValue path key value) document.header .header document.entries
  some { document with entries }

/-- The header of a table or of an element of an array of tables, and the rest of the text. -/
def header? (document : Document) : List Char → Option (Document × List Char)
  | '[' :: '[' :: text => do
    let (path, key, rest) ← key? text
    let rest ← lineEnd? (← expect? ']' (← expect? ']' rest))
    some (⟨← document.entries.openElement path key, path ++ [key]⟩, rest)
  | '[' :: text => do
    let (path, key, rest) ← key? text
    let rest ← lineEnd? (← expect? ']' rest)
    some (⟨← document.entries.openTable path key, path ++ [key]⟩, rest)
  | _ => none

/-- A key with its value, and the rest of the text. -/
def pair? (document : Document) (text : List Char) : Option (Document × List Char) := do
  let (path, key, rest) ← key? text
  let (value, rest) ← value? (depthLimit - 1) (2 * text.length + 2)
    (skipBlanks (← expect? '=' rest))
  let rest ← lineEnd? rest
  some (← document.insert path key value, rest)

/-- The lines of a text, at most one for each round. -/
def lines? (document : Document) : Nat → List Char → Option Document
  | 0, _ => none
  | rounds + 1, text =>
    match skipBlanks text with
    | [] => some document
    | '#' :: rest => do document.lines? rounds (← lineEnd? ('#' :: rest))
    | '[' :: rest => do
      let (document, rest) ← document.header? ('[' :: rest)
      document.lines? rounds rest
    | text =>
      match newline? text with
      | some rest => document.lines? rounds rest
      | none => do
        let (document, rest) ← document.pair? text
        document.lines? rounds rest

end Document

/-- The entries of a settings file. A byte order mark at its beginning is passed over. -/
def parse? (text : String) : Option (List (String × Value)) := do
  let chars := match text.toList with
    | '\uFEFF' :: rest => rest
    | chars => chars
  let document ← Document.lines? ⟨[], []⟩ (chars.length + 1) chars
  some (Entries.values document.entries)

end ManifestLint.Toml
