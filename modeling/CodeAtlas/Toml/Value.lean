/-!
TOML documents as values, and the rules by which headers and dotted keys build tables. A table
remembers how it came about, because that decides what may still be added to it.
-/
namespace CodeAtlas

inductive Toml where
  | text (s : String)
  | integer (n : Int)
  | real (x : Float)
  | boolean (b : Bool)
  /-- A date, a time or both. -/
  | moment
  | list (items : List Toml)
  /-- A table in braces, to which nothing can be added. -/
  | closed (entries : List (String × Toml))
  /-- `implied` tables were only named on the way to another one; `dotted` ones by a dotted key. -/
  | table (implied dotted : Bool) (entries : List (String × Toml))
  /-- The tables of a repeated header; the last one is open. -/
  | tables (elements : List (List (String × Toml)))

namespace Toml

abbrev Entries := List (String × Toml)

namespace Entries

def find? (key : String) (es : Entries) : Option Toml := es.lookup key

def set (key : String) (value : Toml) : Entries → Entries
  | [] => [(key, value)]
  | (k, v) :: rest => if k = key then (key, value) :: rest else (k, v) :: set key value rest

/-- Changes the table at a path, which is told whether it is dotted. Tables on the way are made if
they are missing. A dotted path cannot enter a table that has a header of its own. -/
def atPath (dotted : Bool) (change : Bool → Entries → Option Entries) :
    List String → Bool → Entries → Option Entries
  | [], isDotted, es => change isDotted es
  | key :: path, _, es =>
    match es.find? key with
    | none => do
      let inner ← atPath dotted change path dotted []
      return es ++ [(key, .table true dotted inner)]
    | some (.table implied isDotted inner) =>
      if dotted && !implied then none
      else do
        let inner ← atPath dotted change path isDotted inner
        return es.set key (.table implied isDotted inner)
    | some (.tables elements) => do
      let inner ← atPath dotted change path false (← elements.getLast?)
      return es.set key (.tables (elements.dropLast ++ [inner]))
    | some _ => none

/-- Adds a value under a dotted key. A table is filled either by dotted keys or by its header, not
by both, and no key stands twice. -/
def put (path : List String) (key : String) (value : Toml) (es : Entries) : Option Entries :=
  atPath true (fun isDotted inner =>
    if isDotted == path.isEmpty || (inner.find? key).isSome then none
    else some (inner ++ [(key, value)])) path false es

end Entries

structure Pair where
  path : List String
  key : String
  value : Toml

def Entries.putAll (pairs : List Pair) (es : Entries) : Option Entries :=
  pairs.foldlM (fun es p => es.put p.path p.key p.value) es

inductive Header where
  | none
  /-- `[path.key]` -/
  | single (path : List String) (key : String)
  /-- `[[path.key]]` -/
  | repeated (path : List String) (key : String)

structure Section where
  header : Header
  pairs : List Pair

/-- Adds a section. The table of a header is new, or was only implied so far. -/
def Section.addTo (s : Section) (root : Entries) : Option Entries :=
  match s.header with
  | .none => root.putAll s.pairs
  | .single path key =>
    root.atPath false (fun _ parent => do
      let before ← match parent.find? key with
        | none => some []
        | some (.table true false inner) => some inner
        | some _ => none
      return parent.set key (.table false false (← Entries.putAll s.pairs before))) path false
  | .repeated path key =>
    root.atPath false (fun _ parent => do
      let before ← match parent.find? key with
        | none => some []
        | some (.tables elements) => some elements
        | some _ => none
      return parent.set key (.tables (before ++ [← Entries.putAll s.pairs []]))) path false

def ofSections (sections : List Section) : Option Entries :=
  sections.foldlM (fun root s => s.addTo root) []

end Toml

end CodeAtlas
