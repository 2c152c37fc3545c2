/-!
# The content of a TOML document

A node is a value, a table, or an array of tables. A table remembers how it came
about, because that decides what may still be added to it:

* `inline`: written in braces, and complete.
* `header`: opened by a header of its own, which may not come again.
* `implied`: a header of one of its subtables implies it; its own header may come.
* `dotted`: dotted keys imply it; further dotted keys may add to it, no header may.

Keys are found in the order in which they were written.
-/

namespace Harbor.Toml

/-- How a table came about. -/
inductive Origin where
  | inline
  | header
  | implied
  | dotted
  deriving Repr, DecidableEq

/-- A node of a document. -/
inductive Node where
  | text (s : String)
  | integer (value : Int)
  /-- A number with a fraction or an exponent. Only its being one is kept. -/
  | float
  | boolean (value : Bool)
  /-- A date or a time. Only its being one is kept. -/
  | moment
  | array (items : List Node)
  | table (origin : Origin) (entries : List (String × Node))
  /-- Tables that were opened by headers in double brackets. -/
  | tables (elements : List (List (String × Node)))
  deriving Repr

instance : Inhabited Node := ⟨.float⟩

/-- The entries of a table. -/
abbrev Entries := List (String × Node)

/-- The node under a key. -/
def find? (key : String) (entries : Entries) : Option Node := entries.lookup key

/-- Entries with the node under a key replaced or added. -/
def put (key : String) (node : Node) : Entries → Entries
  | [] => [(key, node)]
  | (k, n) :: es => if k = key then (key, node) :: es else (k, n) :: put key node es

/-- Entries without a key. -/
def remove (key : String) (entries : Entries) : Entries := entries.filter fun e => e.1 != key

/-- Changes the table at the end of a path. Tables that are missing on the way are
    made, dotted ones for a dotted key and implied ones for a header. An array of
    tables stands for its last element. The way may not lead through a value, nor,
    for a dotted key, through a table with a header. -/
def within (dotted : Bool) (change : Origin → Entries → Option Entries) :
    List String → Origin → Entries → Option Entries
  | [], origin, entries => change origin entries
  | key :: path, _, entries =>
    match find? key entries with
    | none => do
      let origin := if dotted then .dotted else .implied
      let inner ← within dotted change path origin []
      return put key (.table origin inner) entries
    | some (.table .inline _) => none
    | some (.table origin inner) => do
      if dotted ∧ origin = .header then none
      let inner' ← within dotted change path origin inner
      return put key (.table origin inner') entries
    | some (.tables elements) => do
      let last ← within dotted change path .header (elements.getLast?.getD [])
      return put key (.tables (elements.dropLast ++ [last])) entries
    | some _ => none

/-- Adds a node under a possibly dotted key. A key may be given once, and only dotted
    keys add to a dotted table. -/
def addPair (path : List String) (key : String) (node : Node) (origin : Origin)
    (entries : Entries) : Option Entries :=
  let add (owner : Origin) (es : Entries) : Option Entries :=
    if (owner == .dotted) == path.isEmpty then none
    else if (find? key es).isSome then none
    else some (put key node es)
  within true add path origin entries

/-- A document while it is being read: what is complete, and the table that the
    last header opened. -/
structure Draft where
  complete : Entries
  path : List String
  /-- Does the table go to the end of an array of tables? -/
  isElement : Bool
  entries : Entries

/-- The document before its first line. -/
def Draft.empty : Draft := ⟨[], [], false, []⟩

/-- Puts the open table in its place. -/
def Draft.close (d : Draft) : Option Entries :=
  match d.path.getLast? with
  | none => some d.entries
  | some key =>
    let store (_ : Origin) (es : Entries) : Option Entries :=
      if d.isElement then
        match find? key es with
        | none => some (put key (.tables [d.entries]) es)
        | some (.tables elements) => some (put key (.tables (elements ++ [d.entries])) es)
        | some _ => none
      else some (put key (.table .header d.entries) es)
    within false store d.path.dropLast .header d.complete

/-- Opens the table of a header. Its place must be free or implied. -/
def Draft.openTable (d : Draft) (path : List String) : Option Draft := do
  let complete ← d.close
  let key ← path.getLast?
  let vacate (_ : Origin) (es : Entries) : Option Entries :=
    match find? key es with
    | none => some es
    | some (.table .implied _) => some es
    | some _ => none
  let complete ← within false vacate path.dropLast .header complete
  let rec inherited : List String → Entries → Entries
    | [], es => es
    | k :: ks, es =>
      match find? k es with
      | some (.table _ inner) => inherited ks inner
      | some (.tables elements) => inherited ks (elements.getLast?.getD [])
      | _ => []
  let entries := inherited path complete
  let clear (_ : Origin) (es : Entries) : Option Entries := some (remove key es)
  let complete ← within false clear path.dropLast .header complete
  return ⟨complete, path, false, entries⟩

/-- Opens a new element of an array of tables. Its place must be free or such an array. -/
def Draft.openElement (d : Draft) (path : List String) : Option Draft := do
  let complete ← d.close
  let key ← path.getLast?
  let check (_ : Origin) (es : Entries) : Option Entries :=
    match find? key es with
    | none => some es
    | some (.tables _) => some es
    | some _ => none
  let complete ← within false check path.dropLast .header complete
  return ⟨complete, path, true, []⟩

/-- Adds a node to the open table. -/
def Draft.add (d : Draft) (path : List String) (key : String) (node : Node) : Option Draft := do
  return { d with entries := ← addPair path key node .header d.entries }

end Harbor.Toml
