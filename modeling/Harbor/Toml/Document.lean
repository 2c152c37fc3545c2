import Harbor.Toml.Scalar

/-!
# TOML documents

A document is a sequence of lines: headers in single or double brackets, pairs of
a key and a value, and comments. Arrays and inline tables nest at most 79 deep,
and a key has at most 79 parts.

`ofText?` is the table that a text stands for, if it is a document.
-/

namespace Harbor.Toml

/-- Greatest depth of values, and greatest number of parts of a key. -/
def maxDepth : Nat := 79

/-! ## Blanks, comments and keys -/

/-- Leaves a comment behind, up to the end of its line. -/
def skipComment (cs : List Char) : List Char :=
  match cs with
  | '#' :: rest => rest.dropWhile isVisible
  | _ => cs

/-- Leaves blanks, comments and line breaks behind. -/
def skipLines (cs : List Char) : List Char :=
  match cs with
  | [] => []
  | '#' :: rest => skipLines (rest.dropWhile isVisible)
  | '\r' :: '\n' :: rest => skipLines rest
  | c :: rest => if isSpace c || c == '\n' then skipLines rest else c :: rest
termination_by cs.length
decreasing_by
  · have := (List.dropWhile_suffix (l := rest) isVisible).length_le
    simp only [List.length_cons]
    omega
  · simp only [List.length_cons]; omega
  · simp only [List.length_cons]; omega

/-- Takes the rest of a line that may hold blanks and a comment only. -/
def endLine (cs : List Char) : Option (List Char) :=
  match skipComment (skipSpaces cs) with
  | [] => some []
  | rest => lineBreak rest

/-- Scans one part of a key. -/
def keyPart (cs : List Char) : Option (String × List Char) :=
  match cs with
  | '"' :: _ => shortString cs
  | '\'' :: _ => shortString cs
  | _ =>
    match cs.takeWhile isBareKey with
    | [] => none
    | part => some (String.ofList part, cs.dropWhile isBareKey)

/-- Scans the parts of a key with points between them. -/
def keyParts (cs : List Char) : Option (List String × List Char) :=
  match keyPart (skipSpaces cs) with
  | none => none
  | some (part, rest) =>
    match skipSpaces rest with
    | '.' :: more =>
      if _h : more.length < cs.length then
        (keyParts more).map fun (parts, rest') => (part :: parts, rest')
      else none
    | rest' => some ([part], rest')
termination_by cs.length

/-- Scans a key. -/
def key (cs : List Char) : Option (List String × List Char) :=
  (keyParts cs).filter fun p => p.1.length ≤ maxDepth

/-! ## Values -/

/-- Scans the items of an array up to its closing bracket. -/
def items (value : Scan Node) (cs : List Char) : Option (List Node × List Char) :=
  match skipLines cs with
  | ']' :: rest => some ([], rest)
  | cs' =>
    match value cs' with
    | none => none
    | some (node, rest) =>
      match skipLines rest with
      | ']' :: rest' => some ([node], rest')
      | ',' :: rest' =>
        if _h : rest'.length < cs.length then
          (items value rest').map fun (nodes, rest'') => (node :: nodes, rest'')
        else none
      | _ => none
termination_by cs.length

/-- Scans a key, an equals sign and a value. -/
def pair (value : Scan Node) (cs : List Char) : Option ((List String × Node) × List Char) := do
  let (parts, rest) ← key cs
  let (node, rest) ← value (skipSpaces (← Net.expect '=' rest))
  return ((parts, node), rest)

/-- Scans the pairs of an inline table up to its closing brace. -/
def pairs (value : Scan Node) (cs : List Char) : Option (List (List String × Node) × List Char) :=
  match pair value cs with
  | none => none
  | some (p, rest) =>
    match skipSpaces rest with
    | '}' :: rest' => some ([p], rest')
    | ',' :: rest' =>
      if _h : rest'.length < cs.length then
        (pairs value rest').map fun (ps, rest'') => (p :: ps, rest'')
      else none
    | _ => none
termination_by cs.length

/-- The inline table of some pairs. -/
def inlineTable (ps : List (List String × Node)) : Option Node := do
  let entries ← ps.foldlM (fun es (parts, node) => do
    addPair parts.dropLast (← parts.getLast?) node .inline es) []
  return .table .inline entries

/-- Scans a value that may nest `depth` deep. -/
def value : Nat → Scan Node
  | 0, cs => scalar cs
  | depth + 1, cs =>
    match cs with
    | '[' :: rest => (items (value depth) rest).map fun (nodes, rest') => (.array nodes, rest')
    | '\x7b' :: rest =>
      match skipSpaces rest with
      | '\x7d' :: rest' => some (.table .inline [], rest')
      | _ => do
        let (ps, rest') ← pairs (value depth) rest
        return (← inlineTable ps, rest')
    | _ => scalar cs

/-! ## Lines -/

/-- One line of a document that says something. -/
inductive Statement where
  | header (path : List String)
  | element (path : List String)
  | pair (path : List String) (node : Node)

/-- Scans one statement to the end of its line. -/
def statement (cs : List Char) : Option (Statement × List Char) :=
  match cs with
  | '[' :: '[' :: rest => do
    let (path, rest) ← key rest
    return (.element path, ← endLine (← Net.expect ']' (← Net.expect ']' rest)))
  | '[' :: rest => do
    let (path, rest) ← key rest
    return (.header path, ← endLine (← Net.expect ']' rest))
  | _ => do
    let ((path, node), rest) ← pair (value maxDepth) cs
    return (.pair path node, ← endLine rest)

/-- Scans the statements of a document. -/
def statements (cs : List Char) : Option (List Statement) :=
  match skipSpaces cs with
  | [] => some []
  | c :: rest =>
    if c == '#' || c == '\n' || c == '\r' then
      match endLine (c :: rest) with
      | none => none
      | some rest' => if _h : rest'.length < cs.length then statements rest' else none
    else
      match statement (c :: rest) with
      | none => none
      | some (s, rest') =>
        if _h : rest'.length < cs.length then (statements rest').map (s :: ·) else none
termination_by cs.length

/-- Adds a statement to a draft. -/
def Draft.apply (d : Draft) : Statement → Option Draft
  | .header path => d.openTable path
  | .element path => d.openElement path
  | .pair path node => do d.add path.dropLast (← path.getLast?) node

/-- The entries of the document that a text stands for. A byte order mark in front
    does not count. -/
def ofText? (s : String) : Option Entries := do
  let chars := match s.toList with
    | '\uFEFF' :: cs => cs
    | cs => cs
  let draft ← (← statements chars).foldlM Draft.apply .empty
  draft.close

end Harbor.Toml
