import Harbor.Files.FileSystem

/-!
# Documents beneath a root

Clients name documents and directories by texts such as `/site/index.html`. A
name is resolved strictly beneath the root: slashes in front mean the root
itself, empty pieces and `.` are passed over, and `..` is refused before the file
system is asked anything.

`read` serves one text document and `textFiles` the names of the text files
directly in a directory: the regular files whose name is something followed by
`.txt`, in the order of their octets.
-/

namespace Harbor.Files

/-- Where documents are served from. -/
structure DocumentRoot where
  files : FileSystem
  root : Path
  deriving Repr, DecidableEq

instance : Inhabited DocumentRoot := ⟨⟨.empty, []⟩⟩

/-- Why a document or a directory cannot be served. -/
inductive DocumentError where
  | emptyName
  | invalidName (name : String)
  | fileNotFound (name : String)
  | notText (name : String)
  | directoryNotFound (name : String)
  | failed (name : String) (cause : SystemError)
  deriving Repr, DecidableEq

/-- The failure in words, as the client is told. -/
def DocumentError.message : DocumentError → String
  | emptyName => "Document name cannot be empty"
  | invalidName name => s!"Invalid document name {name}"
  | fileNotFound name => s!"File {name} does not exist"
  | notText name => s!"File {name} is not a text file"
  | directoryNotFound name => s!"Directory {name} does not exist"
  | failed name cause => s!"Failed to read {name}: {cause.message}"

/-! ## Names -/

/-- The first name of a path written out. -/
def firstName (path : Octets) : Name := path.takeWhile (· != slash)

/-- What follows the slash after the first name. -/
def afterFirst (path : Octets) : Octets := (path.dropWhile (· != slash)).drop 1

theorem afterFirst_shorter {path : Octets} (h : path ≠ []) :
    (afterFirst path).length < path.length := by
  have hle := (List.dropWhile_suffix (l := path) (· != slash)).length_le
  have hpos := List.length_pos_iff.2 h
  rw [afterFirst, List.length_drop]
  omega

/-- Extends a place by the names of a path written out. -/
def extend (place : Path) (path : Octets) : Option Path :=
  if _h : path = [] then some place
  else if firstName path = above then none
  else if firstName path = [] ∨ firstName path = here then extend place (afterFirst path)
  else extend (place ++ [firstName path]) (afterFirst path)
termination_by path.length
decreasing_by all_goals exact afterFirst_shorter ‹_›

/-- The place that a name stands for beneath the root (`resolve`). -/
def resolve (root : Path) (name : String) : Except DocumentError Path :=
  match (Text.encode name).dropWhile (· == slash) with
  | [] => .error .emptyName
  | path =>
    match extend root path with
    | some place => .ok place
    | none => .error (.invalidName name)

namespace DocumentRoot

/-- The steps from the root to a place beneath it. -/
def stepsTo (d : DocumentRoot) (place : Path) : List Name := place.drop d.root.length

/-- The text document with a given name (`read_document`). -/
def read (d : DocumentRoot) (name : String) : Except DocumentError String :=
  match resolve d.root name with
  | .error e => .error e
  | .ok place =>
    match d.files.read d.root (d.stepsTo place) with
    | .ok octets =>
      match Text.decode? octets with
      | some text => .ok text
      | none => .error (.notText name)
    | .error .noEntry => .error (.fileNotFound name)
    | .error e =>
      if d.files.isDirectory d.root (d.stepsTo place) then .error (.fileNotFound name)
      else .error (.failed name e)

/-- Is this the name of a text file: something, then `.txt`? -/
def isTextName (name : Name) : Bool := 4 < name.length && [46, 116, 120, 116].isSuffixOf name

/-- Is the name, directly in the directory, that of a regular file? A link is none. -/
def isRegularFile (d : DocumentRoot) (directory : Path) (name : Name) : Bool :=
  match d.files.node? (directory ++ [name]) with
  | some (.file _) => true
  | _ => false

/-- The directory that a name stands for, and the names of its text files in order
    (`list_text_files`). -/
def textFiles (d : DocumentRoot) (name : String) : Except DocumentError (Path × List Name) :=
  match resolve d.root name with
  | .error e => .error e
  | .ok place =>
    match d.files.follow d.root (d.stepsTo place) with
    | .ok (.found directory .directory) =>
      if d.files.forbids directory then .error (.failed name .accessDenied)
      else
        let files := (d.files.names directory).filter fun file =>
          isTextName file && d.isRegularFile directory file
        .ok (place, files.mergeSort precedes)
    | _ => .error (.directoryNotFound name)

/-- The text of a file in a directory, if it can be read and is text. -/
def text? (d : DocumentRoot) (directory : Path) (file : Name) : Option String :=
  match d.files.read d.root (d.stepsTo directory ++ [file]) with
  | .ok octets => Text.decode? octets
  | .error _ => none

end DocumentRoot

end Harbor.Files
