import Harbor.Dictionary
import Harbor.Files.SystemError
import Harbor.Text.Utf8

/-!
# A file system

A file system is a finite map from places to nodes. A place is the list of names
that leads to it from the top, which is always a directory. A node is a file with
its contents, a directory, or a symbolic link with the octets of its target. Some
places may not be read: a file there cannot be opened for reading, and a directory
cannot be listed.

An operation is given a place to start from and steps to take: names, `.` for
staying and `..` for the directory above. Links met on the way are followed, at
most forty in all. A name may have 255 octets and a whole path 4095.

`Leads` is what following a path finds: a node, or a place where nothing is yet
in a directory that exists.

Left out are the other rights (every directory can be entered, and every file and
directory written to), owners and times, a file at two places at once (a hard link),
sockets and devices, and failures of the disk.
-/

namespace Harbor.Files

/-- A file name, as the file system keeps it. -/
abbrev Name := Octets

/-- A place in the file system: the names that lead to it from the top. -/
abbrev Path := List Name

/-- What is found at a place. -/
inductive Node where
  | file (contents : Octets)
  | directory
  | link (target : Octets)
  deriving Repr, DecidableEq

/-- The octet between the names of a path. -/
def slash : UInt8 := 47

/-- The step that stays. -/
def here : Name := [46]

/-- The step to the directory above. -/
def above : Name := [46, 46]

/-- Most octets of a name. -/
def maxName : Nat := 255

/-- Most octets of a path. -/
def maxPath : Nat := 4095

/-- Most links followed for one path. -/
def maxLinks : Nat := 40

/-- The pieces of a path between its slashes. -/
def pieces : Octets → List Name
  | [] => [[]]
  | b :: bs =>
    if b = slash then [] :: pieces bs
    else
      match pieces bs with
      | [] => [[b]]
      | piece :: rest => (b :: piece) :: rest

/-- The steps of a path written out, without empty pieces. -/
def stepsOf (path : Octets) : List Name := (pieces path).filter fun piece => !piece.isEmpty

/-- The steps of a link's target. A slash at its end asks for a directory. -/
def targetSteps (target : Octets) : List Name :=
  stepsOf target ++ if target.getLast? = some slash then [here] else []

/-- Octets of a path when it is written out from the top. -/
def pathSize : List Name → Nat
  | [] => 0
  | name :: names => name.length + 1 + pathSize names

/-- Octet strings in dictionary order. -/
def precedes : Octets → Octets → Bool
  | [], _ => true
  | _ :: _, [] => false
  | a :: as, b :: bs => if a = b then precedes as bs else a < b

/-- A file system: what is where, and which places may not be read. -/
structure FileSystem where
  nodes : Dictionary Path Node
  unreadable : List Path
  deriving Repr, DecidableEq

instance : Inhabited FileSystem := ⟨⟨.empty, []⟩⟩

namespace FileSystem

/-- The file system with nothing but its top. -/
def empty : FileSystem := ⟨.empty, []⟩

/-- What is at a place. -/
def node? (fs : FileSystem) (place : Path) : Option Node :=
  if place = [] then some .directory else fs.nodes.get? place

/-- Puts a node at a place. Who may read there stays as it is. -/
def place (fs : FileSystem) (path : Path) (node : Node) : FileSystem :=
  ⟨fs.nodes.insert path node, fs.unreadable⟩

/-- Makes a place one that may not be read. -/
def forbid (fs : FileSystem) (path : Path) : FileSystem := ⟨fs.nodes, path :: fs.unreadable⟩

/-- Is the place one that may not be read? -/
def forbids (fs : FileSystem) (path : Path) : Bool := fs.unreadable.contains path

theorem forbids_iff {fs : FileSystem} {path : Path} :
    fs.forbids path = true ↔ path ∈ fs.unreadable := List.contains_iff_mem

/-- The name that a place has in a directory, if it lies directly in it. -/
def nameIn? (directory path : Path) : Option Name :=
  match path.getLast? with
  | some name => if path.dropLast = directory then some name else none
  | none => none

/-- The names in a directory, in the order in which the system lists them. -/
def names (fs : FileSystem) (directory : Path) : List Name :=
  fs.nodes.entries.filterMap fun e => nameIn? directory e.1

/-- What following a path finds. -/
inductive Leads where
  | found (path : Path) (node : Node)
  | vacant (directory : Path) (name : Name)
  deriving Repr, DecidableEq

/-- Takes steps from a directory. `links` more links may be followed. -/
def walk (fs : FileSystem) (links : Nat) (at_ : Path) (steps : List Name) :
    Except SystemError Leads :=
  match steps with
  | [] => .ok (.found at_ .directory)
  | step :: rest =>
    if step = here then fs.walk links at_ rest
    else if step = above then fs.walk links at_.dropLast rest
    else if maxName < step.length then .error .nameTooLong
    else
      match fs.node? (at_ ++ [step]) with
      | none => if rest = [] then .ok (.vacant at_ step) else .error .noEntry
      | some .directory => fs.walk links (at_ ++ [step]) rest
      | some (.file contents) =>
        if rest = [] then .ok (.found (at_ ++ [step]) (.file contents)) else .error .notDirectory
      | some (.link target) =>
        match links with
        | 0 => .error .tooManyLinks
        | links + 1 =>
          fs.walk links (if target.head? = some slash then [] else at_) (targetSteps target ++ rest)
termination_by (links, steps.length)

/-- Why the system would not even look for a path. -/
def refusal? (start : Path) (steps : List Name) : Option SystemError :=
  if (start ++ steps).any fun name => name.contains 0 then some .nulInPath
  else if maxPath < pathSize (start ++ steps) then some .nameTooLong
  else none

/-- Follows a path from a starting place. -/
def follow (fs : FileSystem) (start : Path) (steps : List Name) : Except SystemError Leads :=
  match refusal? start steps with
  | some e => .error e
  | none =>
    match fs.node? start with
    | some .directory => fs.walk maxLinks start steps
    | some _ => .error .notDirectory
    | none => .error .noEntry

/-- What is beneath a directory, in the order of the paths from there: files with their
    contents, and the directories that hold nothing, with a slash. A link shows what it
    leads to. At most `links` are followed on one path. -/
def listing (fs : FileSystem) (links : Nat) (directory : Path) :
    List (Octets × Option Octets) :=
  let rows := fs.nodes.entries.flatMap fun (path, node) =>
    if !directory.isPrefixOf path || path == directory then []
    else
      let steps := path.drop directory.length
      let shown := [slash].intercalate steps
      match node with
      | .file contents => [(shown, some contents)]
      | .directory => if (fs.names path).isEmpty then [(shown ++ [slash], none)] else []
      | .link _ =>
        match fs.follow directory steps, links with
        | .ok (.found _ (.file contents)), _ => [(shown, some contents)]
        | .ok (.found below .directory), links + 1 =>
          match fs.listing links below with
          | [] => [(shown ++ [slash], none)]
          | rows => rows.map fun (name, contents) => (shown ++ slash :: name, contents)
        | _, _ => []
  rows.mergeSort fun a b => precedes a.1 b.1

/-- Does the path lead to a directory? -/
def isDirectory (fs : FileSystem) (start : Path) (steps : List Name) : Bool :=
  match fs.follow start steps with
  | .ok (.found _ .directory) => true
  | _ => false

/-- Does the path lead to anything? -/
def pathExists (fs : FileSystem) (start : Path) (steps : List Name) : Bool :=
  match fs.follow start steps with
  | .ok (.found _ _) => true
  | _ => false

/-- The contents of the file that a path leads to. -/
def read (fs : FileSystem) (start : Path) (steps : List Name) : Except SystemError Octets :=
  match fs.follow start steps with
  | .ok (.found path (.file contents)) =>
    if fs.forbids path then .error .accessDenied else .ok contents
  | .ok (.found _ _) => .error .isDirectory
  | .ok (.vacant _ _) => .error .noEntry
  | .error e => .error e

/-- Writes a file where a path leads, replacing the contents of one that is there. -/
def write (fs : FileSystem) (start : Path) (steps : List Name) (contents : Octets) :
    Except SystemError FileSystem :=
  match fs.follow start steps with
  | .ok (.found path (.file _)) => .ok (fs.place path (.file contents))
  | .ok (.found _ _) => .error .isDirectory
  | .ok (.vacant directory name) => .ok (fs.place (directory ++ [name]) (.file contents))
  | .error e => .error e

/-- Makes one directory in a directory that exists. A link in its place counts as
    something that exists, wherever it points. -/
def makeDirectory (fs : FileSystem) (start : Path) (steps : List Name) :
    Except SystemError FileSystem :=
  match refusal? start steps, steps.getLast? with
  | some e, _ => .error e
  | none, none => .error .exists
  | none, some name =>
    match fs.follow start (steps.dropLast ++ [here]) with
    | .error e => .error e
    | .ok (.found directory .directory) =>
      if name = here ∨ name = above then .error .exists
      else if maxName < name.length then .error .nameTooLong
      else if (fs.node? (directory ++ [name])).isSome then .error .exists
      else .ok (fs.place (directory ++ [name]) .directory)
    | .ok _ => .error .noEntry

/-- Steps without those that stay. -/
def essential (steps : List Name) : List Name := steps.filter fun step => decide (step ≠ here)

theorem essential_dropLast (steps : List Name) :
    essential (essential steps).dropLast = (essential steps).dropLast := by
  apply List.filter_eq_self.2
  intro step h
  exact (List.mem_filter.1 (List.dropLast_subset _ h)).2

/-- Makes a directory and those above it that are missing. A path that leads to a
    directory already is accepted as it is. -/
def makeDirectories (fs : FileSystem) (start : Path) (steps : List Name) :
    FileSystem × Except SystemError Unit :=
  match fs.makeDirectory start steps with
  | .ok fs' => (fs', .ok ())
  | .error .noEntry =>
    if _h : essential steps = [] then (fs, .error .noEntry)
    else
      match fs.makeDirectories start (essential steps).dropLast with
      | (fs', .error e) => (fs', .error e)
      | (fs', .ok ()) =>
        match fs'.makeDirectory start steps with
        | .ok fs'' => (fs'', .ok ())
        | .error e => if fs'.isDirectory start steps then (fs', .ok ()) else (fs', .error e)
  | .error e => if fs.isDirectory start steps then (fs, .ok ()) else (fs, .error e)
termination_by (essential steps).length
decreasing_by
  rw [essential_dropLast, List.length_dropLast]
  have : 0 < (essential steps).length := List.length_pos_iff.2 ‹_›
  omega

end FileSystem

end Harbor.Files
