import Harbor.Files.FileSystem

/-!
# Paths written out

A path written out begins at the top if it begins with a slash, and else at the
current directory. The empty path leads nowhere.
-/

namespace Harbor.Files

/-- The path of a name in a directory. -/
def joined (directory name : String) : String :=
  if directory = "" ∨ directory.toList.getLast? = some '/' then directory ++ name
  else directory ++ "/" ++ name

/-- The name that a path written out ends in. Slashes behind it and steps that stay do not
    count, and a path that ends with the step to the directory above has none. -/
def lastName? (path : Octets) : Option Name :=
  (FileSystem.essential (stepsOf path)).getLast?.filter fun name => name ≠ above

/-- The place where a path written out begins. -/
def startOf (current : Path) (path : String) : Path :=
  if path.toList.head? = some '/' then [] else current

/-- The steps that a path written out takes. -/
def writtenSteps (path : String) : List Name := targetSteps (Text.encode path)

namespace FileSystem

/-- Does a path written out lead to anything? -/
def writtenExists (fs : FileSystem) (current : Path) (path : String) : Bool :=
  path != "" && fs.pathExists (startOf current path) (writtenSteps path)

/-- The contents of the file that a path written out leads to. -/
def readWritten (fs : FileSystem) (current : Path) (path : String) : Except SystemError Octets :=
  if path = "" then .error .noEntry else fs.read (startOf current path) (writtenSteps path)

/-- The place of the directory that a path written out leads to. -/
def placeOf (fs : FileSystem) (current : Path) (path : String) : Path :=
  match fs.follow (startOf current path) (writtenSteps path) with
  | .ok (.found place _) => place
  | _ => startOf current path ++ writtenSteps path

end FileSystem

end Harbor.Files
