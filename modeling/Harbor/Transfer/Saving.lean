import Harbor.Files.Written
import Harbor.Transfer.Client

/-!
# Saving fetched files

Fetched files are written into one directory, which is made if it is missing. A
server chooses the names, so only plain ones are written: a name that is not the name
that it ends in when it is read as a path is passed over.
-/

namespace Harbor.Transfer

open Files (FileSystem Path)

/-- Is the text, as a path, nothing but the name that it ends in? -/
def isPlain (name : String) : Bool :=
  Files.lastName? (Text.encode name) == some (Text.encode name)

/-- Writes the plain ones among the files into a directory, one after another until
    one cannot be written. -/
def writeFiles (fs : FileSystem) (start : Path) (directory : String) :
    List FetchedFile → FileSystem × Except Client.Error (List String)
  | [] => (fs, .ok [])
  | file :: files =>
    if isPlain file.name then
      let steps := Files.stepsOf (Text.encode directory) ++ [Text.encode file.name]
      match fs.write start steps (Text.encode file.contents) with
      | .error e => (fs, .error (.system e))
      | .ok fs' =>
        match writeFiles fs' start directory files with
        | (fs'', .ok paths) => (fs'', .ok (Files.joined directory file.name :: paths))
        | (fs'', .error e) => (fs'', .error e)
    else writeFiles fs start directory files

/-- Makes the directory and writes the files into it (`save_files`). Gives the paths written. -/
def saveFiles (fs : FileSystem) (start : Path) (directory : String) (files : List FetchedFile) :
    FileSystem × Except Client.Error (List String) :=
  match fs.makeDirectories start (Files.stepsOf (Text.encode directory)) with
  | (fs', .error e) => (fs', .error (.system e))
  | (fs', .ok ()) => writeFiles fs' start directory files

end Harbor.Transfer
