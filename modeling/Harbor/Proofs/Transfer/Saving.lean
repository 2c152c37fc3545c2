import Harbor.Proofs.Transfer.Fetching
import Harbor.Proofs.Transfer.Writing

/-!
# Saving what was fetched

Files that are saved have names that anything in a directory can have, all of them
different. So each gets a place of its own, and an empty directory holds them and nothing
else afterwards.

Main results:

* `saveFiles_eq`: a directory that was empty holds the files, and nothing else.
* `saveFiles_stops`: one whose path is too long keeps those after it from being saved.
-/

namespace Harbor

open Files (FileSystem Path Name IsName pathSize maxPath stepsOf joined)

/-! ## Writing into a directory -/

namespace Files.FileSystem

variable {fs : FileSystem} {start : Path} {steps : List Name}

/-- Nothing is written where a path is too long. -/
theorem write_long (hnul : ∀ name ∈ start ++ steps, 0 ∉ name)
    (h : maxPath < pathSize (start ++ steps)) (contents : Octets) :
    fs.write start steps contents = .error .nameTooLong := by
  rw [write, follow, refusal?_of_long hnul h]

/-- A path leads to a directory in which there is nothing. -/
structure IsEmptyAt (fs : FileSystem) (start : Path) (steps : List Name) (directory : Path) :
    Prop where
  follow_eq : fs.follow start steps = .ok (.found directory .directory)
  node?_eq : ∀ name, fs.node? (directory ++ [name]) = none

end Files.FileSystem

namespace Transfer

variable {fs : FileSystem} {start place : Path} {directory : String} {files : List FetchedFile}

/-- The files have names, and their paths in a directory are not too long. -/
def Fitting (start : Path) (steps : List Name) (files : List FetchedFile) : Prop :=
  ∀ file ∈ files, IsName (Text.encode file.name) ∧
    pathSize (start ++ steps ++ [Text.encode file.name]) ≤ maxPath

instance (start : Path) (steps : List Name) (files : List FetchedFile) :
    Decidable (Fitting start steps files) :=
  inferInstanceAs (Decidable (∀ file ∈ files, _ ∧ _))

theorem plainFiles_eq_self (h : ∀ file ∈ files, IsName (Text.encode file.name)) :
    plainFiles files = files :=
  List.filter_eq_self.2 fun file hmem => isPlain_of_isName (h file hmem)

theorem noLinks_of_isEmptyAt (h : fs.IsEmptyAt start (stepsOf (Text.encode directory)) place)
    (files : List FetchedFile) : NoLinks fs place files := by
  intro file _ target
  rw [FetchedFile.placeIn, h.node?_eq]
  exact (Option.some_ne_none _).symm

/-- A file that fits can be written into an empty directory. -/
theorem Fitting.fault?_eq_none (hfit : Fitting start (stepsOf (Text.encode directory)) files)
    (h : fs.IsEmptyAt start (stepsOf (Text.encode directory)) place) :
    ∀ file ∈ files, fault? fs start directory place file = none :=
  fun file hmem => FileSystem.writeFault?_eq_none h.follow_eq (hfit file hmem).1 (hfit file hmem).2
    (h.node?_eq _)

/-- The files lie in a directory that was empty, and all the rest is as it was. -/
structure Saved (fs fs' : FileSystem) (place : Path) (files : List FetchedFile) : Prop where
  node?_eq_some_iff : ∀ name node, fs'.node? (place ++ [name]) = some node ↔
    ∃ file ∈ files, name = Text.encode file.name ∧ node = .file (Text.encode file.contents)
  node?_eq : ∀ path, (∀ name, path ≠ place ++ [name]) → fs'.node? path = fs.node? path

theorem saved_placeFiles (hvacant : ∀ name, fs.node? (place ++ [name]) = none)
    (hnames : files.Pairwise fun a b => Text.encode a.name ≠ Text.encode b.name) :
    Saved fs (placeFiles fs place files) place files where
  node?_eq_some_iff name node := by
    constructor
    · intro hnode
      rcases node?_placeFiles fs place files (place ++ [name]) with
        heq | ⟨file, hmem, hplace, hfile⟩
      · rw [heq, hvacant] at hnode
        cases hnode
      · rw [hfile, Option.some_inj] at hnode
        exact ⟨file, hmem, List.singleton_inj.1 (List.append_cancel_left hplace), hnode.symm⟩
    · rintro ⟨file, hmem, rfl, rfl⟩
      exact node?_placeFiles_of_mem hnames hmem
  node?_eq path hpath :=
    node?_placeFiles_of_not_mem fun file _ heq => hpath _ heq.symm

theorem stepsOf_ne_nil (path : Octets) : ∀ step ∈ stepsOf path, step ≠ [] := by
  intro step hstep
  simpa using (List.mem_filter.1 hstep).2

/-- Files that fit are written into an empty directory one after another. -/
theorem saveFiles_eq_placeFiles
    (h : fs.IsEmptyAt start (stepsOf (Text.encode directory)) place)
    (hfit : Fitting start (stepsOf (Text.encode directory)) files) :
    saveFiles fs start directory files =
      (placeFiles fs place files, .ok (files.map fun file => joined directory file.name)) := by
  have hplain := plainFiles_eq_self fun file hmem => (hfit file hmem).1
  rw [saveFiles, FileSystem.makeDirectories_of_follow h.follow_eq (stepsOf_ne_nil _)]
  dsimp only
  rw [writeFiles_of_faultless h.follow_eq (noLinks_of_isEmptyAt h files)
    (by rw [hplain]; exact hfit.fault?_eq_none h), hplain]

/-- Files with different names are all there is in a directory that was empty. -/
theorem saveFiles_eq (h : fs.IsEmptyAt start (stepsOf (Text.encode directory)) place)
    (hfit : Fitting start (stepsOf (Text.encode directory)) files)
    (hnames : files.Pairwise fun a b => Text.encode a.name ≠ Text.encode b.name) :
    ∃ fs', saveFiles fs start directory files =
        (fs', .ok (files.map fun file => joined directory file.name)) ∧
      Saved fs fs' place files :=
  ⟨placeFiles fs place files, saveFiles_eq_placeFiles h hfit, saved_placeFiles h.node?_eq hnames⟩

/-- At a file with a path that is too long the saving stops, and the files before it are all
    there is. -/
theorem saveFiles_stops (h : fs.IsEmptyAt start (stepsOf (Text.encode directory)) place)
    {before after : List FetchedFile} {file : FetchedFile}
    (hfit : Fitting start (stepsOf (Text.encode directory)) before)
    (hnames : ∀ other ∈ before ++ file :: after, IsName (Text.encode other.name))
    (hlong : maxPath <
      pathSize (start ++ stepsOf (Text.encode directory) ++ [Text.encode file.name]))
    (hdistinct : before.Pairwise fun a b => Text.encode a.name ≠ Text.encode b.name) :
    ∃ fs', saveFiles fs start directory (before ++ file :: after) =
        (fs', .error (.system .nameTooLong)) ∧ Saved fs fs' place before := by
  have hname := hnames file (List.mem_append_right _ List.mem_cons_self)
  refine ⟨placeFiles fs place before, ?_, saved_placeFiles h.node?_eq hdistinct⟩
  rw [saveFiles, FileSystem.makeDirectories_of_follow h.follow_eq (stepsOf_ne_nil _)]
  exact writeFiles_of_fault h.follow_eq (noLinks_of_isEmptyAt h _) (plainFiles_eq_self hnames)
    (hfit.fault?_eq_none h) (FileSystem.writeFault?_of_long h.follow_eq hname.nul_not_mem hlong)

end Transfer

end Harbor
