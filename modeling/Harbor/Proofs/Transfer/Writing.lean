import Harbor.Proofs.Files.Making
import Harbor.Proofs.Files.Written
import Harbor.Proofs.Text.Octets
import Harbor.Transfer.Saving
import Mathlib.Data.List.TakeWhile

/-!
# Writing files into a directory

A plain name names something directly in a directory, whatever else a server may send for
one. Where no link lies under it, the file is written there or for one of three reasons not
at all, and no other file changes which of them holds. So the files are written one after
another up to the first that cannot be.

Main results:

* `isPlain_iff`: which names are plain.
* `FileSystem.write_in`: what writing one file into a directory does.
* `writeFiles_eq_placeFiles`: what writing any number of them does.
-/

namespace Harbor

open Files (FileSystem Path Name IsName slash here above maxName pathSize maxPath stepsOf joined)

/-! ## One file -/

namespace Files.FileSystem

variable {fs : FileSystem} {start directory path : Path} {steps : List Name} {name : Name}

/-- Why a file cannot be written under a name into the directory that a path leads to. -/
def writeFault? (fs : FileSystem) (start : Path) (steps : List Name) (directory : Path)
    (name : Name) : Option SystemError :=
  match refusal? start (steps ++ [name]) with
  | some e => some e
  | none =>
    if maxName < name.length then some .nameTooLong
    else if fs.node? (directory ++ [name]) = some .directory then some .isDirectory
    else none

/-- A file is written into a directory under its name, in place of the one that was there, if
    there is no link. -/
theorem write_in (h : fs.follow start steps = .ok (.found directory .directory))
    (hhere : name ≠ here) (habove : name ≠ above)
    (hlink : ∀ target, fs.node? (directory ++ [name]) ≠ some (.link target)) (contents : Octets) :
    fs.write start (steps ++ [name]) contents =
      match fs.writeFault? start steps directory name with
      | some e => .error e
      | none => .ok (fs.place (directory ++ [name]) (.file contents)) := by
  obtain ⟨-, hstart, hwalk⟩ := follow_eq_ok_iff.1 h
  obtain ⟨links, hlinks⟩ := walk_append hwalk
  rw [write, follow, writeFault?]
  cases refusal? start (steps ++ [name]) with
  | some e => rfl
  | none =>
    rw [hstart]
    dsimp only
    rw [hlinks]
    by_cases hlength : maxName < name.length
    · rw [walk, if_neg hhere, if_neg habove, if_pos hlength, if_pos hlength]
    rw [walk_name hhere habove hlength, if_neg hlength]
    cases hnode : fs.node? (directory ++ [name]) with
    | none => rfl
    | some node =>
      cases node with
      | file old => rfl
      | directory =>
        dsimp only
        rw [walk]
        rfl
      | link target => exact absurd hnode (hlink target)

theorem takesFile_of_writeFault? (h : fs.writeFault? start steps directory name = none)
    (hlink : ∀ target, fs.node? (directory ++ [name]) ≠ some (.link target)) :
    fs.TakesFile (directory ++ [name]) := by
  intro node hnode
  cases node with
  | file contents => exact ⟨contents, rfl⟩
  | link target => exact absurd hnode (hlink target)
  | directory =>
    rw [writeFault?, if_pos hnode] at h
    split at h
    · cases h
    · split at h <;> cases h

/-- A file that is put somewhere keeps no other from being written. -/
theorem writeFault?_place (hpath : fs.TakesFile path) (contents : Octets) :
    (fs.place path (.file contents)).writeFault? start steps directory name =
      fs.writeFault? start steps directory name := by
  have hnode : (fs.place path (.file contents)).node? (directory ++ [name]) = some .directory ↔
      fs.node? (directory ++ [name]) = some .directory := by
    rw [node?_place hpath.ne_nil]
    split
    · next heq =>
      rw [← heq]
      exact iff_of_false nofun hpath.node?_ne_directory
    · rfl
  unfold writeFault?
  simp only [hnode]

theorem writeFault?_eq_none (h : fs.follow start steps = .ok (.found directory .directory))
    (hname : IsName name) (hsize : pathSize (start ++ steps ++ [name]) ≤ maxPath)
    (hnode : fs.node? (directory ++ [name]) = none) :
    fs.writeFault? start steps directory name = none := by
  have hrefusal := (follow_eq_ok_iff.1 (follow_vacant h hname hsize hnode)).1
  rw [writeFault?, hrefusal, hnode]
  dsimp only
  rw [if_neg (Nat.not_lt.2 hname.length_le), if_neg nofun]

/-- Nothing is written where the path is too long. -/
theorem writeFault?_of_long (h : fs.follow start steps = .ok (.found directory .directory))
    (hname : 0 ∉ name) (hlong : maxPath < pathSize (start ++ steps ++ [name])) :
    fs.writeFault? start steps directory name = some .nameTooLong := by
  have hnul := (refusal?_eq_none_iff.1 (follow_eq_ok_iff.1 h).1).1
  rw [List.append_assoc] at hlong
  have hrefusal : refusal? start (steps ++ [name]) = some .nameTooLong := by
    refine refusal?_of_long (fun other hother => ?_) hlong
    rw [← List.append_assoc, List.mem_append, List.mem_singleton] at hother
    rcases hother with hother | rfl
    · exact hnul other hother
    · exact hname
  rw [writeFault?, hrefusal]

/-- Nothing is written under a name that holds a NUL. -/
theorem writeFault?_of_nul (h : 0 ∈ name) :
    fs.writeFault? start steps directory name = some .nulInPath := by
  have hany : (start ++ (steps ++ [name])).any (fun name => name.contains 0) = true :=
    List.any_eq_true.2 ⟨name, by simp, List.contains_iff_mem.2 h⟩
  rw [writeFault?, refusal?, if_pos hany]

end Files.FileSystem

namespace Transfer

variable {fs : FileSystem} {start place path : Path} {steps : List Name} {directory : String}
  {files : List FetchedFile} {file : FetchedFile}

/-! ## Plain names -/

/-- A name is plain when it is not empty, holds no slash, and is neither the step that stays
    nor the one to the directory above. -/
theorem isPlain_iff {name : String} : isPlain name = true ↔
    name ≠ "" ∧ '/' ∉ name.toList ∧ name ≠ "." ∧ name ≠ ".." := by
  have hslash : slash ∈ Text.encode name ↔ '/' ∈ name.toList := by
    constructor
    · intro h
      obtain ⟨c, hc, heq⟩ := Text.exists_char_of_mem_encode h (by decide)
      rwa [Char.toNat_inj.1 (heq.trans (by decide : slash.toNat = '/'.toNat))] at hc
    · exact fun h => Text.mem_encode h (by decide)
  have hencode (other : String) : Text.encode name = Text.encode other ↔ name = other :=
    Text.encode_inj
  rw [isPlain, beq_iff_eq, Files.lastName?_eq_self_iff, hslash]
  exact and_congr (not_congr (hencode "")) (and_congr Iff.rfl
    (and_congr (not_congr (hencode ".")) (not_congr (hencode ".."))))

theorem isPlain_of_isName {name : String} (h : IsName (Text.encode name)) :
    isPlain name = true := by
  rw [isPlain, beq_iff_eq]
  exact Files.lastName?_eq_self_iff.2 ⟨h.ne_nil, h.slash_not_mem, h.ne_here, h.ne_above⟩

/-- The files that are written. -/
def plainFiles (files : List FetchedFile) : List FetchedFile :=
  files.filter fun file => isPlain file.name

theorem isPlain_of_mem (h : file ∈ plainFiles files) : isPlain file.name = true :=
  (List.mem_filter.1 h).2

/-! ## Any number of files -/

/-- The place of a file in a directory. -/
def FetchedFile.placeIn (file : FetchedFile) (place : Path) : Path :=
  place ++ [Text.encode file.name]

/-- A file system with files in a directory, each in place of what was there. -/
def placeFiles (fs : FileSystem) (place : Path) : List FetchedFile → FileSystem
  | [] => fs
  | file :: files =>
    placeFiles (fs.place (file.placeIn place) (.file (Text.encode file.contents))) place files

theorem placeIn_ne_nil (file : FetchedFile) (place : Path) : file.placeIn place ≠ [] :=
  List.append_ne_nil_of_right_ne_nil _ (List.cons_ne_nil _ _)

theorem placeIn_inj {file' : FetchedFile} (h : file.placeIn place = file'.placeIn place) :
    Text.encode file.name = Text.encode file'.name :=
  List.singleton_inj.1 (List.append_cancel_left h)

/-- A place that has got none of the files is as it was, and any other holds one of them. -/
theorem node?_placeFiles (fs : FileSystem) (place : Path) (files : List FetchedFile) (path : Path) :
    (placeFiles fs place files).node? path = fs.node? path ∨ ∃ file ∈ files,
      path = file.placeIn place ∧ (placeFiles fs place files).node? path =
        some (.file (Text.encode file.contents)) := by
  induction files generalizing fs with
  | nil => exact .inl rfl
  | cons file files ih =>
    rw [placeFiles]
    rcases ih (fs.place (file.placeIn place) (.file (Text.encode file.contents))) with
      heq | ⟨other, hother, hplace, hnode⟩
    · rw [heq, FileSystem.node?_place (placeIn_ne_nil file place)]
      split
      · next hpath => exact .inr ⟨file, List.mem_cons_self, hpath.symm, rfl⟩
      · exact .inl rfl
    · exact .inr ⟨other, List.mem_cons_of_mem _ hother, hplace, hnode⟩

theorem node?_placeFiles_of_not_mem (h : ∀ file ∈ files, file.placeIn place ≠ path) :
    (placeFiles fs place files).node? path = fs.node? path := by
  rcases node?_placeFiles fs place files path with heq | ⟨file, hmem, hplace, -⟩
  · exact heq
  · exact absurd hplace.symm (h file hmem)

/-- The last of the files with a name is the one that is there. -/
theorem node?_placeFiles_last {before after : List FetchedFile}
    (h : ∀ other ∈ after, Text.encode other.name ≠ Text.encode file.name) :
    (placeFiles fs place (before ++ file :: after)).node? (file.placeIn place) =
      some (.file (Text.encode file.contents)) := by
  induction before generalizing fs with
  | nil =>
    rw [List.nil_append, placeFiles,
      node?_placeFiles_of_not_mem fun other hother heq => h other hother (placeIn_inj heq),
      FileSystem.node?_place (placeIn_ne_nil file place), if_pos rfl]
  | cons first before ih => exact ih

theorem node?_placeFiles_of_mem
    (h : files.Pairwise fun a b => Text.encode a.name ≠ Text.encode b.name) (hmem : file ∈ files) :
    (placeFiles fs place files).node? (file.placeIn place) =
      some (.file (Text.encode file.contents)) := by
  obtain ⟨before, after, rfl⟩ := List.append_of_mem hmem
  have hafter := (List.pairwise_cons.1 (List.pairwise_append.1 h).2.1).1
  exact node?_placeFiles_last fun other hother => (hafter other hother).symm

/-- Why a file cannot be written into a directory. -/
def fault? (fs : FileSystem) (start : Path) (directory : String) (place : Path)
    (file : FetchedFile) : Option SystemError :=
  fs.writeFault? start (stepsOf (Text.encode directory)) place (Text.encode file.name)

/-- No plain file has a link in its place. -/
def NoLinks (fs : FileSystem) (place : Path) (files : List FetchedFile) : Prop :=
  ∀ file ∈ plainFiles files, ∀ target, fs.node? (file.placeIn place) ≠ some (.link target)

theorem writeFiles_cons
    (h : fs.follow start (stepsOf (Text.encode directory)) = .ok (.found place .directory))
    (hplain : isPlain file.name)
    (hlink : ∀ target, fs.node? (file.placeIn place) ≠ some (.link target)) :
    writeFiles fs start directory (file :: files) =
      match fault? fs start directory place file with
      | some e => (fs, .error (.system e))
      | none =>
        let later := writeFiles
          (fs.place (file.placeIn place) (.file (Text.encode file.contents))) start directory files
        (later.1, later.2.map (joined directory file.name :: ·)) := by
  obtain ⟨-, -, hhere, habove⟩ := Files.lastName?_eq_self_iff.1 (beq_iff_eq.1 hplain)
  rw [writeFiles, if_pos hplain]
  dsimp only
  rw [FileSystem.write_in h hhere habove hlink, fault?]
  cases fs.writeFault? start (stepsOf (Text.encode directory)) place (Text.encode file.name) with
  | some e => rfl
  | none =>
    dsimp only
    rw [FetchedFile.placeIn]
    rcases writeFiles (fs.place (place ++ [Text.encode file.name])
      (.file (Text.encode file.contents))) start directory files with ⟨fs', _ | paths⟩ <;> rfl

/-- The plain files are written up to the first that cannot be, whose fault is returned. -/
theorem writeFiles_eq_placeFiles
    (h : fs.follow start (stepsOf (Text.encode directory)) = .ok (.found place .directory))
    (hlinks : NoLinks fs place files) :
    writeFiles fs start directory files =
      (placeFiles fs place ((plainFiles files).takeWhile fun file =>
        (fault? fs start directory place file).isNone),
      match (plainFiles files).findSome? (fault? fs start directory place) with
      | some e => .error (.system e)
      | none => .ok ((plainFiles files).map fun file => joined directory file.name)) := by
  induction files generalizing fs with
  | nil => rfl
  | cons file files ih =>
    by_cases hplain : isPlain file.name
    · have hcons : plainFiles (file :: files) = file :: plainFiles files :=
        List.filter_cons_of_pos hplain
      rw [NoLinks, hcons, List.forall_mem_cons] at hlinks
      rw [writeFiles_cons h hplain hlinks.1, hcons, List.findSome?_cons, List.takeWhile_cons]
      cases hfault : fault? fs start directory place file with
      | some e => rfl
      | none =>
        -- the file that is written gives no other one a fault or a link
        have htakes : fs.TakesFile (file.placeIn place) :=
          FileSystem.takesFile_of_writeFault? hfault hlinks.1
        have hfaults : fault? (fs.place (file.placeIn place) (.file (Text.encode file.contents)))
            start directory place = fault? fs start directory place :=
          funext fun other => FileSystem.writeFault?_place htakes _
        have hlinks' : NoLinks (fs.place (file.placeIn place) (.file (Text.encode file.contents)))
            place files := by
          intro other hother target
          rw [FileSystem.node?_place htakes.ne_nil]
          split
          · nofun
          · exact hlinks.2 other hother target
        rw [ih (FileSystem.follow_place h htakes _) hlinks', hfaults]
        dsimp only
        cases (plainFiles files).findSome? (fault? fs start directory place) <;> rfl
    · have hcons : plainFiles (file :: files) = plainFiles files :=
        List.filter_cons_of_neg hplain
      rw [NoLinks, hcons] at hlinks
      rw [writeFiles, if_neg hplain, hcons]
      exact ih h hlinks

theorem writeFiles_of_faultless
    (h : fs.follow start (stepsOf (Text.encode directory)) = .ok (.found place .directory))
    (hlinks : NoLinks fs place files)
    (hfaults : ∀ file ∈ plainFiles files, fault? fs start directory place file = none) :
    writeFiles fs start directory files = (placeFiles fs place (plainFiles files),
      .ok ((plainFiles files).map fun file => joined directory file.name)) := by
  have hall : (plainFiles files).takeWhile
      (fun file => (fault? fs start directory place file).isNone) = plainFiles files :=
    List.takeWhile_eq_self_iff.2 fun file hmem => by rw [hfaults file hmem, Option.isNone_none]
  rw [writeFiles_eq_placeFiles h hlinks, hall, List.findSome?_eq_none_iff.2 hfaults]

theorem writeFiles_of_fault {before after : List FetchedFile} {e : SystemError}
    (h : fs.follow start (stepsOf (Text.encode directory)) = .ok (.found place .directory))
    (hlinks : NoLinks fs place files) (hsplit : plainFiles files = before ++ file :: after)
    (hbefore : ∀ other ∈ before, fault? fs start directory place other = none)
    (hfault : fault? fs start directory place file = some e) :
    writeFiles fs start directory files = (placeFiles fs place before, .error (.system e)) := by
  have hfound : (plainFiles files).findSome? (fault? fs start directory place) = some e :=
    List.findSome?_eq_some_iff.2 ⟨before, file, after, hsplit, hfault, hbefore⟩
  have htaken : (plainFiles files).takeWhile
      (fun file => (fault? fs start directory place file).isNone) = before := by
    rw [hsplit, List.takeWhile_append_of_pos, List.takeWhile_cons_of_neg, List.append_nil]
    · rw [hfault, Option.isNone_some]
      exact Bool.false_ne_true
    · exact fun other hother => by rw [hbefore other hother, Option.isNone_none]
  rw [writeFiles_eq_placeFiles h hlinks, hfound, htaken]

end Transfer

end Harbor
