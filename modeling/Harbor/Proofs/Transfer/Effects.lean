import Harbor.Proofs.Transfer.Writing

/-!
# What saving does to a file system

A client saves files into a directory that it chooses under names that a server chooses.
Whatever the server sends, the directory is made with those above it that are missing, its
plain names get files, and nothing else changes. When one file cannot be written, all is as
though the plain ones before it had been the only ones.

Writing a file goes where a link in its place points, so the directory must hold none.

Main results:

* `changes_saveFiles`: what a place that has changed was before, and what it is.
* `outcome_saveFiles`: what is returned, and what the directory holds then.
* `saveFiles_stays`: both, and which names are written.
-/

namespace Harbor

open Files (FileSystem Path Name stepsOf joined)

namespace Transfer

variable {fs fs' : FileSystem} {start place path : Path} {steps : List Name} {directory : String}
  {files written : List FetchedFile} {file : FetchedFile}

/-- No link lies directly in the directory that a path leads to once it has been made. -/
def HoldsNoLink (fs : FileSystem) (start : Path) (steps : List Name) : Prop :=
  ∀ place name target,
    (fs.makeDirectories start steps).1.follow start steps = .ok (.found place .directory) →
    fs.node? (place ++ [name]) ≠ some (.link target)

/-- How saving files changes a place. -/
inductive Change (fs fs' : FileSystem) (start : Path) (directory : String)
    (files : List FetchedFile) (path : Path) : Prop
  /-- Nothing was there, and now it is a directory on the way. -/
  | made : fs.node? path = none → fs'.node? path = some .directory →
      fs'.OnTheWay start (stepsOf (Text.encode directory)) path →
      Change fs fs' start directory files path
  /-- It is directly in the directory, nothing was there or a file, and now it is a file with
      the name and the contents of a plain one. -/
  | written (place : Path) (file : FetchedFile) :
      fs'.follow start (stepsOf (Text.encode directory)) = .ok (.found place .directory) →
      file ∈ plainFiles files → path = file.placeIn place → fs.TakesFile path →
      fs'.node? path = some (.file (Text.encode file.contents)) →
      Change fs fs' start directory files path

/-- The path leads to a directory in which the files lie, of several of one name the last. -/
structure Holds (fs : FileSystem) (start : Path) (directory : String) (place : Path)
    (files : List FetchedFile) : Prop where
  follow_eq : fs.follow start (stepsOf (Text.encode directory)) = .ok (.found place .directory)
  node?_eq : ∀ before file after, files = before ++ file :: after →
    (∀ other ∈ after, other.name ≠ file.name) →
    fs.node? (file.placeIn place) = some (.file (Text.encode file.contents))

/-- What saving files comes to. -/
inductive Outcome (fs : FileSystem) (start : Path) (directory : String)
    (files : List FetchedFile) : FileSystem × Except Client.Error (List String) → Prop
  /-- The directory cannot be made. -/
  | unmade {fs' : FileSystem} {e : SystemError} :
      fs.makeDirectories start (stepsOf (Text.encode directory)) = (fs', .error e) →
      Outcome fs start directory files (fs', .error (.system e))
  /-- All the plain files are written. -/
  | saved {fs' : FileSystem} (place : Path) : Holds fs' start directory place (plainFiles files) →
      (∀ file ∈ plainFiles files, fault? fs' start directory place file = none) →
      Outcome fs start directory files
        (fs', .ok ((plainFiles files).map fun file => joined directory file.name))
  /-- A plain file cannot be written: those before it have been saved, and no more. -/
  | stopped {fs' : FileSystem} {e : SystemError} (place : Path) (before after : List FetchedFile)
      (file : FetchedFile) : plainFiles files = before ++ file :: after →
      saveFiles fs start directory before =
        (fs', .ok (before.map fun file => joined directory file.name)) →
      Holds fs' start directory place before →
      fault? fs' start directory place file = some e →
      Outcome fs start directory files (fs', .error (.system e))

/-! ## Files in their places -/

/-- Files that are put where there is room for them leave the way to a directory. -/
theorem follow_placeFiles {there : Path}
    (h : fs.follow start steps = .ok (.found there .directory))
    (htakes : ∀ file ∈ files, fs.TakesFile (file.placeIn place)) :
    (placeFiles fs place files).follow start steps = .ok (.found there .directory) := by
  induction files generalizing fs with
  | nil => exact h
  | cons file files ih =>
    rw [List.forall_mem_cons] at htakes
    exact ih (FileSystem.follow_place h htakes.1 _)
      fun other hother => (htakes.2 other hother).place_file htakes.1.ne_nil _

/-- Files that are put where there is room for them keep no other from being written. -/
theorem fault?_placeFiles (htakes : ∀ file ∈ files, fs.TakesFile (file.placeIn place))
    (file : FetchedFile) : fault? (placeFiles fs place files) start directory place file =
      fault? fs start directory place file := by
  induction files generalizing fs with
  | nil => rfl
  | cons first files ih =>
    rw [List.forall_mem_cons] at htakes
    rw [placeFiles, ih fun other hother => (htakes.2 other hother).place_file htakes.1.ne_nil _]
    exact FileSystem.writeFault?_place htakes.1 _

theorem holds_placeFiles
    (h : fs.follow start (stepsOf (Text.encode directory)) = .ok (.found place .directory))
    (htakes : ∀ file ∈ files, fs.TakesFile (file.placeIn place)) :
    Holds (placeFiles fs place files) start directory place files where
  follow_eq := follow_placeFiles h htakes
  node?_eq := by
    rintro before file after rfl hafter
    exact node?_placeFiles_last fun other hother heq =>
      hafter other hother (Text.encode_inj.1 heq)

/-! ## After the directory is made -/

section

variable (hlinks : HoldsNoLink fs start (stepsOf (Text.encode directory)))
  (hmake : fs.makeDirectories start (stepsOf (Text.encode directory)) = (fs', .ok ()))
  (hfollow : fs'.follow start (stepsOf (Text.encode directory)) = .ok (.found place .directory))

include hmake

theorem makes_of_made : fs.Makes fs' start (stepsOf (Text.encode directory)) := by
  have h := FileSystem.makes_makeDirectories fs start (stepsOf (Text.encode directory))
  rwa [hmake] at h

/-- A place with room for a file had room for one before. -/
theorem takesFile_of_made (h : fs'.TakesFile path) : fs.TakesFile path := by
  by_cases heq : fs'.node? path = fs.node? path
  · intro node hnode
    exact h node (heq.trans hnode)
  · exact absurd (makes_of_made hmake path heq).2.1 h.node?_ne_directory

include hlinks hfollow

theorem noLinks_of_made (files : List FetchedFile) : NoLinks fs' place files := by
  intro file _ target hnode
  by_cases heq : fs'.node? (file.placeIn place) = fs.node? (file.placeIn place)
  · refine hlinks place (Text.encode file.name) target ?_ (heq.symm.trans hnode)
    rw [hmake]
    exact hfollow
  · rw [(makes_of_made hmake _ heq).2.1] at hnode
    cases hnode

theorem takesFile_of_faultless (hsub : ∀ file ∈ written, file ∈ plainFiles files)
    (hfaults : ∀ file ∈ written, fault? fs' start directory place file = none) :
    ∀ file ∈ written, fs'.TakesFile (file.placeIn place) := fun file hmem =>
  FileSystem.takesFile_of_writeFault? (hfaults file hmem)
    (noLinks_of_made hlinks hmake hfollow files file (hsub file hmem))

/-- Either all the plain files are written, or those before the first with a fault. -/
theorem saveFiles_cases (files : List FetchedFile) :
    ((∀ file ∈ plainFiles files, fault? fs' start directory place file = none) ∧
      saveFiles fs start directory files = (placeFiles fs' place (plainFiles files),
        .ok ((plainFiles files).map fun file => joined directory file.name))) ∨
    ∃ before file after e, plainFiles files = before ++ file :: after ∧
      (∀ other ∈ before, fault? fs' start directory place other = none) ∧
      fault? fs' start directory place file = some e ∧
      saveFiles fs start directory files = (placeFiles fs' place before, .error (.system e)) := by
  have hnolinks := noLinks_of_made hlinks hmake hfollow files
  rw [saveFiles, hmake]
  cases hfound : (plainFiles files).findSome? (fault? fs' start directory place) with
  | none =>
    have hfaults := List.findSome?_eq_none_iff.1 hfound
    exact .inl ⟨hfaults, writeFiles_of_faultless hfollow hnolinks hfaults⟩
  | some e =>
    obtain ⟨before, file, after, hsplit, hfault, hbefore⟩ := List.findSome?_eq_some_iff.1 hfound
    exact .inr ⟨before, file, after, e, hsplit, hbefore, hfault,
      writeFiles_of_fault hfollow hnolinks hsplit hbefore hfault⟩

/-- Files that are written where the directory has been made are all that changes. -/
theorem change_placeFiles (hsub : ∀ file ∈ written, file ∈ plainFiles files)
    (hfaults : ∀ file ∈ written, fault? fs' start directory place file = none)
    (hpath : (placeFiles fs' place written).node? path ≠ fs.node? path) :
    Change fs (placeFiles fs' place written) start directory files path := by
  have htakes := takesFile_of_faultless hlinks hmake hfollow hsub hfaults
  rcases node?_placeFiles fs' place written path with heq | ⟨file, hmem, hplace, hnode⟩
  · rw [heq] at hpath
    obtain ⟨hvacant, hmade, front, hfront, hway⟩ := makes_of_made hmake path hpath
    exact .made hvacant (heq.trans hmade) ⟨front, hfront, follow_placeFiles hway htakes⟩
  · have hbefore := takesFile_of_made hmake (htakes file hmem)
    exact .written place file (follow_placeFiles hfollow htakes) (hsub file hmem) hplace
      (hplace ▸ hbefore) hnode

end

/-! ## Saving -/

/-- Every place that changes is a directory made on the way, or a file written directly in the
    directory. -/
theorem changes_saveFiles (hlinks : HoldsNoLink fs start (stepsOf (Text.encode directory)))
    (files : List FetchedFile) {path : Path}
    (hpath : (saveFiles fs start directory files).1.node? path ≠ fs.node? path) :
    Change fs (saveFiles fs start directory files).1 start directory files path := by
  rcases hmake : fs.makeDirectories start (stepsOf (Text.encode directory)) with ⟨fs', e | ⟨⟩⟩
  · have hmakes := FileSystem.makes_makeDirectories fs start (stepsOf (Text.encode directory))
    rw [hmake] at hmakes
    rw [saveFiles, hmake] at hpath ⊢
    obtain ⟨hvacant, hmade, hway⟩ := hmakes path hpath
    exact .made hvacant hmade hway
  obtain ⟨place, hfollow⟩ := FileSystem.exists_follow_makeDirectories hmake
  rcases saveFiles_cases hlinks hmake hfollow files with
    ⟨hfaults, hsave⟩ | ⟨before, file, after, e, hsplit, hbefore, -, hsave⟩
  · rw [hsave] at hpath ⊢
    exact change_placeFiles hlinks hmake hfollow (fun _ h => h) hfaults hpath
  · have hsub : ∀ other ∈ before, other ∈ plainFiles files := fun other hmem =>
      hsplit ▸ List.mem_append_left _ hmem
    rw [hsave] at hpath ⊢
    exact change_placeFiles hlinks hmake hfollow hsub hbefore hpath

/-- What is returned, and what the directory holds then. -/
theorem outcome_saveFiles (hlinks : HoldsNoLink fs start (stepsOf (Text.encode directory)))
    (files : List FetchedFile) :
    Outcome fs start directory files (saveFiles fs start directory files) := by
  rcases hmake : fs.makeDirectories start (stepsOf (Text.encode directory)) with ⟨fs', e | ⟨⟩⟩
  · rw [saveFiles, hmake]
    exact .unmade hmake
  obtain ⟨place, hfollow⟩ := FileSystem.exists_follow_makeDirectories hmake
  rcases saveFiles_cases hlinks hmake hfollow files with
    ⟨hfaults, hsave⟩ | ⟨before, file, after, e, hsplit, hbefore, hfault, hsave⟩
  · have htakes := takesFile_of_faultless hlinks hmake hfollow (fun _ h => h) hfaults
    rw [hsave]
    refine .saved place (holds_placeFiles hfollow htakes) fun file hmem => ?_
    rw [fault?_placeFiles htakes, hfaults file hmem]
  · have hsub : ∀ other ∈ before, other ∈ plainFiles files := fun other hmem =>
      hsplit ▸ List.mem_append_left _ hmem
    have htakes := takesFile_of_faultless hlinks hmake hfollow hsub hbefore
    have hplain : plainFiles before = before :=
      List.filter_eq_self.2 fun other hmem => isPlain_of_mem (hsub other hmem)
    -- those before the file are saved alone just as they are here
    have halone : saveFiles fs start directory before = (placeFiles fs' place before,
        .ok (before.map fun file => joined directory file.name)) := by
      have hwrite := writeFiles_of_faultless hfollow (noLinks_of_made hlinks hmake hfollow before)
        (by rwa [hplain])
      rw [hplain] at hwrite
      rw [saveFiles, hmake]
      exact hwrite
    rw [hsave]
    refine .stopped place before after file hsplit halone (holds_placeFiles hfollow htakes) ?_
    rw [fault?_placeFiles htakes, hfault]

/-- A plain file with a NUL in its name makes saving fail. -/
theorem Outcome.exists_error {fs' : FileSystem} {result : Except Client.Error (List String)}
    (h : Outcome fs start directory files (fs', result)) (hmem : file ∈ plainFiles files)
    (hnul : 0 ∈ Text.encode file.name) : ∃ e, result = .error (.system e) := by
  cases h with
  | unmade | stopped => exact ⟨_, rfl⟩
  | saved place _ hfaults =>
    have hfault := hfaults file hmem
    rw [fault?, FileSystem.writeFault?_of_nul hnul] at hfault
    cases hfault

/-- Whatever the names of the files are, saving them into a directory without links changes
    nothing but that directory and those made on the way to it. Written are the files with a
    name that is not empty, holds no slash, and is neither `.` nor `..`, in order and up to the
    first that cannot be. -/
theorem saveFiles_stays (hlinks : HoldsNoLink fs start (stepsOf (Text.encode directory)))
    (files : List FetchedFile) :
    (∀ name, isPlain name = true ↔
      name ≠ "" ∧ '/' ∉ name.toList ∧ name ≠ "." ∧ name ≠ "..") ∧
    (∀ path, (saveFiles fs start directory files).1.node? path ≠ fs.node? path →
      Change fs (saveFiles fs start directory files).1 start directory files path) ∧
    Outcome fs start directory files (saveFiles fs start directory files) :=
  ⟨fun _ => isPlain_iff, fun _ hpath => changes_saveFiles hlinks files hpath,
    outcome_saveFiles hlinks files⟩

/-- Of what a server sends here, only the two files `a` are written: the other names lead
    elsewhere, but for one that holds a NUL, which ends the saving. -/
theorem saveFiles_stays_escapes :
    let names := ["../x", "/etc/x", "a", ".", "..", "", "a/", "./a", "a", "b\x00", "c"]
    let files := names.map fun name => (⟨name, "from the server"⟩ : FetchedFile)
    let saved := saveFiles .empty [] "out/here" files
    HoldsNoLink .empty [] (stepsOf (Text.encode "out/here")) ∧
    (plainFiles files).map (·.name) = ["a", "a", "b\x00", "c"] ∧
    (∀ path, saved.1.node? path ≠ FileSystem.empty.node? path →
      Change .empty saved.1 [] "out/here" files path) ∧
    Outcome .empty [] "out/here" files saved ∧ ∃ e, saved.2 = .error (.system e) := by
  intro names files saved
  have hlinks : HoldsNoLink .empty [] (stepsOf (Text.encode "out/here")) := by
    intro place name target _
    rw [FileSystem.node?, if_neg (List.append_ne_nil_of_right_ne_nil _ (List.cons_ne_nil _ _))]
    nofun
  obtain ⟨-, hchanges, houtcome⟩ := saveFiles_stays hlinks files
  have hmem : ⟨"b\x00", "from the server"⟩ ∈ plainFiles files := by decide +kernel
  exact ⟨hlinks, by decide +kernel, hchanges, houtcome,
    houtcome.exists_error hmem (by decide +kernel)⟩

end Transfer

end Harbor
