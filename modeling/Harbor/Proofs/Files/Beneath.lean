import Harbor.Proofs.Files.Listing
import Mathlib.Data.List.Sort

/-!
# What can be seen beneath a root

Two file systems that have the same at every place from a root down, and let the same be
read there, look the same to everyone who starts at the root, never steps to the directory
above, and meets no symbolic link. The order in which a system keeps its entries cannot be
seen either, since the files of a directory are sorted.

Main results:

* `walk_eq_of_agree`: a walk down from the root finds the same in both.
* `DocumentRoot.read_eq_of_agree`: every document is the same, or fails in the same way.
* `DocumentRoot.textFiles_eq_of_agree`: so it is for the files of every directory.
-/

namespace Harbor.Files

namespace FileSystem

/-- The file systems have the same at the root and at every place beneath it, and the same
    of these places may be read. -/
structure AgreeBeneath (root : Path) (fs fs' : FileSystem) : Prop where
  node?_eq : ∀ steps, fs.node? (root ++ steps) = fs'.node? (root ++ steps)
  unreadable_iff : ∀ steps, root ++ steps ∈ fs.unreadable ↔ root ++ steps ∈ fs'.unreadable

/-- There is no symbolic link beneath the root. -/
def LinkFree (root : Path) (fs : FileSystem) : Prop :=
  ∀ steps target, steps ≠ [] → fs.node? (root ++ steps) ≠ some (.link target)

variable {fs fs' : FileSystem} {root below path : Path} {links : Nat} {steps : List Name}
  {node : Node}

theorem AgreeBeneath.symm (h : AgreeBeneath root fs fs') : AgreeBeneath root fs' fs :=
  ⟨fun steps => (h.node?_eq steps).symm, fun steps => (h.unreadable_iff steps).symm⟩

theorem AgreeBeneath.forbids_eq (h : AgreeBeneath root fs fs') (steps : List Name) :
    fs.forbids (root ++ steps) = fs'.forbids (root ++ steps) := by
  rw [Bool.eq_iff_iff, forbids_iff, forbids_iff, h.unreadable_iff]

theorem LinkFree.of_agree (h : fs.LinkFree root) (hagree : AgreeBeneath root fs fs') :
    fs'.LinkFree root := fun steps target hsteps => hagree.node?_eq steps ▸ h steps target hsteps

/-- Where there is no link, a step down is decided by what is at the place it leads to. -/
theorem LinkFree.node?_cases (h : fs.LinkFree root) (below : Path) (step : Name) :
    fs.node? (root ++ below ++ [step]) = none ∨
      fs.node? (root ++ below ++ [step]) = some .directory ∨
      ∃ contents, fs.node? (root ++ below ++ [step]) = some (.file contents) := by
  have hnot := h (below ++ [step])
  rw [← List.append_assoc] at hnot
  cases hnode : fs.node? (root ++ below ++ [step]) with
  | none => exact .inl rfl
  | some node =>
    cases node with
    | file contents => exact .inr (.inr ⟨contents, rfl⟩)
    | directory => exact .inr (.inl rfl)
    | link target => exact absurd hnode (hnot target (by simp))

/-! ## Walks -/

/-- A walk down from the root looks at places beneath the root only. -/
theorem walk_eq_of_agree (hagree : AgreeBeneath root fs fs') (hlinks : fs.LinkFree root)
    (below : Path) (habove : above ∉ steps) :
    fs.walk links (root ++ below) steps = fs'.walk links (root ++ below) steps := by
  induction steps generalizing below with
  | nil => rw [walk, walk]
  | cons step rest ih =>
    rw [List.mem_cons, not_or] at habove
    by_cases hhere : step = here
    · rw [hhere, walk_here, walk_here, ih below habove.2]
    by_cases hlength : maxName < step.length
    · rw [walk, walk, if_neg hhere, if_neg hhere, if_neg (Ne.symm habove.1),
        if_neg (Ne.symm habove.1), if_pos hlength, if_pos hlength]
    have hnode : fs'.node? (root ++ below ++ [step]) = fs.node? (root ++ below ++ [step]) := by
      rw [List.append_assoc, hagree.node?_eq]
    rw [walk_name hhere (Ne.symm habove.1) hlength, walk_name hhere (Ne.symm habove.1) hlength,
      hnode]
    rcases hlinks.node?_cases below step with h | h | ⟨contents, h⟩ <;> rw [h]
    -- the walk goes on from the directory
    dsimp only
    rw [List.append_assoc]
    exact ih (below ++ [step]) habove.2

/-- A walk down from the root stays beneath it. -/
theorem exists_below_of_walk (hlinks : fs.LinkFree root) (habove : above ∉ steps)
    (h : fs.walk links (root ++ below) steps = .ok (.found path node)) :
    ∃ below', path = root ++ below' := by
  induction steps generalizing below with
  | nil =>
    rw [walk] at h
    cases h
    exact ⟨below, rfl⟩
  | cons step rest ih =>
    rw [List.mem_cons, not_or] at habove
    by_cases hhere : step = here
    · rw [hhere, walk_here] at h
      exact ih habove.2 h
    by_cases hlength : maxName < step.length
    · rw [walk, if_neg hhere, if_neg (Ne.symm habove.1), if_pos hlength] at h
      cases h
    rw [walk_name hhere (Ne.symm habove.1) hlength] at h
    rcases hlinks.node?_cases below step with hnode | hnode | ⟨contents, hnode⟩ <;>
      rw [hnode] at h <;> dsimp only at h
    · split at h <;> cases h
    · rw [List.append_assoc] at h
      exact ih habove.2 h
    · split at h <;> cases h
      exact ⟨below ++ [step], List.append_assoc ..⟩

/-! ## Paths -/

theorem follow_eq_of_agree (hagree : AgreeBeneath root fs fs') (hlinks : fs.LinkFree root)
    (habove : above ∉ steps) : fs.follow root steps = fs'.follow root steps := by
  have hroot := hagree.node?_eq []
  have hwalk : fs.walk maxLinks (root ++ []) steps = fs'.walk maxLinks (root ++ []) steps :=
    walk_eq_of_agree hagree hlinks [] habove
  rw [List.append_nil] at hroot hwalk
  rw [follow, follow, hroot, hwalk]

theorem exists_below_of_follow (hlinks : fs.LinkFree root) (habove : above ∉ steps)
    (h : fs.follow root steps = .ok (.found path node)) : ∃ below, path = root ++ below := by
  obtain ⟨-, -, hwalk⟩ := follow_eq_ok_iff.1 h
  rw [← List.append_nil root] at hwalk
  exact exists_below_of_walk hlinks habove hwalk

theorem isDirectory_eq_of_agree (hagree : AgreeBeneath root fs fs') (hlinks : fs.LinkFree root)
    (habove : above ∉ steps) : fs.isDirectory root steps = fs'.isDirectory root steps := by
  rw [isDirectory, isDirectory, follow_eq_of_agree hagree hlinks habove]

theorem read_eq_of_agree (hagree : AgreeBeneath root fs fs') (hlinks : fs.LinkFree root)
    (habove : above ∉ steps) : fs.read root steps = fs'.read root steps := by
  have heq : fs.follow root steps = fs'.follow root steps :=
    follow_eq_of_agree hagree hlinks habove
  rw [read, read, ← heq]
  cases hfollow : fs.follow root steps with
  | error e => rfl
  | ok leads =>
    cases leads with
    | vacant directory name => rfl
    | found path node =>
      -- the file that is found lies beneath the root
      obtain ⟨below, rfl⟩ := exists_below_of_follow hlinks habove hfollow
      cases node with
      | file contents =>
        dsimp only
        rw [hagree.forbids_eq below]
      | directory => rfl
      | link target => rfl

end FileSystem

/-! ## Documents and directories -/

/-- The directory above has not the name of a text file. -/
theorem IsTextName.ne_above {file : Name} (h : IsTextName file) : file ≠ above := by
  rintro rfl
  exact absurd (DocumentRoot.isTextName_iff.2 h) (by decide)

namespace DocumentRoot

open FileSystem (AgreeBeneath LinkFree)

variable {fs fs' : FileSystem} {root place : Path} {name : String} {file : Name}

theorem read_eq_of_agree (hagree : AgreeBeneath root fs fs') (hlinks : fs.LinkFree root)
    (name : String) : read ⟨fs, root⟩ name = read ⟨fs', root⟩ name := by
  unfold read
  cases hresolve : resolve root name with
  | error e => rfl
  | ok place =>
    have habove : above ∉ stepsTo ⟨fs, root⟩ place := stepsTo_of_resolve hresolve
    dsimp only
    rw [FileSystem.read_eq_of_agree hagree hlinks habove,
      FileSystem.isDirectory_eq_of_agree hagree hlinks habove]
    rfl

theorem text?_eq_of_agree (hagree : AgreeBeneath root fs fs') (hlinks : fs.LinkFree root)
    (hplace : resolve root name = .ok place) (hfile : file ≠ above) :
    text? ⟨fs, root⟩ place file = text? ⟨fs', root⟩ place file := by
  have habove : above ∉ stepsTo ⟨fs, root⟩ place ++ [file] := by
    rw [List.mem_append, List.mem_singleton, not_or]
    exact ⟨stepsTo_of_resolve hplace, Ne.symm hfile⟩
  rw [text?, text?, FileSystem.read_eq_of_agree hagree hlinks habove]
  rfl

/-- The files of a name that leads to no directory, or to one that may not be listed, cannot
    be had. -/
theorem textFiles_of_not_finds {d : DocumentRoot}
    (h : ∀ place directory, ¬ d.Finds name place directory) :
    d.textFiles name = (resolve d.root name).bind fun place =>
      if d.files.isDirectory d.root (d.stepsTo place) then .error (.failed name .accessDenied)
      else .error (.directoryNotFound name) := by
  unfold textFiles
  cases hresolve : resolve d.root name with
  | error e => rfl
  | ok place =>
    dsimp only [Except.bind]
    split
    · next directory hfollow =>
      have hmem : directory ∈ d.files.unreadable :=
        not_not.1 fun hmem => h place directory ⟨hresolve, hfollow, hmem⟩
      rw [if_pos (FileSystem.forbids_iff.2 hmem), FileSystem.isDirectory, hfollow]
      rfl
    · next hnot =>
      rw [FileSystem.isDirectory]
      split
      · next directory hfollow => exact absurd hfollow (hnot directory)
      · rfl

/-- The files are those of a place beneath the root. -/
theorem of_textFiles_eq_ok {d : DocumentRoot} {files : List Name}
    (h : d.textFiles name = .ok (place, files)) :
    resolve d.root name = .ok place ∧ ∀ file ∈ files, IsTextName file := by
  unfold textFiles at h
  cases hresolve : resolve d.root name with
  | error e =>
    rw [hresolve] at h
    cases h
  | ok place' =>
    rw [hresolve] at h
    dsimp only at h
    split at h
    · split at h <;> cases h
      refine ⟨rfl, fun file hfile => ?_⟩
      rw [List.mem_mergeSort, List.mem_filter, Bool.and_eq_true] at hfile
      exact isTextName_iff.1 hfile.2.1
    · cases h

theorem Finds.of_agree {directory : Path} (h : Finds ⟨fs, root⟩ name place directory)
    (hagree : AgreeBeneath root fs fs') (hlinks : fs.LinkFree root) :
    Finds ⟨fs', root⟩ name place directory where
  resolve_eq := h.resolve_eq
  follow_eq := by
    rw [← h.follow_eq]
    exact (FileSystem.follow_eq_of_agree hagree hlinks (stepsTo_of_resolve h.resolve_eq)).symm
  readable := by
    obtain ⟨below, rfl⟩ := FileSystem.exists_below_of_follow hlinks
      (stepsTo_of_resolve h.resolve_eq) h.follow_eq
    exact fun hmem => h.readable ((hagree.unreadable_iff below).2 hmem)

theorem textFiles_eq_of_agree (hfiles : fs.WellFormed) (hfiles' : fs'.WellFormed)
    (hagree : AgreeBeneath root fs fs') (hlinks : fs.LinkFree root) (name : String) :
    textFiles ⟨fs, root⟩ name = textFiles ⟨fs', root⟩ name := by
  by_cases hfinds : ∃ place directory, Finds ⟨fs, root⟩ name place directory
  · obtain ⟨place, directory, h⟩ := hfinds
    obtain ⟨files, heq, hsorted, hmem⟩ := textFiles_eq_ok hfiles h
    obtain ⟨files', heq', hsorted', hmem'⟩ :=
      textFiles_eq_ok hfiles' (h.of_agree hagree hlinks)
    -- the directory lies beneath the root, where both have the same files
    obtain ⟨below, rfl⟩ := FileSystem.exists_below_of_follow hlinks
      (stepsTo_of_resolve h.resolve_eq) h.follow_eq
    have hsame : ∀ file, file ∈ files ↔ file ∈ files' := by
      intro file
      rw [hmem, hmem', List.append_assoc, hagree.node?_eq]
    rw [heq, heq', hsorted.eq_of_mem_iff hsorted' hsame]
  · have hnone : ∀ place directory, ¬ Finds ⟨fs, root⟩ name place directory :=
      fun place directory h => hfinds ⟨place, directory, h⟩
    have hnone' : ∀ place directory, ¬ Finds ⟨fs', root⟩ name place directory :=
      fun place directory h => hnone _ _ (h.of_agree hagree.symm (hlinks.of_agree hagree))
    rw [textFiles_of_not_finds hnone, textFiles_of_not_finds hnone']
    cases hresolve : resolve root name with
    | error e => rfl
    | ok place =>
      have habove : above ∉ stepsTo ⟨fs, root⟩ place := stepsTo_of_resolve hresolve
      dsimp only [Except.bind]
      rw [FileSystem.isDirectory_eq_of_agree hagree hlinks habove]
      rfl

end DocumentRoot

end Harbor.Files
