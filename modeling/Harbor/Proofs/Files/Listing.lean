import Harbor.Proofs.Files.Reading
import Harbor.Proofs.Files.Walking

/-!
# The text files of a directory

A directory is listed in whatever order the system keeps its entries. The text files
among them come out in the order of their octets all the same, each of them once.

Main results:

* `precedes_iff_le`: octet strings are sorted as the dictionary does.
* `DocumentRoot.textFiles_eq_ok`: the names of the text files, sorted.
* `DocumentRoot.text?_eq_some_iff`: the text of such a file, unless it may not be read or
  its path is too long.
-/

namespace Harbor.Files

/-! ## The order of names -/

theorem precedes_iff_le (a b : Octets) : precedes a b = true ↔ a ≤ b := by
  induction a generalizing b with
  | nil => exact iff_of_true rfl (List.nil_le b)
  | cons x a ih =>
    cases b with
    | nil => exact iff_of_false Bool.false_ne_true fun h => nomatch List.le_nil.1 h
    | cons y b =>
      rw [List.cons_le_cons_iff, precedes]
      by_cases heq : x = y
      · rw [if_pos heq, ih, heq]
        simp only [UInt8.lt_irrefl, true_and, false_or]
      · rw [if_neg heq, decide_eq_true_iff]
        simp only [heq, false_and, or_false]

theorem pairwise_mergeSort_precedes (names : List Name) :
    (names.mergeSort precedes).Pairwise (· ≤ ·) := by
  have htrans (a b c : Name) : precedes a b → precedes b c → precedes a c := by
    simp only [precedes_iff_le]
    exact Std.le_trans
  have htotal (a b : Name) : precedes a b || precedes b a := by
    simp only [Bool.or_eq_true, precedes_iff_le]
    exact Std.le_total
  exact (List.pairwise_mergeSort htrans htotal names).imp fun h => (precedes_iff_le _ _).1 h

/-- Names that are all different are in ascending order when they are sorted. -/
theorem pairwise_lt_mergeSort {names : List Name} (h : names.Nodup) :
    (names.mergeSort precedes).Pairwise (· < ·) := by
  have hnodup : (names.mergeSort precedes).Nodup := (List.mergeSort_perm ..).nodup_iff.2 h
  exact ((pairwise_mergeSort_precedes names).and hnodup).imp fun h => Std.lt_of_le_of_ne h.1 h.2

/-! ## The names in a directory -/

namespace FileSystem

variable {fs : FileSystem} {directory path : Path} {name : Name} {node : Node}

/-- The places are all different, and the names in them are names. -/
structure WellFormed (fs : FileSystem) : Prop where
  nodup : (fs.nodes.entries.map Prod.fst).Nodup
  isName : ∀ e ∈ fs.nodes.entries, ∀ name ∈ e.1, IsName name

theorem wellFormed_iff : fs.WellFormed ↔ (fs.nodes.entries.map Prod.fst).Nodup ∧
    ∀ e ∈ fs.nodes.entries, ∀ name ∈ e.1, IsName name :=
  ⟨fun h => ⟨h.nodup, h.isName⟩, fun h => ⟨h.1, h.2⟩⟩

instance (fs : FileSystem) : Decidable fs.WellFormed := decidable_of_iff _ wellFormed_iff.symm

theorem nameIn?_eq_some_iff : nameIn? directory path = some name ↔ path = directory ++ [name] := by
  unfold nameIn?
  rcases List.eq_nil_or_concat path with rfl | ⟨front, last, rfl⟩
  · simp
  · rw [List.concat_eq_append, List.getLast?_concat, List.dropLast_concat]
    dsimp only
    rw [Option.ite_none_right_eq_some, Option.some_inj]
    constructor
    · rintro ⟨rfl, rfl⟩
      rfl
    · intro heq
      obtain ⟨rfl, hcons⟩ := List.append_inj' heq rfl
      exact ⟨rfl, (List.cons.inj hcons).1⟩

theorem mem_entries_of_node? (h : fs.node? path = some node) (hpath : path ≠ []) :
    (path, node) ∈ fs.nodes.entries := by
  rw [node?, if_neg hpath] at h
  exact Dictionary.mem_of_lookup h

theorem mem_names_of_node? (h : fs.node? (directory ++ [name]) = some node) :
    name ∈ fs.names directory :=
  List.mem_filterMap.2 ⟨_, mem_entries_of_node? h (by simp), nameIn?_eq_some_iff.2 rfl⟩

theorem WellFormed.isName_of_node? (h : fs.WellFormed)
    (hnode : fs.node? (directory ++ [name]) = some node) : IsName name :=
  h.isName _ (mem_entries_of_node? hnode (by simp)) name (by simp)

theorem WellFormed.nodup_names (h : fs.WellFormed) (directory : Path) :
    (fs.names directory).Nodup := by
  refine List.pairwise_filterMap.2 ((List.pairwise_map.1 h.nodup).imp ?_)
  rintro e e' hne name hname name' hname' rfl
  exact hne ((nameIn?_eq_some_iff.1 hname).trans (nameIn?_eq_some_iff.1 hname').symm)

end FileSystem

/-! ## The text files -/

/-- Something, then `.txt`. -/
def IsTextName (name : Name) : Prop := ∃ stem, stem ≠ [] ∧ name = stem ++ Text.encode ".txt"

namespace DocumentRoot

variable {d : DocumentRoot} {name text : String} {place directory : Path} {file : Name}
  {contents : Octets}

theorem isTextName_iff : isTextName file = true ↔ IsTextName file := by
  have hsuffix : Text.encode ".txt" = [46, 116, 120, 116] := by decide
  rw [isTextName, Bool.and_eq_true, decide_eq_true_iff, List.isSuffixOf_iff_suffix, IsTextName,
    hsuffix]
  constructor
  · rintro ⟨hlength, stem, rfl⟩
    refine ⟨stem, ?_, rfl⟩
    rintro rfl
    exact absurd hlength (by decide)
  · rintro ⟨stem, hstem, rfl⟩
    have := List.length_pos_iff.2 hstem
    refine ⟨?_, List.suffix_append ..⟩
    rw [List.length_append]
    exact Nat.lt_add_of_pos_left this

theorem isRegularFile_iff : d.isRegularFile directory file = true ↔
    ∃ contents, d.files.node? (directory ++ [file]) = some (.file contents) := by
  unfold isRegularFile
  split
  · next contents hnode => exact iff_of_true rfl ⟨contents, hnode⟩
  · next hnot =>
    refine iff_of_false Bool.false_ne_true ?_
    rintro ⟨contents, hnode⟩
    exact hnot contents hnode

/-- A name stands for a place beneath the root, where there is a directory that may be
    listed, or a way to one by links. -/
structure Finds (d : DocumentRoot) (name : String) (place directory : Path) : Prop where
  resolve_eq : resolve d.root name = .ok place
  follow_eq : d.files.follow d.root (d.stepsTo place) = .ok (.found directory .directory)
  readable : directory ∉ d.files.unreadable

theorem root_append_stepsTo (h : resolve d.root name = .ok place) :
    d.root ++ d.stepsTo place = place := by
  obtain ⟨-, -, rfl⟩ := resolve_eq_ok_iff.1 h
  rw [stepsTo, List.drop_left]

theorem textFiles_eq_ok (hfiles : d.files.WellFormed) (h : d.Finds name place directory) :
    ∃ files, d.textFiles name = .ok (place, files) ∧ files.Pairwise (· < ·) ∧
      ∀ file, file ∈ files ↔ IsTextName file ∧
        ∃ contents, d.files.node? (directory ++ [file]) = some (.file contents) := by
  let isOffered file := isTextName file && d.isRegularFile directory file
  have heq : d.textFiles name =
      .ok (place, ((d.files.names directory).filter isOffered).mergeSort precedes) := by
    rw [textFiles, h.resolve_eq]
    dsimp only
    rw [h.follow_eq]
    dsimp only
    rw [if_neg (mt FileSystem.forbids_iff.1 h.readable)]
  have hnodup := (hfiles.nodup_names directory).filter isOffered
  refine ⟨_, heq, pairwise_lt_mergeSort hnodup, fun file => ?_⟩
  rw [List.mem_mergeSort, List.mem_filter, Bool.and_eq_true, isTextName_iff, isRegularFile_iff]
  constructor
  · exact And.right
  · rintro ⟨hname, contents, hnode⟩
    exact ⟨FileSystem.mem_names_of_node? hnode, hname, contents, hnode⟩

theorem text?_eq_some_iff (hfiles : d.files.WellFormed) (h : d.Finds name place directory)
    (hnode : d.files.node? (directory ++ [file]) = some (.file contents)) :
    d.text? place file = some text ↔ contents = Text.encode text ∧
      directory ++ [file] ∉ d.files.unreadable ∧ pathSize (place ++ [file]) ≤ maxPath := by
  have hroot := root_append_stepsTo h.resolve_eq
  rw [text?, FileSystem.read]
  by_cases hsize : pathSize (place ++ [file]) ≤ maxPath
  · rw [FileSystem.follow_file h.follow_eq (hfiles.isName_of_node? hnode) (by rwa [hroot]) hnode]
    dsimp only
    by_cases hmem : directory ++ [file] ∈ d.files.unreadable
    · rw [if_pos (FileSystem.forbids_iff.2 hmem)]
      exact iff_of_false (Option.some_ne_none _).symm fun h => h.2.1 hmem
    · rw [if_neg (mt FileSystem.forbids_iff.1 hmem)]
      exact Text.decode?_eq_some_iff.trans (and_iff_left ⟨hmem, hsize⟩).symm
  · have hlong : maxPath < pathSize (d.root ++ (d.stepsTo place ++ [file])) := by
      rw [← List.append_assoc, hroot]
      exact Nat.not_le.1 hsize
    cases hfollow : d.files.follow d.root (d.stepsTo place ++ [file]) with
    | error e => exact iff_of_false (Option.some_ne_none _).symm fun h => hsize h.2.2
    | ok leads => exact absurd hfollow (FileSystem.follow_long hlong leads)

end DocumentRoot

end Harbor.Files
