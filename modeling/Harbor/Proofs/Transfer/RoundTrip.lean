import Harbor.Proofs.Frame.Lines
import Harbor.Transfer.Client

/-!
# A directory on the wire

A message that fits the limits of its fields is read back from its octets, whatever
follows them. Its texts have become single lines on the way; contents are what they were.

The name of a file stands where the words of the protocol stand, so that a file must
not be named like one of these. Files that are not, with names of one line, are read
back as they were written, and `done` ends them.

Main results:

* `Request.reads`: a request is read back.
* `Reply.reads`: an element of a reply is read back.
* `reads_listing`: the files of a directory are read back.
* `attend_get`: one request is answered by one reply, and the connection stays open.
-/

namespace Harbor.Transfer

open Harbor.Frame

/-! ## Requests -/

namespace Request

/-- The request as it arrives: its text is a single line. -/
def received : Request → Request
  | get directory => get (singleLine directory)
  | exit => exit
  | unknown verb => unknown (singleLine verb)

/-- The verbs that the protocol has. -/
def verbs : List String := ["get", "exit"]

/-- The text fits on a line, and an unknown verb is none of the known ones. -/
def Fits : Request → Prop
  | get directory => Text.size directory ≤ maxLine
  | exit => True
  | unknown verb => Text.size verb ≤ maxLine ∧ verb ∉ verbs

instance : (r : Request) → Decidable r.Fits
  | .get _ => inferInstanceAs (Decidable (_ ≤ _))
  | .exit => .isTrue trivial
  | .unknown _ => inferInstanceAs (Decidable (_ ∧ _))

theorem write_ne_nil (r : Request) : r.write ≠ [] := by
  cases r <;> simp [write, writeLine]

theorem reads {r : Request} (h : r.Fits) : Reader.Reads read r.write (some r.received) := by
  cases r with
  | get directory =>
    have hverb : Reader.Reads readLine (writeLine "get") (some "get") :=
      IsLine.reads_line (by decide) (by decide)
    exact hverb.bind (((reads_field h).map (.pure (get (singleLine directory)))).map (.pure _))
  | exit =>
    have hverb : Reader.Reads readLine (writeLine "exit") (some "exit") :=
      IsLine.reads_line (by decide) (by decide)
    exact hverb.map (.pure (some exit))
  | unknown verb =>
    have hnot : singleLine verb ∉ verbs := singleLine_not_mem (by decide) h.2
    simp only [verbs, List.mem_cons, List.not_mem_nil, or_false, not_or] at hnot
    refine (reads_line h.1).map ?_
    dsimp only
    rw [readArguments, if_neg hnot.1, if_neg hnot.2]
    exact .pure _

end Request

/-! ## Elements of a reply -/

namespace Reply

/-- The element as it arrives: its text is a single line. -/
def received : Reply → Reply
  | file name contents => file (singleLine name) contents
  | done => done
  | error message => error (singleLine message)

/-- The words that stand where the name of a file can stand. -/
def words : List String := ["done", "error"]

/-- The text fits on a line and the contents are not too large, and a file is not named like
    one of the words. -/
def Fits : Reply → Prop
  | file name contents => (Text.size name ≤ maxLine ∧ name ∉ words) ∧ Text.size contents ≤ maxBody
  | done => True
  | error message => Text.size message ≤ maxLine

instance : (r : Reply) → Decidable r.Fits
  | .file _ _ => inferInstanceAs (Decidable (_ ∧ _))
  | .done => .isTrue trivial
  | .error _ => inferInstanceAs (Decidable (_ ≤ _))

theorem reads_done : Reader.Reads read done.write done :=
  (IsLine.reads_field (s := "done") (by decide) (by decide)).map (.pure done)

theorem reads {r : Reply} (h : r.Fits) : Reader.Reads read r.write r.received := by
  cases r with
  | file name contents =>
    -- the line is the name of a file because it is none of the words
    have hnot : singleLine name ∉ words := singleLine_not_mem (by decide) h.1.2
    simp only [words, List.mem_cons, List.not_mem_nil, or_false, not_or] at hnot
    refine (reads_field h.1.1).bind ?_
    rw [readRest, if_neg hnot.1, if_neg hnot.2]
    exact (reads_body h.2).map (.pure _)
  | done => exact reads_done
  | error message =>
    have hword : Reader.Reads readField (writeLine "error") "error" :=
      IsLine.reads_field (by decide) (by decide)
    exact hword.bind ((reads_field h).map (.pure (error (singleLine message))))

end Reply

/-! ## Files -/

/-- The element of a reply that carries a file. -/
def FetchedFile.element (file : FetchedFile) : Reply := .file file.name file.contents

/-- The file can be told from the words of the protocol, and fits. -/
structure FetchedFile.Fits (file : FetchedFile) : Prop where
  isLine : IsLine file.name
  size_name_le : Text.size file.name ≤ maxLine
  size_contents_le : Text.size file.contents ≤ maxBody
  ne_done : file.name ≠ "done"
  ne_error : file.name ≠ "error"

/-- The file as it arrives: its name is a single line. -/
def FetchedFile.received (file : FetchedFile) : FetchedFile :=
  ⟨singleLine file.name, file.contents⟩

theorem FetchedFile.Fits.received_eq {file : FetchedFile} (h : file.Fits) :
    file.received = file := by
  rw [received, h.isLine.singleLine_eq]

theorem FetchedFile.Fits.element_fits {file : FetchedFile} (h : file.Fits) : file.element.Fits := by
  have hname : file.name ∉ Reply.words := by
    simp only [Reply.words, List.mem_cons, List.not_mem_nil, or_false, not_or]
    exact ⟨h.ne_done, h.ne_error⟩
  exact ⟨⟨h.size_name_le, hname⟩, h.size_contents_le⟩

theorem FetchedFile.Fits.reads {file : FetchedFile} (h : file.Fits) :
    Reader.Reads Reply.read file.element.write file.element := by
  have hread : Reader.Reads Reply.read file.element.write file.received.element :=
    Reply.reads h.element_fits
  rwa [h.received_eq] at hread

/-- The octets of a reply that carries some files. -/
def filesStream (files : List FetchedFile) : Octets :=
  (files.map FetchedFile.element ++ [Reply.done]).flatMap Reply.write

theorem listing_of_error {bs rest : Octets} {e : Frame.Error}
    (h : Reply.read bs = (.error e, rest)) :
    listing bs = (.error e, rest) := by
  rw [listing]
  split <;> next heq => rw [h] at heq; cases heq <;> rfl

theorem listing_done {bs rest : Octets} (h : Reply.read bs = (.ok .done, rest)) :
    listing bs = (.ok (.ok []), rest) := by
  rw [listing]
  split <;> next heq => rw [h] at heq; cases heq <;> rfl

theorem listing_error {bs rest : Octets} {message : String}
    (h : Reply.read bs = (.ok (.error message), rest)) :
    listing bs = (.ok (.error message), rest) := by
  rw [listing]
  split <;> next heq => rw [h] at heq; cases heq <;> rfl

/-- A file comes before the files of what follows it. -/
theorem listing_after_file {bs rest : Octets} {file : FetchedFile}
    (h : Reply.read bs = (.ok file.element, rest)) :
    listing bs = ((listing rest).1.map (Except.map (file :: ·)), (listing rest).2) := by
  rw [listing]
  split <;> next heq =>
    rw [h] at heq
    cases heq <;> rcases listing rest with ⟨_ | _ | files, rest'⟩ <;> rfl

theorem listing_file {bs rest rest' : Octets} {file : FetchedFile} {files : List FetchedFile}
    (h : Reply.read bs = (.ok file.element, rest))
    (hrest : listing rest = (.ok (.ok files), rest')) :
    listing bs = (.ok (.ok (file :: files)), rest') := by
  rw [listing_after_file h, hrest]
  rfl

/-- Files at the front are those that are found first. -/
theorem listing_append_received {before files : List FetchedFile} {tail rest : Octets}
    (h : ∀ file ∈ before, file.element.Fits) (htail : listing tail = (.ok (.ok files), rest)) :
    listing (before.flatMap (fun file => file.element.write) ++ tail) =
      (.ok (.ok (before.map FetchedFile.received ++ files)), rest) := by
  induction before with
  | nil => exact htail
  | cons file before ih =>
    rw [List.forall_mem_cons] at h
    rw [List.flatMap_cons, List.append_assoc]
    exact listing_file (Reply.reads h.1 _) (ih h.2)

theorem map_received_of_fits {files : List FetchedFile} (h : ∀ file ∈ files, file.Fits) :
    files.map FetchedFile.received = files :=
  (List.map_congr_left fun file hfile => (h file hfile).received_eq).trans (List.map_id _)

theorem listing_append {before files : List FetchedFile} {tail rest : Octets}
    (h : ∀ file ∈ before, file.Fits) (htail : listing tail = (.ok (.ok files), rest)) :
    listing (before.flatMap (fun file => file.element.write) ++ tail) =
      (.ok (.ok (before ++ files)), rest) := by
  rw [listing_append_received (fun file hfile => (h file hfile).element_fits) htail,
    map_received_of_fits h]

theorem filesStream_eq (files : List FetchedFile) : filesStream files =
    files.flatMap (fun file => file.element.write) ++ Reply.done.write := by
  rw [filesStream, List.flatMap_append, List.flatMap_map, List.flatMap_singleton]

theorem reads_listing {files : List FetchedFile} (h : ∀ file ∈ files, file.Fits) :
    Reader.Reads readListing (filesStream files) (.ok files) := by
  intro rest
  have hread := listing_append h (listing_done (Reply.reads_done rest))
  rwa [← List.append_assoc, ← filesStream_eq, List.append_nil] at hread

/-! ## The server -/

/-- The server is asked for what the name is on a single line. -/
theorem turn_get {docs : Files.DocumentRoot} {directory : String}
    (hsize : Text.size directory ≤ maxLine) (rest : Octets) :
    turn docs ((Request.get directory).write ++ rest) =
      ⟨replyStream docs (singleLine directory), rest, none⟩ := by
  rw [turn, Request.reads (r := .get directory) hsize rest]
  rfl

theorem attend_get {docs : Files.DocumentRoot} {directory : String}
    (hsize : Text.size directory ≤ maxLine) :
    attend docs (Request.get directory).write =
      ⟨replyStream docs (singleLine directory), false⟩ := by
  have hturn : turn docs (Request.get directory).write =
      ⟨replyStream docs (singleLine directory), [], none⟩ := by
    rw [← turn_get hsize [], List.append_nil]
  have hend : attend docs [] = ⟨[], false⟩ := by rw [attend, if_pos rfl]
  rw [attend, if_neg (Request.write_ne_nil _)]
  dsimp only
  split
  · next heq => rw [hturn] at heq; cases heq
  · rw [hturn]
    dsimp only
    rw [hend, List.append_nil]

end Harbor.Transfer
