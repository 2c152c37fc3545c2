import Harbor.Proofs.Files.Beneath
import Harbor.Proofs.Transfer.Truncation

/-!
# Which replies of the file server can be read

The server sends whatever it finds, and the reader of replies has limits. Two kinds of
elements can be beyond them: an error that tells a long name back in a sentence, and a
file that is too large. A reply without such an element is read to its end, and the
connection is then as new. One with such an element is not: the client gets an error of
its reader, and what is left of the reply stays on the connection.

`Link` is the client's end of a connection. It keeps what has arrived and has not been
read, also when a get fails, and the next get reads that first.

Main results:

* `receive_of_readable`, `fails_of_not_readable`: what the client makes of a reply.
* `Readable.of_size`: replies to names that are not too long can be read.
* `gets_iff_readable`: a connection is good for any gets whose replies can be read, and
  for no others.
* `get_climbing_unreadable`: a name that is not too long for a request, with a reply that cannot
  be read.
-/

namespace Harbor.Transfer

open Files (DocumentRoot DocumentError IsTextName Path)
open Harbor.Frame (singleLine maxLine maxBody)

/-! ## Gets on one connection -/

/-- A client's connection: whether the server still serves it, and what the client has not
    read yet. -/
structure Link where
  isServed : Bool
  incoming : Octets
  deriving Repr, DecidableEq

namespace Link

/-- A connection just made. -/
def new : Link := ⟨true, []⟩

/-- A client gets a directory, the server answers, and the client reads the reply. -/
def get (docs : DocumentRoot) (link : Link) (directory : String) :
    Link × Except Client.Error (List FetchedFile) :=
  let attended := if link.isServed then attend docs (Request.get directory).write else ⟨[], true⟩
  let (result, incoming) := receive (link.incoming ++ attended.output)
  (⟨!attended.ended, incoming⟩, result)

/-- A client gets directories one after another, whatever comes of each, with the documents
    as they are at that moment. -/
def gets (link : Link) :
    List (DocumentRoot × String) → Link × List (Except Client.Error (List FetchedFile))
  | [] => (link, [])
  | (docs, directory) :: later =>
    let (link', result) := link.get docs directory
    let (link'', results) := link'.gets later
    (link'', result :: results)

end Link

/-! ## Replies within the limits -/

section Reply

variable {docs : DocumentRoot} {name : String} {place directory : Path} {files : List FetchedFile}

/-- An error in the reply to a get fits on a line, and the files in it are not too large. -/
structure Readable (docs : DocumentRoot) (name : String) : Prop where
  error_fits : ∀ message, .error message ∈ elements docs name → Text.size message ≤ maxLine
  files_fit : ∀ file contents, .file file contents ∈ elements docs name →
    Text.size contents ≤ maxBody

/-- What the client gets for a directory when it can read the reply. -/
def answer (docs : DocumentRoot) (name : String) : Except Client.Error (List FetchedFile) :=
  match docs.textFiles name with
  | .ok _ => .ok ((filesOf docs name).map FetchedFile.received)
  | .error e => .error (.server (singleLine e.message))

theorem elements_of_error {e : DocumentError} (h : docs.textFiles name = .error e) :
    elements docs name = [.error e.message] := by
  rw [elements, h]

/-- A name leads to a directory, or there is one error. -/
theorem finds_or_error (docs : DocumentRoot) (name : String) :
    (∃ place directory, docs.Finds name place directory) ∨
      ∃ e, docs.textFiles name = .error e := by
  by_cases hfinds : ∃ place directory, docs.Finds name place directory
  · exact .inl hfinds
  · right
    rw [DocumentRoot.textFiles_of_not_finds fun place directory h => hfinds ⟨place, directory, h⟩]
    cases Files.resolve docs.root name with
    | ok place => exact ⟨_, (apply_ite Except.error ..).symm⟩
    | error e => exact ⟨e, rfl⟩

theorem answer_of_finds (h : docs.Finds name place directory) (hfiles : docs.files.WellFormed) :
    answer docs name = .ok ((filesOf docs name).map FetchedFile.received) := by
  obtain ⟨names, htext, -⟩ := DocumentRoot.textFiles_eq_ok hfiles h
  rw [answer, htext]

theorem answer_of_error {e : DocumentError} (h : docs.textFiles name = .error e) :
    answer docs name = .error (.server (singleLine e.message)) := by
  rw [answer, h]

/-- The name of a file in a reply fits and is none of the words of the protocol. -/
theorem named_of_mem_filesOf (h : docs.Finds name place directory)
    (hfiles : docs.files.WellFormed) {file : FetchedFile} (hfile : file ∈ filesOf docs name) :
    Text.size file.name ≤ maxLine ∧ file.name ∉ Reply.words := by
  obtain ⟨htext, hnode, -⟩ := ((lists_filesOf h hfiles).mem_iff file).1 hfile
  refine ⟨Nat.le_trans (hfiles.isName_of_node? hnode).length_le (by decide), ?_⟩
  simp only [Reply.words, List.mem_cons, List.not_mem_nil, or_false, not_or]
  exact ⟨ne_of_isTextName htext (by decide), ne_of_isTextName htext (by decide)⟩

theorem readable_iff_of_finds (h : docs.Finds name place directory)
    (hfiles : docs.files.WellFormed) :
    Readable docs name ↔ ∀ file ∈ filesOf docs name, file.element.Fits := by
  have helements := elements_eq h hfiles
  constructor
  · intro hread file hfile
    refine ⟨named_of_mem_filesOf h hfiles hfile, hread.files_fit file.name _ ?_⟩
    rw [helements]
    exact List.mem_append_left _ (List.mem_map.2 ⟨file, hfile, rfl⟩)
  · intro hfits
    constructor
    · intro message hmem
      rw [helements] at hmem
      simp [FetchedFile.element] at hmem
    · intro file contents hmem
      rw [helements] at hmem
      simp only [List.mem_append, List.mem_map, List.mem_singleton, reduceCtorEq, or_false] at hmem
      obtain ⟨received, hfile, heq⟩ := hmem
      cases heq
      exact (hfits received hfile).2

theorem readable_iff_of_error {e : DocumentError} (h : docs.textFiles name = .error e) :
    Readable docs name ↔ Text.size e.message ≤ maxLine := by
  have helements := elements_of_error h
  constructor
  · intro hread
    refine hread.error_fits e.message ?_
    rw [helements]
    exact List.mem_singleton_self _
  · intro hfits
    constructor <;> rw [helements]
    · intro message hmem
      obtain ⟨⟩ := List.mem_singleton.1 hmem
      exact hfits
    · intro file contents hmem
      exact nomatch List.mem_singleton.1 hmem

/-- Why the files of a name cannot be had. -/
theorem textFiles_eq_error {e : DocumentError} (h : docs.textFiles name = .error e) :
    e = .emptyName ∨ e = .invalidName name ∨ e = .directoryNotFound name ∨
      ¬ docs.Listable ∧ e = .failed name .accessDenied := by
  unfold DocumentRoot.textFiles at h
  split at h
  · next hresolve =>
    cases h
    exact (Files.resolve_eq_error hresolve).imp_right .inl
  · next place hresolve =>
    split at h
    · next directory hfollow =>
      split at h <;> cases h
      next hmem =>
      refine .inr (.inr (.inr ⟨fun hlist => ?_, rfl⟩))
      exact hlist _ directory (DocumentRoot.stepsTo_of_resolve hresolve) hfollow
        (Files.FileSystem.forbids_iff.1 hmem)
    · cases h
      exact .inr (.inr (.inl rfl))

theorem size_message_le {e : DocumentError} (h : docs.textFiles name = .error e)
    (hname : Text.size name + 25 ≤ maxLine)
    (hlist : docs.Listable ∨ Text.size name + 48 ≤ maxLine) : Text.size e.message ≤ maxLine := by
  rcases textFiles_eq_error h with rfl | rfl | rfl | ⟨hnot, rfl⟩
  · decide
  · have hmessage : (DocumentError.invalidName name).message = "Invalid document name " ++ name :=
      rfl
    have hfront : Text.size "Invalid document name " = 22 := by decide
    rw [hmessage, Text.size_append]
    omega
  · have hmessage : (DocumentError.directoryNotFound name).message =
        "Directory " ++ name ++ " does not exist" := rfl
    have hfront : Text.size "Directory " = 10 := by decide
    have hback : Text.size " does not exist" = 15 := by decide
    rw [hmessage, Text.size_append, Text.size_append]
    omega
  · have hmessage : (DocumentError.failed name .accessDenied).message =
        "Failed to read " ++ name ++ ": " ++ SystemError.accessDenied.message := rfl
    have hfront : Text.size "Failed to read " = 15 := by decide
    have hback : Text.size ": " = 2 ∧ Text.size SystemError.accessDenied.message = 31 := by decide
    have hroom : Text.size name + 48 ≤ maxLine := hlist.resolve_left hnot
    rw [hmessage, Text.size_append, Text.size_append, Text.size_append]
    omega

/-- The contents of a file in a reply are those of a file beneath the root. -/
theorem holds_of_mem_filesOf (h : docs.Finds name place directory)
    (hfiles : docs.files.WellFormed) {file : FetchedFile} (hfile : file ∈ filesOf docs name) :
    docs.Holds (Text.encode file.contents) := by
  obtain ⟨htext, hnode, hsent⟩ := ((lists_filesOf h hfiles).mem_iff file).1 hfile
  have hread := (DocumentRoot.text?_eq_some_iff hfiles h hnode).2 ⟨rfl, hsent⟩
  unfold DocumentRoot.text? at hread
  split at hread
  · next octets heq =>
    rw [← Text.decode?_eq_some_iff.1 hread] at *
    refine ⟨_, ?_, heq⟩
    rw [List.mem_append, List.mem_singleton, not_or]
    exact ⟨DocumentRoot.stepsTo_of_resolve h.resolve_eq, htext.ne_above.symm⟩
  · cases hread

/-- The reply to a name can be read if the name leaves room for a sentence and no file
    beneath the root is too large. A directory that may not be listed takes a longer one. -/
theorem Readable.of_size (hfiles : docs.files.WellFormed)
    (hname : Text.size name + 25 ≤ maxLine)
    (hlist : docs.Listable ∨ Text.size name + 48 ≤ maxLine)
    (hdocs : ∀ contents, docs.Holds contents → contents.length ≤ maxBody) :
    Readable docs name := by
  rcases finds_or_error docs name with ⟨place, directory, h⟩ | ⟨e, he⟩
  · rw [readable_iff_of_finds h hfiles]
    intro file hfile
    refine ⟨named_of_mem_filesOf h hfiles hfile, ?_⟩
    rw [← Text.length_encode]
    exact hdocs _ (holds_of_mem_filesOf h hfiles hfile)
  · exact (readable_iff_of_error he).2 (size_message_le he hname hlist)

end Reply

/-! ## Reading a reply -/

section Receive

variable {docs : DocumentRoot} {name : String} {files : List FetchedFile}

/-- A reply within the limits is read to its end. -/
theorem receive_of_readable (hfiles : docs.files.WellFormed) (h : Readable docs name) :
    receive (replyStream docs name) = (answer docs name, []) := by
  rcases finds_or_error docs name with ⟨place, directory, hfinds⟩ | ⟨e, he⟩
  · have hread := listing_append_received ((readable_iff_of_finds hfinds hfiles).1 h)
      (listing_done Reply.reads_done.apply)
    rw [← filesStream_eq, List.append_nil] at hread
    rw [answer_of_finds hfinds hfiles, replyStream, elements_eq hfinds hfiles]
    rw [filesStream] at hread
    rw [receive, readListing, hread]
  · have hfits : (Reply.error e.message).Fits := (readable_iff_of_error he).1 h
    have hread := listing_error (Reply.reads hfits).apply
    rw [answer_of_error he, replyStream, elements_of_error he, List.flatMap_singleton, receive,
      readListing, hread]

theorem Reply.refuses_error {message : String} (h : maxLine < Text.size message) :
    Reader.Refuses Reply.read (Reply.error message).write .lineTooLong := by
  have hword : Reader.Reads Frame.readField (Frame.writeLine "error") "error" :=
    Frame.IsLine.reads_field (by decide) (by decide)
  exact Reader.Refuses.after ((Frame.refuses_writeLine h).bind _) hword

theorem Reply.refuses_file {contents : String} (hname : Text.size name ≤ maxLine ∧ name ∉ words)
    (h : maxBody < Text.size contents) :
    ∃ e, Reader.Refuses Reply.read (Reply.file name contents).write e := by
  obtain ⟨e, -, hbody⟩ := Frame.refuses_writeBody h
  have hnot : singleLine name ∉ words := Frame.singleLine_not_mem (by decide) hname.2
  simp only [words, List.mem_cons, List.not_mem_nil, or_false, not_or] at hnot
  refine ⟨e, Reader.Refuses.after ?_ (Frame.reads_field hname.1)⟩
  rw [readRest, if_neg hnot.1, if_neg hnot.2]
  exact (hbody.append _).bind _

/-- The files before the first one that is too large are read for nothing. -/
theorem fails_listing_files (hnames : ∀ file ∈ files,
      Text.size file.name ≤ maxLine ∧ file.name ∉ Reply.words)
    (h : ∃ file ∈ files, ¬ file.element.Fits) (tail : Octets) :
    Reader.Fails readListing (files.flatMap (fun file => file.element.write) ++ tail) := by
  induction files with
  | nil =>
    obtain ⟨file, hfile, -⟩ := h
    cases hfile
  | cons file files ih =>
    rw [List.forall_mem_cons] at hnames
    rw [List.flatMap_cons, List.append_assoc]
    by_cases hfits : file.element.Fits
    · have hread : Reader.Reads Reply.read file.element.write file.received.element :=
        Reply.reads hfits
      refine fails_listing_after (hread _) (ih hnames.2 ?_)
      obtain ⟨large, hlarge, hnot⟩ := h
      rcases List.mem_cons.1 hlarge with rfl | hlater
      · exact absurd hfits hnot
      · exact ⟨large, hlater, hnot⟩
    · have hlarge : maxBody < Text.size file.contents :=
        Nat.not_le.1 fun hle => hfits ⟨hnames.1, hle⟩
      obtain ⟨e, hrefuses⟩ := Reply.refuses_file hnames.1 hlarge
      exact fails_listing (hrefuses.fails _)

/-- A reply beyond the limits is not read to its end. -/
theorem fails_of_not_readable (hfiles : docs.files.WellFormed) (h : ¬ Readable docs name) :
    Reader.Fails readListing (replyStream docs name) := by
  rcases finds_or_error docs name with ⟨place, directory, hfinds⟩ | ⟨e, he⟩
  · rw [readable_iff_of_finds hfinds hfiles] at h
    simp only [not_forall, exists_prop] at h
    have hfails := fails_listing_files (fun file => named_of_mem_filesOf hfinds hfiles) h
      Reply.done.write
    rw [← filesStream_eq] at hfails
    rw [replyStream, elements_eq hfinds hfiles]
    exact hfails
  · rw [readable_iff_of_error he, Nat.not_le] at h
    have hfails := fails_listing ((Reply.refuses_error h).fails [])
    rw [List.append_nil] at hfails
    rw [replyStream, elements_of_error he, List.flatMap_singleton]
    exact hfails

end Receive

/-! ## Gets -/

section Gets

variable {docs : DocumentRoot} {name : String} {visits : List (DocumentRoot × String)}

theorem get_new (hsize : Text.size name ≤ maxLine) : Link.new.get docs name =
    (⟨true, (receive (replyStream docs (singleLine name))).2⟩,
      (receive (replyStream docs (singleLine name))).1) := by
  rw [Link.get, Link.new, if_pos rfl, attend_get hsize]
  rfl

theorem get_new_of_readable (hfiles : docs.files.WellFormed) (hsize : Text.size name ≤ maxLine)
    (h : Readable docs (singleLine name)) :
    Link.new.get docs name = (.new, answer docs (singleLine name)) := by
  rw [get_new hsize, receive_of_readable hfiles h]
  rfl

theorem get_new_of_not_readable (hfiles : docs.files.WellFormed)
    (hsize : Text.size name ≤ maxLine) (h : ¬ Readable docs (singleLine name)) :
    ∃ e, (Link.new.get docs name).2 = .error (.frame e) := by
  obtain ⟨e, rest, hfails⟩ := fails_of_not_readable hfiles h
  exact ⟨e, by rw [get_new hsize, receive, hfails]⟩

theorem gets_of_readable
    (hvisits : ∀ v ∈ visits, v.1.files.WellFormed ∧ Text.size v.2 ≤ maxLine)
    (h : ∀ v ∈ visits, Readable v.1 (singleLine v.2)) :
    Link.new.gets visits = (.new, visits.map fun v => answer v.1 (singleLine v.2)) := by
  induction visits with
  | nil => rfl
  | cons v visits ih =>
    rw [List.forall_mem_cons] at hvisits h
    rw [Link.gets, get_new_of_readable hvisits.1.1 hvisits.1.2 h.1]
    dsimp only
    rw [ih hvisits.2 h.2]
    rfl

theorem mem_gets_of_not_readable
    (hvisits : ∀ v ∈ visits, v.1.files.WellFormed ∧ Text.size v.2 ≤ maxLine)
    (h : ¬ ∀ v ∈ visits, Readable v.1 (singleLine v.2)) :
    ∃ e, .error (.frame e) ∈ (Link.new.gets visits).2 := by
  induction visits with
  | nil => exact absurd nofun h
  | cons v visits ih =>
    rw [List.forall_mem_cons] at hvisits h
    by_cases hv : Readable v.1 (singleLine v.2)
    · obtain ⟨e, he⟩ := ih hvisits.2 fun hlater => h ⟨hv, hlater⟩
      refine ⟨e, ?_⟩
      rw [Link.gets, get_new_of_readable hvisits.1.1 hvisits.1.2 hv]
      exact List.mem_cons_of_mem _ he
    · obtain ⟨e, he⟩ := get_new_of_not_readable hvisits.1.1 hvisits.1.2 hv
      refine ⟨e, ?_⟩
      rw [Link.gets, ← he]
      exact List.mem_cons_self

/-- The client gets files, or an error in the words of the server. -/
def IsAnswer (result : Except Client.Error (List FetchedFile)) : Prop :=
  (∃ files, result = .ok files) ∨ ∃ message, result = .error (.server message)

theorem isAnswer_answer (docs : DocumentRoot) (name : String) : IsAnswer (answer docs name) := by
  unfold answer
  split
  · exact .inl ⟨_, rfl⟩
  · exact .inr ⟨_, rfl⟩

end Gets

/-- Directories are got one after another on a connection, by names that fit on a line.
    Every one of these gets gives files or an error in the words of the server exactly when
    no error is too long for a line and no file in a reply is too large. Each of them is
    then answered as it would be alone, and nothing is left on the connection. So it is for
    names that leave room for a sentence, if no file beneath the root is too large. A
    directory that may not be listed takes a longer sentence than one that does not exist. -/
theorem gets_iff_readable (visits : List (DocumentRoot × String))
    (hvisits : ∀ v ∈ visits, v.1.files.WellFormed ∧ Text.size v.2 ≤ maxLine) :
    ((∀ result ∈ (Link.new.gets visits).2, IsAnswer result) ↔
      ∀ v ∈ visits, Readable v.1 (singleLine v.2)) ∧
    ((∀ v ∈ visits, Readable v.1 (singleLine v.2)) →
      Link.new.gets visits = (.new, visits.map fun v => answer v.1 (singleLine v.2))) ∧
    ∀ v ∈ visits, Text.size v.2 + 25 ≤ maxLine →
      v.1.Listable ∨ Text.size v.2 + 48 ≤ maxLine →
      (∀ contents, v.1.Holds contents → contents.length ≤ maxBody) →
        Readable v.1 (singleLine v.2) := by
  refine ⟨⟨fun hanswers => ?_, fun h => ?_⟩, gets_of_readable hvisits,
    fun v hv hname hlist hdocs => ?_⟩
  · by_contra h
    obtain ⟨e, he⟩ := mem_gets_of_not_readable hvisits h
    rcases hanswers _ he with ⟨files, heq⟩ | ⟨message, heq⟩ <;> cases heq
  · rw [gets_of_readable hvisits h]
    intro result hresult
    obtain ⟨v, -, rfl⟩ := List.mem_map.1 hresult
    exact isAnswer_answer _ _
  · refine Readable.of_size (hvisits v hv).1 ?_ ?_ hdocs <;> rwa [Frame.size_singleLine]

/-- A name that begins with the directory above is refused, whatever the documents are. -/
theorem textFiles_above (docs : DocumentRoot) {name : String}
    (h : Files.firstName (Text.encode name) = Files.above) :
    docs.textFiles name = .error (.invalidName name) := by
  have hmem : Files.above ∈ Files.stepsOf (Text.encode name) := by
    rw [Files.stepsOf_eq, h, if_neg (by decide)]
    exact List.mem_cons_self
  have hresolve : Files.resolve docs.root name = .error (.invalidName name) := by
    rw [Files.resolve_eq_steps, if_neg (List.ne_nil_of_mem hmem), if_pos hmem]
  rw [DocumentRoot.textFiles, hresolve]

/-- A directory is got before and after a name that is refused. -/
theorem gets_iff_readable_drawer :
    let docs := Site.Drawer.docs
    let visits := [(docs, "d"), (docs, ".."), (docs, "d")]
    (∀ v ∈ visits, v.1.files.WellFormed ∧ Text.size v.2 ≤ maxLine) ∧
    Link.new.gets visits = (.new, [.ok [⟨"a.txt", "x"⟩, ⟨"done.txt", "y"⟩],
      .error (.server "Invalid document name .."), .ok [⟨"a.txt", "x"⟩, ⟨"done.txt", "y"⟩]]) := by
  intro docs visits
  have hfiles : docs.files.WellFormed := Site.Drawer.wellFormed_files
  have hfinds := Site.Drawer.finds
  have herror : docs.textFiles ".." = .error (.invalidName "..") := textFiles_above docs rfl
  have hanswer : answer docs "d" = .ok [⟨"a.txt", "x"⟩, ⟨"done.txt", "y"⟩] := by
    rw [answer_of_finds hfinds hfiles, Site.Drawer.filesOf_docs]
    decide +kernel
  have hanswer' : answer docs ".." = .error (.server "Invalid document name ..") := by
    rw [answer_of_error herror]
    decide +kernel
  have hd : Readable docs "d" := by
    rw [readable_iff_of_finds hfinds hfiles, Site.Drawer.filesOf_docs]
    decide
  have habove : Readable docs ".." := (readable_iff_of_error herror).2 (by decide)
  have hline : singleLine "d" = "d" ∧ singleLine ".." = ".." := by decide +kernel
  have hvisits : ∀ v ∈ visits, v.1.files.WellFormed ∧ Text.size v.2 ≤ maxLine := by
    have hsizes : Text.size "d" ≤ maxLine ∧ Text.size ".." ≤ maxLine := by decide
    simp only [visits, List.forall_mem_cons]
    exact ⟨⟨hfiles, hsizes.1⟩, ⟨hfiles, hsizes.2⟩, ⟨hfiles, hsizes.1⟩, nofun⟩
  have hreadable : ∀ v ∈ visits, Readable v.1 (singleLine v.2) := by
    simp only [visits, List.forall_mem_cons, hline.1, hline.2]
    exact ⟨hd, habove, hd, nofun⟩
  refine ⟨hvisits, ?_⟩
  rw [(gets_iff_readable visits hvisits).2.1 hreadable]
  simp only [visits, List.map_cons, List.map_nil, hline.1, hline.2, hanswer, hanswer']

/-- A name that begins with the directory above and goes on for so many characters. -/
def climbing (n : Nat) : String := String.ofList ('.' :: '.' :: '/' :: List.replicate n 'k')

theorem plain_climbing {n : Nat} : ∀ c ∈ '.' :: '.' :: '/' :: List.replicate n 'k',
    c.utf8Size = 1 ∧ c ≠ '\n' ∧ c ≠ '\r' := by
  have hchars : ∀ c ∈ ['.', '/', 'k'], c.utf8Size = 1 ∧ c ≠ '\n' ∧ c ≠ '\r' := by decide
  intro c hc
  refine hchars c ?_
  simp only [List.mem_cons, List.mem_replicate, List.not_mem_nil, or_false] at hc ⊢
  tauto

theorem size_climbing (n : Nat) : Text.size (climbing n) = n + 3 := by
  rw [climbing, Text.size_ofList_of_ascii fun c hc => (plain_climbing c hc).1]
  simp

theorem singleLine_climbing (n : Nat) : singleLine (climbing n) = climbing n := by
  refine Frame.IsLine.singleLine_eq fun c hc => ?_
  rw [climbing, String.toList_ofList] at hc
  exact (plain_climbing c hc).2

theorem textFiles_climbing (docs : DocumentRoot) (n : Nat) :
    docs.textFiles (climbing n) = .error (.invalidName (climbing n)) := by
  refine textFiles_above docs ?_
  rw [climbing, Text.encode_ofList]
  rfl

/-- A name that fits on a line, and an error about it that does not. -/
theorem get_climbing_unreadable :
    let docs : DocumentRoot := ⟨.empty, []⟩
    docs.files.WellFormed ∧ Text.size (climbing 8187) ≤ maxLine ∧
      docs.textFiles (climbing 8187) = .error (.invalidName (climbing 8187)) ∧
      ¬ IsAnswer (Link.new.get docs (climbing 8187)).2 := by
  intro docs
  have hfiles : docs.files.WellFormed := by decide
  have herror := textFiles_climbing docs 8187
  have hname : Text.size (climbing 8187) ≤ maxLine := by
    rw [size_climbing]
    decide
  have hnot : ¬ Readable docs (singleLine (climbing 8187)) := by
    have hmessage : (DocumentError.invalidName (climbing 8187)).message =
      "Invalid document name " ++ climbing 8187 := rfl
    have hfront : Text.size "Invalid document name " = 22 := by decide
    rw [singleLine_climbing, readable_iff_of_error herror, hmessage, Text.size_append,
      size_climbing, hfront]
    decide
  obtain ⟨e, he⟩ := get_new_of_not_readable hfiles hname hnot
  refine ⟨hfiles, hname, herror, ?_⟩
  rw [he]
  rintro (⟨files, heq⟩ | ⟨message, heq⟩) <;> cases heq

end Harbor.Transfer
