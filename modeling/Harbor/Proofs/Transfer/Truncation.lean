import Harbor.Proofs.Frame.Truncation
import Harbor.Proofs.Transfer.Fetching

/-!
# Replies of the file server that are cut short

When a server goes away inside a reply, the client gets an error, whatever is missing: a
name, a length, contents, or `done`. There is one place where it does not. A line that the
end of the stream ends is taken as it stands, so the first four octets of a name such as
`done.txt` are taken for the word that ends the reply, and the client gets the files
before that one as if there were no others. No other place is like that, and at this one
it always happens.

Main results:

* `listing_cut`: what a client reads from a reply that is cut short.
* `Site.fetch_cut`: a fetch gives an error or the files of the whole reply, unless the
  reply breaks off behind `done`.
* `Site.fetch_incomplete_four_octets`: a reply that does.
-/

namespace Harbor

open Files (DocumentRoot FileSystem Path IsName)
open Harbor.Frame (CutShort IsLine maxLine maxBody)

namespace Transfer

variable {docs : DocumentRoot} {name : String} {place directory : Path} {piece : Octets}
  {files before : List FetchedFile}

/-! ## One file -/

theorem reads_done_unterminated : Reply.read (Text.encode "done") = (.ok .done, []) :=
  Reader.bind_ok (Frame.readField_encode (by decide) (by decide) (by decide))

/-- Behind every other word something has to follow. -/
theorem fails_read_of_word {word : String} (hdone : word ≠ "done")
    (hread : Frame.readField piece = (.ok word, [])) : Reader.Fails Reply.read piece := by
  refine Reader.Fails.at_end ?_ hread
  rw [Reply.readRest, if_neg hdone]
  split
  · exact Frame.fails_readField_nil.bind _
  · exact Frame.fails_readBody_nil.bind _

/-- Of a file that is cut short nothing can be read, unless nothing of it is missing or its
    name begins like `done`. -/
theorem FetchedFile.Fits.read_cut {file : FetchedFile} (h : file.Fits)
    (hcut : CutShort piece file.element.write) :
    Reader.Fails Reply.read piece ∨ Reply.read piece = (.ok file.element, []) ∨
      piece = Text.encode "done" ∧ Text.encode "done" <+: Text.encode file.name := by
  obtain ⟨name, contents⟩ := file
  rcases hcut.append with hname | ⟨body, rfl, hbody⟩
  · rcases hname.field h.size_name_le with hfails | ⟨word, rfl, hread⟩
    · exact .inl (hfails.bind _)
    · by_cases hdone : word = "done"
      · subst hdone
        have hfront := hname.front_line
        rw [h.isLine.singleLine_eq] at hfront
        exact .inr (.inr ⟨rfl, hfront⟩)
      · exact .inl (fails_read_of_word hdone hread)
  · have hread := h.isLine.reads_field h.size_name_le
    have hrest : Reply.readRest name = Frame.readBody >>= fun body => pure (.file name body) := by
      rw [Reply.readRest, if_neg h.ne_done, if_neg h.ne_error]
    rcases hbody.body h.size_contents_le with hfails | ⟨rfl, hempty⟩
    · refine .inl (Reader.Fails.after ?_ hread)
      rw [hrest]
      exact hfails.bind _
    · refine .inr (.inl ?_)
      rw [Reply.read, Reader.bind_ok (hread body), hrest, Reader.bind_ok hempty]
      rfl

/-! ## Some files and `done` -/

theorem fails_listing (h : Reader.Fails Reply.read piece) : Reader.Fails readListing piece := by
  obtain ⟨e, rest, h⟩ := h
  exact ⟨e, rest, listing_of_error h⟩

theorem fails_listing_after {file : FetchedFile} {rest : Octets}
    (h : Reply.read piece = (.ok file.element, rest)) (hrest : Reader.Fails readListing rest) :
    Reader.Fails readListing piece := by
  obtain ⟨e, rest', hrest⟩ := hrest
  rw [readListing] at hrest
  refine ⟨e, rest', ?_⟩
  rw [readListing, listing_after_file h, hrest]
  rfl

/-- The octets are those of some of the files and the first four of the next one, and
    these are `done`. -/
def BreaksOffAtDone (files before : List FetchedFile) (piece : Octets) : Prop :=
  ∃ file after, files = before ++ file :: after ∧
    Text.encode "done" <+: Text.encode file.name ∧
    piece = before.flatMap (fun file => file.element.write) ++ Text.encode "done"

theorem BreaksOffAtDone.cons {file : FetchedFile} (h : BreaksOffAtDone files before piece) :
    BreaksOffAtDone (file :: files) (file :: before) (file.element.write ++ piece) := by
  obtain ⟨next, after, rfl, hname, rfl⟩ := h
  exact ⟨next, after, rfl, hname, by rw [List.flatMap_cons, List.append_assoc]⟩

/-- The client takes the files before that for all there are. -/
theorem BreaksOffAtDone.listing_eq (h : BreaksOffAtDone files before piece)
    (hfiles : ∀ file ∈ files, file.Fits) : listing piece = (.ok (.ok before), []) := by
  obtain ⟨file, after, rfl, -, rfl⟩ := h
  have hbefore : ∀ file ∈ before, file.Fits := fun file hmem =>
    hfiles file (List.mem_append_left _ hmem)
  have hread := listing_append hbefore (listing_done reads_done_unterminated)
  rwa [List.append_nil] at hread

theorem BreaksOffAtDone.ne (h : BreaksOffAtDone files before piece) : before ≠ files := by
  obtain ⟨file, after, rfl, -⟩ := h
  intro heq
  have := congrArg List.length heq
  rw [List.length_append, List.length_cons] at this
  omega

/-- What a client reads from a reply that is cut short. -/
theorem listing_cut (hfiles : ∀ file ∈ files, file.Fits)
    (hcut : CutShort piece (filesStream files)) :
    Reader.Fails readListing piece ∨ listing piece = (.ok (.ok files), []) ∨
      ∃ before, BreaksOffAtDone files before piece := by
  rw [filesStream_eq] at hcut
  induction files generalizing piece with
  | nil =>
    rw [List.flatMap_nil, List.nil_append] at hcut
    rcases hcut.field (by decide) with hfails | ⟨word, rfl, hread⟩
    · exact .inl (fails_listing (hfails.bind _))
    · by_cases hdone : word = "done"
      · subst hdone
        exact .inr (.inl (listing_done reads_done_unterminated))
      · exact .inl (fails_listing (fails_read_of_word hdone hread))
  | cons file files ih =>
    rw [List.forall_mem_cons] at hfiles
    rw [List.flatMap_cons, List.append_assoc] at hcut
    rcases hcut.append with hfirst | ⟨piece', rfl, hlater⟩
    · rcases hfiles.1.read_cut hfirst with hfails | hread | ⟨rfl, hname⟩
      · exact .inl (fails_listing hfails)
      · exact .inl (fails_listing_after hread (fails_listing (Frame.fails_readField_nil.bind _)))
      · exact .inr (.inr ⟨[], file, files, rfl, hname, rfl⟩)
    · have hread := hfiles.1.reads piece'
      rcases ih hfiles.2 hlater with hfails | hall | ⟨before, hbreaks⟩
      · exact .inl (fails_listing_after hread hfails)
      · exact .inr (.inl (listing_file hread hall))
      · exact .inr (.inr ⟨file :: before, hbreaks.cons⟩)

end Transfer

/-! ## A fetch -/

namespace Site

open Transfer (FetchedFile BreaksOffAtDone filesOf replyStream)

section

variable {docs : DocumentRoot} {name : String} {place directory : Path} {piece : Octets}
  {s : Site} {connection : Nat} {visit : StateT Site Id Unit}

/-- The server has sent the octets and has then ended the connection. -/
def HasEnded (s : Site) (connection : Nat) (octets : Octets) : Prop :=
  ∃ link, s.links.get? connection = some link ∧ link.isServed = false ∧ link.incoming = octets

theorem fetch_of_hasEnded (h : s.HasEnded connection piece) (name : String) :
    (((host visit).fetch connection name []).run s).1 =
      match Transfer.receive piece with
      | (.error e, _) => .error e
      | (.ok files, rest) => .ok (files, rest) := by
  obtain ⟨link, hlink, hended, rfl⟩ := h
  have hsend : s.send connection (Transfer.Request.get name).write = s := by
    simp [send, hlink, hended]
  have hcollect : (s.collect connection).1 = link.incoming := by rw [collect, hlink]
  rw [Host.fetch, run_roundTrip, hsend, hcollect]
  rcases Transfer.receive link.incoming with ⟨_ | _, rest⟩ <;> rfl

/-- A directory is fetched, and the server goes away inside the reply. The client gets an
    error or all the files exactly when the reply does not break off at the beginning of a
    name that is `done`. If it does, the client gets the files before that one. -/
theorem fetch_cut (hfiles : docs.files.WellFormed) (h : docs.Finds name place directory)
    (hsent : ∀ file ∈ filesOf docs name, IsLine file.name ∧ Text.size file.contents ≤ maxBody)
    (hcut : CutShort piece (replyStream docs name)) (hended : s.HasEnded connection piece) :
    let answer := (((host visit).fetch connection name []).run s).1
    (((∃ e, answer = .error e) ∨ answer = .ok (filesOf docs name, [])) ↔
      ¬ ∃ before, BreaksOffAtDone (filesOf docs name) before piece) ∧
    ∀ before, BreaksOffAtDone (filesOf docs name) before piece → answer = .ok (before, []) := by
  intro answer
  have hanswer : answer = _ := fetch_of_hasEnded hended name
  have hfits : ∀ file ∈ filesOf docs name, file.Fits := fun file hmem =>
    Transfer.fits_of_mem_filesOf h hfiles hmem (hsent file hmem).1 (hsent file hmem).2
  have hmisread : ∀ before, BreaksOffAtDone (filesOf docs name) before piece →
      answer = .ok (before, []) := by
    intro before hbreaks
    rw [hanswer, Transfer.receive, Transfer.readListing, hbreaks.listing_eq hfits]
  refine ⟨⟨?_, ?_⟩, hmisread⟩
  · rintro hgood ⟨before, hbreaks⟩
    rw [hmisread before hbreaks] at hgood
    rcases hgood with ⟨e, he⟩ | hall
    · cases he
    · cases hall
      exact hbreaks.ne rfl
  · intro hnot
    rw [replyStream, Transfer.elements_eq h hfiles] at hcut
    rcases Transfer.listing_cut hfits hcut with ⟨e, rest, hfails⟩ | hall | hbreaks
    · left
      rw [hanswer, Transfer.receive, hfails]
      exact ⟨_, rfl⟩
    · right
      rw [hanswer, Transfer.receive, Transfer.readListing, hall]
    · exact absurd hbreaks hnot

end

/-! ### A file named `done.txt` -/

/-- The name of a directory in the root leads there. -/
theorem finds_d {files : Files.FileSystem} (h : files.node? [[100]] = some .directory)
    (hreadable : files.unreadable = []) :
    DocumentRoot.Finds ⟨files, []⟩ "d" [[100]] [[100]] where
  resolve_eq := Files.resolve_eq_ok_iff.2
    ⟨by decide, by decide, congrArg ([] ++ ·) (show [[100]] = _ by decide)⟩
  follow_eq := FileSystem.follow_directory files.follow_nil (by decide) (by decide) h
  readable := hreadable ▸ List.not_mem_nil

namespace Drawer

/-- A directory of two files. -/
def docs : DocumentRoot :=
  ⟨⟨⟨[([[100]], .directory), ([[100], Text.encode "a.txt"], .file [120]),
    ([[100], Text.encode "done.txt"], .file [121])]⟩, []⟩, []⟩

/-- The two files as they are sent. -/
def files : List FetchedFile := [⟨"a.txt", "x"⟩, ⟨"done.txt", "y"⟩]

/-- A site with a connection whose server has gone away. -/
def site (incoming : Octets) : Site :=
  { Site.new .empty [] with links := ⟨[(0, ⟨⟨.v4 127 0 0 1, 1, 0⟩, .unbound, false, incoming⟩)]⟩ }

theorem wellFormed_files : docs.files.WellFormed := by decide

theorem finds : docs.Finds "d" [[100]] [[100]] := finds_d (by decide) rfl

theorem filesOf_docs : filesOf docs "d" = files :=
  Transfer.filesOf_eq finds wellFormed_files (by decide) (by decide) (by decide)

theorem replyStream_docs :
    replyStream docs "d" = Text.encode "a.txt\n1\nxdone.txt\n1\nydone\n" := by
  rw [replyStream, Transfer.elements_eq finds wellFormed_files, filesOf_docs]
  decide +kernel

theorem hasEnded_site (incoming : Octets) : (site incoming).HasEnded 0 incoming :=
  ⟨_, rfl, rfl, rfl⟩

theorem sent_fits : ∀ file ∈ filesOf docs "d",
    IsLine file.name ∧ Text.size file.contents ≤ maxBody := by
  rw [filesOf_docs]
  decide

theorem fits_files : ∀ file ∈ files, file.Fits := by
  intro file hfile
  rw [← filesOf_docs] at hfile
  obtain ⟨hline, hbody⟩ := sent_fits file hfile
  exact Transfer.fits_of_mem_filesOf finds wellFormed_files hfile hline hbody

end Drawer

/-- Two octets of the name have arrived. -/
theorem fetch_cut_two_octets :
    let piece := Text.encode "a.txt\n1\nxdo"
    let answer := (((host (n := Id) (pure ())).fetch 0 "d" []).run (Drawer.site piece)).1
    Drawer.docs.files.WellFormed ∧ Drawer.docs.Finds "d" [[100]] [[100]] ∧
    (∀ file ∈ filesOf Drawer.docs "d", IsLine file.name ∧ Text.size file.contents ≤ maxBody) ∧
    CutShort piece (replyStream Drawer.docs "d") ∧ (Drawer.site piece).HasEnded 0 piece ∧
    ((∃ e, answer = .error e) ∨ answer = .ok (filesOf Drawer.docs "d", [])) := by
  intro piece answer
  have hcut : CutShort piece (replyStream Drawer.docs "d") := by
    rw [Drawer.replyStream_docs]
    exact ⟨by decide, by decide⟩
  have hended : (Drawer.site piece).HasEnded 0 piece := Drawer.hasEnded_site piece
  refine ⟨Drawer.wellFormed_files, Drawer.finds, Drawer.sent_fits, hcut, hended, ?_⟩
  refine (fetch_cut Drawer.wellFormed_files Drawer.finds Drawer.sent_fits hcut hended).1.2 ?_
  rintro ⟨before, file, after, -, -, hpiece⟩
  have hend : Text.encode "done" <:+ piece := hpiece ▸ List.suffix_append ..
  exact absurd hend (by decide)

/-- Four octets of the name have arrived, and the second file is not missed. -/
theorem fetch_incomplete_four_octets :
    let piece := Text.encode "a.txt\n1\nxdone"
    let answer := (((host (n := Id) (pure ())).fetch 0 "d" []).run (Drawer.site piece)).1
    Drawer.docs.files.WellFormed ∧ Drawer.docs.Finds "d" [[100]] [[100]] ∧
    (∀ file ∈ filesOf Drawer.docs "d", IsLine file.name ∧ Text.size file.contents ≤ maxBody) ∧
    CutShort piece (replyStream Drawer.docs "d") ∧ (Drawer.site piece).HasEnded 0 piece ∧
    answer = .ok ([⟨"a.txt", "x"⟩], []) ∧
    ¬ ((∃ e, answer = .error e) ∨ answer = .ok (filesOf Drawer.docs "d", [])) := by
  intro piece answer
  have hcut : CutShort piece (replyStream Drawer.docs "d") := by
    rw [Drawer.replyStream_docs]
    exact ⟨by decide, by decide⟩
  have hbreaks : BreaksOffAtDone Drawer.files [⟨"a.txt", "x"⟩] piece :=
    ⟨⟨"done.txt", "y"⟩, [], rfl, by decide, by decide +kernel⟩
  have hanswer : answer = .ok ([⟨"a.txt", "x"⟩], []) := by
    show Prod.fst _ = _
    rw [fetch_of_hasEnded (Drawer.hasEnded_site piece), Transfer.receive, Transfer.readListing,
      hbreaks.listing_eq Drawer.fits_files]
  refine ⟨Drawer.wellFormed_files, Drawer.finds, Drawer.sent_fits, hcut,
    Drawer.hasEnded_site piece, hanswer, ?_⟩
  rw [hanswer, Drawer.filesOf_docs]
  rintro (⟨e, he⟩ | hall)
  · cases he
  · cases hall

end Site

end Harbor
