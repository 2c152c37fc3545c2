import Harbor.Proofs.Files.Listing
import Harbor.Proofs.Transfer.RoundTrip
import Harbor.Site
import Mathlib.Data.List.Basic

/-!
# Fetching directories

A client that fetches a directory gets the text files that lie in it, whatever they are
named and whatever they hold, and nothing is left over on the connection. So it can
fetch as many as it likes.

Main results:

* `lists_filesOf`: the files sent are the text files of the directory, in order.
* `Site.fetch_of_receive`: a client gets what it makes of the reply, and the connection is
  as before.
* `Site.fetch_eq`: it gets the files that are sent.
* `Site.fetchAll_eq`: so it is for any number of directories.
-/

namespace Harbor

open Files (DocumentRoot FileSystem Path Name IsName IsTextName pathSize maxPath)
open Harbor.Frame (IsLine singleLine lineFeed carriageReturn maxLine maxBody)

namespace Transfer

variable {docs : DocumentRoot} {name : String} {place directory : Path}

/-! ## The files of a directory -/

/-- A file of a directory as it is received, if its name and contents are text. -/
def fetchedFile? (docs : DocumentRoot) (place : Path) (file : Name) : Option FetchedFile :=
  match Text.decode? file, docs.text? place file with
  | some name, some contents => some ⟨name, contents⟩
  | _, _ => none

/-- The files that are sent for a directory. -/
def filesOf (docs : DocumentRoot) (name : String) : List FetchedFile :=
  match docs.textFiles name with
  | .error _ => []
  | .ok (place, files) => files.filterMap (fetchedFile? docs place)

theorem fileElement?_eq (docs : DocumentRoot) (place : Path) (file : Name) :
    fileElement? docs place file = (fetchedFile? docs place file).map FetchedFile.element := by
  unfold fileElement? fetchedFile?
  cases Text.decode? file with
  | none => rfl
  | some name => cases docs.text? place file <;> rfl

theorem fetchedFile?_eq_some_iff {file : Name} {received : FetchedFile} :
    fetchedFile? docs place file = some received ↔
      file = Text.encode received.name ∧ docs.text? place file = some received.contents := by
  unfold fetchedFile?
  rw [← Text.decode?_eq_some_iff]
  cases Text.decode? file with
  | none => simp
  | some name =>
    obtain ⟨name', contents'⟩ := received
    cases docs.text? place file <;> simp

/-- The files are the text files of a directory that may be read and whose paths are not too
    long, in ascending order of their names. -/
structure Lists (docs : DocumentRoot) (place directory : Path) (files : List FetchedFile) :
    Prop where
  ascending : files.Pairwise fun a b => Text.encode a.name < Text.encode b.name
  mem_iff : ∀ file, file ∈ files ↔ IsTextName (Text.encode file.name) ∧
    docs.files.node? (directory ++ [Text.encode file.name]) =
      some (.file (Text.encode file.contents)) ∧
    directory ++ [Text.encode file.name] ∉ docs.files.unreadable ∧
    pathSize (place ++ [Text.encode file.name]) ≤ maxPath

theorem elements_eq (h : docs.Finds name place directory) (hfiles : docs.files.WellFormed) :
    elements docs name = (filesOf docs name).map FetchedFile.element ++ [.done] := by
  obtain ⟨files, htext, -⟩ := DocumentRoot.textFiles_eq_ok hfiles h
  rw [elements, filesOf, htext]
  dsimp only
  rw [List.map_filterMap, ← funext (fileElement?_eq docs place)]

theorem lists_filesOf (h : docs.Finds name place directory) (hfiles : docs.files.WellFormed) :
    Lists docs place directory (filesOf docs name) := by
  obtain ⟨files, htext, hsorted, hmem⟩ := DocumentRoot.textFiles_eq_ok hfiles h
  rw [filesOf, htext]
  constructor
  · refine List.pairwise_filterMap.2 (hsorted.imp fun hlt received heq received' heq' => ?_)
    rw [fetchedFile?_eq_some_iff] at heq heq'
    rwa [← heq.1, ← heq'.1]
  · intro received
    simp only [List.mem_filterMap, fetchedFile?_eq_some_iff, hmem]
    constructor
    · rintro ⟨file, ⟨hname, contents, hnode⟩, rfl, htext⟩
      rw [DocumentRoot.text?_eq_some_iff hfiles h hnode] at htext
      exact ⟨hname, htext.1 ▸ hnode, htext.2⟩
    · rintro ⟨hname, hnode, hreadable, hsize⟩
      refine ⟨_, ⟨hname, _, hnode⟩, rfl, ?_⟩
      rw [DocumentRoot.text?_eq_some_iff hfiles h hnode]
      exact ⟨rfl, hreadable, hsize⟩

/-- The files sent are those that are found, when these are in order already. -/
theorem filesOf_eq {files : List FetchedFile} (h : docs.Finds name place directory)
    (hfiles : docs.files.WellFormed)
    (hnames : ((docs.files.names directory).filter fun file =>
      DocumentRoot.isTextName file && docs.isRegularFile directory file) =
        files.map fun file => Text.encode file.name)
    (hsorted : (files.map fun file => Text.encode file.name).Pairwise (Files.precedes · ·))
    (hnode : ∀ file ∈ files, docs.files.node? (directory ++ [Text.encode file.name]) =
      some (.file (Text.encode file.contents)) ∧
        directory ++ [Text.encode file.name] ∉ docs.files.unreadable ∧
        pathSize (place ++ [Text.encode file.name]) ≤ maxPath) : filesOf docs name = files := by
  have hfetched : ∀ file ∈ files, fetchedFile? docs place (Text.encode file.name) = some file := by
    intro file hfile
    obtain ⟨hfound, hsent⟩ := hnode file hfile
    rw [fetchedFile?_eq_some_iff]
    exact ⟨rfl, (DocumentRoot.text?_eq_some_iff hfiles h hfound).2 ⟨rfl, hsent⟩⟩
  rw [filesOf, DocumentRoot.textFiles, h.resolve_eq]
  dsimp only
  rw [h.follow_eq]
  dsimp only
  rw [if_neg (mt FileSystem.forbids_iff.1 h.readable), hnames, List.mergeSort_of_pairwise hsorted]
  dsimp only
  rw [List.filterMap_map]
  exact (List.filterMap_congr hfetched).trans List.filterMap_some

/-! ## The files on the wire -/

/-- The name of a directory is a line, it stands for a directory beneath the root that may be
    listed, and the names and the contents of the text files in that fit into a reply. -/
structure Sendable (docs : DocumentRoot) (name : String) (place directory : Path) : Prop
    extends docs.Finds name place directory where
  isLine : IsLine name
  size_le : Text.size name ≤ maxLine
  files_fit : ∀ file contents, IsTextName file →
    docs.files.node? (directory ++ [file]) = some (.file contents) →
      lineFeed ∉ file ∧ carriageReturn ∉ file ∧ file.length ≤ maxLine ∧ contents.length ≤ maxBody

/-- A name that ends like that of a text file is no word of the protocol. -/
theorem ne_of_isTextName {word : String} (h : IsTextName (Text.encode name))
    (hword : (Text.encode word).getLast? ≠ some 116) : name ≠ word := by
  rintro rfl
  obtain ⟨stem, -, heq⟩ := h
  rw [heq, List.getLast?_append] at hword
  exact hword rfl

/-- A listed file fits if its name is a line and its contents are not too large. -/
theorem fits_of_mem_filesOf (h : docs.Finds name place directory) (hfiles : docs.files.WellFormed)
    {file : FetchedFile} (hmem : file ∈ filesOf docs name) (hline : IsLine file.name)
    (hbody : Text.size file.contents ≤ maxBody) : file.Fits := by
  obtain ⟨hname, hnode, -⟩ := ((lists_filesOf h hfiles).mem_iff file).1 hmem
  have hsize : Text.size file.name ≤ maxLine :=
    Nat.le_trans (hfiles.isName_of_node? hnode).length_le (by decide)
  have hne (word : String) := @ne_of_isTextName file.name word hname
  exact ⟨hline, hsize, hbody, hne "done" (by decide), hne "error" (by decide)⟩

theorem Sendable.fits (h : Sendable docs name place directory) (hfiles : docs.files.WellFormed) :
    ∀ file ∈ filesOf docs name, file.Fits := by
  intro file hfile
  obtain ⟨hname, hnode, -⟩ := ((lists_filesOf h.toFinds hfiles).mem_iff file).1 hfile
  obtain ⟨hfeed, hreturn, -, hbody⟩ := h.files_fit _ _ hname hnode
  refine fits_of_mem_filesOf h.toFinds hfiles hfile (fun c hc => ⟨?_, ?_⟩) hbody
  · rintro rfl
    exact hfeed (Text.mem_encode hc (by decide))
  · rintro rfl
    exact hreturn (Text.mem_encode hc (by decide))

theorem Sendable.receive_eq (h : Sendable docs name place directory)
    (hfiles : docs.files.WellFormed) :
    receive (replyStream docs name) = (.ok (filesOf docs name), []) := by
  have hread := (reads_listing (h.fits hfiles)).apply
  rw [receive, replyStream, elements_eq h.toFinds hfiles]
  rw [filesStream] at hread
  rw [hread]

end Transfer

/-! ## Calls on a connection -/

/-- Fetches directories one after another on a connection, until one cannot be had. -/
def Host.fetchAll {m : Type → Type} [Monad m] (host : Host m) (connection : Nat) :
    List String → Octets → m (Except Client.Error (List (List Transfer.FetchedFile)))
  | [], _ => return .ok []
  | name :: names, atHand => do
    match ← host.fetch connection name atHand with
    | .error e => return .error e
    | .ok (files, rest) =>
      match ← host.fetchAll connection names rest with
      | .error e => return .error e
      | .ok later => return .ok (files :: later)

namespace Site

open Net (SocketAddress)
open Transfer (Sendable filesOf replyStream receive attend_get)

variable {s : Site} {connection : Nat} {root : Path} {name : String} {place directory : Path}
  {visit : StateT Site Id Unit}

/-- The connection is served by a file server, and nothing is on its way. -/
def IsIdle (s : Site) (connection : Nat) (root : Path) : Prop :=
  ∃ link, s.links.get? connection = some link ∧ link.isServed = true ∧ link.incoming = [] ∧
    s.servers.get? link.server = some (.transfer root)

/-- A new connection is idle. -/
theorem isIdle_of_connect {s' : Site} {address key : SocketAddress}
    (hserver : taker? s.servers address = some (key, .transfer root))
    (h : s.connect address = (.ok connection, s')) :
    s'.IsIdle connection root ∧ s'.files = s.files := by
  have hkey : s.servers.get? key = some (.transfer root) :=
    Dictionary.lookup_of_find? (p := fun other : SocketAddress => other.port == address.port &&
      (other.ip == address.ip || (isAny other.ip && isOwn address.ip))) hserver
  unfold connect at h
  split at h
  · cases h
  · rw [hserver] at h
    cases h
    exact ⟨⟨_, by rw [Dictionary.get?_insert, if_pos rfl], rfl, rfl, hkey⟩, rfl⟩

/-- A request is answered by what can be collected after it was sent. -/
theorem run_roundTrip {α : Type} {request : Octets} {isEnough : Octets → Bool}
    {receive : Octets → Except Client.Error α × Octets} :
    ((host visit).roundTrip connection request isEnough receive []).run s =
      (match receive ((s.send connection request).collect connection).1 with
        | (.error e, _) => .error e
        | (.ok a, rest) => .ok (a, rest),
        ((s.send connection request).collect connection).2) := by
  have hsend : ((host visit).send connection request).run s = (.ok (), s.send connection request) :=
    rfl
  have hcollect : ((host visit).collect connection [] isEnough).run (s.send connection request) =
      (.ok ((s.send connection request).collect connection).1,
        ((s.send connection request).collect connection).2) := rfl
  rw [Host.roundTrip, StateT.run_bind, hsend]
  show StateT.run (_ >>= _) _ = _
  rw [StateT.run_bind, hcollect]
  dsimp only [bind]
  rcases receive _ with ⟨_ | _, rest⟩ <;> rfl

/-- One exchange on an idle connection leaves it idle. -/
theorem fetch_of_receive {files : List Transfer.FetchedFile} {rest : Octets}
    (hidle : s.IsIdle connection root) (hsize : Text.size name ≤ maxLine)
    (h : receive (replyStream ⟨s.files, root⟩ (singleLine name)) = (.ok files, rest)) :
    ((host visit).fetch connection name []).run s = (.ok (files, rest), s) := by
  obtain ⟨link, hlink, hserved, hincoming, hserver⟩ := hidle
  let answered := { link with incoming := replyStream ⟨s.files, root⟩ (singleLine name) }
  have hsend : s.send connection (Transfer.Request.get name).write =
      { s with links := s.links.insert connection answered } := by
    simp only [send, hlink, hserved, hserver, attend_get hsize, hincoming]
    simp [answered, hserved]
  have hcollect : (s.send connection (Transfer.Request.get name).write).collect connection =
      (replyStream ⟨s.files, root⟩ (singleLine name), s) := by
    have hkept : { answered with incoming := [] } = link := by rw [← hincoming]
    rw [hsend, collect, Dictionary.get?_insert, if_pos rfl]
    dsimp only
    rw [hkept, Dictionary.insert_insert, Dictionary.insert_of_get? hlink]
  rw [Host.fetch, run_roundTrip, hcollect, h]

theorem fetch_eq (hidle : s.IsIdle connection root) (hfiles : s.files.WellFormed)
    (h : Sendable ⟨s.files, root⟩ name place directory) :
    ((host visit).fetch connection name []).run s =
      (.ok (filesOf ⟨s.files, root⟩ name, []), s) := by
  refine fetch_of_receive hidle h.size_le ?_
  rw [h.isLine.singleLine_eq, h.receive_eq hfiles]

/-- However many directories are fetched, each call gets the files of its own. -/
theorem fetchAll_eq (hidle : s.IsIdle connection root) (hfiles : s.files.WellFormed)
    {names : List String}
    (h : ∀ name ∈ names, ∃ place directory, Sendable ⟨s.files, root⟩ name place directory) :
    ((host visit).fetchAll connection names []).run s =
      (.ok (names.map (filesOf ⟨s.files, root⟩)), s) := by
  induction names with
  | nil => rfl
  | cons name names ih =>
    rw [List.forall_mem_cons] at h
    obtain ⟨⟨place, directory, hname⟩, hnames⟩ := h
    rw [Host.fetchAll, StateT.run_bind, fetch_eq hidle hfiles hname]
    show StateT.run (_ >>= _) s = _
    rw [StateT.run_bind, ih hnames]
    rfl

end Site

end Harbor
