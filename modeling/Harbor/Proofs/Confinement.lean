import Harbor.Proofs.Files.Beneath
import Harbor.Proofs.Session.Conversation
import Harbor.Proofs.Transfer.Conversation

/-!
# Confinement to the served root

Whatever a client sends to the session daemon or to the file server, what it is told
depends on the root and what lies beneath it, as long as no symbolic link leads out of
there. Nothing else on the machine can be read, nor can it be found out whether it exists:
two machines that differ elsewhere give the same octets, end the conversation in the same
way, and keep the same sessions.

Both services look at the files through few functions only. A conversation is therefore
the same as soon as these functions are.

Main results:

* `Session.serveFrom_congr`: a conversation with the daemon sees documents only.
* `Transfer.serve_congr`: one with the file server sees the replies to its requests only.
* `serve_confined`: both are the same on two machines that agree beneath the root.
-/

namespace Harbor

open Files (DocumentRoot FileSystem Path)

/-! ## The session daemon -/

namespace Session

variable {docs docs' : DocumentRoot}

theorem handle_congr (h : ∀ name, docs.read name = docs'.read name) (store : Store) (b : Binding)
    (r : Request) : handle docs store b r = handle docs' store b r := by
  cases r with
  | get name =>
    cases b with
    | unbound => rfl
    | bound id => rw [handle, handle, handleGet, handleGet, h]
  | openSession => cases b <;> rfl
  | resume id => cases b <;> rfl
  | close id => rfl
  | post name body => cases b <;> rfl
  | unknown verb => rfl

theorem turn_congr (h : ∀ name, docs.read name = docs'.read name) (store : Store) (b : Binding)
    (input : Octets) : turn docs store b input = turn docs' store b input := by
  have hhandle := handle_congr h store b
  unfold turn
  split
  · rfl
  · rfl
  · rw [hhandle]

/-- The daemon sees nothing of the files but the documents. -/
theorem serveFrom_congr (h : ∀ name, docs.read name = docs'.read name) (store : Store)
    (b : Binding) (input : Octets) :
    serveFrom docs store b input = serveFrom docs' store b input := by
  induction store, b, input using turns_induction docs with
  | ends store b input result hending =>
    have hturn := turn_congr h store b input
    rw [serveFrom_of_ending hending, serveFrom_of_ending (hturn ▸ hending), hturn]
  | goes_on store b input store' b' output rest ht ih =>
    have hturn := (turn_congr h store b input).symm.trans ht
    rw [serveFrom_of_turn ht, serveFrom_of_turn hturn, ih]

end Session

/-! ## The file server -/

namespace Transfer

variable {docs docs' : DocumentRoot}

theorem turn_congr (h : ∀ name, elements docs name = elements docs' name) (input : Octets) :
    turn docs input = turn docs' input := by
  unfold turn
  split
  case h_3 directory rest _ => rw [replyStream, replyStream, h]
  all_goals rfl

/-- The file server shows nothing of the files but the replies to requests. -/
theorem serve_congr (h : ∀ name, elements docs name = elements docs' name) (input : Octets) :
    serve docs input = serve docs' input := by
  induction hn : input.length using Nat.strongRecOn generalizing input with
  | _ n ih =>
    have hturn := turn_congr h input
    have hshorter := @turn_shorter docs input
    cases ht : turn docs input with
    | mk output rest ending? =>
      rw [ht] at hturn hshorter
      cases ending? with
      | some result =>
        rw [serve_of_ending (congrArg Turn.ending? ht),
          serve_of_ending (congrArg Turn.ending? hturn.symm), ht, ← hturn]
      | none =>
        rw [serve_of_turn ht, serve_of_turn hturn.symm,
          ih rest.length (hn ▸ hshorter rfl) rest rfl]

theorem elements_eq_of_agree {fs fs' : FileSystem} {root : Path} (hfiles : fs.WellFormed)
    (hfiles' : fs'.WellFormed) (hagree : FileSystem.AgreeBeneath root fs fs')
    (hlinks : fs.LinkFree root) (name : String) :
    elements ⟨fs, root⟩ name = elements ⟨fs', root⟩ name := by
  unfold elements
  rw [← DocumentRoot.textFiles_eq_of_agree hfiles hfiles' hagree hlinks name]
  cases htext : DocumentRoot.textFiles ⟨fs, root⟩ name with
  | error e => rfl
  | ok found =>
    obtain ⟨place, files⟩ := found
    obtain ⟨hplace, hnames⟩ := DocumentRoot.of_textFiles_eq_ok htext
    dsimp only
    rw [List.filterMap_congr]
    intro file hfile
    rw [fileElement?, fileElement?,
      DocumentRoot.text?_eq_of_agree hagree hlinks hplace (hnames file hfile).ne_above]

end Transfer

/-! ## Both -/

/-- What a client is told depends on what lies beneath the root and on nothing else. -/
theorem serve_confined {fs fs' : FileSystem} {root : Path} (hfiles : fs.WellFormed)
    (hfiles' : fs'.WellFormed) (hagree : FileSystem.AgreeBeneath root fs fs')
    (hlinks : fs.LinkFree root) (store : Session.Store) (input : Octets) :
    Session.serve ⟨fs, root⟩ store input = Session.serve ⟨fs', root⟩ store input ∧
      Transfer.serve ⟨fs, root⟩ input = Transfer.serve ⟨fs', root⟩ input :=
  ⟨Session.serveFrom_congr (DocumentRoot.read_eq_of_agree hagree hlinks) store .unbound input,
    Transfer.serve_congr (Transfer.elements_eq_of_agree hfiles hfiles' hagree hlinks) input⟩

/-- A secret beside the root, on one machine and not on the other. -/
theorem serve_confined_secret :
    let root : Path := [[114]]
    let files : FileSystem := ⟨⟨[([[115]], .file [120]), (root, .directory),
      (root ++ [Text.encode "a.txt"], .file [121]), (root ++ [Text.encode "b.txt"], .file [122])]⟩,
      []⟩
    let files' : FileSystem := ⟨⟨[(root, .directory), (root ++ [Text.encode "b.txt"], .file [122]),
      (root ++ [Text.encode "a.txt"], .file [121])]⟩, []⟩
    let input := Text.encode "open\nget\n/../s\nget\n//./a.txt\nget\n/a.txt\x00\n"
    let request := Text.encode "get\n../\nget\n.\n"
    files.WellFormed ∧ files'.WellFormed ∧ FileSystem.AgreeBeneath root files files' ∧
    files.LinkFree root ∧ files.read [] [[115]] = .ok [120] ∧
    files'.read [] [[115]] = .error .noEntry ∧
    Session.serve ⟨files, root⟩ .new input = Session.serve ⟨files', root⟩ .new input ∧
    Transfer.serve ⟨files, root⟩ request = Transfer.serve ⟨files', root⟩ request := by
  intro root files files' input request
  have hfiles : files.WellFormed := by decide
  have hfiles' : files'.WellFormed := by decide
  have hagree : FileSystem.AgreeBeneath root files files' := by
    refine ⟨fun steps => ?_, fun steps => Iff.rfl⟩
    have hne : Text.encode "b.txt" ≠ Text.encode "a.txt" := by decide
    simp only [root, files, files', FileSystem.node?, Dictionary.get?, Dictionary.lookup]
    -- only the order of the two files differs
    by_cases ha : [Text.encode "a.txt"] = steps
    · simp [← ha, hne]
    · simp [ha]
  have hlinks : files.LinkFree root := by
    intro steps target _ hnode
    have hmem := FileSystem.mem_entries_of_node? hnode (by simp [root])
    simp [files] at hmem
  have hsecret : files.node? ([] ++ [[115]]) = some (.file [120]) := by decide
  have hnosecret : files'.node? ([] ++ [[115]]) = none := by decide
  refine ⟨hfiles, hfiles', hagree, hlinks, ?_, ?_, ?_, ?_⟩
  · have hfollow := FileSystem.follow_file files.follow_nil (by decide) (by decide) hsecret
    rw [FileSystem.read, ← List.nil_append [[115]], hfollow]
    rfl
  · have hfollow := FileSystem.follow_vacant files'.follow_nil (by decide) (by decide) hnosecret
    rw [FileSystem.read, ← List.nil_append [[115]], hfollow]
  · exact (serve_confined hfiles hfiles' hagree hlinks .new input).1
  · exact (serve_confined hfiles hfiles' hagree hlinks .new request).2

end Harbor
