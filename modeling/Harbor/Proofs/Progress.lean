import Harbor.Proofs.Frame.Loops
import Harbor.Proofs.Session.Conversation
import Harbor.Proofs.Transfer.Conversation

/-!
# The loops end

The session daemon, the file server and the file server's client each read in a loop, and
what they read comes from a peer they do not know. Their readers make progress, so each
loop comes to its end on every finite stream, with no octet read twice.

Main results:

* `Session.progresses_request`, `Session.progresses_reply`, `Transfer.progresses_request`,
  `Transfer.progresses_reply`: every reader makes progress.
* `Session.serveLoop_ends`, `Transfer.serveLoop_ends`, `Transfer.receiveLoop_ends`: what the
  loops come to is what `serve` and `receive` give.
-/

namespace Harbor

open Files (DocumentRoot)

/-! ## Readers -/

namespace Session

theorem progresses_request : Request.read.Progresses fun r? => r? ≠ none :=
  .of_option Request.read_consumes Request.read_shorter
    (Frame.eq_nil_of_read fun verb => Reader.some_ne_none (Request.readArguments verb))

theorem progresses_reply (shape : ReplyShape) : (Reply.read shape).Progresses fun _ => True :=
  .of_forall (Reply.read_consumes shape) Reply.read_shorter

end Session

namespace Transfer

theorem progresses_request : Request.read.Progresses fun r? => r? ≠ none :=
  .of_option Request.read_consumes Request.read_shorter
    (Frame.eq_nil_of_read fun verb => Reader.some_ne_none (Request.readArguments verb))

theorem progresses_reply : Reply.read.Progresses fun _ => True :=
  .of_forall Reply.read_consumes Reply.read_shorter

end Transfer

/-! ## The session daemon -/

namespace Session

variable {docs : DocumentRoot} {store : Store} {b : Binding} {input : Octets}

/-- What a turn does is settled by what it finds when it reads. -/
theorem turn_eq_of_read_eq {input' : Octets}
    (h : (Request.read input).1 = (Request.read input').1) :
    turn docs store b input =
      { turn docs store b input' with rest := (turn docs store b input).rest } := by
  unfold turn
  generalize Request.read input = p at h ⊢
  generalize Request.read input' = p' at h ⊢
  obtain ⟨found, rest⟩ := p
  obtain ⟨found', rest'⟩ := p'
  obtain rfl : found = found' := h
  rcases found with _ | _ | r
  · rfl
  · rfl
  · dsimp only
    split <;> rfl

/-- Where a conversation stands between two turns. -/
structure Standing where
  store : Store
  binding : Binding
  /-- All that the daemon has written so far. -/
  output : Octets

/-- What the conversation comes to with a turn, or where it stands after it. -/
def Standing.after (s : Standing) (t : Turn) : Served ⊕ Standing :=
  match t.ending? with
  | some result => .inl ⟨t.store, s.output ++ t.output, result⟩
  | none => .inr ⟨t.store, t.binding, s.output ++ t.output⟩

/-- The daemon's loop: a pass is a turn. -/
def serveLoop (docs : DocumentRoot) : Loop Standing (Option Request) Served where
  reader := Request.read
  IsMessage r? := r? ≠ none
  pass s input :=
    let t := turn docs s.store s.binding input
    (s.after t, t.rest)
  progresses := progresses_request
  pass_congr s _ _ h := by rw [turn_eq_of_read_eq h]; rfl
  pass_rest s := turn_rest docs s.store s.binding
  message_of_goes_on {s s' input} h := by
    dsimp only [Standing.after] at h
    split at h
    · cases h
    · next hnone =>
      obtain ⟨r, hread⟩ := request_of_goes_on hnone
      exact ⟨some r, hread, nofun⟩

/-- What a conversation comes to from where it stands. -/
def Standing.serve (docs : DocumentRoot) (s : Standing) (input : Octets) : Served :=
  let later := serveFrom docs s.store s.binding input
  { later with output := s.output ++ later.output }

theorem computes_serveLoop (docs : DocumentRoot) :
    (serveLoop docs).Computes (Standing.serve docs) := by
  intro s input
  dsimp only [serveLoop]
  rcases hturn : turn docs s.store s.binding input with ⟨store', b', written, rest, _ | result⟩
  · dsimp only [Standing.after, Standing.serve]
    rw [serveFrom_of_turn hturn, List.append_assoc]
  · rw [Standing.serve, serveFrom_of_ending (congrArg Turn.ending? hturn), hturn]
    rfl

theorem serveLoop_ends (docs : DocumentRoot) (store : Store) (input : Octets) :
    ∃ left, (serveLoop docs).EndsWith ⟨store, .unbound, []⟩ input (serve docs store input) left :=
  (computes_serveLoop docs).ends ⟨store, .unbound, []⟩ input

end Session

/-! ## The file server -/

namespace Transfer

variable {docs : DocumentRoot} {input : Octets}

/-- What a turn does is settled by what it finds when it reads. -/
theorem turn_eq_of_read_eq {input' : Octets}
    (h : (Request.read input).1 = (Request.read input').1) :
    turn docs input = { turn docs input' with rest := (turn docs input).rest } := by
  unfold turn
  generalize Request.read input = p at h ⊢
  generalize Request.read input' = p' at h ⊢
  obtain ⟨found, rest⟩ := p
  obtain ⟨found', rest'⟩ := p'
  obtain rfl : found = found' := h
  rcases found with _ | _ | _ | _ | _ <;> rfl

/-- What a conversation in which some octets were written comes to with a turn, or what is
    written after it. -/
def outputAfter (output : Octets) (t : Turn) : Served ⊕ Octets :=
  match t.ending? with
  | some result => .inl ⟨output ++ t.output, result⟩
  | none => .inr (output ++ t.output)

/-- The server's loop: a pass is a turn. -/
def serveLoop (docs : DocumentRoot) : Loop Octets (Option Request) Served where
  reader := Request.read
  IsMessage r? := r? ≠ none
  pass output input :=
    let t := turn docs input
    (outputAfter output t, t.rest)
  progresses := progresses_request
  pass_congr output _ _ h := by rw [turn_eq_of_read_eq h]; rfl
  pass_rest _ := turn_rest docs
  message_of_goes_on {output output' input} h := by
    dsimp only [outputAfter] at h
    split at h
    · cases h
    · next hnone =>
      obtain ⟨r, hread⟩ := request_of_goes_on hnone
      exact ⟨some r, hread, nofun⟩

/-- What a conversation in which some octets were written comes to. -/
def serveAfter (docs : DocumentRoot) (output input : Octets) : Served :=
  let later := serve docs input
  { later with output := output ++ later.output }

theorem computes_serveLoop (docs : DocumentRoot) :
    (serveLoop docs).Computes (serveAfter docs) := by
  intro output input
  dsimp only [serveLoop]
  rcases hturn : turn docs input with ⟨written, rest, _ | result⟩
  · dsimp only [outputAfter, serveAfter]
    rw [serve_of_turn hturn, List.append_assoc]
  · rw [serveAfter, serve_of_ending (congrArg Turn.ending? hturn), hturn]
    rfl

theorem serveLoop_ends (docs : DocumentRoot) (input : Octets) :
    ∃ left, (serveLoop docs).EndsWith [] input (serve docs input) left :=
  (computes_serveLoop docs).ends [] input

/-! ## The file server's client -/

/-- What a reply in which some files were found comes to with an element, or the files
    after it. -/
def filesAfter (files : List FetchedFile) :
    Except Frame.Error Reply → Except Client.Error (List FetchedFile) ⊕ List FetchedFile
  | .error e => .inl (.error (.frame e))
  | .ok .done => .inl (.ok files)
  | .ok (.error message) => .inl (.error (.server message))
  | .ok (.file name contents) => .inr (files ++ [⟨name, contents⟩])

/-- The client's loop: a pass reads one element. -/
def receiveLoop : Loop (List FetchedFile) Reply (Except Client.Error (List FetchedFile)) where
  reader := Reply.read
  IsMessage _ := True
  pass files incoming :=
    let (element, rest) := Reply.read incoming
    (filesAfter files element, rest)
  progresses := progresses_reply
  pass_congr files _ _ h := congrArg (filesAfter files) h
  pass_rest _ _ := rfl
  message_of_goes_on {files files' incoming} h := by
    rcases hread : (Reply.read incoming).1 with e | element
    · dsimp only at h
      rw [hread] at h
      cases h
    · exact ⟨element, rfl, trivial⟩

/-- What the client receives after some files. -/
def receiveAfter (files : List FetchedFile) (incoming : Octets) :
    Except Client.Error (List FetchedFile) :=
  (receive incoming).1.map (files ++ ·)

theorem computes_receiveLoop : receiveLoop.Computes receiveAfter := by
  intro files incoming
  dsimp only [receiveLoop, receiveAfter, receive, readListing]
  rcases hread : Reply.read incoming with ⟨e | ⟨name, contents⟩ | _ | message, rest⟩
  · rw [listing_of_error hread]
    rfl
  · have hfile : Reply.read incoming = (.ok (FetchedFile.mk name contents).element, rest) := hread
    rw [listing_after_file hfile]
    dsimp only [filesAfter, receiveAfter, receive, readListing]
    rcases listing rest with ⟨_ | _ | later, left⟩
    · rfl
    · rfl
    · simp only [Except.map, List.append_assoc, List.singleton_append]
  · rw [listing_done hread]
    simp only [Except.map, List.append_nil, filesAfter]
  · rw [listing_error hread]
    rfl

theorem receiveAfter_nil (incoming : Octets) : receiveAfter [] incoming = (receive incoming).1 := by
  rw [receiveAfter]
  cases (receive incoming).1 <;> rfl

theorem receiveLoop_ends (incoming : Octets) :
    ∃ left, receiveLoop.EndsWith [] incoming (receive incoming).1 left := by
  rw [← receiveAfter_nil]
  exact computes_receiveLoop.ends [] incoming

end Transfer

/-- The four readers leave a tail of what they were given, fewer octets after a message, and
    report the end of the stream only where it is. Each of the three loops comes to its
    result within one read more than there are octets, and reads none of them twice. -/
theorem readers_progress_and_loops_end :
    Session.Request.read.Progresses (fun r? => r? ≠ none) ∧
    (∀ shape, (Session.Reply.read shape).Progresses fun _ => True) ∧
    Transfer.Request.read.Progresses (fun r? => r? ≠ none) ∧
    Transfer.Reply.read.Progresses (fun _ => True) ∧
    (∀ docs store input, ∃ left, (Session.serveLoop docs).EndsWith ⟨store, .unbound, []⟩ input
      (Session.serve docs store input) left) ∧
    (∀ docs input, ∃ left,
      (Transfer.serveLoop docs).EndsWith [] input (Transfer.serve docs input) left) ∧
    ∀ incoming, ∃ left,
      Transfer.receiveLoop.EndsWith [] incoming (Transfer.receive incoming).1 left :=
  ⟨Session.progresses_request, Session.progresses_reply, Transfer.progresses_request,
    Transfer.progresses_reply, Session.serveLoop_ends, Transfer.serveLoop_ends,
    Transfer.receiveLoop_ends⟩

end Harbor
