import Harbor.Proofs.Session.Answers

/-!
# Which replies can be read

The daemon writes whatever reply it has, and the reader of replies has limits. Two kinds of
replies can be beyond them: an error that tells a long name back in a sentence, and a
document from a file that is too large. All others are read back as they were written,
their texts on one line, and nothing else is taken from the stream.

Main results:

* `Reply.reads_iff`: a reply is read back exactly when it is within the limits.
* `output_serveFrom`: a conversation writes the replies to the requests that it reads.
* `reads_exchange_iff`: which of them can be read.
* `get_unreadable`: one that cannot.
-/

namespace Harbor.Session

open Harbor.Frame (maxLine maxBody)
open Files (DocumentRoot)

variable {docs : DocumentRoot} {store : Store} {b : Binding} {r : Request} {reply : Reply}
  {input : Octets}

/-! ## Replies -/

theorem Reply.ensures_read (shape : ReplyShape) : Reader.Ensures (read shape) Fits := by
  refine .after fun word => ?_
  unfold readRest
  split
  · exact .after fun id => .pure trivial
  split
  · exact .after fun id => .pure trivial
  split
  · exact Frame.ensures_readField.bind fun reason hreason => .pure hreason
  split
  · exact Frame.ensures_readField.bind fun message hmessage => .pure hmessage
  split
  · cases shape with
    | document =>
      refine Frame.ensures_readField.bind fun name hname => ?_
      exact Frame.ensures_readBody.bind fun body hbody => .pure ⟨hname, hbody⟩
    | session => exact .pure trivial
    | acknowledgement => exact .pure trivial
  · exact Reader.ensures_fail _

theorem Reply.fits_received : reply.received.Fits ↔ reply.Fits := by
  cases reply <;> simp only [received, Fits, Frame.size_singleLine]

/-- A reply is read back exactly when it is within the limits. -/
theorem Reply.reads_iff {shape : ReplyShape} (hshape : reply.Suits shape) :
    Reader.Reads (read shape) reply.write reply.received ↔ reply.Fits := by
  constructor
  · intro hread
    have hfound := congrArg Prod.fst hread.apply
    exact fits_received.1 (ensures_read shape reply.write _ hfound)
  · intro hfits
    exact reads hfits hshape

/-! ## Requests and their replies -/

/-- The request that a turn reads and the reply that it writes, if it does both. -/
def exchange? (docs : DocumentRoot) (store : Store) (b : Binding) (input : Octets) :
    Option (Request × Reply) :=
  match Request.read input with
  | (.ok (some r), _) =>
    match (handle docs store b r).2.2 with
    | .ok reply => some (r, reply)
    | .error _ => none
  | _ => none

/-- The requests that a conversation reads, each with the reply to it. -/
def exchanges (docs : DocumentRoot) (store : Store) (b : Binding) (input : Octets) :
    List (Request × Reply) :=
  let t := turn docs store b input
  (exchange? docs store b input).toList ++
    match _h : t.ending? with
    | some _ => []
    | none => exchanges docs t.store t.binding t.rest
termination_by input.length
decreasing_by exact turn_shorter _h

theorem gives_of_exchange? {e : Request × Reply} (hstore : store.Fits)
    (h : exchange? docs store b input = some e) : e.1.Fits ∧ Gives docs e.1 e.2 := by
  have hread := Request.ensures_read input
  unfold exchange? at h
  generalize Request.read input = read at h hread
  rcases read with ⟨_ | _ | r, rest⟩
  · cases h
  · cases h
  · dsimp only at h
    split at h <;> cases h
    next reply hreply => exact ⟨hread _ rfl r rfl, gives_of_handle hstore hreply⟩

/-- A turn writes the reply to its request. Only a turn that ends the conversation can
    write something else: that the request cannot be read. -/
theorem output_turn (docs : DocumentRoot) (store : Store) (b : Binding) (input : Octets) :
    (turn docs store b input).output =
        (exchange? docs store b input).toList.flatMap (fun e => e.2.write) ∨
      exchange? docs store b input = none ∧ (turn docs store b input).ending?.isSome ∧
        ∃ e : Frame.Error, (turn docs store b input).output = (Reply.error e.message).write := by
  unfold turn exchange?
  generalize Request.read input = read
  rcases read with ⟨e | _ | r, rest⟩
  · dsimp only
    split
    · exact .inr ⟨rfl, rfl, e, rfl⟩
    · exact .inl rfl
  · exact .inl rfl
  · dsimp only
    generalize handle docs store b r = handled
    left
    rcases handled with ⟨store', b', _ | reply⟩
    · rfl
    · exact (List.flatMap_singleton ..).symm

theorem exchanges_of_ending {result : Except Connection.Failure Unit}
    (h : (turn docs store b input).ending? = some result) :
    exchanges docs store b input = (exchange? docs store b input).toList := by
  rw [exchanges]
  split
  · exact List.append_nil _
  · next hnone =>
    rw [h] at hnone
    cases hnone

theorem exchanges_of_turn {rest output : Octets} {store' : Store} {b' : Binding}
    (h : turn docs store b input = ⟨store', b', output, rest, none⟩) :
    exchanges docs store b input =
      (exchange? docs store b input).toList ++ exchanges docs store' b' rest := by
  rw [exchanges]
  split
  · next hsome =>
    rw [h] at hsome
    cases hsome
  · rw [h]

/-- A request that is sent is read, and its reply is the next. -/
theorem exchanges_write {store' : Store} {b' : Binding} (hr : r.WellFormed)
    (h : handle docs store b r = (store', b', .ok reply)) (rest : Octets) :
    exchanges docs store b (r.write ++ rest) = (r, reply) :: exchanges docs store' b' rest := by
  have hknown : ∀ verb, r ≠ .unknown verb := by
    rintro verb rfl
    exact hr
  have hread : Request.read (r.write ++ rest) = (.ok (some r), rest) := hr.reads rest
  rw [exchanges_of_turn (turn_of_read hread hknown h), exchange?, hread]
  dsimp only
  rw [h]
  rfl

/-- What a conversation writes are the replies to the requests that it reads, and at its
    end that a request cannot be read. -/
theorem output_serveFrom (docs : DocumentRoot) (store : Store) (b : Binding) (input : Octets) :
    ∃ parting, (serveFrom docs store b input).output =
        (exchanges docs store b input).flatMap (fun e => e.2.write) ++ parting ∧
      (parting = [] ∨ ∃ e : Frame.Error, parting = (Reply.error e.message).write) := by
  induction store, b, input using turns_induction docs with
  | ends store b input result hending =>
    rw [serveFrom_of_ending hending, exchanges_of_ending hending]
    rcases output_turn docs store b input with hreply | ⟨hnone, -, e, hparting⟩
    · exact ⟨[], by rw [List.append_nil]; exact hreply, .inl rfl⟩
    · exact ⟨(turn docs store b input).output, by rw [hnone]; rfl, .inr ⟨e, hparting⟩⟩
  | goes_on store b input store' b' output rest ht ih =>
    obtain ⟨parting, hlater, hparting⟩ := ih
    have houtput := output_turn docs store b input
    rw [ht] at houtput
    refine ⟨parting, ?_, hparting⟩
    rcases houtput with hreply | ⟨-, hsome, -⟩
    · rw [serveFrom_of_turn ht, exchanges_of_turn ht, List.flatMap_append, List.append_assoc,
        ← hlater, ← hreply]
    · cases hsome

theorem gives_of_mem_exchanges {e : Request × Reply} (hstore : store.Fits)
    (h : e ∈ exchanges docs store b input) : e.1.Fits ∧ Gives docs e.1 e.2 := by
  induction store, b, input using turns_induction docs with
  | ends store b input result hending =>
    rw [exchanges_of_ending hending, Option.mem_toList] at h
    exact gives_of_exchange? hstore h
  | goes_on store b input store' b' output rest ht ih =>
    have hturn := hstore.turn Request.ensures_read_fits docs b input
    rw [ht] at hturn
    rw [exchanges_of_turn ht, List.mem_append, Option.mem_toList] at h
    rcases h with h | h
    · exact gives_of_exchange? hstore h
    · exact ih hturn h

/-- A conversation writes the replies to the requests that it reads. One of them is read
    back, in the shape that its request calls for and without anything else being taken
    from the stream, exactly when it is no error that is too long for a line and no document
    from a file that is too large. So it is if the name in the request leaves room for a
    sentence and no file beneath the root is too large. -/
theorem reads_exchange_iff (hstore : store.Reachable) (docs : DocumentRoot) (b : Binding)
    (input : Octets) :
    (∃ parting, (serveFrom docs store b input).output =
        (exchanges docs store b input).flatMap (fun e => e.2.write) ++ parting ∧
      (parting = [] ∨ ∃ e : Frame.Error, parting = (Reply.error e.message).write)) ∧
    ∀ e ∈ exchanges docs store b input,
      (Reader.Reads (Reply.read e.1.replyShape) e.2.write e.2.received ↔
        (∀ message, e.2 = .error message → Text.size message ≤ maxLine) ∧
        ∀ name body, e.2 = .document name body → isDocumentName name →
          Text.size body ≤ maxBody) ∧
      (Text.size e.1.subject + 96 ≤ maxLine → FilesFit docs →
        Reader.Reads (Reply.read e.1.replyShape) e.2.write e.2.received) := by
  refine ⟨output_serveFrom docs store b input, fun e he => ?_⟩
  obtain ⟨hrequest, hgives⟩ := gives_of_mem_exchanges hstore.fits he
  rw [Reply.reads_iff hgives.suits]
  exact ⟨hgives.fits_iff hrequest, fun hsubject hdocs => hgives.fits hrequest hdocs hsubject⟩

/-- A key without a value, and a failure that is short enough. -/
theorem reads_exchange_unknown_key :
    let docs : DocumentRoot := ⟨.empty, []⟩
    let requests : List Request := [.openSession, .get "key"]
    let reply : Reply := .error "Unknown key key for session 1"
    Store.Reachable .new ∧
    (.get "key", reply) ∈ exchanges docs .new .unbound (requests.flatMap Request.write) ∧
    Reader.Reads (Reply.read .document) reply.write reply.received := by
  intro docs requests reply
  have hmem : (.get "key", reply) ∈
      exchanges docs .new .unbound (requests.flatMap Request.write) := by
    rw [List.flatMap_cons, exchanges_write (r := .openSession) trivial rfl, List.flatMap_cons,
      exchanges_write (r := .get "key") (by decide) rfl]
    exact .tail _ (.head _)
  have hsmall : FilesFit docs := filesFit_of_entries nofun
  obtain ⟨-, hreads⟩ := reads_exchange_iff .new docs .unbound (requests.flatMap Request.write)
  exact ⟨.new, hmem, (hreads _ hmem).2 (by decide) hsmall⟩

/-- The first session, opened and bound. -/
theorem reachable_first (docs : DocumentRoot) : (Store.live Table.new.openSession.1).Reachable := by
  have hread : Request.read Request.openSession.write = (.ok (some .openSession), []) :=
    (Request.reads (r := .openSession) trivial).apply
  have hturn := Store.Reachable.new.turn docs .unbound Request.openSession.write
  rwa [turn_of_read hread nofun rfl] at hturn

/-- A name without a value is told back. -/
theorem handleGet_first (docs : DocumentRoot) {name : String} (hname : name ≠ "")
    (hplain : ¬ isDocumentName name) :
    handleGet docs (.live Table.new.openSession.1) ⟨1⟩ name =
      .ok (.error (Error.keyNotFound ⟨1⟩ name).message) := by
  rw [handleGet, if_neg (not_or.2 ⟨hname, hplain⟩)]
  rfl

theorem size_message_first (name : String) :
    Text.size (Error.keyNotFound ⟨1⟩ name).message = Text.size name + 26 := by
  have h : (Error.keyNotFound ⟨1⟩ name).message =
      "Unknown key " ++ name ++ " for session " ++ SessionId.text ⟨1⟩ := rfl
  rw [h, Text.size_append, Text.size_append, Text.size_append]
  have h₁ : Text.size "Unknown key " = 12 := by decide
  have h₂ : Text.size " for session " = 13 := by decide
  have h₃ : Text.size (SessionId.text ⟨1⟩) = 1 := by decide
  omega

/-- A name that fits on a line, and a failure about it that does not. -/
theorem get_unreadable :
    let docs : DocumentRoot := ⟨.empty, []⟩
    let name := String.ofList (List.replicate 8190 'k')
    let store : Store := .live Table.new.openSession.1
    let reply : Reply := .error (Error.keyNotFound ⟨1⟩ name).message
    store.Reachable ∧ Text.size name ≤ maxLine ∧
    (.get name, reply) ∈ exchanges docs store (.bound ⟨1⟩) (Request.get name).write ∧
    Reply.read .document reply.write ≠ (.ok reply.received, []) := by
  intro docs name store reply
  have hlist : name.toList = List.replicate 8190 'k' := String.toList_ofList
  have hsize : Text.size name = 8190 := by
    have hascii : ∀ c ∈ List.replicate 8190 'k', c.utf8Size = 1 := by
      intro c hc
      rw [List.eq_of_mem_replicate hc]
      rfl
    rw [Text.size_ofList_of_ascii hascii, List.length_replicate]
  have hline : Frame.IsLine name := by
    intro c hc
    rw [hlist] at hc
    rw [List.eq_of_mem_replicate hc]
    decide
  have hplain : ¬ isDocumentName name := by
    rw [isDocumentName, hlist]
    decide
  have hempty : name ≠ "" := by
    intro hnil
    rw [hnil] at hsize
    cases hsize
  have hget := handleGet_first docs hempty hplain
  have hwellFormed : (Request.get name).WellFormed := ⟨hline, by rw [hsize]; decide⟩
  refine ⟨reachable_first docs, by rw [hsize]; decide, ?_, ?_⟩
  · have hhandle : handle docs store (.bound ⟨1⟩) (.get name) = (store, .bound ⟨1⟩, .ok reply) := by
      rw [handle, hget]
    have hmem := exchanges_write hwellFormed hhandle []
    rw [List.append_nil] at hmem
    rw [hmem]
    exact .head _
  · intro hread
    have hfits : reply.Fits :=
      Reply.fits_received.1 (Reply.ensures_read .document _ _ (congrArg Prod.fst hread))
    have hlong : Text.size (Error.keyNotFound ⟨1⟩ name).message ≤ maxLine := hfits
    rw [size_message_first, hsize] at hlong
    exact absurd hlong (by decide)

end Harbor.Session
