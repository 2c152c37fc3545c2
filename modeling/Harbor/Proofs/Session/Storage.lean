import Harbor.Proofs.Session.Conversation
import Harbor.Proofs.Session.Readable
import Harbor.Session.Client

/-!
# What is stored can be had back

Any number of connections are served at one table. `Hall` is the table with what every
connection is bound to and what it has sent; in one step the daemon turns to one of them
and reads and answers its next request. Clients may send any octets.

What a session holds is `Storable`. A key is read from a line of limited size, a body is
content of limited size, and a post under the empty name or the name of a document is
refused. So a get of the key looks into the session and nowhere else, and its reply is
within the limits of replies.

Main results:

* `Hall.reachable_run`: what the daemon makes of any octets is reachable turn by turn.
* `Hall.run_serve`: a connection that is served alone is served to its end.
* `Store.Reachable.storable`: every value that is held is storable under its key.
* `retrievable_run`: every value that is held can be had back.
-/

namespace Harbor.Session

open Harbor.Frame (maxLine maxBody)
open Files (DocumentRoot)

/-! ## Connections side by side -/

/-- One connection at the daemon. -/
structure Seat where
  binding : Binding
  /-- What the client has sent and the daemon has not read. -/
  unread : Octets
  /-- Has the conversation not ended? -/
  isServed : Bool
  deriving Repr, DecidableEq

/-- The table and the connections that are served at it. -/
structure Hall where
  store : Store
  seats : Nat → Seat

namespace Hall

/-- A new table, and connections that have sent some octets each. -/
def new (inputs : Nat → Octets) : Hall := ⟨.new, fun c => ⟨.unbound, inputs c, true⟩⟩

/-- The daemon turns to a connection, with the documents as they are at that moment. -/
def step (h : Hall) (c : Nat) (docs : DocumentRoot) : Hall :=
  let seat := h.seats c
  if seat.isServed then
    let t := turn docs h.store seat.binding seat.unread
    ⟨t.store, fun other => if other = c then ⟨t.binding, t.rest, t.ending?.isNone⟩ else h.seats other⟩
  else h

/-- The daemon turns to one connection after another. -/
def run (h : Hall) (turns : List (Nat × DocumentRoot)) : Hall :=
  turns.foldl (fun h t => h.step t.1 t.2) h

variable {h : Hall} {c : Nat}

theorem reachable_run (hstore : h.store.Reachable) (turns : List (Nat × DocumentRoot)) :
    (h.run turns).store.Reachable := by
  induction turns generalizing h with
  | nil => exact hstore
  | cons t turns ih =>
    refine ih ?_
    unfold step
    dsimp only
    split
    · exact hstore.turn t.2 _ _
    · exact hstore

/-- Turns that are all given to one connection serve it to its end. -/
theorem run_serve (docs : DocumentRoot) {seat : Seat} (hseat : h.seats c = seat)
    (hserved : seat.isServed) : ∃ n, (h.run (List.replicate n (c, docs))).store =
      (serveFrom docs h.store seat.binding seat.unread).store := by
  obtain ⟨b, input, isServed⟩ := seat
  obtain rfl : isServed = true := hserved
  generalize hstore : h.store = store
  induction store, b, input using turns_induction docs generalizing h with
  | ends store b input result hending =>
    refine ⟨1, ?_⟩
    rw [serveFrom_of_ending hending]
    show (h.step c docs).store = _
    rw [step, hseat, hstore]
    rfl
  | goes_on store b input store' b' output rest ht ih =>
    have hstep : h.step c docs =
        ⟨store', fun other => if other = c then ⟨b', rest, true⟩ else h.seats other⟩ := by
      rw [step, hseat, hstore]
      dsimp only
      rw [if_pos rfl, ht]
      rfl
    obtain ⟨n, hn⟩ := ih (h := h.step c docs) (by rw [hstep]; exact if_pos rfl) (by rw [hstep])
    exact ⟨n + 1, by rw [serveFrom_of_turn ht]; exact hn⟩

end Hall

/-! ## What is held -/

/-- A key is the name of a value and not of a document, it is read from a line, and the
    value is not too large. -/
structure Storable (key value : String) : Prop where
  ne_empty : key ≠ ""
  not_document : key.toList.head? ≠ some '/'
  no_lineFeed : '\n' ∉ key.toList
  key_size : Text.size key ≤ maxLine
  value_size : Text.size value ≤ maxBody

theorem isDocumentName_eq_false_iff {name : String} :
    isDocumentName name = false ↔ name.toList.head? ≠ some '/' := by
  rw [isDocumentName, beq_eq_false_iff_ne]

theorem Request.ensures_read_storable :
    Reader.Ensures read fun found => ∀ r ∈ found, r.Puts Storable := by
  have hline := Frame.ensures_readLine_unbroken.and Frame.ensures_readLine
  have hread := ensures_read_carries (P := fun s => '\n' ∉ s.toList ∧ Text.size s ≤ maxLine)
    (fun bs line hfound s hs => ⟨(hline bs line hfound).1 s hs, (hline bs line hfound).2 s hs⟩)
    Frame.ensures_readBody
  intro bs found hfound r hr name body heq hempty hplain
  have hcarries := hread bs found hfound r hr
  rw [heq] at hcarries
  obtain ⟨⟨hfeed, hname⟩, hbody⟩ := hcarries
  exact ⟨hempty, isDocumentName_eq_false_iff.1 (Bool.eq_false_iff.2 hplain), hfeed, hname, hbody⟩

theorem Store.Reachable.storable {store : Store} (h : store.Reachable) : store.All Storable := by
  induction h with
  | new => exact Table.all_new
  | turn docs b input _ ih => exact ih.turn Request.ensures_read_storable docs b input

theorem exists_live_turn (docs : DocumentRoot) (t : Table) (b : Binding) (input : Octets) :
    ∃ t', (turn docs (.live t) b input).store = .live t' := by
  unfold turn
  rcases Request.read input with ⟨_ | _ | r, rest⟩
  · exact ⟨t, rfl⟩
  · exact ⟨t, rfl⟩
  · obtain ⟨t', d, b', answer, hhandle, -⟩ := handled docs t b r
    dsimp only
    rw [hhandle]
    cases answer <;> exact ⟨t', rfl⟩

theorem Store.Reachable.exists_live {store : Store} (h : store.Reachable) :
    ∃ t, store = .live t := by
  induction h with
  | new => exact ⟨.new, rfl⟩
  | turn docs b input _ ih =>
    obtain ⟨t, rfl⟩ := ih
    exact exists_live_turn docs t b input

/-! ## Getting it back -/

section Get

variable {t : Table} {id : SessionId} {values : Values} {key value : String}

theorem Storable.handle_get (h : Storable key value) (hvalues : t.session? id = some values)
    (hvalue : values.get? key = some value) (docs : DocumentRoot) :
    handle docs (.live t) (.bound id) (.get key) =
      (.live t, .bound id, .ok (.document key value)) := by
  have hname : ¬ (key = "" ∨ isDocumentName key) := by
    rw [not_or, Bool.not_eq_true]
    exact ⟨h.ne_empty, isDocumentName_eq_false_iff.2 h.not_document⟩
  have hget : t.get id key = .ok value := by rw [Table.get, hvalues]; dsimp only; rw [hvalue]
  rw [handle, handleGet, if_neg hname, Store.get, hget]

/-- The client takes the value from the reply, and nothing else from the stream. -/
theorem Storable.receive (h : Storable key value) (name : String) (rest : Octets) :
    (Call.get name).receive ((Reply.document key value).write ++ rest) =
      (.ok (.body value), rest) := by
  have hfits : (Reply.document key value).Fits := ⟨h.key_size, h.value_size⟩
  have hread : Reader.Reads (Reply.read .document) (Reply.document key value).write _ :=
    Reply.reads hfits rfl
  rw [Call.receive, Call.request, Request.replyShape, hread rest]
  rfl

end Get

/-- Whatever octets any number of connections send to a new table, and in whatever order
    the daemon turns to them, a key in it is a line that is neither empty nor the name of a
    document, and its value is not too large. So a connection that is bound to the session
    and gets the key is answered with the value, whatever the documents are, and its client
    has the value from the answer. -/
theorem retrievable_run (inputs : Nat → Octets) (turns : List (Nat × DocumentRoot)) :
    ∃ t, ((Hall.new inputs).run turns).store = .live t ∧
      ∀ id values key value, t.session? id = some values → values.get? key = some value →
        (key ≠ "" ∧ key.toList.head? ≠ some '/' ∧ '\n' ∉ key.toList ∧
          Text.size key ≤ 8192 ∧ Text.size value ≤ 16777216) ∧
        (∀ docs, handle docs (.live t) (.bound id) (.get key) =
          (.live t, .bound id, .ok (.document key value))) ∧
        (∀ docs input rest, Request.read input = (.ok (some (.get key)), rest) →
          turn docs (.live t) (.bound id) input =
            ⟨.live t, .bound id, (Reply.document key value).write, rest, none⟩) ∧
        ∀ name rest, (Call.get name).receive ((Reply.document key value).write ++ rest) =
          (.ok (.body value), rest) := by
  have hreachable := Hall.reachable_run (h := .new inputs) .new turns
  obtain ⟨t, ht⟩ := hreachable.exists_live
  rw [ht] at hreachable
  refine ⟨t, ht, fun id values key value hvalues hvalue => ?_⟩
  have hstorable : Storable key value := hreachable.storable id values key value hvalues hvalue
  have hhandle := hstorable.handle_get hvalues hvalue
  refine ⟨⟨hstorable.ne_empty, hstorable.not_document, hstorable.no_lineFeed, hstorable.key_size,
    hstorable.value_size⟩, hhandle, fun docs input rest hread => ?_, hstorable.receive⟩
  exact turn_of_read hread nofun (hhandle docs)

/-- A value is stored on one connection while another is bound to the same session. -/
theorem retrievable_run_resumed :
    let docs : DocumentRoot := ⟨.empty, []⟩
    let inputs : Nat → Octets := fun c =>
      Text.encode (if c = 0 then "open\npost\nkey\n5\nva\nue" else "resume\n1\n")
    let h := (Hall.new inputs).run [(0, docs), (1, docs), (0, docs)]
    let t : Table := ⟨⟨[(⟨1⟩, ⟨[("key", "va\nue")]⟩)]⟩, some ⟨2⟩⟩
    h.store = .live t ∧ (h.seats 1).binding = .bound ⟨1⟩ ∧
      handle docs (.live t) (.bound ⟨1⟩) (.get "key") =
        (.live t, .bound ⟨1⟩, .ok (.document "key" "va\nue")) := by
  intro docs inputs h t
  have hstore : h.store = .live t := by decide +kernel
  obtain ⟨t', ht', hheld⟩ := retrievable_run inputs [(0, docs), (1, docs), (0, docs)]
  obtain rfl : t = t' := Store.live.inj (hstore.symm.trans ht')
  exact ⟨hstore, by decide +kernel, (hheld ⟨1⟩ _ "key" "va\nue" rfl rfl).2.1 docs⟩

end Harbor.Session
