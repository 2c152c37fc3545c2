import Harbor.Connection
import Harbor.Files.Documents
import Harbor.Session.Table
import Harbor.Session.Wire

/-!
# The session daemon

A connection is bound to at most one session:

```text
             open / resume
  unbound ──────────────────▶ bound to id
     ▲                             │
     └────────── close id ─────────┘
```

`get` and `post` need a bound connection, and `close` works on any. A name that
begins with a slash stands for a document and not for a value. Requests are read
to their end before they are answered, so a refused one leaves nothing behind on
the stream.

`handle` answers one request, `turn` reads and answers one, and `serve` holds the
whole conversation on the octets that a client sends.

Main results:

* `turn_shorter`: a turn after which the conversation goes on has consumed octets.
-/

namespace Harbor.Session

open Files (DocumentRoot DocumentError)

/-- What a connection is bound to (`SdState`). -/
inductive Binding where
  | unbound
  | bound (id : SessionId)
  deriving Repr, DecidableEq

instance : Inhabited Binding := ⟨.unbound⟩

/-- The reply to a failed operation on sessions, unless the table itself is gone
    (`session_failure`). -/
def replyToFailure : Error → Except Connection.Failure Reply
  | .unavailable => .error .tableUnavailable
  | e => .ok (.error e.message)

/-- Does the name stand for a document and not for a value? -/
def isDocumentName (name : String) : Bool := name.toList.head? == some '/'

/-- Answers a get on a bound connection (`SdService.get`). The empty name goes the way of documents,
    where it is refused. -/
def handleGet (docs : DocumentRoot) (store : Store) (id : SessionId) (name : String) :
    Except Connection.Failure Reply :=
  if name = "" ∨ isDocumentName name then
    match docs.read name with
    | .ok body => .ok (.document name body)
    | .error e => .ok (.error e.message)
  else
    match store.get id name with
    | .ok body => .ok (.document name body)
    | .error e => replyToFailure e

/-- Answers a post on a bound connection (`SdService.post`). -/
def handlePost (store : Store) (id : SessionId) (name body : String) :
    Store × Except Connection.Failure Reply :=
  if name = "" then (store, .ok (.error DocumentError.emptyName.message))
  else if isDocumentName name then (store, .ok (.error s!"Cannot post to file path {name}"))
  else
    match store.put id name body with
    | (store', .ok ()) => (store', .ok .success)
    | (store', .error e) => (store', replyToFailure e)

/-- Answers one request (`handle_request`). It fails only if no answer can be had from the table. -/
def handle (docs : DocumentRoot) (store : Store) (binding : Binding) (request : Request) :
    Store × Binding × Except Connection.Failure Reply :=
  match request, binding with
  | .openSession, .unbound =>
    match store.openSession with
    | (store', .ok id) => (store', .bound id, .ok (.accepted id))
    | (store', .error _) => (store', .unbound, .error .tableUnavailable)
  | .openSession, .bound id => (store, .bound id, .ok (.error "Session already open!"))
  | .resume id, .unbound =>
    match store.resume id with
    | .ok true => (store, .bound id, .ok (.accepted id))
    | .ok false => (store, .unbound, .ok (.rejected "Invalid session id"))
    | .error _ => (store, .unbound, .error .tableUnavailable)
  | .resume _, .bound id =>
    (store, .bound id, .ok (.error "Session already open, cannot resume!"))
  | .close id, binding =>
    match store.close id with
    | (store', .ok ()) =>
      (store', if binding = .bound id then .unbound else binding, .ok (.closed id))
    | (store', .error e) => (store', binding, replyToFailure e)
  | .get name, .bound id => (store, .bound id, handleGet docs store id name)
  | .post name body, .bound id =>
    let (store', answer) := handlePost store id name body
    (store', .bound id, answer)
  | .get _, .unbound => (store, .unbound, .ok (.error "No open session"))
  | .post _ _, .unbound => (store, .unbound, .ok (.error "No open session"))
  | .unknown verb, binding => (store, binding, .ok (.error s!"Invalid message {verb}"))

/-! ## Conversations -/

/-- One turn of a conversation. -/
structure Turn where
  store : Store
  binding : Binding
  /-- What the daemon writes. -/
  output : Octets
  /-- What the client has sent and the daemon has not read. -/
  rest : Octets
  /-- How the conversation ends with this turn, if it does. -/
  ending? : Option (Except Connection.Failure Unit)

/-- Reads one request and answers it. -/
def turn (docs : DocumentRoot) (store : Store) (binding : Binding) (input : Octets) : Turn :=
  match Request.read input with
  | (.ok none, rest) => ⟨store, binding, [], rest, some (.ok ())⟩
  | (.error e, rest) =>
    let output := if e.isViolation then (Reply.error e.message).write else []
    ⟨store, binding, output, rest, some (.error (.ofFrame e))⟩
  | (.ok (some request), rest) =>
    match handle docs store binding request with
    | (store', binding', .error e) => ⟨store', binding', [], rest, some (.error e)⟩
    | (store', binding', .ok reply) =>
      let ending? := match request with
        | .unknown verb => some (.error (.unknownVerb verb))
        | _ => none
      ⟨store', binding', reply.write, rest, ending?⟩

section

variable {docs : DocumentRoot} {store : Store} {binding : Binding} {input : Octets}

theorem turn_rest (docs : DocumentRoot) (store : Store) (binding : Binding) (input : Octets) :
    (turn docs store binding input).rest = (Request.read input).2 := by
  unfold turn
  rcases Request.read input with ⟨_ | _ | request, rest⟩
  · rfl
  · rfl
  · dsimp only
    split <;> rfl

/-- A conversation goes on only after a request. -/
theorem request_of_goes_on (h : (turn docs store binding input).ending? = none) :
    ∃ request, (Request.read input).1 = .ok (some request) := by
  unfold turn at h
  generalize Request.read input = p at h ⊢
  rcases p with ⟨_ | _ | request, rest⟩
  · cases h
  · cases h
  · exact ⟨request, rfl⟩

theorem turn_shorter (h : (turn docs store binding input).ending? = none) :
    (turn docs store binding input).rest.length < input.length := by
  obtain ⟨request, hread⟩ := request_of_goes_on h
  rw [turn_rest]
  exact Request.read_shorter hread

end

/-- What a conversation comes to. -/
structure Served where
  store : Store
  /-- All that the daemon wrote. -/
  output : Octets
  /-- How the conversation ended. -/
  result : Except Connection.Failure Unit

/-- Holds the conversation on all that a client sends before it closes. -/
def serveFrom (docs : DocumentRoot) (store : Store) (binding : Binding) (input : Octets) : Served :=
  let t := turn docs store binding input
  match _h : t.ending? with
  | some result => ⟨t.store, t.output, result⟩
  | none =>
    let later := serveFrom docs t.store t.binding t.rest
    ⟨later.store, t.output ++ later.output, later.result⟩
termination_by input.length
decreasing_by exact turn_shorter _h

/-- Serves a new connection (`SdService.serve`). -/
def serve (docs : DocumentRoot) (store : Store) (input : Octets) : Served :=
  serveFrom docs store .unbound input

end Harbor.Session
