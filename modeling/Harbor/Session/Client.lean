import Harbor.Client.Error
import Harbor.Session.Service

/-!
# The session daemon's client

A call writes one request and reads one reply of the shape that the request calls
for. A session outlives the connection it was opened on, so it can be resumed on
another.

`Network` is one daemon with any number of clients, each on a connection of its
own, whose calls are made one after another.
-/

namespace Harbor.Session

open Files (DocumentRoot)

/-- What can be asked of the session daemon (`SdClient`). -/
inductive Call where
  | openSession
  | resume (id : SessionId)
  | close (id : SessionId)
  | get (name : String)
  | post (name body : String)
  deriving Repr, DecidableEq

/-- What a call gives when it succeeds. -/
inductive Outcome where
  | opened (id : SessionId)
  | done
  | body (text : String)
  deriving Repr, DecidableEq

namespace Call

/-- The request that a call writes. -/
def request : Call → Request
  | openSession => .openSession
  | resume id => .resume id
  | close id => .close id
  | get name => .get name
  | post name body => .post name body

/-- The call that writes a request, if the protocol has its verb. -/
def ofRequest? : Request → Option Call
  | .openSession => some .openSession
  | .resume id => some (.resume id)
  | .close id => some (.close id)
  | .get name => some (.get name)
  | .post name body => some (.post name body)
  | .unknown _ => none

/-- Succeeds if the session answered about is the one asked for (`check_echo`). -/
def checkEcho (expected actual : SessionId) : Except Client.Error Outcome :=
  if expected = actual then .ok .done else .error (.sessionMismatch expected actual)

/-- What a call makes of the reply. -/
def conclude : Call → Reply → Except Client.Error Outcome
  | _, .error message => .error (.server message)
  | openSession, .accepted id => .ok (.opened id)
  | resume id, .accepted actual => checkEcho id actual
  | resume _, .rejected reason => .error (.rejected reason)
  | close id, .closed actual => checkEcho id actual
  | get _, .document _ body => .ok (.body body)
  | post _ _, .success => .ok .done
  | _, reply => .error (.unexpectedReply reply.debugText)

/-- Reads the reply to a call from what the daemon has sent (`round_trip`). -/
def receive (call : Call) (incoming : Octets) : Except Client.Error Outcome × Octets :=
  match Reply.read call.request.replyShape incoming with
  | (.error e, rest) => (.error (.frame e), rest)
  | (.ok reply, rest) => (call.conclude reply, rest)

end Call

/-! ## Clients of one daemon -/

/-- What the daemon does with the octets at hand on a connection that stays open. -/
structure Attended where
  store : Store
  binding : Binding
  output : Octets
  /-- Has the daemon ended the connection? -/
  ended : Bool

/-- Answers the requests at hand. -/
def attend (docs : DocumentRoot) (store : Store) (binding : Binding) (input : Octets) : Attended :=
  if input = [] then ⟨store, binding, [], false⟩
  else
    let t := turn docs store binding input
    match _h : t.ending? with
    | some _ => ⟨t.store, t.binding, t.output, true⟩
    | none =>
      let later := attend docs t.store t.binding t.rest
      { later with output := t.output ++ later.output }
termination_by input.length
decreasing_by exact turn_shorter _h

/-- One connection: its binding, whether the daemon still serves it, and what the
    client has not read yet. -/
structure Link where
  binding : Binding
  isServed : Bool
  incoming : Octets
  deriving Repr, DecidableEq

/-- A connection just made. -/
def Link.new : Link := ⟨.unbound, true, []⟩

/-- A daemon and the connections to it, by the names of the clients. -/
structure Network where
  docs : DocumentRoot
  store : Store
  links : Dictionary String Link

namespace Network

/-- A new daemon without connections. -/
def new (docs : DocumentRoot) : Network := ⟨docs, .new, .empty⟩

/-- A client connects. -/
def connect (n : Network) (client : String) : Network :=
  { n with links := n.links.insert client .new }

/-- A client disconnects. -/
def disconnect (n : Network) (client : String) : Network :=
  { n with links := n.links.erase client }

/-- A client makes a call, the daemon answers it, and the client reads the reply.
    Without a connection there is no result. -/
def call (n : Network) (client : String) (c : Call) :
    Network × Option (Except Client.Error Outcome) :=
  match n.links.get? client with
  | none => (n, none)
  | some link =>
    let attended := if link.isServed then attend n.docs n.store link.binding c.request.write
      else ⟨n.store, link.binding, [], true⟩
    let (result, incoming) := c.receive (link.incoming ++ attended.output)
    let link' : Link := ⟨attended.binding, !attended.ended, incoming⟩
    ({ n with store := attended.store, links := n.links.insert client link' }, some result)

end Network

end Harbor.Session
