import Harbor.Dictionary
import Harbor.SessionId

/-!
# The session table

The table holds the open sessions, each a dictionary of values, and the id that
the next session gets. Ids count up from one and are never given out twice, even
after the session they named is closed.

`Table.perform` runs one command of the vocabulary `Command`, and `Table.run` a
whole history of them. A `Store` is the table as its users see it: while the
keeper of the table is there it acts, and afterwards everything fails.
-/

namespace Harbor.Session

/-- The values of one session (`Session`). -/
abbrev Values := Dictionary String String

/-- Why an operation on sessions fails (`SessionError`). -/
inductive Error where
  /-- The session was never opened or has been closed. -/
  | notFound (id : SessionId)
  /-- The session has no value under this key. -/
  | keyNotFound (id : SessionId) (key : String)
  /-- Every id has been given out. -/
  | idsExhausted
  /-- The keeper of the table is gone. -/
  | unavailable
  deriving Repr, DecidableEq

/-- The failure in words. -/
def Error.message : Error → String
  | notFound id => s!"Unknown session id {id.text}"
  | keyNotFound id key => s!"Unknown key {key} for session {id.text}"
  | idsExhausted => "session ids exhausted"
  | unavailable => "session table unavailable"

/-- The open sessions and the id of the next one, none when all are used up (`SessionTable`). -/
structure Table where
  sessions : Dictionary SessionId Values
  next? : Option SessionId
  deriving Repr, DecidableEq

namespace Table

/-- The table before the first session. -/
def new : Table := ⟨.empty, some .first⟩

instance : Inhabited Table := ⟨new⟩

/-- Number of open sessions. -/
def size (t : Table) : Nat := t.sessions.size

/-- The values of an open session. -/
def session? (t : Table) (id : SessionId) : Option Values := t.sessions.get? id

/-- Is the session open (`SessionTable.resume`)? -/
def isOpen (t : Table) (id : SessionId) : Bool := t.sessions.contains id

/-- Opens a new session without values (`SessionTable.open`). -/
def openSession (t : Table) : Table × Except Error SessionId :=
  match t.next? with
  | none => (t, .error .idsExhausted)
  | some id => (⟨t.sessions.insert id .empty, id.next?⟩, .ok id)

/-- Closes a session and forgets its values (`SessionTable.close`). -/
def close (t : Table) (id : SessionId) : Table × Except Error Unit :=
  if t.isOpen id then ({ t with sessions := t.sessions.erase id }, .ok ())
  else (t, .error (.notFound id))

/-- The value under a key of a session (`SessionTable.get`). -/
def get (t : Table) (id : SessionId) (key : String) : Except Error String :=
  match t.session? id with
  | none => .error (.notFound id)
  | some values =>
    match values.get? key with
    | none => .error (.keyNotFound id key)
    | some value => .ok value

/-- Stores a value under a key of a session, in place of the one before (`SessionTable.put`). -/
def put (t : Table) (id : SessionId) (key value : String) : Table × Except Error Unit :=
  match t.session? id with
  | none => (t, .error (.notFound id))
  | some values => ({ t with sessions := t.sessions.insert id (values.insert key value) }, .ok ())

/-! ## Histories -/

/-- The operations on sessions (`SessionCommand`). -/
inductive Command where
  | openSession
  | resume (id : SessionId)
  | close (id : SessionId)
  | get (id : SessionId) (key : String)
  | put (id : SessionId) (key value : String)
  deriving Repr, DecidableEq

/-- What an operation on sessions finds. -/
inductive Answer where
  | opened (id : SessionId)
  | isOpen (yes : Bool)
  | done
  | value (text : String)
  deriving Repr, DecidableEq

/-- Runs one command (`handle_command`). -/
def perform (t : Table) : Command → Table × Except Error Answer
  | .openSession =>
    let (t', result) := t.openSession
    (t', result.map .opened)
  | .resume id => (t, .ok (.isOpen (t.isOpen id)))
  | .close id =>
    let (t', result) := t.close id
    (t', result.map fun _ => .done)
  | .get id key => (t, (t.get id key).map .value)
  | .put id key value =>
    let (t', result) := t.put id key value
    (t', result.map fun _ => .done)

/-- Runs a history of commands and collects what they find. -/
def run (t : Table) : List Command → Table × List (Except Error Answer)
  | [] => (t, [])
  | c :: cs =>
    let (t', result) := t.perform c
    let (t'', results) := t'.run cs
    (t'', result :: results)

end Table

/-- The session table as its users reach it (`SessionHandle`). -/
inductive Store where
  | live (table : Table)
  | gone
  deriving Repr, DecidableEq

namespace Store

instance : Inhabited Store := ⟨.live .new⟩

/-- The store of a new table. -/
def new : Store := .live .new

/-- Opens a new session (`SessionHandle.open`). -/
def openSession : Store → Store × Except Error SessionId
  | live t => let (t', result) := t.openSession; (live t', result)
  | gone => (gone, .error .unavailable)

/-- Is the session open (`SessionHandle.resume`)? -/
def resume : Store → SessionId → Except Error Bool
  | live t, id => .ok (t.isOpen id)
  | gone, _ => .error .unavailable

/-- Closes a session (`SessionHandle.close`). -/
def close : Store → SessionId → Store × Except Error Unit
  | live t, id => let (t', result) := t.close id; (live t', result)
  | gone, _ => (gone, .error .unavailable)

/-- The value under a key of a session (`SessionHandle.get`). -/
def get : Store → SessionId → String → Except Error String
  | live t, id, key => t.get id key
  | gone, _, _ => .error .unavailable

/-- Stores a value under a key of a session (`SessionHandle.put`). -/
def put : Store → SessionId → String → String → Store × Except Error Unit
  | live t, id, key, value => let (t', result) := t.put id key value; (live t', result)
  | gone, _, _, _ => (gone, .error .unavailable)

end Store

end Harbor.Session
