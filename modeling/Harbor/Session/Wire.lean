import Harbor.Frame.Line

/-!
# The session protocol on the wire

```text
open                          → accepted <id>  | error <message>
resume <id>                   → accepted <id>  | rejected <message> | error <message>
close <id>                    → closed <id>    | error <message>
get <name>                    → success <name> <length> <body> | error <message>
post <name> <length> <body>   → success        | error <message>
```

Each field is a line of its own, and a body is exactly as many octets as its
length line says. `success` is bare after a post and carries a document after a
get, so a reply is read with the shape that its request calls for.

Main results:

* `Request.read_consumes`, `Reply.read_consumes`: reading takes from the front.
* `Request.read_shorter`, `Reply.read_shorter`: a message that was read makes the unread
  octets fewer.
-/

namespace Harbor.Session

open Harbor.Frame

/-- What a client asks of the session daemon (`SdRequest`). -/
inductive Request where
  | openSession
  | resume (id : SessionId)
  | close (id : SessionId)
  | get (name : String)
  | post (name body : String)
  /-- A verb that the protocol does not have, kept so that it can be reported. -/
  | unknown (verb : String)
  deriving Repr, DecidableEq

/-- The shape of the reply that a request calls for (`SdReplyKind`). -/
inductive ReplyShape where
  /-- The reply to open, resume and close. -/
  | session
  /-- The reply to get. -/
  | document
  /-- The reply to post. -/
  | acknowledgement
  deriving Repr, DecidableEq

/-- What the session daemon answers (`SdResponse`). -/
inductive Reply where
  | accepted (id : SessionId)
  | rejected (reason : String)
  | closed (id : SessionId)
  | document (name body : String)
  | success
  | error (message : String)
  deriving Repr, DecidableEq

namespace Request

/-- The verb that introduces a request (`SdRequest.verb`). -/
def verb : Request → String
  | openSession => "open"
  | resume _ => "resume"
  | close _ => "close"
  | get _ => "get"
  | post _ _ => "post"
  | unknown verb => verb

/-- Reads the arguments that follow a verb. -/
def readArguments (verb : String) : Reader Request :=
  if verb = "open" then return openSession
  else if verb = "resume" then return resume (← readSessionId)
  else if verb = "close" then return close (← readSessionId)
  else if verb = "get" then return get (← readField)
  else if verb = "post" then do
    let name ← readField
    let body ← readBody
    return post name body
  else return unknown verb

/-- Reads one whole request, or finds that the stream has ended between requests
    (`SdRequest.read_from`). -/
def read : Reader (Option Request) := do
  match ← readLine with
  | none => return none
  | some verb => return some (← readArguments verb)

/-- The octets of a request (`SdRequest.write_to`). -/
def write (r : Request) : Octets :=
  writeLine r.verb ++ match r with
    | openSession | unknown _ => []
    | resume id | close id => writeLine id.text
    | get name => writeLine name
    | post name body => writeLine name ++ writeBody body

/-- The shape of the reply to a request. -/
def replyShape : Request → ReplyShape
  | get _ => .document
  | post _ _ => .acknowledgement
  | _ => .session

theorem readArguments_consumes (verb : String) : Reader.Consumes (readArguments verb) := by
  unfold readArguments
  split
  · exact .found _
  split
  · exact (readParsed_consumes _ _).bind fun _ => .found _
  split
  · exact (readParsed_consumes _ _).bind fun _ => .found _
  split
  · exact readField_consumes.bind fun _ => .found _
  split
  · exact readField_consumes.bind fun _ => readBody_consumes.bind fun _ => .found _
  · exact .found _

theorem read_consumes : Reader.Consumes read :=
  readLine_consumes.bind fun
    | none => .found none
    | some verb => (readArguments_consumes verb).bind fun _ => .found _

theorem read_shorter {bs : Octets} {r : Request} (h : (read bs).1 = .ok (some r)) :
    (read bs).2.length < bs.length := by
  refine readLine_bind_shorter h (fun _ => nofun) fun verb? => ?_
  cases verb? with
  | none => exact .found none
  | some verb => exact (readArguments_consumes verb).bind fun _ => .found _

end Request

namespace Reply

/-- The octets of a reply (`SdResponse.write_to`). -/
def write : Reply → Octets
  | accepted id => writeLine "accepted" ++ writeLine id.text
  | rejected reason => writeLine "rejected" ++ writeLine reason
  | closed id => writeLine "closed" ++ writeLine id.text
  | document name body => writeLine "success" ++ writeLine name ++ writeBody body
  | success => writeLine "success"
  | error message => writeLine "error" ++ writeLine message

/-- Reads what follows the first line of a reply of the given shape. -/
def readRest (shape : ReplyShape) (word : String) : Reader Reply :=
  if word = "accepted" then return accepted (← readSessionId)
  else if word = "closed" then return closed (← readSessionId)
  else if word = "rejected" then return rejected (← readField)
  else if word = "error" then return error (← readField)
  else if word = "success" then
    match shape with
    | .document => do
      let name ← readField
      let body ← readBody
      return document name body
    | _ => return success
  else Reader.fail (.malformed "reply" word)

/-- Reads one reply of the given shape (`SdResponse.read_from`). -/
def read (shape : ReplyShape) : Reader Reply := do
  readRest shape (← readField)

/-- A reply as diagnostics show it. -/
def debugText : Reply → String
  | accepted id => s!"Accepted(SessionId({id.text}))"
  | rejected reason => s!"Rejected({Text.quote reason})"
  | closed id => s!"Closed(SessionId({id.text}))"
  | document name body =>
    "Document \x7b " ++ s!"name: {Text.quote name}, body: {Text.quote body}" ++ " \x7d"
  | success => "Success"
  | error message => s!"Error({Text.quote message})"

theorem readRest_consumes (shape : ReplyShape) (word : String) :
    Reader.Consumes (readRest shape word) := by
  unfold readRest
  split
  · exact (readParsed_consumes _ _).bind fun _ => .found _
  split
  · exact (readParsed_consumes _ _).bind fun _ => .found _
  split
  · exact readField_consumes.bind fun _ => .found _
  split
  · exact readField_consumes.bind fun _ => .found _
  split
  · cases shape
    · exact .found _
    · exact readField_consumes.bind fun _ => readBody_consumes.bind fun _ => .found _
    · exact .found _
  · exact .fail _

theorem read_consumes (shape : ReplyShape) : Reader.Consumes (read shape) :=
  readField_consumes.bind (readRest_consumes shape)

theorem read_shorter {shape : ReplyShape} {bs : Octets} {r : Reply}
    (h : (read shape bs).1 = .ok r) : (read shape bs).2.length < bs.length :=
  Reader.bind_shorter h (fun _ hword => .inl (readField_shorter hword)) (readRest_consumes shape)

end Reply

end Harbor.Session
