import Harbor.Frame.Line

/-!
# The file transfer protocol on the wire

```text
get <directory>  → (<file name> <length> <contents>)* done | error <message>
exit             → the connection ends without a reply
```

A reply is a stream of elements. An element whose first line is neither `done`
nor `error` is a file of that name, so files of these two names cannot be told
from the words.

Main results:

* `Request.read_shorter`, `Reply.read_shorter`: an element that was read makes the
  unread octets fewer.
-/

namespace Harbor.Transfer

open Harbor.Frame

/-- What a client asks of the file server (`FtRequest`). -/
inductive Request where
  | get (directory : String)
  | exit
  /-- A verb that the protocol does not have, kept so that it can be reported. -/
  | unknown (verb : String)
  deriving Repr, DecidableEq

/-- One element of the reply to a get (`FtReply`). -/
inductive Reply where
  | file (name contents : String)
  | done
  | error (message : String)
  deriving Repr, DecidableEq

namespace Request

/-- Reads the arguments that follow a verb. -/
def readArguments (verb : String) : Reader Request :=
  if verb = "get" then return get (← readField)
  else if verb = "exit" then return exit
  else return unknown verb

/-- Reads one request, or finds that the stream has ended between requests
    (`FtRequest.read_from`). -/
def read : Reader (Option Request) := do
  match ← readLine with
  | none => return none
  | some verb => return some (← readArguments verb)

/-- The octets of a request (`FtRequest.write_to`). -/
def write : Request → Octets
  | get directory => writeLine "get" ++ writeLine directory
  | exit => writeLine "exit"
  | unknown verb => writeLine verb

theorem readArguments_consumes (verb : String) : Reader.Consumes (readArguments verb) := by
  unfold readArguments
  split
  · exact readField_consumes.bind fun _ => .found _
  split
  · exact .found _
  · exact .found _

theorem read_consumes : Reader.Consumes read :=
  readLine_consumes.bind fun
    | none => .found none
    | some verb => (readArguments_consumes verb).bind fun _ => .found _

theorem read_shorter {bs : Octets} {r : Request} (h : (read bs).1 = .ok (some r)) :
    (read bs).2.length < bs.length := by
  refine readLine_bind_shorter h (fun _ => nofun) fun verb? => ?_
  cases verb? with
  | none => exact .found none
  | some verb => exact (readArguments_consumes verb).bind fun _ => .found _

end Request

namespace Reply

/-- The octets of an element (`FtReply.write_to`). -/
def write : Reply → Octets
  | file name contents => writeLine name ++ writeBody contents
  | done => writeLine "done"
  | error message => writeLine "error" ++ writeLine message

/-- Reads what follows the first line of an element. -/
def readRest (word : String) : Reader Reply :=
  if word = "done" then return done
  else if word = "error" then return error (← readField)
  else return file word (← readBody)

/-- Reads one element of a reply (`FtReply.read_from`). -/
def read : Reader Reply := do
  readRest (← readField)

theorem readRest_consumes (word : String) : Reader.Consumes (readRest word) := by
  unfold readRest
  split
  · exact .found _
  split
  · exact readField_consumes.bind fun _ => .found _
  · exact readBody_consumes.bind fun _ => .found _

theorem read_consumes : Reader.Consumes read :=
  readField_consumes.bind readRest_consumes

theorem read_shorter {bs : Octets} {r : Reply} (h : (read bs).1 = .ok r) :
    (read bs).2.length < bs.length :=
  Reader.bind_shorter h (fun _ hword => .inl (readField_shorter hword)) readRest_consumes

end Reply

end Harbor.Transfer
