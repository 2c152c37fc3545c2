import Harbor.Connection
import Harbor.Files.Documents
import Harbor.Transfer.Wire

/-!
# The file server

The server keeps nothing between requests. Each `get` is answered by the text
files of one directory beneath the root, in the order of their names, and then
`done`; or by one error and no file. A file whose name or contents are not text
is passed over.

`elements` is the reply to one get, `turn` reads and answers one request, and
`serve` holds the whole conversation on the octets that a client sends.

Main results:

* `turn_shorter`: a turn after which the conversation goes on has consumed octets.
-/

namespace Harbor.Transfer

open Files (DocumentRoot Path Name)

/-- The element that carries a file of a directory, if its name and contents are text. -/
def fileElement? (docs : DocumentRoot) (directory : Path) (file : Name) : Option Reply :=
  match Text.decode? file, docs.text? directory file with
  | some name, some contents => some (.file name contents)
  | _, _ => none

/-- The reply to a get (`send_directory`). -/
def elements (docs : DocumentRoot) (directory : String) : List Reply :=
  match docs.textFiles directory with
  | .error e => [.error e.message]
  | .ok (place, files) => files.filterMap (fileElement? docs place) ++ [.done]

/-- The octets of the reply to a get. -/
def replyStream (docs : DocumentRoot) (directory : String) : Octets :=
  (elements docs directory).flatMap Reply.write

/-! ## Conversations -/

/-- One turn of a conversation. -/
structure Turn where
  /-- What the server writes. -/
  output : Octets
  /-- What the client has sent and the server has not read. -/
  rest : Octets
  /-- How the conversation ends with this turn, if it does. -/
  ending? : Option (Except Connection.Failure Unit)

/-- Reads one request and answers it. -/
def turn (docs : DocumentRoot) (input : Octets) : Turn :=
  match Request.read input with
  | (.ok none, rest) => ⟨[], rest, some (.ok ())⟩
  | (.error e, rest) =>
    let output := if e.isViolation then (Reply.error e.message).write else []
    ⟨output, rest, some (.error (.ofFrame e))⟩
  | (.ok (some (.get directory)), rest) => ⟨replyStream docs directory, rest, none⟩
  | (.ok (some .exit), rest) => ⟨[], rest, some (.ok ())⟩
  | (.ok (some (.unknown verb)), rest) =>
    ⟨(Reply.error s!"Invalid message {verb}").write, rest, some (.error (.unknownVerb verb))⟩

theorem turn_rest (docs : DocumentRoot) (input : Octets) :
    (turn docs input).rest = (Request.read input).2 := by
  unfold turn
  rcases Request.read input with ⟨_ | _ | _ | _ | _, rest⟩ <;> rfl

/-- A conversation goes on only after a request. -/
theorem request_of_goes_on {docs : DocumentRoot} {input : Octets}
    (h : (turn docs input).ending? = none) :
    ∃ request, (Request.read input).1 = .ok (some request) := by
  unfold turn at h
  generalize Request.read input = p at h ⊢
  rcases p with ⟨_ | _ | request, rest⟩
  · cases h
  · cases h
  · exact ⟨request, rfl⟩

theorem turn_shorter {docs : DocumentRoot} {input : Octets}
    (h : (turn docs input).ending? = none) : (turn docs input).rest.length < input.length := by
  obtain ⟨request, hread⟩ := request_of_goes_on h
  rw [turn_rest]
  exact Request.read_shorter hread

/-- What a conversation comes to. -/
structure Served where
  /-- All that the server wrote. -/
  output : Octets
  /-- How the conversation ended. -/
  result : Except Connection.Failure Unit

/-- Holds the conversation on all that a client sends before it closes (`FtService.serve`). -/
def serve (docs : DocumentRoot) (input : Octets) : Served :=
  let t := turn docs input
  match _h : t.ending? with
  | some result => ⟨t.output, result⟩
  | none =>
    let later := serve docs t.rest
    ⟨t.output ++ later.output, later.result⟩
termination_by input.length
decreasing_by exact turn_shorter _h

end Harbor.Transfer
