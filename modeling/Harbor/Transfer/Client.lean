import Harbor.Client.Error
import Harbor.Transfer.Service

/-!
# The file server's client

A get writes one request and reads the elements of the reply up to `done` or an
error.
-/

namespace Harbor.Transfer

/-- A file as it was received. -/
structure FetchedFile where
  name : String
  contents : String
  deriving Repr, DecidableEq

/-- The files before `done`, or the error that ends the reply, and what follows. -/
def listing (bs : Octets) : Except Frame.Error (Except String (List FetchedFile)) × Octets :=
  match _h : Reply.read bs with
  | (.error e, rest) => (.error e, rest)
  | (.ok .done, rest) => (.ok (.ok []), rest)
  | (.ok (.error message), rest) => (.ok (.error message), rest)
  | (.ok (.file name contents), rest) =>
    match listing rest with
    | (.ok (.ok files), rest') => (.ok (.ok (⟨name, contents⟩ :: files)), rest')
    | other => other
termination_by bs.length
decreasing_by
  have := @Reply.read_shorter bs (.file name contents)
  rw [_h] at this
  exact this rfl

/-- Reads the elements of a reply to its end. -/
def readListing : Reader (Except String (List FetchedFile)) := listing

/-- Reads the reply to a get from what the server has sent (`get_directory`). -/
def receive (incoming : Octets) : Except Client.Error (List FetchedFile) × Octets :=
  match readListing incoming with
  | (.error e, rest) => (.error (.frame e), rest)
  | (.ok (.error message), rest) => (.error (.server message), rest)
  | (.ok (.ok files), rest) => (.ok files, rest)

/-! ## Clients of one server -/

/-- What the server does with the octets at hand on a connection that stays open. -/
structure Attended where
  output : Octets
  /-- Has the server ended the connection? -/
  ended : Bool

/-- Answers the requests at hand. -/
def attend (docs : Files.DocumentRoot) (input : Octets) : Attended :=
  if input = [] then ⟨[], false⟩
  else
    let t := turn docs input
    match _h : t.ending? with
    | some _ => ⟨t.output, true⟩
    | none =>
      let later := attend docs t.rest
      ⟨t.output ++ later.output, later.ended⟩
termination_by input.length
decreasing_by exact turn_shorter _h

end Harbor.Transfer
