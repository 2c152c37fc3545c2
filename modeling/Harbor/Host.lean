import Harbor.Lease.Client
import Harbor.Session.Client
import Harbor.Settings.File
import Harbor.Transfer.Saving

/-!
# What commands ask of a machine

A host carries out the effects of commands: datagrams, connections, files, and
the standard streams. Commands are written against a host in any monad, so that
they run on a machine as well as on a `Site` held in memory.
-/

namespace Harbor

open Net (SocketAddress)

/-- A server that answers on connections. -/
inductive Service where
  /-- The session daemon, with the directory of its documents. -/
  | sessions (root : String)
  /-- The file server, with its directory. -/
  | transfer (root : String)
  deriving Repr, DecidableEq

/-- A machine, as commands see it. -/
structure Host (m : Type → Type) where
  /-- Sends a datagram and gives the one that comes back in time, if one does. The
      last argument is the time in nanoseconds. -/
  exchange : SocketAddress → Octets → Nat → m (Except Client.Error (Option Octets))
  /-- Makes a connection. -/
  connect : SocketAddress → m (Except SystemError Nat)
  /-- Writes to a connection. -/
  send : Nat → Octets → m (Except SystemError Unit)
  /-- Waits until what a peer has sent, after octets that are at hand, is enough or all
      that it sends, and gives it together with those. -/
  collect : Nat → Octets → (Octets → Bool) → m (Except SystemError Octets)
  /-- Ends the writing to a connection. -/
  finish : Nat → m (Except SystemError Unit)
  /-- All of the standard input. -/
  input : m Octets
  /-- Prints a text. -/
  print : String → m Unit
  /-- Prints a text where diagnostics go. -/
  report : String → m Unit
  /-- Writes the plain ones among files into a directory. -/
  saveFiles : String → List Transfer.FetchedFile → m (Except Client.Error (List String))
  /-- What the environment says about settings. -/
  environment : m Settings.Environment
  /-- Is there anything at a path? -/
  pathExists : String → m Bool
  /-- The contents of a file. -/
  readFile : String → m (Except SystemError Octets)
  /-- Answers datagrams until the registry is stopped or the machine asks to end. Fails
      if the address cannot be had. -/
  serveRegistry : SocketAddress → Lease.Registry → m (Except SystemError Unit)
  /-- Answers connections until the machine asks to end, and does something at every
      interval, in milliseconds, meanwhile. Fails if the address cannot be had. -/
  serveConnections : SocketAddress → Service → m Unit → Nat → m (Except SystemError Unit)

namespace Host

variable {m : Type → Type} [Monad m]

/-- Makes a call to the registry. -/
def callRegistry (host : Host m) (client : Lease.Client) (call : Lease.Call) :
    m (Except Client.Error (Option Port)) := do
  match ← host.exchange client.registry call.message.encode client.timeoutNanos with
  | .error e => return .error e
  | .ok answer => return client.conclude call answer

/-- Opens a connection to a server. -/
def connectTo (host : Host m) (address : SocketAddress) : m (Except Client.Error Nat) := do
  match ← host.connect address with
  | .error e => return .error (.connect address e)
  | .ok connection => return .ok connection

/-- Writes a request and reads the reply, which begins with the octets at hand. Gives
    what was read and what is left. -/
def roundTrip {α : Type} (host : Host m) (connection : Nat) (request : Octets)
    (isEnough : Octets → Bool) (receive : Octets → Except Client.Error α × Octets)
    (atHand : Octets) : m (Except Client.Error (α × Octets)) := do
  match ← host.send connection request with
  | .error e => return .error (.system e)
  | .ok () =>
    match ← host.collect connection atHand isEnough with
    | .error e => return .error (.system e)
    | .ok octets =>
      match receive octets with
      | (.error e, _) => return .error e
      | (.ok a, rest) => return .ok (a, rest)

/-- Makes a call to the session daemon. -/
def callSessions (host : Host m) (connection : Nat) (call : Session.Call) (atHand : Octets) :
    m (Except Client.Error (Session.Outcome × Octets)) :=
  let reader := Session.Reply.read call.request.replyShape
  host.roundTrip connection call.request.write (fun bs => (reader.settled? bs).isSome)
    call.receive atHand

/-- Fetches the files of a directory. -/
def fetch (host : Host m) (connection : Nat) (directory : String) (atHand : Octets) :
    m (Except Client.Error (List Transfer.FetchedFile × Octets)) :=
  host.roundTrip connection (Transfer.Request.get directory).write
    (fun bs => (Transfer.readListing.settled? bs).isSome) Transfer.receive atHand

end Host

end Harbor
