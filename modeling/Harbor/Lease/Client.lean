import Harbor.Client.Error
import Harbor.Lease.Server

/-!
# The registry's client

Every call is one datagram out and one back, within a time limit. A call says
which message it sends, and what it makes of the datagram that comes back or of
none coming back.
-/

namespace Harbor.Lease

open Net (IpAddress SocketAddress)

/-- A client: the registry it asks and how long it waits (`PrsClient`). -/
structure Client where
  registry : SocketAddress
  timeoutNanos : Nat
  deriving Repr, DecidableEq

/-- The time a client waits unless told otherwise, in milliseconds (`DEFAULT_TIMEOUT`). -/
def Client.defaultTimeoutMillis : Nat := 2000

/-- What can be asked of the registry. -/
inductive Call where
  | request (name : ServiceName)
  | keepAlive (name : ServiceName) (port : Port)
  | close (name : ServiceName) (port : Port)
  | lookup (name : ServiceName)
  | stop
  deriving DecidableEq

/-- The message that a call sends. -/
def Call.message : Call → Message
  | request name => .requestPort name
  | keepAlive name port => .keepAlive name port
  | close name port => .closePort name port
  | lookup name => .lookupPort name
  | stop => .stop

/-- The operation on the registry that a call stands for. -/
def Call.operation (call : Call) (now : Instant) : Registry.Operation :=
  match call with
  | request name => .request name now
  | keepAlive name port => .keepAlive name port now
  | close name port => .close name port
  | lookup name => .lookup name
  | stop => .stop

/-- Does the call answer with a port? -/
def Call.yieldsPort : Call → Bool
  | request _ | lookup _ => true
  | _ => false

namespace Client

/-- What a datagram that comes back says, whatever its status (`PrsClient.send`). -/
def response (c : Client) : Option Octets → Except Client.Error Message
  | none => .error (.timeout c.registry c.timeoutNanos)
  | some datagram =>
    match Message.decode (datagram.take receiveLimit) with
    | .error e => .error (.badResponse e)
    | .ok m => if m.kind = .response then .ok m else .error (.unexpectedReply m.text)

/-- What a call makes of the datagram that comes back: the port, for the calls that ask for one
    (`send_expecting_success`). -/
def conclude (c : Client) (call : Call) (answer : Option Octets) :
    Except Client.Error (Option Port) :=
  match c.response answer with
  | .error e => .error e
  | .ok m =>
    if m.status.isSuccess then .ok (if call.yieldsPort then some m.port else none)
    else .error (.refused call.message.name m.status)

/-- A call on a registry that can be reached. -/
def ask (c : Client) (g : Registry) (call : Call) (now : Instant) :
    Registry × Except Client.Error (Option Port) :=
  let (g', answer) := g.receive call.message.encode now
  (g', c.conclude call answer)

end Client

/-- The address of a service on a host, from the port it is leased (`resolve_service`). -/
def resolved (host : IpAddress) (port : Port) : SocketAddress := ⟨host, port, 0⟩

end Harbor.Lease
