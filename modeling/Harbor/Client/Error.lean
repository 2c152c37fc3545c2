import Harbor.Files.SystemError
import Harbor.Frame.Reader
import Harbor.Lease.Message
import Harbor.Net.Address
import Harbor.SessionId
import Harbor.Text.Duration

/-!
# What a client can run into

The clients of the registry, the session daemon and the file server fail for one
of these causes. `message` says which, and `causes` lists what lies beneath it,
as a report shows it.
-/

namespace Harbor.Client

open Net (SocketAddress)
open Lease (Status)

/-- Why a call of a client fails (`ClientError`). -/
inductive Error where
  /-- The server cannot be reached. -/
  | connect (address : SocketAddress) (cause : SystemError)
  /-- The operating system refuses something else. -/
  | system (cause : SystemError)
  /-- The registry did not answer in time. -/
  | timeout (registry : SocketAddress) (nanos : Nat)
  /-- The registry's answer is not a message. -/
  | badResponse (cause : Lease.Message.Error)
  /-- The registry answered with another status than success. -/
  | refused (service : ServiceName) (status : Status)
  /-- The server's reply cannot be read. -/
  | frame (cause : Frame.Error)
  /-- The server answered with an error. -/
  | server (message : String)
  /-- The server does not let the session be resumed. -/
  | rejected (reason : String)
  /-- The server answered about another session than the one asked for. -/
  | sessionMismatch (expected actual : SessionId)
  /-- The server's reply makes no sense here. -/
  | unexpectedReply (shown : String)
  /-- The name asked for is not a service name. -/
  | invalidArgument (cause : ServiceName.Error)
  deriving DecidableEq

namespace Error

/-- The failure in words. -/
def message : Error → String
  | connect address cause => s!"Failed to connect to {address.text}: {cause.message}"
  | system cause => s!"I/O error: {cause.message}"
  | timeout registry nanos =>
    s!"No response from registry at {registry.text} within {Text.durationText nanos}"
  | badResponse cause => s!"Invalid registry response: {cause.message}"
  | refused service status => s!"Registry refused {service.text}: {status.text}"
  | frame cause => s!"Protocol error: {cause.message}"
  | server message => s!"Server error: {message}"
  | rejected reason => s!"Session rejected: {reason}"
  | sessionMismatch expected actual =>
    s!"Server echoed session {actual.text}, expected {expected.text}"
  | unexpectedReply shown => s!"Unexpected reply: {shown}"
  | invalidArgument cause => s!"Invalid argument: {cause.message}"

/-- What lies beneath the failure, outermost first. -/
def causes : Error → List String
  | connect _ cause => [cause.message]
  | system cause => [cause.message]
  | badResponse cause => [cause.message]
  | frame cause => [cause.message]
  | invalidArgument cause => [cause.message]
  | _ => []

/-- Did the registry say that it does not know the service (`is_not_found`)? -/
def isNotFound : Error → Bool
  | refused _ status => status == .serviceNotFound
  | _ => false

end Error

end Harbor.Client
