import Harbor.Files.SystemError
import Harbor.Lease.Registry

/-!
# The registry behind its socket

Datagrams are taken one at a time. One that is not a message gets no answer and
changes nothing; a longer one than any message is cut to one octet more than a
message has, so that its length still gives it away. A registry that has been
stopped answers nothing.
-/

namespace Harbor.Lease

/-- Octets of a datagram that are looked at (`RECV_BUFFER_LEN`). -/
def receiveLimit : Nat := Message.size + 1

/-- Takes one datagram: the registry after it and the datagram sent back, if any
    (`handle_datagram`). -/
def Registry.receive (g : Registry) (datagram : Octets) (now : Instant) :
    Registry × Option Octets :=
  if g.stopped then (g, none)
  else
    match Message.decode (datagram.take receiveLimit) with
    | .error _ => (g, none)
    | .ok m =>
      let (g', answer) := g.handle m now
      (g', some answer.encode)

/-- Sends the registry a datagram. Once it has been stopped nobody takes it. -/
def Registry.exchange (g : Registry) (datagram : Octets) (now : Instant) :
    Registry × Except SystemError (Option Octets) :=
  if g.stopped then (g, .error .connectionRefused)
  else
    let (g', answer) := g.receive datagram now
    (g', .ok answer)

end Harbor.Lease
