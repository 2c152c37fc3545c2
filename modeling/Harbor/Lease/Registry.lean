import Harbor.Lease.Message

/-!
# The lease registry

The registry owns a range of ports and leases each of them to at most one
service. A lease lasts while the service keeps it alive: once the keep-alive
timeout has passed since the last sign of life it has lapsed, and the next
sweep takes it back. Sweeps happen when a port is requested, so a lapsed lease
stays visible, and can still be renewed, until then.

Times are whole milliseconds since the epoch. The clock may step back; time that
has not yet come counts as no time at all. Parts of milliseconds and leap seconds
are left out: the clock that is read has no leap seconds, and a time with one in it
would be a second longer away than its number says.

Every operation is a function of the registry and, where it matters, the time.
`Registry.apply` runs one operation of the vocabulary `Operation`, and
`Registry.run` a whole history of them.
-/

namespace Harbor.Lease

/-- A point in time, in milliseconds since the epoch. -/
abbrev Instant := Int

/-- A span of time in milliseconds. -/
abbrev Span := Nat

/-- A service's hold on a port. -/
structure Lease where
  name : ServiceName
  lastAlive : Instant
  deriving DecidableEq

/-- Has `timeout` or more passed since the lease's last sign of life? -/
def Lease.isExpired (lease : Lease) (now : Instant) (timeout : Span) : Bool :=
  lease.lastAlive ≤ now && (timeout : Int) ≤ now - lease.lastAlive

/-- One port of the range and the lease on it, if any (`PortReservation`). -/
structure Reservation where
  port : Port
  lease? : Option Lease
  deriving DecidableEq

namespace Reservation

/-- Is the port free (`is_available`)? -/
def isAvailable (r : Reservation) : Bool := r.lease?.isNone

/-- The service that holds the port (`service_name`). -/
def name? (r : Reservation) : Option ServiceName := r.lease?.map Lease.name

/-- Is the port leased to this service (`is_held_by`)? -/
def isHeldBy (r : Reservation) (name : ServiceName) : Bool := r.name? == some name

/-- Is there a lease, and has it lapsed (`is_expired`)? -/
def isExpired (r : Reservation) (now : Instant) (timeout : Span) : Bool :=
  match r.lease? with
  | some lease => lease.isExpired now timeout
  | none => false

/-- The port without its lease (`PortReservation.release`). -/
def release (r : Reservation) : Reservation := { r with lease? := none }

/-- The port leased to a service from now on (`PortReservation.reserve`). -/
def reserve (r : Reservation) (name : ServiceName) (now : Instant) : Reservation :=
  { r with lease? := some ⟨name, now⟩ }

/-- The port with its lease refreshed (`PortReservation.touch`). -/
def touch (r : Reservation) (now : Instant) : Reservation :=
  { r with lease? := r.lease?.map fun lease => { lease with lastAlive := now } }

/-- The port after a sweep. -/
def sweep (r : Reservation) (now : Instant) (timeout : Span) : Reservation :=
  if r.isExpired now timeout then r.release else r

end Reservation

/-- Why the registry refuses an operation (`LeaseError`). -/
inductive Refusal where
  | allPortsBusy
  | serviceNotFound (name : ServiceName)
  deriving DecidableEq

/-- The refusal in words. -/
def Refusal.message : Refusal → String
  | allPortsBusy => "all ports are busy"
  | serviceNotFound name => s!"service not found: {name.text}"

/-- The refusal as a response carries it (`LeaseError.status`). -/
def Refusal.status : Refusal → Status
  | allPortsBusy => .allPortsBusy
  | serviceNotFound _ => .serviceNotFound

/-- The registry: its range, the ports of the range in ascending order, the keep-alive timeout, and
    whether it has been stopped (`LeaseRegistry`). -/
structure Registry where
  range : PortRange
  reservations : List Reservation
  timeout : Span
  stopped : Bool
  deriving DecidableEq

namespace Registry

/-- A registry with every port of the range free (`LeaseRegistry.new`). -/
def new (range : PortRange) (timeout : Span) : Registry :=
  { range, timeout, stopped := false, reservations := range.ports.map fun p => ⟨p, none⟩ }

/-- Number of leased ports (`leased_count`). -/
def leasedCount (g : Registry) : Nat := (g.reservations.filter fun r => !r.isAvailable).length

/-- The reservation of a port, found by its offset in the range (`reservation`). -/
def reservation? (g : Registry) (port : Port) : Option Reservation := do
  g.reservations[← g.range.offset? port]?

/-- Takes back every lease that has lapsed and counts them (`reclaim_expired`). -/
def reclaimExpired (g : Registry) (now : Instant) : Registry × Nat :=
  ({ g with reservations := g.reservations.map (·.sweep now g.timeout) },
    (g.reservations.filter (·.isExpired now g.timeout)).length)

/-- Leases the first free reservation of a list. -/
def reserveFirst (name : ServiceName) (now : Instant) :
    List Reservation → Option (List Reservation × Port)
  | [] => none
  | r :: rs =>
    if r.isAvailable then some (r.reserve name now :: rs, r.port)
    else (reserveFirst name now rs).map fun (rs', port) => (r :: rs', port)

/-- Leases the lowest free port to a service, after a sweep (`request_port`). -/
def requestPort (g : Registry) (name : ServiceName) (now : Instant) :
    Registry × Except Refusal Port :=
  let swept := (g.reclaimExpired now).1
  match reserveFirst name now swept.reservations with
  | some (reservations, port) => ({ swept with reservations }, .ok port)
  | none => (swept, .error .allPortsBusy)

/-- Changes the reservation that a service holds on a port (`held_mut`). -/
def updateHeld (g : Registry) (name : ServiceName) (port : Port)
    (change : Reservation → Reservation) : Registry × Except Refusal Unit :=
  match g.range.offset? port with
  | none => (g, .error (.serviceNotFound name))
  | some offset =>
    match g.reservations[offset]? with
    | none => (g, .error (.serviceNotFound name))
    | some r =>
      if r.port = port ∧ r.isHeldBy name then
        ({ g with reservations := g.reservations.set offset (change r) }, .ok ())
      else (g, .error (.serviceNotFound name))

/-- Refreshes the lease that a service holds on a port (`keep_alive`). -/
def keepAlive (g : Registry) (name : ServiceName) (port : Port) (now : Instant) :
    Registry × Except Refusal Unit :=
  g.updateHeld name port (·.touch now)

/-- Gives back the lease that a service holds on a port (`close_port`). -/
def closePort (g : Registry) (name : ServiceName) (port : Port) :
    Registry × Except Refusal Unit :=
  g.updateHeld name port Reservation.release

/-- The lowest port leased to a service (`lookup_port`). -/
def lookupPort (g : Registry) (name : ServiceName) : Except Refusal Port :=
  match g.reservations.find? (·.isHeldBy name) with
  | some r => .ok r.port
  | none => .error (.serviceNotFound name)

/-- Puts the registry into its final state (`LeaseRegistry.stop`). -/
def stop (g : Registry) : Registry := { g with stopped := true }

/-- The leases in port order. -/
def leases (g : Registry) : List (Port × Lease) :=
  g.reservations.filterMap fun r => r.lease?.map fun lease => (r.port, lease)

/-! ## Messages -/

/-- Applies a request and builds the response to it (`handle_message`). -/
def handle (g : Registry) (m : Message) (now : Instant) : Registry × Message :=
  match m.kind with
  | .requestPort =>
    match g.requestPort m.name now with
    | (g', .ok port) => (g', .response m.name port .success)
    | (g', .error e) => (g', .response m.name 0 e.status)
  | .keepAlive =>
    match g.keepAlive m.name m.port now with
    | (g', .ok ()) => (g', .response m.name m.port .success)
    | (g', .error e) => (g', .response m.name m.port e.status)
  | .closePort =>
    match g.closePort m.name m.port with
    | (g', .ok ()) => (g', .response m.name m.port .success)
    | (g', .error e) => (g', .response m.name m.port e.status)
  | .lookupPort =>
    match g.lookupPort m.name with
    | .ok port => (g, .response m.name port .success)
    | .error e => (g, .response m.name m.port e.status)
  | .stop => (g.stop, .response .empty 0 .success)
  | .response => (g, .response m.name m.port .invalidArg)

/-! ## Histories -/

/-- The operations of the registry. -/
inductive Operation where
  | request (name : ServiceName) (now : Instant)
  | keepAlive (name : ServiceName) (port : Port) (now : Instant)
  | close (name : ServiceName) (port : Port)
  | lookup (name : ServiceName)
  | reclaim (now : Instant)
  | stop
  | message (m : Message) (now : Instant)
  deriving DecidableEq

/-- What an operation answers. -/
inductive Outcome where
  | port (port : Port)
  | done
  | reclaimed (count : Nat)
  | answer (m : Message)
  | refused (cause : Refusal)
  deriving DecidableEq

/-- Runs one operation. -/
def apply (g : Registry) : Operation → Registry × Outcome
  | .request name now =>
    match g.requestPort name now with
    | (g', .ok port) => (g', .port port)
    | (g', .error e) => (g', .refused e)
  | .keepAlive name port now =>
    match g.keepAlive name port now with
    | (g', .ok ()) => (g', .done)
    | (g', .error e) => (g', .refused e)
  | .close name port =>
    match g.closePort name port with
    | (g', .ok ()) => (g', .done)
    | (g', .error e) => (g', .refused e)
  | .lookup name =>
    match g.lookupPort name with
    | .ok port => (g, .port port)
    | .error e => (g, .refused e)
  | .reclaim now =>
    let (g', count) := g.reclaimExpired now
    (g', .reclaimed count)
  | .stop => (g.stop, .done)
  | .message m now =>
    let (g', m') := g.handle m now
    (g', .answer m')

/-- Runs a history of operations and collects what they answer. -/
def run (g : Registry) : List Operation → Registry × List Outcome
  | [] => (g, [])
  | o :: os =>
    let (g', out) := g.apply o
    let (g'', outs) := g'.run os
    (g'', out :: outs)

end Registry

end Harbor.Lease
