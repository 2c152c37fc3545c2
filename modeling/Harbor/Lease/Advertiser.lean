import Harbor.Dictionary
import Harbor.Lease.Client

/-!
# Advertising a service

A service that can be reached leases its port under its name, refreshes the lease
at intervals, and gives it back when it stops. Any datagram of these exchanges
may be lost on its way; then the exchange has no answer.

A `Fleet` is a registry together with the advertisements that are held on it, by the
names of the advertisers, and `Fleet.Event` is one step of any of them.
-/

namespace Harbor.Lease

/-- What becomes of the two datagrams of an exchange. -/
inductive Delivery where
  | complete
  | requestLost
  | answerLost
  deriving Repr, DecidableEq

/-- An exchange with the registry under a given fate. -/
def Client.askUnder (c : Client) (delivery : Delivery) (g : Registry) (call : Call)
    (now : Instant) : Registry × Except Client.Error (Option Port) :=
  match delivery with
  | .complete => c.ask g call now
  | .requestLost => (g, c.conclude call none)
  | .answerLost => ((c.ask g call now).1, c.conclude call none)

/-- A lease that is kept alive for a service (`Advertisement`). -/
structure Advertisement where
  name : ServiceName
  port : Port
  /-- Milliseconds between two keep-alives. -/
  intervalMillis : Nat
  deriving DecidableEq

/-- A registry and the advertisements held on it, each by its advertiser. -/
structure Fleet where
  registry : Registry
  held : Dictionary String Advertisement
  deriving DecidableEq

/-- One step of an advertiser (`register`, `spawn_keep_alive_task`, `withdraw`). -/
inductive Fleet.Event where
  /-- Leases a port and starts to keep it alive. -/
  | register (advertiser : String) (name : ServiceName) (intervalMillis : Nat)
  /-- Refreshes the lease. -/
  | keepAlive (advertiser : String)
  /-- Stops refreshing and gives the port back. -/
  | withdraw (advertiser : String)
  deriving DecidableEq

/-- Runs one step, and says what the registry answered if it was asked. -/
def Fleet.step (c : Client) (f : Fleet) (event : Fleet.Event) (delivery : Delivery)
    (now : Instant) : Fleet × Option (Except Client.Error (Option Port)) :=
  match event with
  | .register advertiser name intervalMillis =>
    match c.askUnder delivery f.registry (.request name) now with
    | (registry, .ok (some port)) =>
      (⟨registry, f.held.insert advertiser ⟨name, port, intervalMillis⟩⟩, some (.ok (some port)))
    | (registry, result) => ({ f with registry }, some result)
  | .keepAlive advertiser =>
    match f.held.get? advertiser with
    | none => (f, none)
    | some ad =>
      let (registry, result) := c.askUnder delivery f.registry (.keepAlive ad.name ad.port) now
      ({ f with registry }, some result)
  | .withdraw advertiser =>
    match f.held.get? advertiser with
    | none => (f, none)
    | some ad =>
      let (registry, result) := c.askUnder delivery f.registry (.close ad.name ad.port) now
      (⟨registry, f.held.erase advertiser⟩, some result)

/-- Lets a time pass, in milliseconds, after which every advertiser whose interval is
    not longer refreshes its lease. -/
def Fleet.elapse (c : Client) (f : Fleet) (millis : Nat) (now : Instant) : Fleet :=
  (f.held.entries.filter fun e => e.2.intervalMillis ≤ millis).foldl
    (fun f e => (f.step c (.keepAlive e.1) .complete now).1) f

end Harbor.Lease
