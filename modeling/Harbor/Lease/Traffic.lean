import Harbor.Lease.Advertiser

/-!
# Advertisers and their datagrams

Any number of services advertise at one registry, each under its own name. The advertiser
of a service leases a port, refreshes the lease again and again, and closes it when it has
been told to stop:

```text
          request               keep-alive                close
   idle ──────────▶ registering ──────────▶ advertising ──────────▶ closing ──────▶ withdrawn
                         │                    ▲      │
                         ▼                    └──────┘
                      failed
```

It has one exchange under way at most. The request of an exchange and the answer to it
travel as datagrams, for any length of time, and each may be lost on its way; none comes
twice. An advertiser that has waited for too long gives the exchange up. The request may
arrive after that, and its answer goes nowhere.

Every exchange has a number of its own, so that no answer can be taken for that to another
request. The number stands for the socket that is opened for the exchange. Left out is that
the system may give a later socket the port of one that is closed, so that a late answer to
the one would reach the other.

`Step` is one step of an advertiser, of the registry or of the network, and `Run` any number
of them in any order.
-/

namespace Harbor.Lease

/-- A request that travels to the registry, by the exchange that it belongs to. -/
structure Letter where
  exchange : Nat
  sender : ServiceName
  call : Call
  deriving DecidableEq

/-- What the advertiser of a service is doing. -/
inductive Stage where
  | idle
  /-- It has asked for a port. -/
  | registering (exchange : Nat)
  /-- It did not get a port. -/
  | failed (result : Except Client.Error (Option Port))
  /-- Its lease is kept alive. A keep-alive may be under way, and it may have been told to
      stop. -/
  | advertising (port : Port) (exchange? : Option Nat) (stopping : Bool)
  /-- It is giving its port back. -/
  | closing (port : Port) (exchange : Nat)
  | withdrawn (port : Port) (result : Except Client.Error (Option Port))

namespace Stage

/-- The port that the advertiser was granted. -/
def port? : Stage → Option Port
  | advertising port _ _ | closing port _ | withdrawn port _ => some port
  | idle | registering _ | failed _ => none

/-- The request whose answer the advertiser of a service is waiting for. -/
def awaited? (name : ServiceName) : Stage → Option Letter
  | registering exchange => some ⟨exchange, name, .request name⟩
  | advertising port (some exchange) _ => some ⟨exchange, name, .keepAlive name port⟩
  | closing port exchange => some ⟨exchange, name, .close name port⟩
  | idle | failed _ | advertising _ none _ | withdrawn _ _ => none

/-- What the advertiser does when its exchange has come to something. A keep-alive that has
    failed is followed by others. -/
def settle (result : Except Client.Error (Option Port)) : Stage → Stage
  | registering _ =>
    match result with
    | .ok (some port) => advertising port none false
    | _ => failed result
  | advertising port _ stopping => advertising port none stopping
  | closing port _ => withdrawn port result
  | stage => stage

/-- The calls that the advertiser of a service can make next, and what it does then. A
    keep-alive may still be sent when it has been told to stop, but not behind the close. -/
inductive Calls (name : ServiceName) (exchange : Nat) : Stage → Call → Stage → Prop
  | request : Calls name exchange .idle (.request name) (.registering exchange)
  | keepAlive (port : Port) (stopping : Bool) :
      Calls name exchange (.advertising port none stopping) (.keepAlive name port)
        (.advertising port (some exchange) stopping)
  | close (port : Port) :
      Calls name exchange (.advertising port none true) (.close name port) (.closing port exchange)

end Stage

/-- The registry, the advertisers by the names of their services, and the datagrams that
    are on their way. -/
structure Traffic where
  registry : Registry
  stages : ServiceName → Stage
  requests : List Letter
  answers : List (Letter × Octets)
  /-- The number of the next exchange. -/
  next : Nat

namespace Traffic

/-- What can be seen of one step. -/
inductive Event where
  /-- An advertiser sends a request. -/
  | send (l : Letter)
  /-- The registry takes a request, and answers it. -/
  | handle (l : Letter) (now : Instant)
  /-- A request or the answer to it is lost. -/
  | lose (l : Letter)
  /-- An exchange comes to something, with an answer or without one. -/
  | conclude (l : Letter) (answer? : Option Octets) (result : Except Client.Error (Option Port))
  /-- An advertiser is told to stop. -/
  | stop (name : ServiceName)

/-- The service that a step is about. -/
def Event.service : Event → ServiceName
  | send l | handle l _ | lose l | conclude l _ _ => l.sender
  | stop name => name

/-- A registry with every port free, and advertisers that have not begun. -/
def new (range : PortRange) (timeout : Span) : Traffic :=
  ⟨.new range timeout, fun _ => .idle, [], [], 0⟩

/-- An advertiser goes over to something else. -/
def turnTo (t : Traffic) (name : ServiceName) (stage : Stage) : Traffic :=
  { t with stages := fun other => if other = name then stage else t.stages other }

/-- An advertiser makes a call. -/
def send (t : Traffic) (name : ServiceName) (call : Call) (stage : Stage) : Traffic :=
  { t.turnTo name stage with requests := ⟨t.next, name, call⟩ :: t.requests, next := t.next + 1 }

/-- The registry takes a request at a time, and its answer sets out. -/
def handle (t : Traffic) (l : Letter) (now : Instant) : Traffic :=
  let (registry, answer?) := t.registry.receive l.call.message.encode now
  { t with
    registry
    requests := t.requests.erase l
    answers := (answer?.map (l, ·)).toList ++ t.answers }

section

variable (clients : ServiceName → Client)

/-- What an exchange comes to. -/
def result (l : Letter) (answer? : Option Octets) : Except Client.Error (Option Port) :=
  (clients l.sender).conclude l.call answer?

/-- One step of an advertiser, of the registry or of the network. -/
inductive Step : Traffic → Event → Traffic → Prop where
  | send {t : Traffic} {name : ServiceName} {call : Call} {stage : Stage} :
      (t.stages name).Calls name t.next call stage →
      Step t (.send ⟨t.next, name, call⟩) (t.send name call stage)
  | handle {t : Traffic} {l : Letter} (now : Instant) : l ∈ t.requests →
      Step t (.handle l now) (t.handle l now)
  | loseRequest {t : Traffic} {l : Letter} : l ∈ t.requests →
      Step t (.lose l) { t with requests := t.requests.erase l }
  | loseAnswer {t : Traffic} {l : Letter} {answer : Octets} : (l, answer) ∈ t.answers →
      Step t (.lose l) { t with answers := t.answers.erase (l, answer) }
  | conclude {t : Traffic} {l : Letter} {answer : Octets} :
      (t.stages l.sender).awaited? l.sender = some l → (l, answer) ∈ t.answers →
      Step t (.conclude l (some answer) (result clients l (some answer)))
        { t.turnTo l.sender ((t.stages l.sender).settle (result clients l (some answer))) with
          answers := t.answers.erase (l, answer) }
  | giveUp {t : Traffic} {l : Letter} : (t.stages l.sender).awaited? l.sender = some l →
      Step t (.conclude l none (result clients l none))
        (t.turnTo l.sender ((t.stages l.sender).settle (result clients l none)))
  | stop {t : Traffic} {name : ServiceName} {port : Port} {exchange? : Option Nat} :
      t.stages name = .advertising port exchange? false →
      Step t (.stop name) (t.turnTo name (.advertising port exchange? true))

/-- Any number of steps, and what could be seen of them. -/
inductive Run (t : Traffic) : List Event → Traffic → Prop where
  | start : Run t [] t
  | step {es : List Event} {e : Event} {t' t'' : Traffic} :
      Run t es t' → Step clients t' e t'' → Run t (es ++ [e]) t''

end

end Traffic

end Harbor.Lease
