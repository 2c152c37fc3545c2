import Harbor.Command.Report
import Harbor.Command.Values
import Harbor.Host

/-!
# The client's command line

`prs` talks to the registry, `sd` makes one round of requests to a session daemon,
and `ft` fetches a directory from a file server. The daemon and the file server
are found through the registry, unless their address is given.

`Invocation.ofArguments?` is what a command line asks for and `Invocation.run`
does it.
-/

namespace Harbor.Command

open Net (IpAddress SocketAddress)

namespace Client

/-- Where a server is to be found. -/
structure Target where
  /-- Its address, which saves asking the registry. -/
  server? : Option SocketAddress
  /-- The host it runs on, if that is not the registry's. -/
  host? : Option IpAddress
  /-- The name to look up in the registry. -/
  service : String
  deriving Repr, DecidableEq

/-- One round of requests to a session daemon. -/
structure Round where
  target : Target
  opensSession : Bool
  resume? : Option SessionId
  close? : Option SessionId
  get? : Option String
  post? : Option String
  deriving Repr, DecidableEq

/-- The fetching of a directory. -/
structure Fetch where
  target : Target
  directory : String
  /-- Where the files are saved. Without it they are printed. -/
  out? : Option String
  deriving Repr, DecidableEq

/-- What a command line asks for. -/
inductive Task where
  | request (service : String)
  | keepAlive (service : String) (port : Port)
  | close (service : String) (port : Port)
  | lookup (service : String)
  | stop
  | sessions (round : Round)
  | transfer (fetch : Fetch)
  deriving Repr, DecidableEq

/-- A command line that is understood. -/
structure Invocation where
  registry : SocketAddress
  timeoutMillis : UInt64
  task : Task
  deriving Repr, DecidableEq

/-! ## Arguments -/

/-- The name under which the command is run. -/
def commandName : String := "svc"

/-- Options that every level accepts. -/
def everywhere : List Parameter :=
  [option "prs" none SocketAddress.ofText?, option "timeout-ms" none numberValue?]

/-- Options that tell where a server is to be found. -/
def targetOptions : List Parameter :=
  [option "server" none SocketAddress.ofText?, option "host" none IpAddress.ofText?,
    option "service" none some]

/-- A request to the registry with positional arguments. -/
def registryRequest (positionals : List (String → Bool)) : Grammar :=
  .command { levelOf everywhere with positionals } []

/-- The requests to the registry. -/
def registryGrammar : Grammar :=
  let service := readable (fun s => some s)
  let port := readable portValue?
  .command (levelOf everywhere)
    [("request", registryRequest [service]), ("keep-alive", registryRequest [service, port]),
      ("close", registryRequest [service, port]), ("lookup", registryRequest [service]),
      ("stop", registryRequest [])]

/-- A round of requests to a session daemon. -/
def sessionsGrammar : Grammar :=
  let own := [flag "open", option "resume" none sessionValue?, option "close" none sessionValue?,
    option "get" none some, option "post" none some]
  .command
    { levelOf (everywhere ++ targetOptions ++ own) with
      conflicts := [("open", "resume"), ("get", "post")] } []

/-- The fetching of a directory. -/
def transferGrammar : Grammar :=
  let own := [option "dir" none some, option "out" none pathValue?]
  .command { levelOf (everywhere ++ targetOptions ++ own) with required := ["dir"] } []

/-- The whole command line. -/
def grammar : Grammar :=
  .command (levelOf everywhere)
    [("prs", registryGrammar), ("sd", sessionsGrammar), ("ft", transferGrammar)]

/-- The server that arguments tell about. -/
def Target.ofReading (r : Reading) (service : String) : Target :=
  ⟨r.get? "server" SocketAddress.ofText?, r.get? "host" IpAddress.ofText?,
    (r.value? "service").getD service⟩

/-- The task that arguments tell about. -/
def Task.ofReading? (r : Reading) : Option Task :=
  match r.path with
  | ["prs", "request"] => (r.positional? 0 some).map .request
  | ["prs", "keep-alive"] => do
    return .keepAlive (← r.positional? 0 some) (← r.positional? 1 portValue?)
  | ["prs", "close"] => do return .close (← r.positional? 0 some) (← r.positional? 1 portValue?)
  | ["prs", "lookup"] => (r.positional? 0 some).map .lookup
  | ["prs", "stop"] => some .stop
  | ["sd"] =>
    some <| .sessions
      ⟨.ofReading r "SD Server", r.has "open", r.get? "resume" sessionValue?,
        r.get? "close" sessionValue?, r.value? "get", r.value? "post"⟩
  | ["ft"] => do return .transfer ⟨.ofReading r "FT Server", ← r.value? "dir", r.value? "out"⟩
  | _ => none

/-- The registry that is asked unless another is named. -/
def defaultRegistry : SocketAddress := ⟨.loopback, Settings.registryPort, 0⟩

/-- What a command line asks for. -/
def Invocation.ofArguments? (arguments : List String) : Except Stop Invocation := do
  let r ← grammar.read arguments
  match Task.ofReading? r with
  | none => .error .misuse
  | some task =>
    let registry := (r.get? "prs" SocketAddress.ofText?).getD defaultRegistry
    let timeout := (r.get? "timeout-ms" numberValue?).getD (.ofNat Lease.Client.defaultTimeoutMillis)
    return ⟨registry, timeout, task⟩

/-! ## Doing it -/

variable {m : Type → Type} [Monad m]

/-- The name of a service, or a report that it is none. -/
def nameOf (service : String) : ExceptT Report m ServiceName :=
  match ServiceName.ofText? service with
  | .ok name => return name
  | .error e => throw (.ofName e)

/-- Goes on with the outcome of a call. -/
def succeed {α : Type} (outcome : m (Except Client.Error α)) : ExceptT Report m α := do
  match ← outcome with
  | .ok a => return a
  | .error e => throw (.ofClient e)

/-- The address of a server (`locate`). -/
def Target.locate (target : Target) (host : Host m) (client : Lease.Client) :
    ExceptT Report m SocketAddress := do
  match target.server? with
  | some address => return address
  | none =>
    let name ← nameOf target.service
    match ← host.callRegistry client (.lookup name) with
    | .ok port => return Lease.resolved (target.host?.getD client.registry.ip) (port.getD 0)
    | .error e =>
      let context :=
        s!"Failed to locate {Text.quote target.service} via registry {client.registry.text}"
      throw ((Report.ofClient e).within context)

/-- Makes one round of requests to a session daemon (`run_sd`). -/
def Round.run (round : Round) (host : Host m) (client : Lease.Client) :
    ExceptT Report m Unit := do
  let hasSession := round.opensSession || round.resume?.isSome
  if !hasSession && round.close?.isNone then
    throw ⟨"Nothing to do: pass --open, --resume or --close", []⟩
  if (round.get?.isSome || round.post?.isSome) && !hasSession then
    throw ⟨"--get and --post need a session: pass --open or --resume", []⟩
  let address ← round.target.locate host client
  let connection ← succeed (host.connectTo address)
  let call (c : Session.Call) (atHand : Octets) : ExceptT Report m (Session.Outcome × Octets) :=
    succeed (host.callSessions connection c atHand)
  let mut atHand : Octets := []
  if round.opensSession then
    let (outcome, rest) ← call .openSession atHand
    if let .opened id := outcome then host.report s!"Opened session {id.text}\n"
    atHand := rest
  else if let some id := round.resume? then
    atHand := (← call (.resume id) atHand).2
  if let some name := round.get? then
    let (outcome, rest) ← call (.get name) atHand
    if let .body text := outcome then host.print text
    atHand := rest
  if let some name := round.post? then
    match Text.decode? (← host.input) with
    | none => throw ⟨"Failed to read value from stdin", ["stream did not contain valid UTF-8"]⟩
    | some body => atHand := (← call (.post name body) atHand).2
  if let some id := round.close? then
    atHand := (← call (.close id) atHand).2
    host.report s!"Closed session {id.text}\n"
  match ← host.finish connection with
  | .ok () => return ()
  | .error e => throw (.ofClient (.system e))

/-- Fetches a directory from a file server, and prints or saves its files (`run_ft`). -/
def Fetch.run (fetch : Fetch) (host : Host m) (client : Lease.Client) :
    ExceptT Report m Unit := do
  let address ← fetch.target.locate host client
  let connection ← succeed (host.connectTo address)
  let (files, _) ← succeed (host.fetch connection fetch.directory [])
  let ended ← host.send connection Transfer.Request.exit.write
  let ended ← match ended with
    | .ok () => host.finish connection
    | .error e => pure (.error e)
  if let .error e := ended then throw (.ofClient (.system e))
  match fetch.out? with
  | some out =>
    let written ← succeed (host.saveFiles out files)
    for path in written do host.report s!"Saved {path}\n"
  | none =>
    for file in files do
      host.print s!"== {file.name} ({Text.size file.contents} bytes)\n"
      host.print (file.contents ++ "\n")

/-- Does what a command line asks for (`run`). -/
def Invocation.run (i : Invocation) (host : Host m) : ExceptT Report m Unit := do
  let client : Lease.Client := ⟨i.registry, 1000000 * i.timeoutMillis.toNat⟩
  let ask (call : Lease.Call) : ExceptT Report m Unit := do
    if let some port ← succeed (host.callRegistry client call) then host.print s!"{port}\n"
  match i.task with
  | .request service => ask (.request (← nameOf service))
  | .keepAlive service port => ask (.keepAlive (← nameOf service) port)
  | .close service port => ask (.close (← nameOf service) port)
  | .lookup service => ask (.lookup (← nameOf service))
  | .stop => ask .stop
  | .sessions round => round.run host client
  | .transfer fetch => fetch.run host client

end Client

end Harbor.Command
