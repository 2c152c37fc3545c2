import Harbor.Command.Report
import Harbor.Command.Values
import Harbor.Host

/-!
# The servers' command line

`prs` runs the registry, `sd` the session daemon and `ft` the file server, each
until it is asked to end. Options override the settings file, which overrides the
defaults. The daemon and the file server lease the port that they listen on and
give it back at the end, whether or not they could serve.

`Invocation.ofArguments?` is what a command line asks for and `Invocation.run`
does it.
-/

namespace Harbor.Command.Daemon

open Net (SocketAddress)

/-- Options of a server that advertises itself. -/
structure Overrides where
  registry? : Option SocketAddress
  name? : Option String
  root? : Option String
  deriving Repr, DecidableEq

/-- The server to run, with what its options say. -/
inductive Task where
  | registry (port? first? last? : Option Port) (timeoutSeconds? : Option UInt64)
  | sessions (overrides : Overrides)
  | transfer (overrides : Overrides)
  deriving Repr, DecidableEq

/-- A command line that is understood. -/
structure Invocation where
  /-- The settings file, if it is not the usual one. -/
  settingsFile? : Option String
  task : Task
  deriving Repr, DecidableEq

/-! ## Arguments -/

/-- The name under which the command is run. -/
def commandName : String := "svcd"

/-- Options that every level accepts. -/
def everywhere : List Parameter := [option "config" none pathValue?]

/-- The options of the registry. -/
def registryGrammar : Grammar :=
  .command
    (levelOf (everywhere ++
      [option "port" (some 'p') portValue?, option "start" (some 's') portValue?,
        option "end" (some 'e') portValue?, option "timeout" (some 't') numberValue?])) []

/-- The options of a server that advertises itself. -/
def serviceGrammar : Grammar :=
  .command
    (levelOf (everywhere ++
      [option "prs" none SocketAddress.ofText?, option "name" none some,
        option "root" none pathValue?])) []

/-- The whole command line. -/
def grammar : Grammar :=
  .command (levelOf everywhere)
    [("prs", registryGrammar), ("sd", serviceGrammar), ("ft", serviceGrammar)]

/-- What the options of a server that advertises itself say. -/
def Overrides.ofReading (r : Reading) : Overrides :=
  ⟨r.get? "prs" SocketAddress.ofText?, r.value? "name", r.value? "root"⟩

/-- The server that arguments tell about. -/
def Task.ofReading? (r : Reading) : Option Task :=
  match r.path with
  | ["prs"] =>
    some <| .registry (r.get? "port" portValue?) (r.get? "start" portValue?)
      (r.get? "end" portValue?) (r.get? "timeout" numberValue?)
  | ["sd"] => some (.sessions (.ofReading r))
  | ["ft"] => some (.transfer (.ofReading r))
  | _ => none

/-- What a command line asks for. -/
def Invocation.ofArguments? (arguments : List String) : Except Stop Invocation := do
  let r ← grammar.read arguments
  match Task.ofReading? r with
  | some task => return ⟨r.value? "config", task⟩
  | none => .error .misuse

/-! ## Settings -/

/-- The settings about advertising with the registry that options name
    (`apply_service_overrides`). -/
def Overrides.advertising (o : Overrides) (s : Settings.Advertising) : Settings.Advertising :=
  { s with registry := o.registry?.getD s.registry }

/-- Settings with what options say instead (`apply_overrides`). -/
def Task.override (s : Settings) : Task → Settings
  | registry port? first? last? timeoutSeconds? =>
    let r := s.registry
    { s with registry :=
      { r with
        port := port?.getD r.port
        firstPort := first?.getD r.firstPort
        lastPort := last?.getD r.lastPort
        timeoutSeconds := timeoutSeconds?.getD r.timeoutSeconds } }
  | sessions o =>
    { s with
      advertising := o.advertising s.advertising
      sessions := ⟨o.name?.getD s.sessions.serviceName, o.root?.getD s.sessions.documentRoot⟩ }
  | transfer o =>
    { s with
      advertising := o.advertising s.advertising
      transfer := ⟨o.name?.getD s.transfer.serviceName, o.root?.getD s.transfer.root⟩ }

/-! ## Serving -/

variable {m : Type → Type} [Monad m]

/-- Goes on with settings that are accepted. -/
def accept {α : Type} : Except Settings.Error α → ExceptT Report m α
  | .ok a => return a
  | .error e => throw (.ofSettings e)

/-- The settings that hold before options. -/
def Invocation.settings (i : Invocation) (host : Host m) : ExceptT Report m Settings := do
  match i.settingsFile? with
  | some path => accept (Settings.ofFile path (← host.readFile path))
  | none =>
    let usual : m (Except Settings.Error Settings) := do
      Settings.load host.pathExists host.readFile (← host.environment)
    accept (← usual)

/-- Runs the registry (`run_prs`). -/
def runRegistry (host : Host m) (s : Settings.Registry) : ExceptT Report m Unit := do
  let range ← accept s.range
  let address : SocketAddress := ⟨s.bindAddress, s.port, 0⟩
  match ← host.serveRegistry address (.new range s.timeoutMillis) with
  | .ok () => return ()
  | .error e => throw ⟨s!"failed to bind {address.text}: {e.message}", [e.message]⟩

/-- Leases a port for a server, runs the server on it, and gives the port back (`run_advertised`).
    That the registry does not take it back is no failure of the command. -/
def runAdvertised (host : Host m) (s : Settings.Advertising) (name : ServiceName)
    (service : Service) : ExceptT Report m Unit := do
  accept s.check
  let client : Lease.Client := ⟨s.registry, 1000000 * s.timeoutMillis.toNat⟩
  match ← host.callRegistry client (.request name) with
  | .error e =>
    let context := s!"Failed to lease a port for {name.debugText} from {s.registry.text}"
    throw ((Report.ofClient e).within context)
  | .ok port? =>
    let port := port?.getD 0
    let address : SocketAddress := ⟨s.bindAddress, port, 0⟩
    let keepAlive : m Unit := discard (host.callRegistry client (.keepAlive name port))
    let served ← host.serveConnections address service keepAlive s.intervalMillis
    discard <| host.callRegistry client (.close name port)
    match served with
    | .ok () => return ()
    | .error e => throw ⟨s!"Failed to bind {address.text}: {e.message}", [e.message]⟩

/-- Does what a command line asks for (`run`). -/
def Invocation.run (i : Invocation) (host : Host m) : ExceptT Report m Unit := do
  let s := i.task.override (← i.settings host)
  match i.task with
  | .registry _ _ _ _ => runRegistry host s.registry
  | .sessions _ =>
    runAdvertised host s.advertising (← accept s.sessions.name) (.sessions s.sessions.documentRoot)
  | .transfer _ =>
    runAdvertised host s.advertising (← accept s.transfer.name) (.transfer s.transfer.root)

end Harbor.Command.Daemon
