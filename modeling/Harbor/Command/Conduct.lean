import Harbor.Command.Client
import Harbor.Command.Daemon

/-!
# Running a command

What a command leaves behind: what it printed and its exit code, which is zero
for success, one for a failure that has been reported, and two for arguments that
are not understood.
-/

namespace Harbor.Command

variable {m : Type → Type} [Monad m]

/-- Does what arguments ask for, and gives the exit code. -/
def conduct (host : Host m) (name usage : String) (asked : Except Stop (ExceptT Report m Unit)) :
    m UInt32 := do
  match asked with
  | .error .help => do host.print usage; return 0
  | .error .version => do host.print s!"{name} {versionText}\n"; return 0
  | .error .misuse => do host.report usage; return 2
  | .ok task =>
    match ← task.run with
    | .ok () => return 0
    | .error r => do host.report r.text; return 1

/-- How the client's command line is used. -/
def Client.usage : String :=
  "Usage: svc [--prs ADDRESS] [--timeout-ms MILLIS] COMMAND\n\n" ++
  "  prs request SERVICE | keep-alive SERVICE PORT | close SERVICE PORT | lookup SERVICE | stop\n" ++
  "  sd [--server ADDRESS] [--host IP] [--service NAME] [--open | --resume ID] [--close ID]\n" ++
  "     [--get NAME | --post NAME]\n" ++
  "  ft [--server ADDRESS] [--host IP] [--service NAME] --dir DIRECTORY [--out DIRECTORY]\n"

/-- How the servers' command line is used. -/
def Daemon.usage : String :=
  "Usage: svcd [--config FILE] COMMAND\n\n" ++
  "  prs [-p PORT] [-s FIRST] [-e LAST] [-t SECONDS]\n" ++
  "  sd [--prs ADDRESS] [--name NAME] [--root DIRECTORY]\n" ++
  "  ft [--prs ADDRESS] [--name NAME] [--root DIRECTORY]\n"

/-- Runs the client's command line. -/
def Client.conduct (host : Host m) (arguments : List String) : m UInt32 :=
  Command.conduct host commandName usage
    ((Invocation.ofArguments? arguments).map fun i => i.run host)

/-- Runs the servers' command line. -/
def Daemon.conduct (host : Host m) (arguments : List String) : m UInt32 :=
  Command.conduct host commandName usage
    ((Invocation.ofArguments? arguments).map fun i => i.run host)

end Harbor.Command
