import Harbor.Command.Conduct
import Harbor.Machine

/-!
# The program

The first argument chooses between the client, `svc`, and the servers, `svcd`; the
others are the command's own.

A name in parentheses at a definition, as in `read_line` at `Frame.readLine`, is the one
that the definition has in the suite.
-/

/-- Runs the client or a server, and gives the exit code. -/
def main (arguments : List String) : IO UInt32 := do
  let host ← Harbor.Machine.host
  match arguments with
  | "svc" :: rest => Harbor.Command.Client.conduct host rest
  | "svcd" :: rest => Harbor.Command.Daemon.conduct host rest
  | _ =>
    IO.eprint (Harbor.Command.Client.usage ++ "\n" ++ Harbor.Command.Daemon.usage)
    return 2
