import Harbor.Session.Mailbox

/-!
# Connections at the mailbox

The tasks of any number of connections share one keeper. A task has one command under
way at most: it waits until there is room for the command in the mailbox, then for the
result, and is free again when it has collected that. It may give up at any moment.
The command that it has put into the mailbox stays there.

```text
            issue            enter                 deliver
   idle ───────────▶ sending ──────▶ awaiting ───────────────▶ idle
                        └──────────── leave ───────────────────▶
```

Every command that enters the mailbox gets a ticket of its own, so that no result can
be collected by a task that did not ask for it.

`Step` is one step of a task or of the keeper, and `Run` any number of them in any order.
-/

namespace Harbor.Session

open Table (Command Answer)

/-- Most commands that wait in the mailbox (`COMMAND_BUFFER`). -/
def Mailbox.capacity : Nat := 100

/-- The number of a connection's task. -/
abbrev TaskId := Nat

/-- What a task is doing. -/
inductive Task where
  | idle
  /-- It waits for room in the mailbox. -/
  | sending (c : Command)
  /-- Its command has entered the mailbox, and it waits for the result. -/
  | awaiting (ticket : Ticket)
  deriving Repr, DecidableEq

/-- The mailbox and the tasks that share it. -/
structure Office where
  mailbox : Mailbox
  tasks : TaskId → Task
  /-- The ticket of the next command that enters. -/
  next : Ticket

/-- What can be seen of one step. -/
inductive Happening where
  /-- A task sets out to have a command performed. -/
  | issue (who : TaskId) (c : Command)
  /-- The command of a task enters the mailbox. -/
  | enter (who : TaskId) (c : Command)
  /-- The keeper performs a command. -/
  | perform (ticket : Ticket) (c : Command)
  /-- A task receives a result. -/
  | deliver (who : TaskId) (ticket : Ticket) (result : Except Error Answer)
  /-- A task gives up what it is waiting for. -/
  | leave (who : TaskId)

namespace Office

/-- A new table, and tasks that have not begun. -/
def new : Office := ⟨.new, fun _ => .idle, 0⟩

instance : Inhabited Office := ⟨new⟩

/-- A task goes over to something else. -/
def turnTo (o : Office) (who : TaskId) (task : Task) : Office :=
  { o with tasks := fun other => if other = who then task else o.tasks other }

/-- The command of a task enters the mailbox under the next ticket. -/
def enter (o : Office) (who : TaskId) (c : Command) : Office :=
  { o.turnTo who (.awaiting o.next) with
    mailbox := o.mailbox.send o.next c, next := o.next + 1 }

/-- One step of a task or of the keeper. -/
inductive Step : Office → Happening → Office → Prop where
  | issue {o : Office} {who : TaskId} (c : Command) : o.tasks who = .idle →
      Step o (.issue who c) (o.turnTo who (.sending c))
  | enter {o : Office} {who : TaskId} {c : Command} : o.tasks who = .sending c →
      o.mailbox.queue.length < Mailbox.capacity → Step o (.enter who c) (o.enter who c)
  | perform {o : Office} {ticket : Ticket} {c : Command} {rest : List (Ticket × Command)} :
      o.mailbox.queue = (ticket, c) :: rest →
      Step o (.perform ticket c) { o with mailbox := o.mailbox.work }
  | deliver {o : Office} {who : TaskId} {ticket : Ticket} {result : Except Error Answer} :
      o.tasks who = .awaiting ticket → (o.mailbox.collect ticket).2 = some result →
      Step o (.deliver who ticket result)
        { o.turnTo who .idle with mailbox := (o.mailbox.collect ticket).1 }
  | giveUp {o : Office} {who : TaskId} {c : Command} : o.tasks who = .sending c →
      Step o (.leave who) (o.turnTo who .idle)
  | leave {o : Office} {who : TaskId} {ticket : Ticket} : o.tasks who = .awaiting ticket →
      Step o (.leave who) { o.turnTo who .idle with mailbox := o.mailbox.leave ticket }

/-- What has happened from the beginning up to a state. -/
inductive Run : List Happening → Office → Prop where
  | new : Run [] .new
  | step {hs : List Happening} {h : Happening} {o o' : Office} :
      Run hs o → Step o h o' → Run (hs ++ [h]) o'

end Office

end Harbor.Session
