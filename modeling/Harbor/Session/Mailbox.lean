import Harbor.Session.Table

/-!
# The keeper of the session table

One keeper owns the table. Callers put commands into its mailbox, each under a
ticket of its own; the keeper takes them out in the order in which they came in,
performs each on the table, and leaves the result under the ticket until the
caller collects it. A caller may go away at any time: its command is performed
all the same, and its result is dropped.

`Mailbox.ask` is what a caller does that nobody disturbs.
-/

namespace Harbor.Session

/-- What a caller identifies its command by. -/
abbrev Ticket := Nat

/-- The keeper's table, the commands that wait, and the results that wait (`SessionActor`). -/
structure Mailbox where
  table : Table
  queue : List (Ticket × Table.Command)
  results : Dictionary Ticket (Except Error Table.Answer)
  /-- The tickets whose callers still wait. -/
  waiting : List Ticket

namespace Mailbox

/-- The mailbox of a new table. -/
def new : Mailbox := ⟨.new, [], .empty, []⟩

instance : Inhabited Mailbox := ⟨new⟩

/-- A caller sends a command and waits (`SessionHandle.send`). -/
def send (m : Mailbox) (ticket : Ticket) (c : Table.Command) : Mailbox :=
  { m with queue := m.queue ++ [(ticket, c)], waiting := ticket :: m.waiting }

/-- The keeper performs the command that has waited longest (`SessionActor.run`). -/
def work (m : Mailbox) : Mailbox :=
  match m.queue with
  | [] => m
  | (ticket, c) :: rest =>
    let (table, result) := m.table.perform c
    { m with
      table
      queue := rest
      results := if ticket ∈ m.waiting then m.results.insert ticket result else m.results }

/-- A caller collects its result. -/
def collect (m : Mailbox) (ticket : Ticket) : Mailbox × Option (Except Error Table.Answer) :=
  match m.results.get? ticket with
  | some result =>
    ({ m with results := m.results.erase ticket, waiting := m.waiting.erase ticket }, some result)
  | none => (m, none)

/-- A caller goes away. -/
def leave (m : Mailbox) (ticket : Ticket) : Mailbox :=
  { m with results := m.results.erase ticket, waiting := m.waiting.erase ticket }

/-- A caller sends a command, the keeper performs it, and the caller collects the
    result. -/
def ask (m : Mailbox) (ticket : Ticket) (c : Table.Command) :
    Mailbox × Option (Except Error Table.Answer) :=
  ((m.send ticket c).work).collect ticket

end Mailbox

end Harbor.Session
