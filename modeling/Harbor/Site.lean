import Harbor.Host

/-!
# A machine held in memory

A site is a host whose servers, connections and files are values. Datagrams and
requests are answered at once, by the same functions that answer them on a
machine. Nothing of a site happens in between, so a server is visited while it
serves and ends when its visitors have left.
-/

namespace Harbor

open Net (IpAddress SocketAddress)
open Files (FileSystem Path DocumentRoot)

namespace Site

/-- What takes the datagrams that are sent to an address. -/
inductive Post where
  | registry (g : Lease.Registry)
  /-- It never answers. -/
  | silent

/-- What takes the connections that are made to an address. -/
inductive Server where
  | sessions (root : Path) (store : Session.Store)
  | transfer (root : Path)
  /-- It never answers. -/
  | silent

/-- A connection. -/
structure Link where
  server : SocketAddress
  binding : Session.Binding
  isServed : Bool
  /-- What the server has sent and the client has not received. -/
  incoming : Octets

end Site

/-- A machine held in memory. -/
structure Site where
  /-- Is there a way to any address, even those of the machine itself? -/
  hasRoute : Bool
  files : FileSystem
  /-- The current directory. -/
  current : Path
  environment : Settings.Environment
  now : Lease.Instant
  posts : Dictionary SocketAddress Site.Post
  servers : Dictionary SocketAddress Site.Server
  links : Dictionary Nat Site.Link
  input : Octets
  printed : String
  reported : String

namespace Site

/-- A site with nothing but files. -/
def new (files : FileSystem) (current : Path) : Site :=
  ⟨true, files, current, ⟨none, none, none⟩, 0, .empty, .empty, .empty, [], "", ""⟩

/-- Has something take the datagrams that are sent to an address. -/
def postAt (s : Site) (address : SocketAddress) (post : Post) : Site :=
  { s with posts := s.posts.insert address post }

/-- Has something take the connections that are made to an address. -/
def serverAt (s : Site) (address : SocketAddress) (server : Server) : Site :=
  { s with servers := s.servers.insert address server }

/-- The registry at an address. -/
def registryAt? (s : Site) (address : SocketAddress) : Option Lease.Registry :=
  match s.posts.get? address with
  | some (.registry g) => some g
  | _ => none

/-- Does an address stand for every interface? -/
def isAny (ip : IpAddress) : Bool :=
  ip == .any || ip == .v6 (.replicate 8 0)

/-- Is this an address of the machine itself? -/
def isOwn : IpAddress → Bool
  | .v4 a b c d => a == 127 || (a, b, c, d) == (0, 0, 0, 0)
  | .v6 groups => groups.toList.take 7 == List.replicate 7 0 && (groups.toList.drop 7).all (· ≤ 1)

/-- The address in a table that takes what is sent to an address. -/
def taker? {α : Type} (table : Dictionary SocketAddress α) (address : SocketAddress) :
    Option (SocketAddress × α) :=
  table.entries.find? fun e =>
    e.1.port == address.port && (e.1.ip == address.ip || (isAny e.1.ip && isOwn address.ip))

/-- Why an address of a table cannot be had, if it cannot. -/
def bindFailure? {α : Type} (table : Dictionary SocketAddress α) (address : SocketAddress) :
    Option SystemError :=
  let clashes (other : SocketAddress) : Bool :=
    other.port == address.port && (other.ip == address.ip || isAny other.ip || isAny address.ip)
  if !isOwn address.ip then some .addressNotAvailable
  else if table.entries.any fun e => clashes e.1 then some .addressInUse
  else none

/-- Finds a way to an address, which says nothing about who listens there. -/
def reach (s : Site) (_address : SocketAddress) : Except SystemError Unit :=
  if s.hasRoute then .ok () else .error .networkUnreachable

/-- Sends a datagram and gives the one that comes back. -/
def exchange (s : Site) (address : SocketAddress) (datagram : Octets) :
    Except Client.Error (Option Octets) × Site :=
  match s.reach address with
  | .error e => (.error (.connect address e), s)
  | .ok () =>
    match taker? s.posts address with
    | none => (.error (.system .connectionRefused), s)
    | some (_, .silent) => (.ok none, s)
    | some (key, .registry g) =>
      let (g', answer) := g.exchange datagram s.now
      (answer.mapError .system, s.postAt key (.registry g'))

/-- Makes a connection. -/
def connect (s : Site) (address : SocketAddress) : Except SystemError Nat × Site :=
  match s.reach address with
  | .error e => (.error e, s)
  | .ok () =>
    match taker? s.servers address with
    | none => (.error .connectionRefused, s)
    | some (key, _) =>
      let connection := s.links.size
      (.ok connection, { s with links := s.links.insert connection ⟨key, .unbound, true, []⟩ })

/-- Writes whole requests to a connection, and has them answered. -/
def send (s : Site) (connection : Nat) (octets : Octets) : Site :=
  match s.links.get? connection with
  | none => s
  | some link =>
    if !link.isServed then s
    else
      match s.servers.get? link.server with
      | some (.sessions root store) =>
        let a := Session.attend ⟨s.files, root⟩ store link.binding octets
        let link' := { link with
          binding := a.binding, isServed := !a.ended, incoming := link.incoming ++ a.output }
        { s.serverAt link.server (.sessions root a.store) with
          links := s.links.insert connection link' }
      | some (.transfer root) =>
        let a := Transfer.attend ⟨s.files, root⟩ octets
        let link' := { link with isServed := !a.ended, incoming := link.incoming ++ a.output }
        { s with links := s.links.insert connection link' }
      | _ => s

/-- Takes what a server has sent. -/
def collect (s : Site) (connection : Nat) : Octets × Site :=
  match s.links.get? connection with
  | none => ([], s)
  | some link =>
    (link.incoming, { s with links := s.links.insert connection { link with incoming := [] } })

/-- Ends the writing to a connection. -/
def finish (s : Site) (connection : Nat) : Site :=
  match s.links.get? connection with
  | none => s
  | some link => { s with links := s.links.insert connection { link with isServed := false } }

/-- Serves a connection on which a client writes, closes its writing and takes all
    that comes back. -/
def serveRaw (s : Site) (address : SocketAddress) (octets : Octets) : Octets × Site :=
  match taker? s.servers address with
  | some (key, .sessions root store) =>
    let served := Session.serve ⟨s.files, root⟩ store octets
    (served.output, s.serverAt key (.sessions root served.store))
  | some (_, .transfer root) => ((Transfer.serve ⟨s.files, root⟩ octets).output, s)
  | _ => ([], s)

/-- The server that a service is at the start. -/
def serverOf (s : Site) : Service → Server
  | .sessions root => .sessions (s.files.placeOf s.current root) .new
  | .transfer root => .transfer (s.files.placeOf s.current root)

/-- A site as a host. While it serves it is visited. -/
def host {n : Type → Type} [Monad n] (visit : StateT Site n Unit) : Host (StateT Site n) where
  exchange address datagram _ := modifyGet fun s => s.exchange address datagram
  connect address := modifyGet fun s => s.connect address
  send connection octets := modifyGet fun s => (.ok (), s.send connection octets)
  collect connection atHand _ := modifyGet fun s =>
    let (octets, s') := s.collect connection
    (.ok (atHand ++ octets), s')
  finish connection := modifyGet fun s => (.ok (), s.finish connection)
  input := return (← get).input
  print text := modify fun s => { s with printed := s.printed ++ text }
  report text := modify fun s => { s with reported := s.reported ++ text }
  saveFiles directory files := modifyGet fun s =>
    let (fs, result) :=
      Transfer.saveFiles s.files (Files.startOf s.current directory) directory files
    (result, { s with files := fs })
  environment := return (← get).environment
  pathExists path := return (← get).files.writtenExists (← get).current path
  readFile path := return (← get).files.readWritten (← get).current path
  serveRegistry address g := do
    let s ← get
    match bindFailure? s.posts address with
    | some e => return .error e
    | none =>
      set (s.postAt address (.registry g))
      visit
      modify fun s => { s with posts := s.posts.erase address }
      return .ok ()
  serveConnections address service _ _ := do
    let s ← get
    match bindFailure? s.servers address with
    | some e => return .error e
    | none =>
      set (s.serverAt address (s.serverOf service))
      visit
      modify fun s => { s with servers := s.servers.erase address }
      return .ok ()

end Site

end Harbor
