import Std.Async.Signal
import Std.Async.TCP
import Std.Async.Timer
import Std.Async.UDP
import Harbor.Host

/-!
# The machine that the commands run on

The host whose effects are those of the operating system. All that is decided
here is when to wait: what a datagram or a request is answered with is decided by
the functions that a host is given.

A request for files is answered on a survey of what its name leads to, made when it has
come. Files and directories that may not be read are part of it as such. A file that fails
to be read for a reason of its own, such as a failing disk, counts as missing.
-/

namespace Harbor.Machine

open Std.Async (Async Signal Selectable Selector)
open Std.Async.TCP (Socket.Client Socket.Server)

/-! ## Addresses and failures -/

/-- An address as the system takes it. -/
def systemAddress (address : Net.SocketAddress) : Std.Net.SocketAddress :=
  match address.ip with
  | .v4 a b c d => .v4 ⟨.ofParts a b c d, address.port⟩
  | .v6 groups => .v6 ⟨⟨groups⟩, address.port⟩

/-- Any port of every interface that reaches an address. -/
def anyPort (address : Net.SocketAddress) : Net.SocketAddress :=
  match address.ip with
  | .v4 _ _ _ _ => ⟨.any, 0, 0⟩
  | .v6 _ => ⟨.v6 (.replicate 8 0), 0, 0⟩

/-- The system's number of a failure, which may come with its sign reversed. -/
def positive (code : UInt32) : Nat :=
  if 2 * code.toNat < UInt32.size then code.toNat else UInt32.size - code.toNat

/-- The failure that the system reports. -/
def systemError (e : IO.Error) : SystemError :=
  match e with
  | .alreadyExists _ code details | .inappropriateType _ code details
  | .invalidArgument _ code details | .noSuchThing _ code details
  | .permissionDenied _ code details | .resourceExhausted _ code details
  | .noFileOrDirectory _ code details | .interrupted _ code details
  | .otherError code details | .resourceBusy code details | .resourceVanished code details
  | .unsupportedOperation code details | .hardwareFault code details
  | .unsatisfiedConstraints code details | .illegalOperation code details
  | .protocolError code details | .timeExpired code details =>
    .ofNumber (positive code) details
  | .unexpectedEof => .other 0 "unexpected end of file"
  | .userError message => .other 0 message

/-- Runs something that the system may refuse. -/
def attempt {α : Type} (act : IO α) : IO (Except SystemError α) := do
  match ← act.toBaseIO with
  | .ok a => return .ok a
  | .error e => return .error (systemError e)

/-- Octets as the system takes them. -/
def packed (octets : Octets) : ByteArray := ⟨octets.toArray⟩

/-- Milliseconds since 1970. -/
def now : IO Lease.Instant := do
  return (← Std.Time.Timestamp.now).toMillisecondsSinceUnixEpoch.toInt

/-! ## Datagrams -/

/-- Sends a datagram and waits for one back. -/
def exchange (address : Net.SocketAddress) (datagram : Octets) (nanos : Nat) :
    IO (Except Client.Error (Option Octets)) := do
  let socket ← Std.Async.UDP.Socket.mk
  match ← attempt (socket.bind (systemAddress (anyPort address))) with
  | .error e => return .error (.system e)
  | .ok () =>
    match ← attempt (socket.connect (systemAddress address)) with
    | .error e => return .error (.connect address e)
    | .ok () =>
      let time : Std.Time.Millisecond.Offset := .ofNat ((nanos + 999999) / 1000000)
      let answer : Async (Option Octets) := do
        socket.send (packed datagram)
        Async.race
          (do return some (← socket.recv (.ofNat Lease.receiveLimit)).1.toList)
          (do Std.Async.sleep time; return none)
      match ← attempt answer.block with
      | .error e => return .error (.system e)
      | .ok r => return .ok r

/-- What ends a server. The signals stay caught after the first has come, so that a
    server ends in good order. -/
def endings : IO (Array Signal.Waiter) := do
  #[Signal.sigterm, Signal.sigint].mapM fun signal => do
    discard (← Signal.Waiter.mk signal true).wait
    Signal.Waiter.mk signal false

/-- Answers datagrams until the registry is stopped or a signal comes. -/
partial def answerDatagrams (socket : Std.Async.UDP.Socket) (signals : Array Signal.Waiter)
    (g : Lease.Registry) : Async Unit := do
  if g.stopped then return
  let received ← Selectable.one <|
    #[.case (socket.recvSelector (.ofNat Lease.receiveLimit)) fun r => return some r] ++
      signals.map fun s => .case s.selector fun _ => return none
  match received with
  | none => return
  | some (datagram, sender) =>
    let (g', answer) := g.receive datagram.toList (← now)
    if let some octets := answer then
      try socket.send (packed octets) sender catch _ => pure ()
    answerDatagrams socket signals g'

/-- Runs the registry on an address. -/
def serveRegistry (address : Net.SocketAddress) (g : Lease.Registry) :
    IO (Except SystemError Unit) := do
  let socket ← Std.Async.UDP.Socket.mk
  match ← attempt (socket.bind (systemAddress address)) with
  | .error e => return .error e
  | .ok () =>
    (answerDatagrams socket (← endings) g).block
    return .ok ()

/-! ## Connections of a client -/

/-- The connections that have been made. -/
abbrev Connections := IO.Ref (Array Socket.Client)

/-- Makes a connection. -/
def connect (connections : Connections) (address : Net.SocketAddress) :
    IO (Except SystemError Nat) := do
  let socket ← Socket.Client.mk
  match ← attempt (socket.connect (systemAddress address)).block with
  | .error e => return .error e
  | .ok () => connections.modifyGet fun all => (.ok all.size, all.push socket)

/-- Does something with a connection. -/
def withConnection {α : Type} (connections : Connections) (connection : Nat)
    (act : Socket.Client → Async α) : IO (Except SystemError α) := do
  match (← connections.get)[connection]? with
  | some socket => attempt (act socket).block
  | none => return .error (.other 9 "Bad file descriptor")

/-- Most octets received at once. -/
def chunkSize : UInt64 := 65536

/-- Receives until enough is there or the peer has ended. -/
partial def collect (socket : Socket.Client) (atHand : Octets) (isEnough : Octets → Bool) :
    Async Octets := do
  if isEnough atHand then return atHand
  match ← socket.recv? chunkSize with
  | none => return atHand
  | some chunk => collect socket (atHand ++ chunk.toList) isEnough

/-! ## Files -/

/-- The contents of a file. -/
def readFile (path : String) : IO (Except SystemError Octets) := do
  return (← attempt (IO.FS.readBinFile path)).map ByteArray.toList

/-- Is there anything at a path? -/
def pathExists (path : String) : IO Bool := do
  match ← readFile path with
  | .error .noEntry | .error .notDirectory => return false
  | _ => return true

/-- Makes a directory and writes the plain ones among files into it. -/
def saveFiles (directory : String) (files : List Transfer.FetchedFile) :
    IO (Except Client.Error (List String)) := do
  let write : IO (List String) := do
    if directory != "" then IO.FS.createDirAll directory
    (files.filter fun f => Transfer.isPlain f.name).mapM fun f => do
      let path := Files.joined directory f.name
      IO.FS.writeFile path f.contents
      return path
  return (← attempt write).mapError .system

/-- Puts at a place what is at a path: a directory, or what reading comes to. A path that is
    refused may lead through a directory that cannot be entered, so that the place above has
    to be one; and links that go round are as good as one to itself. -/
def look (files : Files.FileSystem) (place : Files.Path) (path : String) :
    IO Files.FileSystem := do
  match ← readFile path with
  | .ok contents => return files.place place (.file contents)
  | .error e =>
    if ← ((← IO.currentDir) / path).isDir then return files.place place .directory
    match e with
    | .accessDenied =>
      return ((files.place place.dropLast .directory).place place (.file [])).forbid place
    | .tooManyLinks => return files.place place (.link (place.getLast?.getD []))
    | _ => return files

/-- The part of the file system beneath a directory that a path of names leads through, with
    what is directly in the directory that it leads to, as far as it may be read. -/
def survey (root : String) (names : List Files.Name) : IO Files.DocumentRoot := do
  let start := Files.stepsOf (Text.encode root)
  let mut place := start
  let mut path := root
  let mut files ← look .empty place path
  for name in names do
    place := place ++ [name]
    path := Files.joined path (Text.decodeLossy name)
    files ← look files place path
  let directory := (← IO.currentDir) / path
  if ← directory.isDir then
    match ← attempt directory.readDir with
    | .error _ => files := files.forbid place
    | .ok entries =>
      for entry in entries do
        if let .ok about ← attempt entry.path.symlinkMetadata then
          if about.type == .file then
            files ← look files (place ++ [Text.encode entry.fileName]) entry.path.toString
  return ⟨files, start⟩

/-- The part of the file system that a name asks for. -/
def surveyFor (root : String) (name : String) : IO Files.DocumentRoot := do
  match Files.resolve [] name with
  | .ok names => survey root names
  | .error _ => return ⟨.empty, []⟩

/-! ## Connections of a server -/

/-- What a server keeps for a connection, and how it answers the octets at hand. Gives
    the state after it, what is written, what is left and whether the connection ends. -/
structure Conversation (σ : Type) where
  start : σ
  isReady : Octets → Bool
  turn : σ → Octets → IO (σ × Octets × Octets × Bool)

/-- The conversations of the session daemon. -/
def sessions (root : String) (store : IO.Ref Session.Store) :
    Conversation Session.Binding where
  start := .unbound
  isReady octets := (Session.Request.read.settled? octets).isSome
  turn binding octets := do
    let docs ← match Session.Request.read octets with
      | (.ok (some (.get name)), _) => surveyFor root name
      | _ => pure ⟨.empty, []⟩
    let t ← store.modifyGet fun s =>
      let t := Session.turn docs s binding octets
      (t, t.store)
    return (t.binding, t.output, t.rest, t.ending?.isSome)

/-- The conversations of the file server. -/
def transfers (root : String) : Conversation Unit where
  start := ()
  isReady octets := (Transfer.Request.read.settled? octets).isSome
  turn _ octets := do
    let docs ← match Transfer.Request.read octets with
      | (.ok (some (.get name)), _) => surveyFor root name
      | _ => pure ⟨.empty, []⟩
    let t := Transfer.turn docs octets
    return ((), t.output, t.rest, t.ending?.isSome)

/-- Holds a conversation to its end. -/
partial def converse {σ : Type} (c : Conversation σ) (socket : Socket.Client) (state : σ)
    (atHand : Octets) : Async Unit := do
  let octets ← collect socket atHand c.isReady
  let (state', output, rest, ends) ← (c.turn state octets : IO _)
  if output != [] then socket.send (packed output)
  if ends then socket.shutdown else converse c socket state' rest

/-- What a server waits for. -/
inductive Event where
  | connection (socket : Socket.Client)
  | interval
  | ending

/-- Answers connections until a signal comes. -/
partial def answerConnections {σ : Type} (socket : Socket.Server)
    (signals : Array Signal.Waiter) (c : Conversation σ) (beat : IO Unit)
    (interval : Std.Time.Millisecond.Offset) (clock : Selector Unit) : Async Unit := do
  let event : Event ← Selectable.one <|
    #[.case socket.acceptSelector fun s => return Event.connection s,
      .case clock fun _ => return Event.interval] ++
      signals.map fun s => .case s.selector fun _ => return Event.ending
  match event with
  | .ending => return
  | .interval =>
    (beat : IO Unit)
    answerConnections socket signals c beat interval (← Selector.sleep interval)
  | .connection peer =>
    Std.Async.background do try converse c peer c.start [] catch _ => pure ()
    answerConnections socket signals c beat interval clock

/-- Runs a server on an address. -/
def serveConnections (address : Net.SocketAddress) (service : Service) (beat : IO Unit)
    (intervalMillis : Nat) : IO (Except SystemError Unit) := do
  let socket ← Socket.Server.mk
  let listen : IO Unit := do
    socket.bind (systemAddress address)
    socket.listen 1024
  match ← attempt listen with
  | .error e => return .error e
  | .ok () =>
    let interval : Std.Time.Millisecond.Offset := .ofNat intervalMillis
    let serve {σ : Type} (c : Conversation σ) : Async Unit := do
      answerConnections socket (← endings) c beat interval (← Selector.sleep interval)
    match service with
    | .sessions root => (serve (sessions root (← IO.mkRef .new))).block
    | .transfer root => (serve (transfers root)).block
    return .ok ()

/-! ## The host -/

/-- Reads a stream to its end. -/
partial def readToEnd (stream : IO.FS.Stream) (sofar : ByteArray) : IO ByteArray := do
  let chunk ← stream.read 65536
  if chunk.isEmpty then return sofar else readToEnd stream (sofar ++ chunk)

/-- The machine as a host. -/
def host : IO (Host IO) := do
  let connections ← IO.mkRef #[]
  return {
    exchange
    connect := connect connections
    send := fun n octets => withConnection connections n fun s => s.send (packed octets)
    collect := fun n atHand isEnough =>
      withConnection connections n fun s => collect s atHand isEnough
    finish := fun n => withConnection connections n fun s => s.shutdown
    input := do return (← readToEnd (← IO.getStdin) .empty).toList
    print := fun text => do
      let out ← IO.getStdout
      out.putStr text
      out.flush
    report := IO.eprint
    saveFiles
    environment := do
      return ⟨← IO.getEnv "SVC_CONFIG", ← IO.getEnv "XDG_CONFIG_HOME", ← IO.getEnv "HOME"⟩
    pathExists
    readFile
    serveRegistry
    serveConnections }

end Harbor.Machine
