import Harbor.PortRange
import Harbor.ServiceName

/-!
# Registry datagrams

Every message to or from the port registry is one datagram of 54 octets: a kind,
a service name in a field of 50 octets padded with NULs, a port with its high
octet first, and a status. The status means something in a response only;
requests carry success.

`encode` and `decode` are the two directions. A datagram is judged in a fixed
order: its length, its kind, its status and last its name.
-/

namespace Harbor.Lease

/-- What a message asks for, or that it answers (`MessageType`). -/
inductive Kind where
  | requestPort
  | keepAlive
  | closePort
  | lookupPort
  | stop
  | response
  deriving Repr, DecidableEq

/-- The code of a kind on the wire. -/
def Kind.code : Kind → UInt8
  | requestPort => 0
  | keepAlive => 1
  | closePort => 2
  | lookupPort => 3
  | stop => 4
  | response => 5

/-- The kind with a given code (`MessageType.try_from`). -/
def Kind.ofCode? (code : UInt8) : Option Kind :=
  if code = 0 then some requestPort
  else if code = 1 then some keepAlive
  else if code = 2 then some closePort
  else if code = 3 then some lookupPort
  else if code = 4 then some stop
  else if code = 5 then some response
  else none

/-- The kind in words (`MessageType.as_str`). -/
def Kind.text : Kind → String
  | requestPort => "REQUEST_PORT"
  | keepAlive => "KEEP_ALIVE"
  | closePort => "CLOSE_PORT"
  | lookupPort => "LOOKUP_PORT"
  | stop => "STOP"
  | response => "RESPONSE"

/-- The outcome that a response carries. The registry itself only answers with
    success, service not found, all ports busy and invalid argument. -/
inductive Status where
  | success
  | serviceInUse
  | serviceNotFound
  | allPortsBusy
  | invalidArg
  | undefinedError
  deriving Repr, DecidableEq

/-- The code of a status on the wire. -/
def Status.code : Status → UInt8
  | success => 0
  | serviceInUse => 1
  | serviceNotFound => 2
  | allPortsBusy => 3
  | invalidArg => 4
  | undefinedError => 5

/-- The status with a given code (`Status.try_from`). -/
def Status.ofCode? (code : UInt8) : Option Status :=
  if code = 0 then some success
  else if code = 1 then some serviceInUse
  else if code = 2 then some serviceNotFound
  else if code = 3 then some allPortsBusy
  else if code = 4 then some invalidArg
  else if code = 5 then some undefinedError
  else none

/-- The status in words (`Status.as_str`). -/
def Status.text : Status → String
  | success => "SUCCESS"
  | serviceInUse => "SERVICE_IN_USE"
  | serviceNotFound => "SERVICE_NOT_FOUND"
  | allPortsBusy => "ALL_PORTS_BUSY"
  | invalidArg => "INVALID_ARG"
  | undefinedError => "UNDEFINED_ERROR"

/-- Is the outcome a success (`Status.is_success`)? -/
def Status.isSuccess (s : Status) : Bool := s == success

@[simp] theorem Kind.ofCode?_code (k : Kind) : ofCode? k.code = some k := by cases k <;> rfl

@[simp] theorem Status.ofCode?_code (s : Status) : ofCode? s.code = some s := by cases s <;> rfl

/-- One message of the registry protocol (`PrsMessage`). -/
structure Message where
  kind : Kind
  name : ServiceName
  port : Port
  status : Status
  deriving DecidableEq

namespace Message

/-! ## The messages of the protocol -/

/-- Asks for a port (`PrsMessage.request_port`). -/
def requestPort (name : ServiceName) : Message := ⟨.requestPort, name, 0, .success⟩

/-- Refreshes a held lease (`PrsMessage.keep_alive`). -/
def keepAlive (name : ServiceName) (port : Port) : Message := ⟨.keepAlive, name, port, .success⟩

/-- Gives a held lease back (`PrsMessage.close_port`). -/
def closePort (name : ServiceName) (port : Port) : Message := ⟨.closePort, name, port, .success⟩

/-- Asks for the port of a service (`PrsMessage.lookup_port`). -/
def lookupPort (name : ServiceName) : Message := ⟨.lookupPort, name, 0, .success⟩

/-- Asks the registry to stop (`PrsMessage.stop`). -/
def stop : Message := ⟨.stop, .empty, 0, .success⟩

/-- Answers a request (`PrsMessage.response`). -/
def response (name : ServiceName) (port : Port) (status : Status) : Message :=
  ⟨.response, name, port, status⟩

/-- The message in words, `{RESPONSE, SVC1, 40000, SUCCESS}`. -/
def text (m : Message) : String :=
  "\x7b" ++ s!"{m.kind.text}, {m.name.text}, {m.port}, {m.status.text}" ++ "\x7d"

/-! ## The datagram of a message -/

/-- Octets of every datagram (`PRS_MESSAGE_LEN`). -/
def size : Nat := 1 + ServiceName.maxSize + 2 + 1

/-- Why a datagram is not a message (`PrsCodecError`). -/
inductive Error where
  | wrongLength (length : Nat)
  | unknownKind (code : UInt8)
  | unknownStatus (code : UInt8)
  | badName (cause : ServiceName.Error)
  deriving Repr, DecidableEq

/-- The fault in words. -/
def Error.message : Error → String
  | wrongLength length => s!"datagram is {length} bytes (expected {size})"
  | unknownKind code => s!"unknown message type: {code}"
  | unknownStatus code => s!"unknown status: {code}"
  | badName cause => s!"invalid service name: {cause.message}"

/-- The name field: the name and as many NULs as fill it up. -/
def nameField (name : ServiceName) : Octets :=
  Text.encode name.text ++ List.replicate (ServiceName.maxSize - Text.size name.text) 0

/-- The datagram of a message (`PrsMessage.encode`). -/
def encode (m : Message) : Octets :=
  m.kind.code :: (nameField m.name ++
    [UInt8.ofNat (m.port.toNat / 256), UInt8.ofNat (m.port.toNat % 256), m.status.code])

/-- The port of two octets, the high one first. -/
def portOf (high low : UInt8) : Port := UInt16.ofNat (256 * high.toNat + low.toNat)

/-- The name in a name field: the octets before the first NUL. -/
def nameOf (field : Octets) : Except Error ServiceName :=
  let octets := field.takeWhile (· != 0)
  match Text.decode? octets with
  | none => .error (.badName (.notAscii (Text.decodeLossy octets)))
  | some text =>
    match ServiceName.ofText? text with
    | .ok name => .ok name
    | .error cause => .error (.badName cause)

/-- The message of a datagram (`PrsMessage.decode`). -/
def decode (datagram : Octets) : Except Error Message :=
  match datagram with
  | [] => .error (.wrongLength 0)
  | kindCode :: fields =>
    match fields.drop ServiceName.maxSize with
    | [high, low, statusCode] =>
      match Kind.ofCode? kindCode, Status.ofCode? statusCode with
      | none, _ => .error (.unknownKind kindCode)
      | _, none => .error (.unknownStatus statusCode)
      | some kind, some status =>
        match nameOf (fields.take ServiceName.maxSize) with
        | .error e => .error e
        | .ok name => .ok ⟨kind, name, portOf high low, status⟩
    | _ => .error (.wrongLength datagram.length)

theorem length_nameField (name : ServiceName) :
    (nameField name).length = ServiceName.maxSize := by
  have := name.fits
  simp only [nameField, List.length_append, Text.length_encode, List.length_replicate]
  omega

theorem length_encode (m : Message) : m.encode.length = size := by
  simp [encode, length_nameField, size]; omega

end Message

end Harbor.Lease
