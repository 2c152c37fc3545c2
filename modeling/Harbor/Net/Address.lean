import Harbor.PortRange

/-!
# Addresses in words

IPv4 addresses are four decimal octets without leading zeros. IPv6 addresses are
eight groups of up to four hexadecimal digits; `::` stands for one or more groups
of zeros, and the last two groups may be written as an IPv4 address. Written out,
the first longest run of at least two zero groups becomes `::`, and an address
that stands for an IPv4 one keeps its dotted form.

A socket address adds a port after a colon; an IPv6 address then stands in
brackets and may carry a scope number after `%`.
-/

namespace Harbor.Net

/-- An IP address. -/
inductive IpAddress where
  | v4 (a b c d : UInt8)
  | v6 (groups : Vector UInt16 8)
  deriving Repr, DecidableEq

/-- An IP address and a port. -/
structure SocketAddress where
  ip : IpAddress
  port : Port
  /-- The scope of a link-local IPv6 address, zero for none. -/
  scope : UInt32
  deriving Repr, DecidableEq

/-! ## Writing -/

/-- A number in lower-case hexadecimal. -/
def hexText (n : Nat) : String := String.ofList (Nat.toDigits 16 n)

/-- Groups of an IPv6 address with colons between them. -/
def groupsText (groups : List UInt16) : String :=
  ":".intercalate (groups.map fun g => hexText g.toNat)

/-- Length of the run of zeros at the front. -/
def zeroRun (groups : List UInt16) : Nat := (groups.takeWhile (· == 0)).length

/-- Start and length of the first longest run of zeros, counting from `i`. -/
def longestZeroRun (i : Nat) : List UInt16 → Nat × Nat
  | [] => (i, 0)
  | g :: gs =>
    let here := zeroRun (g :: gs)
    let later := longestZeroRun (i + 1) gs
    if later.2 ≤ here then (i, here) else later

/-- An IPv4 address in words. -/
def dottedText (a b c d : UInt8) : String := s!"{a}.{b}.{c}.{d}"

/-- The high and the low octet of a group. -/
def splitGroup (g : UInt16) : UInt8 × UInt8 :=
  (UInt8.ofNat (g.toNat / 256), UInt8.ofNat (g.toNat % 256))

/-- The groups of an IPv6 address in words. -/
def v6Text (groups : List UInt16) : String :=
  match groups with
  | [0, 0, 0, 0, 0, 0xffff, g, h] =>
    "::ffff:" ++ dottedText (splitGroup g).1 (splitGroup g).2 (splitGroup h).1 (splitGroup h).2
  | _ =>
    let (start, length) := longestZeroRun 0 groups
    if 1 < length then
      groupsText (groups.take start) ++ "::" ++ groupsText (groups.drop (start + length))
    else groupsText groups

/-- An IP address in words. -/
def IpAddress.text : IpAddress → String
  | v4 a b c d => dottedText a b c d
  | v6 groups => v6Text groups.toList

/-- A socket address in words. -/
def SocketAddress.text (addr : SocketAddress) : String :=
  match addr.ip with
  | .v4 _ _ _ _ => s!"{addr.ip.text}:{addr.port}"
  | .v6 _ =>
    if addr.scope = 0 then s!"[{addr.ip.text}]:{addr.port}"
    else s!"[{addr.ip.text}%{addr.scope}]:{addr.port}"

/-! ## Reading -/

/-- The value of a digit in a base of at most sixteen. -/
def digitIn? (base : Nat) (c : Char) : Option Nat :=
  let value :=
    if '0' ≤ c ∧ c ≤ '9' then some (c.toNat - '0'.toNat)
    else if 'a' ≤ c ∧ c ≤ 'f' then some (c.toNat - 'a'.toNat + 10)
    else if 'A' ≤ c ∧ c ≤ 'F' then some (c.toNat - 'A'.toNat + 10)
    else none
  value.filter (· < base)

/-- Which numbers are read: their base, how many digits they may have, whether a
    longer number may begin with a zero, and the largest value. -/
structure NumberForm where
  base : Nat
  maxDigits? : Option Nat
  leadingZeros : Bool
  limit : Nat

/-- An octet of an IPv4 address. -/
def octetForm : NumberForm := ⟨10, some 3, false, 255⟩

/-- A group of an IPv6 address. -/
def groupForm : NumberForm := ⟨16, some 4, true, 65535⟩

/-- A port. -/
def portForm : NumberForm := ⟨10, none, true, 65535⟩

/-- A scope number. -/
def scopeForm : NumberForm := ⟨10, none, true, 4294967295⟩

/-- Reads a number and gives the characters after it. -/
def NumberForm.read (form : NumberForm) (cs : List Char) : Option (Nat × List Char) :=
  let digits := cs.takeWhile fun c => (digitIn? form.base c).isSome
  let value := digits.foldl (fun n c => form.base * n + (digitIn? form.base c).getD 0) 0
  let tooMany := form.maxDigits?.any (· < digits.length)
  let badZero := !form.leadingZeros && digits.head? == some '0' && 1 < digits.length
  if digits.isEmpty || tooMany || badZero || form.limit < value then none
  else some (value, cs.drop digits.length)

/-- Reads one given character. -/
def expect (c : Char) : List Char → Option (List Char)
  | [] => none
  | d :: cs => if d = c then some cs else none

/-- Reads an IPv4 address. -/
def readV4 (cs : List Char) : Option ((UInt8 × UInt8 × UInt8 × UInt8) × List Char) := do
  let (a, cs) ← octetForm.read cs
  let (b, cs) ← octetForm.read (← expect '.' cs)
  let (c, cs) ← octetForm.read (← expect '.' cs)
  let (d, cs) ← octetForm.read (← expect '.' cs)
  return ((.ofNat a, .ofNat b, .ofNat c, .ofNat d), cs)

/-- The group of two octets. -/
def joinGroup (high low : UInt8) : UInt16 := UInt16.ofNat (256 * high.toNat + low.toNat)

/-- Reads up to `n` groups of an IPv6 address with colons between them. Also tells
    whether the last two were written as an IPv4 address. -/
def readGroups : Nat → Bool → List Char → List UInt16 × Bool × List Char
  | 0, _, cs => ([], false, cs)
  | n + 1, isFirst, cs =>
    match if isFirst then some cs else expect ':' cs with
    | none => ([], false, cs)
    | some after =>
      match if 1 ≤ n then readV4 after else none with
      | some ((a, b, c, d), rest) => ([joinGroup a b, joinGroup c d], true, rest)
      | none =>
        match groupForm.read after with
        | none => ([], false, cs)
        | some (g, rest) =>
          let (gs, dotted, rest') := readGroups n false rest
          (.ofNat g :: gs, dotted, rest')

/-- An IPv6 address of eight groups. -/
def ofGroups? (groups : List UInt16) : Option IpAddress :=
  if h : groups.toArray.size = 8 then some (.v6 ⟨groups.toArray, h⟩) else none

/-- Reads an IPv6 address. An IPv4 ending is not allowed before `::`. -/
def readV6 (cs : List Char) : Option (IpAddress × List Char) := do
  let (front, dotted, rest) := readGroups 8 true cs
  if front.length = 8 then return (← ofGroups? front, rest)
  if dotted then none
  let (back, _, rest') := readGroups (7 - front.length) true (← expect ':' (← expect ':' rest))
  let zeros := List.replicate (8 - front.length - back.length) 0
  return (← ofGroups? (front ++ zeros ++ back), rest')

/-- Accepts what was read if nothing is left. -/
def whole {α : Type} : Option (α × List Char) → Option α
  | some (a, []) => some a
  | _ => none

/-- The IP address that a text stands for. -/
def IpAddress.ofText? (s : String) : Option IpAddress :=
  match whole (readV4 s.toList) with
  | some (a, b, c, d) => some (.v4 a b c d)
  | none => whole (readV6 s.toList)

/-- Reads an IPv4 address and a port. -/
def readSocketV4 (cs : List Char) : Option (SocketAddress × List Char) := do
  let ((a, b, c, d), cs) ← readV4 cs
  let (port, cs) ← portForm.read (← expect ':' cs)
  return (⟨.v4 a b c d, .ofNat port, 0⟩, cs)

/-- Reads a scope number, zero if there is none. -/
def readScope (cs : List Char) : Option (UInt32 × List Char) :=
  match expect '%' cs with
  | none => some (0, cs)
  | some cs => (scopeForm.read cs).map fun (scope, cs) => (.ofNat scope, cs)

/-- Reads an IPv6 address in brackets and a port. -/
def readSocketV6 (cs : List Char) : Option (SocketAddress × List Char) := do
  let (ip, cs) ← readV6 (← expect '[' cs)
  let (scope, cs) ← readScope cs
  let (port, cs) ← portForm.read (← expect ':' (← expect ']' cs))
  return (⟨ip, .ofNat port, scope⟩, cs)

/-- The socket address that a text stands for. -/
def SocketAddress.ofText? (s : String) : Option SocketAddress :=
  match whole (readSocketV4 s.toList) with
  | some addr => some addr
  | none => whole (readSocketV6 s.toList)

end Harbor.Net
