import Harbor.Lease.Client
import Harbor.Proofs.Text.Octets

/-!
# Messages and what they ask for

A message survives its datagram, and a datagram of another length than a message
has is none. A message that asks for something counts as the operation it asks for:
the registry does what the operation does, and the response says what the operation
answered.

Main results:

* `Message.decode_encode`: a message is read back from its datagram.
* `Message.length_of_decode`: only datagrams of one length are messages.
* `Registry.handle_eq`: a request is handled by running its operation.
-/

namespace Harbor.Lease

open Registry (Operation Outcome)

namespace Message

/-! ## The datagram of a message -/

theorem ne_zero_of_mem_encode_name {name : ServiceName} {b : UInt8}
    (hb : b ∈ Text.encode name.text) : b ≠ 0 := by
  rintro rfl
  obtain ⟨c, hc, hzero⟩ := Text.exists_char_of_mem_encode hb (by decide)
  exact name.noNul c hc (Char.toNat_inj.1 hzero)

theorem nameOf_nameField (name : ServiceName) : nameOf (nameField name) = .ok name := by
  have htake : (nameField name).takeWhile (· != 0) = Text.encode name.text := by
    rw [nameField, List.takeWhile_append_of_pos fun b hb => by
      simpa using ne_zero_of_mem_encode_name hb]
    cases ServiceName.maxSize - Text.size name.text with
    | zero => rw [List.replicate_zero, List.takeWhile_nil, List.append_nil]
    | succ n => rw [List.replicate_succ, List.takeWhile_cons_of_neg (by decide), List.append_nil]
  simp only [nameOf, htake, Text.decode?_encode, ServiceName.ofText?_text]

theorem portOf_octets (port : Port) :
    portOf (UInt8.ofNat (port.toNat / 256)) (UInt8.ofNat (port.toNat % 256)) = port := by
  have hlt := port.toNat_lt
  rw [portOf, UInt8.toNat_ofNat', UInt8.toNat_ofNat', Nat.mod_eq_of_lt (by omega : _ / 256 < 2 ^ 8),
    Nat.mod_mod, Nat.div_add_mod]
  exact UInt16.ofNat_toNat

theorem decode_encode (m : Message) : decode m.encode = .ok m := by
  have hlen := length_nameField m.name
  simp only [encode, decode, List.drop_left' hlen, List.take_left' hlen, Kind.ofCode?_code,
    Status.ofCode?_code, nameOf_nameField, portOf_octets]

theorem length_of_decode {datagram : Octets} {m : Message} (h : decode datagram = .ok m) :
    datagram.length = size := by
  unfold decode at h
  split at h
  · cases h
  · next kindCode fields =>
    split at h
    · next high low statusCode hdrop =>
      have hlen := congrArg List.length hdrop
      simp only [List.length_drop, List.length_cons, List.length_nil] at hlen
      simp only [List.length_cons, size]
      omega
    · cases h

/-- Looking at one octet more than a message has tells every longer datagram from a
    message. -/
theorem decode_take {datagram : Octets} {m : Message} :
    decode (datagram.take receiveLimit) = .ok m ↔ decode datagram = .ok m := by
  by_cases hlen : datagram.length ≤ receiveLimit
  · rw [List.take_of_length_le hlen]
  · constructor
    · intro h
      have := length_of_decode h
      rw [List.length_take] at this
      simp only [receiveLimit] at this hlen
      omega
    · intro h
      have := length_of_decode h
      simp only [receiveLimit] at hlen
      omega

/-! ## What a message asks for -/

/-- The operation that a message asks for, if it asks for one. -/
def operation? (m : Message) (now : Instant) : Option Operation :=
  match m.kind with
  | .requestPort => some (.request m.name now)
  | .keepAlive => some (.keepAlive m.name m.port now)
  | .closePort => some (.close m.name m.port)
  | .lookupPort => some (.lookup m.name)
  | .stop => some .stop
  | .response => none

theorem operation?_eq_none_iff {m : Message} {now : Instant} :
    m.operation? now = none ↔ m.kind = .response := by
  unfold operation?
  cases m.kind <;> simp

/-- The response to a message, from the outcome of its operation. The port that a
    refusal names is the one asked for, and none for a request. -/
def reply (m : Message) : Outcome → Message
  | .port port => .response m.name port .success
  | .refused e => .response m.name (if m.kind = .requestPort then 0 else m.port) e.status
  | _ => if m.kind = .stop then .response .empty 0 .success else .response m.name m.port .success

end Message

/-- A message that asks for nothing is an invalid argument. -/
theorem Registry.handle_eq (g : Registry) (m : Message) (now : Instant) :
    g.handle m now = match m.operation? now with
      | some o => ((g.apply o).1, m.reply (g.apply o).2)
      | none => (g, .response m.name m.port .invalidArg) := by
  cases hkind : m.kind with
  | requestPort =>
    simp only [handle, Message.operation?, Message.reply, apply, hkind]
    rcases g.requestPort m.name now with ⟨g', _ | port⟩ <;> rfl
  | keepAlive =>
    simp only [handle, Message.operation?, Message.reply, apply, hkind]
    rcases g.keepAlive m.name m.port now with ⟨g', _ | _⟩ <;> rfl
  | closePort =>
    simp only [handle, Message.operation?, Message.reply, apply, hkind]
    rcases g.closePort m.name m.port with ⟨g', _ | _⟩ <;> rfl
  | lookupPort =>
    simp only [handle, Message.operation?, Message.reply, apply, hkind]
    rcases g.lookupPort m.name with _ | _ <;> rfl
  | stop => simp only [handle, Message.operation?, Message.reply, apply, hkind, if_true]
  | response => simp only [handle, Message.operation?, hkind]

end Harbor.Lease
