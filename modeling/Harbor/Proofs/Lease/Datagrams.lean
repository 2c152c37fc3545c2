import Harbor.Proofs.Lease.Messages
import Mathlib.Data.List.Basic
import Mathlib.Data.List.GetD
import Mathlib.Data.List.TakeWhile

/-!
# Which datagrams are messages

A datagram is a message exactly when it has 54 octets, its first and its last octet are
codes that the protocol has, and its name is ASCII. Only the octets before the first NUL
of the name field are the name; what stands behind it may be anything and is lost.

A datagram that is no message is refused for the first thing that is wrong with it, in the
order length, kind, status, name. Octets that are not ASCII make a name a bad one whether
they are text or not.

Main results:

* `map_encode_decode`: what comes back when a datagram is read and written again.
* `codec_exact`: messages are read back, and exactly these datagrams are messages.
-/

namespace Harbor.Lease

/-! ## Codes -/

theorem Kind.ofCode?_eq_none_iff {code : UInt8} : ofCode? code = none ↔ 5 < code := by
  unfold ofCode?
  repeat' split
  all_goals grind

theorem Kind.code_of_ofCode? {code : UInt8} {k : Kind} (h : ofCode? code = some k) :
    k.code = code := by
  unfold ofCode? at h
  repeat' split at h
  all_goals grind [Kind.code]

theorem Status.ofCode?_eq_none_iff {code : UInt8} : ofCode? code = none ↔ 5 < code := by
  unfold ofCode?
  repeat' split
  all_goals grind

theorem Status.code_of_ofCode? {code : UInt8} {s : Status} (h : ofCode? code = some s) :
    s.code = code := by
  unfold ofCode? at h
  repeat' split at h
  all_goals grind [Status.code]

namespace Message

variable {datagram field : Octets} {kind high low status : UInt8}

/-! ## Fields -/

/-- The octets of a name field before the first NUL. -/
def beforeNul (field : Octets) : Octets := field.takeWhile (· != 0)

/-- A name field with its octets from the first NUL on set to NUL. -/
def clearField (field : Octets) : Octets :=
  beforeNul field ++ (field.dropWhile (· != 0)).map fun _ => 0

/-- The name field of a datagram. -/
def fieldOf (datagram : Octets) : Octets := (datagram.drop 1).take ServiceName.maxSize

/-- The datagram with nothing behind the name in its name field. -/
def cleared (datagram : Octets) : Octets :=
  datagram.take 1 ++ clearField (fieldOf datagram) ++ datagram.drop (1 + ServiceName.maxSize)

/-- A datagram of the right length is put together from its fields. -/
theorem exists_fields (h : datagram.length = size) :
    ∃ kind field high low status, datagram = kind :: (field ++ [high, low, status]) ∧
      field.length = ServiceName.maxSize := by
  cases datagram with
  | nil => cases h
  | cons kind fields =>
    have hsize : fields.length = 53 := Nat.succ.inj h
    have hlast : (fields.drop 50).length = 3 := by rw [List.length_drop, hsize]
    obtain ⟨high, low, status, heq⟩ := List.length_eq_three.1 hlast
    refine ⟨kind, fields.take 50, high, low, status, ?_, ?_⟩
    · rw [← heq, List.take_append_drop]
    · rw [List.length_take, hsize]
      rfl

theorem fieldOf_fields (h : field.length = ServiceName.maxSize) :
    fieldOf (kind :: (field ++ [high, low, status])) = field := List.take_left' h

theorem statusOctet_fields (h : field.length = ServiceName.maxSize) :
    (kind :: (field ++ [high, low, status])).getD 53 0 = status := by
  rw [List.getD_cons_succ, List.getD_append_right _ _ _ _ (by rw [h]; decide), h]
  rfl

theorem cleared_fields (h : field.length = ServiceName.maxSize) :
    cleared (kind :: (field ++ [high, low, status])) =
      kind :: (clearField field ++ [high, low, status]) := by
  rw [cleared, fieldOf_fields h, Nat.add_comm, List.drop_succ_cons, List.drop_left' h]
  rfl

/-- The message that the fields of a datagram make. -/
def ofFields (kind : UInt8) (field : Octets) (high low status : UInt8) : Except Error Message :=
  match Kind.ofCode? kind, Status.ofCode? status with
  | none, _ => .error (.unknownKind kind)
  | _, none => .error (.unknownStatus status)
  | some kind, some status =>
    match nameOf field with
    | .error e => .error e
    | .ok name => .ok ⟨kind, name, portOf high low, status⟩

theorem decode_fields (h : field.length = ServiceName.maxSize) :
    decode (kind :: (field ++ [high, low, status])) = ofFields kind field high low status := by
  unfold decode
  dsimp only
  rw [List.drop_left' h, List.take_left' h]
  rfl

theorem decode_of_length_ne (h : datagram.length ≠ size) :
    decode datagram = .error (.wrongLength datagram.length) := by
  unfold decode
  split
  · rfl
  · next kind fields =>
    split
    · next high low status hdrop =>
      have hlength := congrArg List.length hdrop
      simp only [List.length_drop, List.length_cons, List.length_nil] at hlength
      exact absurd (by rw [List.length_cons, size]; omega) h
    · rfl

theorem octets_portOf (high low : UInt8) :
    UInt8.ofNat ((portOf high low).toNat / 256) = high ∧
      UInt8.ofNat ((portOf high low).toNat % 256) = low := by
  have hhigh := high.toNat_lt
  have hlow := low.toNat_lt
  have hport : (portOf high low).toNat = 256 * high.toNat + low.toNat := by
    rw [portOf, UInt16.toNat_ofNat', Nat.mod_eq_of_lt (by omega)]
  rw [hport, show (256 * high.toNat + low.toNat) / 256 = high.toNat by omega,
    show (256 * high.toNat + low.toNat) % 256 = low.toNat by omega]
  exact ⟨UInt8.ofNat_toNat, UInt8.ofNat_toNat⟩

/-! ## Names -/

/-- The text that is shown for octets that are no name. -/
def shown (octets : Octets) : String := (Text.decode? octets).getD (Text.decodeLossy octets)

theorem size_le_of_encode {text : String} (h : field.length = ServiceName.maxSize)
    (htext : Text.encode text = beforeNul field) : Text.size text ≤ ServiceName.maxSize := by
  rw [← Text.length_encode, htext, ← h]
  exact (List.takeWhile_prefix _).length_le

theorem exists_name (h : field.length = ServiceName.maxSize)
    (hascii : ∀ b ∈ beforeNul field, b < 128) :
    ∃ name, nameOf field = .ok name ∧ Text.encode name.text = beforeNul field := by
  obtain ⟨text, htext⟩ := Text.exists_encode_eq_of_ascii hascii
  have ascii : ∀ c ∈ text.toList, c.toNat < 128 := Text.forall_ascii_iff.2 (htext ▸ hascii)
  have noNul : ∀ c ∈ text.toList, c ≠ '\x00' := by
    rintro c hc rfl
    have hmem : 0 ∈ beforeNul field := htext ▸ Text.mem_encode hc (by decide)
    exact absurd (List.mem_takeWhile_imp hmem) (by decide)
  let name : ServiceName := ⟨text, size_le_of_encode h htext, ascii, noNul⟩
  have hname : ServiceName.ofText? text = .ok name := name.ofText?_text
  refine ⟨name, ?_, htext⟩
  rw [nameOf, ← beforeNul, ← htext, Text.decode?_encode]
  dsimp only
  rw [hname]

/-- A name that is not ASCII is a bad one, be it text or not. -/
theorem nameOf_of_high (h : field.length = ServiceName.maxSize)
    (hhigh : ∃ b ∈ beforeNul field, 128 ≤ b) :
    nameOf field = .error (.badName (.notAscii (shown (beforeNul field)))) := by
  rw [nameOf, ← beforeNul, shown]
  cases htext : Text.decode? (beforeNul field) with
  | none => rfl
  | some text =>
    have hencode := Text.encode_of_decode? htext
    have hnot : ¬ ∀ c ∈ text.toList, c.toNat < 128 := by
      rw [Text.forall_ascii_iff, hencode]
      intro hascii
      obtain ⟨b, hb, hle⟩ := hhigh
      exact UInt8.not_lt.2 hle (hascii b hb)
    dsimp only
    rw [ServiceName.ofText?, dif_pos (size_le_of_encode h hencode), dif_neg hnot, Option.getD_some]

theorem nameField_eq {name : ServiceName} (h : field.length = ServiceName.maxSize)
    (hname : Text.encode name.text = beforeNul field) : nameField name = clearField field := by
  have hlength : Text.size name.text + (field.dropWhile (· != 0)).length = ServiceName.maxSize := by
    rw [← Text.length_encode, hname, beforeNul, ← List.length_append,
      List.takeWhile_append_dropWhile, h]
  rw [nameField, clearField, hname, List.map_const', ← hlength, Nat.add_sub_cancel_left]

/-! ## Faults -/

/-- The first thing that is wrong with a datagram, if something is: its length, the code of
    its kind, the code of its status, or an octet of its name that is not ASCII. -/
def fault? (datagram : Octets) : Option Error :=
  if datagram.length ≠ size then some (.wrongLength datagram.length)
  else if 5 < datagram.getD 0 0 then some (.unknownKind (datagram.getD 0 0))
  else if 5 < datagram.getD 53 0 then some (.unknownStatus (datagram.getD 53 0))
  else if ∃ b ∈ beforeNul (fieldOf datagram), 128 ≤ b then
    some (.badName (.notAscii (shown (beforeNul (fieldOf datagram)))))
  else none

theorem fault?_eq_none_iff : fault? datagram = none ↔ datagram.length = size ∧
    datagram.getD 0 0 ≤ 5 ∧ datagram.getD 53 0 ≤ 5 ∧
      ∀ b ∈ beforeNul (fieldOf datagram), b < 128 := by
  unfold fault?
  split
  · next hsize => exact iff_of_false (Option.some_ne_none _) fun h => hsize h.1
  split
  · next hkind => exact iff_of_false (Option.some_ne_none _) fun h => UInt8.not_lt.2 h.2.1 hkind
  split
  · next hstatus =>
    exact iff_of_false (Option.some_ne_none _) fun h => UInt8.not_lt.2 h.2.2.1 hstatus
  split
  · next hhigh =>
    refine iff_of_false (Option.some_ne_none _) fun h => ?_
    obtain ⟨b, hb, hle⟩ := hhigh
    exact UInt8.not_lt.2 hle (h.2.2.2 b hb)
  · next hsize hkind hstatus hhigh =>
    refine iff_of_true rfl ⟨not_not.1 hsize, UInt8.not_lt.1 hkind, UInt8.not_lt.1 hstatus, ?_⟩
    exact fun b hb => UInt8.not_le.1 fun hle => hhigh ⟨b, hb, hle⟩

/-- A datagram is refused for its first fault. One without a fault is a message, whose own
    datagram is the same but for what stood behind the name. -/
theorem map_encode_decode (datagram : Octets) :
    (decode datagram).map encode = match fault? datagram with
      | some e => .error e
      | none => .ok (cleared datagram) := by
  unfold fault?
  by_cases hsize : datagram.length = size
  · obtain ⟨kind, field, high, low, status, rfl, hfield⟩ := exists_fields hsize
    rw [if_neg (not_not.2 hsize), statusOctet_fields hfield, List.getD_cons_zero,
      fieldOf_fields hfield, decode_fields hfield, ofFields]
    cases hkind : Kind.ofCode? kind with
    | none =>
      rw [if_pos (Kind.ofCode?_eq_none_iff.1 hkind)]
      rfl
    | some k =>
    rw [if_neg (mt Kind.ofCode?_eq_none_iff.2 (hkind ▸ Option.some_ne_none k))]
    cases hstatus : Status.ofCode? status with
    | none =>
      rw [if_pos (Status.ofCode?_eq_none_iff.1 hstatus)]
      rfl
    | some s =>
    rw [if_neg (mt Status.ofCode?_eq_none_iff.2 (hstatus ▸ Option.some_ne_none s))]
    by_cases hhigh : ∃ b ∈ beforeNul field, 128 ≤ b
    · rw [if_pos hhigh, nameOf_of_high hfield hhigh]
      rfl
    · have hascii : ∀ b ∈ beforeNul field, b < 128 := fun b hb =>
        UInt8.not_le.1 fun hle => hhigh ⟨b, hb, hle⟩
      obtain ⟨name, hname, htext⟩ := exists_name hfield hascii
      rw [if_neg hhigh, hname, cleared_fields hfield, ← nameField_eq hfield htext]
      show Except.ok (encode _) = Except.ok _
      rw [encode, (octets_portOf high low).1, (octets_portOf high low).2,
        Kind.code_of_ofCode? hkind, Status.code_of_ofCode? hstatus]
  · rw [decode_of_length_ne hsize, if_pos hsize]
    rfl

/-- Every message is read back from its datagram of 54 octets. Exactly the datagrams of 54
    octets with codes of at most 5 and an ASCII name are messages, and what a message does not
    keep of its datagram are the octets behind the first NUL of the name field. All others
    are refused for their first fault. -/
theorem codec_exact (datagram : Octets) :
    (∀ m : Message, m.encode.length = 54 ∧ decode m.encode = .ok m) ∧
    ((∃ m, decode datagram = .ok m) ↔ datagram.length = 54 ∧ datagram.getD 0 0 ≤ 5 ∧
      datagram.getD 53 0 ≤ 5 ∧ ∀ b ∈ beforeNul (fieldOf datagram), b < 128) ∧
    (∀ m, decode datagram = .ok m → m.encode = cleared datagram) ∧
    ∀ e, decode datagram = .error e ↔ fault? datagram = some e := by
  have hsize : size = 54 := rfl
  have hmap := map_encode_decode datagram
  refine ⟨fun m => ⟨length_encode m, decode_encode m⟩, ?_⟩
  rw [← hsize, ← fault?_eq_none_iff]
  cases hdecode : decode datagram with
  | ok m =>
    cases hfault : fault? datagram with
    | some e =>
      rw [hdecode, hfault] at hmap
      cases hmap
    | none =>
      rw [hdecode, hfault] at hmap
      have hencode : m.encode = cleared datagram := Except.ok.inj hmap
      simp [hencode]
  | error e =>
    cases hfault : fault? datagram with
    | none =>
      rw [hdecode, hfault] at hmap
      cases hmap
    | some e' =>
      rw [hdecode, hfault] at hmap
      have he : e = e' := Except.error.inj hmap
      simp [he]

/-- What stands behind the name need not even be text, and it is lost. -/
theorem codec_exact_behind_nul :
    let datagram : Octets := [1, 83, 68, 0, 255, 195] ++ List.replicate 45 65 ++ [156, 64, 0]
    let m := keepAlive ⟨"SD", by decide, by decide, by decide⟩ 40000
    decode datagram = .ok m ∧ m.encode = cleared datagram ∧
      cleared datagram = [1, 83, 68] ++ List.replicate 48 0 ++ [156, 64, 0] := by
  intro datagram m
  have hm : decode datagram = .ok m := by decide +kernel
  exact ⟨hm, (codec_exact datagram).2.2.1 m hm, by decide⟩

end Message

end Harbor.Lease
