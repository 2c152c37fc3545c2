/-!
# Text and its octets

Everything that travels is octets, and everything that is compared or shown is
text. `encode` gives the UTF-8 octets of a text and `decode?` reads them back,
refusing every octet string that is not the encoding of a text. `decodeLossy`
never refuses: it shows each maximal piece of a broken sequence as one U+FFFD.

Main results:

* `decode?_encode`: a text is read back from its own octets.
* `decode?_eq_some_iff`: the octets accepted for a text are exactly its encoding.
-/

namespace Harbor

/-- A string of octets, as it travels. -/
abbrev Octets := List UInt8

namespace Text

/-- What holds of all characters of a text is decided character by character. -/
instance decidableForallChar (p : Char → Prop) [DecidablePred p] (cs : List Char) :
    Decidable (∀ c ∈ cs, p c) :=
  List.decidableBAll p cs

/-- The UTF-8 octets of a text. -/
def encode (s : String) : Octets := s.toByteArray.data.toList

/-- The text whose UTF-8 encoding the octets are, if there is one. -/
def decode? (bs : Octets) : Option String := String.fromUTF8? ⟨bs.toArray⟩

/-- Number of octets a text takes. -/
def size (s : String) : Nat := s.utf8ByteSize

@[simp] theorem decode?_encode (s : String) : decode? (encode s) = some s := by
  simp [decode?, encode, String.fromUTF8?, s.isValidUTF8, String.fromUTF8]

theorem encode_of_decode? {bs : Octets} {s : String} (h : decode? bs = some s) :
    encode s = bs := by
  unfold decode? String.fromUTF8? at h
  split at h
  · cases h; simp [encode, String.fromUTF8]
  · cases h

theorem decode?_eq_some_iff {bs : Octets} {s : String} : decode? bs = some s ↔ bs = encode s :=
  ⟨fun h => (encode_of_decode? h).symm, fun h => h ▸ decode?_encode s⟩

@[simp] theorem length_encode (s : String) : (encode s).length = size s := rfl

@[simp] theorem encode_append (s t : String) : encode (s ++ t) = encode s ++ encode t := by
  simp [encode, String.toByteArray_append]

/-- Octets that follow a given first octet in a well-formed sequence: the range
    of the second one, and how many further continuation octets there are. -/
def sequenceShape (lead : UInt8) : Option (UInt8 × UInt8 × Nat) :=
  if 0xC2 ≤ lead ∧ lead ≤ 0xDF then some (0x80, 0xBF, 0)
  else if lead = 0xE0 then some (0xA0, 0xBF, 1)
  else if lead = 0xED then some (0x80, 0x9F, 1)
  else if 0xE1 ≤ lead ∧ lead ≤ 0xEF then some (0x80, 0xBF, 1)
  else if lead = 0xF0 then some (0x90, 0xBF, 2)
  else if 0xF1 ≤ lead ∧ lead ≤ 0xF3 then some (0x80, 0xBF, 2)
  else if lead = 0xF4 then some (0x80, 0x8F, 2)
  else none

/-- Length of the longest piece at the front, after its first octet, that can
    still become a well-formed sequence. -/
def pieceLength (lead : UInt8) (rest : Octets) : Nat :=
  match sequenceShape lead, rest with
  | some (lo, hi, more), b :: bs =>
    if lo ≤ b ∧ b ≤ hi then
      1 + ((bs.take more).takeWhile fun c => 0x80 ≤ c ∧ c ≤ 0xBF).length
    else 0
  | _, _ => 0

/-- The characters of an octet string, with one U+FFFD for each maximal piece of
    a broken sequence. -/
def lossyChars : Octets → List Char
  | [] => []
  | b :: bs =>
    let n := pieceLength b bs
    let shown := match decode? (b :: bs.take n) with
      | some s => s.toList
      | none => ['\uFFFD']
    shown ++ lossyChars (bs.drop n)
termination_by bs => bs.length
decreasing_by
  simp only [List.length_drop, List.length_cons]
  omega

/-- The text shown for octets that need not be UTF-8. -/
def decodeLossy (bs : Octets) : String := String.ofList (lossyChars bs)

end Text

end Harbor
