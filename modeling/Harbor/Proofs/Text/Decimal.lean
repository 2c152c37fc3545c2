import Harbor.Proofs.Text.Octets
import Harbor.SessionId

/-!
# Numbers written and read

A text is read as a number exactly if it is one of its numerals: digits, behind a plus
sign or none, that make this number. A number written in decimal is read back as itself, and
no reader that drops the blanks around it finds any. The digits of a number of 64 bits are at
most twenty.

Main results:

* `parse64_eq_ok_iff`: a number of 64 bits is read from its numerals and no other text.
* `parse64_toString`: a number of 64 bits is read back.
* `exists_toString_of_prefix`: the first digits of a number are a number.
* `SessionId.ofText?_text`: a session id is read back.
-/

namespace Harbor.Text

/-! ## Digits -/

theorem isDigit_iff {c : Char} : c.isDigit ↔ '0' ≤ c ∧ c ≤ '9' := by
  simp [Char.isDigit, Char.le_def]

theorem digit?_eq_some_iff {c : Char} {d : Nat} :
    digit? c = some d ↔ c.isDigit ∧ c.toNat - '0'.toNat = d := by
  rw [digit?, isDigit_iff]
  split
  · next h => rw [Option.some.injEq, and_iff_right h]
  · next h => exact iff_of_false nofun fun hd => h hd.1

theorem digit?_eq_none_iff {c : Char} : digit? c = none ↔ ¬ c.isDigit := by
  rw [Option.eq_none_iff_forall_ne_some]
  simp [digit?_eq_some_iff]

/-- More digits do not make a number smaller. -/
theorem le_ofDigitChars (ds : List Char) (value : Nat) : value ≤ Nat.ofDigitChars 10 ds value := by
  rw [Nat.ofDigitChars_eq_ofDigitChars_zero]
  have : value ≤ 10 ^ ds.length * value := Nat.le_mul_of_pos_left value (Nat.pow_pos (by decide))
  omega

/-- Digits are read as the number that they make, if it is within the limit. -/
theorem readDigits_eq_ok_iff {limit value n : Nat} {ds : List Char} (h : value ≤ limit) :
    readDigits limit value ds = .ok n ↔
      (∀ d ∈ ds, d.isDigit) ∧ Nat.ofDigitChars 10 ds value = n ∧ n ≤ limit := by
  induction ds generalizing value with
  | nil =>
    rw [readDigits, Nat.ofDigitChars_nil, Except.ok.injEq]
    constructor
    · rintro rfl
      exact ⟨nofun, rfl, h⟩
    · exact fun h => h.2.1
  | cons d ds ih =>
    rw [readDigits, List.forall_mem_cons, Nat.ofDigitChars_cons]
    cases hd : digit? d with
    | none =>
      rw [digit?_eq_none_iff] at hd
      simp [hd]
    | some k =>
      obtain ⟨hdigit, hk⟩ := digit?_eq_some_iff.1 hd
      dsimp only
      rw [hk]
      split
      · next hle => simp [ih hle, hdigit]
      · next hlt =>
        have hge := le_ofDigitChars ds (10 * value + k)
        simp only [reduceCtorEq, false_iff]
        rintro ⟨-, rfl, hle⟩
        omega

/-- The text is one or more ASCII digits, behind a plus sign or none, which make the number. -/
def IsNumeral (s : String) (n : Nat) : Prop :=
  ∃ ds : List Char, (s.toList = ds ∨ s.toList = '+' :: ds) ∧ ds ≠ [] ∧ (∀ d ∈ ds, d.isDigit) ∧
    Nat.ofDigitChars 10 ds 0 = n

/-- A text is a numeral of one number at most, for a plus sign is no digit. -/
theorem IsNumeral.unique {s : String} {n m : Nat} (hn : IsNumeral s n) (hm : IsNumeral s m) :
    n = m := by
  have hplus : ∀ {ds es : List Char}, (∀ d ∈ ds, d.isDigit) → ds ≠ '+' :: es := by
    rintro ds es hdigits rfl
    exact absurd (hdigits '+' List.mem_cons_self) (by decide)
  obtain ⟨ds, hds, -, hdigits, rfl⟩ := hn
  obtain ⟨es, hes, -, hdigits', rfl⟩ := hm
  rcases hds with hds | hds <;> rcases hes with hes | hes <;> rw [hds] at hes
  · rw [hes]
  · exact absurd hes (hplus hdigits)
  · exact absurd hes.symm (hplus hdigits')
  · rw [List.cons.inj hes |>.2]

theorem readUnsigned_plus {limit : Nat} {ds : List Char} (h : ds ≠ []) :
    readUnsigned limit ('+' :: ds) = readDigits limit 0 ds := by
  cases ds with
  | nil => exact absurd rfl h
  | cons d ds => rfl

/-- Digits have no sign in front of them. -/
theorem readUnsigned_digits {limit : Nat} {ds : List Char} (h : ds ≠ [])
    (hdigits : ∀ d ∈ ds, d.isDigit) : readUnsigned limit ds = readDigits limit 0 ds := by
  unfold readUnsigned
  split
  · exact absurd rfl h
  · exact absurd (hdigits '+' List.mem_cons_self) (by decide)
  · exact absurd (hdigits '+' List.mem_cons_self) (by decide)
  · rfl

/-- The texts that are read as a number are its numerals, if it is within the limit. -/
theorem readUnsigned_eq_ok_iff {limit n : Nat} {s : String} :
    readUnsigned limit s.toList = .ok n ↔ IsNumeral s n ∧ n ≤ limit := by
  have hzero := Nat.zero_le limit
  constructor
  · intro h
    unfold readUnsigned at h
    split at h
    · cases h
    · cases h
    · next ds hplus heq =>
      obtain ⟨hdigits, hvalue, hle⟩ := (readDigits_eq_ok_iff hzero).1 h
      exact ⟨⟨ds, .inr heq, hplus, hdigits, hvalue⟩, hle⟩
    · next hnil _ _ =>
      obtain ⟨hdigits, hvalue, hle⟩ := (readDigits_eq_ok_iff hzero).1 h
      exact ⟨⟨s.toList, .inl rfl, hnil, hdigits, hvalue⟩, hle⟩
  · rintro ⟨⟨ds, hds | hds, hne, hdigits, hvalue⟩, hle⟩
    · rw [hds, readUnsigned_digits hne hdigits]
      exact (readDigits_eq_ok_iff hzero).2 ⟨hdigits, hvalue, hle⟩
    · rw [hds, readUnsigned_plus hne]
      exact (readDigits_eq_ok_iff hzero).2 ⟨hdigits, hvalue, hle⟩

theorem parse64_eq_ok_iff {s : String} {n : UInt64} : parse64 s = .ok n ↔ IsNumeral s n.toNat := by
  have hle : n.toNat ≤ limit64 := Nat.le_sub_one_of_lt n.toNat_lt_size
  constructor
  · intro h
    rw [parse64] at h
    cases hread : readUnsigned limit64 s.toList with
    | error e =>
      rw [hread] at h
      cases h
    | ok m =>
      rw [hread] at h
      cases h
      obtain ⟨hnumeral, hm⟩ := readUnsigned_eq_ok_iff.1 hread
      rwa [UInt64.toNat_ofNat_of_lt' (Nat.lt_of_le_pred (by decide) hm)]
  · intro h
    rw [parse64, readUnsigned_eq_ok_iff.2 ⟨h, hle⟩]
    exact congrArg Except.ok n.ofNat_toNat

theorem isDigit_of_mem_toDigits {n : Nat} {c : Char} (h : c ∈ Nat.toDigits 10 n) : c.isDigit :=
  Nat.isDigit_of_mem_toDigits (by omega) (by omega) h

theorem isNumeral_toString (n : Nat) : IsNumeral (toString n) n := by
  refine ⟨Nat.toDigits 10 n, .inl ?_, Nat.toDigits_ne_nil, fun d => isDigit_of_mem_toDigits,
    Nat.ofDigitChars_ten_toDigits⟩
  rw [Nat.toString_eq_ofList_toDigits, String.toList_ofList]

theorem parse64_toString {n : Nat} (h : n < UInt64.size) :
    parse64 (toString n) = .ok (UInt64.ofNat n) := by
  rw [parse64_eq_ok_iff, UInt64.toNat_ofNat_of_lt' h]
  exact isNumeral_toString n

/-! ## Blanks around a number -/

theorem trim_eq_self {s : String} (h : ∀ c ∈ s.toList, isBlank c = false) : trim s = s := by
  have hdrop : ∀ cs : List Char, (∀ c ∈ cs, isBlank c = false) → cs.dropWhile isBlank = cs := by
    intro cs hcs
    cases cs with
    | nil => rfl
    | cons c cs => rw [List.dropWhile_cons_of_neg (by simp [hcs c])]
  rw [trim, trimChars, hdrop _ h, hdrop _ fun c hc => h c (List.mem_reverse.1 hc),
    List.reverse_reverse, String.ofList_toList]

theorem isBlank_eq_false_of_isDigit {c : Char} (h : c.isDigit) : isBlank c = false := by
  obtain ⟨hlow, hhigh⟩ := isDigit_iff.1 h
  rw [Bool.eq_false_iff]
  intro hblank
  -- a blank is below the digits or above them
  have hout : c ≤ ' ' ∨ '\u0085' ≤ c := by
    simp only [isBlank, Bool.or_eq_true, decide_eq_true_eq, beq_iff_eq] at hblank
    rcases hblank with
      (((((((((⟨-, h⟩ | rfl) | rfl) | rfl) | rfl) | ⟨h, -⟩) | rfl) | rfl) | rfl) | rfl) | rfl
    case inl.inl.inl.inl.inl.inl.inl.inl.inl.inl => exact .inl (Char.le_trans h (by decide))
    case inl.inl.inl.inl.inl.inl.inl.inl.inl.inr => exact .inl (by decide)
    case inl.inl.inl.inl.inl.inr => exact .inr (Char.le_trans (by decide) h)
    all_goals exact .inr (by decide)
  rcases hout with hle | hge
  · exact absurd (Char.le_trans hlow hle) (by decide)
  · exact absurd (Char.le_trans hge hhigh) (by decide)

theorem trim_toString (n : Nat) : trim (toString n) = toString n := by
  apply trim_eq_self
  intro c hc
  rw [Nat.toString_eq_ofList_toDigits, String.toList_ofList] at hc
  exact isBlank_eq_false_of_isDigit (isDigit_of_mem_toDigits hc)

theorem utf8Size_of_mem_toDigits {n : Nat} {c : Char} (h : c ∈ Nat.toDigits 10 n) :
    c.utf8Size = 1 := by
  have hhigh := (isDigit_iff.1 (isDigit_of_mem_toDigits h)).2
  exact Char.utf8Size_eq_one_iff.2 (UInt32.le_trans hhigh (by decide))

/-- A number takes an octet for each digit. -/
theorem size_toString (n : Nat) : size (toString n) = (Nat.toDigits 10 n).length := by
  rw [Nat.toString_eq_ofList_toDigits]
  exact size_ofList_of_ascii fun c => utf8Size_of_mem_toDigits

/-! ## Numbers cut short -/

/-- The first digits of a number are those of a number no larger, and no number other than
    zero begins with a zero. -/
theorem exists_toDigits_of_prefix {n : Nat} {front : List Char}
    (h : front <+: Nat.toDigits 10 n) (hne : front ≠ []) :
    ∃ m, front = Nat.toDigits 10 m ∧ m ≤ n ∧ (m = 0 → n = 0) := by
  induction n using Nat.strongRecOn with
  | _ n ih =>
    by_cases hlt : n < 10
    · rw [Nat.toDigits_of_lt_base hlt, ← List.nil_append [_], List.prefix_concat_iff,
        List.prefix_nil] at h
      refine ⟨n, ?_, Nat.le_refl n, id⟩
      rw [Nat.toDigits_of_lt_base hlt]
      exact h.resolve_right hne
    · have hsplit := Nat.toDigits_of_base_le (b := 10) (by omega) (Nat.not_lt.1 hlt)
      rw [hsplit, List.prefix_concat_iff] at h
      rcases h with rfl | h
      · exact ⟨n, hsplit.symm, Nat.le_refl n, id⟩
      · obtain ⟨m, rfl, hle, hzero⟩ := ih (n / 10) (by omega) h
        exact ⟨m, rfl, by omega, by omega⟩

theorem exists_toString_of_prefix {n : Nat} {piece : Octets}
    (h : piece <+: encode (toString n)) (hne : piece ≠ []) :
    ∃ m, piece = encode (toString m) ∧ m ≤ n ∧ (m = 0 → n = 0) := by
  rw [Nat.toString_eq_ofList_toDigits] at h
  obtain ⟨front, hfront, rfl⟩ := exists_of_prefix_encode (fun c => utf8Size_of_mem_toDigits) h
  have hfrontne : front ≠ [] := by
    rintro rfl
    exact hne rfl
  obtain ⟨m, rfl, hm⟩ := exists_toDigits_of_prefix hfront hfrontne
  exact ⟨m, by rw [Nat.toString_eq_ofList_toDigits], hm⟩

end Harbor.Text

namespace Harbor.SessionId

theorem ofText?_text (id : SessionId) : ofText? id.text = .ok id := by
  rw [ofText?, text, Text.trim_toString, Text.parse64_toString id.number.toNat_lt_size,
    UInt64.ofNat_toNat]

end Harbor.SessionId
