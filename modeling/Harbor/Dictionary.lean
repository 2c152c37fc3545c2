/-!
# Dictionaries

A finite map as the list of its pairs. A key that is inserted again keeps its
place; a new one goes to the end.

Main results:

* `get?_insert`, `get?_erase`: what a look-up finds after each change.
* `insert_insert`, `insert_of_get?`: a key that keeps its value keeps the dictionary.
-/

namespace Harbor

/-- A finite map from keys to values. -/
structure Dictionary (κ α : Type) where
  entries : List (κ × α)
  deriving Repr, DecidableEq

namespace Dictionary

variable {κ α : Type}

/-- The dictionary without entries. -/
def empty : Dictionary κ α := ⟨[]⟩

instance : Inhabited (Dictionary κ α) := ⟨empty⟩

/-- Number of entries. -/
def size (d : Dictionary κ α) : Nat := d.entries.length

/-- Are there no entries? -/
def isEmpty (d : Dictionary κ α) : Bool := d.entries.isEmpty

variable [DecidableEq κ]

/-- The value of a key among pairs. -/
def lookup (k : κ) : List (κ × α) → Option α
  | [] => none
  | (k', a) :: es => if k' = k then some a else lookup k es

/-- Pairs with the value of a key replaced or added. -/
def put (k : κ) (a : α) : List (κ × α) → List (κ × α)
  | [] => [(k, a)]
  | (k', b) :: es => if k' = k then (k, a) :: es else (k', b) :: put k a es

/-- The value of a key. -/
def get? (d : Dictionary κ α) (k : κ) : Option α := lookup k d.entries

/-- Does the key have a value? -/
def contains (d : Dictionary κ α) (k : κ) : Bool := (d.get? k).isSome

/-- Gives a key a value. -/
def insert (d : Dictionary κ α) (k : κ) (a : α) : Dictionary κ α := ⟨put k a d.entries⟩

/-- Takes a key away. -/
def erase (d : Dictionary κ α) (k : κ) : Dictionary κ α :=
  ⟨d.entries.filter fun e => decide (e.1 ≠ k)⟩

@[simp] theorem get?_empty (k : κ) : (empty : Dictionary κ α).get? k = none := rfl

theorem mem_of_lookup {k : κ} {a : α} {es : List (κ × α)} (h : lookup k es = some a) :
    (k, a) ∈ es := by
  induction es with
  | nil => cases h
  | cons e es ih =>
    unfold lookup at h
    split at h
    · next heq =>
      cases h
      exact heq ▸ List.mem_cons_self
    · exact List.mem_cons_of_mem _ (ih h)

theorem lookup_of_find? {p : κ → Bool} {k : κ} {a : α} {es : List (κ × α)}
    (h : es.find? (fun e => p e.1) = some (k, a)) : lookup k es = some a := by
  have hp : p k = true := List.find?_some (p := fun e : κ × α => p e.1) h
  induction es with
  | nil => cases h
  | cons e es ih =>
    obtain ⟨k', b⟩ := e
    rw [List.find?_cons] at h
    unfold lookup
    split at h
    · cases h
      exact if_pos rfl
    · next hnot =>
      rw [if_neg, ih h]
      rintro rfl
      rw [hp] at hnot
      cases hnot

theorem lookup_put (k k' : κ) (a : α) (es : List (κ × α)) :
    lookup k' (put k a es) = if k = k' then some a else lookup k' es := by
  induction es with
  | nil => rfl
  | cons e es ih =>
    obtain ⟨k₁, b⟩ := e
    unfold put
    split
    · next h =>
      subst h
      unfold lookup
      split <;> rfl
    · next h =>
      unfold lookup
      rw [ih]
      by_cases h₁ : k₁ = k'
      · subst h₁; simp [Ne.symm h]
      · simp [h₁]

theorem get?_insert (d : Dictionary κ α) (k k' : κ) (a : α) :
    (d.insert k a).get? k' = if k = k' then some a else d.get? k' :=
  lookup_put k k' a d.entries

theorem put_put (k : κ) (a b : α) (es : List (κ × α)) : put k b (put k a es) = put k b es := by
  induction es with
  | nil => simp [put]
  | cons e es ih =>
    obtain ⟨k', c⟩ := e
    by_cases h : k' = k <;> simp [put, h, ih]

theorem put_of_lookup {k : κ} {a : α} {es : List (κ × α)} (h : lookup k es = some a) :
    put k a es = es := by
  induction es with
  | nil => cases h
  | cons e es ih =>
    obtain ⟨k', b⟩ := e
    unfold lookup at h
    unfold put
    split at h
    · next heq =>
      cases h
      rw [if_pos heq, heq]
    · next hne => rw [if_neg hne, ih h]

/-- Only the last of two values stays. -/
theorem insert_insert (d : Dictionary κ α) (k : κ) (a b : α) :
    (d.insert k a).insert k b = d.insert k b :=
  congrArg mk (put_put k a b d.entries)

/-- Giving a key the value that it has changes nothing. -/
theorem insert_of_get? {d : Dictionary κ α} {k : κ} {a : α} (h : d.get? k = some a) :
    d.insert k a = d :=
  congrArg mk (put_of_lookup h)

theorem lookup_filter_ne (k k' : κ) (es : List (κ × α)) :
    lookup k' (es.filter fun e => decide (e.1 ≠ k)) = if k = k' then none else lookup k' es := by
  induction es with
  | nil => simp [lookup]
  | cons e es ih =>
    obtain ⟨k₁, b⟩ := e
    by_cases h : k₁ = k
    · subst h
      simp only [ne_eq, not_true_eq_false, decide_false, Bool.false_eq_true, not_false_eq_true,
        List.filter_cons_of_neg, lookup]
      rw [show (fun e : κ × α => decide ¬ e.1 = k₁) = fun e => decide (e.1 ≠ k₁) from rfl, ih]
      split <;> rfl
    · rw [List.filter_cons_of_pos (by simpa using h)]
      unfold lookup
      rw [ih]
      by_cases h₁ : k₁ = k'
      · subst h₁; simp [Ne.symm h]
      · simp [h₁]

theorem get?_erase (d : Dictionary κ α) (k k' : κ) :
    (d.erase k).get? k' = if k = k' then none else d.get? k' :=
  lookup_filter_ne k k' d.entries

end Dictionary

end Harbor
