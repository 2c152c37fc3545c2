import Harbor.Session.Table

/-!
# Sessions and their history

A `Deed` is what one command of a history does to the sessions, read off the command
and its answer alone. What a table holds is a function of the deeds: a session is open
if it was opened and not closed since, and a key has the value last stored under it
since the session was opened.

`Deed.Takes` is all that a command can do, and `Follows` the invariant that links a
table to its history. The ids opened are one, two, three and so on, which is why no id
is opened twice.

Main results:

* `takes_perform`: every command is its deed.
* `follows_run`: after every run the table is what the history says.
* `answers_run`: what each command answers after a run.
-/

namespace Harbor

namespace SessionId

/-- The session id with a given number, if it is a number of 64 bits. -/
def ofNat? (n : Nat) : Option SessionId := if n < UInt64.size then some ⟨UInt64.ofNat n⟩ else none

theorem ofNat?_eq_some_iff {n : Nat} {id : SessionId} :
    ofNat? n = some id ↔ id.number.toNat = n := by
  have hlt := id.number.toNat_lt_size
  unfold ofNat?
  constructor
  · intro h
    split at h
    · next hn =>
      cases h
      exact (UInt64.toNat_ofNat' ..).trans (Nat.mod_eq_of_lt hn)
    · cases h
  · rintro rfl
    rw [if_pos hlt, UInt64.ofNat_toNat]

theorem ofNat?_eq_none_iff {n : Nat} : ofNat? n = none ↔ UInt64.size ≤ n := by
  unfold ofNat?
  split
  · next h => exact iff_of_false (Option.some_ne_none _) (Nat.not_le.2 h)
  · next h => exact iff_of_true rfl (Nat.not_lt.1 h)

theorem next?_eq (id : SessionId) : id.next? = ofNat? (id.number.toNat + 1) := by
  cases h : id.next? with
  | some n => exact (ofNat?_eq_some_iff.2 (number_of_next? h)).symm
  | none =>
    unfold next? at h
    split at h
    · cases h
    · next hlt =>
      have : ¬ id.number.toNat < UInt64.size - 1 := hlt
      exact (ofNat?_eq_none_iff.2 (by omega)).symm

end SessionId

namespace Session.Table

/-! ## Deeds -/

/-- What a command does to the sessions. -/
inductive Deed where
  | opened (id : SessionId)
  | closed (id : SessionId)
  | stored (id : SessionId) (key value : String)
  | nothing
  deriving DecidableEq

namespace Deed

/-- The deed of a command, by its answer. -/
def of : Command → Except Error Answer → Deed
  | .openSession, .ok (.opened id) => opened id
  | .close id, .ok _ => closed id
  | .put id key value, .ok _ => stored id key value
  | _, _ => nothing

/-- The id that a deed opens. -/
def openedId? : Deed → Option SessionId
  | opened id => some id
  | _ => none

/-- The value that a deed stores under a key of a session. -/
def storedAt? (id : SessionId) (key : String) : Deed → Option String
  | stored id' key' value => if id' = id ∧ key' = key then some value else none
  | _ => none

end Deed

/-- The session that a command is about. -/
def Command.session? : Command → Option SessionId
  | .openSession => none
  | .resume id | .close id | .get id _ | .put id _ _ => some id

/-- The deeds of a run. -/
def history (t : Table) (cs : List Command) : List Deed := List.zipWith Deed.of cs (t.run cs).2

/-- The ids that deeds open, in order. -/
def openedIds (deeds : List Deed) : List SessionId := deeds.filterMap Deed.openedId?

/-- The session was opened, `after` is what came then, and it was not closed in it. -/
def OpenSince (id : SessionId) (deeds after : List Deed) : Prop :=
  ∃ before, deeds = before ++ .opened id :: after ∧ .closed id ∉ after

/-- The value last stored under a key of a session. -/
def lastStored (id : SessionId) (key : String) (deeds : List Deed) : Option String :=
  (deeds.filterMap (Deed.storedAt? id key)).getLast?

/-! ## One more deed -/

section Append

variable {id : SessionId} {key : String} {deeds after : List Deed} {d : Deed}

theorem filterMap_concat {α β : Type} (f : α → Option β) (l : List α) (a : α) :
    (l ++ [a]).filterMap f = l.filterMap f ++ (f a).toList := by
  rw [List.filterMap_append]
  cases h : f a with
  | none => rw [List.filterMap_cons_none h, List.filterMap_nil, Option.toList_none]
  | some b => rw [List.filterMap_cons_some h, List.filterMap_nil, Option.toList_some]

theorem openSince_concat : OpenSince id (deeds ++ [d]) after ↔ (d = .opened id ∧ after = []) ∨
    ∃ after', after = after' ++ [d] ∧ OpenSince id deeds after' ∧ d ≠ .closed id := by
  constructor
  · rintro ⟨before, heq, hclosed⟩
    -- the session was opened by the last deed, or by one of those before it
    rcases List.eq_nil_or_concat after with rfl | ⟨after', e, rfl⟩
    · obtain ⟨rfl, hcons⟩ := List.append_inj' heq rfl
      cases hcons
      exact .inl ⟨rfl, rfl⟩
    · rw [List.concat_eq_append] at heq hclosed ⊢
      rw [← List.cons_append, ← List.append_assoc] at heq
      obtain ⟨rfl, hcons⟩ := List.append_inj' heq rfl
      cases hcons
      rw [List.mem_append, List.mem_singleton, not_or] at hclosed
      exact .inr ⟨after', rfl, ⟨before, rfl, hclosed.1⟩, Ne.symm hclosed.2⟩
  · rintro (⟨rfl, rfl⟩ | ⟨after', rfl, ⟨before, rfl, hclosed⟩, hd⟩)
    · exact ⟨deeds, rfl, List.not_mem_nil⟩
    · exact ⟨before, by simp, by simp [hclosed, Ne.symm hd]⟩

theorem lastStored_concat : lastStored id key (deeds ++ [d]) =
    (d.storedAt? id key).or (lastStored id key deeds) := by
  unfold lastStored
  rw [filterMap_concat]
  cases d.storedAt? id key with
  | none => rw [Option.toList_none, List.append_nil, Option.none_or]
  | some value => rw [Option.toList_some, List.getLast?_concat, Option.some_or]

theorem opened_mem_iff : .opened id ∈ deeds ↔ id ∈ openedIds deeds := by
  rw [openedIds, List.mem_filterMap]
  constructor
  · exact fun h => ⟨_, h, rfl⟩
  · rintro ⟨d, hd, heq⟩
    cases d <;> cases heq
    exact hd

end Append

/-! ## What a command can do -/

namespace Deed

variable {t t' : Table}

/-- The values of a session after a deed. -/
def sessionAfter? (t : Table) (id : SessionId) : Deed → Option Values
  | opened id' => if id' = id then some .empty else t.session? id
  | closed id' => if id' = id then none else t.session? id
  | stored id' key value =>
    if id' = id then (t.session? id).map (·.insert key value) else t.session? id
  | nothing => t.session? id

/-- The next id after a deed. -/
def nextAfter? (t : Table) : Deed → Option SessionId
  | opened id => id.next?
  | _ => t.next?

/-- What a table must be for the deed to be done on it: the id opened is the next one, and
    only open sessions are closed or stored into. -/
def Possible (t : Table) : Deed → Prop
  | opened id => t.next? = some id
  | closed id => (t.session? id).isSome
  | stored id _ _ => (t.session? id).isSome
  | nothing => True

/-- The deed takes one table to another. -/
structure Takes (d : Deed) (t t' : Table) : Prop where
  possible : d.Possible t
  next?_eq : t'.next? = d.nextAfter? t
  session?_eq : ∀ id, t'.session? id = d.sessionAfter? t id

theorem takes_nothing (t : Table) : nothing.Takes t t := ⟨trivial, rfl, fun _ => rfl⟩

/-- Every command is its deed. -/
theorem takes_perform (t : Table) (c : Command) :
    (of c (t.perform c).2).Takes t (t.perform c).1 := by
  cases c with
  | openSession =>
    rw [perform, openSession]
    cases h : t.next? with
    | none => exact takes_nothing t
    | some id => exact ⟨h, rfl, fun id' => Dictionary.get?_insert _ _ _ _⟩
  | resume id => exact takes_nothing t
  | close id =>
    rw [perform, close]
    by_cases h : t.isOpen id
    · rw [if_pos h]
      exact ⟨h, rfl, fun id' => Dictionary.get?_erase _ _ _⟩
    · rw [if_neg h]
      exact takes_nothing t
  | get id key =>
    rw [perform]
    cases t.get id key <;> exact takes_nothing t
  | put id key value =>
    rw [perform, put]
    cases h : t.session? id with
    | none => exact takes_nothing t
    | some values =>
      refine ⟨Option.isSome_of_eq_some h, rfl, fun id' => ?_⟩
      show (t.sessions.insert id (values.insert key value)).get? id' =
        if id = id' then (t.session? id').map (·.insert key value) else t.session? id'
      rw [Dictionary.get?_insert]
      by_cases heq : id = id'
      · rw [if_pos heq, if_pos heq, ← heq, h, Option.map_some]
      · rw [if_neg heq, if_neg heq]
        rfl

end Deed

/-! ## Runs -/

/-- The table is what the history says. -/
structure Follows (t : Table) (deeds : List Deed) : Prop where
  /-- The ids opened so far count up from one. -/
  openedIds_eq : (openedIds deeds).map (·.number.toNat) = List.range' 1 (openedIds deeds).length
  next?_eq : t.next? = SessionId.ofNat? ((openedIds deeds).length + 1)
  isSome_iff : ∀ id, (t.session? id).isSome ↔ ∃ after, OpenSince id deeds after
  get?_eq : ∀ id after values key, t.session? id = some values → OpenSince id deeds after →
    values.get? key = lastStored id key after
  of_closed_mem : ∀ id, .closed id ∈ deeds → .opened id ∈ deeds ∧ t.session? id = none

theorem follows_new : new.Follows [] where
  openedIds_eq := rfl
  next?_eq := rfl
  isSome_iff id := by
    constructor
    · intro h
      cases h
    · rintro ⟨after, before, heq, -⟩
      simp at heq
  get?_eq id after values key h := nomatch h
  of_closed_mem id h := nomatch h

section Run

variable {t t' : Table} {deeds : List Deed} {d : Deed} {id : SessionId}

/-- Every id opened so far is below the next one. -/
theorem Follows.number_le (h : t.Follows deeds) (hid : .opened id ∈ deeds) :
    id.number.toNat ≤ (openedIds deeds).length := by
  have hmem : id.number.toNat ∈ (openedIds deeds).map (·.number.toNat) :=
    List.mem_map_of_mem (opened_mem_iff.1 hid)
  rw [h.openedIds_eq, List.mem_range'_1] at hmem
  omega

theorem Follows.number_of_next? (h : t.Follows deeds) (hid : t.next? = some id) :
    id.number.toNat = (openedIds deeds).length + 1 :=
  SessionId.ofNat?_eq_some_iff.1 (h.next?_eq.symm.trans hid)

/-- The next id has not been opened. -/
theorem Follows.opened_not_mem (h : t.Follows deeds) (hid : t.next? = some id) :
    .opened id ∉ deeds := by
  intro hmem
  have h₁ := h.number_le hmem
  have h₂ := h.number_of_next? hid
  omega

theorem OpenSince.opened_mem {after : List Deed} (h : OpenSince id deeds after) :
    .opened id ∈ deeds := by
  obtain ⟨before, rfl, -⟩ := h
  simp

theorem openedIds_concat :
    openedIds (deeds ++ [d]) = openedIds deeds ++ d.openedId?.toList :=
  filterMap_concat ..

theorem Follows.openedIds_eq_concat (h : t.Follows deeds) (hd : d.Takes t t') :
    (openedIds (deeds ++ [d])).map (·.number.toNat) =
        List.range' 1 (openedIds (deeds ++ [d])).length ∧
      t'.next? = SessionId.ofNat? ((openedIds (deeds ++ [d])).length + 1) := by
  rw [openedIds_concat, hd.next?_eq]
  cases d with
  | opened id =>
    have hnumber := h.number_of_next? hd.possible
    rw [Deed.nextAfter?, SessionId.next?_eq, hnumber, Deed.openedId?, Option.toList_some,
      List.map_append, h.openedIds_eq, List.length_append, List.length_singleton,
      List.range'_concat]
    simp [hnumber, Nat.add_comm]
  | _ =>
    simp only [Deed.openedId?, Deed.nextAfter?, Option.toList_none, List.append_nil]
    exact ⟨h.openedIds_eq, h.next?_eq⟩

theorem isSome_sessionAfter? : (d.sessionAfter? t id).isSome ↔
    d = .opened id ∨ (d ≠ .closed id ∧ (t.session? id).isSome) := by
  unfold Deed.sessionAfter?
  cases d with
  | opened id' => by_cases h : id' = id <;> simp [h]
  | closed id' => by_cases h : id' = id <;> simp [h]
  | stored id' key value => by_cases h : id' = id <;> simp [h]
  | nothing => simp

theorem exists_openSince_concat : (∃ after, OpenSince id (deeds ++ [d]) after) ↔
    d = .opened id ∨ (d ≠ .closed id ∧ ∃ after, OpenSince id deeds after) := by
  constructor
  · rintro ⟨after, h⟩
    rcases openSince_concat.1 h with ⟨rfl, -⟩ | ⟨after', -, hsince, hne⟩
    · exact .inl rfl
    · exact .inr ⟨hne, after', hsince⟩
  · rintro (rfl | ⟨hne, after, hsince⟩)
    · exact ⟨[], openSince_concat.2 (.inl ⟨rfl, rfl⟩)⟩
    · exact ⟨_, openSince_concat.2 (.inr ⟨after, rfl, hsince, hne⟩)⟩

theorem Follows.get?_concat (h : t.Follows deeds) (hd : d.Takes t t') {after : List Deed}
    {values : Values} {key : String} (hvalues : t'.session? id = some values)
    (hsince : OpenSince id (deeds ++ [d]) after) : values.get? key = lastStored id key after := by
  rw [hd.session?_eq] at hvalues
  rcases openSince_concat.1 hsince with ⟨rfl, rfl⟩ | ⟨after', rfl, hsince', hne⟩
  · -- a new session is empty
    rw [Deed.sessionAfter?, if_pos rfl] at hvalues
    cases hvalues
    rfl
  · rw [lastStored_concat]
    cases d with
    | opened id' =>
      have hid : id' ≠ id := by
        rintro rfl
        exact h.opened_not_mem hd.possible hsince'.opened_mem
      rw [Deed.sessionAfter?, if_neg hid] at hvalues
      exact h.get?_eq id after' values key hvalues hsince'
    | closed id' =>
      rw [Deed.sessionAfter?, if_neg fun hid : id' = id => hne (hid ▸ rfl)] at hvalues
      exact h.get?_eq id after' values key hvalues hsince'
    | stored id' key' value =>
      rw [Deed.sessionAfter?] at hvalues
      by_cases hid : id' = id
      · rw [if_pos hid] at hvalues
        obtain ⟨values', hvalues', rfl⟩ := Option.map_eq_some_iff.1 hvalues
        rw [Dictionary.get?_insert, h.get?_eq id after' values' key hvalues' hsince']
        by_cases hkey : key' = key <;> simp [Deed.storedAt?, hid, hkey]
      · rw [if_neg hid] at hvalues
        rw [h.get?_eq id after' values key hvalues hsince', Deed.storedAt?,
          if_neg fun heq => hid heq.1, Option.none_or]
    | nothing => exact h.get?_eq id after' values key hvalues hsince'

/-- A closed session stays closed: only an id that was never opened is opened. -/
theorem Follows.of_closed_mem_concat (h : t.Follows deeds) (hd : d.Takes t t')
    (hmem : .closed id ∈ deeds ++ [d]) : .opened id ∈ deeds ++ [d] ∧ t'.session? id = none := by
  rw [hd.session?_eq, ← Option.not_isSome_iff_eq_none, isSome_sessionAfter?]
  rcases List.mem_append.1 hmem with hmem | hmem
  · obtain ⟨hopened, hnone⟩ := h.of_closed_mem id hmem
    refine ⟨List.mem_append_left _ hopened, ?_⟩
    rintro (rfl | ⟨-, hsome⟩)
    · exact h.opened_not_mem hd.possible hopened
    · rw [hnone] at hsome
      cases hsome
  · obtain rfl := List.mem_singleton.1 hmem
    obtain ⟨after, hsince⟩ := (h.isSome_iff id).1 hd.possible
    refine ⟨List.mem_append_left _ hsince.opened_mem, ?_⟩
    rintro (heq | ⟨hne, -⟩)
    · cases heq
    · exact hne rfl

theorem Follows.concat (h : t.Follows deeds) (hd : d.Takes t t') : t'.Follows (deeds ++ [d]) where
  openedIds_eq := (h.openedIds_eq_concat hd).1
  next?_eq := (h.openedIds_eq_concat hd).2
  isSome_iff id := by
    rw [hd.session?_eq, isSome_sessionAfter?, exists_openSince_concat, h.isSome_iff]
  get?_eq _ _ _ _ := h.get?_concat hd
  of_closed_mem _ := h.of_closed_mem_concat hd

theorem history_cons (t : Table) (c : Command) (cs : List Command) :
    t.history (c :: cs) = Deed.of c (t.perform c).2 :: (t.perform c).1.history cs := rfl

theorem follows_run (h : t.Follows deeds) (cs : List Command) :
    (t.run cs).1.Follows (deeds ++ t.history cs) := by
  induction cs generalizing t deeds with
  | nil => rwa [history, List.zipWith_nil_left, List.append_nil]
  | cons c cs ih =>
    have := ih (h.concat (Deed.takes_perform t c))
    rwa [List.append_assoc, List.singleton_append] at this

/-! ## Answers -/

theorem Follows.length_openedIds_lt (h : t.Follows deeds) :
    (openedIds deeds).length < UInt64.size := by
  rcases List.eq_nil_or_concat (openedIds deeds) with heq | ⟨ids, id, heq⟩
  · rw [heq]
    decide
  · -- the last id opened is their number
    have hlast := congrArg List.getLast? h.openedIds_eq
    rw [heq, List.concat_eq_append, List.map_append, List.map_singleton, List.getLast?_concat,
      List.length_append, List.length_singleton, List.range'_concat, List.getLast?_concat,
      Option.some_inj, Nat.one_mul, Nat.add_comm] at hlast
    rw [heq, List.concat_eq_append, List.length_append, List.length_singleton, ← hlast]
    exact id.number.toNat_lt_size

theorem Follows.session?_eq_none_of_next? (h : t.Follows deeds) (hnext : t.next? = some id) :
    t.session? id = none := by
  rw [← Option.not_isSome_iff_eq_none, h.isSome_iff]
  rintro ⟨after, hsince⟩
  exact h.opened_not_mem hnext hsince.opened_mem

theorem Follows.perform_openSession (h : t.Follows deeds) :
    (∃ id, (t.perform .openSession).2 = .ok (.opened id) ∧
        id.number.toNat = (openedIds deeds).length + 1 ∧ t.session? id = none) ∨
      (openedIds deeds).length = UInt64.size - 1 ∧
        t.perform .openSession = (t, .error .idsExhausted) := by
  have hlt := h.length_openedIds_lt
  rw [perform, openSession]
  cases hnext : t.next? with
  | some id =>
    exact .inl ⟨id, rfl, h.number_of_next? hnext, h.session?_eq_none_of_next? hnext⟩
  | none =>
    have := SessionId.ofNat?_eq_none_iff.1 (h.next?_eq.symm.trans hnext)
    exact .inr ⟨by omega, rfl⟩

theorem Follows.perform_of_open (h : t.Follows deeds) {after : List Deed}
    (hopen : OpenSince id deeds after) :
    t.perform (.resume id) = (t, .ok (.isOpen true)) ∧
    (t.perform (.close id)).2 = .ok .done ∧
    (∀ key value, (t.perform (.put id key value)).2 = .ok .done) ∧
    (∀ key, t.perform (.get id key) = (t, match lastStored id key after with
      | some value => .ok (.value value)
      | none => .error (.keyNotFound id key))) := by
  have hsome := (h.isSome_iff id).2 ⟨after, hopen⟩
  obtain ⟨values, hvalues⟩ := Option.isSome_iff_exists.1 hsome
  refine ⟨?_, ?_, fun key value => ?_, fun key => ?_⟩
  · rw [perform, show t.isOpen id = true from hsome]
  · rw [perform, close, if_pos (show t.isOpen id = true from hsome)]
    rfl
  · rw [perform, put, hvalues]
    rfl
  · simp only [perform, get, hvalues, ← h.get?_eq id after values key hvalues hopen]
    cases values.get? key <;> rfl

theorem Follows.perform_of_not_open (h : t.Follows deeds)
    (hclosed : ¬ ∃ after, OpenSince id deeds after) :
    t.perform (.resume id) = (t, .ok (.isOpen false)) ∧
    t.perform (.close id) = (t, .error (.notFound id)) ∧
    (∀ key value, t.perform (.put id key value) = (t, .error (.notFound id))) ∧
    (∀ key, t.perform (.get id key) = (t, .error (.notFound id))) := by
  rw [← h.isSome_iff, Option.not_isSome_iff_eq_none] at hclosed
  have hopen : t.isOpen id = false := congrArg Option.isSome hclosed
  refine ⟨?_, ?_, fun key value => ?_, fun key => ?_⟩
  · rw [perform, hopen]
  · rw [perform, close, if_neg (by rw [hopen]; exact Bool.false_ne_true)]
    rfl
  · rw [perform, put, hclosed]
    rfl
  · rw [perform, get, hclosed]
    rfl

theorem Follows.isOpen_eq_false (h : t.Follows deeds) (hmem : .closed id ∈ deeds) :
    t.isOpen id = false := by
  show (t.session? id).isSome = false
  rw [(h.of_closed_mem id hmem).2, Option.isSome_none]

theorem sessionAfter?_of (c : Command) (result : Except Error Answer) :
    (Deed.of c result).sessionAfter? t id = t.session? id ∨ c.session? = some id ∨
      (Deed.of c result = .opened id ∧ result = .ok (.opened id)) := by
  unfold Deed.of
  split
  · next id' =>
    by_cases hid : id' = id
    · exact .inr (.inr ⟨hid ▸ rfl, hid ▸ rfl⟩)
    · exact .inl (if_neg hid)
  · next id' _ =>
    by_cases hid : id' = id
    · exact .inr (.inl (congrArg some hid))
    · exact .inl (if_neg hid)
  · next id' key value _ =>
    by_cases hid : id' = id
    · exact .inr (.inl (congrArg some hid))
    · exact .inl (if_neg hid)
  · exact .inl rfl

/-- A session that a command neither is about nor opens has the values it had. -/
theorem Follows.session?_perform (h : t.Follows deeds) (c : Command) (id : SessionId) :
    (t.perform c).1.session? id = t.session? id ∨ c.session? = some id ∨
      ((t.perform c).2 = .ok (.opened id) ∧ t.session? id = none) := by
  have htakes := Deed.takes_perform t c
  rw [htakes.session?_eq]
  rcases sessionAfter?_of c (t.perform c).2 with heq | hid | ⟨hd, hresult⟩
  · exact .inl heq
  · exact .inr (.inl hid)
  · have hnext := htakes.possible
    rw [hd] at hnext
    exact .inr (.inr ⟨hresult, h.session?_eq_none_of_next? hnext⟩)

/-- What the commands answer on a table with a history. -/
structure Answers (t : Table) (deeds : List Deed) : Prop where
  /-- The ids opened are one, two, three and so on. -/
  openedIds_eq : (openedIds deeds).map (·.number.toNat) = List.range' 1 (openedIds deeds).length
  /-- An open gives the number after the last one, to a session that is not there; or
      all the numbers of 64 bits are used up, and then it changes nothing. -/
  openSession :
    (∃ id, (t.perform .openSession).2 = .ok (.opened id) ∧
        id.number.toNat = (openedIds deeds).length + 1 ∧ t.session? id = none) ∨
      (openedIds deeds).length = UInt64.size - 1 ∧
        t.perform .openSession = (t, .error .idsExhausted)
  /-- A session that was opened and not closed since can be used, and a key has the
      value last stored under it since. -/
  of_open : ∀ id after, OpenSince id deeds after →
    t.perform (.resume id) = (t, .ok (.isOpen true)) ∧
    (t.perform (.close id)).2 = .ok .done ∧
    (∀ key value, (t.perform (.put id key value)).2 = .ok .done) ∧
    (∀ key, t.perform (.get id key) = (t, match lastStored id key after with
      | some value => .ok (.value value)
      | none => .error (.keyNotFound id key)))
  /-- Every other session is not found, and nothing changes. -/
  of_not_open : ∀ id, (¬ ∃ after, OpenSince id deeds after) →
    t.perform (.resume id) = (t, .ok (.isOpen false)) ∧
    t.perform (.close id) = (t, .error (.notFound id)) ∧
    (∀ key value, t.perform (.put id key value) = (t, .error (.notFound id))) ∧
    (∀ key, t.perform (.get id key) = (t, .error (.notFound id)))
  /-- A closed session stays closed, whatever is done later. -/
  of_closed : ∀ id, .closed id ∈ deeds → ∀ later, (t.run later).1.isOpen id = false
  /-- A session changes only by a command about it or when it is opened anew. -/
  session?_eq : ∀ c id, (t.perform c).1.session? id = t.session? id ∨ c.session? = some id ∨
    ((t.perform c).2 = .ok (.opened id) ∧ t.session? id = none)

theorem Follows.answers (h : t.Follows deeds) : t.Answers deeds where
  openedIds_eq := h.openedIds_eq
  openSession := h.perform_openSession
  of_open _ _ := h.perform_of_open
  of_not_open _ := h.perform_of_not_open
  of_closed _ hmem later := (follows_run h later).isOpen_eq_false (List.mem_append_left _ hmem)
  session?_eq := h.session?_perform

end Run

/-- After every run of commands on a new table, each command answers what the history
    says. -/
theorem answers_run (cs : List Command) : (new.run cs).1.Answers (new.history cs) :=
  (follows_run follows_new cs).answers

end Session.Table

end Harbor
