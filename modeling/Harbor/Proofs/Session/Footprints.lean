import Harbor.Proofs.Session.Requests

/-!
# The footprint of a request

What an answer says has become of the sessions and of the connection. A request that is
answered with an error, a rejection or a document, and one that is not answered, leave no
trace, also if they fail after the table has been asked. The other answers each stand for
one change: a session is new, one session is gone, or one value is stored.

The changes are told by what can be got from the table under any key of any session. In a
session that is not open it is the session that is not found, and in an open one at most
the key.

Main results:

* `gainsSession`, `losesSession`, `storesValue`: what each deed leaves to be read.
* `footprint_handle`: what handling a request leaves behind.
-/

namespace Harbor.Session

open Files (DocumentRoot)

/-! ## Changes of a table -/

namespace Table

/-- The second table has one more session, without values. If the first is what some
    commands have led to, the session is not open in it. -/
structure GainsSession (t t' : Table) (id : SessionId) : Prop where
  id_eq : t.next? = some id
  fresh : ∀ cs, t = (new.run cs).1 → ¬ t.isOpen id
  next?_eq : t'.next? = id.next?
  get_eq : ∀ i key,
    t'.get i key = if i = id then .error (.keyNotFound i key) else t.get i key

/-- The second table lacks a session that is open in the first. -/
structure LosesSession (t t' : Table) (id : SessionId) : Prop where
  isOpen : t.isOpen id
  next?_eq : t'.next? = t.next?
  get_eq : ∀ i key, t'.get i key = if i = id then .error (.notFound i) else t.get i key

/-- The second table has a value under a key of an open session, in place of what the first
    has there. -/
structure StoresValue (t t' : Table) (id : SessionId) (name value : String) : Prop where
  isOpen : t.isOpen id
  next?_eq : t'.next? = t.next?
  get_eq : ∀ i key, t'.get i key = if i = id ∧ key = name then .ok value else t.get i key

namespace Deed.Takes

variable {t t' : Table} {id : SessionId}

theorem gainsSession (h : (opened id).Takes t t') : t.GainsSession t' id where
  id_eq := h.possible
  fresh cs heq := by
    have hrun := follows_run follows_new cs
    rw [List.nil_append, ← heq] at hrun
    rw [isOpen, Dictionary.contains, ← session?, hrun.session?_eq_none_of_next? h.possible]
    exact Bool.false_ne_true
  next?_eq := h.next?_eq
  get_eq i key := by
    rw [Table.get, h.session?_eq, sessionAfter?, Table.get]
    by_cases hi : i = id
    · rw [if_pos hi.symm, if_pos hi]
      rfl
    · rw [if_neg (Ne.symm hi), if_neg hi]

theorem losesSession (h : (closed id).Takes t t') : t.LosesSession t' id where
  isOpen := h.possible
  next?_eq := h.next?_eq
  get_eq i key := by
    rw [Table.get, h.session?_eq, sessionAfter?, Table.get]
    by_cases hi : i = id
    · rw [if_pos hi.symm, if_pos hi]
    · rw [if_neg (Ne.symm hi), if_neg hi]

theorem storesValue {name value : String} (h : (stored id name value).Takes t t') :
    t.StoresValue t' id name value where
  isOpen := h.possible
  next?_eq := h.next?_eq
  get_eq i key := by
    rw [Table.get, h.session?_eq, sessionAfter?, Table.get]
    by_cases hi : i = id
    · subst hi
      obtain ⟨values, hvalues⟩ := Option.isSome_iff_exists.1 h.possible
      rw [if_pos rfl, hvalues, Option.map_some]
      dsimp only
      rw [Dictionary.get?_insert]
      by_cases hkey : key = name
      · rw [if_pos hkey.symm, if_pos ⟨rfl, hkey⟩]
      · rw [if_neg (Ne.symm hkey), if_neg fun h => hkey h.2]
    · rw [if_neg (Ne.symm hi), if_neg fun h => hi h.1]

end Deed.Takes

end Table

/-! ## Requests -/

/-- What has become of the sessions and of the connection if a request is answered so. -/
def Footprint (store : Store) (b : Binding) (r : Request) (store' : Store) (b' : Binding) :
    Except Connection.Failure Reply → Prop
  | .ok (.accepted id) => b = .unbound ∧ b' = .bound id ∧
      ∃ t t', store = .live t ∧ store' = .live t' ∧
        (r = .resume id ∧ t.isOpen id ∧ t' = t ∨ r = .openSession ∧ t.GainsSession t' id)
  | .ok (.closed id) => r = .close id ∧ b' = (if b = .bound id then .unbound else b) ∧
      ∃ t t', store = .live t ∧ store' = .live t' ∧ t.LosesSession t' id
  | .ok .success => ∃ id name body, r = .post name body ∧ b = .bound id ∧ b' = b ∧
      ∃ t t', store = .live t ∧ store' = .live t' ∧ t.StoresValue t' id name body
  | .ok (.error _) | .ok (.rejected _) | .ok (.document _ _) | .error _ =>
    store' = store ∧ b' = b

/-- Each effect has the footprint of its answer. -/
theorem Effect.footprint {docs : DocumentRoot} {t t' : Table} {b b' : Binding} {r : Request}
    {d : Table.Deed} {answer : Except Connection.Failure Reply}
    (h : Effect docs t b r d b' answer) (htakes : d.Takes t t') (hsame : d = .nothing → t' = t) :
    Footprint (.live t) b r (.live t') b' answer := by
  cases h with
  | opened id => exact ⟨rfl, rfl, t, t', rfl, rfl, .inr ⟨rfl, htakes.gainsSession⟩⟩
  | resumed hopen => exact ⟨rfl, rfl, t, t', rfl, rfl, .inl ⟨rfl, hopen, hsame rfl⟩⟩
  | closed b id => exact ⟨rfl, rfl, t, t', rfl, rfl, htakes.losesSession⟩
  | stored id name body =>
    exact ⟨id, name, body, rfl, rfl, rfl, t, t', rfl, rfl, htakes.storesValue⟩
  | exhausted _ | rejected _ | value _ | file _ _ | refused b r message =>
    exact ⟨by rw [hsame rfl], rfl⟩

/-- Handling a request leaves behind what the answer says, for every table and without one,
    on every connection and for every request. -/
theorem footprint_handle (docs : DocumentRoot) (store : Store) (b : Binding) (r : Request) :
    let (store', b', answer) := handle docs store b r
    Footprint store b r store' b' answer := by
  cases store with
  | live t =>
    obtain ⟨t', d, b', answer, hhandle, htakes, hsame, heffect⟩ := handled docs t b r
    rw [hhandle]
    exact heffect.footprint htakes hsame
  | gone =>
    obtain ⟨answer, hhandle, hanswer⟩ := handle_gone docs b r
    rw [hhandle]
    rcases hanswer with rfl | ⟨message, rfl⟩ | ⟨name, body, rfl⟩ <;> exact ⟨rfl, rfl⟩

end Harbor.Session
