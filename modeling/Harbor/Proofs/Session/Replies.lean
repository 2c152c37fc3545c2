import Harbor.Proofs.Files.Reading
import Harbor.Proofs.Session.History
import Harbor.Proofs.Session.RoundTrip
import Harbor.Session.Service

/-!
# What fits into a reply

The failures that name a session, a key or a document are single lines when the name
is one, and longer than the name by little. Documents and values fit when the files
beneath the root and the bodies that were posted do.

Main results:

* `replyToFailure_of_get`, `mentions_message_of_read`: how long a failure is in words.
* `size_le_of_read`: a document fits when the files beneath the root do.
* `Table.All.takes`, `Table.All.perform`: what holds of all values goes on to, if it holds of
  what is stored.
-/

namespace Harbor

/-- A single line of at most so many octets. -/
def ShortLine (limit : Nat) (s : String) : Prop := Frame.IsLine s ∧ Text.size s ≤ limit

instance (limit : Nat) (s : String) : Decidable (ShortLine limit s) :=
  inferInstanceAs (Decidable (_ ∧ _))

namespace ShortLine

variable {m n : Nat} {s t : String}

theorem append (hs : ShortLine m s) (ht : ShortLine n t) : ShortLine (m + n) (s ++ t) := by
  refine ⟨hs.1.append ht.1, ?_⟩
  rw [Text.size_append]
  exact Nat.add_le_add hs.2 ht.2

theorem mono (hs : ShortLine m s) (h : m ≤ n) : ShortLine n s := ⟨hs.1, Nat.le_trans hs.2 h⟩

end ShortLine

/-- A text with a name in it, or without one, and little else. -/
inductive Mentions (extra : Nat) (name : String) : String → Prop
  | without {s : String} : ShortLine extra s → Mentions extra name s
  | around {m n : Nat} {front back : String} : ShortLine m front → ShortLine n back →
      m + n ≤ extra → Mentions extra name (front ++ name ++ back)

namespace Mentions

variable {extra n : Nat} {name s : String}

theorem at_end {front : String} (hfront : ShortLine n front) (hle : n ≤ extra) :
    Mentions extra name (front ++ name) := by
  have hback : ShortLine 0 "" := by decide
  have h : Mentions extra name (front ++ name ++ "") := .around hfront hback hle
  rwa [String.append_empty] at h

/-- It is a single line if the name is one. -/
theorem shortLine (h : Mentions extra name s) (hname : ShortLine n name) :
    ShortLine (n + extra) s := by
  cases h with
  | without hs => exact hs.mono (Nat.le_add_left ..)
  | around hfront hback hle => exact ((hfront.append hname).append hback).mono (by omega)

/-- It is longer than the name by little. -/
theorem size_le (h : Mentions extra name s) : Text.size s ≤ Text.size name + extra := by
  cases h with
  | without hs => exact Nat.le_trans hs.2 (Nat.le_add_left ..)
  | around hfront hback hle =>
    have := hfront.2
    have := hback.2
    rw [Text.size_append, Text.size_append]
    omega

theorem mono {extra' : Nat} (h : Mentions extra name s) (hle : extra ≤ extra') :
    Mentions extra' name s := by
  cases h with
  | without hs => exact .without (hs.mono hle)
  | around hfront hback hsum => exact .around hfront hback (Nat.le_trans hsum hle)

end Mentions

/-! ## Failures in words -/

theorem SessionId.shortLine_text (id : SessionId) : ShortLine 20 id.text :=
  ⟨Frame.isLine_toString _, Frame.size_number_le id.number.toNat_lt_size⟩

namespace Session

open Files (DocumentRoot DocumentError)

theorem shortLine_message_notFound (id : SessionId) : ShortLine 64 (Error.notFound id).message := by
  have h : ShortLine 19 "Unknown session id " := by decide
  exact (h.append id.shortLine_text).mono (by omega)

theorem mentions_message_keyNotFound (id : SessionId) (key : String) :
    Mentions 64 key (Error.keyNotFound id key).message := by
  have h₁ : ShortLine 12 "Unknown key " := by decide
  have h₂ : ShortLine 13 " for session " := by decide
  have h : Mentions 64 key ("Unknown key " ++ key ++ (" for session " ++ id.text)) :=
    .around h₁ (h₂.append id.shortLine_text) (by omega)
  rwa [← String.append_assoc] at h

/-- A failed get is told to the client. -/
theorem replyToFailure_of_get {t : Table} {id : SessionId} {key : String} {e : Error}
    (h : t.get id key = .error e) :
    replyToFailure e = .ok (.error e.message) ∧ Mentions 64 key e.message := by
  unfold Table.get at h
  split at h
  · cases h
    exact ⟨rfl, .without (shortLine_message_notFound id)⟩
  · split at h <;> cases h
    exact ⟨rfl, mentions_message_keyNotFound id key⟩

theorem mentions_message_of_read {docs : DocumentRoot} {name : String} {e : DocumentError}
    (h : docs.read name = .error e) : Mentions 96 name e.message := by
  have hcauses : ∀ cause ∈ Files.FileSystem.failures, ShortLine 64 cause.message := by
    decide +kernel
  have hfile : ShortLine 5 "File " := by decide
  rcases DocumentRoot.read_eq_error h with rfl | rfl | rfl | rfl | ⟨cause, hcause, rfl⟩
  · have : ShortLine 29 DocumentError.emptyName.message := by decide
    exact .without (this.mono (by omega))
  · have h₁ : ShortLine 22 "Invalid document name " := by decide
    exact .at_end h₁ (by omega)
  · have h₂ : ShortLine 15 " does not exist" := by decide
    exact .around hfile h₂ (by omega)
  · have h₂ : ShortLine 19 " is not a text file" := by decide
    exact .around hfile h₂ (by omega)
  · have h₁ : ShortLine 15 "Failed to read " := by decide
    have h₂ : ShortLine 2 ": " := by decide
    have hmention : Mentions 96 name ("Failed to read " ++ name ++ (": " ++ cause.message)) :=
      .around h₁ (h₂.append (hcauses cause hcause)) (by omega)
    rwa [← String.append_assoc] at hmention

/-! ## Bodies -/

/-- Every file that steps down from the root lead to has at most as many octets as
    content may have. -/
def FilesFit (docs : DocumentRoot) : Prop :=
  ∀ contents, docs.Holds contents → contents.length ≤ Frame.maxBody

/-- No file anywhere is too large if none of the file system is. -/
theorem filesFit_of_entries {docs : DocumentRoot}
    (h : ∀ path contents, (path, .file contents) ∈ docs.files.nodes.entries →
      contents.length ≤ Frame.maxBody) : FilesFit docs := by
  rintro contents ⟨steps, -, hread⟩
  obtain ⟨path, hnode⟩ := Files.FileSystem.exists_file_of_read hread
  unfold Files.FileSystem.node? at hnode
  split at hnode
  · cases hnode
  · exact h path contents (Dictionary.mem_of_lookup hnode)

theorem size_le_of_read {docs : DocumentRoot} {name text : String} (hdocs : FilesFit docs)
    (h : docs.read name = .ok text) : Text.size text ≤ Frame.maxBody := by
  rw [← Text.length_encode]
  exact hdocs _ (DocumentRoot.read_eq_ok h)

namespace Table

section All

variable {P : String → String → Prop}

/-- Every value has the property together with its key. -/
def All (P : String → String → Prop) (t : Table) : Prop :=
  ∀ id values key value, t.session? id = some values → values.get? key = some value → P key value

/-- What the deed stores has the property. -/
def Deed.Stores (P : String → String → Prop) : Deed → Prop
  | .stored _ key value => P key value
  | _ => True

theorem all_new : new.All P := fun _ _ _ _ h => nomatch h

theorem All.takes {t t' : Table} {d : Deed} (ht : t.All P) (htakes : d.Takes t t')
    (hd : d.Stores P) : t'.All P := by
  intro id values key value hvalues hvalue
  rw [htakes.session?_eq] at hvalues
  cases d with
  | nothing => exact ht id values key value hvalues hvalue
  | opened id' =>
    rw [Deed.sessionAfter?] at hvalues
    split at hvalues
    · cases hvalues
      cases hvalue
    · exact ht id values key value hvalues hvalue
  | closed id' =>
    rw [Deed.sessionAfter?] at hvalues
    split at hvalues
    · cases hvalues
    · exact ht id values key value hvalues hvalue
  | stored id' key' value' =>
    rw [Deed.sessionAfter?] at hvalues
    split at hvalues
    · obtain ⟨before, hbefore, rfl⟩ := Option.map_eq_some_iff.1 hvalues
      rw [Dictionary.get?_insert] at hvalue
      split at hvalue
      · next hkey =>
        cases hvalue
        rw [← hkey]
        exact hd
      · exact ht id before key value hbefore hvalue
    · exact ht id values key value hvalues hvalue

/-- What the command can store has the property. -/
def Command.Stores (P : String → String → Prop) : Command → Prop
  | .put _ key value => P key value
  | _ => True

theorem Deed.stores_of {c : Command} (hc : c.Stores P) (result : Except Error Answer) :
    (Deed.of c result).Stores P := by
  unfold Deed.of
  split
  case h_3 => exact hc
  all_goals trivial

theorem All.perform {t : Table} (ht : t.All P) {c : Command} (hc : c.Stores P) :
    (t.perform c).1.All P :=
  ht.takes (Deed.takes_perform t c) (Deed.stores_of hc _)

theorem All.of_get {t : Table} (ht : t.All P) {id : SessionId} {key value : String}
    (h : t.get id key = .ok value) : P key value := by
  unfold get at h
  split at h
  · cases h
  · next values hvalues =>
    split at h <;> cases h
    next hvalue => exact ht id values key value hvalues hvalue

end All

/-- Every value has at most as many octets as content may have. -/
def Fits (t : Table) : Prop := t.All fun _ value => Text.size value ≤ Frame.maxBody

/-- The value that a command stores has at most as many octets as content may have. -/
def Command.Fits (c : Command) : Prop := c.Stores fun _ value => Text.size value ≤ Frame.maxBody

end Table

end Session

end Harbor
