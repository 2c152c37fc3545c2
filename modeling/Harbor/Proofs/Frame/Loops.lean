import Harbor.Proofs.Frame.Lines

/-!
# Loops that read

A conversation is a loop. Each pass reads once and, by what the read finds, comes to the
result of the loop or goes on with the octets that the read has left. It goes on only
when the read has found a message, and a message takes octets, so the loop comes to its
result on every finite input.

Main results:

* `Reader.Progresses`: what makes a reader fit for such a loop.
* `Loop.Run.flatten_append`: the reads of a run take the input piece by piece from the
  front.
* `Loop.Computes.ends`: a loop comes to its result within one read more than there are octets.
-/

namespace Harbor

/-! ## Readers -/

namespace Reader

variable {α : Type}

/-- The reader makes progress. A finding that is not a message says that the stream has
    ended. -/
structure Progresses (r : Reader α) (IsMessage : α → Prop) : Prop where
  /-- A tail is left, whatever is found. -/
  consumes : r.Consumes
  /-- A message takes at least one octet. -/
  shorter : ∀ {bs a}, (r bs).1 = .ok a → IsMessage a → (r bs).2.length < bs.length
  /-- Only where no octet is left has the stream ended. -/
  ended : ∀ {bs a}, (r bs).1 = .ok a → ¬ IsMessage a → bs = []

theorem Progresses.of_forall {r : Reader α} (hconsumes : r.Consumes)
    (hshorter : ∀ {bs a}, (r bs).1 = .ok a → (r bs).2.length < bs.length) :
    r.Progresses fun _ => True where
  consumes := hconsumes
  shorter h _ := hshorter h
  ended _ h := absurd trivial h

theorem Progresses.of_option {r : Reader (Option α)} (hconsumes : r.Consumes)
    (hshorter : ∀ {bs a}, (r bs).1 = .ok (some a) → (r bs).2.length < bs.length)
    (hended : ∀ {bs}, (r bs).1 = .ok none → bs = []) : r.Progresses fun a? => a? ≠ none where
  consumes := hconsumes
  shorter {bs a?} h hmessage := by
    cases a? with
    | none => exact absurd rfl hmessage
    | some a => exact hshorter h
  ended {bs a?} h hnone := by
    rw [Classical.not_not.1 hnone] at h
    exact hended h

theorem some_ne_none (r : Reader α) (bs : Octets) :
    ((do return some (← r) : Reader (Option α)) bs).1 ≠ .ok none := by
  rw [bind_apply]
  rcases r bs with ⟨_ | a, rest⟩ <;> exact nofun

end Reader

/-- Where a message begins with a line, the stream has ended if there is no line. -/
theorem Frame.eq_nil_of_read {α : Type} {k : Option String → Reader (Option α)} {bs : Octets}
    (hk : ∀ line rest, (k (some line) rest).1 ≠ .ok none)
    (h : ((readLine >>= k) bs).1 = .ok none) : bs = [] := by
  rw [Reader.bind_apply] at h
  rcases hline : readLine bs with ⟨_ | _ | line, rest⟩ <;> rw [hline] at h
  · cases h
  · exact (readLine_eq_none_iff.1 hline).1
  · exact absurd h (hk line rest)

/-! ## Loops -/

/-- A loop that reads once in each pass. -/
structure Loop (σ α ρ : Type) where
  reader : Reader α
  /-- The findings that are messages. -/
  IsMessage : α → Prop
  /-- One pass from a state: the result of the loop or the state it goes on with, and the
      octets that are left. -/
  pass : σ → Octets → (ρ ⊕ σ) × Octets
  progresses : reader.Progresses IsMessage
  /-- A pass knows of the octets only what its read finds. -/
  pass_congr : ∀ s {bs bs'}, (reader bs).1 = (reader bs').1 → (pass s bs).1 = (pass s bs').1
  /-- A pass leaves what its read leaves. -/
  pass_rest : ∀ s bs, (pass s bs).2 = (reader bs).2
  /-- It takes a message for the loop to go on. -/
  message_of_goes_on : ∀ {s s' bs}, (pass s bs).1 = .inr s' →
    ∃ a, (reader bs).1 = .ok a ∧ IsMessage a

namespace Loop

variable {σ α ρ : Type} {l : Loop σ α ρ} {s : σ} {bs left : Octets} {reads : List Octets} {r : ρ}

/-- The loop started in a state on an input: the octets that each of its reads takes, the
    result it comes to and the octets it leaves. -/
inductive Run (l : Loop σ α ρ) : σ → Octets → List Octets → ρ → Octets → Prop where
  | last {s : σ} {taken rest : Octets} {r : ρ} :
    l.pass s (taken ++ rest) = (.inl r, rest) → Run l s (taken ++ rest) [taken] r rest
  | more {s s' : σ} {taken rest left : Octets} {reads : List Octets} {r : ρ} :
    l.pass s (taken ++ rest) = (.inr s', rest) → Run l s' rest reads r left →
      Run l s (taken ++ rest) (taken :: reads) r left

theorem pass_consumes (l : Loop σ α ρ) (s : σ) (bs : Octets) : (l.pass s bs).2 <:+ bs := by
  rw [l.pass_rest]
  exact l.progresses.consumes bs

theorem pass_shorter {s' : σ} (h : (l.pass s bs).1 = .inr s') :
    (l.pass s bs).2.length < bs.length := by
  obtain ⟨a, hfound, hmessage⟩ := l.message_of_goes_on h
  rw [l.pass_rest]
  exact l.progresses.shorter hfound hmessage

/-- Each read goes on where the one before stopped. -/
theorem Run.flatten_append (h : l.Run s bs reads r left) : reads.flatten ++ left = bs := by
  induction h with
  | last => rw [List.flatten_singleton]
  | more _ _ ih => rw [List.flatten_cons, List.append_assoc, ih]

/-- Every read but the last takes an octet. -/
theorem Run.length_le (h : l.Run s bs reads r left) : reads.length ≤ bs.length + 1 := by
  induction h with
  | last => exact Nat.le_add_left 1 _
  | @more s s' taken rest left reads r hpass _ ih =>
    have hshorter : rest.length < (taken ++ rest).length := by
      have h := l.pass_shorter (congrArg Prod.fst hpass)
      rwa [hpass] at h
    exact Nat.succ_le_succ (Nat.le_trans ih hshorter)

theorem exists_run (l : Loop σ α ρ) (s : σ) (bs : Octets) :
    ∃ reads r left, l.Run s bs reads r left := by
  -- on the number of octets: a pass after which the loop goes on has taken a message
  induction hn : bs.length using Nat.strongRecOn generalizing s bs with
  | _ n ih =>
    have hshorter {s'} := @pass_shorter _ _ _ l s bs s'
    obtain ⟨taken, htaken⟩ := l.pass_consumes s bs
    rcases hpass : l.pass s bs with ⟨r | s', rest⟩
    · rw [hpass] at htaken
      subst htaken
      exact ⟨[taken], r, rest, .last hpass⟩
    · rw [hpass] at hshorter htaken
      obtain ⟨reads, r, left, hrun⟩ := ih rest.length (hn ▸ hshorter rfl) s' rest rfl
      subst htaken
      exact ⟨taken :: reads, r, left, .more hpass hrun⟩

/-- The loop comes to a result within one read more than there are octets, and no octet is
    read twice. -/
def EndsWith (l : Loop σ α ρ) (s : σ) (bs : Octets) (r : ρ) (left : Octets) : Prop :=
  ∃ reads, l.Run s bs reads r left ∧ reads.length ≤ bs.length + 1 ∧ reads.flatten ++ left = bs

/-- The function does what a pass does, and then what it does after that. -/
def Computes (l : Loop σ α ρ) (result : σ → Octets → ρ) : Prop :=
  ∀ s bs, result s bs = match l.pass s bs with
    | (.inl r, _) => r
    | (.inr s', rest) => result s' rest

theorem Computes.eq_of_run {result : σ → Octets → ρ} (h : l.Computes result)
    (hrun : l.Run s bs reads r left) : result s bs = r := by
  induction hrun with
  | last hpass => rw [h, hpass]
  | more hpass _ ih => rw [h, hpass, ← ih]

/-- What computes the loop gives the result that the loop comes to. -/
theorem Computes.ends {result : σ → Octets → ρ} (h : l.Computes result) (s : σ) (bs : Octets) :
    ∃ left, l.EndsWith s bs (result s bs) left := by
  obtain ⟨reads, r, left, hrun⟩ := l.exists_run s bs
  rw [h.eq_of_run hrun]
  exact ⟨left, reads, hrun, hrun.length_le, hrun.flatten_append⟩

end Loop

end Harbor
