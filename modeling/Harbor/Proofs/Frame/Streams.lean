import Harbor.Proofs.Frame.Lines

/-!
# Messages one after another

Every message says itself where it ends. Messages written one after another are
therefore read back as they were written, however many there are, and what follows
the last of them is left unread.

Main results:

* `Reader.readEach_flatMap`: one reader for each message.
* `Reader.readAll_flatMap`: one reader for all of them, up to the end of the stream.
-/

namespace Harbor.Reader

variable {α β : Type} {write : β → Octets}

theorem readEach_flatMap {reader : β → Reader α} {received : β → α} {ms : List β}
    (h : ∀ m ∈ ms, (reader m).Reads (write m) (received m)) (rest : Octets) :
    readEach (ms.map reader) (ms.flatMap write ++ rest) =
      (ms.map fun m => .ok (received m), rest) := by
  induction ms with
  | nil => rfl
  | cons m ms ih =>
    rw [List.forall_mem_cons] at h
    have hfirst : reader m (write m ++ (ms.flatMap write ++ rest)) =
        (.ok (received m), ms.flatMap write ++ rest) := h.1 _
    rw [List.map_cons, List.flatMap_cons, List.append_assoc, readEach, hfirst]
    dsimp only
    rw [ih h.2, List.map_cons]

theorem readAll_flatMap {reader : Reader (Option α)} {received : β → α} {ms : List β}
    (h : ∀ m ∈ ms, reader.Reads (write m) (some (received m))) (hne : ∀ m, write m ≠ [])
    (hend : reader [] = (.ok none, [])) :
    readAll reader (ms.flatMap write) = (ms.map received, .ok (), []) := by
  induction ms with
  | nil => rw [List.flatMap_nil, readAll, hend, List.map_nil]
  | cons m ms ih =>
    rw [List.forall_mem_cons] at h
    have hfirst : reader (write m ++ ms.flatMap write) =
        (.ok (some (received m)), ms.flatMap write) := h.1 _
    have hshorter : (ms.flatMap write).length < (write m ++ ms.flatMap write).length := by
      have := List.length_pos_iff.2 (hne m)
      rw [List.length_append]
      omega
    rw [List.flatMap_cons, readAll, hfirst]
    dsimp only
    rw [if_pos hshorter, ih h.2, List.map_cons]

end Harbor.Reader
