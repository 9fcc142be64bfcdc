/-
Reading in pieces is reading at once.

What a reading makes of the bytes of a connection does not depend on how they arrive: the state
after some pieces is the state after all their bytes together.

* **`firstMessage`** — the message that some bytes begin with, told from the bytes alone;
* **`feed_append`** — feeding two pieces is feeding them as one;
* **`result?_feed_start`** — a new reading finds the first message, as soon as it is there;
* **`firstMessage_append`** — bytes that come later do not change it.
-/
import Thumbnailer.Link.Reading

namespace Thumbnailer.Link

variable {α : Type} [Wire.Side α] {limit : Nat}

/-- The message, or the failure, that some bytes begin with, if they are enough to tell. -/
def firstMessage (limit : Nat) (bytes : List UInt8) : Option (Except Error α) :=
  if bytes.length < Wire.Header.size then none
  else
    match Wire.Header.parse limit (bytes.take Wire.Header.size) with
    | .error e => some (.error e)
    | .ok h =>
      let payload := bytes.drop Wire.Header.size
      if payload.length < h.payloadLength then none
      else some (Wire.decode h.kind (payload.take h.payloadLength))

/-- The result of a reading that is done. -/
def Progress.result? : Progress α → Option (Except Error α)
  | .waiting _ => none
  | .done result => some result

namespace Reading

/-- Goes on with bytes that come after those that led to some progress. -/
def resume (limit : Nat) (now : Progress α × List UInt8) (bytes : List UInt8) :
    Progress α × List UInt8 :=
  match now with
  | (.waiting r, _) => r.feed limit bytes
  | (.done result, rest) => (.done result, rest ++ bytes)

/-- A first piece that is used up leaves the rest of a stage to the second. -/
theorem take_pieces {n : Nat} {got a : List UInt8} (b : List UInt8)
    (h : got.length + a.length < n) :
    (a ++ b).take (n - got.length) = a ++ b.take (n - (got ++ a).length) := by
  rw [List.take_append, List.take_of_length_le (by omega), List.length_append, Nat.sub_add_eq]

theorem drop_pieces {n : Nat} {got a : List UInt8} (b : List UInt8)
    (h : got.length + a.length < n) :
    (a ++ b).drop (n - got.length) = b.drop (n - (got ++ a).length) := by
  rw [List.drop_append, List.drop_eq_nil_of_le (by omega), List.nil_append, List.length_append,
    Nat.sub_add_eq]

theorem length_piece {n : Nat} {got a : List UInt8} :
    (got ++ a.take (n - got.length)).length < n ↔ got.length + a.length < n := by
  rw [List.length_append, List.length_take]
  omega

theorem feedPayload_append (h : Wire.Header) (got a b : List UInt8) :
    (feedPayload h got (a ++ b) : Progress α × List UInt8)
      = resume limit (feedPayload h got a) b := by
  by_cases hl : got.length + a.length < h.payloadLength
  · -- the first piece is used up, and the second goes on where it ended
    have hall : a.take (h.payloadLength - got.length) = a := List.take_of_length_le (by omega)
    have hfirst : (feedPayload h got a : Progress α × List UInt8)
        = (.waiting ⟨.payload h, got ++ a⟩, []) := by
      simp only [feedPayload, hall, List.length_append, if_pos hl]
    rw [hfirst]
    simp only [resume, feed, feedPayload, take_pieces b hl, drop_pieces b hl, List.append_assoc]
  · -- the payload is whole, and the second piece is left over
    have hle : h.payloadLength - got.length ≤ a.length := by omega
    simp only [feedPayload, List.take_append_of_le_length hle, List.drop_append_of_le_length hle,
      if_neg (mt length_piece.mp hl), resume]

theorem feedHeader_append (got a b : List UInt8) :
    (feedHeader limit got (a ++ b) : Progress α × List UInt8)
      = resume limit (feedHeader limit got a) b := by
  by_cases hl : got.length + a.length < Wire.Header.size
  · have hall : a.take (Wire.Header.size - got.length) = a := List.take_of_length_le (by omega)
    have hfirst : (feedHeader limit got a : Progress α × List UInt8)
        = (.waiting ⟨.header, got ++ a⟩, []) := by
      simp only [feedHeader, hall, List.length_append, if_pos hl]
    rw [hfirst]
    simp only [resume, feed, feedHeader, take_pieces b hl, drop_pieces b hl, List.append_assoc]
  · -- the header is whole, and the second piece goes to the payload
    have hle : Wire.Header.size - got.length ≤ a.length := by omega
    simp only [feedHeader, List.take_append_of_le_length hle, List.drop_append_of_le_length hle,
      if_neg (mt length_piece.mp hl)]
    cases Wire.Header.parse limit (got ++ a.take (Wire.Header.size - got.length)) with
    | error e => rfl
    | ok h => exact feedPayload_append h [] _ b

/-- Feeding two pieces one after the other is feeding them as one. -/
theorem feed_append (r : Reading) (a b : List UInt8) :
    (r.feed limit (a ++ b) : Progress α × List UInt8) = resume limit (r.feed limit a) b := by
  cases hs : r.stage with
  | header =>
    simp only [feed, hs]
    exact feedHeader_append r.got a b
  | payload h =>
    simp only [feed, hs]
    exact feedPayload_append h r.got a b

theorem feedPayload_waiting {h : Wire.Header} {got bytes rest : List UInt8} {r : Reading}
    (hw : (feedPayload h got bytes : Progress α × List UInt8) = (.waiting r, rest)) :
    rest = [] := by
  simp only [feedPayload] at hw
  split at hw <;> simp_all

/-- A reading that waits has taken all that was there. -/
theorem feed_waiting {r r' : Reading} {bytes rest : List UInt8}
    (hw : (r.feed limit bytes : Progress α × List UInt8) = (.waiting r', rest)) : rest = [] := by
  simp only [feed] at hw
  split at hw
  · simp only [feedHeader] at hw
    split at hw
    · simp_all
    · split at hw
      · simp_all
      · exact feedPayload_waiting hw
  · exact feedPayload_waiting hw

/-- A new reading finds the message that the bytes begin with, as soon as it is there. -/
theorem result?_feed_start (limit : Nat) (bytes : List UInt8) :
    (start.feed limit bytes : Progress α × List UInt8).1.result? = firstMessage limit bytes := by
  have hlen : ∀ {n : Nat} {l : List UInt8}, (l.take n).length < n ↔ l.length < n := by
    intro n l
    rw [List.length_take]
    omega
  simp only [feed, start, feedHeader, List.nil_append, List.length_nil, Nat.sub_zero, hlen,
    firstMessage]
  by_cases hshort : bytes.length < Wire.Header.size
  · simp only [if_pos hshort, Progress.result?]
  · simp only [if_neg hshort]
    cases Wire.Header.parse limit (bytes.take Wire.Header.size) with
    | error e => rfl
    | ok h =>
      simp only [feedPayload, List.nil_append, List.length_nil, Nat.sub_zero, hlen]
      by_cases hmissing : (bytes.drop Wire.Header.size).length < h.payloadLength
      · simp only [if_pos hmissing, Progress.result?]
      · simp only [if_neg hmissing, Progress.result?]

end Reading

/-- Bytes that come later do not change the first message. -/
theorem firstMessage_append {bytes : List UInt8} {result : Except Error α} (more : List UInt8)
    (h : firstMessage limit bytes = some result) :
    firstMessage limit (bytes ++ more) = some result := by
  rw [← Reading.result?_feed_start] at h ⊢
  rw [Reading.feed_append]
  cases hf : (Reading.start.feed limit bytes : Progress α × List UInt8) with
  | mk progress rest =>
    rw [hf] at h
    cases progress with
    | waiting r => cases h
    | done other => exact h

end Thumbnailer.Link
