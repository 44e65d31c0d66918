import Highlighter.Text.Encoding

/-!
# Sinks

A sink takes bytes until it is full. Pieces are written one after another until one does not fit;
of that one the sink takes as much as it has room for. `write_eq_put` says that nothing of this
shows: the sink is left as if all pieces had been written as one.
-/

namespace Highlighter

/-- The bytes taken so far and the number of bytes for which there is room. -/
structure Sink where
  taken : List UInt8
  room : Nat

namespace Sink

def ofRoom (room : Nat) : Sink :=
  ⟨[], room⟩

/-- The sink after one piece, and whether it took all of it. -/
def put (sink : Sink) (piece : Text) : Sink × Bool :=
  let bytes := piece.utf8
  (⟨sink.taken ++ bytes.take sink.room, sink.room - bytes.length⟩, bytes.length ≤ sink.room)

/-- The sink after some pieces, up to the first that it did not take as a whole, and whether it took
all of them. -/
def write (sink : Sink) : List Text → Sink × Bool
  | [] => (sink, true)
  | piece :: rest =>
    match sink.put piece with
    | (next, true) => next.write rest
    | (next, false) => (next, false)

/-- Two pieces are taken like one. -/
theorem put_append (sink : Sink) (left right : Text) :
    sink.put (left ++ right) =
      match sink.put left with
      | (next, true) => next.put right
      | (next, false) => (next, false) := by
  simp only [put, Text.utf8_append, List.length_append, Text.length_utf8]
  by_cases hfits : left.size ≤ sink.room
  · have hall : left.utf8.take sink.room = left.utf8 :=
      List.take_of_length_le (by simpa using hfits)
    have hiff : left.size + right.size ≤ sink.room ↔ right.size ≤ sink.room - left.size := by omega
    simp [hfits, hall, hiff, List.take_append, Nat.sub_sub]
  · -- what does not fit leaves no room for the second piece
    have hnone : sink.room - left.size = 0 := by omega
    have hmore : ¬ left.size + right.size ≤ sink.room := by omega
    have hroom : sink.room - (left.size + right.size) = 0 := by omega
    simp [hfits, hmore, hnone, hroom, List.take_append]

/-- How an output is cut into pieces does not show. -/
theorem write_eq_put (sink : Sink) (pieces : List Text) :
    sink.write pieces = sink.put pieces.flatten := by
  induction pieces generalizing sink with
  | nil => simp [write, put, Text.utf8]
  | cons piece rest ih =>
    rw [List.flatten_cons, put_append, write]
    simp only [ih]

end Sink

end Highlighter
