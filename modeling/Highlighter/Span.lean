import Highlighter.Category
import Highlighter.PartitionPoint
import Highlighter.Text.Occurrence

/-!
# Spans

A span gives a category to the bytes from `start` up to, and not including, `stop`. Nothing forbids
`stop ≤ start`: such a span covers no byte.
-/

namespace Highlighter

/-- The bytes from `start` to before `stop`, with their category. -/
structure Span where
  start : Nat
  stop : Nat
  category : Category
deriving DecidableEq, Repr

namespace Span

/-- Whether the byte at `offset` is in the span. -/
def contains (span : Span) (offset : Nat) : Bool :=
  span.start ≤ offset && offset < span.stop

/-- Whether the span and the bytes from `start` to before `stop` overlap. For two intervals that
each hold a byte this is to share one. -/
def intersects (span : Span) (start stop : Nat) : Bool :=
  start < span.stop && span.start < stop

def size (span : Span) : Nat :=
  span.stop - span.start

def isEmpty (span : Span) : Bool :=
  span.stop ≤ span.start

/-- The span moved toward the end by `distance` bytes. -/
def shift (span : Span) (distance : Nat) : Span :=
  { span with start := span.start + distance, stop := span.stop + distance }

@[simp]
theorem contains_eq_true_iff (span : Span) (offset : Nat) :
    span.contains offset = true ↔ span.start ≤ offset ∧ offset < span.stop := by
  simp [contains]

@[simp]
theorem intersects_eq_true_iff (span : Span) (start stop : Nat) :
    span.intersects start stop = true ↔ start < span.stop ∧ span.start < stop := by
  simp [intersects]

@[simp]
theorem isEmpty_eq_true_iff (span : Span) : span.isEmpty = true ↔ span.stop ≤ span.start := by
  simp [isEmpty]

@[simp]
theorem isEmpty_eq_false_iff (span : Span) : span.isEmpty = false ↔ span.start < span.stop := by
  simp [isEmpty]

/-! ### Looking up spans

In spans that are in order and disjoint, the first one that stops past a position is the only one
that can hold it, and binary search finds it. -/

/-- The first span that stops after `offset`, in spans that are in order and disjoint. -/
def firstPast? (spans : Array Span) (offset : Nat) : Option Span :=
  spans[partitionPoint (fun span => span.stop ≤ offset) spans]?

/-- Whether one of the spans overlaps the bytes from `start` to before `stop`. -/
def anyIntersects (spans : Array Span) (start stop : Nat) : Bool :=
  (firstPast? spans start).any (·.intersects start stop)

/-- Whether one of the spans holds the byte at `offset`. -/
def anyContains (spans : Array Span) (offset : Nat) : Bool :=
  (firstPast? spans offset).any (·.contains offset)

/-! ### Delimited stretches

A stretch starts at an opener and ends with the next closer after that opener, or with the text if
there is none. The search for the next stretch goes on where the last one ended. -/

/-- The stretches of a text that starts at byte `offset`. -/
def delimited (category : Category) (opener closer : Text) (offset : Nat) (text : Text) :
    List Span :=
  match _ : Text.cut? opener text with
  | none => []
  | some (before, body) =>
    let start := offset + before.size
    match _ : Text.cut? closer body with
    | none => [⟨start, offset + text.size, category⟩]
    | some (inside, rest) =>
      let stop := start + opener.size + inside.size + closer.size
      ⟨start, stop, category⟩ :: delimited category opener closer stop rest
termination_by text.length
decreasing_by
  have hbody := Text.length_after_lt ‹Text.cut? opener text = some (before, body)›
  have hrest := Text.length_after_lt ‹Text.cut? closer body = some (inside, rest)›
  omega

end Span

end Highlighter
