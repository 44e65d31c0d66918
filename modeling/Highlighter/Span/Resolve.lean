import Highlighter.Span

/-!
# Sweeping and resolving

`sweep` goes through spans in the order given and keeps of each what lies past all that was kept
before it. What it returns is in order and disjoint (`ordered_sweep`). To resolve candidates is to
sweep them in the right order.
-/

namespace Highlighter.Span

/-- Each span clipped at the front to start no earlier than `cursor` and the spans kept before it;
a span of which nothing is left is dropped. -/
def sweep (cursor : Nat) : List Span → List Span
  | [] => []
  | span :: rest =>
    let clipped := { span with start := max span.start cursor }
    if clipped.isEmpty then sweep cursor rest else clipped :: sweep span.stop rest

/-- Spans that each hold a byte and start no earlier than the one before them stops, the first no
earlier than `cursor`. -/
def Ordered (cursor : Nat) : List Span → Prop
  | [] => True
  | span :: rest => cursor ≤ span.start ∧ span.start < span.stop ∧ Ordered span.stop rest

theorem ordered_sweep (cursor : Nat) (spans : List Span) : Ordered cursor (sweep cursor spans) := by
  induction spans generalizing cursor with
  | nil => trivial
  | cons span rest ih =>
    rw [sweep]
    split
    · exact ih cursor
    · next hkept =>
      rw [Bool.not_eq_true, isEmpty_eq_false_iff] at hkept
      exact ⟨Nat.le_max_right .., hkept, ih span.stop⟩

/-! ### Resolving candidates

Candidates for one line may overlap. They are taken by start, of two with one start the category of
the higher rank first, and of two with one category the longer first; each keeps what those before
it left. -/

/-- Whether the first candidate is taken no later than the second. -/
def outranks (left right : Span) : Bool :=
  if left.start ≠ right.start then left.start < right.start
  else if left.category.priority ≠ right.category.priority then
    left.category.priority < right.category.priority
  else right.stop ≤ left.stop

/-- Disjoint spans, in order, for candidates that may overlap. -/
def resolve (candidates : List Span) : List Span :=
  sweep 0 (candidates.mergeSort outranks)

theorem ordered_resolve (candidates : List Span) : Ordered 0 (resolve candidates) :=
  ordered_sweep 0 _

theorem outranks_trans (first second third : Span) (h : first.outranks second = true)
    (h' : second.outranks third = true) : first.outranks third = true := by
  simp only [outranks] at *
  grind

theorem outranks_total (left right : Span) :
    (left.outranks right || right.outranks left) = true := by
  simp only [outranks]
  grind

end Highlighter.Span
