import Highlighter.PartitionPoint

/-!
# Tables of character ranges

A property of characters is given by the ranges of code points that have it, in order and disjoint;
a map of characters by runs of evenly spaced code points that all move by one distance. Both are
searched by bisection. The tables hold no ASCII code point: each property states that part itself.
-/

namespace Highlighter.Unicode

/-- Ranges of code points, first and last, in order and disjoint. -/
abbrev RangeTable := Array (Nat × Nat)

/-- Whether a character lies in one of the ranges. -/
def RangeTable.holds (table : RangeTable) (char : Char) : Bool :=
  let code := char.toNat
  (table[partitionPoint (fun range => range.2 < code) table]?).any (·.1 ≤ code)

/-- The code points `first`, `first + step`, up to `last`, which a map of characters takes to
`target`, `target + step`, and so on. -/
structure MapRun where
  first : Nat
  last : Nat
  step : Nat
  target : Nat

/-- Runs of a map of characters, in order and disjoint. -/
abbrev MapTable := Array MapRun

/-- The character to which a map takes a character; one outside the runs stays as it is. -/
def MapTable.apply (table : MapTable) (char : Char) : Char :=
  let code := char.toNat
  match table[partitionPoint (fun run => run.last < code) table]? with
  | some run =>
    if run.first ≤ code && (code - run.first) % run.step == 0 then
      Char.ofNat (run.target + (code - run.first))
    else char
  | none => char

end Highlighter.Unicode
