import Highlighter.Span

/-!
# Loops that move through a text

A loop holds a position. A turn at that position may find spans; then the loop goes on from another
position or is left. Nothing in this makes a loop end: it has a result only if no turn fails and one
is the last. A turn that stays where it is makes it run forever (`loop_eq_none_of_stays`); turns that
take the position further, though never past a bound, make it end (`ends_of_invariant`).
-/

namespace Highlighter.Cursor

/-- What a turn finds, and from where the next turn goes on, unless this one is the last. -/
structure Turn where
  found : List Span
  next? : Option Nat

/-- The turn at each position, unless it fails. -/
abbrev Turns := Nat → Option Turn

/-- All that the turns find from a position on. There is no result if a turn fails or none is the
last one. -/
def Turns.loop (turns : Turns) (position : Nat) : Option (List Span) := do
  let result ← turns position
  match result.next? with
  | none => return result.found
  | some next => return result.found ++ (← turns |>.loop next)
partial_fixpoint

/-- The positions that a loop comes to. -/
inductive Visits (turns : Turns) (start : Nat) : Nat → Prop where
  | start : Visits turns start start
  | next {position next : Nat} {found : List Span} (h : Visits turns start position)
      (hturn : turns position = some ⟨found, some next⟩) : Visits turns start next

/-- Every turn of the loop succeeds and takes the position further on, and the loop has a result. -/
structure Ends (turns : Turns) (bound : Nat) : Prop where
  advances : ∀ position, Visits turns 0 position →
    ∃ found next?, turns position = some ⟨found, next?⟩ ∧
      ∀ next ∈ next?, position < next ∧ next ≤ bound
  returns : ∃ spans, turns.loop 0 = some spans

variable {turns : Turns} {position next bound : Nat} {found : List Span}

theorem loop_of_last (h : turns position = some ⟨found, none⟩) :
    turns.loop position = some found := by
  rw [Turns.loop, h]
  rfl

theorem loop_of_next (h : turns position = some ⟨found, some next⟩) :
    turns.loop position = (turns.loop next).map (found ++ ·) := by
  rw [Turns.loop, h, Option.bind_eq_bind, Option.bind_some]
  cases hlater : turns.loop next <;> simp [hlater]

theorem loop_congr (h : turns position = turns next) : turns.loop position = turns.loop next := by
  rw [Turns.loop, Turns.loop, h]

/-- A loop that stays where it is has no result. -/
theorem loop_eq_none_of_stays (h : turns position = some ⟨found, some position⟩) :
    turns.loop position = none := by
  have hleaves := Turns.loop.partial_correctness turns (fun start _ => start ≠ position) (by
    rintro again ih start spans hspans rfl
    rw [h, Option.bind_eq_bind, Option.bind_some] at hspans
    obtain ⟨later, hlater, -⟩ := Option.bind_eq_some_iff.mp hspans
    exact ih start later hlater rfl)
  cases hloop : turns.loop position with
  | none => rfl
  | some spans => exact absurd rfl (hleaves position spans hloop)

section Invariant

variable {Invariant : Nat → Prop}
  (hturn : ∀ position, Invariant position →
    ∃ found next?, turns position = some ⟨found, next?⟩ ∧
      ∀ next ∈ next?, Invariant next ∧ position < next ∧ next ≤ bound)

include hturn

theorem exists_loop_eq_some (h : Invariant position) :
    ∃ spans, turns.loop position = some spans := by
  -- what is left before the bound gets smaller from turn to turn
  induction hleft : bound - position using Nat.strongRecOn generalizing position with
  | ind left ih =>
      obtain ⟨found, next?, hresult, hnext⟩ := hturn position h
      cases next? with
      | none => exact ⟨found, loop_of_last hresult⟩
      | some next =>
          obtain ⟨hinvariant, hlt, hle⟩ := hnext next rfl
          obtain ⟨later, hlater⟩ := ih (bound - next) (by omega) hinvariant rfl
          exact ⟨found ++ later, by rw [loop_of_next hresult, hlater, Option.map_some]⟩

theorem Visits.invariant {start : Nat} (hstart : Invariant start)
    (h : Visits turns start position) : Invariant position := by
  induction h with
  | start => exact hstart
  | next _ hresult ih =>
      obtain ⟨found, next?, hresult', hnext⟩ := hturn _ ih
      obtain ⟨-, rfl⟩ := Turn.mk.inj (Option.some.inj (hresult.symm.trans hresult'))
      exact (hnext _ rfl).1

/-- **A loop ends** if an invariant of its positions makes every turn succeed and move on. -/
theorem ends_of_invariant (hstart : Invariant 0) : Ends turns bound where
  advances := by
    intro position hvisits
    obtain ⟨found, next?, hresult, hnext⟩ := hturn position (hvisits.invariant hturn hstart)
    exact ⟨found, next?, hresult, fun next h => (hnext next h).2⟩
  returns := exists_loop_eq_some hturn hstart

end Invariant

end Highlighter.Cursor
