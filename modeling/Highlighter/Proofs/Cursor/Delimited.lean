import Highlighter.Proofs.Cursor.Loop
import Highlighter.Proofs.Span.Delimited
import Highlighter.Proofs.Text.Slice

/-!
# Delimited stretches by byte offsets

The search for delimited stretches as a loop: each turn slices the text at the position where the
last stretch stopped, and once more past the opener that it finds. With an opener and a closer that
are not empty no slice is refused, and each turn goes on past what it found, so the loop finds what
`Span.delimited` does (`loop_stretchTurn`). An empty quote mark stands everywhere and the loop would
never leave the start of the line (`loop_stretchTurn_nil`).
-/

namespace Highlighter.Cursor

open Text

def stretchTurn (category : Category) (opener closer text : Text) (position : Nat) :
    Option Turn := do
  let rest ← text.slice? position text.size
  match indexOf? opener rest with
  | none => return ⟨[], none⟩
  | some distance =>
    let start := position + distance
    let body ← text.slice? (start + opener.size) text.size
    match indexOf? closer body with
    | none => return ⟨[⟨start, text.size, category⟩], none⟩
    | some distance =>
      let stop := start + opener.size + distance + closer.size
      return ⟨[⟨start, stop, category⟩], some stop⟩

variable {category : Category} {opener closer : Text}

/-- One turn, told by cuts of what is left of the text. -/
theorem stretchTurn_append (hopener : opener ≠ []) (hcloser : closer ≠ []) (done rest : Text) :
    stretchTurn category opener closer (done ++ rest) done.size
      = some (match cut? opener rest with
        | none => ⟨[], none⟩
        | some (before, body) =>
          match cut? closer body with
          | none => ⟨[⟨done.size + before.size, (done ++ rest).size, category⟩], none⟩
          | some (inside, _) =>
            let stop := done.size + before.size + opener.size + inside.size + closer.size
            ⟨[⟨done.size + before.size, stop, category⟩], some stop⟩) := by
  rw [stretchTurn, slice?_append, Option.bind_eq_bind, Option.bind_some,
    indexOf?_eq_find? hopener, find?]
  cases hcut : cut? opener rest with
  | none => rfl
  | some found =>
      obtain ⟨before, body⟩ := found
      have hrest : done ++ rest = done ++ before ++ opener ++ body := by
        rw [eq_append_of_cut? hcut, List.append_assoc, ← List.append_assoc before]
        simp
      have hslice : (done ++ rest).slice? (done.size + before.size + opener.size)
          (done ++ rest).size = some body := by
        have hsize : done.size + before.size + opener.size = (done ++ before ++ opener).size := by
          rw [size_append, size_append]
        rw [hrest, hsize, slice?_append]
      simp only [Option.map_some, hslice, Option.bind_some]
      rw [indexOf?_eq_find? hcloser, find?]
      cases cut? closer body <;> rfl

/-- **The loop finds the stretches** of what is left of the text. -/
theorem loop_stretchTurn (hopener : opener ≠ []) (hcloser : closer ≠ []) (done rest : Text) :
    Turns.loop (stretchTurn category opener closer (done ++ rest)) done.size
      = some (Span.delimited category opener closer done.size rest) := by
  generalize hoffset : done.size = offset
  fun_induction Span.delimited category opener closer offset rest generalizing done with
  | case1 offset rest hcut =>
      subst hoffset
      apply loop_of_last
      rw [stretchTurn_append hopener hcloser, hcut]
  | case2 offset rest before body hcut start hclose =>
      subst hoffset
      apply loop_of_last
      rw [stretchTurn_append hopener hcloser, hcut]
      simp only [hclose, size_append, start]
  | case3 offset rest before body hcut start inside later hclose stop ih =>
      subst hoffset
      have hturn : stretchTurn category opener closer (done ++ rest) done.size
          = some ⟨[⟨start, stop, category⟩], some stop⟩ := by
        rw [stretchTurn_append hopener hcloser, hcut]
        simp only [hclose, start, stop]
      have hrest : done ++ rest = done ++ before ++ opener ++ inside ++ closer ++ later := by
        rw [eq_append_of_cut? hcut, eq_append_of_cut? hclose]
        simp
      have hstop : (done ++ before ++ opener ++ inside ++ closer).size = stop := by
        simp only [size_append, stop, start]
      rw [loop_of_next hturn, hrest, ih _ hstop]
      rfl

theorem loop_stretchTurn_zero (hopener : opener ≠ []) (hcloser : closer ≠ []) (text : Text) :
    Turns.loop (stretchTurn category opener closer text) 0
      = some (Span.delimited category opener closer 0 text) :=
  loop_stretchTurn hopener hcloser [] text

/-- **Every turn moves on**: the next position is past the opener and the closer just found. -/
theorem ends_stretchTurn (hopener : opener ≠ []) (hcloser : closer ≠ []) (text : Text) :
    Ends (stretchTurn category opener closer text) text.size := by
  apply ends_of_invariant _ (IsBoundary.zero text)
  rintro position ⟨done, rest, rfl, rfl⟩
  rw [stretchTurn_append hopener hcloser]
  cases hcut : cut? opener rest with
  | none => exact ⟨[], none, rfl, by simp⟩
  | some found =>
      obtain ⟨before, body⟩ := found
      cases hclose : cut? closer body with
      | none =>
          simp only [hclose]
          exact ⟨_, none, rfl, by simp⟩
      | some found =>
          obtain ⟨inside, later⟩ := found
          simp only [hclose]
          refine ⟨_, some _, rfl, ?_⟩
          have hopenerSize := mt (size_eq_zero_iff opener).mp hopener
          have hrest : done ++ rest = done ++ before ++ opener ++ inside ++ closer ++ later := by
            rw [eq_append_of_cut? hcut, eq_append_of_cut? hclose]
            simp
          have hboundary :=
            IsBoundary.of_append (done ++ before ++ opener ++ inside ++ closer) later
          have hsize := congrArg Text.size hrest
          rw [← hrest] at hboundary
          simp only [size_append] at hboundary hsize
          rintro next ⟨⟩
          refine ⟨hboundary, by omega, by rw [size_append]; omega⟩

/-- An empty quote mark would stand everywhere and keep the loop at the start of the line. -/
theorem loop_stretchTurn_nil (line : Text) :
    Turns.loop (stretchTurn category [] [] line) 0 = none := by
  have hindex (text : Text) : indexOf? [] text = some 0 := by
    unfold indexOf?
    cases text.utf8 <;> simp [utf8, List.findIdx?_cons]
  have hslice : line.slice? 0 line.size = some line := slice?_append [] line
  have hturn : stretchTurn category [] [] line 0 = some ⟨[⟨0, 0, category⟩], some 0⟩ := by
    simp [stretchTurn, hslice, hindex]
  exact loop_eq_none_of_stays hturn

end Highlighter.Cursor
