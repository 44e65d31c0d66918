import Highlighter.Highlight
import Highlighter.Proofs.Span.Scanned

/-!
# Quote marks in pairs

Where a quote mark opens and closes strings, its occurrences are taken one after another and go by
twos: the first of two opens a string and the second one closes it (`paired`). If their number is
odd, the last one opens a string that goes on to the end of the line. This is what the search for
strings finds (`strings_eq_paired`).
-/

namespace Highlighter

open Text

namespace Span

/-- The strings between the occurrences of a quote mark of `size` bytes on a line that ends at
`stop`. -/
def paired (size stop : Nat) : List Nat → List Span
  | [] => []
  | [opener] => [⟨opener, stop, .string⟩]
  | opener :: closer :: later => ⟨opener, closer + size, .string⟩ :: paired size stop later

/-- The strings are those between the occurrences of the quote mark, half as many, rounded up, and in
order. Every occurrence is used once, as an opener or as a closer: only if their number is odd, the
last string is left open. -/
structure Pairing (quote line : Text) (starts : List Nat) (spans : List Span) : Prop where
  eq_paired : spans = paired quote.size line.size starts
  category_eq : ∀ span ∈ spans, span.category = .string
  length_eq : spans.length = (starts.length + 1) / 2
  increasing : spans.Pairwise fun left right => left.start < right.start
  apart : spans.Pairwise fun left right => left.stop ≤ right.start
  ascending : starts.Pairwise (· < ·)
  openers_append_closers : (spans.map (·.start) ++
    (spans.take (starts.length / 2)).map (·.stop - quote.size)).Perm starts

variable {size stop : Nat} {starts : List Nat}

theorem length_paired (size stop : Nat) (starts : List Nat) :
    (paired size stop starts).length = (starts.length + 1) / 2 := by
  fun_induction paired size stop starts with
  | case1 => rfl
  | case2 => simp
  | case3 opener closer later ih =>
      rw [List.length_cons, ih, List.length_cons, List.length_cons]
      omega

theorem map_start_paired_sublist (size stop : Nat) (starts : List Nat) :
    ((paired size stop starts).map (·.start)).Sublist starts := by
  fun_induction paired size stop starts with
  | case1 => exact .slnil
  | case2 opener => exact .refl [opener]
  | case3 opener closer later ih => exact (ih.cons closer).cons_cons opener

theorem openers_append_closers_paired_perm (size stop : Nat) (starts : List Nat) :
    ((paired size stop starts).map (·.start) ++
      ((paired size stop starts).take (starts.length / 2)).map (·.stop - size)).Perm starts := by
  fun_induction paired size stop starts with
  | case1 => exact .nil
  | case2 => simp
  | case3 opener closer later ih =>
      have hhalf : (opener :: closer :: later).length / 2 = later.length / 2 + 1 := by
        simp only [List.length_cons]
        omega
      rw [hhalf, List.take_succ_cons, List.map_cons, List.map_cons, Nat.add_sub_cancel,
        List.cons_append]
      exact (List.perm_middle.trans (ih.cons closer)).cons opener

/-- The strings are in order and disjoint if the occurrences are. -/
theorem pairwise_paired (h : starts.Pairwise fun left right => left + size ≤ right) :
    (paired size stop starts).Pairwise fun left right => left.stop ≤ right.start := by
  fun_induction paired size stop starts with
  | case1 => exact .nil
  | case2 => exact List.pairwise_singleton ..
  | case3 opener closer later ih =>
      obtain ⟨hcloser, hlater⟩ := List.pairwise_cons.mp (List.pairwise_cons.mp h).2
      refine List.pairwise_cons.mpr ⟨?_, ih hlater⟩
      intro span hspan
      have hstart : span.start ∈ (paired size stop later).map (·.start) := List.mem_map_of_mem hspan
      exact hcloser _ ((map_start_paired_sublist size stop later).subset hstart)

/-- Occurrences in pairs are what a scan finds whose opener and closer are the same. -/
theorem scanned_paired {quote line : Text} {position : Nat}
    (h : Occurrences quote line position starts) :
    Scanned .string quote quote line position (paired quote.size line.size starts) := by
  fun_induction paired quote.size line.size starts generalizing position with
  | case1 =>
      cases h with
      | done hnone => exact scanned_nil_iff.mpr hnone
  | case2 opener =>
      cases h with
      | next hopener hlater =>
          cases hlater with
          | done hnone => exact scanned_singleton rfl hopener hnone rfl
  | case3 opener closer later ih =>
      cases h with
      | next hopener hlater =>
          cases hlater with
          | next hcloser hrest => exact .cons rfl hopener hcloser rfl (ih hrest)

theorem pairing_paired {quote line : Text} (hne : quote ≠ [])
    (h : Occurrences quote line 0 starts) :
    Pairing quote line starts (paired quote.size line.size starts) := by
  have hsize := mt (size_eq_zero_iff quote).mp hne
  have hascending : starts.Pairwise (· < ·) := h.pairwise.imp (by omega)
  have hincreasing := hascending.sublist (map_start_paired_sublist quote.size line.size starts)
  exact {
    eq_paired := rfl
    category_eq := (scanned_paired h).category_eq
    length_eq := length_paired ..
    increasing := List.pairwise_map.mp hincreasing
    apart := pairwise_paired h.pairwise
    ascending := hascending
    openers_append_closers := openers_append_closers_paired_perm ..
  }

end Span

/-- **Quote marks go in pairs.** There is one way to take the occurrences of a quote mark on a line
one after another; the search for strings pairs them, and so does the loop over byte offsets. -/
theorem strings_eq_paired {quote : Text} (hne : quote ≠ []) (line : Text) :
    (∃! starts, Occurrences quote line 0 starts) ∧
      ∀ starts, Occurrences quote line 0 starts →
        Span.Pairing quote line starts (LineRules.strings quote line) ∧
          Cursor.Turns.loop (Cursor.stretchTurn .string quote quote line) 0
            = some (LineRules.strings quote line) := by
  refine ⟨existsUnique_occurrences hne line 0, ?_⟩
  intro starts hstarts
  have hstrings : LineRules.strings quote line = Span.paired quote.size line.size starts :=
    (Span.scanned_delimited hne hne [] line).unique (Span.scanned_paired hstarts)
  refine ⟨?_, Cursor.loop_stretchTurn_zero hne hne line⟩
  rw [hstrings]
  exact Span.pairing_paired hne hstarts

/-- A mark that overlaps itself, after a character of two bytes: the one at offset 3 is not taken,
since the one at offset 2 is, and the last one is left open. -/
theorem strings_of_overlapping_marks :
    let quote := "aa".toList
    let line := "éaaaaabaa".toList
    quote ≠ [] ∧ Occurrences quote line 0 [2, 4, 8] ∧
      LineRules.strings quote line = [⟨2, 6, .string⟩, ⟨8, 10, .string⟩] := by
  intro quote line
  have hne : quote ≠ [] := by decide
  have hlast : ¬OccursFrom quote line 10 := by
    rintro ⟨offset, hle, hoccurs⟩
    have hstop : offset + 2 ≤ 10 := hoccurs.add_size_le hne
    omega
  have hstarts : Occurrences quote line 0 [2, 4, 8] :=
    .next ⟨by decide, by decide +kernel, by decide +kernel⟩
      (.next ⟨by decide, by decide +kernel, by decide +kernel⟩
        (.next ⟨by decide, by decide +kernel, by decide +kernel⟩ (.done hlast)))
  exact ⟨hne, hstarts, ((strings_eq_paired hne line).2 _ hstarts).1.eq_paired⟩

end Highlighter
