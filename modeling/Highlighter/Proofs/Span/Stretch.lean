import Highlighter.Proofs.Span.Delimited
import Highlighter.Proofs.Text.Occurrence

/-!
# Stretches by occurrences

What `delimited` finds, told by leftmost occurrences alone: `Stretch` says which spans are the
stretches of a text, and `delimited` lists them (`mem_delimited_iff`).
-/

namespace Highlighter.Span

open Text

/-- The stretches of a text that starts at byte `offset`. -/
inductive Stretch (category : Category) (opener closer : Text) : Nat → Text → Span → Prop
  | closed {offset : Nat} {text before body inside rest : Text}
      (hopener : Leftmost opener text before body) (hcloser : Leftmost closer body inside rest) :
      Stretch category opener closer offset text
        ⟨offset + before.size,
          offset + before.size + opener.size + inside.size + closer.size, category⟩
  /-- With no closer after the first opener, the stretch ends with the text. -/
  | unclosed {offset : Nat} {text before body : Text}
      (hopener : Leftmost opener text before body) (hcloser : ¬closer <:+: body) :
      Stretch category opener closer offset text
        ⟨offset + before.size, offset + text.size, category⟩
  | later {offset : Nat} {text before body inside rest : Text} {span : Span}
      (hopener : Leftmost opener text before body) (hcloser : Leftmost closer body inside rest)
      (h : Stretch category opener closer
        (offset + before.size + opener.size + inside.size + closer.size) rest span) :
      Stretch category opener closer offset text span

theorem mem_delimited_iff {category : Category} {opener closer : Text} (hne : closer ≠ [])
    {offset : Nat} {text : Text} {span : Span} :
    span ∈ delimited category opener closer offset text ↔
      Stretch category opener closer offset text span := by
  constructor
  · intro h
    fun_induction delimited category opener closer offset text with
    | case1 => cases h
    | case2 offset text before body hopener start hcloser =>
        obtain rfl := List.mem_singleton.mp h
        exact .unclosed (cut?_eq_some_iff.mp hopener) ((cut?_eq_none_iff hne).mp hcloser)
    | case3 offset text before body hopener start inside rest hcloser stop ih =>
        obtain rfl | hlater := List.mem_cons.mp h
        · exact .closed (cut?_eq_some_iff.mp hopener) (cut?_eq_some_iff.mp hcloser)
        · exact .later (cut?_eq_some_iff.mp hopener) (cut?_eq_some_iff.mp hcloser) (ih hlater)
  · intro h
    induction h with
    | closed hopener hcloser =>
        rw [delimited_of_closer (cut?_eq_some_iff.mpr hopener) (cut?_eq_some_iff.mpr hcloser)]
        exact List.mem_cons_self
    | unclosed hopener hcloser =>
        rw [delimited_of_no_closer (cut?_eq_some_iff.mpr hopener)
          ((cut?_eq_none_iff hne).mpr hcloser)]
        exact List.mem_cons_self
    | later hopener hcloser _ ih =>
        rw [delimited_of_closer (cut?_eq_some_iff.mpr hopener) (cut?_eq_some_iff.mpr hcloser)]
        exact List.mem_cons_of_mem _ ih

/-- Nothing is delimited by an opener that is empty. -/
theorem not_stretch_nil {category : Category} {closer text : Text} {offset : Nat} {span : Span} :
    ¬Stretch category [] closer offset text span := by
  intro h
  cases h with
  | closed hopener => exact hopener.ne_nil rfl
  | unclosed hopener => exact hopener.ne_nil rfl
  | later hopener => exact hopener.ne_nil rfl

end Highlighter.Span
