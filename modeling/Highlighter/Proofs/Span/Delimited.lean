import Highlighter.Proofs.Text.Occurrence
import Highlighter.Span

/-!
# Delimited stretches and line breaks

What comes after a separator that neither the opener nor the closer holds cannot change which bytes
before it are in a stretch (`any_contains_delimited_append_cons`): a stretch that was left open
before the separator may end further on, but it holds the same bytes before the separator, and all
other stretches that the added text brings start past it. If none was left open (`Closed`), the scan
starts afresh past the separator (`delimited_append_cons_of_closed`).
-/

namespace Highlighter.Span

open Text

variable {category : Category} {opener closer text before body inside rest : Text} {offset : Nat}

/-! ### One step of the scan -/

theorem delimited_of_no_opener (h : cut? opener text = none) :
    delimited category opener closer offset text = [] := by
  rw [delimited]
  split
  · rfl
  · next hsome => simp [h] at hsome

theorem delimited_of_no_closer (hopener : cut? opener text = some (before, body))
    (hcloser : cut? closer body = none) :
    delimited category opener closer offset text
      = [⟨offset + before.size, offset + text.size, category⟩] := by
  rw [delimited]
  split
  · next hnone => simp [hopener] at hnone
  · next hsome =>
    obtain ⟨rfl, rfl⟩ : before = _ ∧ body = _ := by simpa [hopener] using hsome
    dsimp only
    split
    · rfl
    · next hfound => simp [hcloser] at hfound

theorem delimited_of_closer (hopener : cut? opener text = some (before, body))
    (hcloser : cut? closer body = some (inside, rest)) :
    delimited category opener closer offset text
      = ⟨offset + before.size, offset + before.size + opener.size + inside.size + closer.size,
          category⟩
        :: delimited category opener closer
          (offset + before.size + opener.size + inside.size + closer.size) rest := by
  rw [delimited]
  split
  · next hnone => simp [hopener] at hnone
  · next hsome =>
    obtain ⟨rfl, rfl⟩ : before = _ ∧ body = _ := by simpa [hopener] using hsome
    dsimp only
    split
    · next hnone => simp [hcloser] at hnone
    · next hfound =>
      obtain ⟨rfl, rfl⟩ : inside = _ ∧ rest = _ := by simpa [hcloser] using hfound
      rfl

theorem le_start_of_mem_delimited :
    ∀ span ∈ delimited category opener closer offset text, offset ≤ span.start := by
  fun_induction delimited category opener closer offset text with
  | case1 => simp
  | case2 => exact List.forall_mem_singleton.mpr (Nat.le_add_right ..)
  | case3 offset text before body hopener start inside rest hcloser stop =>
      rename_i ih
      refine List.forall_mem_cons.mpr ⟨Nat.le_add_right .., ?_⟩
      intro span hspan
      have hle := ih span hspan
      omega

theorem category_of_mem_delimited :
    ∀ span ∈ delimited category opener closer offset text, span.category = category := by
  fun_induction delimited category opener closer offset text with
  | case1 => simp
  | case2 => exact List.forall_mem_singleton.mpr rfl
  | case3 offset text before body hopener start inside rest hcloser stop ih =>
      exact List.forall_mem_cons.mpr ⟨rfl, ih⟩

theorem bounds_of_mem_delimited :
    ∀ span ∈ delimited category opener closer offset text,
      span.start ≤ span.stop ∧ span.stop ≤ offset + text.size := by
  fun_induction delimited category opener closer offset text with
  | case1 => simp
  | case2 offset text before body hopener start hcloser =>
      have hsize := congrArg Text.size (eq_append_of_cut? hopener)
      simp only [size_append] at hsize
      refine List.forall_mem_singleton.mpr ⟨?_, Nat.le_refl _⟩
      simp only [start]
      omega
  | case3 offset text before body hopener start inside rest hcloser stop =>
      rename_i ih
      have hsize := congrArg Text.size (eq_append_of_cut? hopener)
      have hsize' := congrArg Text.size (eq_append_of_cut? hcloser)
      simp only [size_append] at hsize hsize'
      refine List.forall_mem_cons.mpr ⟨?_, ?_⟩
      · simp only [stop, start]
        omega
      · intro span hspan
        have hbounds := ih span hspan
        omega

/-- Nothing but the offsets depends on where the text stands. -/
theorem delimited_add (category : Category) (opener closer : Text) (offset distance : Nat)
    (text : Text) :
    delimited category opener closer (offset + distance) text
      = (delimited category opener closer offset text).map (·.shift distance) := by
  fun_induction delimited category opener closer offset text with
  | case1 offset text hopener => rw [delimited_of_no_opener hopener, List.map_nil]
  | case2 offset text before body hopener start hcloser =>
      rw [delimited_of_no_closer hopener hcloser]
      simp [shift, start, Nat.add_right_comm _ distance]
  | case3 offset text before body hopener start inside rest hcloser stop =>
      rename_i ih
      have hstart : offset + distance + before.size = start + distance := by
        simp only [start, Nat.add_right_comm]
      have hstop : start + distance + opener.size + inside.size + closer.size
          = stop + distance := by
        simp only [stop, Nat.add_right_comm _ distance]
      rw [delimited_of_closer hopener hcloser, hstart, hstop, ih]
      rfl

theorem any_contains_delimited_of_lt {position : Nat} (h : position < offset) :
    (delimited category opener closer offset text).any (·.contains position) = false := by
  apply List.any_eq_false.mpr
  intro span hspan
  have hle := le_start_of_mem_delimited span hspan
  rw [contains_eq_true_iff]
  omega

/-! ### Text after a separator -/

variable {separator : Char}

/-- Where no opener comes before the separator, the scan starts past it. -/
theorem delimited_append_cons_of_no_opener (hopener : separator ∉ opener) {left : Text}
    (h : cut? opener left = none) (right : Text) :
    delimited category opener closer offset (left ++ separator :: right)
      = delimited category opener closer (offset + left.size + separator.utf8Size) right := by
  have hcut := cut?_append_cons hopener left right
  rw [h] at hcut
  cases hright : cut? opener right with
  | none =>
      have hnone : cut? opener (left ++ separator :: right) = none := by simpa [hright] using hcut
      rw [delimited_of_no_opener hright, delimited_of_no_opener hnone]
  | some found =>
      obtain ⟨before, body⟩ := found
      rw [hright] at hcut
      cases hclose : cut? closer body with
      | none =>
          rw [delimited_of_no_closer hright hclose, delimited_of_no_closer hcut hclose]
          simp [Nat.add_assoc]
      | some found =>
          obtain ⟨inside, rest⟩ := found
          rw [delimited_of_closer hright hclose, delimited_of_closer hcut hclose]
          simp [Nat.add_assoc]

/-- **Text after a separator** changes no byte before it. -/
theorem any_contains_delimited_append_cons (hopener : separator ∉ opener)
    (hcloser : separator ∉ closer) {left : Text} (right : Text) {position : Nat}
    (h : position < offset + left.size) :
    (delimited category opener closer offset (left ++ separator :: right)).any (·.contains position)
      = (delimited category opener closer offset left).any (·.contains position) := by
  fun_induction delimited category opener closer offset left with
  | case1 offset left hnone =>
      rw [delimited_append_cons_of_no_opener hopener hnone,
        any_contains_delimited_of_lt (by omega), List.any_nil]
  | case2 offset left before body hfound start =>
      rename_i hclose
      -- the stretch left open before the separator now ends past it
      have hsize := congrArg Text.size (eq_append_of_cut? hfound)
      have hopen := cut?_append_cons hopener left right
      have hend := cut?_append_cons hcloser body right
      rw [hfound] at hopen
      rw [hclose] at hend
      simp only [size_append] at hsize
      cases hright : cut? closer right with
      | none =>
          rw [delimited_of_no_closer hopen (by simpa [hright] using hend), Bool.eq_iff_iff]
          simp [start]
          omega
      | some found =>
          obtain ⟨inside, rest⟩ := found
          rw [hright] at hend
          rw [delimited_of_closer hopen hend, List.any_cons, any_contains_delimited_of_lt,
            Bool.eq_iff_iff]
          · simp [start]
            omega
          · simp
            omega
  | case3 offset left before body hfound start inside rest hclose stop =>
      rename_i ih
      have hsize := congrArg Text.size (eq_append_of_cut? hfound)
      have hsize' := congrArg Text.size (eq_append_of_cut? hclose)
      have hopen := cut?_append_cons hopener left right
      have hend := cut?_append_cons hcloser body right
      rw [hfound] at hopen
      rw [hclose] at hend
      simp only [size_append] at hsize hsize'
      rw [delimited_of_closer hopen hend, List.any_cons, List.any_cons, ih (by omega)]

/-! ### Texts that leave nothing open -/

/-- Every opener that the scan of a text comes to has its closer. -/
inductive Closed (opener closer : Text) : Text → Prop where
  | rest {text : Text} (h : cut? opener text = none) : Closed opener closer text
  | stretch {text before body inside rest : Text} (hopener : cut? opener text = some (before, body))
      (hcloser : cut? closer body = some (inside, rest)) (h : Closed opener closer rest) :
      Closed opener closer text

/-- **After a text that leaves nothing open** the scan starts afresh past the separator. -/
theorem delimited_append_cons_of_closed (hopener : separator ∉ opener)
    (hcloser : separator ∉ closer) {left : Text} (h : Closed opener closer left) (right : Text) :
    delimited category opener closer offset (left ++ separator :: right)
      = delimited category opener closer offset left ++
        delimited category opener closer (offset + left.size + separator.utf8Size) right := by
  induction h generalizing offset with
  | rest hnone =>
      rw [delimited_append_cons_of_no_opener hopener hnone, delimited_of_no_opener hnone,
        List.nil_append]
  | @stretch left before body inside rest hfound hclose _ ih =>
      have hsize := congrArg Text.size (eq_append_of_cut? hfound)
      have hsize' := congrArg Text.size (eq_append_of_cut? hclose)
      have hopen := cut?_append_cons hopener left right
      have hend := cut?_append_cons hcloser body right
      rw [hfound] at hopen
      rw [hclose] at hend
      simp only [size_append] at hsize hsize'
      rw [delimited_of_closer hfound hclose, delimited_of_closer hopen hend, ih, hsize, hsize',
        List.cons_append]
      simp only [Nat.add_assoc]

end Highlighter.Span
