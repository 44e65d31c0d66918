import Highlighter.Output
import Highlighter.Proofs.Segment.Runs

/-!
# Taking the control sequences away

Apart from the texts of segments, a terminal is sent nothing but whole sequences that select styles.
So if no text holds an escape character, taking these sequences away leaves the texts
(`withoutSequences_render`).
-/

namespace Highlighter.Terminal

def isParameter (char : Char) : Bool :=
  char.isDigit || char = ';'

/-- The parameters of the sequence that selects styles at the front of a text, and what follows
it. -/
def sequence? : Text → Option (Text × Text)
  | '\x1b' :: '[' :: rest =>
    match rest.dropWhile isParameter with
    | 'm' :: after => some (rest.takeWhile isParameter, after)
    | _ => none
  | _ => none

theorem length_of_sequence? {text parameters after : Text}
    (h : sequence? text = some (parameters, after)) : after.length < text.length := by
  unfold sequence? at h
  split at h
  · next rest =>
    split at h
    · next hdrop =>
      obtain ⟨-, rfl⟩ := Prod.mk.inj (Option.some.inj h)
      have hle := (List.dropWhile_sublist isParameter (l := rest)).length_le
      rw [hdrop, List.length_cons] at hle
      rw [List.length_cons, List.length_cons]
      omega
    · cases h
  · cases h

/-- A text without the sequences in it that select styles. -/
def withoutSequences (text : Text) : Text :=
  match text with
  | [] => []
  | char :: rest =>
    match _ : sequence? (char :: rest) with
    | some (_, after) => withoutSequences after
    | none => char :: withoutSequences rest
termination_by text.length
decreasing_by
  · exact length_of_sequence? ‹sequence? (char :: rest) = some (_, after)›
  · exact Nat.lt_succ_self _

/-- The text is one sequence that selects styles. -/
def IsSequence (text : Text) : Prop :=
  ∃ parameters, (∀ char ∈ parameters, isParameter char = true) ∧ text = select parameters

/-! ### One sequence, one character -/

theorem sequence?_select_append {parameters : Text}
    (h : ∀ char ∈ parameters, isParameter char = true) (rest : Text) :
    sequence? (select parameters ++ rest) = some (parameters, rest) := by
  have hletter : isParameter 'm' = false := by decide
  have htext : select parameters ++ rest = '\x1b' :: '[' :: (parameters ++ 'm' :: rest) := by
    simp [select]
  have hdrop : (parameters ++ 'm' :: rest).dropWhile isParameter = 'm' :: rest := by
    rw [List.dropWhile_append_of_pos h, List.dropWhile_cons_of_neg (by simp [hletter])]
  have htake : (parameters ++ 'm' :: rest).takeWhile isParameter = parameters := by
    rw [List.takeWhile_append_of_pos h, List.takeWhile_cons_of_neg (by simp [hletter]),
      List.append_nil]
  rw [htext, sequence?, hdrop, htake]
  rfl

theorem sequence?_cons {char : Char} (h : char ≠ '\x1b') (rest : Text) :
    sequence? (char :: rest) = none := by
  unfold sequence?
  split
  · next hcons => exact absurd (List.cons.inj hcons).1 h
  · rfl

theorem IsSequence.withoutSequences_append {piece : Text} (h : IsSequence piece) (rest : Text) :
    withoutSequences (piece ++ rest) = withoutSequences rest := by
  obtain ⟨parameters, hparameters, rfl⟩ := h
  have hsequence := sequence?_select_append hparameters rest
  have hcons : select parameters ++ rest = '\x1b' :: (select parameters ++ rest).tail := by
    simp [select]
  rw [hcons] at hsequence ⊢
  rw [withoutSequences]
  split
  · next hsome =>
    obtain ⟨-, rfl⟩ := Prod.mk.inj (Option.some.inj (hsome.symm.trans hsequence))
    rfl
  · next hnone => simp [hsequence] at hnone

theorem withoutSequences_append {text : Text} (h : '\x1b' ∉ text) (rest : Text) :
    withoutSequences (text ++ rest) = text ++ withoutSequences rest := by
  induction text with
  | nil => rfl
  | cons char others ih =>
      obtain ⟨hchar, hothers⟩ : '\x1b' ≠ char ∧ '\x1b' ∉ others := by simpa using h
      rw [List.cons_append, withoutSequences]
      split
      · next hsome => simp [sequence?_cons hchar.symm] at hsome
      · rw [ih hothers, List.cons_append]

/-! ### Styles -/

theorem isParameter_of_mem_toDigits {number : Nat} {char : Char}
    (h : char ∈ Nat.toDigits 10 number) : isParameter char = true := by
  rw [isParameter, Nat.isDigit_of_mem_toDigits (by decide) (by decide) h, Bool.true_or]

theorem isSequence_of_mem_colorOf {layer : Nat} {color : Color} {piece : Text}
    (h : piece ∈ colorOf layer color) : IsSequence piece := by
  have hindexed : ∀ char ∈ ";5;".toList, isParameter char = true :=
    List.all_eq_true.mp (by decide)
  unfold colorOf at h
  split at h
  · refine ⟨_, ?_, List.mem_singleton.mp h⟩
    intro char hchar
    obtain hchar | hchar := List.mem_append.mp hchar
    · obtain hchar | hchar := List.mem_append.mp hchar
      · exact isParameter_of_mem_toDigits hchar
      · exact hindexed char hchar
    · exact isParameter_of_mem_toDigits hchar
  · cases h

theorem isSequence_of_mem_flag {code : Char} {set : Bool} {piece : Text}
    (hcode : isParameter code = true) (h : piece ∈ flag code set) : IsSequence piece := by
  unfold flag at h
  split at h
  · exact ⟨[code], by simpa using hcode, List.mem_singleton.mp h⟩
  · cases h

theorem isSequence_of_mem_switchOn {style : Style} {piece : Text} (h : piece ∈ switchOn style) :
    IsSequence piece := by
  simp only [switchOn, List.mem_append, or_assoc] at h
  obtain h | h | h | h | h | h := h
  · exact isSequence_of_mem_colorOf h
  · exact isSequence_of_mem_colorOf h
  all_goals exact isSequence_of_mem_flag (by decide) h

theorem isSequence_reset : IsSequence reset :=
  ⟨['0'], List.all_eq_true.mp (by decide), rfl⟩

/-! ### Segments -/

theorem withoutSequences_flatten_append {pieces : List Text}
    (h : ∀ piece ∈ pieces, IsSequence piece) (rest : Text) :
    withoutSequences (pieces.flatten ++ rest) = withoutSequences rest := by
  induction pieces with
  | nil => rfl
  | cons piece others ih =>
      obtain ⟨hpiece, hothers⟩ := List.forall_mem_cons.mp h
      rw [List.flatten_cons, List.append_assoc, hpiece.withoutSequences_append, ih hothers]

theorem flatten_pieces_of_neutral {segment : Segment} (h : segment.style.isNeutral = true) :
    (pieces segment).flatten = segment.text := by
  rw [pieces, if_pos h, List.flatten_singleton]

theorem flatten_pieces_of_styled {segment : Segment} (h : segment.style.isNeutral = false) :
    (pieces segment).flatten
      = (switchOn segment.style).flatten ++ (segment.text ++ (reset ++ reset)) := by
  simp [pieces, h]

theorem flatten_render_cons (segment : Segment) (rest : List Segment) :
    (render (segment :: rest)).flatten = (pieces segment).flatten ++ (render rest).flatten := by
  simp [render]

theorem withoutSequences_pieces_append {segment : Segment} (h : '\x1b' ∉ segment.text)
    (rest : Text) :
    withoutSequences ((pieces segment).flatten ++ rest) = segment.text ++ withoutSequences rest := by
  cases hneutral : segment.style.isNeutral with
  | true => rw [flatten_pieces_of_neutral hneutral, withoutSequences_append h]
  | false =>
      calc withoutSequences ((pieces segment).flatten ++ rest)
          = withoutSequences
              ((switchOn segment.style).flatten ++ (segment.text ++ (reset ++ (reset ++ rest)))) := by
            simp [flatten_pieces_of_styled hneutral]
        _ = withoutSequences (segment.text ++ (reset ++ (reset ++ rest))) :=
            withoutSequences_flatten_append (fun _ => isSequence_of_mem_switchOn) _
        _ = segment.text ++ withoutSequences rest := by
            rw [withoutSequences_append h, isSequence_reset.withoutSequences_append,
              isSequence_reset.withoutSequences_append]

/-- **Nothing but texts and sequences** is sent to a terminal. -/
theorem withoutSequences_render {segments : List Segment}
    (h : '\x1b' ∉ Segment.joined segments) :
    withoutSequences (render segments).flatten = Segment.joined segments := by
  induction segments with
  | nil => simp [render, Segment.joined, withoutSequences]
  | cons segment rest ih =>
      obtain ⟨hsegment, hrest⟩ : '\x1b' ∉ segment.text ∧ '\x1b' ∉ Segment.joined rest := by
        simpa using h
      rw [flatten_render_cons, withoutSequences_pieces_append hsegment, ih hrest,
        Segment.joined_cons]

end Highlighter.Terminal
