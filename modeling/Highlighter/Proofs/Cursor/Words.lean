import Highlighter.Proofs.Cursor.Loop
import Highlighter.Proofs.Text.Slice
import Highlighter.Proofs.Vocabulary.WholeWord

/-!
# Whole words by byte offsets

The search for the words of a vocabulary as a loop: each turn searches what is left of the line for
the first place where an entry fits, looks through two slices at the characters before and after
that place, and goes on one character past it. So it moves on even if an entry is empty
(`ends_wordTurn`). With entries that are not empty the loop finds what `Vocabulary.find` does
(`loop_wordTurn`), since it passes over no place where an entry fits.
-/

namespace Highlighter.Cursor

open Text

/-- How far on an entry fits for the first time, and the size of what it takes there. -/
def search? (entries : List Text) : Text → Option (Nat × Nat)
  | [] => (entries.findSome? (Vocabulary.fit? [])).map (0, ·)
  | char :: rest =>
    match entries.findSome? (Vocabulary.fit? (char :: rest)) with
    | some size => some (0, size)
    | none => (search? entries rest).map fun (distance, size) => (char.utf8Size + distance, size)

def wordTurn (vocabulary : Vocabulary) (line : Text) (position : Nat) : Option Turn := do
  let ahead ← line.slice? position line.size
  match search? vocabulary.entries ahead with
  | none => return ⟨[], none⟩
  | some (distance, size) =>
    let start := position + distance
    let before ← line.slice? 0 start
    let rest ← line.slice? start line.size
    let found :=
      if before.getLast?.any Unicode.isWordChar then []
      else [⟨start, start + size, vocabulary.category⟩]
    let next := start + (rest.head?.map Char.utf8Size).getD 1
    return ⟨found, if line.size < next then none else some next⟩

variable {entries : List Text} {vocabulary : Vocabulary}

theorem search?_cons_of_fit {char : Char} {rest : Text} {size : Nat}
    (h : entries.findSome? (Vocabulary.fit? (char :: rest)) = some size) :
    search? entries (char :: rest) = some (0, size) := by
  rw [search?, h]

theorem search?_cons_of_no_fit {char : Char} {rest : Text}
    (h : entries.findSome? (Vocabulary.fit? (char :: rest)) = none) :
    search? entries (char :: rest)
      = (search? entries rest).map fun (distance, size) => (char.utf8Size + distance, size) := by
  rw [search?, h]

theorem search?_nil (hne : ∀ entry ∈ entries, entry ≠ []) : search? entries [] = none := by
  have hmiss : entries.findSome? (Vocabulary.fit? []) = none := by
    apply List.findSome?_eq_none_iff.mpr
    intro entry hentry
    obtain ⟨folded, others, rfl⟩ := List.exists_cons_of_ne_nil (hne entry hentry)
    rfl
  rw [search?, hmiss, Option.map_none]

/-- A search leads to a place between two characters. -/
theorem exists_append_of_search? {text : Text} {distance size : Nat}
    (h : search? entries text = some (distance, size)) :
    ∃ before rest, text = before ++ rest ∧ before.size = distance := by
  induction text generalizing distance with
  | nil =>
      obtain ⟨_, -, hpair⟩ := Option.map_eq_some_iff.mp h
      obtain ⟨rfl, -⟩ := Prod.mk.inj hpair
      exact ⟨[], [], rfl, rfl⟩
  | cons char rest ih =>
      cases hfit : entries.findSome? (Vocabulary.fit? (char :: rest)) with
      | some size =>
          rw [search?_cons_of_fit hfit] at h
          obtain ⟨rfl, -⟩ := Prod.mk.inj (Option.some.inj h)
          exact ⟨[], char :: rest, rfl, rfl⟩
      | none =>
          rw [search?_cons_of_no_fit hfit] at h
          obtain ⟨⟨later, size'⟩, hlater, hpair⟩ := Option.map_eq_some_iff.mp h
          obtain ⟨rfl, rfl⟩ := Prod.mk.inj hpair
          obtain ⟨before, rest, rfl, rfl⟩ := ih hlater
          exact ⟨char :: before, rest, rfl, rfl⟩

/-! ### One turn -/

theorem wordTurn_of_no_match {done rest : Text} (h : search? vocabulary.entries rest = none) :
    wordTurn vocabulary (done ++ rest) done.size = some ⟨[], none⟩ := by
  rw [wordTurn, slice?_append, Option.bind_eq_bind, Option.bind_some, h]
  rfl

theorem wordTurn_of_match {done before rest : Text} {size : Nat}
    (h : search? vocabulary.entries (before ++ rest) = some (before.size, size)) :
    wordTurn vocabulary (done ++ (before ++ rest)) done.size
      = some ⟨if (done ++ before).getLast?.any Unicode.isWordChar then []
          else [⟨done.size + before.size, done.size + before.size + size, vocabulary.category⟩],
        (rest.head?.map fun char => done.size + before.size + char.utf8Size)⟩ := by
  have hbefore : (done ++ (before ++ rest)).slice? 0 (done.size + before.size)
      = some (done ++ before) := by
    rw [← size_append, ← List.append_assoc, slice?_zero_append]
  have hrest : (done ++ (before ++ rest)).slice? (done.size + before.size)
      (done ++ (before ++ rest)).size = some rest := by
    rw [← size_append, ← List.append_assoc, slice?_append]
  rw [wordTurn, slice?_append, Option.bind_eq_bind, Option.bind_some, h]
  simp only [hbefore, hrest, Option.bind_some]
  cases rest with
  | nil => simp
  | cons char rest =>
      have hnext : ¬Text.size (done ++ (before ++ char :: rest))
          < done.size + before.size + char.utf8Size := by
        simp only [size_append, size_cons]
        omega
      rw [List.head?_cons, Option.map_some, Option.getD_some, if_neg hnext]
      rfl

/-- **Every turn moves on**, at least by the character at the place where an entry fits. -/
theorem ends_wordTurn (vocabulary : Vocabulary) (line : Text) :
    Ends (wordTurn vocabulary line) line.size := by
  apply ends_of_invariant _ (IsBoundary.zero line)
  rintro position ⟨done, ahead, rfl, rfl⟩
  cases hsearch : search? vocabulary.entries ahead with
  | none => exact ⟨[], none, wordTurn_of_no_match hsearch, by simp⟩
  | some result =>
      obtain ⟨distance, size⟩ := result
      obtain ⟨before, rest, rfl, rfl⟩ := exists_append_of_search? hsearch
      refine ⟨_, _, wordTurn_of_match hsearch, ?_⟩
      cases rest with
      | nil => simp
      | cons char rest =>
          have hboundary := IsBoundary.of_append (done ++ before ++ [char]) rest
          have hpos := char.utf8Size_pos
          rintro next ⟨⟩
          simp only [size_append, size_cons, size_nil, List.append_assoc,
            List.singleton_append] at hboundary ⊢
          exact ⟨by simpa [Nat.add_assoc] using hboundary, by omega, by omega⟩

/-! ### The loop -/

/-- A place where nothing fits makes no difference to the turn. -/
theorem wordTurn_of_no_fit {done rest : Text} {char : Char}
    (h : vocabulary.entries.findSome? (Vocabulary.fit? (char :: rest)) = none) :
    wordTurn vocabulary (done ++ char :: rest) done.size
      = wordTurn vocabulary (done ++ char :: rest) (done ++ [char]).size := by
  have hsplit : done ++ char :: rest = done ++ [char] ++ rest := by simp
  cases hsearch : search? vocabulary.entries rest with
  | none =>
      rw [wordTurn_of_no_match (by rw [search?_cons_of_no_fit h, hsearch, Option.map_none]), hsplit,
        wordTurn_of_no_match hsearch]
  | some result =>
      obtain ⟨distance, size⟩ := result
      obtain ⟨before, rest, rfl, rfl⟩ := exists_append_of_search? hsearch
      have hsearch' : search? vocabulary.entries (char :: before ++ rest)
          = some (Text.size (char :: before), size) := by
        rw [List.cons_append, search?_cons_of_no_fit h, hsearch, Option.map_some, size_cons]
      rw [← List.cons_append, wordTurn_of_match hsearch', List.cons_append, hsplit,
        wordTurn_of_match hsearch]
      simp [Nat.add_assoc]

/-- **The loop finds the words** of what is left of the line. -/
theorem loop_wordTurn (hne : ∀ entry ∈ vocabulary.entries, entry ≠ []) (done rest : Text) :
    Turns.loop (wordTurn vocabulary (done ++ rest)) done.size
      = some (vocabulary.findFrom (done.getLast?.any Unicode.isWordChar) done.size rest) := by
  induction rest generalizing done with
  | nil => exact loop_of_last (wordTurn_of_no_match (search?_nil hne))
  | cons char rest ih =>
      have hlater := ih (done ++ [char])
      rw [List.append_assoc, List.singleton_append, List.getLast?_concat, Option.any_some,
        size_append, size_cons, size_nil, Nat.add_zero] at hlater
      rw [Vocabulary.findFrom]
      cases hfit : vocabulary.entries.findSome? (Vocabulary.fit? (char :: rest)) with
      | none =>
          have hturn : wordTurn vocabulary (done ++ char :: rest) done.size
              = wordTurn vocabulary (done ++ char :: rest) (done.size + char.utf8Size) := by
            rw [wordTurn_of_no_fit hfit, size_append, size_cons, size_nil, Nat.add_zero]
          rw [loop_congr hturn, hlater]
          simp
      | some size =>
          have hsearch : search? vocabulary.entries ([] ++ char :: rest) = some (0, size) :=
            search?_cons_of_fit hfit
          have hturn : wordTurn vocabulary (done ++ char :: rest) done.size
              = some ⟨if done.getLast?.any Unicode.isWordChar then []
                  else [⟨done.size, done.size + size, vocabulary.category⟩],
                some (done.size + char.utf8Size)⟩ := by
            rw [← List.nil_append (char :: rest), wordTurn_of_match hsearch]
            simp
          rw [loop_of_next hturn, hlater]
          cases done.getLast?.any Unicode.isWordChar <;> simp

end Highlighter.Cursor
