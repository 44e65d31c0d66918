import Highlighter.Language
import Highlighter.Proofs.Text.LetterCase

/-!
# Small forms are small

The small form of a text is its own small form (`lowercase_lowercase`): no run of the table leads to
a character that a run takes on (`all_avoids_lowerRuns`), and no capital sigma is left, the one letter
whose small form hangs on its neighbours. Full stops are passed over in the search for these
neighbours, so those in front of a text make no difference to its small form
(`normalExtension_lowercase`).
-/

namespace Highlighter

namespace Unicode

/-! ### Runs -/

namespace MapRun

/-- Whether a run takes a code point to another one. -/
def Takes (run : MapRun) (code : Nat) : Prop :=
  run.first ≤ code ∧ code ≤ run.last ∧ (code - run.first) % run.step = 0

/-- Where a run takes a code point. -/
def image (run : MapRun) (code : Nat) : Nat :=
  run.target + (code - run.first)

/-- A test for the other run to take no image on. If the two runs overlap, the images are odd where
the code points of the other run are even, or even where those are odd. -/
def avoids (run other : MapRun) : Bool :=
  (run.image run.last).blt other.first || other.last.blt run.target ||
    ((run.step == 2 || run.first == run.last) && other.step == 2 &&
      run.target % 2 != other.first % 2)

/-- The images are characters, none of them a full stop or a capital letter of ASCII. -/
def LeadsToCharacters (run : MapRun) : Prop :=
  0x5A < run.target ∧
    (run.image run.last < 0xD800 ∨ 0xDFFF < run.target ∧ run.image run.last < 0x110000)

instance (run : MapRun) : Decidable run.LeadsToCharacters :=
  inferInstanceAs (Decidable (_ ∧ _))

variable {run other : MapRun} {code : Nat}

theorem Takes.target_le_image (_ : run.Takes code) : run.target ≤ run.image code :=
  Nat.le_add_right _ _

theorem Takes.image_le (h : run.Takes code) : run.image code ≤ run.image run.last :=
  Nat.add_le_add_left (Nat.sub_le_sub_right h.2.1 _) _

theorem Takes.not_takes_image (h : run.Takes code) (havoids : run.avoids other = true) :
    ¬ other.Takes (run.image code) := by
  rintro ⟨hfirst, hlast, hstep⟩
  have hle := h.image_le
  have hge := h.target_le_image
  simp only [avoids, Bool.or_eq_true, Bool.and_eq_true, Nat.blt_eq, beq_iff_eq, bne_iff_ne]
    at havoids
  obtain (havoids | havoids) | ⟨⟨hsteps, hother⟩, hparity⟩ := havoids
  · omega
  · omega
  · obtain ⟨hcode, hcode', heven⟩ := h
    rw [hother] at hstep
    have hdistance : (code - run.first) % 2 = 0 := by
      obtain htwo | hsingle := hsteps
      · rwa [htwo] at heven
      · omega
    simp only [image] at hfirst hstep
    omega

theorem LeadsToCharacters.toNat_image (h : run.LeadsToCharacters) (htakes : run.Takes code) :
    (Char.ofNat (run.image code)).toNat = run.image code := by
  have hle := htakes.image_le
  have hge := htakes.target_le_image
  have hvalid : (run.image code).isValidChar := by
    obtain ⟨-, hlow | ⟨hhigh, hlow⟩⟩ := h
    · exact .inl (by omega)
    · exact .inr ⟨by omega, by omega⟩
  rw [Char.ofNat, dif_pos hvalid]
  rfl

end MapRun

variable {char image : Char} {before text core : Text}

/-- A table leaves a character as it is, unless one of its runs takes it on. -/
theorem apply_eq_self_or_exists (table : MapTable) (char : Char) :
    table.apply char = char ∨ ∃ run ∈ table.toList, run.Takes char.toNat ∧
      table.apply char = Char.ofNat (run.image char.toNat) := by
  unfold MapTable.apply
  dsimp only
  split
  · next run hrun =>
    split
    · next htakes =>
      have hlast : ¬ run.last < char.toNat := by
        simpa using partitionPoint_fails hrun
      simp only [Bool.and_eq_true, decide_eq_true_eq, beq_iff_eq] at htakes
      have hmem : run ∈ table.toList := Array.mem_toList_iff.mpr (Array.mem_of_getElem? hrun)
      exact .inr ⟨run, hmem, ⟨htakes.1, Nat.le_of_not_lt hlast, htakes.2⟩, rfl⟩
    · exact .inl rfl
  · exact .inl rfl

/-! ### The table of small letters -/

/-- The two capital letters that have no small form of their own in the table. -/
def exceptions : List MapRun :=
  [⟨0x130, 0x130, 1, 0x69⟩, ⟨0x3A3, 0x3A3, 1, 0x3C3⟩]

theorem all_avoids_lowerRuns :
    lowerRuns.toList.all (fun run =>
      lowerRuns.toList.all run.avoids && exceptions.all run.avoids) = true := by
  decide +kernel

theorem avoids_of_mem {run other : MapRun} (hrun : run ∈ lowerRuns.toList)
    (hother : other ∈ lowerRuns.toList ∨ other ∈ exceptions) : run.avoids other = true := by
  have hall := List.all_eq_true.mp all_avoids_lowerRuns run hrun
  rw [Bool.and_eq_true, List.all_eq_true, List.all_eq_true] at hall
  exact hother.elim (hall.1 other) (hall.2 other)

theorem lowerRuns_leadsToCharacters : ∀ run ∈ lowerRuns.toList, run.LeadsToCharacters := by
  decide +kernel

/-- A character that is its own small form wherever it stands. -/
def IsSmall (char : Char) : Prop :=
  lowerChar char = [char] ∧ char.toNat ≠ 0x3A3

instance (char : Char) : Decidable (IsSmall char) :=
  inferInstanceAs (Decidable (_ ∧ _))

theorem lowerChar_eq_apply (hascii : 0x80 ≤ char.toNat) (hne : char.toNat ≠ 0x130) :
    lowerChar char = [lowerRuns.apply char] := by
  rw [lowerChar, if_neg (Nat.not_lt.mpr hascii), if_neg (by simpa using hne)]

theorem lowerRuns_apply_eq_self
    (h : ∀ run ∈ lowerRuns.toList, ¬ run.Takes char.toNat) : lowerRuns.apply char = char := by
  obtain hself | ⟨run, hrun, htakes, -⟩ := apply_eq_self_or_exists lowerRuns char
  · exact hself
  · exact absurd htakes (h run hrun)

theorem isSmall_image {run : MapRun} {code : Nat} (hrun : run ∈ lowerRuns.toList)
    (htakes : run.Takes code) :
    IsSmall (Char.ofNat (run.image code)) ∧ Char.ofNat (run.image code) ≠ '.' := by
  have hleads := lowerRuns_leadsToCharacters run hrun
  have htoNat := hleads.toNat_image htakes
  have hlow : 0x5A < (Char.ofNat (run.image code)).toNat := by
    have hge := htakes.target_le_image
    have htarget := hleads.1
    omega
  have havoids (other : MapRun) (hother : other ∈ lowerRuns.toList ∨ other ∈ exceptions) :
      ¬ other.Takes (Char.ofNat (run.image code)).toNat := by
    rw [htoNat]
    exact htakes.not_takes_image (avoids_of_mem hrun hother)
  have hdotted := havoids ⟨0x130, 0x130, 1, 0x69⟩ (.inr (by simp [exceptions]))
  have hsigma := havoids ⟨0x3A3, 0x3A3, 1, 0x3C3⟩ (.inr (by simp [exceptions]))
  generalize Char.ofNat (run.image code) = small at hlow havoids hdotted hsigma
  refine ⟨⟨?_, ?_⟩, ?_⟩
  · by_cases hascii : small.toNat < 0x80
    · rw [lowerChar, if_pos hascii, toLower_eq_self hlow]
    · rw [lowerChar_eq_apply (by omega), lowerRuns_apply_eq_self]
      · intro other hother
        exact havoids other (.inl hother)
      · intro heq
        simp [MapRun.Takes, heq] at hdotted
  · intro heq
    simp [MapRun.Takes, heq] at hsigma
  · rintro rfl
    simp at hlow

/-- What a character becomes is small, and a full stop only if it was one. -/
theorem isSmall_of_mem_lowerChar (hsigma : char.toNat ≠ 0x3A3) (h : image ∈ lowerChar char) :
    IsSmall image ∧ (image = '.' → char = '.') := by
  by_cases hascii : char.toNat < 0x80
  · have hall : ∀ code < 0x80, (lowerChar (Char.ofNat code)).all (fun small =>
        IsSmall small ∧ (small = '.' → Char.ofNat code = '.')) = true := by
      decide
    have hchar := hall char.toNat hascii
    rw [Char.ofNat_toNat, List.all_eq_true] at hchar
    exact of_decide_eq_true (hchar image h)
  by_cases hdotted : char.toNat = 0x130
  · have hall : (lowerChar (Char.ofNat 0x130)).all (fun small =>
        IsSmall small ∧ (small = '.' → Char.ofNat 0x130 = '.')) = true := by
      decide +kernel
    rw [← hdotted, Char.ofNat_toNat, List.all_eq_true] at hall
    exact of_decide_eq_true (hall image h)
  have heq := lowerChar_eq_apply (Nat.le_of_not_lt hascii) hdotted
  rw [heq, List.mem_singleton] at h
  obtain hself | ⟨run, hrun, htakes, himage⟩ := apply_eq_self_or_exists lowerRuns char
  · rw [h, hself]
    exact ⟨⟨by rw [heq, hself], hsigma⟩, id⟩
  · rw [h, himage]
    obtain ⟨hsmall, hne⟩ := isSmall_image hrun htakes
    exact ⟨hsmall, fun hdot => absurd hdot hne⟩

/-! ### Texts -/

theorem isSmall_of_mem_lowercaseAfter (h : image ∈ lowercaseAfter before text) :
    IsSmall image ∧ (image = '.' → '.' ∈ text) := by
  induction text generalizing before with
  | nil => cases h
  | cons char rest ih =>
      rw [lowercaseAfter, List.mem_append] at h
      obtain h | h := h
      · split at h
        · have hsmall : IsSmall '\u03C2' ∧ IsSmall '\u03C3' := by decide +kernel
          obtain rfl := List.mem_singleton.mp h
          split
          · exact ⟨hsmall.1, by simp⟩
          · exact ⟨hsmall.2, by simp⟩
        · next hsigma =>
          obtain ⟨hsmall, hdot⟩ := isSmall_of_mem_lowerChar (by simpa using hsigma) h
          exact ⟨hsmall, fun heq => by simp [hdot heq]⟩
      · obtain ⟨hsmall, hdot⟩ := ih h
        exact ⟨hsmall, fun heq => List.mem_cons_of_mem _ (hdot heq)⟩

theorem lowercaseAfter_eq_self (h : ∀ char ∈ text, IsSmall char) (before : Text) :
    lowercaseAfter before text = text := by
  induction text generalizing before with
  | nil => rfl
  | cons char rest ih =>
      obtain ⟨⟨hchar, hsigma⟩, hrest⟩ := List.forall_mem_cons.mp h
      rw [lowercaseAfter, if_neg (by simpa using hsigma), hchar, ih hrest, List.singleton_append]

/-- **The small form of a text is small.** -/
theorem lowercase_lowercase (text : Text) : lowercase (lowercase text) = lowercase text :=
  lowercaseAfter_eq_self (fun _ h => (isSmall_of_mem_lowercaseAfter h).1) []

theorem dot_not_mem_lowercase (h : '.' ∉ text) : '.' ∉ lowercase text :=
  fun hmem => h ((isSmall_of_mem_lowercaseAfter hmem).2 rfl)

/-! ### Full stops in front -/

variable {dots : Text}

theorem eq_dot_of_mem_takeWhile (h : char ∈ text.takeWhile (· = '.')) : char = '.' := by
  simpa using List.all_eq_true.mp List.all_takeWhile char h

theorem leadsToCased_append (hdots : ∀ char ∈ dots, char = '.') (before : Text) :
    leadsToCased (before ++ dots) = leadsToCased before := by
  induction before with
  | nil =>
      have hskip : (dots ++ []).dropWhile isCaseIgnorable = [] := by
        apply List.dropWhile_append_of_pos
        intro char hchar
        rw [hdots char hchar]
        rfl
      rw [List.append_nil] at hskip
      rw [List.nil_append, leadsToCased, hskip]
      rfl
  | cons char rest ih =>
      rw [leadsToCased, leadsToCased] at ih ⊢
      rw [List.cons_append, List.dropWhile_cons, List.dropWhile_cons]
      split
      · exact ih
      · rfl

theorem lowercaseAfter_append_dots (hdots : ∀ char ∈ dots, char = '.') (before text : Text) :
    lowercaseAfter (before ++ dots) text = lowercaseAfter before text := by
  induction text generalizing before with
  | nil => rfl
  | cons char rest ih =>
      rw [lowercaseAfter, lowercaseAfter, leadsToCased_append hdots, ← List.cons_append, ih]

theorem lowercase_dots_append (hdots : ∀ char ∈ dots, char = '.') (text : Text) :
    lowercase (dots ++ text) = dots ++ lowercase text := by
  have hafter (passed : Text) (hpassed : ∀ char ∈ passed, char = '.') :
      lowercaseAfter passed (dots ++ text) = dots ++ lowercaseAfter [] text := by
    induction dots generalizing passed with
    | nil => exact lowercaseAfter_append_dots hpassed [] text
    | cons dot dots ih =>
        obtain ⟨rfl, hrest⟩ := List.forall_mem_cons.mp hdots
        have hdot : lowerChar '.' = ['.'] := by decide
        rw [List.cons_append, lowercaseAfter, if_neg (by decide), hdot,
          ih hrest _ (List.forall_mem_cons.mpr ⟨rfl, hpassed⟩)]
        rfl
  exact hafter [] (by simp)

theorem dropWhile_dots_append (hdots : ∀ char ∈ dots, char = '.') (hcore : '.' ∉ core) :
    (dots ++ core).dropWhile (· = '.') = core := by
  rw [List.dropWhile_append_of_pos (by simpa using hdots)]
  cases core with
  | nil => rfl
  | cons char rest =>
      have hchar : char ≠ '.' := fun heq => hcore (by simp [heq])
      rw [List.dropWhile_cons, if_neg (by simpa using hchar)]

/-- An extension in small letters is looked up by the small form of what is written after the full
stops in front. -/
theorem normalExtension_lowercase (h : '.' ∉ text.dropWhile (· = '.')) :
    Language.normalExtension (lowercase text) = lowercase (text.dropWhile (· = '.')) := by
  have hdots : ∀ char ∈ text.takeWhile (· = '.'), char = '.' := fun _ => eq_dot_of_mem_takeWhile
  have hsplit : text = text.takeWhile (· = '.') ++ text.dropWhile (· = '.') :=
    List.takeWhile_append_dropWhile.symm
  rw [Language.normalExtension]
  conv => lhs; rw [hsplit, lowercase_dots_append hdots]
  rw [dropWhile_dots_append hdots (dot_not_mem_lowercase h), lowercase_lowercase]

/-! ### ASCII letters -/

theorem leadsToCased_map_toLower (text : Text) :
    leadsToCased (text.map Char.toLower) = leadsToCased text := by
  induction text with
  | nil => rfl
  | cons char rest ih =>
      rw [leadsToCased, leadsToCased] at ih ⊢
      rw [List.map_cons, List.dropWhile_cons, List.dropWhile_cons, isCaseIgnorable_toLower]
      split
      · exact ih
      · exact isCased_toLower char

theorem lowercaseAfter_map_toLower (before text : Text) :
    lowercaseAfter (before.map Char.toLower) (text.map Char.toLower)
      = lowercaseAfter before text := by
  induction text generalizing before with
  | nil => rfl
  | cons char rest ih =>
      have hsigma : (char.toLower.toNat == 0x3A3) = (char.toNat == 0x3A3) :=
        apply_toLower (f := fun char => char.toNat == 0x3A3) (by decide) char
      have hlater := ih (char :: before)
      rw [List.map_cons] at hlater
      rw [List.map_cons, lowercaseAfter, lowercaseAfter, hlater, hsigma, lowerChar_toLower,
        leadsToCased_map_toLower, leadsToCased_map_toLower]

theorem lowercase_eq_of_sameLetters {left right : Text} (h : Text.SameLetters left right) :
    lowercase left = lowercase right :=
  calc lowercase left = lowercase (left.map Char.toLower) :=
        (lowercaseAfter_map_toLower [] left).symm
    _ = lowercase (right.map Char.toLower) := by rw [h]
    _ = lowercase right := lowercaseAfter_map_toLower [] right

/-! ### Words of plain letters -/

/-- No run leads to an ASCII character but the one that takes the Kelvin sign to the letter k. -/
theorem lowerRuns_avoid_ascii : ∀ run ∈ lowerRuns.toList,
    0x80 ≤ run.target ∨ run.target = 0x6B ∧ run.image run.last = 0x6B := by
  decide +kernel

theorem lowerChar_eq_toLower (h : ∀ image ∈ lowerChar char, image.toNat < 0x80 ∧ image ≠ 'k') :
    lowerChar char = [char.toLower] := by
  by_cases hascii : char.toNat < 0x80
  · rw [lowerChar, if_pos hascii]
  by_cases hdotted : char.toNat = 0x130
  · have hdot : '\u0307' ∈ lowerChar char := by simp [lowerChar, hdotted]
    exact absurd (h _ hdot).1 (by decide)
  rw [lowerChar_eq_apply (Nat.le_of_not_lt hascii) hdotted] at h
  obtain ⟨hlow, hne⟩ := h _ (List.mem_singleton.mpr rfl)
  obtain hself | ⟨run, hrun, htakes, himage⟩ := apply_eq_self_or_exists lowerRuns char
  · rw [hself] at hlow
    exact absurd hlow hascii
  · have htoNat := (lowerRuns_leadsToCharacters run hrun).toNat_image htakes
    have hge := htakes.target_le_image
    have hle := htakes.image_le
    rw [himage] at hlow hne
    obtain hpast | ⟨htarget, hlast⟩ := lowerRuns_avoid_ascii run hrun
    · omega
    · have hk : run.image char.toNat = 0x6B := by omega
      exact absurd (congrArg Char.ofNat hk) hne

theorem lowercaseAfter_eq_map_toLower
    (h : ∀ image ∈ lowercaseAfter before text, image.toNat < 0x80 ∧ image ≠ 'k') :
    lowercaseAfter before text = text.map Char.toLower := by
  induction text generalizing before with
  | nil => rfl
  | cons char rest ih =>
      rw [lowercaseAfter] at h ⊢
      rw [List.forall_mem_append] at h
      obtain ⟨hchar, hrest⟩ := h
      rw [ih hrest]
      split at hchar
      · -- neither small form of the capital sigma is in ASCII
        have hsigma := (List.forall_mem_singleton.mp hchar).1
        split at hsigma <;> exact absurd hsigma (by decide)
      · next hne => rw [if_neg hne, lowerChar_eq_toLower hchar, List.map_cons, List.singleton_append]

/-- Of a word in small letters of ASCII without k the small form tells the letters: no other
character becomes one of these. -/
theorem lowercase_eq_iff_sameLetters {word : Text}
    (hword : ∀ char ∈ word, IsSmall char ∧ char.toNat < 0x80 ∧ char ≠ 'k') :
    lowercase text = word ↔ Text.SameLetters text word := by
  have hsmall : lowercase word = word := lowercaseAfter_eq_self (fun char h => (hword char h).1) []
  have hplain : lowercase word = word.map Char.toLower := by
    apply lowercaseAfter_eq_map_toLower
    intro char hchar
    rw [← lowercase, hsmall] at hchar
    exact (hword char hchar).2
  constructor
  · intro h
    have htext : lowercase text = text.map Char.toLower := by
      apply lowercaseAfter_eq_map_toLower
      intro char hchar
      rw [← lowercase, h] at hchar
      exact (hword char hchar).2
    rw [Text.SameLetters, ← htext, ← hplain, h, hsmall]
  · intro h
    rw [lowercase_eq_of_sameLetters h, hsmall]

end Unicode

end Highlighter
