import Highlighter.FileTree
import Highlighter.Proofs.Settings.LastLine
import Highlighter.Proofs.Settings.Value
import Mathlib.Logic.Relation

/-!
# What a settings file says

The settings are told by the last line for each of three keys (`Tells`). Hence edits that keep these
lines and their order for each key do not change the settings: lines for different keys may trade
places, and lines that bear on no setting may come and go (`load_tells`).
-/

namespace Highlighter.Settings

/-- The last line for the display mode names the mode. -/
def NamesMode (text : Text) (mode : Mode) : Prop :=
  ∃ name, Last text "display-mode".toList name ∧ Mode.Named name mode

/-- What a text says: a mode by its name, or else by a switch, or else none; a directory; and a
warning for a name that no mode has. -/
structure Tells (text : Text) (settings : Settings) (warnings : List Warning) : Prop where
  named : ∀ mode, NamesMode text mode → settings.mode = mode
  switched : (∀ mode, ¬NamesMode text mode) →
    ∀ value, Last text "dark-mode".toList value → (settings.mode = .dark ↔ On value)
  unsaid : (∀ mode, ¬NamesMode text mode) →
    (∀ value, ¬Last text "dark-mode".toList value) → settings.mode = .light
  directory : ∀ directory, settings.rulesDirectory = some directory ↔
    Last text "rules-dir".toList directory ∧ directory ≠ []
  warned : ∀ name, warnings = [.unknownMode name] ↔
    Last text "display-mode".toList name ∧ ∀ mode, ¬Mode.Named name mode
  quiet : warnings = [] ↔
    ∀ name, Last text "display-mode".toList name → ∃ mode, Mode.Named name mode

/-- The keys that bear on a setting. -/
def keys : List String :=
  ["display-mode", "dark-mode", "rules-dir"]

/-- A line that bears on no setting. -/
inductive Idle (line : Text) : Prop where
  | blank (h : line.trim = [])
  | comment (h : line.trim.head? = some '#')
  | noEqualsSign (h : '=' ∉ line)
  | unknownKey (key value : Text) (h : Assigns line key value)
      (hkey : ∀ known ∈ keys, known.toList ≠ key)

/-- An idle line is added, or two neighbours for different keys trade places. -/
inductive Edit : List Text → List Text → Prop where
  | add (before after : List Text) {line : Text} (h : Idle line) :
      Edit (before ++ after) (before ++ line :: after)
  | swap (before after : List Text) {line line' key key' value value' : Text}
      (h : Assigns line key value) (h' : Assigns line' key' value') (hne : key ≠ key') :
      Edit (before ++ line :: line' :: after) (before ++ line' :: line :: after)

/-- Such edits, done or undone, lead from one text to the other. -/
def Edited (text text' : Text) : Prop :=
  Relation.EqvGen Edit (Text.pieces '\n' text) (Text.pieces '\n' text')

variable {text text' line key value : Text} {lines lines' : List Text}

/-! ### The law -/

theorem namesMode_iff {mode : Mode} :
    NamesMode text mode ↔ (value? text "display-mode").bind Mode.ofName? = some mode := by
  simp only [NamesMode, ← value?_eq_some_iff, ← Mode.ofName?_eq_some_iff,
    Option.bind_eq_some_iff]

theorem ofDark_isOn_eq_dark_iff : Mode.ofDark (isOn value) = .dark ↔ On value := by
  rw [← isOn_eq_true_iff]
  cases isOn value <;> decide

theorem tells_ofText (text : Text) : Tells text (ofText text).1 (ofText text).2 := by
  have hunnamed (h : ∀ mode, ¬NamesMode text mode) :
      (value? text "display-mode").bind Mode.ofName? = none :=
    Option.eq_none_iff_forall_ne_some.mpr fun mode hmode => h mode (namesMode_iff.mpr hmode)
  constructor
  case named =>
    intro mode hmode
    rw [ofText, namesMode_iff.mp hmode, Option.getD_some]
  case switched =>
    intro h value hvalue
    rw [ofText, hunnamed h, value?_eq_some_iff.mpr hvalue]
    exact ofDark_isOn_eq_dark_iff
  case unsaid =>
    intro h hunsaid
    have hswitch : value? text "dark-mode" = none :=
      Option.eq_none_iff_forall_ne_some.mpr fun value hvalue =>
        hunsaid value (value?_eq_some_iff.mp hvalue)
    rw [ofText, hunnamed h, hswitch]
    rfl
  case directory =>
    intro directory
    rw [← value?_eq_some_iff]
    simp [ofText, Option.filter_eq_some_iff]
  case warned =>
    intro name
    rw [← value?_eq_some_iff, ← Mode.ofName?_eq_none_iff]
    cases hname : value? text "display-mode" with
    | none => simp [ofText, hname]
    | some given => cases hmode : Mode.ofName? given <;> simp [ofText, hname, hmode]
  case quiet =>
    simp only [← value?_eq_some_iff, ← Mode.ofName?_eq_some_iff]
    cases hname : value? text "display-mode" with
    | none => simp [ofText, hname]
    | some given => cases hmode : Mode.ofName? given <;> simp [ofText, hname, hmode]

/-! ### Edits -/

/-- The value that the last line for a key gives it. -/
def found? (lines : List Text) (key : Text) : Option Text :=
  (lines.filterMap assignment?).reverse.lookup key

theorem found?_append (left right : List Text) (key : Text) :
    found? (left ++ right) key = (found? right key).or (found? left key) := by
  rw [found?, List.filterMap_append, List.reverse_append, List.lookup_append]
  rfl

theorem found?_singleton_eq_none (h : ∀ value, ¬Assigns line key value) :
    found? [line] key = none := by
  cases hline : assignment? line with
  | none => simp [found?, hline]
  | some pair =>
      obtain ⟨other, value⟩ := pair
      have hne : (key == other) = false := by
        apply beq_eq_false_iff_ne.mpr
        rintro rfl
        exact h value (assignment?_eq_some_iff.mp hline)
      simp [found?, hline, List.lookup_cons, hne]

theorem Assigns.key_eq {key' value' : Text} (h : Assigns line key value)
    (h' : Assigns line key' value') : key = key' := by
  have hpair := (assignment?_eq_some_iff.mpr h).symm.trans (assignment?_eq_some_iff.mpr h')
  exact (Prod.mk.inj (Option.some.inj hpair)).1

theorem Idle.not_assigns (h : Idle line) {known : String} (hknown : known ∈ keys) (value : Text) :
    ¬Assigns line known.toList value := by
  intro hassigns
  obtain ⟨before, after, hleftmost, -, -⟩ := hassigns.parts
  have hmem : '=' ∈ line.trim := by simp [hleftmost.split]
  cases h with
  | blank h => simp [h] at hmem
  | comment h => exact hassigns.not_comment h
  | noEqualsSign h => exact h (Text.mem_of_mem_trim hmem)
  | unknownKey key value h hkey => exact hkey known hknown (hassigns.key_eq h)

theorem Edit.found?_eq (h : Edit lines lines') {known : String} (hknown : known ∈ keys) :
    found? lines known.toList = found? lines' known.toList := by
  cases h with
  | @add before after line h =>
      have hline := found?_singleton_eq_none (h.not_assigns hknown)
      have hsplit : before ++ line :: after = before ++ ([line] ++ after) := rfl
      rw [hsplit, found?_append, found?_append, found?_append, hline, Option.or_none]
  | @swap before after line line' key key' value value' h h' hne =>
      -- one of the two lines says nothing about the key
      have hnone : found? [line] known.toList = none ∨ found? [line'] known.toList = none := by
        by_cases hkey : known.toList = key
        · refine .inr (found?_singleton_eq_none fun value hassigns => hne ?_)
          rw [← hkey, hassigns.key_eq h']
        · exact .inl (found?_singleton_eq_none fun value hassigns => hkey (hassigns.key_eq h))
      have hsplit :
          before ++ line :: line' :: after = before ++ ([line] ++ ([line'] ++ after)) := rfl
      have hsplit' :
          before ++ line' :: line :: after = before ++ ([line'] ++ ([line] ++ after)) := rfl
      rw [hsplit, hsplit']
      simp only [found?_append]
      obtain hnone | hnone := hnone
      · rw [hnone, Option.or_none, Option.or_none]
      · rw [hnone, Option.or_none, Option.or_none]

theorem found?_eq_of_eqvGen (h : Relation.EqvGen Edit lines lines') {known : String}
    (hknown : known ∈ keys) : found? lines known.toList = found? lines' known.toList := by
  induction h with
  | rel _ _ hedit => exact hedit.found?_eq hknown
  | refl _ => rfl
  | symm _ _ _ ih => exact ih.symm
  | trans _ _ _ _ _ ih ih' => exact ih.trans ih'

theorem ofText_eq_of_edited (h : Edited text text') : ofText text = ofText text' := by
  have hvalue : ∀ known ∈ keys, value? text known = value? text' known := by
    intro known hknown
    exact found?_eq_of_eqvGen h hknown
  rw [keys, List.forall_mem_cons, List.forall_mem_cons, List.forall_mem_singleton] at hvalue
  obtain ⟨hname, hswitch, hdirectory⟩ := hvalue
  rw [ofText, ofText, hname, hswitch, hdirectory]

/-! ### The file -/

theorem run_load {files : Files Id} {home : Path}
    (h : (files.readText (path home)).run = .ok text) :
    (load files (some home)).run = ofText text := by
  have hread : files.readText (path home) = pure (.ok text) := h
  rw [load, hread]
  rfl

/-- **The settings are what the text of the settings file says**, and no edit that keeps the lines
for each key in their order changes them. -/
theorem load_tells {files : Files Id} {home : Path}
    (h : (files.readText (path home)).run = .ok text) :
    Tells text (load files (some home)).run.1 (load files (some home)).run.2 ∧
      ∀ (files' : Files Id) (home' : Path) (text' : Text),
        (files'.readText (path home')).run = .ok text' → Edited text text' →
          (load files' (some home')).run = (load files (some home)).run := by
  rw [run_load h]
  refine ⟨tells_ofText text, ?_⟩
  intro files' home' text' h' hedited
  rw [run_load h', ofText_eq_of_edited hedited]

/-- The name of a mode, in other letters, against a switch. Then a name that no mode has, a switch,
and a path with an equals sign, of which two lines trade places and a comment is added. -/
theorem load_tells_of_modes :
    let files (text : Text) : Files Id :=
      FileTree.files ⟨.directory [(".hilite.conf".toList, .file text.utf8.toByteArray)], []⟩
    let bright := "Display-Mode = LIGHT\ndark-mode = Yes".toList
    let text := "DISPLAY-MODE = neon\ndark-mode = Yes\n rules-dir = a=b".toList
    let text' := "dark-mode = Yes\nDISPLAY-MODE = neon\n# dark-mode = off\n rules-dir = a=b".toList
    let named := (load (files bright) (some "/".toList)).run
    let loaded := (load (files text) (some "/".toList)).run
    named.1.mode = .light ∧ named.2 = [] ∧
      loaded.1.mode = .dark ∧ loaded.1.rulesDirectory = some "a=b".toList ∧
      loaded.2 = [.unknownMode "neon".toList] ∧ Edited text text' ∧
      (load (files text') (some "/".toList)).run = loaded := by
  intro files bright text text' named loaded
  have hread (text : Text) : ((files text).readText (path "/".toList)).run = .ok text := by
    have hfile : (files text).read (path "/".toList) = .ok text.utf8.toByteArray := rfl
    change textOfFile (path "/".toList) ((files text).read (path "/".toList)) = _
    rw [hfile, textOfFile, Text.ofUtf8?_utf8]
  have hlight : Last bright "display-mode".toList "LIGHT".toList :=
    value?_eq_some_iff.mp (by decide +kernel)
  have hname : Last text "display-mode".toList "neon".toList :=
    value?_eq_some_iff.mp (by decide +kernel)
  have hswitch : Last text "dark-mode".toList "Yes".toList :=
    value?_eq_some_iff.mp (by decide +kernel)
  have hdirectory : Last text "rules-dir".toList "a=b".toList :=
    value?_eq_some_iff.mp (by decide +kernel)
  have hvalid : Mode.Named "LIGHT".toList .light := .light (by decide +kernel)
  have hunknown (mode : Mode) : ¬Mode.Named "neon".toList mode := by
    rintro (h | h) <;> exact absurd h (by decide +kernel)
  have hon : On "Yes".toList := ⟨"yes".toList, by decide, by decide⟩
  have hedited : Edited text text' := by
    have hfirst : Assigns "DISPLAY-MODE = neon".toList "display-mode".toList "neon".toList :=
      assignment?_eq_some_iff.mp (by decide +kernel)
    have hsecond : Assigns "dark-mode = Yes".toList "dark-mode".toList "Yes".toList :=
      assignment?_eq_some_iff.mp (by decide +kernel)
    have hcomment : Idle "# dark-mode = off".toList := .comment (by decide +kernel)
    have hlines : Text.pieces '\n' text = ["DISPLAY-MODE = neon".toList,
        "dark-mode = Yes".toList, " rules-dir = a=b".toList] := by
      decide +kernel
    have hlines' : Text.pieces '\n' text' = ["dark-mode = Yes".toList,
        "DISPLAY-MODE = neon".toList, "# dark-mode = off".toList, " rules-dir = a=b".toList] := by
      decide +kernel
    have hswap := Edit.swap [] [" rules-dir = a=b".toList] hfirst hsecond (by decide)
    have hadd := Edit.add ["dark-mode = Yes".toList, "DISPLAY-MODE = neon".toList]
      [" rules-dir = a=b".toList] hcomment
    rw [Edited, hlines, hlines']
    exact .trans _ _ _ (.rel _ _ hswap) (.rel _ _ hadd)
  obtain ⟨hnamed, -⟩ := load_tells (hread bright)
  obtain ⟨htells, hsame⟩ := load_tells (hread text)
  refine ⟨hnamed.named _ ⟨_, hlight, hvalid⟩, hnamed.quiet.mpr ?_, ?_, ?_, ?_, hedited,
    hsame _ _ _ (hread text') hedited⟩
  · intro name h
    exact ⟨.light, hlight.eq h ▸ hvalid⟩
  · have hnone (mode : Mode) : ¬NamesMode text mode := by
      rintro ⟨name, h, hmode⟩
      exact hunknown mode (hname.eq h ▸ hmode)
    exact (htells.switched hnone _ hswitch).mpr hon
  · exact (htells.directory _).mpr ⟨hdirectory, by decide⟩
  · exact (htells.warned _).mpr ⟨hname, hunknown⟩

end Highlighter.Settings
