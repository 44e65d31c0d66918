import Highlighter.Proofs.Command.Requests
import Highlighter.Proofs.Command.Sources

/-!
# How a run ends

The arguments decide how a run ends, together with the last file and the last rule file that they
name. `FirstObstacle` is the error that comes first if several things are wrong, and `Ends` says for
any arguments and any files with which code and which error a run ends (`ends_run`).
-/

namespace Highlighter.Command

/-- Why reading a file gives no text. -/
inductive Unreadable (path : Path) (content : Except AccessError ByteArray) : Error → Prop where
  | missing (h : content = .error .notFound) : Unreadable path content (.fileNotFound path)
  | inaccessible (cause : AccessError) (h : content = .error cause) (hcause : cause ≠ .notFound) :
      Unreadable path content (.access cause)
  | notUtf8 (bytes : ByteArray) (h : content = .ok bytes) (htext : Text.ofUtf8? bytes = none) :
      Unreadable path content (.access .notUtf8)

/-- Why reading a rule file gives no rules. -/
inductive Unusable (path : Path) (content : Except AccessError ByteArray) : Error → Prop where
  | unreadable {error : Error} (h : Unreadable path content error) : Unusable path content error
  | notToml (bytes : ByteArray) (text : Text) (h : content = .ok bytes)
      (htext : Text.ofUtf8? bytes = some text) (htoml : Toml.parse? text = none) :
      Unusable path content .malformedRules

/-- The first thing that stands in the way of highlighting a file by a rule file. -/
inductive FirstObstacle (files : Files Id) (file rules : Option Path) : Error → Prop where
  | noFile (h : file = none) : FirstObstacle files file rules .noInput
  | file (path : Path) {error : Error} (hfile : file = some path)
      (h : Unreadable path (files.read path) error) : FirstObstacle files file rules error
  | rules (path rulesPath : Path) {error : Error} (hfile : file = some path)
      (htext : ∀ error, ¬Unreadable path (files.read path) error) (hrules : rules = some rulesPath)
      (h : Unusable rulesPath (files.read rulesPath) error) : FirstObstacle files file rules error

section

variable {path : Path} {content : Except AccessError ByteArray} {error : Error} {text : Text}

theorem textOfFile_eq_ok_iff :
    textOfFile path content = .ok text ↔
      ∃ bytes, content = .ok bytes ∧ Text.ofUtf8? bytes = some text := by
  unfold textOfFile
  split
  · simp
  · simp
  · next bytes => cases htext : Text.ofUtf8? bytes <;> simp [htext]

theorem textOfFile_eq_error_iff :
    textOfFile path content = .error error ↔ Unreadable path content error := by
  constructor
  · intro h
    unfold textOfFile at h
    split at h
    · cases h
      exact .missing rfl
    · next cause hcause =>
      cases h
      exact .inaccessible cause rfl hcause
    · next bytes =>
      split at h
      · cases h
      · next htext =>
        cases h
        exact .notUtf8 bytes rfl htext
  · intro h
    cases h with
    | missing h =>
        rw [h]
        rfl
    | inaccessible cause h hcause =>
        rw [h]
        cases cause with
        | notFound => exact absurd rfl hcause
        | _ => rfl
    | notUtf8 bytes h htext => simp [h, textOfFile, htext]

theorem exists_textOfFile_eq_ok_iff :
    (∃ text, textOfFile path content = .ok text) ↔ ∀ error, ¬Unreadable path content error := by
  simp only [← textOfFile_eq_error_iff]
  cases textOfFile path content <;> simp

theorem ofToml_eq_error_iff :
    RuleSet.ofToml text = .error error ↔ Toml.parse? text = none ∧ error = .malformedRules := by
  unfold RuleSet.ofToml
  cases Toml.parse? text <;> simp [eq_comm]

theorem ofFile_eq_error_iff :
    RuleSet.ofFile path content = .error error ↔ Unusable path content error := by
  have hfile : RuleSet.ofFile path content = .error error ↔
      textOfFile path content = .error error ∨
        ∃ text, textOfFile path content = .ok text ∧ RuleSet.ofToml text = .error error := by
    unfold RuleSet.ofFile
    cases textOfFile path content <;> simp [bind, Except.bind]
  rw [hfile, textOfFile_eq_error_iff]
  simp only [textOfFile_eq_ok_iff, ofToml_eq_error_iff]
  constructor
  · rintro (h | ⟨text, ⟨bytes, hcontent, htext⟩, htoml, rfl⟩)
    · exact .unreadable h
    · exact .notToml bytes text hcontent htext htoml
  · rintro (h | ⟨bytes, text, hcontent, htext, htoml⟩)
    · exact .inl h
    · exact .inr ⟨text, ⟨bytes, hcontent, htext⟩, htoml, rfl⟩

end

/-! ### Highlighting a file -/

variable {files : Files Id} {error : Error}

theorem exists_firstObstacle_iff {file rules : Option Path} :
    (∃ error, FirstObstacle files file rules error) ↔
      file = none ∨ (∃ path error, file = some path ∧ Unreadable path (files.read path) error) ∨
        ∃ path error, rules = some path ∧ Unusable path (files.read path) error := by
  constructor
  · rintro ⟨error, hfile | ⟨path, hfile, h⟩ | ⟨_, path, _, _, hrules, h⟩⟩
    · exact .inl hfile
    · exact .inr (.inl ⟨path, error, hfile, h⟩)
    · exact .inr (.inr ⟨path, error, hrules, h⟩)
  · intro h
    cases file with
    | none => exact ⟨_, .noFile rfl⟩
    | some path =>
        -- a file that gives no text comes first, whatever is wrong with the rule file
        by_cases htext : ∃ error, Unreadable path (files.read path) error
        · obtain ⟨error, htext⟩ := htext
          exact ⟨error, .file path rfl htext⟩
        · obtain h | ⟨other, error, hfile, h⟩ | ⟨rulesPath, error, hrules, h⟩ := h
          · cases h
          · cases hfile
            exact absurd ⟨error, h⟩ htext
          · exact ⟨error, .rules path rulesPath rfl (not_exists.mp htext) hrules h⟩

variable {options : Options}

theorem sources_eq_error_iff_firstObstacle :
    sources files options = .error error ↔
      FirstObstacle files options.file options.rules error := by
  rw [sources_eq_error_iff, namedRules_eq_error_iff]
  simp only [ofFile_eq_error_iff]
  cases hfile : options.file with
  | none =>
      constructor
      · rintro (h | ⟨⟨text, h⟩, -⟩)
        · cases h
          exact .noFile rfl
        · cases h
      · rintro (h | ⟨_, h, -⟩ | ⟨_, _, h, -, -, -⟩)
        · exact .inl rfl
        · cases h
        · cases h
  | some path =>
      rw [sourceText, textOfFile_eq_error_iff, exists_textOfFile_eq_ok_iff]
      constructor
      · rintro (h | ⟨htext, rulesPath, hrules, h⟩)
        · exact .file path rfl h
        · exact .rules path rulesPath rfl htext hrules h
      · rintro (h | ⟨_, h, hread⟩ | ⟨_, rulesPath, h, htext, hrules, hload⟩)
        · cases h
        · cases h
          exact .inl hread
        · cases h
          exact .inr ⟨htext, rulesPath, hrules, hload⟩

theorem error_highlightFile (settings : Id (Settings × List Warning)) :
    (highlightFile files settings options).run.error = some error ↔
      FirstObstacle files options.file options.rules error := by
  rw [← sources_eq_error_iff_firstObstacle]
  cases hsources : sources files options with
  | error found =>
      obtain ⟨warnings, hrun⟩ := highlightFile_of_error settings hsources
      rw [hrun]
      simp [Outcome.failure]
  | ok found =>
      obtain ⟨rules, warnings, -, hrun⟩ := highlightFile_of_ok settings hsources
      rw [hrun]
      simp [Outcome.success]

theorem output_highlightFile (settings : Id (Settings × List Warning))
    (h : (highlightFile files settings options).run.error = some error) :
    (highlightFile files settings options).run.output = [] := by
  cases hsources : sources files options with
  | error found =>
      obtain ⟨warnings, hrun⟩ := highlightFile_of_error settings hsources
      rw [hrun]
      rfl
  | ok found =>
      obtain ⟨rules, warnings, -, hrun⟩ := highlightFile_of_ok settings hsources
      rw [hrun] at h
      cases h

/-! ### The whole run -/

theorem code_eq_zero_or_one (outcome : Outcome) : outcome.code = 0 ∨ outcome.code = 1 := by
  unfold Outcome.code
  split
  · exact .inr rfl
  · exact .inl rfl

theorem code_eq_one_iff (outcome : Outcome) :
    outcome.code = 1 ↔ ∃ error, outcome.error = some error := by
  obtain ⟨output, error, warnings⟩ := outcome
  cases error <;> simp [Outcome.code]

/-- The run ends like this in any monad, so without a look at any file or at the settings. -/
def Settled (arguments : List Text) (outcome : Outcome) : Prop :=
  ∀ (m : Type → Type) [Monad m] (files : Files m) (settings : m (Settings × List Warning)),
    run files settings arguments = pure outcome

variable {arguments : List Text} (settings : Id (Settings × List Warning))

theorem settled_of_wrong (h : Request.firstAnswer? arguments = some (.error error)) :
    Settled arguments (.failure error []) := by
  intro m _ files settings
  rw [run, Invocation.ofArguments_of_firstAnswer? h]

theorem exists_settled {invocation : Invocation}
    (h : Request.firstAnswer? arguments = some (.ok invocation)) :
    ∃ output, Settled arguments (.success output []) := by
  have harguments := Invocation.ofArguments_of_firstAnswer? h
  obtain rfl | rfl := Request.eq_of_firstAnswer? h
  · refine ⟨[helpText], ?_⟩
    intro m _ files settings
    rw [run, harguments]
  · refine ⟨[versionText], ?_⟩
    intro m _ files settings
    rw [run, harguments]

/-- Without an answer, what stands in the way of the last file and the last rule file is the
error. -/
theorem error_run (h : Request.firstAnswer? arguments = none) :
    (run files settings arguments).run.error = some error ↔
      FirstObstacle files (Request.lastFile? arguments) (Request.lastRules? arguments) error := by
  obtain ⟨options, harguments, hfile, hrules⟩ := Invocation.exists_options arguments h
  rw [run, harguments, ← hfile, ← hrules]
  exact error_highlightFile settings

theorem output_run (h : (run files settings arguments).run.error = some error) :
    (run files settings arguments).run.output = [] := by
  unfold run at h ⊢
  cases harguments : Invocation.ofArguments arguments with
  | error _ => rfl
  | ok invocation =>
      rw [harguments] at h
      cases invocation with
      | help | version => cases h
      | highlight options => exact output_highlightFile settings h

/-- How a run for some arguments ends: the first request that ends the reading decides, and if there
is none, the last file and the last rule file that are named. -/
structure Ends (files : Files Id) (arguments : List Text) (outcome : Outcome) : Prop where
  told : ∀ invocation, Request.firstAnswer? arguments = some (.ok invocation) →
    outcome.code = 0 ∧ Settled arguments outcome
  refused : ∀ error, Request.firstAnswer? arguments = some (.error error) →
    outcome.code = 1 ∧ outcome.error = some error
  fails : Request.firstAnswer? arguments = none →
    (outcome.code = 1 ↔ Request.lastFile? arguments = none ∨
      (∃ path error, Request.lastFile? arguments = some path ∧
        Unreadable path (files.read path) error) ∨
      ∃ path error, Request.lastRules? arguments = some path ∧
        Unusable path (files.read path) error)
  error : Request.firstAnswer? arguments = none → ∀ error, outcome.error = some error ↔
    FirstObstacle files (Request.lastFile? arguments) (Request.lastRules? arguments) error
  code : outcome.code = 0 ∨ outcome.code = 1
  silent : outcome.code = 1 → outcome.output = []

/-- **The end of a run** is settled by its arguments and, where they ask for a file to be
highlighted, by the files that they name. A run that fails writes nothing. -/
theorem ends_run (files : Files Id) (settings : Id (Settings × List Warning))
    (arguments : List Text) : Ends files arguments (run files settings arguments).run := by
  refine ⟨?_, ?_, ?_, ?_, ?_, ?_⟩
  · intro invocation h
    obtain ⟨output, hsettled⟩ := exists_settled h
    have hrun : (run files settings arguments).run = .success output [] :=
      hsettled Id files settings
    rw [hrun]
    exact ⟨rfl, hsettled⟩
  · intro error h
    have hrun : (run files settings arguments).run = .failure error [] :=
      settled_of_wrong h Id files settings
    rw [hrun]
    exact ⟨rfl, rfl⟩
  · intro h
    rw [code_eq_one_iff, ← exists_firstObstacle_iff]
    exact exists_congr fun error => error_run settings h
  · intro h error
    exact error_run settings h
  · exact code_eq_zero_or_one _
  · intro h
    obtain ⟨error, herror⟩ := (code_eq_one_iff _).mp h
    exact output_run settings herror

end Highlighter.Command
