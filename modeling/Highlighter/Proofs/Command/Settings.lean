import Highlighter.FileTree
import Highlighter.Proofs.Command.Sources
import Highlighter.Proofs.Output.Listing
import Highlighter.Proofs.Output.Terminal

/-!
# What the settings cannot do

The settings choose a mode and may bring rules, and neither decides whether a run succeeds or which
text is shown. So whatever two settings files say, and whatever lies in the directories of rules to
which they lead, two runs for the same arguments agree (`run_unaffected_by_settings`).
-/

namespace Highlighter

/-- The options leave nothing for the settings to choose. A listing is the same in both modes. -/
def Options.Complete (options : Options) : Prop :=
  options.rules.isSome ∧ (options.listing = true ∨ options.mode.isSome)

theorem Options.Complete.shown_eq {options : Options} (h : options.Complete)
    (settings settings' : Settings) (rules : RuleSet) (text : Text) :
    Command.shown options settings rules text = Command.shown options settings' rules text := by
  obtain ⟨-, hlisting | hmode⟩ := h
  · rw [Command.shown, Command.shown, if_pos hlisting, if_pos hlisting, Listing.render_highlight]
  · obtain ⟨mode, hmode⟩ := Option.isSome_iff_exists.mp hmode
    rw [Command.shown, Command.shown, hmode, Option.getD_some, Option.getD_some]

namespace Command

variable {files files' : Files Id} {options : Options}

/-- What an output shows is the text: a listing tells it in its last fields, and on a terminal it is
what the sequences that select styles leave. Escape characters of the text itself could be taken for
the start of one. -/
def Shows (options : Options) (text : Text) (output : List Text) : Prop :=
  if options.listing then Listing.text? output.flatten = some text
  else '\x1b' ∉ text → Terminal.withoutSequences output.flatten = text

theorem shows_shown (options : Options) (settings : Settings) (rules : RuleSet) (text : Text) :
    Shows options text (shown options settings rules text) := by
  have hjoined := joined_highlight text rules (options.mode.getD settings.mode)
  unfold Shows shown
  split
  · rw [Listing.text?_render, hjoined]
  · intro hescape
    rw [Terminal.withoutSequences_render (by rwa [hjoined]), hjoined]

/-- Two outcomes of highlighting with the same options: the same error, or both show the text of the
file. -/
structure Agree (files : Files Id) (options : Options) (outcome outcome' : Outcome) : Prop where
  error : outcome.error = outcome'.error
  shows : outcome.error = none → ∃ file text, options.file = some file ∧
    files.readText file = .ok text ∧ Shows options text outcome.output ∧
    Shows options text outcome'.output
  output : options.Complete → outcome.output = outcome'.output

theorem agree_highlightFile (h : ∀ path ∈ options.paths, files.read path = files'.read path)
    (settings settings' : Id (Settings × List Warning)) :
    Agree files options (highlightFile files settings options).run
      (highlightFile files' settings' options).run := by
  cases hsources : sources files options with
  | error error =>
    have hsources' : sources files' options = .error error := by rw [← sources_congr h, hsources]
    obtain ⟨warnings, hrun⟩ := highlightFile_of_error settings hsources
    obtain ⟨warnings', hrun'⟩ := highlightFile_of_error settings' hsources'
    rw [hrun, hrun']
    exact ⟨rfl, nofun, fun _ => rfl⟩
  | ok found =>
    obtain ⟨text, named⟩ := found
    have hsources' : sources files' options = .ok (text, named) := by
      rw [← sources_congr h, hsources]
    obtain ⟨rules, warnings, hgiven, hrun⟩ := highlightFile_of_ok settings hsources
    obtain ⟨rules', warnings', hgiven', hrun'⟩ := highlightFile_of_ok settings' hsources'
    obtain ⟨htext, hnamed⟩ := sources_eq_ok_iff.mp hsources
    rw [hrun, hrun']
    refine ⟨rfl, fun _ => ?_, fun hcomplete => ?_⟩
    · obtain ⟨file, hfile, htext⟩ := sourceText_eq_ok_iff.mp htext
      exact ⟨file, text, hfile, htext, shows_shown .., shows_shown ..⟩
    · have hsome : named.isSome := by rw [isSome_of_namedRules hnamed, hcomplete.1]
      obtain ⟨given, hsome⟩ := Option.isSome_iff_exists.mp hsome
      have hrules : rules = rules' := by rw [hgiven given hsome, hgiven' given hsome]
      rw [Outcome.success, Outcome.success, hrules, hcomplete.shown_eq]

/-- **Settings do not break a run** and do not change what it shows. Take two settings files, be they
missing, and the same other files, or at least files that agree on what the arguments name. The two
runs end with the same code and the same error; if they highlight a file, both show its text; and
where the options are complete they write the same. -/
theorem run_unaffected_by_settings {arguments : List Text}
    (hfiles : ∀ path ∈ arguments, files.read path = files'.read path)
    (config config' : Files Id) (home home' : Option Path) :
    let outcome := (run files (Settings.load config home) arguments).run
    let outcome' := (run files' (Settings.load config' home') arguments).run
    outcome.code = outcome'.code ∧ outcome.error = outcome'.error ∧
      ∀ options, Invocation.ofArguments arguments = .ok (.highlight options) →
        Agree files options outcome outcome' := by
  unfold run
  cases harguments : Invocation.ofArguments arguments with
  | error error => exact ⟨rfl, rfl, nofun⟩
  | ok invocation =>
    cases invocation with
    | help | version => exact ⟨rfl, rfl, nofun⟩
    | highlight options =>
      have hagree : Agree files options
          (highlightFile files (Settings.load config home) options).run
          (highlightFile files' (Settings.load config' home') options).run := by
        apply agree_highlightFile
        intro path hpath
        exact hfiles path (Invocation.mem_of_mem_paths harguments hpath)
      refine ⟨?_, hagree.error, ?_⟩
      · simp only [Outcome.code, hagree.error]
      · intro options' hoptions
        cases hoptions
        exact hagree

/-- A settings file that leads to a broken rule file, against none. -/
theorem run_unaffected_by_broken_rules :
    let node (name content : String) : Text × FileNode := (name.toList, .file content.toUTF8)
    let named := [node "a.kt" "x", node "r.toml" "keywords = [\"x\"]"]
    let files := FileTree.files ⟨.directory (named ++
      [node ".hilite.conf" "dark-mode = on\nrules-dir = d",
        ("d".toList, .directory [node "kt.toml" "x"])]), []⟩
    let files' := FileTree.files ⟨.directory named, []⟩
    let arguments := ["--rules".toList, "r.toml".toList, "--segments".toList, "a.kt".toList]
    let outcome := (run files (Settings.load files (some "/".toList)) arguments).run
    let outcome' := (run files' (Settings.load files' (some "/".toList)) arguments).run
    outcome.error = none ∧ outcome.output = outcome'.output ∧
      Listing.text? outcome'.output.flatten = some "x".toList := by
  intro node named files files' arguments outcome outcome'
  have hfiles : ∀ path ∈ arguments, files.read path = files'.read path := by
    simp only [arguments, List.forall_mem_cons]
    exact ⟨rfl, rfl, rfl, rfl, nofun⟩
  obtain ⟨-, -, hagree⟩ := run_unaffected_by_settings hfiles files files' (some "/".toList)
    (some "/".toList)
  have hoptions : Invocation.ofArguments arguments = .ok (.highlight
      { rules := some "r.toml".toList, listing := true, file := some "a.kt".toList }) := by
    decide +kernel
  have herror : outcome.error = none := by decide +kernel
  obtain ⟨file, text, hfile, htext, -, hshows⟩ := (hagree _ hoptions).shows herror
  obtain rfl : "a.kt".toList = file := Option.some.inj hfile
  have hread : (files.readText "a.kt".toList).run = .ok "x".toList := by decide +kernel
  obtain rfl : "x".toList = text := Except.ok.inj (hread.symm.trans htext)
  exact ⟨herror, (hagree _ hoptions).output ⟨rfl, .inl rfl⟩, hshows⟩

end Command

end Highlighter
