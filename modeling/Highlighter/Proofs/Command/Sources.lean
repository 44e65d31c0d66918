import Highlighter.Command

/-!
# What a run depends on

Whether a run on a file fails, and how, depends on the files that the command line names and on
nothing else: `sources` is what they give. A run fails where they do (`highlightFile_of_error`) and
else shows the text, by the rules of the rule file if one is named (`highlightFile_of_ok`).
-/

namespace Highlighter

namespace Options

variable {options : Options} {path other : Path}

/-- The files that the options name. -/
def paths (options : Options) : List Path :=
  options.file.toList ++ options.rules.toList

theorem mem_paths :
    path ∈ options.paths ↔ options.file = some path ∨ options.rules = some path := by
  simp [paths]

theorem mem_paths_of_file (h : path ∈ { options with file := some other }.paths) :
    path = other ∨ path ∈ options.paths := by
  rw [mem_paths] at h ⊢
  obtain h | h := h
  · exact .inl (Option.some.inj h).symm
  · exact .inr (.inr h)

theorem mem_paths_of_rules (h : path ∈ { options with rules := some other }.paths) :
    path = other ∨ path ∈ options.paths := by
  rw [mem_paths] at h ⊢
  obtain h | h := h
  · exact .inr (.inl h)
  · exact .inl (Option.some.inj h).symm

end Options

theorem Invocation.mem_of_mem_paths_read {options result : Options} {arguments : List Text}
    {path : Path} (h : read options arguments = .ok (highlight result))
    (hpath : path ∈ result.paths) : path ∈ options.paths ∨ path ∈ arguments := by
  fun_induction read options arguments with
  | case1 options =>
    cases h
    exact .inl hpath
  | case2 | case3 => cases h
  | case4 _ _ _ _ ih | case5 _ _ _ _ _ ih | case6 _ _ _ _ _ _ ih =>
    exact (ih h).imp_right (List.mem_cons_of_mem _)
  | case7 => cases h
  | case8 options _ _ _ _ _ _ other ih =>
    obtain hnamed | hrest := ih h
    · obtain rfl | hnamed := Options.mem_paths_of_rules hnamed
      · exact .inr (by simp)
      · exact .inl hnamed
    · exact .inr (by simp [hrest])
  | case9 => cases h
  | case10 options other rest _ _ _ _ _ _ _ ih =>
    obtain hnamed | hrest := ih h
    · obtain rfl | hnamed := Options.mem_paths_of_file hnamed
      · exact .inr (by simp)
      · exact .inl hnamed
    · exact .inr (by simp [hrest])

theorem Invocation.mem_of_mem_paths {arguments : List Text} {options : Options} {path : Path}
    (h : ofArguments arguments = .ok (highlight options)) (hpath : path ∈ options.paths) :
    path ∈ arguments := by
  obtain hnone | hmem := mem_of_mem_paths_read h hpath
  · cases hnone
  · exact hmem

namespace Command

def sourceText (files : Files Id) : Option Path → Except Error Text
  | none => .error .noInput
  | some file => textOfFile file (files.read file)

def namedRules (files : Files Id) : Option Path → Except Error (Option RuleSet)
  | none => .ok none
  | some path => (RuleSet.ofFile path (files.read path)).map fun loaded => some loaded.1

/-- What the files named give: the text of the file, and the rules of the rule file if one is named.
The first of the two that cannot be used is the error. -/
def sources (files : Files Id) (options : Options) : Except Error (Text × Option RuleSet) := do
  let text ← sourceText files options.file
  let named ← namedRules files options.rules
  return (text, named)

variable {files files' : Files Id} {options : Options} {error : Error} {text : Text}
  {named : Option RuleSet}

theorem sources_eq_ok_iff : sources files options = .ok (text, named) ↔
    sourceText files options.file = .ok text ∧ namedRules files options.rules = .ok named := by
  unfold sources
  cases sourceText files options.file with
  | error => simp [bind, Except.bind]
  | ok =>
    cases namedRules files options.rules with
    | error => simp [bind, Except.bind]
    | ok => simp [bind, Except.bind, pure, Except.pure]

theorem sources_eq_error_iff : sources files options = .error error ↔
    sourceText files options.file = .error error ∨
      (∃ text, sourceText files options.file = .ok text) ∧
        namedRules files options.rules = .error error := by
  unfold sources
  cases sourceText files options.file with
  | error => simp [bind, Except.bind]
  | ok =>
    cases namedRules files options.rules with
    | error => simp [bind, Except.bind]
    | ok => simp [bind, Except.bind, pure, Except.pure]

theorem sources_congr (h : ∀ path ∈ options.paths, files.read path = files'.read path) :
    sources files options = sources files' options := by
  have htext : sourceText files options.file = sourceText files' options.file := by
    cases hfile : options.file with
    | none => rfl
    | some file => rw [sourceText, sourceText, h file (Options.mem_paths.mpr (.inl hfile))]
  have hrules : namedRules files options.rules = namedRules files' options.rules := by
    cases hpath : options.rules with
    | none => rfl
    | some path => rw [namedRules, namedRules, h path (Options.mem_paths.mpr (.inr hpath))]
  rw [sources, sources, htext, hrules]

theorem sourceText_eq_ok_iff {named : Option Path} : sourceText files named = .ok text ↔
    ∃ file, named = some file ∧ textOfFile file (files.read file) = .ok text := by
  cases named <;> simp [sourceText]

theorem namedRules_eq_error_iff {ruleFile : Option Path} :
    namedRules files ruleFile = .error error ↔
      ∃ path, ruleFile = some path ∧ RuleSet.ofFile path (files.read path) = .error error := by
  cases ruleFile with
  | none => simp [namedRules]
  | some path =>
    cases h : RuleSet.ofFile path (files.read path) <;> simp [namedRules, h, Except.map]

theorem namedRules_eq_ok_iff {ruleFile : Option Path} : namedRules files ruleFile = .ok named ↔
    ruleFile = none ∧ named = none ∨ ∃ path rules warnings, ruleFile = some path ∧
      RuleSet.ofFile path (files.read path) = .ok (rules, warnings) ∧ named = some rules := by
  cases ruleFile with
  | none => simp [namedRules, eq_comm]
  | some path =>
    cases h : RuleSet.ofFile path (files.read path) <;>
      simp [namedRules, h, Except.map, Prod.ext_iff, eq_comm]

theorem isSome_of_namedRules {ruleFile : Option Path} (h : namedRules files ruleFile = .ok named) :
    named.isSome = ruleFile.isSome := by
  obtain ⟨rfl, rfl⟩ | ⟨path, rules, warnings, rfl, -, rfl⟩ := namedRules_eq_ok_iff.mp h
  · rfl
  · rfl

/-! ### The run -/

section

variable (settings : Settings) {ruleFile : Option Path} (file : Path)

theorem chooseRules_of_error (h : namedRules files ruleFile = .error error) :
    (chooseRules files settings ruleFile file).run = .error error := by
  obtain ⟨path, rfl, hload⟩ := namedRules_eq_error_iff.mp h
  exact hload

theorem chooseRules_of_ok (h : namedRules files ruleFile = .ok named) :
    ∃ rules warnings, (∀ given ∈ named, rules = given) ∧
      (chooseRules files settings ruleFile file).run = .ok (rules, warnings) := by
  obtain ⟨rfl, rfl⟩ | ⟨path, rules, warnings, rfl, hload, rfl⟩ := namedRules_eq_ok_iff.mp h
  · exact ⟨_, _, nofun, rfl⟩
  · exact ⟨rules, warnings, fun _ => Option.some.inj, hload⟩

end

variable (settings : Id (Settings × List Warning))

theorem run_highlightFile {file : Path} (h : options.file = some file) :
    (highlightFile files settings options).run =
      match textOfFile file (files.read file) with
      | .error error => .failure error settings.run.2
      | .ok text =>
        match (chooseRules files settings.run.1 options.rules file).run with
        | .error error => .failure error settings.run.2
        | .ok (rules, others) =>
          .success (shown options settings.run.1 rules text) (settings.run.2 ++ others) := by
  rw [highlightFile, h]
  rfl

theorem highlightFile_of_error (h : sources files options = .error error) :
    ∃ warnings, (highlightFile files settings options).run = .failure error warnings := by
  obtain htext | ⟨⟨text, htext⟩, hnamed⟩ := sources_eq_error_iff.mp h
  · cases hfile : options.file with
    | none =>
      rw [hfile] at htext
      cases htext
      exact ⟨[], by rw [highlightFile, hfile]; rfl⟩
    | some file =>
      rw [hfile, sourceText] at htext
      exact ⟨settings.run.2, by rw [run_highlightFile settings hfile, htext]⟩
  · obtain ⟨file, hfile, htext⟩ := sourceText_eq_ok_iff.mp htext
    have hchoose := chooseRules_of_error settings.run.1 file hnamed
    exact ⟨settings.run.2, by rw [run_highlightFile settings hfile, htext, hchoose]⟩

theorem highlightFile_of_ok (h : sources files options = .ok (text, named)) :
    ∃ rules warnings, (∀ given ∈ named, rules = given) ∧
      (highlightFile files settings options).run
        = .success (shown options settings.run.1 rules text) warnings := by
  obtain ⟨htext, hnamed⟩ := sources_eq_ok_iff.mp h
  obtain ⟨file, hfile, htext⟩ := sourceText_eq_ok_iff.mp htext
  obtain ⟨rules, others, hgiven, hchoose⟩ := chooseRules_of_ok settings.run.1 file hnamed
  refine ⟨rules, settings.run.2 ++ others, hgiven, ?_⟩
  rw [run_highlightFile settings hfile, htext, hchoose]

end Command

end Highlighter
