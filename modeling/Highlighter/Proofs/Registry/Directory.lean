import Highlighter.FileTree
import Highlighter.Proofs.Registry.Commute
import Mathlib.Data.List.Basic

/-!
# Loading a directory

A name in a directory gives rules if it is the name of a rule file and the file can be read
(`rulesAt?`). Nothing else in a directory leaves a trace but warnings: what is loaded are the rules
that the names give, one after another (`loads_iff`). If no two of them have the same claim, the
order of the names does not matter, and to load the directory again changes nothing. The main
statement is `loads_in_any_order`.
-/

namespace Highlighter

/-- The stem and the rules of a rule file, if it can be read, is UTF-8 and is TOML. -/
def RuleFile.given? (file : RuleFile) : Option Registry.StemRules := do
  let bytes ← file.content.toOption
  let text ← Text.ofUtf8? bytes
  let fields ← Toml.parse? text
  return (file.stem, (RuleSet.ofFields fields).1)

/-! ### One file -/

namespace RuleSet

variable {path : Path} {content : Except AccessError ByteArray}

theorem ofFile_of_error {cause : AccessError} (h : content = .error cause) :
    ∃ error, ofFile path content = .error error := by
  subst h
  cases cause <;> exact ⟨_, rfl⟩

theorem ofFile_of_not_utf8 {bytes : ByteArray} (h : content = .ok bytes)
    (htext : Text.ofUtf8? bytes = none) : ∃ error, ofFile path content = .error error := by
  subst h
  refine ⟨.access .notUtf8, ?_⟩
  rw [ofFile, textOfFile, htext]
  rfl

theorem ofFile_of_text {bytes : ByteArray} {text : Text} (h : content = .ok bytes)
    (htext : Text.ofUtf8? bytes = some text) : ofFile path content = ofToml text := by
  subst h
  rw [ofFile, textOfFile, htext]
  rfl

end RuleSet

theorem RuleFile.exists_ofFile_eq (file : RuleFile) :
    match file.given? with
    | some given => given.1 = file.stem ∧
      ∃ warnings, RuleSet.ofFile file.path file.content = .ok (given.2, warnings)
    | none => ∃ error, RuleSet.ofFile file.path file.content = .error error := by
  unfold given?
  cases hcontent : file.content with
  | error cause => exact RuleSet.ofFile_of_error rfl
  | ok bytes =>
      cases htext : Text.ofUtf8? bytes with
      | none =>
          simp only [Except.toOption, Option.bind_eq_bind, Option.bind_some, htext, Option.bind_none]
          exact RuleSet.ofFile_of_not_utf8 rfl htext
      | some text =>
          rw [RuleSet.ofFile_of_text rfl htext, RuleSet.ofToml]
          simp only [Except.toOption, Option.bind_eq_bind, Option.bind_some, htext]
          cases Toml.parse? text with
          | none => exact ⟨_, rfl⟩
          | some fields => exact ⟨rfl, _, rfl⟩

theorem Loaded.exists_apply_eq (loaded : Loaded) (file : RuleFile) :
    ∃ warnings, loaded.apply file = match file.given? with
      | some given => ⟨loaded.registry.applyRules given.1 given.2, loaded.count + 1, warnings⟩
      | none => ⟨loaded.registry, loaded.count, warnings⟩ := by
  have hfile := file.exists_ofFile_eq
  unfold Loaded.apply
  split at hfile
  · next given hgiven =>
    obtain ⟨hstem, warnings, hrules⟩ := hfile
    simp only [hrules, hstem]
    exact ⟨_, rfl⟩
  · next hnone =>
    obtain ⟨error, herror⟩ := hfile
    simp only [herror]
    exact ⟨_, rfl⟩

/-! ### All files -/

namespace Registry

variable {registry after : Registry} {files files' : Files Id} {directory : Path}
  {names names' : List Text} {count : Nat}

theorem exists_foldl_apply_eq (loaded : Loaded) (ruleFiles : List RuleFile) :
    ∃ warnings, ruleFiles.foldl Loaded.apply loaded
      = ⟨loaded.registry.applyAll (ruleFiles.filterMap RuleFile.given?),
        loaded.count + (ruleFiles.filterMap RuleFile.given?).length, warnings⟩ := by
  induction ruleFiles generalizing loaded with
  | nil => exact ⟨loaded.warnings, rfl⟩
  | cons first others ih =>
      obtain ⟨warnings, hfirst⟩ := loaded.exists_apply_eq first
      rw [List.foldl_cons, hfirst]
      cases hgiven : first.given? with
      | none =>
          rw [List.filterMap_cons_none hgiven]
          exact ih _
      | some given =>
          obtain ⟨warnings', hothers⟩ :=
            ih ⟨loaded.registry.applyRules given.1 given.2, loaded.count + 1, warnings⟩
          rw [List.filterMap_cons_some hgiven]
          refine ⟨warnings', hothers.trans ?_⟩
          rw [List.length_cons, Nat.add_assoc, Nat.add_comm 1]
          rfl

/-- The rule file to which a name in a directory leads. -/
def ruleFile? (files : Files Id) (directory : Path) (name : Text) : Option RuleFile :=
  (ruleStem? name).map fun stem =>
    ⟨directory.join name, stem, files.read (directory.join name)⟩

/-- The stem and the rules that a name in a directory gives. -/
def rulesAt? (files : Files Id) (directory : Path) (name : Text) : Option StemRules :=
  (ruleFile? files directory name).bind RuleFile.given?

theorem ruleStem?_of_rulesAt? {name : Text} {given : StemRules}
    (h : rulesAt? files directory name = some given) : ruleStem? name = some given.1 := by
  obtain ⟨file, hfile, hgiven⟩ := Option.bind_eq_some_iff.mp h
  obtain ⟨stem, hstem, rfl⟩ := Option.map_eq_some_iff.mp hfile
  have hresult := RuleFile.exists_ofFile_eq
    ⟨directory.join name, stem, files.read (directory.join name)⟩
  rw [hgiven] at hresult
  rw [hstem, hresult.1]

/-- A directory can be loaded, with this registry and this number of rule files as the result. -/
def Loads (registry : Registry) (files : Files Id) (directory : Path) (after : Registry)
    (count : Nat) : Prop :=
  ∃ warnings, registry.loadDirectory files directory = .ok ⟨after, count, warnings⟩

/-- The rule files that are listed are applied, also if there may be more. -/
theorem applyDirectory_eq {cause : Option AccessError}
    (hnames : files.names directory = (names, cause)) :
    registry.applyDirectory files directory
      = (registry.applyFiles (names.filterMap (ruleFile? files directory)), cause.map .access) := by
  have hfiles : names.filterMap (ruleFile? files directory)
      = (names.filterMap fun name =>
          (ruleStem? name).map fun stem => (directory.join name, stem)).map fun found =>
            RuleFile.mk found.1 found.2 (files.read found.1) := by
    rw [List.map_filterMap]
    apply List.filterMap_congr
    intro name _
    simp only [ruleFile?, Option.map_map]
    rfl
  have hread (found : List (Path × Text)) :
      (found.mapM fun pair => do return RuleFile.mk pair.1 pair.2 (← files.read pair.1) : Id _)
        = found.map fun pair => RuleFile.mk pair.1 pair.2 (files.read pair.1) :=
    List.idRun_mapM
  rw [hfiles, ← hread]
  simp only [applyDirectory, bind, hnames]
  rfl

theorem loadDirectory_eq (hnames : files.names directory = (names, none)) :
    registry.loadDirectory files directory
      = .ok (registry.applyFiles (names.filterMap (ruleFile? files directory))) := by
  simp only [loadDirectory, bind, applyDirectory_eq hnames]
  rfl

/-- **What is loaded** are the rules that the names give, and their number. -/
theorem loads_iff (hnames : files.names directory = (names, none)) :
    registry.Loads files directory after count ↔
      after = registry.applyAll (names.filterMap (rulesAt? files directory)) ∧
        count = (names.filterMap (rulesAt? files directory)).length := by
  obtain ⟨warnings, hload⟩ := exists_foldl_apply_eq ⟨registry, 0, []⟩
    (names.filterMap (ruleFile? files directory))
  have hgiven : (names.filterMap (ruleFile? files directory)).filterMap RuleFile.given?
      = names.filterMap (rulesAt? files directory) := by
    rw [List.filterMap_filterMap]
    rfl
  rw [hgiven] at hload
  have hresult : registry.loadDirectory files directory
      = .ok ⟨registry.applyAll (names.filterMap (rulesAt? files directory)),
          (names.filterMap (rulesAt? files directory)).length, warnings⟩ := by
    rw [loadDirectory_eq hnames, applyFiles, hload, Nat.zero_add]
  constructor
  · rintro ⟨warnings', hwarnings⟩
    obtain ⟨rfl, rfl, -⟩ := Loaded.mk.inj (Except.ok.inj (hwarnings.symm.trans hresult))
    exact ⟨rfl, rfl⟩
  · rintro ⟨rfl, rfl⟩
    exact ⟨warnings, hresult⟩

/-! ### In any order -/

/-- The names in a directory that give rules. -/
def givingNames (files : Files Id) (directory : Path) (names : List Text) : List Text :=
  names.filter fun name => (rulesAt? files directory name).isSome

theorem length_filterMap_rulesAt? (files : Files Id) (directory : Path) (names : List Text) :
    (names.filterMap (rulesAt? files directory)).length
      = (givingNames files directory names).length := by
  rw [List.length_filterMap_eq_countP, List.countP_eq_length_filter]
  rfl

theorem filterMap_givingNames (files : Files Id) (directory : Path) (names : List Text) :
    (givingNames files directory names).filterMap (rulesAt? files directory)
      = names.filterMap (rulesAt? files directory) := by
  rw [givingNames, List.filterMap_filter]
  apply List.filterMap_congr
  intro name _
  cases rulesAt? files directory name <;> rfl

theorem rulesAt?_congr {name : Text}
    (h : files'.read (directory.join name) = files.read (directory.join name)) :
    rulesAt? files' directory name = rulesAt? files directory name := by
  simp only [rulesAt?, ruleFile?, h]

/-- Another listing of a directory gives the same rules, be it in another order. -/
theorem filterMap_rulesAt?_perm
    (hread : ∀ name ∈ names, files'.read (directory.join name) = files.read (directory.join name))
    (hperm : names'.Perm names ∨ names'.Perm (givingNames files directory names)) :
    (names.filterMap (rulesAt? files directory)).Perm
      (names'.filterMap (rulesAt? files' directory)) := by
  have hmem : ∀ name ∈ names', name ∈ names := by
    intro name hname
    obtain hperm | hperm := hperm
    · exact hperm.mem_iff.mp hname
    · exact List.mem_of_mem_filter (hperm.mem_iff.mp hname)
  have hcongr : names'.filterMap (rulesAt? files' directory)
      = names'.filterMap (rulesAt? files directory) :=
    List.filterMap_congr fun name hname => rulesAt?_congr (hread name (hmem name hname))
  rw [hcongr]
  obtain hperm | hperm := hperm
  · exact (hperm.filterMap _).symm
  · rw [← filterMap_givingNames]
    exact (hperm.filterMap _).symm

/-- **The order of a directory does not matter**, and neither does what is no rule file in it or
cannot be read, if no two of its rule files claim one extension and at most one is for all other
files: the registry is the same for every listing, as many rule files count as can be read, and to
load the directory again changes nothing. -/
theorem loads_in_any_order (h : registry.Reachable)
    (hclaims : (names.filterMap (rulesAt? files directory)).Pairwise
      fun left right => claim? left.1 ≠ claim? right.1) :
    ∃ after, ∀ (files' : Files Id) (names' : List Text),
      (∀ name ∈ names, files'.read (directory.join name) = files.read (directory.join name)) →
      files'.names directory = (names', none) →
      names'.Perm names ∨ names'.Perm (givingNames files directory names) →
      registry.Loads files' directory after (givingNames files directory names).length ∧
        after.Loads files' directory after (givingNames files directory names).length := by
  refine ⟨registry.applyAll (names.filterMap (rulesAt? files directory)), ?_⟩
  intro files' names' hread hnames' hperm
  have hfound := filterMap_rulesAt?_perm hread hperm
  have hafter := h.consistent.applyAll_perm hfound hclaims
  have hcount : (givingNames files directory names).length
      = (names'.filterMap (rulesAt? files' directory)).length := by
    rw [← length_filterMap_rulesAt?, hfound.length_eq]
  have hclaims' := (hfound.pairwise_iff Ne.symm).mp hclaims
  rw [loads_iff hnames', loads_iff hnames', hafter]
  exact ⟨⟨rfl, hcount⟩, (h.consistent.applyAll_applyAll_self hclaims').symm, hcount⟩

/-- One file takes an extension from Kotlin and another one the only extension of Java; one that
breaks off and one that is no rule file stand between them. -/
theorem loads_kotlin_and_java :
    let node (name content : String) : Text × FileNode := (name.toList, .file content.toUTF8)
    let entries := [node "KT.toml" "keywords = [\"fun\"]", node "broken.toml" "keywords = [",
      node "default.toml" "", node "README" "x", node "java.toml" "types = [\"Int\"]"]
    let files := FileTree.files ⟨.directory entries, []⟩
    let files' := FileTree.files ⟨.directory entries.reverse, []⟩
    Reachable builtin ∧
      ((entries.map Prod.fst).filterMap (rulesAt? files ".".toList)).Pairwise
        (fun left right => claim? left.1 ≠ claim? right.1) ∧
      ∃ after, builtin.Loads files ".".toList after 3 ∧ builtin.Loads files' ".".toList after 3 ∧
        after.Loads files' ".".toList after 3 := by
  intro node entries files files'
  have hclaims : ((entries.map Prod.fst).filterMap (rulesAt? files ".".toList)).Pairwise
      fun left right => claim? left.1 ≠ claim? right.1 := by
    decide +kernel
  have hread : ∀ name ∈ entries.map Prod.fst,
      files'.read (Path.join ".".toList name) = files.read (Path.join ".".toList name) := by
    simp only [entries, List.map_cons, List.map_nil, List.forall_mem_cons]
    exact ⟨rfl, rfl, rfl, rfl, rfl, nofun⟩
  have hcount : (givingNames files ".".toList (entries.map Prod.fst)).length = 3 := by
    decide +kernel
  obtain ⟨after, hloads⟩ := loads_in_any_order Reachable.builtin hclaims
  rw [hcount] at hloads
  have hgiven := hloads files (entries.map Prod.fst) (fun _ _ => rfl) rfl (.inl (.refl _))
  have hreversed := hloads files' (entries.map Prod.fst).reverse hread rfl
    (.inl (List.reverse_perm _))
  exact ⟨.builtin, hclaims, after, hgiven.1, hreversed⟩

end Registry

end Highlighter
