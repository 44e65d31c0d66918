import Highlighter.Proofs.Registry.Directory
import Highlighter.Proofs.Registry.History
import Highlighter.Proofs.Text.LineRange
import Highlighter.Proofs.Unicode.Lowercase

/-!
# The names of rule files and the paths they are for

The stem of a rule file is put in small letters, is rid of the full stops in front, and is put in
small letters again; the extension of a path is what comes after its last full stop, in small
letters. The two meet if the stem has no full stops but those in front, in whatever case its ASCII
letters are written (`rulesFor_of_counted`). A file with another full stop in its stem counts too,
but its stem is then no extension of a path (`rulesFor_ne_of_dotted_stem`).
-/

namespace Highlighter

open Text

/-! ### Names with a full stop -/

namespace Path

variable {name extension : Text}

theorem fileName?_eq_some (hslash : '/' ∉ name) (hlength : 2 < name.length) :
    fileName? name = some name := by
  have hkept : [name].filter (fun part => part ≠ [] && part ≠ ['.']) = [name] := by
    apply List.filter_eq_self.mpr
    intro part hpart
    obtain rfl := List.mem_singleton.mp hpart
    have hnil : part ≠ [] := by
      rintro rfl
      simp at hlength
    have hdot : part ≠ ['.'] := by
      rintro rfl
      simp at hlength
    simp [hnil, hdot]
  have hup : name ≠ ['.', '.'] := by
    rintro rfl
    simp at hlength
  rw [fileName?, parts, pieces_eq_singleton hslash, hkept, List.getLast?_singleton]
  simp [hup]

theorem splitName?_append (hdot : '.' ∉ extension) (stem : Text) :
    splitName? (stem ++ '.' :: extension)
      = if stem = [] then none else some (stem, extension) := by
  have hplain : ∀ char ∈ extension.reverse, decide (char ≠ '.') = true := by
    intro char hchar
    rw [decide_eq_true_eq]
    rintro rfl
    exact hdot (List.mem_reverse.mp hchar)
  have hreverse : (stem ++ '.' :: extension).reverse
      = extension.reverse ++ '.' :: stem.reverse := by
    simp
  have htake : (stem ++ '.' :: extension).reverse.takeWhile (· ≠ '.') = extension.reverse := by
    rw [hreverse, List.takeWhile_append_of_pos hplain]
    simp
  have hdrop : (stem ++ '.' :: extension).reverse.dropWhile (· ≠ '.') = '.' :: stem.reverse := by
    rw [hreverse, List.dropWhile_append_of_pos hplain]
    simp
  simp only [splitName?, htake, hdrop, List.tail_cons, List.reverse_reverse]

end Path

namespace Registry

/-- A file is a rule file if there is something before the ending of its name. -/
theorem ruleStem?_append {stem : Text} (hslash : '/' ∉ stem) :
    ruleStem? (stem ++ ".toml".toList)
      = if stem = [] then none else some (Unicode.lowercase stem) := by
  have hsplit : Path.splitName? (stem ++ '.' :: "toml".toList)
      = if stem = [] then none else some (stem, "toml".toList) :=
    Path.splitName?_append (by decide) stem
  have hname : stem ++ ".toml".toList = stem ++ '.' :: "toml".toList := rfl
  have hfile : Path.fileName? (stem ++ ".toml".toList) = some (stem ++ ".toml".toList) := by
    apply Path.fileName?_eq_some
    · simpa using hslash
    · simp
  rw [ruleStem?, Path.extension?, Path.stem?, hfile, hname]
  simp only [Option.bind_eq_bind, Option.bind_some, hsplit]
  split <;> rfl

theorem dot_cons_append {dots core : Text} (hdots : ∀ char ∈ dots, char = '.') :
    '.' :: (dots ++ core) = dots ++ '.' :: core := by
  induction dots with
  | nil => rfl
  | cons dot dots ih =>
      obtain ⟨rfl, hrest⟩ := List.forall_mem_cons.mp hdots
      rw [List.cons_append, ih hrest, List.cons_append]

theorem lookupExtension?_append {base written : Text} (hbase : base ≠ []) (hslash : '/' ∉ base)
    (hwritten : written ≠ []) (hslash' : '/' ∉ written)
    (hdots : '.' ∉ written.dropWhile (· = '.')) :
    lookupExtension? (base ++ '.' :: written)
      = some (Unicode.lowercase (written.dropWhile (· = '.'))) := by
  -- of the full stops in a row the last one is before the extension
  have hsplit : base ++ '.' :: written
      = base ++ written.takeWhile (· = '.') ++ '.' :: written.dropWhile (· = '.') := by
    rw [List.append_assoc, ← dot_cons_append fun _ => Unicode.eq_dot_of_mem_takeWhile,
      List.takeWhile_append_dropWhile]
  have hbefore : base ++ written.takeWhile (· = '.') ≠ [] :=
    List.append_ne_nil_of_left_ne_nil hbase _
  have hfile : Path.fileName? (base ++ '.' :: written) = some (base ++ '.' :: written) := by
    have hlength := List.length_pos_iff.mpr hbase
    have hlength' := List.length_pos_iff.mpr hwritten
    apply Path.fileName?_eq_some
    · simp [hslash, hslash']
    · simp
      omega
  rw [lookupExtension?, Path.extension?, hfile, hsplit]
  simp only [Option.bind_eq_bind, Option.bind_some, Path.splitName?_append hdots, hbefore, if_false]
  rfl

/-! ### Rules in force -/

variable {registry : Registry}

theorem Consistent.rulesFor_add (h : registry.Consistent) {language : Language} {path : Path}
    {extension : Text} (hpath : lookupExtension? path = some extension)
    (hmem : extension ∈ language.extensions) :
    (registry.add language).rulesFor path = language.rules := by
  rw [rulesFor, detect?_eq_of_lookupExtension? hpath, h.getElem?_owners_add, if_pos hmem]
  simp [h.getElem?_languages_add]

/-- Rules in force are found for the paths whose extension they claim. -/
theorem InForce.rulesFor_eq {given : StemRules} (hforce : registry.InForce given)
    (h : registry.Consistent) (hne : given.1 ≠ fallbackStem) {path : Path}
    (hpath : lookupExtension? path = claim? given.1) : registry.rulesFor path = given.2 := by
  rw [claim?_of_ne hne] at hpath
  unfold InForce at hforce
  rw [applyRules_of_ne hne] at hforce
  rw [← hforce]
  exact h.rulesFor_add hpath (List.mem_singleton.mpr rfl)

/-- **The rules of a file that counts are found** for every path with its stem as the extension, in
whatever case its ASCII letters are written, if no two rule files claim one extension and the stem
has no full stop but in front. -/
theorem rulesFor_of_counted (h : registry.Reachable) {files : Files Id} {directory : Path}
    {names : List Text} (hnames : files.names directory = (names, none))
    (hclaims : (names.filterMap (rulesAt? files directory)).Pairwise
      fun left right => claim? left.1 = claim? right.1 → claim? left.1 = none)
    {stem : Text} {given : StemRules} (hmem : stem ++ ".toml".toList ∈ names)
    (hslash : '/' ∉ stem) (hgiven : rulesAt? files directory (stem ++ ".toml".toList) = some given)
    (hfallback : Unicode.lowercase stem ≠ fallbackStem) (hdots : '.' ∉ stem.dropWhile (· = '.'))
    {base written : Text} (hbase : base ≠ []) (hslash' : '/' ∉ base)
    (hwritten : SameLetters written stem) :
    ∃ after count, registry.Loads files directory after count ∧
      after.rulesFor (base ++ '.' :: written) = given.2 := by
  have hstem := ruleStem?_of_rulesAt? hgiven
  rw [ruleStem?_append hslash] at hstem
  have hne : stem ≠ [] := fun hnil => by simp [hnil] at hstem
  rw [if_neg hne, Option.some.injEq] at hstem
  -- the rules are in force after those that come later in the directory, whose claims are others
  obtain ⟨before, after, hfound⟩ :=
    List.append_of_mem (List.mem_filterMap.mpr ⟨_, hmem, hgiven⟩)
  have hnamed : given.1 ≠ fallbackStem := hstem ▸ hfallback
  have hlater : ∀ other ∈ after, claim? given.1 ≠ claim? other.1 := by
    intro other hother hclaim
    rw [hfound] at hclaims
    have hpair := (List.pairwise_cons.mp (List.pairwise_append.mp hclaims).2.1).1 other hother
    have hnone := hpair hclaim
    rw [claim?_of_ne hnamed] at hnone
    cases hnone
  have hforce : (registry.applyAll (before ++ given :: after)).InForce given :=
    h.consistent.inForce_applyAll hlater
  -- the extension of the path is the one that the file claims
  have hpath : lookupExtension? (base ++ '.' :: written) = claim? given.1 := by
    have hdots' : '.' ∉ written.dropWhile (· = '.') :=
      fun hdot => hdots ((hwritten.dropWhile_dots.mem_iff toLower_eq_dot_iff).mp hdot)
    have hslashes : '/' ∉ written :=
      fun hmem => hslash ((hwritten.mem_iff toLower_eq_slash_iff).mp hmem)
    rw [lookupExtension?_append hbase hslash' (hwritten.ne_nil hne) hslashes hdots',
      claim?_of_ne hnamed, ← hstem, Unicode.normalExtension_lowercase hdots,
      Unicode.lowercase_eq_of_sameLetters hwritten.dropWhile_dots]
  refine ⟨_, _, (loads_iff hnames).mpr ⟨rfl, rfl⟩, ?_⟩
  rw [hfound]
  exact hforce.rulesFor_eq (h.consistent.applyAll _) hnamed hpath

/-- A stem that ends with a capital sigma and has a full stop in front, for a path in other letters. -/
theorem rulesFor_of_sigma :
    let node (name content : String) : Text × FileNode := (name.toList, .file content.toUTF8)
    let entries := [node "default.toml" "", node ".kΣ.toml" "keywords = [\"x\"]", node "a.b.toml" ""]
    let files := FileTree.files ⟨.directory entries, []⟩
    let given : StemRules := (".kς".toList, ⟨["x".toList], [], [], [], []⟩)
    Reachable builtin ∧ files.names ".".toList = (entries.map Prod.fst, none) ∧
      ((entries.map Prod.fst).filterMap (rulesAt? files ".".toList)).Pairwise
        (fun left right => claim? left.1 = claim? right.1 → claim? left.1 = none) ∧
      rulesAt? files ".".toList ".kΣ.toml".toList = some given ∧
      ∃ after count, builtin.Loads files ".".toList after count ∧
        after.rulesFor "f..KΣ".toList = given.2 := by
  intro node entries files given
  have hnames : files.names ".".toList = (entries.map Prod.fst, none) := rfl
  have hclaims : ((entries.map Prod.fst).filterMap (rulesAt? files ".".toList)).Pairwise
      fun left right => claim? left.1 = claim? right.1 → claim? left.1 = none := by
    decide +kernel
  have hgiven : rulesAt? files ".".toList (".kΣ".toList ++ ".toml".toList) = some given := by
    decide +kernel
  have hwritten : SameLetters ".KΣ".toList ".kΣ".toList := by decide
  have hbase : "f".toList ≠ [] ∧ '/' ∉ "f".toList := by decide
  exact ⟨.builtin, hnames, hclaims, hgiven, rulesFor_of_counted .builtin hnames hclaims (by decide)
    (by decide) hgiven (by decide +kernel) (by decide) hbase.1 hbase.2 hwritten⟩

/-- The full stop that is left makes `a.b` the extension of the rules and `b` that of the path. -/
theorem rulesFor_ne_of_dotted_stem :
    let entries := [("a.b.toml".toList, FileNode.file "keywords = [\"x\"]".toUTF8)]
    let files := FileTree.files ⟨.directory entries, []⟩
    let given : StemRules := ("a.b".toList, ⟨["x".toList], [], [], [], []⟩)
    Reachable empty ∧ files.names ".".toList = (["a.b.toml".toList], none) ∧
      ((entries.map Prod.fst).filterMap (rulesAt? files ".".toList)).Pairwise
        (fun left right => claim? left.1 = claim? right.1 → claim? left.1 = none) ∧
      rulesAt? files ".".toList "a.b.toml".toList = some given ∧ given.1 ≠ fallbackStem ∧
      ∃ after, empty.Loads files ".".toList after 1 ∧ after.rulesFor "f.a.b".toList ≠ given.2 := by
  intro entries files given
  have hclaims : ((entries.map Prod.fst).filterMap (rulesAt? files ".".toList)).Pairwise
      fun left right => claim? left.1 = claim? right.1 → claim? left.1 = none := by
    decide +kernel
  have hcount : 1 = ((entries.map Prod.fst).filterMap (rulesAt? files ".".toList)).length := by
    decide +kernel
  refine ⟨.empty, rfl, hclaims, by decide +kernel, by decide, _,
    (loads_iff rfl).mpr ⟨rfl, hcount⟩, ?_⟩
  decide +kernel

end Registry

end Highlighter
