import Highlighter.Proofs.Registry.Add
import Highlighter.Registry.Directory

/-!
# The two maps of a registry agree

Whatever is done to a registry, the owner of an extension is the one language that lists it. Adding
a language keeps this as a whole step (`Consistent.add`), and everything else that changes a
registry adds languages or replaces the fallback. The main statement is `Reachable.reliable`.
-/

namespace Highlighter

namespace Registry

inductive Change where
  | add (language : Language)
  | setFallback (rules : RuleSet)
  | loadDirectory (files : Files Id) (directory : Path)

def change (registry : Registry) : Change → Registry
  | .add language => registry.add language
  | .setFallback rules => { registry with fallback := rules }
  | .loadDirectory files directory => (registry.applyDirectory files directory).run.1.registry

/-- A registry that comes of the empty one or the one of the built-in languages by some changes. -/
inductive Reachable : Registry → Prop where
  | empty : Reachable .empty
  | builtin : Reachable .builtin
  | change {registry : Registry} (h : Reachable registry) (step : Change) :
      Reachable (registry.change step)

variable {registry : Registry}

/-! ### Steps -/

theorem consistent_empty : empty.Consistent where
  owner_iff := by simp [empty]
  name_eq := by simp [empty]

/-- **Adding a language** keeps the maps in agreement. -/
theorem Consistent.add (h : registry.Consistent) (language : Language) :
    (registry.add language).Consistent where
  owner_iff := by
    intro extension name
    rw [h.getElem?_owners_add]
    by_cases hname : name = language.name
    · -- the name owns what its new language lists, and nothing else
      subst hname
      simp only [h.getElem?_languages_add, if_true, Option.some.injEq, exists_eq_left']
      by_cases hmem : extension ∈ language.extensions
      · simp [hmem]
      · by_cases howner : registry.owners[extension]? = some language.name <;>
          simp [hmem, howner]
    · -- another name loses what the new language lists
      simp only [h.getElem?_languages_add, hname, if_false]
      rw [Language.exists_bind_without?_iff, ← h.owner_iff]
      by_cases hmem : extension ∈ language.extensions
      · simp [hmem, Ne.symm hname]
      · by_cases howner : registry.owners[extension]? = some language.name
        · simp [hmem, howner, Ne.symm hname]
        · simp [hmem, howner]
  name_eq := by
    intro name stored hstored
    rw [h.getElem?_languages_add] at hstored
    split at hstored
    · next hname =>
      rw [hname, Option.some.inj hstored]
    · obtain ⟨before, hbefore, hrest⟩ := Option.bind_eq_some_iff.mp hstored
      obtain ⟨-, rfl⟩ := Language.without?_eq_some_iff.mp hrest
      exact h.name_eq name before hbefore

theorem Consistent.setFallback (h : registry.Consistent) (rules : RuleSet) :
    { registry with fallback := rules }.Consistent :=
  ⟨h.owner_iff, h.name_eq⟩

theorem Consistent.foldl_add (h : registry.Consistent) (languages : List Language) :
    (languages.foldl Registry.add registry).Consistent := by
  induction languages generalizing registry with
  | nil => exact h
  | cons first others ih => exact ih (h.add first)

theorem Consistent.applyRules (h : registry.Consistent) (stem : Text) (rules : RuleSet) :
    (registry.applyRules stem rules).Consistent := by
  unfold Registry.applyRules
  split
  · exact h.setFallback rules
  · exact h.add _

theorem Consistent.apply {loaded : Loaded} (h : loaded.registry.Consistent) (file : RuleFile) :
    (loaded.apply file).registry.Consistent := by
  unfold Loaded.apply
  split
  · exact h
  · exact h.applyRules _ _

theorem Consistent.applyFiles (h : registry.Consistent) (files : List RuleFile) :
    (registry.applyFiles files).registry.Consistent := by
  have hfold (loaded : Loaded) (hloaded : loaded.registry.Consistent) :
      (files.foldl Loaded.apply loaded).registry.Consistent := by
    induction files generalizing loaded with
    | nil => exact hloaded
    | cons first others ih => exact ih _ (hloaded.apply first)
  exact hfold _ h

theorem exists_applyDirectory_eq (registry : Registry) (files : Files Id) (directory : Path) :
    ∃ ruleFiles, (registry.applyDirectory files directory).run.1 = registry.applyFiles ruleFiles :=
  ⟨_, rfl⟩

theorem Consistent.change (h : registry.Consistent) (step : Change) :
    (registry.change step).Consistent := by
  cases step with
  | add language => exact h.add language
  | setFallback rules => exact h.setFallback rules
  | loadDirectory files directory =>
      obtain ⟨ruleFiles, hloaded⟩ := exists_applyDirectory_eq registry files directory
      rw [Registry.change, hloaded]
      exact h.applyFiles ruleFiles

/-! ### What agreement is good for -/

theorem Consistent.exists_language_of_detect? (h : registry.Consistent) {path : Path} {name : Text}
    (hdetect : registry.detect? path = some name) :
    ∃ language, registry.languages[name]? = some language ∧
      registry.rulesFor path = language.rules := by
  obtain ⟨extension, -, howner⟩ := Option.bind_eq_some_iff.mp hdetect
  obtain ⟨language, hlanguage, -⟩ := (h.owner_iff _ name).mp howner
  refine ⟨language, hlanguage, ?_⟩
  simp [rulesFor, hdetect, hlanguage]

/-- What a registry with maps that agree promises: it is consistent, no extension is in the lists of
two languages, every owner is there, and only a path without a language gets the fallback. -/
structure Reliable (registry : Registry) : Prop extends registry.Consistent where
  listed_once : ∀ (extension name other : Text) (language language' : Language),
    registry.languages[name]? = some language → registry.languages[other]? = some language' →
    extension ∈ language.extensions → extension ∈ language'.extensions → name = other
  owner_mem : ∀ extension name : Text, registry.owners[extension]? = some name → name ∈ registry.names
  rulesFor_of_detect? : ∀ path name, registry.detect? path = some name →
    ∃ language : Language, registry.languages[name]? = some language ∧
      registry.rulesFor path = language.rules

/-! ### Runs -/

theorem Reachable.consistent (h : Reachable registry) : registry.Consistent := by
  induction h with
  | empty => exact consistent_empty
  | builtin => exact consistent_empty.foldl_add Builtin.languages
  | change _ step ih => exact ih.change step

/-- **The maps agree in every reachable state.** -/
theorem Reachable.reliable (h : Reachable registry) : registry.Reliable where
  toConsistent := h.consistent
  listed_once := by
    intro extension name other language language' hlanguage hlanguage' hmem hmem'
    have howner := (h.consistent.owner_iff extension name).mpr ⟨language, hlanguage, hmem⟩
    have howner' := (h.consistent.owner_iff extension other).mpr ⟨language', hlanguage', hmem'⟩
    exact Option.some.inj (howner.symm.trans howner')
  owner_mem := by
    intro extension name howner
    obtain ⟨language, hlanguage, -⟩ := (h.consistent.owner_iff extension name).mp howner
    simp [names, Std.ExtTreeMap.mem_iff_isSome_getElem?, hlanguage]
  rulesFor_of_detect? := by
    intro path name hdetect
    exact h.consistent.exists_language_of_detect? hdetect

/-- Kotlin loses one extension to a language that lists it twice; of two rule files one is not there,
and the other one takes the only extension of Java before the listing breaks off. -/
theorem reliable_of_take_over :
    let mine : Language := ⟨"Mine".toList, ["kt".toList, "kt".toList], .empty⟩
    let files : Files Id := {
      read path := if path = "d/java.toml".toList then .ok ByteArray.empty else .error .notFound
      names _ := (["py.toml".toList, "java.toml".toList], some (.other "broken".toList)) }
    let registry := (builtin.change (.add mine)).change (.loadDirectory files "d".toList)
    registry.Reachable ∧ registry.Reliable ∧
      registry.names = ["Kotlin".toList, "Mine".toList, "Python".toList, "java".toList] := by
  refine ⟨?_, Reachable.reliable ?_, by decide +kernel⟩
  · exact .change (.change .builtin _) _
  · exact .change (.change .builtin _) _

end Registry

end Highlighter
