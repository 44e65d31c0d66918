import Highlighter.Proofs.Registry.Consistency
import Mathlib.Data.List.Induction

/-!
# A registry and the history of its languages

What a registry holds can be read off the list of the languages that were added, without any step
in between. An extension belongs to the last language that claims it, unless that language's name
was taken by another one later (`holder?`). A name stands for the last language of that name, less
the extensions that were claimed later (`survivor?`). The main statement is `ofLanguages_history`.
-/

namespace Highlighter

namespace Registry

/-- The registry that languages give when they are added to an empty one. -/
def ofLanguages (history : List Language) : Registry :=
  history.foldl add empty

example : builtin = ofLanguages Builtin.languages := rfl

/-- The last language of a history with a property, and the languages that were added after it. -/
def lastWith? (p : Language → Bool) : List Language → Option (Language × List Language)
  | [] => none
  | language :: later =>
    match lastWith? p later with
    | some found => some found
    | none => if p language then some (language, later) else none

def holder? (history : List Language) (extension : Text) : Option Language :=
  match lastWith? (·.extensions.contains extension) history with
  | some (language, later) => if later.any (·.name = language.name) then none else some language
  | none => none

def survivor? (history : List Language) (name : Text) : Option Language :=
  match lastWith? (·.name = name) history with
  | some (language, later) => language.without? (later.flatMap (·.extensions))
  | none => none

variable {history later : List Language} {language : Language} {p : Language → Bool}

theorem holder?_eq (history : List Language) (extension : Text) :
    holder? history extension
      = match lastWith? (extension ∈ ·.extensions) history with
        | some (language, later) =>
          if later.any (·.name = language.name) then none else some language
        | none => none := by
  have hclaims : (fun language : Language => language.extensions.contains extension)
      = fun language => decide (extension ∈ language.extensions) := by
    funext language
    rw [List.contains_eq_mem]
  rw [holder?, hclaims]

/-! ### The last language with a property -/

theorem lastWith?_append_singleton (p : Language → Bool) (history : List Language)
    (language : Language) :
    lastWith? p (history ++ [language])
      = if p language then some (language, [])
        else (lastWith? p history).map fun (last, later) => (last, later ++ [language]) := by
  induction history with
  | nil => simp [lastWith?]
  | cons first others ih =>
      rw [List.cons_append, lastWith?, lastWith?, ih]
      by_cases hlanguage : p language
      · simp [hlanguage]
      · cases lastWith? p others with
        | some found => simp [hlanguage]
        | none => by_cases hfirst : p first <;> simp [hlanguage, hfirst]

theorem lastWith?_eq_none_of_forall (h : ∀ language ∈ history, p language = false) :
    lastWith? p history = none := by
  induction history with
  | nil => rfl
  | cons first others ih =>
      obtain ⟨hfirst, hothers⟩ := List.forall_mem_cons.mp h
      rw [lastWith?, ih hothers]
      simp [hfirst]

/-- The last language with one property is the last one with another, if it has that one too and no
later language has it. -/
theorem lastWith?_eq_some_of_forall {q : Language → Bool}
    (h : lastWith? p history = some (language, later)) (hlanguage : q language = true)
    (hlater : ∀ other ∈ later, q other = false) :
    lastWith? q history = some (language, later) := by
  induction history with
  | nil => cases h
  | cons first others ih =>
      unfold lastWith? at h
      split at h
      · next found hfound =>
        rw [lastWith?, ih (hfound.trans h)]
      · split at h
        · obtain ⟨rfl, rfl⟩ := Prod.mk.inj (Option.some.inj h)
          rw [lastWith?, lastWith?_eq_none_of_forall hlater]
          simp [hlanguage]
        · cases h

/-! ### One more language -/

theorem holder?_append_singleton (history : List Language) (language : Language)
    (extension : Text) :
    holder? (history ++ [language]) extension
      = if extension ∈ language.extensions then some language
        else (holder? history extension).filter (·.name ≠ language.name) := by
  rw [holder?_eq, holder?_eq, lastWith?_append_singleton]
  by_cases hmem : extension ∈ language.extensions
  · simp [hmem]
  · simp only [hmem, decide_false, Bool.false_eq_true, if_false]
    cases lastWith? (extension ∈ ·.extensions) history with
    | none => rfl
    | some found =>
        obtain ⟨last, later⟩ := found
        simp only [Option.map_some, List.any_append]
        cases later.any (·.name = last.name) with
        | true => simp
        | false =>
            by_cases hname : last.name = language.name <;>
              simp [hname, Option.filter, @eq_comm _ language.name]

theorem survivor?_append_singleton (history : List Language) (language : Language) (name : Text) :
    survivor? (history ++ [language]) name
      = if name = language.name then some language
        else (survivor? history name).bind (·.without? language.extensions) := by
  rw [survivor?, survivor?, lastWith?_append_singleton]
  by_cases hname : name = language.name
  · simp [hname]
  · simp only [Ne.symm hname, hname, decide_false, Bool.false_eq_true, if_false]
    cases lastWith? (·.name = name) history with
    | none => rfl
    | some found =>
        obtain ⟨last, later⟩ := found
        rw [← Language.without?_append]
        simp

/-! ### All languages of a history -/

theorem ofLanguages_append_singleton (history : List Language) (language : Language) :
    ofLanguages (history ++ [language]) = (ofLanguages history).add language := by
  rw [ofLanguages, List.foldl_append]
  rfl

theorem consistent_ofLanguages (history : List Language) : (ofLanguages history).Consistent :=
  consistent_empty.foldl_add history

theorem getElem?_owners_ofLanguages (history : List Language) (extension : Text) :
    (ofLanguages history).owners[extension]? = (holder? history extension).map (·.name) := by
  induction history using List.reverseRecOn with
  | nil => rfl
  | append_singleton history language ih =>
      rw [ofLanguages_append_singleton, (consistent_ofLanguages history).getElem?_owners_add, ih,
        holder?_append_singleton]
      by_cases hmem : extension ∈ language.extensions
      · simp [hmem]
      · cases holder? history extension with
        | none => simp [hmem]
        | some last =>
            by_cases hname : last.name = language.name <;> simp [hmem, hname, Option.filter]

theorem getElem?_languages_ofLanguages (history : List Language) (name : Text) :
    (ofLanguages history).languages[name]? = survivor? history name := by
  induction history using List.reverseRecOn with
  | nil => rfl
  | append_singleton history language ih =>
      rw [ofLanguages_append_singleton, (consistent_ofLanguages history).getElem?_languages_add,
        ih, survivor?_append_singleton]

/-! ### What can be asked of the registry -/

/-- The extension under which the rules for a path are looked up. -/
def lookupExtension? (path : Path) : Option Text :=
  path.extension?.map Unicode.lowercase

/-- No language lists the extension, and paths with it get the fallback. -/
structure Unheld (registry : Registry) (extension : Text) : Prop where
  not_mem : ∀ (name : Text) (language : Language),
    registry.languages[name]? = some language → extension ∉ language.extensions
  detect?_eq : ∀ path, lookupExtension? path = some extension → registry.detect? path = none
  rulesFor_eq : ∀ path, lookupExtension? path = some extension →
    registry.rulesFor path = registry.fallback

/-- Paths with the extension get the name and the rules of the language. -/
structure HeldBy (registry : Registry) (extension : Text) (language : Language) : Prop where
  detect?_eq : ∀ path, lookupExtension? path = some extension →
    registry.detect? path = some language.name
  rulesFor_eq : ∀ path, lookupExtension? path = some extension →
    registry.rulesFor path = language.rules

variable {registry : Registry} {extension : Text}

theorem detect?_eq_of_lookupExtension? {path : Path} (h : lookupExtension? path = some extension) :
    registry.detect? path = registry.owners[extension]? := by
  obtain ⟨written, hwritten, rfl⟩ := Option.map_eq_some_iff.mp h
  simp [detect?, hwritten]

theorem Consistent.unheld (h : registry.Consistent) (howner : registry.owners[extension]? = none) :
    registry.Unheld extension where
  not_mem := by
    intro name language hlanguage hmem
    have howner' := (h.owner_iff extension name).mpr ⟨language, hlanguage, hmem⟩
    simp [howner] at howner'
  detect?_eq := by
    intro path hpath
    rw [detect?_eq_of_lookupExtension? hpath, howner]
  rulesFor_eq := by
    intro path hpath
    rw [rulesFor, detect?_eq_of_lookupExtension? hpath, howner]
    rfl

/-- The name of the holder still stands for its rules: it can only have given up extensions. -/
theorem heldBy_ofLanguages
    (h : lastWith? (extension ∈ ·.extensions) history = some (language, later))
    (hlater : ∀ other ∈ later, other.name ≠ language.name) :
    (ofLanguages history).HeldBy extension language := by
  have hany : later.any (·.name = language.name) = false := by simpa using hlater
  have howner : (ofLanguages history).owners[extension]? = some language.name := by
    simp [getElem?_owners_ofLanguages, holder?_eq, h, hany]
  obtain ⟨survivor, hsurvivor, -⟩ :=
    ((consistent_ofLanguages history).owner_iff extension language.name).mp howner
  have hrules : survivor.rules = language.rules := by
    have hlast : lastWith? (·.name = language.name) history = some (language, later) :=
      lastWith?_eq_some_of_forall h (by simp) (by simpa using hlater)
    rw [getElem?_languages_ofLanguages, survivor?, hlast] at hsurvivor
    rw [(Language.without?_eq_some_iff.mp hsurvivor).2]
  constructor
  · intro path hpath
    rw [detect?_eq_of_lookupExtension? hpath, howner]
  · intro path hpath
    rw [rulesFor, detect?_eq_of_lookupExtension? hpath, howner]
    simp [hsurvivor, hrules]

theorem mem_names_iff {name : Text} :
    name ∈ registry.names ↔ ∃ language, registry.languages[name]? = some language := by
  rw [names, Std.ExtTreeMap.mem_keys, Std.ExtTreeMap.mem_iff_isSome_getElem?,
    Option.isSome_iff_exists]

/-- The last language of a name has what no later one claims, and goes when that is nothing more. -/
theorem getElem?_languages_ofLanguages_eq_some_iff {name : Text} {rest : Language}
    (h : lastWith? (·.name = name) history = some (language, later)) :
    (ofLanguages history).languages[name]? = some rest ↔
      (language.extensions = [] ∨
        ∃ extension ∈ language.extensions, ∀ other ∈ later, extension ∉ other.extensions) ∧
      rest = { language with
        extensions := language.extensions.filter fun extension =>
          ∀ other ∈ later, extension ∉ other.extensions } := by
  have hfilter : language.extensions.filter (· ∉ later.flatMap (·.extensions))
      = language.extensions.filter fun extension =>
          ∀ other ∈ later, extension ∉ other.extensions := by
    apply List.filter_congr
    simp
  rw [getElem?_languages_ofLanguages, survivor?, h]
  dsimp only
  rw [Language.without?_eq_some_iff, hfilter]
  simp

/-- **A registry tells its history.** For an extension, the last language that claims it counts, and
it holds the extension unless its name was taken later. For a name, the last language of that name
counts; it is there if it claimed nothing or has something left, and it has all that was not claimed
later. -/
theorem ofLanguages_history (history : List Language) :
    (∀ extension, match lastWith? (extension ∈ ·.extensions) history with
      | some (language, later) =>
        if ∃ other ∈ later, other.name = language.name then
          (ofLanguages history).Unheld extension
        else (ofLanguages history).HeldBy extension language
      | none => (ofLanguages history).Unheld extension) ∧
    ∀ name, match lastWith? (·.name = name) history with
      | some (language, later) =>
        (name ∈ (ofLanguages history).names ↔ language.extensions = [] ∨
          ∃ extension ∈ language.extensions, ∀ other ∈ later, extension ∉ other.extensions) ∧
        (name ∈ (ofLanguages history).names →
          (ofLanguages history).languages[name]? = some { language with
            extensions := language.extensions.filter fun extension =>
              ∀ other ∈ later, extension ∉ other.extensions })
      | none => name ∉ (ofLanguages history).names := by
  refine ⟨fun extension => ?_, fun name => ?_⟩
  · have hconsistent := consistent_ofLanguages history
    have howner := getElem?_owners_ofLanguages history extension
    rw [holder?_eq] at howner
    split
    · next language later hlast =>
      rw [hlast] at howner
      split
      · next htaken =>
        have hany : later.any (·.name = language.name) = true := by simpa using htaken
        exact hconsistent.unheld (by simp [howner, hany])
      · next hkept =>
        apply heldBy_ofLanguages hlast
        intro other hother hname
        exact hkept ⟨other, hother, hname⟩
    · next hnone =>
      rw [hnone] at howner
      exact hconsistent.unheld howner
  · split
    · next language later hlast =>
      constructor
      · simp [mem_names_iff, getElem?_languages_ofLanguages_eq_some_iff hlast]
      · intro hname
        obtain ⟨rest, hrest⟩ := mem_names_iff.mp hname
        obtain ⟨-, rfl⟩ := (getElem?_languages_ofLanguages_eq_some_iff hlast).mp hrest
        exact hrest
    · next hnone =>
      simp [mem_names_iff, getElem?_languages_ofLanguages, survivor?, hnone]

end Registry

end Highlighter
