import Highlighter.Registry

/-!
# Adding a language in one step

`add` edits the two maps of a registry bit by bit: it removes the language of the same name, takes
one extension after another from its owner, and stores the new language last. As a whole it does
something simple if the two maps agree before (`Consistent`). The new language owns what it claims,
its name owns nothing else (`getElem?_owners_add`), and all other languages give up what is claimed
(`getElem?_languages_add`). While the extensions are taken, the name of the new language is the only
one for which the maps need not agree (`ConsistentApart`).
-/

namespace Highlighter

/-! ### Giving up extensions -/

namespace Language

/-- What is left of a language that gives up the extensions in `taken`. With its last extension the
language goes, but one without any stays. -/
def without? (language : Language) (taken : List Text) : Option Language :=
  if language.extensions = [] then some language
  else
    let extensions := language.extensions.filter (!taken.contains ·)
    if extensions = [] then none else some { language with extensions }

variable {language rest : Language} {taken : List Text} {extension : Text}

theorem without?_eq (language : Language) (taken : List Text) :
    language.without? taken
      = if language.extensions = [] then some language
        else if language.extensions.filter (· ∉ taken) = [] then none
        else some { language with extensions := language.extensions.filter (· ∉ taken) } := by
  simp [without?]

theorem without?_eq_some_iff :
    language.without? taken = some rest ↔
      (language.extensions = [] ∨ ∃ extension ∈ language.extensions, extension ∉ taken) ∧
        rest = { language with extensions := language.extensions.filter (· ∉ taken) } := by
  obtain ⟨name, extensions, rules⟩ := language
  by_cases hnil : extensions = []
  · simp [without?_eq, hnil, @eq_comm _ rest]
  · simp [without?_eq, hnil, @eq_comm _ rest]

theorem without?_of_disjoint (h : ∀ extension ∈ language.extensions, extension ∉ taken) :
    language.without? taken = some language := by
  have hfilter : language.extensions.filter (· ∉ taken) = language.extensions :=
    List.filter_eq_self.mpr (by simpa using h)
  rw [without?_eq_some_iff, hfilter]
  refine ⟨?_, rfl⟩
  cases hextensions : language.extensions with
  | nil => exact Or.inl rfl
  | cons first others => exact Or.inr ⟨first, List.mem_cons_self, h first (by simp [hextensions])⟩

@[simp]
theorem without?_nil (language : Language) : language.without? [] = some language :=
  without?_of_disjoint (by simp)

theorem without?_append (language : Language) (taken later : List Text) :
    language.without? (taken ++ later) = (language.without? taken).bind (·.without? later) := by
  have hfilter : language.extensions.filter (· ∉ taken ++ later)
      = (language.extensions.filter (· ∉ taken)).filter (· ∉ later) := by
    rw [List.filter_filter]
    apply List.filter_congr
    intro extension _
    simp [Bool.and_comm]
  by_cases hnil : language.extensions = []
  · simp [without?_eq, hnil]
  by_cases htaken : language.extensions.filter (· ∉ taken) = []
  · have hlater : language.extensions.filter (· ∉ taken ++ later) = [] := by
      rw [hfilter, htaken, List.filter_nil]
    simp only [without?_eq, hnil, htaken, hlater, if_true, if_false, Option.bind_none]
  · simp only [without?_eq, hnil, htaken, hfilter, if_false, Option.bind_some]

theorem exists_bind_without?_iff {found : Option Language} :
    (∃ rest, found.bind (·.without? taken) = some rest ∧ extension ∈ rest.extensions) ↔
      (∃ language, found = some language ∧ extension ∈ language.extensions) ∧
        extension ∉ taken := by
  simp only [Option.bind_eq_some_iff, without?_eq_some_iff]
  constructor
  · rintro ⟨rest, ⟨language, hlanguage, -, rfl⟩, hmem⟩
    obtain ⟨hmem, htaken⟩ := List.mem_filter.mp hmem
    exact ⟨⟨language, hlanguage, hmem⟩, by simpa using htaken⟩
  · rintro ⟨⟨language, hlanguage, hmem⟩, htaken⟩
    refine ⟨_, ⟨language, hlanguage, Or.inr ⟨extension, hmem, htaken⟩, rfl⟩, ?_⟩
    simp [hmem, htaken]

end Language

namespace Registry

/-! ### Look-ups in the maps -/

theorem getElem?_insert {α : Type} (map : Std.ExtTreeMap Text α) (key other : Text) (value : α) :
    (map.insert key value)[other]? = if other = key then some value else map[other]? := by
  simp only [Std.ExtTreeMap.getElem?_insert, Std.compare_eq_iff_eq, @eq_comm _ key]

theorem getElem?_erase {α : Type} (map : Std.ExtTreeMap Text α) (key other : Text) :
    (map.erase key)[other]? = if other = key then none else map[other]? := by
  simp only [Std.ExtTreeMap.getElem?_erase, Std.compare_eq_iff_eq, @eq_comm _ key]

/-- An extension has an owner just if a language of that name lists the extension, and every
language is stored under its own name. -/
structure Consistent (registry : Registry) : Prop where
  owner_iff : ∀ extension name, registry.owners[extension]? = some name ↔
    ∃ language : Language,
      registry.languages[name]? = some language ∧ extension ∈ language.extensions
  name_eq : ∀ name (language : Language), registry.languages[name]? = some language → language.name = name

/-- No language has the name, and the owners of all other names are right. -/
structure ConsistentApart (name : Text) (registry : Registry) : Prop where
  missing : registry.languages[name]? = none
  owner_iff : ∀ extension other, other ≠ name → (registry.owners[extension]? = some other ↔
    ∃ language : Language,
      registry.languages[other]? = some language ∧ extension ∈ language.extensions)

variable {registry : Registry} {name : Text}

/-! ### Removing the language of the same name -/

theorem languages_foldl_disown (kept extensions : List Text) (registry : Registry) :
    (extensions.foldl (disown name kept) registry).languages = registry.languages := by
  induction extensions generalizing registry with
  | nil => rfl
  | cons first others ih =>
      rw [List.foldl_cons, ih, disown]
      split <;> rfl

theorem getElem?_owners_disown (name : Text) (kept : List Text) (registry : Registry)
    (first extension : Text) :
    (disown name kept registry first).owners[extension]?
      = if extension = first ∧ extension ∉ kept ∧ registry.owners[extension]? = some name then none
        else registry.owners[extension]? := by
  unfold disown
  by_cases heq : extension = first
  · subst heq
    split
    · next howned =>
      simp_all
    · next howned =>
      simp_all
  · split
    · rw [getElem?_erase, if_neg heq, if_neg fun h => heq h.1]
    · rw [if_neg fun h => heq h.1]

theorem getElem?_owners_foldl_disown (kept extensions : List Text) (registry : Registry)
    (extension : Text) :
    (extensions.foldl (disown name kept) registry).owners[extension]?
      = if extension ∈ extensions ∧ extension ∉ kept ∧ registry.owners[extension]? = some name
        then none else registry.owners[extension]? := by
  induction extensions generalizing registry with
  | nil => simp
  | cons first others ih =>
      rw [List.foldl_cons, ih, getElem?_owners_disown]
      by_cases hfirst :
        extension = first ∧ extension ∉ kept ∧ registry.owners[extension]? = some name
      · rw [if_pos hfirst, ite_self, if_pos ⟨List.mem_cons.mpr (.inl hfirst.1), hfirst.2⟩]
      · by_cases heq : extension = first
        · rw [if_neg hfirst, if_neg fun h => hfirst ⟨heq, h.2⟩, if_neg fun h => hfirst ⟨heq, h.2⟩]
        · simp [heq]

theorem languages_remove (registry : Registry) (name : Text) (kept : List Text) :
    (registry.remove name kept).languages = registry.languages.erase name := by
  unfold remove
  split
  · next hnone =>
    ext other : 1
    rw [getElem?_erase]
    split
    · next hother =>
      rw [hother, hnone]
    · rfl
  · rw [languages_foldl_disown]

theorem getElem?_owners_remove (h : registry.Consistent) (name : Text) (kept : List Text)
    (extension : Text) :
    (registry.remove name kept).owners[extension]?
      = if extension ∉ kept ∧ registry.owners[extension]? = some name then none
        else registry.owners[extension]? := by
  unfold remove
  split
  · next hnone =>
    -- a name without a language owns nothing
    have howner : registry.owners[extension]? ≠ some name := by
      intro howner
      obtain ⟨language, hlanguage, -⟩ := (h.owner_iff extension name).mp howner
      rw [hnone] at hlanguage
      cases hlanguage
    rw [if_neg fun h => howner h.2]
  · next old hold =>
    -- what the name owns is in its list
    have hmem (howner : registry.owners[extension]? = some name) : extension ∈ old.extensions := by
      obtain ⟨language, hlanguage, hmem⟩ := (h.owner_iff extension name).mp howner
      rw [hold] at hlanguage
      rwa [Option.some.inj hlanguage]
    rw [getElem?_owners_foldl_disown]
    by_cases howned : extension ∉ kept ∧ registry.owners[extension]? = some name
    · rw [if_pos ⟨hmem howned.2, howned⟩, if_pos howned]
    · rw [if_neg fun h => howned h.2, if_neg howned]

theorem consistentApart_remove (h : registry.Consistent) (name : Text) (kept : List Text) :
    ConsistentApart name (registry.remove name kept) where
  missing := by rw [languages_remove, getElem?_erase, if_pos rfl]
  owner_iff := by
    intro extension other hother
    have hname : (registry.remove name kept).languages[other]? = registry.languages[other]? := by
      rw [languages_remove, getElem?_erase, if_neg hother]
    rw [hname, ← h.owner_iff, getElem?_owners_remove h]
    split
    · next hremoved =>
      simp [hremoved.2, Ne.symm hother]
    · rfl

/-! ### Taking over one extension -/

theorem owners_release (registry : Registry) (owner extension : Text) :
    (registry.release owner extension).owners = registry.owners := by
  unfold release
  split
  · rfl
  · dsimp only
    split <;> rfl

theorem getElem?_languages_release {owner extension : Text} {language : Language}
    (h : registry.languages[owner]? = some language) (hmem : extension ∈ language.extensions)
    (other : Text) :
    (registry.release owner extension).languages[other]?
      = if other = owner then language.without? [extension] else registry.languages[other]? := by
  have hne : language.extensions ≠ [] := List.ne_nil_of_mem hmem
  unfold release
  simp only [h, Language.without?_eq, hne, List.mem_singleton, if_false]
  split
  · rw [getElem?_erase]
  · rw [getElem?_insert]

theorem getElem?_owners_assign (registry : Registry) (name extension other : Text) :
    (assign name registry extension).owners[other]?
      = if other = extension then some name else registry.owners[other]? := by
  have hinsert : (registry.owners.insert extension name)[other]?
      = if other = extension then some name else registry.owners[other]? :=
    getElem?_insert registry.owners extension other name
  unfold assign
  split
  · exact hinsert
  · dsimp only
    split
    · exact hinsert
    · rw [owners_release, hinsert]

/-- A language whose name does not own the extension does not list it either. -/
theorem ConsistentApart.without?_of_owner_ne (h : ConsistentApart name registry)
    {extension other : Text} (howner : registry.owners[extension]? ≠ some other) :
    registry.languages[other]?.bind (·.without? [extension]) = registry.languages[other]? := by
  cases hlanguage : registry.languages[other]? with
  | none => rfl
  | some language =>
      apply Language.without?_of_disjoint
      intro listed hlisted heq
      obtain rfl := List.mem_singleton.mp heq
      have hother : other ≠ name := by
        rintro rfl
        simp [h.missing] at hlanguage
      exact howner ((h.owner_iff listed other hother).mpr ⟨language, hlanguage, hlisted⟩)

theorem ConsistentApart.getElem?_languages_assign (h : ConsistentApart name registry)
    (extension other : Text) :
    (assign name registry extension).languages[other]?
      = registry.languages[other]?.bind (·.without? [extension]) := by
  unfold assign
  split
  · next hnone => rw [h.without?_of_owner_ne (by simp [hnone])]
  · next owner howner =>
    dsimp only
    split
    · next hname =>
      subst hname
      by_cases hother : other = owner
      · rw [hother, h.missing, Option.bind_none]
      · rw [h.without?_of_owner_ne (by simp [howner, Ne.symm hother])]
    · next hname =>
      obtain ⟨language, hlanguage, hmem⟩ := (h.owner_iff extension owner hname).mp howner
      have hlanguage' : { registry with
          owners := registry.owners.insert extension name }.languages[owner]? = some language :=
        hlanguage
      rw [getElem?_languages_release hlanguage' hmem]
      split
      · next hother => rw [hother, hlanguage, Option.bind_some]
      · next hother => rw [h.without?_of_owner_ne (by simp [howner, Ne.symm hother])]

/-- **One extension taken** leaves all other names in order. -/
theorem consistentApart_assign (h : ConsistentApart name registry) (extension : Text) :
    ConsistentApart name (assign name registry extension) where
  missing := by rw [h.getElem?_languages_assign, h.missing, Option.bind_none]
  owner_iff := by
    intro listed other hother
    simp only [h.getElem?_languages_assign]
    rw [Language.exists_bind_without?_iff, ← h.owner_iff listed other hother,
      getElem?_owners_assign, List.mem_singleton]
    by_cases hlisted : listed = extension
    · simp [hlisted, Ne.symm hother]
    · simp [hlisted]

/-! ### Taking over all extensions -/

theorem getElem?_owners_foldl_assign (registry : Registry) (name : Text) (extensions : List Text)
    (extension : Text) :
    (extensions.foldl (assign name) registry).owners[extension]?
      = if extension ∈ extensions then some name else registry.owners[extension]? := by
  induction extensions generalizing registry with
  | nil => simp
  | cons first others ih =>
      rw [List.foldl_cons, ih, getElem?_owners_assign]
      by_cases hfirst : extension = first <;> simp [hfirst]

theorem ConsistentApart.getElem?_languages_foldl_assign (h : ConsistentApart name registry)
    (extensions : List Text) (other : Text) :
    (extensions.foldl (assign name) registry).languages[other]?
      = registry.languages[other]?.bind (·.without? extensions) := by
  induction extensions generalizing registry with
  | nil => simp
  | cons first others ih =>
      have happend (language : Language) : language.without? (first :: others)
          = (language.without? [first]).bind (·.without? others) :=
        language.without?_append [first] others
      rw [List.foldl_cons, ih (consistentApart_assign h first), h.getElem?_languages_assign,
        Option.bind_assoc]
      simp only [happend]

/-! ### The whole step -/

theorem Consistent.getElem?_owners_add (h : registry.Consistent) (language : Language)
    (extension : Text) :
    (registry.add language).owners[extension]?
      = if extension ∈ language.extensions then some language.name
        else if registry.owners[extension]? = some language.name then none
        else registry.owners[extension]? := by
  have hstep : (registry.add language).owners
      = (language.extensions.foldl (assign language.name)
          (registry.remove language.name language.extensions)).owners := rfl
  rw [hstep, getElem?_owners_foldl_assign, getElem?_owners_remove h]
  by_cases hmem : extension ∈ language.extensions
  · rw [if_pos hmem, if_pos hmem]
  · simp only [hmem, not_false_eq_true, true_and, if_false]

theorem Consistent.getElem?_languages_add (h : registry.Consistent) (language : Language)
    (name : Text) :
    (registry.add language).languages[name]?
      = if name = language.name then some language
        else registry.languages[name]?.bind (·.without? language.extensions) := by
  have hstep : (registry.add language).languages
      = (language.extensions.foldl (assign language.name)
          (registry.remove language.name language.extensions)).languages.insert
            language.name language := rfl
  have happart := consistentApart_remove h language.name language.extensions
  rw [hstep, getElem?_insert, happart.getElem?_languages_foldl_assign, languages_remove,
    getElem?_erase]
  by_cases hname : name = language.name
  · rw [if_pos hname, if_pos hname]
  · rw [if_neg hname, if_neg hname, if_neg hname]

end Registry

end Highlighter
