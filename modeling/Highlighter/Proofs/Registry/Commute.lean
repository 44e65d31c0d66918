import Highlighter.Proofs.Registry.Consistency

/-!
# Changes that do not meet

Two languages with different names and no extension in common can be added in either order
(`Consistent.add_comm`), for each takes from the owners before it what it would take after the other
one. Adding a language a second time changes nothing (`Consistent.add_add_self`). So it is with the
rules of rule files, of which each claims one extension or, in the file for all other files, the
fallback (`claim?`). Among rules with claims of their own the order does not matter
(`Consistent.applyAll_perm`), and all of them are in force in the end (`Consistent.inForce_applyAll`).
-/

namespace Highlighter

namespace Language

/-- Languages of different names that share no extension. -/
structure Apart (left right : Language) : Prop where
  name_ne : left.name ≠ right.name
  disjoint : ∀ extension ∈ left.extensions, extension ∉ right.extensions

theorem Apart.symm {left right : Language} (h : Apart left right) : Apart right left where
  name_ne := h.name_ne.symm
  disjoint := fun extension hright hleft => h.disjoint extension hleft hright

theorem without?_congr {language : Language} {taken taken' : List Text}
    (h : ∀ extension, extension ∈ taken ↔ extension ∈ taken') :
    language.without? taken = language.without? taken' := by
  simp only [without?_eq, h]

theorem without?_comm (language : Language) (taken later : List Text) :
    (language.without? taken).bind (·.without? later)
      = (language.without? later).bind (·.without? taken) := by
  rw [← without?_append, ← without?_append]
  exact without?_congr fun extension => by simp [or_comm]

end Language

namespace Registry

/-! ### Registries with the same look-ups -/

theorem eq_of_getElem?_eq {registry registry' : Registry}
    (hlanguages : ∀ name : Text, registry.languages[name]? = registry'.languages[name]?)
    (howners : ∀ extension : Text, registry.owners[extension]? = registry'.owners[extension]?)
    (hfallback : registry.fallback = registry'.fallback) : registry = registry' := by
  obtain ⟨languages, owners, fallback⟩ := registry
  obtain rfl := Std.ExtTreeMap.ext_getElem? hlanguages
  obtain rfl := Std.ExtTreeMap.ext_getElem? howners
  obtain rfl : fallback = registry'.fallback := hfallback
  rfl

theorem fallback_disown (name : Text) (kept : List Text) (registry : Registry) (extension : Text) :
    (disown name kept registry extension).fallback = registry.fallback := by
  unfold disown
  split <;> rfl

theorem fallback_release (registry : Registry) (name extension : Text) :
    (registry.release name extension).fallback = registry.fallback := by
  unfold release
  split
  · rfl
  · dsimp only
    split <;> rfl

theorem fallback_assign (name : Text) (registry : Registry) (extension : Text) :
    (assign name registry extension).fallback = registry.fallback := by
  unfold assign
  split
  · rfl
  · dsimp only
    split
    · rfl
    · exact fallback_release _ _ _

theorem fallback_foldl {step : Registry → Text → Registry}
    (h : ∀ registry extension, (step registry extension).fallback = registry.fallback)
    (extensions : List Text) (registry : Registry) :
    (extensions.foldl step registry).fallback = registry.fallback := by
  induction extensions generalizing registry with
  | nil => rfl
  | cons first others ih => rw [List.foldl_cons, ih, h]

theorem fallback_remove (registry : Registry) (name : Text) (kept : List Text) :
    (registry.remove name kept).fallback = registry.fallback := by
  unfold remove
  split
  · rfl
  · rw [fallback_foldl (fallback_disown name kept)]

/-- A new language leaves the fallback alone. -/
theorem fallback_add (registry : Registry) (language : Language) :
    (registry.add language).fallback = registry.fallback := by
  have hstep : (registry.add language).fallback
      = (language.extensions.foldl (assign language.name)
          (registry.remove language.name language.extensions)).fallback := rfl
  rw [hstep, fallback_foldl (fallback_assign language.name), fallback_remove]

/-! ### Adding languages -/

variable {registry : Registry} {left right language : Language}

theorem Consistent.getElem?_languages_add_add (h : registry.Consistent)
    (hapart : left.Apart right) (name : Text) :
    ((registry.add left).add right).languages[name]?
      = if name = left.name then some left else if name = right.name then some right
        else (registry.languages[name]?.bind (·.without? left.extensions)).bind
          (·.without? right.extensions) := by
  rw [(h.add left).getElem?_languages_add, h.getElem?_languages_add]
  by_cases hleft : name = left.name
  · have hright : name ≠ right.name := fun heq => hapart.name_ne (hleft.symm.trans heq)
    rw [if_neg hright, if_pos hleft, if_pos hleft, Option.bind_some,
      Language.without?_of_disjoint hapart.disjoint]
  · rw [if_neg hleft, if_neg hleft]

theorem Consistent.getElem?_owners_add_add (h : registry.Consistent)
    (hapart : left.Apart right) (extension : Text) :
    ((registry.add left).add right).owners[extension]?
      = if extension ∈ left.extensions then some left.name
        else if extension ∈ right.extensions then some right.name
        else if registry.owners[extension]? = some left.name ∨
          registry.owners[extension]? = some right.name then none
        else registry.owners[extension]? := by
  rw [(h.add left).getElem?_owners_add, h.getElem?_owners_add]
  by_cases hleft : extension ∈ left.extensions
  · simp [hleft, hapart.disjoint extension hleft, hapart.name_ne]
  · by_cases howner : registry.owners[extension]? = some left.name <;> simp [hleft, howner]

/-- **Languages that do not meet can be added in either order.** -/
theorem Consistent.add_comm (h : registry.Consistent) (hapart : left.Apart right) :
    (registry.add left).add right = (registry.add right).add left := by
  apply eq_of_getElem?_eq
  · intro name
    rw [h.getElem?_languages_add_add hapart, h.getElem?_languages_add_add hapart.symm]
    by_cases hleft : name = left.name
    · have hright : name ≠ right.name := fun heq => hapart.name_ne (hleft.symm.trans heq)
      rw [if_pos hleft, if_neg hright, if_pos hleft]
    · rw [if_neg hleft, if_neg hleft, Option.bind_assoc, Option.bind_assoc]
      simp only [Language.without?_comm]
  · intro extension
    rw [h.getElem?_owners_add_add hapart, h.getElem?_owners_add_add hapart.symm]
    by_cases hleft : extension ∈ left.extensions
    · rw [if_pos hleft, if_neg (hapart.disjoint extension hleft), if_pos hleft]
    · rw [if_neg hleft, if_neg hleft]
      simp only [or_comm]
  · simp only [fallback_add]

/-- A language that is added once more stays as it is, and so do all others. -/
theorem Consistent.add_add_self (h : registry.Consistent) (language : Language) :
    (registry.add language).add language = registry.add language := by
  apply eq_of_getElem?_eq
  · intro name
    rw [(h.add language).getElem?_languages_add, h.getElem?_languages_add]
    by_cases hname : name = language.name
    · rw [if_pos hname, if_pos hname]
    · rw [if_neg hname, if_neg hname, Option.bind_assoc]
      simp only [← Language.without?_append]
      congr 1
      funext other
      exact Language.without?_congr fun extension => by simp
  · intro extension
    rw [(h.add language).getElem?_owners_add, h.getElem?_owners_add]
    by_cases hmem : extension ∈ language.extensions
    · rw [if_pos hmem, if_pos hmem]
    · rw [if_neg hmem, if_neg hmem]
      by_cases howner : registry.owners[extension]? = some language.name <;> simp [howner]
  · simp only [fallback_add]

theorem Consistent.add_setFallback (h : registry.Consistent) (language : Language)
    (rules : RuleSet) :
    { registry with fallback := rules }.add language
      = { registry.add language with fallback := rules } := by
  apply eq_of_getElem?_eq
  · intro name
    rw [(h.setFallback rules).getElem?_languages_add, h.getElem?_languages_add]
  · intro extension
    rw [(h.setFallback rules).getElem?_owners_add, h.getElem?_owners_add]
  · rw [fallback_add]

/-! ### Applying rules -/

/-- What the rules of a rule file claim by its stem: an extension, or the fallback. -/
def claim? (stem : Text) : Option Text :=
  if stem = fallbackStem then none else some (Language.normalExtension stem)

/-- A stem in small letters, and rules. -/
abbrev StemRules := Text × RuleSet

def applyAll (registry : Registry) (found : List StemRules) : Registry :=
  found.foldl (fun registry (stem, rules) => registry.applyRules stem rules) registry

/-- Rules are in force if to apply them makes no difference. -/
def InForce (registry : Registry) (given : StemRules) : Prop :=
  registry.applyRules given.1 given.2 = registry

theorem claim?_of_ne {stem : Text} (h : stem ≠ fallbackStem) :
    claim? stem = some (Language.normalExtension stem) :=
  if_neg h

theorem applyRules_fallbackStem (registry : Registry) (rules : RuleSet) :
    registry.applyRules fallbackStem rules = { registry with fallback := rules } :=
  if_pos rfl

theorem applyRules_of_ne {stem : Text} (h : stem ≠ fallbackStem) (registry : Registry)
    (rules : RuleSet) :
    registry.applyRules stem rules = registry.add (.ofRules stem rules [stem]) :=
  if_neg h

theorem apart_ofRules {stem stem' : Text} (h : stem ≠ fallbackStem) (h' : stem' ≠ fallbackStem)
    (hclaim : claim? stem ≠ claim? stem') (rules rules' : RuleSet) :
    (Language.ofRules stem rules [stem]).Apart (.ofRules stem' rules' [stem']) where
  name_ne := by
    rintro hname
    obtain rfl : stem = stem' := hname
    exact hclaim rfl
  disjoint := by
    rw [claim?_of_ne h, claim?_of_ne h', ne_eq, Option.some.injEq] at hclaim
    simpa [Language.ofRules] using hclaim

variable {given given' : StemRules} {found found' : List StemRules}

/-- **Rules with different claims can be applied in either order.** -/
theorem Consistent.applyRules_comm (h : registry.Consistent)
    (hclaim : claim? given.1 ≠ claim? given'.1) :
    (registry.applyRules given.1 given.2).applyRules given'.1 given'.2
      = (registry.applyRules given'.1 given'.2).applyRules given.1 given.2 := by
  obtain ⟨stem, rules⟩ := given
  obtain ⟨stem', rules'⟩ := given'
  dsimp only at hclaim ⊢
  by_cases hstem : stem = fallbackStem
  · have hstem' : stem' ≠ fallbackStem := fun heq => hclaim (by rw [hstem, heq])
    rw [hstem, applyRules_fallbackStem, applyRules_fallbackStem, applyRules_of_ne hstem',
      applyRules_of_ne hstem']
    exact h.add_setFallback _ rules
  by_cases hstem' : stem' = fallbackStem
  · rw [hstem', applyRules_fallbackStem, applyRules_fallbackStem, applyRules_of_ne hstem,
      applyRules_of_ne hstem]
    exact (h.add_setFallback _ rules').symm
  · rw [applyRules_of_ne hstem, applyRules_of_ne hstem, applyRules_of_ne hstem',
      applyRules_of_ne hstem']
    exact h.add_comm (apart_ofRules hstem hstem' hclaim rules rules')

theorem Consistent.inForce_applyRules (h : registry.Consistent) (given : StemRules) :
    (registry.applyRules given.1 given.2).InForce given := by
  unfold InForce Registry.applyRules
  split
  · rfl
  · exact h.add_add_self _

/-- Rules stay in force when others with another claim are applied. -/
theorem InForce.applyRules (hforce : registry.InForce given) (h : registry.Consistent)
    (hclaim : claim? given.1 ≠ claim? given'.1) :
    (registry.applyRules given'.1 given'.2).InForce given := by
  unfold InForce at hforce ⊢
  rw [← h.applyRules_comm hclaim, hforce]

/-! ### Applying all rules of a list -/

theorem Consistent.applyAll (h : registry.Consistent) (found : List StemRules) :
    (registry.applyAll found).Consistent := by
  induction found generalizing registry with
  | nil => exact h
  | cons first others ih => exact ih (h.applyRules first.1 first.2)

theorem InForce.applyAll (hforce : registry.InForce given) (h : registry.Consistent)
    (hclaims : ∀ other ∈ found, claim? given.1 ≠ claim? other.1) :
    (registry.applyAll found).InForce given := by
  induction found generalizing registry with
  | nil => exact hforce
  | cons first others ih =>
      obtain ⟨hfirst, hothers⟩ := List.forall_mem_cons.mp hclaims
      exact ih (hforce.applyRules h hfirst) (h.applyRules first.1 first.2) hothers

/-- **Rules are in force in the end** if none that come after them have the same claim. -/
theorem Consistent.inForce_applyAll (h : registry.Consistent) {before after : List StemRules}
    (hclaims : ∀ other ∈ after, claim? given.1 ≠ claim? other.1) :
    (registry.applyAll (before ++ given :: after)).InForce given := by
  have hbefore := h.applyAll before
  have hsplit : registry.applyAll (before ++ given :: after)
      = ((registry.applyAll before).applyRules given.1 given.2).applyAll after := by
    rw [Registry.applyAll, List.foldl_append]
    rfl
  rw [hsplit]
  exact (hbefore.inForce_applyRules given).applyAll (hbefore.applyRules given.1 given.2) hclaims

theorem applyAll_eq_self (h : ∀ given ∈ found, registry.InForce given) :
    registry.applyAll found = registry := by
  induction found with
  | nil => rfl
  | cons first others ih =>
      obtain ⟨hfirst, hothers⟩ := List.forall_mem_cons.mp h
      have hstep : registry.applyAll (first :: others)
          = (registry.applyRules first.1 first.2).applyAll others := rfl
      rw [hstep, hfirst, ih hothers]

/-- Rules with claims of their own, applied once more, change nothing. -/
theorem Consistent.applyAll_applyAll_self (h : registry.Consistent)
    (hclaims : found.Pairwise fun left right => claim? left.1 ≠ claim? right.1) :
    (registry.applyAll found).applyAll found = registry.applyAll found := by
  apply applyAll_eq_self
  intro given hgiven
  obtain ⟨before, after, rfl⟩ := List.append_of_mem hgiven
  exact h.inForce_applyAll (List.pairwise_cons.mp (List.pairwise_append.mp hclaims).2.1).1

/-- **The order of rules with claims of their own does not matter.** -/
theorem Consistent.applyAll_perm (h : registry.Consistent) (hperm : found.Perm found')
    (hclaims : found.Pairwise fun left right => claim? left.1 ≠ claim? right.1) :
    registry.applyAll found = registry.applyAll found' := by
  induction hperm generalizing registry with
  | nil => rfl
  | cons first _ ih =>
      exact ih (h.applyRules first.1 first.2) (List.pairwise_cons.mp hclaims).2
  | swap first second others =>
      have hclaim := (List.pairwise_cons.mp hclaims).1 first List.mem_cons_self
      exact congrArg (Registry.applyAll · others) (h.applyRules_comm hclaim)
  | trans hperm _ ih ih' =>
      rw [ih h hclaims]
      exact ih' h ((hperm.pairwise_iff Ne.symm).mp hclaims)

end Registry

end Highlighter
