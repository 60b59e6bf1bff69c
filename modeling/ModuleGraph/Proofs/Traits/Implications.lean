import ModuleGraph.Manifest.EnabledTraits
import ModuleGraph.Proofs.Catalog
import ModuleGraph.Proofs.List
import ModuleGraph.Proofs.Loop
import Mathlib.Logic.Relation

/-!
# What a request enables

A request starts from the names that it has, the name for the defaults replaced by what the defaults
imply.  From there the enabled traits are found name by name, and every trait puts the names that it
implies in front of those that are pending.  Implications may be cyclic: a trait is enabled once, so
the search ends.  It finds exactly the names that can be reached, or stops at one of them that is no
trait of the package's own.

## Key results

- `enableNext_next`, `enableNext_done`: what one step does
- `Enabling.next`: what a step keeps
- `enabledTraits_ends`: the bound on the steps suffices
- `enabledTraits_cases`: the outcome of a request
- `enabledTraits_least`: the enabled traits are the names that can be reached
-/

namespace ModuleGraph.Manifest

/-- The package declares a trait of this name, and the name does not stand for the defaults. -/
def Owns (m : Manifest) (name : String) : Prop :=
  name ≠ defaultTrait ∧ ∃ t ∈ m.traits, t.name = name

/-- The declaration of a trait, the first one of its name, lists another name. -/
def Implies (m : Manifest) (name name' : String) : Prop :=
  ∃ t, m.trait? name = some t ∧ name' ∈ t.implies.toList

/-- A request starts from its names and, if it has the name for the defaults, from what the defaults
imply. -/
def StartsAt (m : Manifest) (requested : Names) (name : String) : Prop :=
  (name ∈ requested.toList ∧ name ≠ defaultTrait) ∨
    (defaultTrait ∈ requested.toList ∧ m.Implies defaultTrait name)

/-- Implications lead to a name from where a request starts. -/
def RequestReaches (m : Manifest) (requested : Names) (name : String) : Prop :=
  ∃ start, m.StartsAt requested start ∧ Relation.ReflTransGen m.Implies start name

/-- A name is enabled, or it is pending. -/
def TraitClosure.Met (s : TraitClosure) (name : String) : Prop :=
  name ∈ s.pending ∨ name ∈ s.enabled.toList

/-- What holds before every step: only names that can be reached have been met, the request has been
met, and so has what the enabled traits imply. -/
structure Enabling (m : Manifest) (requested : Names) (s : TraitClosure) : Prop where
  reached : ∀ name, s.Met name → m.RequestReaches requested name
  starts : ∀ name, m.StartsAt requested name → s.Met name
  closed : ∀ name ∈ s.enabled.toList, ∀ name', m.Implies name name' → s.Met name'
  owned : ∀ name ∈ s.enabled.toList, m.Owns name

/-- The names that may still be looked at: those that are pending, and those that traits imply which
are not enabled. -/
def namesLeft (m : Manifest) (s : TraitClosure) : Nat :=
  s.pending.length +
    ((m.traits.filter fun t => !s.enabled.contains t.name).map
      fun t => t.implies.toList.length).sum

section
variable {m : Manifest} {requested : Names} {s s' : TraitClosure}

/-! ### Declarations -/

/-- The declaration of a trait has its name. -/
theorem name_of_trait? {name : String} {t : Trait} (h : m.trait? name = some t) :
    t.name = name := by
  simpa using List.find?_some h

/-- A trait is found under its name unless this is the name for the defaults. -/
theorem ownTrait?_eq_some {name : String} {t : Trait} :
    m.ownTrait? name = some t ↔ m.trait? name = some t ∧ name ≠ defaultTrait := by
  unfold ownTrait?
  rw [Option.filter_eq_some_iff]
  constructor
  · intro ⟨ht, hown⟩
    have hname : t.name = name := name_of_trait? ht
    refine ⟨ht, ?_⟩
    simpa [Trait.isDefault, hname] using hown
  · intro ⟨ht, hne⟩
    have hname : t.name = name := name_of_trait? ht
    exact ⟨ht, by simpa [Trait.isDefault, hname] using hne⟩

/-- A name under which nothing is found is none of the package's traits. -/
theorem ownTrait?_eq_none {name : String} : m.ownTrait? name = none ↔ ¬ m.Owns name := by
  constructor
  · intro hnone ⟨hne, t, ht, hname⟩
    have hfound : (m.trait? name).isSome := by
      unfold trait?
      rw [List.find?_isSome]
      exact ⟨t, ht, by simp [hname]⟩
    obtain ⟨t', ht'⟩ := Option.isSome_iff_exists.1 hfound
    rw [ownTrait?_eq_some.2 ⟨ht', hne⟩] at hnone
    exact nomatch hnone
  · intro hnot
    apply Option.eq_none_iff_forall_ne_some.2
    intro t ht
    obtain ⟨ht, hne⟩ := ownTrait?_eq_some.1 ht
    exact hnot ⟨hne, t, List.mem_of_find?_eq_some ht, name_of_trait? ht⟩

/-- There are traits of the package's own if it declares more than its defaults. -/
theorem ownTraits_isEmpty : m.ownTraits.isEmpty = true ↔ ∀ name, ¬ m.Owns name := by
  unfold ownTraits
  rw [List.isEmpty_iff, List.filter_eq_nil_iff]
  constructor
  · intro hnone name ⟨hne, t, ht, hname⟩
    have := hnone t ht
    simp [Trait.isDefault, hname, hne] at this
  · intro hnone t ht hown
    exact hnone t.name ⟨by simpa [Trait.isDefault] using hown, t, ht, rfl⟩

/-- The names that a request starts from are listed. -/
theorem mem_startTraits {name : String} :
    name ∈ m.startTraits requested ↔ m.StartsAt requested name := by
  -- The default trait stands for what it implies, any other name for itself.
  have hdefault : name ∈ m.expandDefault defaultTrait ↔ m.Implies defaultTrait name := by
    unfold expandDefault Implies
    rw [if_pos rfl]
    cases m.trait? defaultTrait with
    | none => simp
    | some t => simp
  have hother {r : String} (hr : r ≠ defaultTrait) : name ∈ m.expandDefault r ↔ name = r := by
    simp [expandDefault, hr]
  unfold startTraits StartsAt
  rw [List.mem_flatMap]
  constructor
  · intro ⟨r, hr, hname⟩
    by_cases heq : r = defaultTrait
    · subst heq
      exact .inr ⟨hr, hdefault.1 hname⟩
    · have hsame : name = r := (hother heq).1 hname
      subst hsame
      exact .inl ⟨hr, heq⟩
  · intro h
    rcases h with ⟨hname, hne⟩ | ⟨hr, himplies⟩
    · exact ⟨name, hname, (hother hne).2 rfl⟩
    · exact ⟨defaultTrait, hr, hdefault.2 himplies⟩

/-! ### One step -/

/-- A step that goes on takes one name, which is that of a trait.  The trait is enabled already, or
it is enabled now and what it implies is pending. -/
theorem enableNext_next (h : m.enableNext s = .next s') :
    ∃ name pending t, s.pending = name :: pending ∧ m.ownTrait? name = some t ∧
      ((name ∈ s.enabled.toList ∧ s' = { s with pending }) ∨
        (name ∉ s.enabled.toList ∧
          s' = ⟨t.implies.toList.reverse ++ pending, s.enabled.insert name⟩)) := by
  unfold enableNext at h
  split at h
  · cases h
  · next name pending hpending =>
    split at h
    · cases h
    · next t ht =>
      refine ⟨name, pending, t, hpending, ht, ?_⟩
      split at h
      · next henabled =>
        cases h
        exact .inl ⟨SortedSet.contains_iff_mem.1 henabled, rfl⟩
      · next hnew =>
        cases h
        exact .inr ⟨fun hmem => hnew (SortedSet.contains_iff_mem.2 hmem), rfl⟩

/-- The last step has no name left, or it has come to one that is none of the package's traits. -/
theorem enableNext_done {r : Except TraitError Names} (h : m.enableNext s = .done r) :
    (s.pending = [] ∧ r = .ok s.enabled) ∨
      ∃ name ∈ s.pending, ¬ m.Owns name ∧
        r = .error (.unknown m.displayName name (m.ownTraits.map (·.name))) := by
  unfold enableNext at h
  split at h
  · next hpending =>
    cases h
    exact .inl ⟨hpending, rfl⟩
  · next name pending hpending =>
    split at h
    · next hnone =>
      cases h
      exact .inr ⟨name, by simp [hpending], ownTrait?_eq_none.1 hnone, rfl⟩
    · split at h <;> cases h

/-- Nothing but the start of the request has been met at first. -/
theorem enabling_start (m : Manifest) (requested : Names) :
    m.Enabling requested ⟨(m.startTraits requested).reverse, KeyedSet.empty⟩ where
  reached := by
    intro name hmet
    rcases hmet with hname | hname
    · exact ⟨name, mem_startTraits.1 (List.mem_reverse.1 hname), .refl⟩
    · exact nomatch hname
  starts := fun name hname => .inl (List.mem_reverse.2 (mem_startTraits.2 hname))
  closed := fun _ hname => nomatch hname
  owned := fun _ hname => nomatch hname

/-- A step keeps the invariant. -/
theorem Enabling.next (hs : m.Enabling requested s) (h : m.enableNext s = .next s') :
    m.Enabling requested s' := by
  obtain ⟨name, pending, t, hpending, ht, hcase⟩ := enableNext_next h
  obtain ⟨htrait, hne⟩ := ownTrait?_eq_some.1 ht
  have hname : m.RequestReaches requested name := hs.reached name (.inl (by simp [hpending]))
  rcases hcase with ⟨henabled, rfl⟩ | ⟨-, rfl⟩
  · -- The name is enabled, so the same names have been met without it.
    have hmet (n : String) : TraitClosure.Met { s with pending } n ↔ s.Met n := by
      simp only [TraitClosure.Met, hpending, List.mem_cons]
      constructor
      · exact Or.imp_left .inr
      · intro hn
        by_cases heq : n = name
        · exact .inr (heq ▸ henabled)
        · exact hn.imp_left fun hn => hn.resolve_left heq
    constructor
    · exact fun n hn => hs.reached n ((hmet n).1 hn)
    · exact fun n hn => (hmet n).2 (hs.starts n hn)
    · exact fun n hn n' himplies => (hmet n').2 (hs.closed n hn n' himplies)
    · exact hs.owned
  · -- The names that the trait implies have been met in addition.
    have himplied (n : String) : m.Implies name n ↔ n ∈ t.implies.toList := by
      unfold Implies
      simp [htrait]
    have hmet (n : String) : TraitClosure.Met
        ⟨t.implies.toList.reverse ++ pending, s.enabled.insert name⟩ n ↔
        s.Met n ∨ m.Implies name n := by
      simp only [TraitClosure.Met, hpending, himplied, List.mem_append, List.mem_reverse,
        List.mem_cons, SortedSet.mem_insert]
      grind
    constructor
    · intro n hn
      rcases (hmet n).1 hn with hn | himplies
      · exact hs.reached n hn
      · obtain ⟨start, hstart, hlead⟩ := hname
        exact ⟨start, hstart, hlead.tail himplies⟩
    · exact fun n hn => (hmet n).2 (.inl (hs.starts n hn))
    · intro n hn n' himplies
      rcases SortedSet.mem_insert.1 hn with rfl | hn
      · exact (hmet n').2 (.inr himplies)
      · exact (hmet n').2 (.inl (hs.closed n hn n' himplies))
    · intro n hn
      rcases SortedSet.mem_insert.1 hn with rfl | hn
      · exact ⟨hne, t, List.mem_of_find?_eq_some htrait, name_of_trait? htrait⟩
      · exact hs.owned n hn

/-- With every step fewer names are left. -/
theorem namesLeft_next (h : m.enableNext s = .next s') : m.namesLeft s' < m.namesLeft s := by
  obtain ⟨name, pending, t, hpending, ht, hcase⟩ := enableNext_next h
  rcases hcase with ⟨-, rfl⟩ | ⟨hnew, rfl⟩
  · simp only [namesLeft, hpending, List.length_cons]
    omega
  · -- The trait leaves those that are not enabled, with the names that it implies.
    obtain ⟨htrait, -⟩ := ownTrait?_eq_some.1 ht
    have hname : t.name = name := name_of_trait? htrait
    have hmono (t' : Trait) (hnot : (!(s.enabled.insert name).contains t'.name) = true) :
        (!s.enabled.contains t'.name) = true := by
      simp only [Bool.not_eq_true', Bool.eq_false_iff] at hnot ⊢
      exact fun hold => hnot (KeyedSet.contains_insert.2 (.inr hold))
    have hold : (!s.enabled.contains t.name) = true := by
      simp only [Bool.not_eq_true', Bool.eq_false_iff, hname]
      exact fun hold => hnew (SortedSet.contains_iff_mem.1 hold)
    have hnow : (!(s.enabled.insert name).contains t.name) = false := by
      simp only [Bool.not_eq_false', hname]
      exact KeyedSet.contains_insert.2 (.inl rfl)
    have hsum := List.sum_filter_add_le m.traits (fun t => t.implies.toList.length)
      (fun t => !s.enabled.contains t.name) (fun t => !(s.enabled.insert name).contains t.name)
      (fun t' _ => hmono t') t (List.mem_of_find?_eq_some htrait) hold (by simp [hnow])
    simp only [namesLeft, hpending, List.length_cons, List.length_append, List.length_reverse]
    omega

/-! ### All steps -/

/-- The search for enabled traits ends, however the traits imply each other: its bound suffices. -/
theorem enabledTraits_ends (hown : ∃ name, m.Owns name) (requested : Names) :
    Loop.Ends m.enableNext ⟨(m.startTraits requested).reverse, KeyedSet.empty⟩
      (m.enabledTraits requested) := by
  have hne : ¬ m.ownTraits.isEmpty = true := by
    obtain ⟨name, hname⟩ := hown
    exact fun hempty => ownTraits_isEmpty.1 hempty name hname
  -- The bound counts every name that can become pending, and each step leaves fewer of them.
  have hbound : m.namesLeft ⟨(m.startTraits requested).reverse, KeyedSet.empty⟩ <
      m.closureSteps (m.startTraits requested).reverse := by
    have hsum := List.sum_filter_le m.traits (fun t => t.implies.toList.length) (fun _ => true)
      (fun t => !(KeyedSet.empty : Names).contains t.name) fun _ _ _ => rfl
    rw [List.filter_true] at hsum
    simp only [namesLeft, closureSteps, List.length_reverse, List.length_flatMap]
    omega
  unfold enabledTraits
  rw [if_neg hne]
  exact Loop.ends_getD m.namesLeft (fun _ _ => namesLeft_next) hbound _

/-- A request enables the names that can be reached, all of them traits of the package's own, or one
of them is none. -/
theorem enabledTraits_cases (hown : ∃ name, m.Owns name) (requested : Names) :
    (∃ traits, m.enabledTraits requested = .ok traits ∧
      (∀ name, name ∈ traits.toList ↔ m.RequestReaches requested name) ∧
      ∀ name ∈ traits.toList, m.Owns name) ∨
    ∃ name, m.RequestReaches requested name ∧ ¬ m.Owns name ∧
      m.enabledTraits requested =
        .error (.unknown m.displayName name (m.ownTraits.map (·.name))) := by
  refine (enabledTraits_ends hown requested).post (m.Enabling requested)
    (fun r => (∃ traits, r = .ok traits ∧
      (∀ name, name ∈ traits.toList ↔ m.RequestReaches requested name) ∧
      ∀ name ∈ traits.toList, m.Owns name) ∨
    ∃ name, m.RequestReaches requested name ∧ ¬ m.Owns name ∧
      r = .error (.unknown m.displayName name (m.ownTraits.map (·.name))))
    (fun s s' hs hnext => hs.next hnext) ?_ (m.enabling_start requested)
  intro s r hs hdone
  rcases enableNext_done hdone with ⟨hpending, rfl⟩ | ⟨name, hname, hnot, rfl⟩
  · -- Nothing is pending, so what has been met is enabled.
    have henabled (name : String) (hmet : s.Met name) : name ∈ s.enabled.toList := by
      rcases hmet with hname | hname
      · rw [hpending] at hname
        exact nomatch hname
      · exact hname
    refine .inl ⟨s.enabled, rfl, fun name => ⟨fun hname => hs.reached name (.inr hname), ?_⟩,
      hs.owned⟩
    intro ⟨start, hstart, hlead⟩
    induction hlead with
    | refl => exact henabled start (hs.starts start hstart)
    | tail _ himplies ih => exact henabled _ (hs.closed _ ih _ himplies)
  · exact .inr ⟨name, hs.reached name (.inl hname), hnot, rfl⟩

/-- The enabled traits are the names that can be reached. -/
theorem mem_enabledTraits (hown : ∃ name, m.Owns name) {traits : Names}
    (h : m.enabledTraits requested = .ok traits) {name : String} :
    name ∈ traits.toList ↔ m.RequestReaches requested name := by
  rcases enabledTraits_cases hown requested with ⟨traits', htraits', hmem, -⟩ | ⟨x, -, -, herror⟩
  · rw [h] at htraits'
    cases htraits'
    exact hmem name
  · rw [h] at herror
    exact nomatch herror

/-- A request is met exactly if every name that can be reached is a trait of the package's own. -/
theorem enabledTraits_isOk_iff (hown : ∃ name, m.Owns name) (requested : Names) :
    (∃ traits, m.enabledTraits requested = .ok traits) ↔
      ∀ name, m.RequestReaches requested name → m.Owns name := by
  rcases enabledTraits_cases hown requested with
    ⟨traits, htraits, hmem, howned⟩ | ⟨name, hname, hnot, herror⟩
  · exact ⟨fun _ name hname => howned name ((hmem name).2 hname), fun _ => ⟨traits, htraits⟩⟩
  · constructor
    · intro ⟨traits, htraits⟩
      rw [htraits] at herror
      exact nomatch herror
    · exact fun hall => absurd (hall name hname) hnot

/-- A request for the names of two requests reaches what either of them does. -/
theorem requestReaches_union {requested' : Names} {name : String} :
    m.RequestReaches (requested.union requested') name ↔
      m.RequestReaches requested name ∨ m.RequestReaches requested' name := by
  have hstarts (start : String) : m.StartsAt (requested.union requested') start ↔
      m.StartsAt requested start ∨ m.StartsAt requested' start := by
    simp only [StartsAt, SortedSet.mem_union]
    grind
  simp only [RequestReaches, hstarts, or_and_right, exists_or]

/-- What is enabled for the names of two requests is what is enabled for them one by one. -/
theorem enabledTraits_union (hown : ∃ name, m.Owns name) (requested requested' traits : Names) :
    m.enabledTraits (requested.union requested') = .ok traits ↔
      ∃ t t', m.enabledTraits requested = .ok t ∧ m.enabledTraits requested' = .ok t' ∧
        traits = t.union t' := by
  have hunion {t t' both : Names} (ht : m.enabledTraits requested = .ok t)
      (ht' : m.enabledTraits requested' = .ok t')
      (hboth : m.enabledTraits (requested.union requested') = .ok both) : both = t.union t' := by
    apply KeyedSet.eq_of_mem_iff
    intro name
    rw [mem_enabledTraits hown hboth, requestReaches_union, SortedSet.mem_union,
      mem_enabledTraits hown ht, mem_enabledTraits hown ht']
  have hmet (r : Names) := enabledTraits_isOk_iff hown (m := m) r
  constructor
  · intro h
    -- Either request reaches no more than both together, so it is met as well.
    have hall := (hmet _).1 ⟨traits, h⟩
    obtain ⟨t, ht⟩ := (hmet requested).2
      fun name hname => hall name (requestReaches_union.2 (.inl hname))
    obtain ⟨t', ht'⟩ := (hmet requested').2
      fun name hname => hall name (requestReaches_union.2 (.inr hname))
    exact ⟨t, t', ht, ht', hunion ht ht' h⟩
  · intro ⟨t, t', ht, ht', heq⟩
    have hall := (hmet requested).1 ⟨t, ht⟩
    have hall' := (hmet requested').1 ⟨t', ht'⟩
    obtain ⟨both, hboth⟩ := (hmet (requested.union requested')).2
      fun name hname => (requestReaches_union.1 hname).elim (hall name) (hall' name)
    rw [hboth, heq, hunion ht ht' hboth]

/-- Whatever is enabled is a trait of the package's own, together with all that it implies. -/
theorem enabledTraits_closed {traits : Names} (h : m.enabledTraits requested = .ok traits) :
    (∀ name ∈ traits.toList, m.Owns name) ∧
      ∀ name ∈ traits.toList, ∀ name', m.Implies name name' → name' ∈ traits.toList := by
  by_cases hown : ∃ name, m.Owns name
  · have howned := (enabledTraits_isOk_iff hown requested).1 ⟨traits, h⟩
    constructor
    · exact fun name hname => howned name ((mem_enabledTraits hown h).1 hname)
    · intro name hname name' himplies
      obtain ⟨start, hstart, hlead⟩ := (mem_enabledTraits hown h).1 hname
      exact (mem_enabledTraits hown h).2 ⟨start, hstart, hlead.tail himplies⟩
  · -- Without traits of its own a package has nothing to enable.
    have hempty : m.ownTraits.isEmpty = true :=
      ownTraits_isEmpty.2 fun name hname => hown ⟨name, hname⟩
    unfold enabledTraits at h
    rw [if_pos hempty] at h
    split at h
    · cases h
      constructor
      · exact fun name hname => nomatch hname
      · exact fun name hname => nomatch hname
    · exact nomatch h

end

/-- A request to a package with traits of its own is worked out, however the traits imply each
other.  It is met exactly if it reaches nothing but traits of the package's own; these are what it
enables, so they are closed under implication, and requests can be met one by one.  Otherwise the
error names something that is reached and is no trait of the package's own. -/
theorem enabledTraits_least (m : Manifest) (hown : ∃ name, m.Owns name) :
    (∀ requested, Loop.Ends m.enableNext ⟨(m.startTraits requested).reverse, KeyedSet.empty⟩
      (m.enabledTraits requested)) ∧
    (∀ requested, (∃ traits, m.enabledTraits requested = .ok traits) ↔
      ∀ name, m.RequestReaches requested name → m.Owns name) ∧
    (∀ requested traits, m.enabledTraits requested = .ok traits →
      (∀ name, name ∈ traits.toList ↔ m.RequestReaches requested name) ∧
        ∀ name ∈ traits.toList, ∀ name', m.Implies name name' → name' ∈ traits.toList) ∧
    (∀ requested requested' traits,
      m.enabledTraits (requested.union requested') = .ok traits ↔
        ∃ t t', m.enabledTraits requested = .ok t ∧ m.enabledTraits requested' = .ok t' ∧
          traits = t.union t') ∧
    ∀ requested e, m.enabledTraits requested = .error e →
      ∃ name, m.RequestReaches requested name ∧ ¬ m.Owns name ∧
        e = .unknown m.displayName name (m.ownTraits.map (·.name)) := by
  refine ⟨enabledTraits_ends hown, enabledTraits_isOk_iff hown, fun requested traits h => ?_,
    enabledTraits_union hown, fun requested e h => ?_⟩
  · exact ⟨fun name => mem_enabledTraits hown h, (enabledTraits_closed h).2⟩
  · rcases enabledTraits_cases hown requested with
      ⟨traits, htraits, -⟩ | ⟨name, hname, hnot, herror⟩
    · rw [h] at htraits
      exact nomatch htraits
    · rw [h] at herror
      cases herror
      exact ⟨name, hname, hnot, rfl⟩

/-- A package with two traits that imply each other, and one that implies a name which is not
declared. -/
def cyclicTraits : Manifest :=
  { Manifest.bare (.registry "kit") "Kit" with
    traits := [⟨"default", KeyedSet.ofList ["Tls"], none⟩,
      ⟨"Tls", KeyedSet.ofList ["Http"], none⟩, ⟨"Http", KeyedSet.ofList ["Tls"], none⟩,
      ⟨"Json", KeyedSet.ofList ["Xml"], none⟩] }

/-- The defaults enable both traits of a cycle, and the name that is not declared is an error. -/
theorem enabledTraits_least_cyclicTraits :
    (∃ name, cyclicTraits.Owns name) ∧
    cyclicTraits.enabledTraits (KeyedSet.ofList [defaultTrait]) =
      .ok (KeyedSet.ofList ["Http", "Tls"]) ∧
    (∀ name, name ∈ ["Http", "Tls"] ↔
      cyclicTraits.RequestReaches (KeyedSet.ofList [defaultTrait]) name) ∧
    ∃ name, cyclicTraits.RequestReaches (KeyedSet.ofList ["Json"]) name ∧
      ¬ cyclicTraits.Owns name := by
  have hown : ∃ name, cyclicTraits.Owns name :=
    ⟨"Tls", by decide, ⟨"Tls", KeyedSet.ofList ["Http"], none⟩, by simp [cyclicTraits], rfl⟩
  have hok : cyclicTraits.enabledTraits (KeyedSet.ofList [defaultTrait]) =
      .ok (KeyedSet.ofList ["Http", "Tls"]) := by
    decide +kernel
  have herror : cyclicTraits.enabledTraits (KeyedSet.ofList ["Json"]) =
      .error (.unknown "Kit" "Xml" ["Tls", "Http", "Json"]) := by
    decide +kernel
  obtain ⟨-, -, hmem, -, hfails⟩ := enabledTraits_least cyclicTraits hown
  obtain ⟨name, hname, hnot, -⟩ := hfails _ _ herror
  refine ⟨hown, hok, fun n => ?_, name, hname, hnot⟩
  rw [← (hmem _ _ hok).1 n, SortedSet.mem_ofList]

end ModuleGraph.Manifest
