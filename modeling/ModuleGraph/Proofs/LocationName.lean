import ModuleGraph.Proofs.CanonicalLocation
import ModuleGraph.Proofs.KeyedSet

/-!
# The name of a place

A package that does not come from a registry is named by the last component of its location, in
small letters.  Whether two locations are the same place is decided by their canonical forms,
which are made in another order: small letters first, then scheme, user, slashes and `.git`.

The canonical form decides the name up to one `.git`: the name loses it only if it is written in
small letters, the canonical form in any case.  This is so for locations without blanks around them,
whose user is apart from the last component and whose last component has no capital sigma and is
more than a `.git` behind a backslash.

## Key results

- `Location.component_bare`: scheme and user are not in the last component
- `Location.dropGit_component`: the last component without `.git`, read off the canonical form
- `Location.toList_lowercase_lastName`: when a name keeps its `.git`
- `Origin.identify_eq_iff`: when one place has one name
-/

namespace ModuleGraph
namespace Location

open Text

/-! ### The last component -/

/-- What a location may end with. -/
def isSlash (c : Char) : Bool := c == '/' || c == '\\'

/-- What stands between the components of a location. -/
def isSeparator (c : Char) : Bool := isSlash c || c == ':'

/-- The last component of a location. -/
def component (cs : List Char) : List Char := lastPiece isSeparator (dropEndWhile isSlash cs)

/-- The location in small letters. -/
def small (location : String) : List Char := (lowercase location).toList

/-- The location without its scheme. -/
def schemeless (cs : List Char) : List Char := (cutThrough? schemeMark cs).getD cs

/-- A location whose canonical form and whose name go by the same last component. -/
structure Regular (location : String) : Prop where
  /-- There are no blanks at either end. -/
  trimmed : trim location = location
  /-- The only letter whose small letter depends on its place is not in the last component. -/
  no_sigma : 'Σ' ∉ component location.toList
  /-- If a user is dropped, a separator is left behind it, in front of the last component. -/
  user_apart : bare (small location) = schemeless (small location) ∨
    component (small location) ≠ [] ∧
      ∃ c ∈ dropEndWhile isSlash (bare (small location)), isSeparator c = true
  /-- What is dropped as a `.git` does not stand right behind a backslash. -/
  git_apart : ¬ '\\' :: gitEnding <:+ dropEndWhile (· == '/') (bare (small location))

/-- A location that ends with `.git`, but not in small letters. -/
def Misspelt (location : String) : Prop :=
  gitEnding <:+ component (small location) ∧ ¬ gitEnding <:+ component location.toList

instance (location : String) : Decidable (Misspelt location) :=
  inferInstanceAs (Decidable (_ ∧ _))

section
variable {cs rest : List Char}

/-- A component stands behind the last separator, if anything else follows that. -/
theorem component_append_cons (a : List Char) {sep : Char} (hsep : isSeparator sep = true)
    (h : dropEndWhile isSlash rest ≠ []) : component (a ++ sep :: rest) = component rest := by
  have hne : dropEndWhile isSlash (sep :: rest) = sep :: dropEndWhile isSlash rest :=
    dropEndWhile_append_of_ne_nil [sep] h
  rw [component, dropEndWhile_append_of_ne_nil a (by rw [hne]; exact List.cons_ne_nil _ _), hne,
    lastPiece_append_cons a hsep, component]

/-- A location with a separator has the last component in it, whatever stands in front. -/
theorem component_append_of_exists (a : List Char)
    (h : ∃ c ∈ dropEndWhile isSlash cs, isSeparator c = true) :
    component (a ++ cs) = component cs := by
  have hne : dropEndWhile isSlash cs ≠ [] := by
    obtain ⟨c, hmem, -⟩ := h
    exact List.ne_nil_of_mem hmem
  rw [component, dropEndWhile_append_of_ne_nil a hne, lastPiece_append_of_exists a h, component]

/-- Nothing but slashes stands behind a colon: then the last component is empty. -/
theorem component_append_colon (a : List Char) (h : ∀ c ∈ rest, isSlash c = true) :
    component (a ++ ':' :: rest) = [] := by
  have hsplit : a ++ ':' :: rest = (a ++ [':']) ++ rest := by simp
  rw [hsplit, component, dropEndWhile_append_of_forall _ h,
    dropEndWhile_append_of_last a ⟨':', rfl, rfl⟩, lastPiece_append_cons a rfl]
  rfl

/-- A scheme is not in the last component. -/
theorem component_append_schemeMark (a rest : List Char) :
    component (a ++ (schemeMark ++ rest)) = component rest := by
  by_cases h : dropEndWhile isSlash rest = []
  · have hslashes : ∀ c ∈ '/' :: '/' :: rest, isSlash c = true := by
      rw [List.forall_mem_cons, List.forall_mem_cons]
      exact ⟨rfl, rfl, List.rdropWhile_eq_nil_iff.1 h⟩
    have hempty : component (a ++ (schemeMark ++ rest)) = [] := component_append_colon a hslashes
    rw [hempty, component, h]
    rfl
  · have hsplit : a ++ (schemeMark ++ rest) = (a ++ [':', '/']) ++ '/' :: rest := by
      simp [schemeMark]
    rw [hsplit, component_append_cons _ rfl h]

/-- What stands in front of a user's end is dropped with it, or nothing is. -/
theorem exists_dropUser (cs : List Char) : ∃ user, cs = user ++ dropUser cs := by
  rw [dropUser]
  split
  · next rest hdrop =>
    refine ⟨cs.takeWhile (fun c => c != '@' && c != '/') ++ ['@'], ?_⟩
    have hsplit := List.takeWhile_append_dropWhile (p := fun c => c != '@' && c != '/') (l := cs)
    rw [hdrop] at hsplit
    simpa using hsplit.symm
  · exact ⟨[], rfl⟩

/-- The colon of a remote shell becomes a separator too, so it may stand for a slash, unless it is
the end of the location. -/
theorem component_replaceFirst (h : component (shellLead ++ rest) ≠ [])
    (hsep : ∃ c ∈ dropEndWhile isSlash (replaceFirst ':' '/' rest), isSeparator c = true) :
    component (shellLead ++ rest) = component (replaceFirst ':' '/' rest) := by
  -- With a colon, the path behind it decides in both texts; without one, nothing is replaced.
  by_cases hmem : ':' ∈ rest
  · obtain ⟨host, path, rfl, hhost⟩ := List.eq_append_cons_of_mem hmem
    rw [replaceFirst_append hhost]
    have hpath : dropEndWhile isSlash path ≠ [] := by
      intro hnil
      apply h
      rw [← List.append_assoc]
      exact component_append_colon _ (List.rdropWhile_eq_nil_iff.1 hnil)
    rw [← List.append_assoc, component_append_cons _ rfl hpath, component_append_cons _ rfl hpath]
  · rw [replaceFirst_of_not_mem hmem] at hsep ⊢
    exact component_append_of_exists _ hsep

/-- **Scheme and user are not in the last component**: what is left of a location without them has
the same one. -/
theorem component_bare (h : bare cs = schemeless cs ∨
    component cs ≠ [] ∧ ∃ c ∈ dropEndWhile isSlash (bare cs), isSeparator c = true) :
    component (bare cs) = component cs := by
  -- A scheme may always be left out.
  have hscheme : ∀ {rest}, cutThrough? schemeMark cs = some rest →
      component rest = component cs := by
    intro rest hcut
    obtain ⟨before, rfl⟩ := exists_of_cutThrough?_eq_some hcut
    exact (component_append_schemeMark before rest).symm
  rcases h with hsame | ⟨hne, hsep⟩
  · rw [hsame, schemeless]
    cases hcut : cutThrough? schemeMark cs with
    | none => rfl
    | some rest => exact hscheme hcut
  · obtain ⟨user, huser⟩ := exists_dropUser (dropScheme cs)
    have hbare : component (dropScheme cs) = component (bare cs) := by
      rw [huser]
      exact component_append_of_exists user hsep
    rw [← hbare]
    cases hcut : cutThrough? schemeMark cs with
    | some rest => rw [dropScheme_of_mark hcut, hscheme hcut]
    | none =>
      by_cases hshell : shellLead <+: cs
      · obtain ⟨rest, rfl⟩ := hshell
        have hdrop := dropScheme_of_shell hcut rfl
        rw [hdrop] at huser ⊢
        refine (component_replaceFirst hne ?_).symm
        obtain ⟨c, hmem, hc⟩ := hsep
        refine ⟨c, ?_, hc⟩
        rw [huser, ← hdrop]
        exact mem_dropEndWhile_append hmem user
      · rw [dropScheme_of_neither hcut hshell]

/-! ### The name within the canonical form -/

/-- The last component of a canonical form; its `.git` is gone unless there is another one in front
of backslashes. -/
def nameOf (canonical : List Char) : List Char :=
  if canonical.getLast? = some '\\' then dropGit (component canonical)
  else lastPiece isSeparator canonical

/-- The last component without its `.git` can be read off the location without slashes at the end
and without its `.git`. -/
theorem dropGit_component_of_last (hlast : cs.getLast? ≠ some '/')
    (hgit : ¬ '\\' :: gitEnding <:+ cs) : dropGit (component cs) = nameOf (dropGit cs) := by
  by_cases hending : gitEnding <:+ cs
  · -- The name is cut first and loses its `.git` then.  With no backslash in front of the `.git`,
    -- the other order cuts at the same place.
    obtain ⟨front, rfl⟩ := hending
    have hbackslash : front.getLast? ≠ some '\\' := by
      intro hback
      obtain ⟨before, rfl⟩ := List.getLast?_eq_some_iff.1 hback
      exact hgit ⟨before, by simp⟩
    have hcomponent :
        component (front ++ gitEnding) = lastPiece isSeparator front ++ gitEnding := by
      rw [component, dropEndWhile_append_of_last front ⟨'t', rfl, rfl⟩,
        lastPiece_append_of_forall front (forall_of_all (by decide))]
    rw [hcomponent, dropGit_append, dropGit_append, nameOf, if_neg hbackslash]
  · rw [dropGit_of_not_suffix hending, nameOf]
    split
    · rfl
    · next hbackslash =>
      have hkeep : dropEndWhile isSlash cs = cs := by
        cases hend : cs.getLast? with
        | none =>
          rw [List.getLast?_eq_none_iff.1 hend]
          rfl
        | some c =>
          have hc : isSlash c = false := by
            rw [hend] at hlast hbackslash
            simp only [isSlash, Bool.or_eq_false_iff, beq_eq_false_iff_ne]
            exact ⟨fun heq => hlast (congrArg some heq), fun heq => hbackslash (congrArg some heq)⟩
          exact dropEndWhile_append_of_last [] ⟨c, hend, hc⟩
      have hpiece : ¬ gitEnding <:+ lastPiece isSeparator cs := fun h =>
        hending (h.trans (List.rtakeWhile_suffix _ cs))
      rw [component, hkeep, dropGit_of_not_suffix hpiece]

/-- **The canonical form decides the last component but for its `.git`**. -/
theorem dropGit_component {location : String} (h : Regular location) :
    dropGit (component (small location)) = nameOf (canonical location).toList := by
  have hcanonical : (canonical location).toList =
      dropGit (dropEndWhile (· == '/') (bare (small location))) := by
    rw [canonical, h.trimmed, String.toList_ofList]
    rfl
  have hslashes : component (dropEndWhile (· == '/') (bare (small location))) =
      component (bare (small location)) := by
    rw [component, dropEndWhile_dropEndWhile (by simp [isSlash]), component]
  rw [hcanonical, ← component_bare h.user_apart, ← hslashes]
  refine dropGit_component_of_last (fun hlast => ?_) h.git_apart
  exact absurd (getLast?_dropEndWhile hlast) (by decide)

end

/-! ### The name in small letters -/

section
variable {location : String}

/-- What separates components is a mark. -/
theorem isMark_of_isSeparator {c : Char} (h : isSeparator c = true) : IsMark c := by
  simp only [isSeparator, isSlash, Bool.or_eq_true, beq_iff_eq] at h
  rcases h with (rfl | rfl) | rfl <;> decide

/-- No separator of any kind comes from another character. -/
theorem eq_false_of_mem_lowerOf {p : Char → Bool} (hp : ∀ c, p c = true → IsMark c) {c : Char}
    (hc : p c = false) : ∀ d ∈ lowerOf c, p d = false := by
  intro d hd
  rw [Bool.eq_false_iff]
  intro hsep
  rw [(mem_lowerOf_iff (hp d hsep)).1 hd, hc] at hsep
  exact nomatch hsep

/-- Letter by letter, small letters leave the slashes at the end alone. -/
theorem dropEndWhile_isSlash_flatMap (cs : List Char) :
    dropEndWhile isSlash (cs.flatMap lowerOf) = (dropEndWhile isSlash cs).flatMap lowerOf := by
  have hslash : ∀ c, isSlash c = true → IsMark c := fun c hc =>
    isMark_of_isSeparator (by rw [isSeparator, hc]; rfl)
  exact dropEndWhile_flatMap (fun c hc => (hslash c hc).lowerOf_eq)
    (fun _ => eq_false_of_mem_lowerOf hslash) lowerOf_ne_nil cs

/-- Letter by letter, the last component is lower-cased within the location as by itself. -/
theorem component_flatMap (cs : List Char) :
    component (cs.flatMap lowerOf) = (component cs).flatMap lowerOf := by
  have hseparator : ∀ c, isSeparator c = true → IsMark c := fun c => isMark_of_isSeparator
  rw [component, dropEndWhile_isSlash_flatMap, component]
  exact lastPiece_flatMap (fun c hc => (hseparator c hc).lowerOf_eq)
    (fun _ => eq_false_of_mem_lowerOf hseparator) _

/-- A location with a separator in front of the last component can be cut there: behind it, there
are but the last component and slashes. -/
theorem exists_eq_append_of_separator {cs : List Char}
    (h : ∃ c ∈ dropEndWhile isSlash cs, isSeparator c = true) :
    ∃ front back, cs = front ++ back ∧
      (∃ c ∈ dropEndWhile isSlash back, isSeparator c = true) ∧
      ∀ c ∈ back, isSeparator c = true ∨ c ∈ component cs := by
  -- The cut is made at the last separator; the slashes at the end come back behind the component.
  obtain ⟨front, sep, hsep, htrim⟩ := exists_eq_append_lastPiece h
  have hpiece : lastPiece isSeparator (dropEndWhile isSlash cs) = component cs := rfl
  rw [hpiece] at htrim
  have hslashes : ∀ c ∈ cs.rtakeWhile isSlash, isSlash c = true := fun c hc =>
    List.mem_rtakeWhile_imp hc
  have hcs : dropEndWhile isSlash cs ++ cs.rtakeWhile isSlash = cs :=
    List.rdropWhile_append_rtakeWhile
  obtain ⟨last, hlast⟩ : ∃ c, (sep :: component cs).getLast? = some c :=
    ⟨_, List.getLast?_eq_some_getLast (List.cons_ne_nil _ _)⟩
  have hslash : isSlash last = false := by
    have htail : (dropEndWhile isSlash cs).getLast? = some last := by
      rw [htrim, List.getLast?_append, hlast]
      rfl
    exact getLast?_dropEndWhile htail
  have hkeep : dropEndWhile isSlash ([] ++ (sep :: component cs)) = sep :: component cs :=
    dropEndWhile_append_of_last [] ⟨last, hlast, hslash⟩
  rw [List.nil_append] at hkeep
  refine ⟨front, sep :: component cs ++ cs.rtakeWhile isSlash, ?_, ⟨sep, ?_, hsep⟩, ?_⟩
  · rw [← List.append_assoc, ← htrim, hcs]
  · rw [dropEndWhile_append_of_forall _ hslashes, hkeep]
    exact List.mem_cons_self ..
  · rw [List.forall_mem_append, List.forall_mem_cons]
    refine ⟨⟨.inl hsep, fun c hc => .inr hc⟩, fun c hc => .inl ?_⟩
    rw [isSeparator, hslashes c hc]
    rfl

/-- Without a capital sigma in it, the last component is lower-cased within the location as by
itself, whatever stands in front. -/
theorem component_lowerFrom {cs : List Char} (h : 'Σ' ∉ component cs) :
    component (lowerFrom [] cs) = (component cs).flatMap lowerOf := by
  by_cases hsep : ∃ c ∈ dropEndWhile isSlash cs, isSeparator c = true
  · -- Sigmas in front change what is in front only, and the component is behind a separator.
    obtain ⟨front, back, rfl, hback, hchars⟩ := exists_eq_append_of_separator hsep
    have hsigma : 'Σ' ∉ back := by
      intro hmem
      rcases hchars _ hmem with hs | hmem
      · exact absurd hs (by decide)
      · exact h hmem
    have hback' : ∃ c ∈ dropEndWhile isSlash (back.flatMap lowerOf), isSeparator c = true := by
      obtain ⟨sep, hmem, hs⟩ := hback
      refine ⟨sep, ?_, hs⟩
      rw [dropEndWhile_isSlash_flatMap, List.mem_flatMap]
      exact ⟨sep, hmem, (mem_lowerOf_iff (isMark_of_isSeparator hs)).2 rfl⟩
    obtain ⟨x, hx, -⟩ := exists_lowerFrom_append hsigma front []
    rw [hx, component_append_of_exists x hback', component_flatMap,
      component_append_of_exists front hback]
  · -- Without separators, the location is the last component and slashes.
    have hself : component cs = dropEndWhile isSlash cs :=
      lastPiece_eq_self fun c hc => Bool.eq_false_iff.2 fun hs => hsep ⟨c, hc, hs⟩
    have hsigma : 'Σ' ∉ cs := by
      have hcs : dropEndWhile isSlash cs ++ cs.rtakeWhile isSlash = cs :=
        List.rdropWhile_append_rtakeWhile
      rw [← hcs, List.mem_append, not_or, ← hself]
      exact ⟨h, fun hmem => absurd (List.mem_rtakeWhile_imp hmem) (by decide)⟩
    rw [lowerFrom_eq_flatMap hsigma, component_flatMap]

/-- **When a name keeps its `.git`**: the name is the last component of the location in small
letters, without a `.git` unless that was not written in small letters. -/
theorem toList_lowercase_lastName (h : 'Σ' ∉ component location.toList) :
    (lowercase (lastName location)).toList =
      dropGit (component (small location)) ++ if Misspelt location then gitEnding else [] := by
  have hname : lastName location = String.ofList (dropGit (component location.toList)) := rfl
  have hsmall : component (small location) = (component location.toList).flatMap lowerOf := by
    rw [small, lowercase, String.toList_ofList, component_lowerFrom h]
  have hgit : gitEnding.flatMap lowerOf = gitEnding := by decide
  rw [hname, lowercase, String.toList_ofList, String.toList_ofList]
  by_cases hraw : gitEnding <:+ component location.toList
  · obtain ⟨front, hfront⟩ := hraw
    have hfront' : 'Σ' ∉ front := fun hmem => h (hfront ▸ List.mem_append_left _ hmem)
    rw [if_neg fun hmiss => hmiss.2 ⟨front, hfront⟩, hsmall, ← hfront, dropGit_append,
      List.flatMap_append, hgit, dropGit_append, lowerFrom_eq_flatMap hfront', List.append_nil]
  · -- The name was made without dropping anything; a `.git` may come out of capital letters.
    rw [dropGit_of_not_suffix hraw, lowerFrom_eq_flatMap h, ← hsmall]
    split
    · next hmiss =>
      obtain ⟨front, hfront⟩ := hmiss.1
      rw [← hfront, dropGit_append]
    · next hmiss =>
      rw [dropGit_of_not_suffix fun hsuffix => hmiss ⟨hsuffix, hraw⟩, List.append_nil]

end

end Location

/-! ### One place, one name -/

/-- Anything but an entry of a registry is identified by the location to go by. -/
theorem Mirrors.identify_of_ne_registry {mirrors : Mirrors} {origin : Origin}
    (h : ∀ id, origin ≠ .registry id) :
    mirrors.identify origin = .ofName (Location.lastName (mirrors.resolve origin.location)) := by
  cases origin with
  | registry id => exact absurd rfl (h id)
  | root path => rfl
  | directory path => rfl
  | repository url => rfl

/-- Without mirrors, every location is the one to go by. -/
theorem Mirrors.resolve_empty (location : String) :
    Mirrors.resolve KeyedSet.empty location = location := by
  rw [Mirrors.resolve, SortedMap.getD, SortedMap.get?_empty]
  rfl

/-- **When one place has one name.**  Two origins outside registries with the same canonical
location have the same identity, unless one of the two locations ends with a `.git` that is not
written in small letters. -/
theorem Origin.identify_eq_iff {o o' : Origin} (ho : ∀ id, o ≠ .registry id)
    (ho' : ∀ id, o' ≠ .registry id) (h : Location.Regular o.location)
    (h' : Location.Regular o'.location) (hsame : o.canonical = o'.canonical) :
    Mirrors.identify KeyedSet.empty o = Mirrors.identify KeyedSet.empty o' ↔
      (Location.Misspelt o.location ↔ Location.Misspelt o'.location) := by
  -- Either name is made of the common canonical location and of what was kept of its own.
  have hname : ∀ {o : Origin}, (∀ id, o ≠ .registry id) → Location.Regular o.location →
      (Mirrors.identify KeyedSet.empty o).name.toList =
        Location.nameOf o.canonical.toList ++
          if Location.Misspelt o.location then Location.gitEnding else [] := by
    intro o ho h
    rw [Mirrors.identify_of_ne_registry ho, Mirrors.resolve_empty, Identity.ofName,
      Location.toList_lowercase_lastName h.no_sigma, Location.dropGit_component h, Origin.canonical]
  have hiff : Mirrors.identify KeyedSet.empty o = Mirrors.identify KeyedSet.empty o' ↔
      (Mirrors.identify KeyedSet.empty o).name.toList =
        (Mirrors.identify KeyedSet.empty o').name.toList := by
    rw [String.toList_inj]
    exact ⟨congrArg Identity.name, fun heq => congrArg Identity.mk heq⟩
  rw [hiff, hname ho h, hname ho' h', hsame, List.append_cancel_left_eq]
  split <;> split <;> simp_all [Location.gitEnding]

/-- A repository by its web address, with the given ending. -/
def webKit (ending : String) : Url :=
  ⟨"https", "", "", some "github.com", none, .segments ["Org", "Kit" ++ ending], none, none⟩

/-- The same repository, fetched by somebody over a secure shell. -/
def shellKit : Url :=
  ⟨"ssh", "git", "", some "github.com", none, .segments ["org", "kit", ""], none, none⟩

/-- With and without `.git` the repository is one package; with `.GIT` it is another one. -/
theorem identify_eq_iff_webKit :
    Mirrors.identify KeyedSet.empty (.repository (webKit ".git")) =
        Mirrors.identify KeyedSet.empty (.repository shellKit) ∧
      Mirrors.identify KeyedSet.empty (.repository (webKit ".GIT")) ≠
        Mirrors.identify KeyedSet.empty (.repository shellKit) := by
  have hshell : Location.Regular (Origin.repository shellKit).location :=
    ⟨by decide +kernel, by decide +kernel,
      .inr ⟨by decide +kernel, '/', by decide +kernel, rfl⟩, by decide +kernel⟩
  have hgit : Location.Regular (Origin.repository (webKit ".git")).location :=
    ⟨by decide +kernel, by decide +kernel, .inl (by decide +kernel), by decide +kernel⟩
  have hshouted : Location.Regular (Origin.repository (webKit ".GIT")).location :=
    ⟨by decide +kernel, by decide +kernel, .inl (by decide +kernel), by decide +kernel⟩
  have hne : ∀ url id, Origin.repository url ≠ .registry id := fun _ _ => nofun
  constructor
  · rw [Origin.identify_eq_iff (hne _) (hne _) hgit hshell (by decide +kernel)]
    decide +kernel
  · rw [ne_eq, Origin.identify_eq_iff (hne _) (hne _) hshouted hshell (by decide +kernel)]
    decide +kernel

end ModuleGraph
