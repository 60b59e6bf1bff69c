import ModuleGraph.Graph.TraitRequests
import ModuleGraph.Proofs.KeyedSet
import Mathlib.Data.List.ReduceOption
import Mathlib.Data.List.TakeWhile

/-!
# What a record makes of the requests

A record is folded from the requests for one package, one after the other.  The set that asks for
the defaults alone is both what stands for no explicit request and a set that may be asked for
explicitly, so the fold takes it back when another explicit request follows.  Everything else that
is asked for explicitly stays.

## Key results

- `recordOf_eq`: a record is the union of the explicit requests that count
- `mem_recordedFrom`: which of the names that are asked for are in that union
- `recordOf_perm_iff`: when a record is the union of all explicit requests, whatever the order
  in which they come
-/

namespace ModuleGraph

/-- The record after some requests; none if there are no requests. -/
def recordOf (requests : List (Option Names)) : Option Names :=
  requests.foldl (fun record request => some (mergeRequest record request)) none

/-- The union of several sets. -/
def unionAll (sets : List Names) : Names := sets.foldl KeyedSet.union KeyedSet.empty

/-- The explicit requests taken together, or the defaults if there are none. -/
def requestedUnion (requests : List (Option Names)) : Names :=
  match requests.reduceOption with
  | [] => defaultRequest
  | explicit => unionAll explicit

/-- Whether a set has no name but that for the defaults. -/
def onlyDefault (names : Names) : Bool := names.toList.all (· == defaultTrait)

/-- The explicit requests that count: those from the first one on that has another name than that
for the defaults, or the last one if there is none. -/
def countedOf (sets : List Names) : List Names :=
  match sets.dropWhile onlyDefault with
  | [] => sets.getLast?.toList
  | counted => counted

/-- What is recorded for a package after requests, of which there is one at least. -/
def recordedFrom (requests : List (Option Names)) : Names :=
  match requests.reduceOption with
  | [] => defaultRequest
  | explicit => unionAll (countedOf explicit)

/-- A record that is there, after one more explicit request. -/
def mergeExplicit (record names : Names) : Names :=
  if record = defaultRequest then names else record.union names

/-! ### Sets -/

/-- The set that asks for the defaults has their name alone. -/
@[simp] theorem mem_defaultRequest (x : String) :
    x ∈ defaultRequest.toList ↔ x = defaultTrait := by
  rw [defaultRequest, SortedSet.mem_ofList, List.mem_singleton]

theorem mem_foldl_union (sets : List Names) (start : Names) (x : String) :
    x ∈ (sets.foldl KeyedSet.union start).toList ↔ x ∈ start.toList ∨ ∃ s ∈ sets, x ∈ s.toList := by
  induction sets generalizing start with
  | nil => simp
  | cons s sets ih =>
    rw [List.foldl_cons, ih, SortedSet.mem_union, or_assoc, List.exists_mem_cons_iff]

/-- A name is in the union exactly if it is in one of the sets. -/
@[simp] theorem mem_unionAll (sets : List Names) (x : String) :
    x ∈ (unionAll sets).toList ↔ ∃ s ∈ sets, x ∈ s.toList := by
  rw [unionAll, mem_foldl_union]
  simp [KeyedSet.empty]

/-- A set without other names than that for the defaults is empty, or asks for the defaults. -/
theorem onlyDefault_iff (names : Names) :
    onlyDefault names = true ↔ names = KeyedSet.empty ∨ names = defaultRequest := by
  constructor
  · intro h
    have hall : ∀ x ∈ names.toList, x = defaultTrait := by simpa [onlyDefault] using h
    -- The set asks for the defaults, or for nothing at all.
    by_cases hmem : defaultTrait ∈ names.toList
    · refine .inr (KeyedSet.eq_of_mem_iff fun x => ?_)
      rw [mem_defaultRequest]
      exact ⟨hall x, fun hx => hx ▸ hmem⟩
    · refine .inl (KeyedSet.eq_of_mem_iff fun x => ⟨fun hx => ?_, fun hx => nomatch hx⟩)
      exact absurd (hall x hx ▸ hx) hmem
  · rintro (rfl | rfl)
    · rfl
    · simp [onlyDefault]

/-- A fold has no names but those of the record and of the sets. -/
theorem mem_foldl_mergeExplicit (sets : List Names) (record : Names) (x : String)
    (h : x ∈ (sets.foldl mergeExplicit record).toList) :
    x ∈ record.toList ∨ ∃ s ∈ sets, x ∈ s.toList := by
  induction sets generalizing record with
  | nil => exact .inl h
  | cons s sets ih =>
    rw [List.exists_mem_cons_iff, ← or_assoc]
    refine (ih _ h).imp_left fun hx => ?_
    unfold mergeExplicit at hx
    split at hx
    · exact .inr hx
    · exact SortedSet.mem_union.1 hx

/-- The union of one set is that set. -/
@[simp] theorem unionAll_singleton (names : Names) : unionAll [names] = names :=
  KeyedSet.eq_of_mem_iff fun x => by simp

/-- The union of the sets behind the first one can be joined to it. -/
theorem foldl_union_eq (sets : List Names) (names : Names) :
    sets.foldl KeyedSet.union names = unionAll (names :: sets) :=
  KeyedSet.eq_of_mem_iff fun x => by rw [mem_foldl_union, mem_unionAll, List.exists_mem_cons_iff]

/-! ### Folding -/

/-- Where nothing but the defaults is on record, an explicit request takes its place. -/
theorem mergeExplicit_of_onlyDefault (record names : Names) (h : onlyDefault record = true) :
    mergeExplicit record names = names := by
  unfold mergeExplicit
  split
  · rfl
  · next hne =>
    have hempty := ((onlyDefault_iff record).1 h).resolve_right hne
    apply KeyedSet.eq_of_mem_iff
    intro x
    rw [SortedSet.mem_union, hempty]
    simp [KeyedSet.empty]

/-- Where another name is on record, explicit requests are joined to it. -/
theorem foldl_mergeExplicit_of_not (sets : List Names) (record : Names)
    (h : onlyDefault record = false) :
    sets.foldl mergeExplicit record = sets.foldl KeyedSet.union record := by
  induction sets generalizing record with
  | nil => rfl
  | cons s sets ih =>
    have hne : record ≠ defaultRequest := by
      intro heq
      subst heq
      rw [(onlyDefault_iff defaultRequest).2 (.inr rfl)] at h
      exact nomatch h
    -- A name other than that for the defaults stays in the union.
    have hjoined : onlyDefault (record.union s) = false := by
      obtain ⟨x, hx, hname⟩ : ∃ x ∈ record.toList, x ≠ defaultTrait := by
        simpa [onlyDefault] using h
      have : ∃ x ∈ (record.union s).toList, x ≠ defaultTrait :=
        ⟨x, SortedSet.mem_union.2 (.inl hx), hname⟩
      simpa [onlyDefault] using this
    rw [List.foldl_cons, List.foldl_cons, mergeExplicit, if_neg hne]
    exact ih _ hjoined

/-- Explicit requests behind a record that has nothing but the defaults. -/
theorem foldl_mergeExplicit (sets : List Names) (record : Names) (h : onlyDefault record = true)
    (hne : sets ≠ []) : sets.foldl mergeExplicit record = unionAll (countedOf sets) := by
  -- Induction on the sets: those without other names replace each other until one has some.
  induction sets generalizing record with
  | nil => exact absurd rfl hne
  | cons s sets ih =>
    rw [List.foldl_cons, mergeExplicit_of_onlyDefault record s h]
    cases hs : onlyDefault s with
    | true =>
      cases sets with
      | nil => simp [countedOf, hs]
      | cons s' sets =>
        rw [ih s hs (by simp)]
        simp [countedOf, hs]
    | false =>
      rw [foldl_mergeExplicit_of_not sets s hs, foldl_union_eq]
      simp [countedOf, hs]

/-- Only the explicit requests change a record that is there. -/
theorem foldl_mergeRequest (requests : List (Option Names)) (record : Names) :
    requests.foldl (fun record request => some (mergeRequest record request)) (some record) =
      some (requests.reduceOption.foldl mergeExplicit record) := by
  induction requests generalizing record with
  | nil => rfl
  | cons request requests ih =>
    rw [List.foldl_cons]
    cases request with
    | none => exact ih record
    | some names => exact ih (mergeExplicit record names)

/-- The explicit requests that count can be found by folding, from a record that has the defaults
alone. -/
theorem recordedFrom_eq_foldl (requests : List (Option Names)) :
    recordedFrom requests = requests.reduceOption.foldl mergeExplicit defaultRequest := by
  unfold recordedFrom
  cases hexplicit : requests.reduceOption with
  | nil => rfl
  | cons s sets =>
    rw [foldl_mergeExplicit _ _ ((onlyDefault_iff _).2 (.inr rfl)) (by simp)]

/-- A record is the union of the explicit requests that count, and asks for the defaults where
there are none. -/
theorem recordOf_eq (requests : List (Option Names)) (hne : requests ≠ []) :
    recordOf requests = some (recordedFrom requests) := by
  obtain ⟨request, rest, rfl⟩ := List.exists_cons_of_ne_nil hne
  rw [recordedFrom_eq_foldl, recordOf, List.foldl_cons, foldl_mergeRequest]
  cases request with
  | none => rfl
  | some names => simp [mergeRequest, mergeExplicit, List.reduceOption_cons_of_some]

/-! ### What is lost -/

/-- The requests that count are explicit requests. -/
theorem mem_of_mem_countedOf {sets : List Names} {s : Names} (h : s ∈ countedOf sets) :
    s ∈ sets := by
  unfold countedOf at h
  split at h
  · exact List.mem_of_getLast? (by simpa using h)
  · exact (List.dropWhile_sublist _).mem h

/-- A request with another name than that for the defaults counts. -/
theorem mem_countedOf {sets : List Names} {s : Names} (h : s ∈ sets)
    (hother : onlyDefault s = false) : s ∈ countedOf sets := by
  -- What is passed over has no other names.
  have hdrop : s ∈ sets.dropWhile onlyDefault := by
    rw [← List.takeWhile_append_dropWhile (p := onlyDefault) (l := sets)] at h
    refine (List.mem_append.1 h).resolve_left fun htake => ?_
    rw [List.mem_takeWhile_imp htake] at hother
    exact nomatch hother
  unfold countedOf
  split
  · next hnil => rw [hnil] at hdrop; exact nomatch hdrop
  · exact hdrop

/-- Only the name for the defaults can be lost, and only if no request that counts has it. -/
theorem mem_unionAll_countedOf (sets : List Names) (x : String) :
    x ∈ (unionAll (countedOf sets)).toList ↔
      x ∈ (unionAll sets).toList ∧
        (x = defaultTrait → ∃ s ∈ countedOf sets, defaultTrait ∈ s.toList) := by
  simp only [mem_unionAll]
  constructor
  · intro ⟨s, hs, hx⟩
    exact ⟨⟨s, mem_of_mem_countedOf hs, hx⟩, fun heq => ⟨s, hs, heq ▸ hx⟩⟩
  · intro ⟨⟨s, hs, hx⟩, hdefault⟩
    -- Any name but that for the defaults makes its request count.
    by_cases heq : x = defaultTrait
    · exact heq ▸ hdefault heq
    · refine ⟨s, mem_countedOf hs ?_, hx⟩
      simpa [onlyDefault] using ⟨x, hx, heq⟩

/-- A record has every name that is asked for, but perhaps not that for the defaults: this one only
if there are no explicit requests, or one that counts has it. -/
theorem mem_recordedFrom (requests : List (Option Names)) (x : String) :
    x ∈ (recordedFrom requests).toList ↔
      x ∈ (requestedUnion requests).toList ∧
        (x = defaultTrait → requests.reduceOption = [] ∨
          ∃ s ∈ countedOf requests.reduceOption, defaultTrait ∈ s.toList) := by
  unfold recordedFrom requestedUnion
  cases hexplicit : requests.reduceOption with
  | nil => simp
  | cons s sets => simpa using mem_unionAll_countedOf (s :: sets) x

/-- Whether the name for the defaults stays on record in every order of the explicit requests: it
is not asked for, or is asked for together with another name, or nothing else is asked for. -/
def KeepsDefault (sets : List Names) : Prop :=
  defaultTrait ∈ (unionAll sets).toList →
    (∃ s ∈ sets, defaultTrait ∈ s.toList ∧ onlyDefault s = false) ∨ ∀ s ∈ sets, s = defaultRequest

/-- If the name for the defaults is kept in every order, the sets that count have all names. -/
theorem KeepsDefault.unionAll_countedOf {sets : List Names} (h : KeepsDefault sets) :
    unionAll (countedOf sets) = unionAll sets := by
  apply KeyedSet.eq_of_mem_iff
  intro x
  rw [mem_unionAll_countedOf]
  refine and_iff_left_of_imp fun hx heq => ?_
  subst heq
  rcases h hx with ⟨s, hs, hmem, hother⟩ | hall
  · exact ⟨s, mem_countedOf hs hother, hmem⟩
  · -- All sets are passed over, and the last of them is taken.
    obtain ⟨s, hs, -⟩ := (mem_unionAll sets defaultTrait).1 hx
    have hne : sets ≠ [] := List.ne_nil_of_mem hs
    have hdrop : sets.dropWhile onlyDefault = [] :=
      List.dropWhile_eq_nil_iff.2 fun s hs => (onlyDefault_iff s).2 (.inr (hall s hs))
    refine ⟨sets.getLast hne, ?_, ?_⟩
    · unfold countedOf
      rw [hdrop]
      simp [List.getLast?_eq_some_getLast hne]
    · rw [hall _ (List.getLast_mem hne), mem_defaultRequest]

/-- Asking for the defaults alone again and again leaves them on record. -/
theorem foldl_mergeExplicit_default (sets : List Names) (h : ∀ s ∈ sets, s = defaultRequest) :
    sets.foldl mergeExplicit defaultRequest = defaultRequest := by
  induction sets with
  | nil => rfl
  | cons s sets ih =>
    rw [List.foldl_cons, mergeExplicit, if_pos rfl, h s (by simp)]
    exact ih fun s hs => h s (by simp [hs])

/-- The request is explicit and has the name for the defaults, or is not explicit. -/
private def asksDefault (request : Option Names) : Bool :=
  request.all fun names => names.contains defaultTrait

/-- If the name for the defaults is not kept, it is lost when all requests for the defaults come
first. -/
theorem exists_perm_of_not_keepsDefault (requests : List (Option Names))
    (h : ¬ KeepsDefault requests.reduceOption) :
    ∃ requests', requests'.Perm requests ∧ defaultTrait ∉ (recordedFrom requests').toList := by
  unfold KeepsDefault at h
  push Not at h
  obtain ⟨-, halone, s, hs, hne⟩ := h
  -- All requests that have the name for the defaults come first; these have it alone.
  refine ⟨requests.filter asksDefault ++ requests.filter fun r => !asksDefault r,
    List.filter_append_perm asksDefault requests, ?_⟩
  have hfirst : ∀ t ∈ (requests.filter asksDefault).reduceOption, t = defaultRequest := by
    intro t ht
    obtain ⟨hmem, hasks⟩ := List.mem_filter.1 (List.reduceOption_mem_iff.1 ht)
    have hdefault : defaultTrait ∈ t.toList := SortedSet.contains_iff_mem.1 hasks
    have honly : onlyDefault t = true := by
      simpa using halone t (List.reduceOption_mem_iff.2 hmem) hdefault
    refine ((onlyDefault_iff t).1 honly).resolve_left fun hempty => ?_
    rw [hempty] at hdefault
    exact nomatch hdefault
  have hrest : ∀ t ∈ (requests.filter fun r => !asksDefault r).reduceOption,
      defaultTrait ∉ t.toList := by
    intro t ht hdefault
    obtain ⟨-, hasks⟩ := List.mem_filter.1 (List.reduceOption_mem_iff.1 ht)
    have : asksDefault (some t) = true := SortedSet.contains_iff_mem.2 hdefault
    rw [this] at hasks
    exact nomatch hasks
  -- Some request asks for something else, so there are others behind them.
  have hs' : s ∈ (requests.filter fun r => !asksDefault r).reduceOption := by
    have hmem := List.reduceOption_mem_iff.1 hs
    refine List.reduceOption_mem_iff.2 (List.mem_filter.2 ⟨hmem, ?_⟩)
    cases hasks : asksDefault (some s) with
    | false => rfl
    | true =>
      have hmem' := List.reduceOption_mem_iff.2 (List.mem_filter.2 ⟨hmem, hasks⟩)
      exact absurd (hfirst s hmem') hne
  -- The first of the other requests takes the place of the defaults.
  obtain ⟨t, rest, ht⟩ := List.exists_cons_of_ne_nil (List.ne_nil_of_mem hs')
  rw [recordedFrom_eq_foldl, List.reduceOption_append, List.foldl_append,
    foldl_mergeExplicit_default _ hfirst, ht, List.foldl_cons, mergeExplicit, if_pos rfl]
  rw [ht] at hrest
  intro hmem
  rcases mem_foldl_mergeExplicit rest t _ hmem with hmem | ⟨u, hu, hmem⟩
  · exact hrest t (by simp) hmem
  · exact hrest u (by simp [hu]) hmem

/-- Where the name for the defaults is kept, a record is what all requests ask for together. -/
theorem recordedFrom_of_keepsDefault (requests : List (Option Names))
    (h : KeepsDefault requests.reduceOption) :
    recordedFrom requests = requestedUnion requests := by
  unfold recordedFrom requestedUnion
  cases hexplicit : requests.reduceOption with
  | nil => rfl
  | cons s sets =>
    rw [hexplicit] at h
    exact h.unionAll_countedOf

/-- What requests ask for together does not depend on their order. -/
theorem requestedUnion_perm {requests requests' : List (Option Names)}
    (h : requests'.Perm requests) : requestedUnion requests' = requestedUnion requests := by
  have hexplicit : requests'.reduceOption.Perm requests.reduceOption := h.filterMap id
  unfold requestedUnion
  -- Without explicit requests there are none in the other order either.
  cases hs : requests.reduceOption with
  | nil => rw [hs, List.perm_nil] at hexplicit; rw [hexplicit]
  | cons s sets =>
    rw [hs] at hexplicit
    cases hs' : requests'.reduceOption with
    | nil => rw [hs', List.nil_perm] at hexplicit; exact nomatch hexplicit
    | cons s' sets' =>
      rw [hs'] at hexplicit
      exact KeyedSet.eq_of_mem_iff fun x => by simp only [mem_unionAll, hexplicit.mem_iff]

/-- A record is what all requests ask for together, whatever their order, exactly if the name for
the defaults is kept. -/
theorem recordOf_perm_iff (requests : List (Option Names)) (hne : requests ≠ []) :
    (∀ requests', requests'.Perm requests →
      recordOf requests' = some (requestedUnion requests)) ↔
      KeepsDefault requests.reduceOption := by
  have hrecord (requests' : List (Option Names)) (hperm : requests'.Perm requests) :
      recordOf requests' = some (recordedFrom requests') := by
    refine recordOf_eq requests' ?_
    intro heq
    subst heq
    exact hne (List.nil_perm.1 hperm)
  constructor
  · -- If the name is lost in some order, the record is no union in that order.
    intro hall
    by_contra hnot
    obtain ⟨requests', hperm, hlost⟩ := exists_perm_of_not_keepsDefault requests hnot
    have hdefault : defaultTrait ∈ (requestedUnion requests).toList := by
      unfold KeepsDefault at hnot
      push Not at hnot
      have hmem := hnot.1
      unfold requestedUnion
      cases hs : requests.reduceOption with
      | nil => simp
      | cons s sets => rw [hs] at hmem; exact hmem
    have heq := hall requests' hperm
    rw [hrecord requests' hperm] at heq
    rw [Option.some.inj heq] at hlost
    exact hlost hdefault
  · intro hkeeps requests' hperm
    have hexplicit : requests'.reduceOption.Perm requests.reduceOption := hperm.filterMap id
    -- Whether the name is kept depends on which requests there are, not on their order.
    have hkeeps' : KeepsDefault requests'.reduceOption := by
      unfold KeepsDefault at hkeeps ⊢
      simp only [mem_unionAll, hexplicit.mem_iff] at hkeeps ⊢
      exact hkeeps
    rw [hrecord requests' hperm, recordedFrom_of_keepsDefault requests' hkeeps',
      requestedUnion_perm hperm]

end ModuleGraph
