import ModuleGraph.FileTree
import ModuleGraph.Proofs.KeyedSet
import ModuleGraph.Proofs.List
import Mathlib.Data.List.Induction
import Mathlib.Data.List.Infix
import Mathlib.Data.List.TakeDrop

/-!
# Trees that calls have made

A directory is added with the places above it, from the place upwards, and the first one that is a
directory already ends this.  That leaves none of them out because the directories of a tree are
closed: with a directory, all places above it are directories (`Closed`).  Every call keeps this, in
whatever order calls are made, so a tree has the directories that the paths of the calls tell, and
the files that were added.

## Key results

- `Path.components_eq_nil_iff`, `Path.components_eq_root`: components of the empty path and the root
- `FileTree.contains_addUntilKnown`: where adding places until one is known adds all of them
- `FileTree.directories_madeBy`: the directories of a tree are closed, and which ones they are
- `FileTree.contains_files_madeBy`, `FileTree.mem_files_madeBy`: where files are, and their paths
- `FileTree.madeBy_holds`: the answers of a tree that calls have made
-/

namespace ModuleGraph

/-! ### Components of paths -/

namespace Path

/-- The components of a path are its start and what its pieces stand for. -/
theorem components_eq (p : Path) :
    p.components =
      (if p.isAbsolute then [.root]
        else if (Text.splitWhere (· == '/') p.text.toList).head? = some ['.'] then [.current]
        else []) ++
      (Text.splitWhere (· == '/') p.text.toList).filterMap componentOf? := rfl

/-- No piece stands for the root. -/
theorem componentOf?_ne_root (piece : List Char) : componentOf? piece ≠ some .root := by
  unfold componentOf?
  split
  · simp
  · split
    · simp
    · split <;> simp

/-- A piece that is passed over is empty or a point. -/
theorem componentOf?_eq_none {piece : List Char} (h : componentOf? piece = none) :
    piece = [] ∨ piece = ['.'] := by
  unfold componentOf? at h
  split at h
  · next hempty => exact .inl hempty
  · split at h
    · next hpoint => exact .inr hpoint
    · split at h <;> exact nomatch h

/-- A path that ends in the root is the root. -/
theorem components_eq_root {p : Path} (h : p.components.getLast? = some .root) :
    p.components = [.root] := by
  rw [components_eq] at h ⊢
  rcases List.eq_nil_or_concat
    ((Text.splitWhere (· == '/') p.text.toList).filterMap componentOf?) with
    hnames | ⟨front, last, hnames⟩
  · rw [hnames, List.append_nil] at h ⊢
    split at h
    · next habsolute => rw [if_pos habsolute]
    · split at h <;> exact nomatch h
  · -- The last component is what some piece stands for.
    rw [List.concat_eq_append] at hnames
    have hlast : last = .root := by
      rw [hnames, ← List.append_assoc, List.getLast?_concat] at h
      exact Option.some.inj h
    have hmem : last ∈ (Text.splitWhere (· == '/') p.text.toList).filterMap componentOf? := by
      rw [hnames]
      exact List.mem_append_right _ (List.mem_singleton_self last)
    obtain ⟨piece, -, hpiece⟩ := List.mem_filterMap.1 hmem
    exact absurd (hlast ▸ hpiece) (componentOf?_ne_root piece)

/-- Only the empty path has no components. -/
theorem components_eq_nil_iff {p : Path} : p.components = [] ↔ p.text = "" := by
  constructor
  · intro h
    rw [components_eq] at h
    obtain ⟨hstart, hnames⟩ := List.append_eq_nil_iff.1 h
    rw [← String.toList_eq_nil_iff]
    cases htext : p.text.toList with
    | nil => rfl
    | cons c rest =>
      have hc : c ≠ '/' := by
        rintro rfl
        simp [isAbsolute, htext] at hstart
      -- The first piece begins with `c`, so it is a point, and such a path begins with a component.
      obtain ⟨piece, pieces, hpieces⟩ : ∃ piece pieces,
          Text.splitWhere (· == '/') p.text.toList = (c :: piece) :: pieces := by
        rw [htext, Text.splitWhere, if_neg (by simpa using hc)]
        split
        · exact ⟨[], [], rfl⟩
        · next piece pieces _ => exact ⟨piece, pieces, rfl⟩
      have habsolute : p.isAbsolute = false := by
        simpa [isAbsolute, htext] using hc
      rw [hpieces, habsolute] at hstart
      rw [hpieces, List.filterMap_eq_nil_iff] at hnames
      rcases componentOf?_eq_none (hnames _ List.mem_cons_self) with hempty | hpoint
      · exact absurd hempty (List.cons_ne_nil c piece)
      · simp [hpoint] at hstart
  · intro h
    unfold components isAbsolute
    rw [h]
    rfl

end Path

namespace FileTree

/-! ### Calls -/

/-- A call that adds something to a tree. -/
inductive Call where
  | addFile (p : Path)
  | addDirectory (p : Path)

/-- The tree after the call. -/
def Call.apply (t : FileTree) : Call → FileTree
  | .addFile p => t.addFile p
  | .addDirectory p => t.addDirectory p

/-- The tree that calls make of the empty one. -/
def madeBy (calls : List Call) : FileTree := calls.foldl Call.apply empty

/-- The call makes a directory at the place. -/
def Call.Makes : Call → List Component → Prop
  | .addDirectory p, place => place ∈ ancestors p.components
  | .addFile p, place => place ∈ ancestors p.components ∧ place ≠ p.components

/-- The path is the first one that is given for its place when files are added. -/
def FirstAdded (calls : List Call) (p : Path) : Prop :=
  ∃ before after, calls = before ++ .addFile p :: after ∧
    ∀ q, .addFile q ∈ before → q.components ≠ p.components

/-- The directories above a directory are directories. -/
def Closed (known : SortedSet (List Component)) : Prop :=
  ∀ place, known.contains place = true → ∀ above ∈ ancestors place, known.contains above = true

/-- The last call is made on what the calls before it have made. -/
theorem madeBy_concat (calls : List Call) (c : Call) :
    madeBy (calls ++ [c]) = c.apply (madeBy calls) := by
  rw [madeBy, List.foldl_append]
  rfl

/-! ### Places and the places above them -/

/-- The places above a place and the place itself are its beginnings that are not empty. -/
theorem mem_ancestors {place above : List Component} :
    above ∈ ancestors place ↔ above <+: place ∧ above ≠ [] := by
  simp only [ancestors, List.mem_map, List.mem_range]
  constructor
  · rintro ⟨i, hi, rfl⟩
    refine ⟨List.take_prefix _ _, ?_⟩
    rw [ne_eq, List.take_eq_nil_iff]
    rintro (h | rfl)
    · omega
    · exact absurd hi (Nat.not_lt_zero i)
  · rintro ⟨hbelow, hne⟩
    have hpos := List.length_pos_iff.2 hne
    have hle := hbelow.length_le
    -- The beginning is what is left when as much is cut off at the end as it is shorter.
    refine ⟨place.length - above.length, by omega, ?_⟩
    rw [Nat.sub_sub_self hle]
    exact (List.prefix_iff_eq_take.1 hbelow).symm

/-- A place further up is above every place before it. -/
theorem pairwise_ancestors (place : List Component) :
    (ancestors place).Pairwise fun p q => q ∈ ancestors p ∧ q ≠ p := by
  rw [ancestors, List.pairwise_map]
  refine List.pairwise_lt_range.imp_of_mem fun {i j} hi hj hij => ?_
  rw [List.mem_range] at hi hj
  refine ⟨mem_ancestors.2 ⟨?_, ?_⟩, ?_⟩
  · exact List.take_prefix_take_left (by omega)
  · rw [ne_eq, List.take_eq_nil_iff]
    rintro (h | rfl)
    · omega
    · exact absurd hi (Nat.not_lt_zero i)
  · intro heq
    have hlen := congrArg List.length heq
    simp only [List.length_take] at hlen
    omega

/-! ### Adding directories -/

/-- If no place that is known has an unknown one behind it, adding places until one is known adds
all of them. -/
theorem contains_addUntilKnown {known : SortedSet (List Component)}
    {places : List (List Component)}
    (h : places.Pairwise fun p q =>
      (known.contains p = true → known.contains q = true) ∧ q ≠ p) {place : List Component} :
    (addUntilKnown known places).contains place = true ↔
      known.contains place = true ∨ place ∈ places := by
  induction places generalizing known with
  | nil => simp [addUntilKnown]
  | cons p places ih =>
    obtain ⟨hp, hrest⟩ := List.pairwise_cons.1 h
    rw [addUntilKnown]
    split
    · next hknown =>
      refine ⟨.inl, fun hplace => hplace.elim id fun hmem => ?_⟩
      rcases List.mem_cons.1 hmem with rfl | hmem
      · exact hknown
      · exact (hp place hmem).1 hknown
    · next hnew =>
      rw [ih, KeyedSet.contains_insert, List.mem_cons, id, or_comm (a := place = p), or_assoc]
      -- The place that is added is none of those that come behind it.
      refine hrest.imp_of_mem fun {q r} hq hr hqr => ⟨fun hqknown => ?_, hqr.2⟩
      refine KeyedSet.contains_insert.2 (.inr (hqr.1 ?_))
      exact (KeyedSet.contains_insert.1 hqknown).resolve_left (hp q hq).2

variable {t : FileTree} {place above : List Component}

/-- Adding a directory adds it and the places above it. -/
theorem contains_addDirectoryAt (h : Closed t.directories) :
    (t.addDirectoryAt place).directories.contains above = true ↔
      t.directories.contains above = true ∨ above ∈ ancestors place :=
  contains_addUntilKnown ((pairwise_ancestors place).imp fun {p _} hpq =>
    ⟨fun hp => h p hp _ hpq.1, hpq.2⟩)

/-- The place above a path has the places above it that the path has, except itself. -/
theorem makes_addFile (p : Path) :
    (Call.addFile p).Makes place ↔
      ∃ parent, above? p.components = some parent ∧ place ∈ ancestors parent := by
  rw [Call.Makes]
  rcases List.eq_nil_or_concat p.components with hnil | ⟨front, last, hconcat⟩
  · -- The empty path.
    rw [hnil]
    simp [ancestors, above?]
  · rw [List.concat_eq_append] at hconcat
    by_cases hroot : last = .root
    · -- The root: nothing is above it.
      have honly : p.components = [.root] := Path.components_eq_root (by simp [hconcat, hroot])
      have hnone : above? [.root] = none := rfl
      rw [honly, hnone, mem_ancestors]
      simp only [List.prefix_cons_iff, List.prefix_nil]
      grind
    · have hparent : above? (front ++ [last]) = some front := by
        cases last with
        | root => exact absurd rfl hroot
        | _ => simp [above?]
      -- Any other path: what is above it is a proper prefix, so a prefix of the front.
      have hne : ∀ place : List Component, place <+: front → place ≠ front ++ [last] := by
        rintro place hbelow rfl
        have hle := hbelow.length_le
        rw [List.length_append, List.length_singleton] at hle
        omega
      rw [hconcat, hparent]
      simp only [Option.some.injEq, exists_eq_left', mem_ancestors, List.prefix_concat_iff]
      grind

/-- With a place, a call makes the places above it. -/
theorem Call.Makes.of_ancestor {c : Call} (h : c.Makes place) (habove : above ∈ ancestors place) :
    c.Makes above := by
  obtain ⟨hbelow, hne⟩ := mem_ancestors.1 habove
  cases c with
  | addDirectory p => exact mem_ancestors.2 ⟨hbelow.trans (mem_ancestors.1 h).1, hne⟩
  | addFile p =>
    obtain ⟨hplace, hproper⟩ := h
    have hplace := (mem_ancestors.1 hplace).1
    refine ⟨mem_ancestors.2 ⟨hbelow.trans hplace, hne⟩, fun heq => hproper ?_⟩
    -- Between a path and itself there is nothing else.
    exact hplace.eq_of_length_le (heq ▸ hbelow.length_le)

/-- Adding a file adds its parent as a directory, and the file unless there is one at its place. -/
theorem addFile_eq (t : FileTree) (p : Path) :
    t.addFile p =
      { files := if t.files.contains p.components then t.files
          else t.files.insert (p.components, p)
        directories := ((above? p.components).elim t t.addDirectoryAt).directories } := by
  -- Adding the parent changes no files, so it does not matter for the second step.
  have hput (t' : FileTree) (hfiles : t'.files = t.files) :
      (if t'.files.contains p.components then t'
        else { t' with files := t'.files.insert (p.components, p) }) =
      { files := if t.files.contains p.components then t.files
          else t.files.insert (p.components, p)
        directories := t'.directories } := by
    rw [← hfiles]
    split <;> rfl
  cases hparent : above? p.components with
  | none =>
    simp only [addFile, hparent]
    exact hput t rfl
  | some parent =>
    simp only [addFile, hparent]
    exact hput (t.addDirectoryAt parent) rfl

/-- After a call, the directories are those from before and those that the call makes. -/
theorem contains_directories_apply (h : Closed t.directories) (c : Call) :
    (c.apply t).directories.contains place = true ↔
      t.directories.contains place = true ∨ c.Makes place := by
  cases c with
  | addDirectory p => exact contains_addDirectoryAt h
  | addFile p =>
    rw [makes_addFile, Call.apply, addFile_eq]
    cases above? p.components with
    | none => simp
    | some parent => simpa using contains_addDirectoryAt h

/-- A call keeps the places above directories directories. -/
theorem Closed.apply (h : Closed t.directories) (c : Call) : Closed (c.apply t).directories := by
  intro place hplace above habove
  rw [contains_directories_apply h] at hplace ⊢
  exact hplace.imp (fun hold => h place hold above habove) fun hmakes => hmakes.of_ancestor habove

/-- The directories of a tree that calls have made are those that some call makes, with the places
above them. -/
theorem directories_madeBy (calls : List Call) :
    Closed (madeBy calls).directories ∧ ∀ place,
      (madeBy calls).directories.contains place = true ↔ ∃ c ∈ calls, c.Makes place := by
  induction calls using List.reverseRecOn with
  | nil =>
    refine ⟨fun place hplace => (nomatch hplace), fun place => ?_⟩
    exact ⟨fun hplace => (nomatch hplace), fun ⟨c, hc, _⟩ => (nomatch hc)⟩
  | append_singleton calls c ih =>
    obtain ⟨hclosed, hmem⟩ := ih
    rw [madeBy_concat]
    refine ⟨hclosed.apply c, fun place => ?_⟩
    rw [contains_directories_apply hclosed, hmem]
    simp [or_and_right, exists_or]

/-! ### Adding files -/

/-- After a call, there are files where there were before and where the call adds one. -/
theorem contains_files_apply (c : Call) :
    (c.apply t).files.contains place = true ↔
      t.files.contains place = true ∨ ∃ p, c = .addFile p ∧ p.components = place := by
  cases c with
  | addDirectory p => simp [Call.apply, addDirectory, addDirectoryAt]
  | addFile p =>
    rw [Call.apply, addFile_eq]
    simp only [Call.addFile.injEq, exists_eq_left']
    split
    · next hknown => exact (or_iff_left_of_imp fun heq => heq ▸ hknown).symm
    · rw [KeyedSet.contains_insert, or_comm, eq_comm (a := place)]

/-- A call lists a file at a new place under the path that it adds, and leaves the others alone. -/
theorem mem_files_apply (c : Call) {entry : List Component × Path} :
    entry ∈ (c.apply t).files.toList ↔
      entry ∈ t.files.toList ∨ (c = .addFile entry.2 ∧ ¬ t.files.contains entry.1 = true) ∧
        entry.2.components = entry.1 := by
  obtain ⟨place, q⟩ := entry
  cases c with
  -- Directories list no file.
  | addDirectory p => simp [Call.apply, addDirectory, addDirectoryAt]
  | addFile p =>
    rw [Call.apply, addFile_eq]
    simp only [Call.addFile.injEq]
    split
    · next hknown =>
      -- The place has a file: nothing is added.
      refine (or_iff_left ?_).symm
      rintro ⟨⟨rfl, hnew⟩, rfl⟩
      exact hnew hknown
    · next hnew =>
      rw [KeyedSet.mem_insert, Prod.mk.injEq]
      constructor
      · rintro (⟨rfl, rfl⟩ | ⟨hmem, -⟩)
        · exact .inr ⟨⟨rfl, hnew⟩, rfl⟩
        · exact .inl hmem
      · -- Inserting puts out the entry with the same place, but there was none.
        rintro (hmem | ⟨⟨rfl, -⟩, rfl⟩)
        · refine .inr ⟨hmem, ?_⟩
          rintro rfl
          exact hnew (KeyedSet.contains_iff.2 ⟨_, hmem, rfl⟩)
        · exact .inl ⟨rfl, rfl⟩

/-- There are files where they were added. -/
theorem contains_files_madeBy (calls : List Call) :
    (madeBy calls).files.contains place = true ↔
      ∃ p, .addFile p ∈ calls ∧ p.components = place := by
  induction calls using List.reverseRecOn with
  | nil => exact ⟨fun hplace => (nomatch hplace), fun ⟨p, hp, _⟩ => (nomatch hp)⟩
  | append_singleton calls c ih =>
    rw [madeBy_concat, contains_files_apply, ih]
    simp only [List.mem_append, List.mem_singleton, or_and_right, exists_or, eq_comm (a := c)]

/-- The first path for a place is still the first one after another call, which gives one more if it
adds a file where none was added before. -/
theorem firstAdded_concat {calls : List Call} {c : Call} {p : Path} :
    FirstAdded (calls ++ [c]) p ↔
      c = .addFile p ∧ (∀ q, .addFile q ∈ calls → q.components ≠ p.components) ∨
        FirstAdded calls p := by
  rw [FirstAdded, List.exists_split_concat, eq_comm (a := Call.addFile p)]
  rfl

/-- Each file is listed under the path that was given first for its place. -/
theorem mem_files_madeBy (calls : List Call) {entry : List Component × Path} :
    entry ∈ (madeBy calls).files.toList ↔
      FirstAdded calls entry.2 ∧ entry.2.components = entry.1 := by
  induction calls using List.reverseRecOn with
  | nil =>
    exact ⟨fun hentry => (nomatch hentry), fun h => absurd h.1 List.not_exists_split_nil⟩
  | append_singleton calls c ih =>
    rw [madeBy_concat, mem_files_apply, ih, firstAdded_concat, contains_files_madeBy,
      ← or_and_right, or_comm]
    refine and_congr_left fun hplace => or_congr_left (and_congr_right fun _ => ?_)
    rw [← hplace]
    exact not_exists.trans (forall_congr' fun q => not_and)

/-! ### What calls make -/

/-- A path below another one has that one's place among the places above its own. -/
theorem components_mem_ancestors {p q : Path} :
    q.components ∈ ancestors p.components ↔ q.text ≠ "" ∧ p.isBelow q = true := by
  rw [mem_ancestors, Path.isBelow, List.isPrefixOf_iff_prefix, ne_eq, Path.components_eq_nil_iff,
    and_comm]

/-- The files below a path are listed by their places. -/
theorem components_filesBelow (calls : List Call) (root : Path) :
    ((madeBy calls).filesBelow root).map Path.components =
      ((madeBy calls).files.toList.filter fun entry =>
        root.components.isPrefixOf entry.1).map Prod.fst := by
  rw [filesBelow, List.map_map]
  refine List.map_congr_left fun entry hentry => ?_
  exact ((mem_files_madeBy calls).1 (List.mem_filter.1 hentry).1).2

/-- What calls have added is there, and nothing else.  A path that is not empty is a directory
exactly if a path at or below it was added as a directory or a path below it was added as a file;
it is a file exactly if it was added as one.  The files at or below a path are listed in path
order, once each, under the path with which each was added first. -/
theorem madeBy_holds (calls : List Call) :
    (∀ q, (madeBy calls).view.isDirectory q = true ↔ q.text ≠ "" ∧
      ((∃ p, .addDirectory p ∈ calls ∧ p.isBelow q = true) ∨
        ∃ p, .addFile p ∈ calls ∧ p.isBelow q = true ∧ p.components ≠ q.components)) ∧
      (∀ q, (madeBy calls).view.isFile q = true ↔
        ∃ p, .addFile p ∈ calls ∧ p.components = q.components) ∧
      ∀ root, ∃ files, (madeBy calls).view.filesBelow? root = some files ∧
        (files.map Path.components).Pairwise (fun a b => compare a b = .lt) ∧
        (∀ place, place ∈ files.map Path.components ↔ root.components <+: place ∧
          ∃ p, .addFile p ∈ calls ∧ p.components = place) ∧
        ∀ p ∈ files, FirstAdded calls p := by
  refine ⟨fun q => ?_, fun q => contains_files_madeBy calls, fun root =>
    ⟨(madeBy calls).filesBelow root, rfl, ?_, fun place => ?_, fun p hp => ?_⟩⟩
  · -- Directories.
    refine ((directories_madeBy calls).2 q.components).trans ?_
    constructor
    · rintro ⟨p | p, hcall, hmakes⟩
      · obtain ⟨hne, hbelow⟩ := components_mem_ancestors.1 hmakes.1
        exact ⟨hne, .inr ⟨p, hcall, hbelow, Ne.symm hmakes.2⟩⟩
      · obtain ⟨hne, hbelow⟩ := components_mem_ancestors.1 hmakes
        exact ⟨hne, .inl ⟨p, hcall, hbelow⟩⟩
    · rintro ⟨hne, ⟨p, hcall, hbelow⟩ | ⟨p, hcall, hbelow, hproper⟩⟩
      · exact ⟨_, hcall, components_mem_ancestors.2 ⟨hne, hbelow⟩⟩
      · exact ⟨_, hcall, components_mem_ancestors.2 ⟨hne, hbelow⟩, Ne.symm hproper⟩
  · -- Files at or below a path: their order.
    rw [components_filesBelow, List.pairwise_map]
    exact (madeBy calls).files.ascending.filter _
  · -- Which of them are listed.
    rw [components_filesBelow]
    simp only [List.mem_map, List.mem_filter, List.isPrefixOf_iff_prefix]
    rw [← contains_files_madeBy, KeyedSet.contains_iff]
    constructor
    · rintro ⟨entry, ⟨hentry, hbelow⟩, rfl⟩
      exact ⟨hbelow, entry, hentry, rfl⟩
    · rintro ⟨hbelow, entry, hentry, rfl⟩
      exact ⟨entry, ⟨hentry, hbelow⟩, rfl⟩
  · -- And under which path.
    obtain ⟨entry, hentry, rfl⟩ := List.mem_map.1 hp
    exact ((mem_files_madeBy calls).1 (List.mem_filter.1 hentry).1).1

/-- A redundant separator and a point between the pieces of a path make no other places. -/
example :
    (madeBy [.addFile ⟨"/src//app/./main.swift"⟩]).view.isDirectory ⟨"/src/app/"⟩ = true ∧
      (madeBy [.addFile ⟨"/src//app/./main.swift"⟩]).view.isFile ⟨"/src/app/main.swift"⟩ =
        true := by
  decide +kernel

end FileTree

end ModuleGraph
