import ModuleGraph.Origin
import ModuleGraph.Text.Ascii
import ModuleGraph.Proofs.Lowercase
import ModuleGraph.Proofs.Text

/-!
# The spellings of a repository

A repository is a host and a path on it.  It is written with or without a scheme, with a user, or
as the argument of a remote shell; a `.git` and any number of slashes may follow, and letters may
be small or capital.  Its canonical location is host and path in small letters.

One spelling comes out otherwise.  Where no scheme is written, a colon at the end of the path and
two slashes behind it are taken for the end of a scheme, and nothing of the location is left.

## Key results

- `Location.cutThrough?_path`: where `://` can stand behind a host
- `Location.bare_write`: scheme and user are dropped, and nothing else
- `Location.canonical_spelling`: what every spelling of a repository comes to
-/

namespace ModuleGraph.Location

open Text

/-! ### Repositories and how they are written -/

/-- A character of a host, a path or a user: an ASCII one that is not blank. -/
def Plain (c : Char) : Prop := c.toNat < 128 ∧ isBlank c = false

instance (c : Char) : Decidable (Plain c) := inferInstanceAs (Decidable (_ ∧ _))

/-- The mark at the end of a scheme. -/
def schemeMark : List Char := [':', '/', '/']

/-- The user of a remote shell, in front of the host. -/
def shellLead : List Char := ['g', 'i', 't', '@']

/-- The ending of a repository's directory. -/
def gitEnding : List Char := ['.', 'g', 'i', 't']

/-- A repository: a host, and a path on it. -/
structure Repository where
  host : List Char
  path : List Char
  host_plain : ∀ c ∈ host, Plain c
  host_marks : '/' ∉ host ∧ ':' ∉ host ∧ '@' ∉ host
  path_plain : ∀ c ∈ path, Plain c
  path_ne_nil : path ≠ []
  path_head : path.head? ≠ some '/'
  path_last : path.getLast? ≠ some '/'
  path_mark : ¬ schemeMark <:+: path
  path_git : ¬ gitEnding <:+ path.map Char.toLower

/-- A scheme.  Letters, in ASCII or not, are neither colons nor blank. -/
structure Scheme where
  text : List Char
  no_colon : ':' ∉ text
  not_blank : ∀ c ∈ text, isBlank c = false

/-- Somebody who fetches a repository. -/
structure User where
  text : List Char
  plain : ∀ c ∈ text, Plain c
  marks : '/' ∉ text ∧ '@' ∉ text

/-- A way to write a repository. -/
inductive Spelling where
  /-- Host and path alone. -/
  | bare
  /-- As a remote shell wants it, with a colon between host and path. -/
  | shell
  | url (scheme : Scheme)
  | userUrl (scheme : Scheme) (user : User)

namespace Spelling

/-- The name of the scheme, if one is written. -/
def scheme : Spelling → List Char
  | bare | shell => []
  | url scheme | userUrl scheme _ => scheme.text

/-- What stands between the name of the scheme and the host. -/
def lead : Spelling → List Char
  | bare => []
  | shell => shellLead
  | url _ => schemeMark
  | userUrl _ user => schemeMark ++ (user.text ++ ['@'])

/-- What stands between host and path. -/
def joint : Spelling → Char
  | shell => ':'
  | bare | url _ | userUrl .. => '/'

/-- Whether a scheme is written. -/
def HasScheme : Spelling → Prop
  | bare | shell => False
  | url _ | userUrl .. => True

instance (s : Spelling) : Decidable s.HasScheme := by
  cases s <;> unfold HasScheme <;> infer_instance

end Spelling

/-- What may follow the path: one `.git`, and slashes. -/
def ending (git : Bool) (slashes : Nat) : List Char :=
  (if git then gitEnding else []) ++ List.replicate slashes '/'

namespace Repository
variable (r : Repository)

/-- Host and path. -/
def name : List Char := r.host ++ '/' :: r.path

/-- A spelling of the repository behind the name of the scheme. -/
def behindScheme (s : Spelling) (git : Bool) (slashes : Nat) : List Char :=
  s.lead ++ (r.host ++ s.joint :: (r.path ++ ending git slashes))

/-- A spelling of the repository. -/
def write (s : Spelling) (git : Bool) (slashes : Nat) : List Char :=
  s.scheme ++ r.behindScheme s git slashes

/-- Whether the end of the path is taken for the end of a scheme: there is no other, the path ends
with a colon, and at least two slashes follow. -/
def EndsLikeScheme (s : Spelling) (git : Bool) (slashes : Nat) : Prop :=
  ¬ s.HasScheme ∧ git = false ∧ r.path.getLast? = some ':' ∧ 2 ≤ slashes

instance (s : Spelling) (git : Bool) (slashes : Nat) :
    Decidable (r.EndsLikeScheme s git slashes) := inferInstanceAs (Decidable (_ ∧ _))

end Repository

/-! ### Small letters of a repository -/

/-- A letter is plain in either case. -/
theorem Plain.toLower {c : Char} (h : Plain c) : Plain c.toLower := by
  have hascii : ∀ n < 128, Plain (Char.ofNat n) → Plain (Char.ofNat n).toLower := by
    decide +kernel
  exact forall_ascii (fun c => Plain c → Plain c.toLower) hascii h.1 h

/-- The repository in small letters. -/
def Repository.lower (r : Repository) : Repository where
  host := r.host.map Char.toLower
  path := r.path.map Char.toLower
  host_plain := List.forall_mem_map.2 fun c hc => (r.host_plain c hc).toLower
  host_marks := by
    rw [mem_map_toLower_iff (by decide), mem_map_toLower_iff (by decide),
      mem_map_toLower_iff (by decide)]
    exact r.host_marks
  path_plain := List.forall_mem_map.2 fun c hc => (r.path_plain c hc).toLower
  path_ne_nil := fun hnil => r.path_ne_nil (List.map_eq_nil_iff.1 hnil)
  path_head := by
    rw [List.head?_map, ne_eq, map_toLower_eq_some_iff (by decide)]
    exact r.path_head
  path_last := by
    rw [List.getLast?_map, ne_eq, map_toLower_eq_some_iff (by decide)]
    exact r.path_last
  path_mark := by
    rw [List.infix_map_iff]
    rintro ⟨mark, hmark, heq⟩
    rw [(map_toLower_eq_iff (forall_of_all (by decide))).1 heq.symm] at hmark
    exact r.path_mark hmark
  path_git := by
    rw [List.map_map, show Char.toLower ∘ Char.toLower = Char.toLower from funext toLower_toLower]
    exact r.path_git

/-- A user whose name is written in small letters. -/
def User.lower (u : User) : User where
  text := u.text.map Char.toLower
  plain := List.forall_mem_map.2 fun c hc => (u.plain c hc).toLower
  marks := by
    rw [mem_map_toLower_iff (by decide), mem_map_toLower_iff (by decide)]
    exact u.marks

/-- The spelling with the user in small letters. -/
def Spelling.lower : Spelling → Spelling
  | bare => bare
  | shell => shell
  | url scheme => url scheme
  | userUrl scheme user => userUrl scheme user.lower

/-- Behind the scheme, the small letters of a spelling spell the small letters. -/
theorem Repository.map_toLower_behindScheme (r : Repository) (s : Spelling) (git : Bool)
    (slashes : Nat) :
    (r.behindScheme s git slashes).map Char.toLower =
      r.lower.behindScheme s.lower git slashes := by
  have hlead : s.lead.map Char.toLower = s.lower.lead := by
    cases s with
    | bare | shell | url scheme => rfl
    | userUrl scheme user => simp [Spelling.lead, Spelling.lower, User.lower, schemeMark]
  have hjoint : s.joint.toLower = s.lower.joint := by
    cases s <;> rfl
  have hending : (ending git slashes).map Char.toLower = ending git slashes := by
    cases git <;> simp [ending, gitEnding]
  simp [behindScheme, Repository.lower, hlead, hjoint, hending]

/-! ### Dropping scheme and user -/

/-- A scheme is dropped with its mark. -/
theorem dropScheme_of_mark {cs rest : List Char} (h : cutThrough? schemeMark cs = some rest) :
    dropScheme cs = rest := by
  rw [schemeMark] at h
  rw [dropScheme, h]

/-- Without a scheme, the user of a remote shell is dropped. -/
theorem dropScheme_of_shell {cs rest : List Char} (h : cutThrough? schemeMark cs = none)
    (hshell : cs = shellLead ++ rest) : dropScheme cs = replaceFirst ':' '/' rest := by
  rw [← stripStart?_eq_some, shellLead] at hshell
  rw [schemeMark] at h
  rw [dropScheme, h, hshell]

/-- Where there is neither, nothing is dropped. -/
theorem dropScheme_of_neither {cs : List Char} (h : cutThrough? schemeMark cs = none)
    (hshell : ¬ shellLead <+: cs) : dropScheme cs = cs := by
  have hstrip : stripStart? shellLead cs = none := by
    rw [Option.eq_none_iff_forall_ne_some]
    exact fun rest h => hshell ⟨rest, (stripStart?_eq_some.1 h).symm⟩
  rw [schemeMark] at h
  rw [shellLead] at hstrip
  rw [dropScheme, h, hstrip]

/-- A text whose first `@` stands behind a slash is none for a remote shell. -/
theorem not_shellLead_prefix {before : List Char} (hat : '@' ∉ before) (rest : List Char) :
    ¬ shellLead <+: before ++ '/' :: rest := by
  rintro ⟨rest', heq⟩
  -- The lead of a remote shell has an `@` and no slash, so it cannot end on either side of one.
  rcases List.append_eq_append_iff.1 heq with ⟨front, rfl, -⟩ | ⟨back, hlead, hrest⟩
  · exact hat (List.mem_append_left _ (by decide))
  · cases back with
    | nil =>
      rw [List.append_nil] at hlead
      exact hat (hlead ▸ by decide)
    | cons c back =>
      obtain ⟨rfl, -⟩ := List.cons.inj hrest
      have hmem : '/' ∈ shellLead := hlead ▸ List.mem_append_right _ (List.mem_cons_self ..)
      exact absurd hmem (by decide)

/-- Behind a host, `://` can only stand where the path ends with a colon and two slashes follow. -/
theorem cutThrough?_path {path rest : List Char} (hne : path ≠ [])
    (hlast : path.getLast? ≠ some '/') (hmark : ¬ schemeMark <:+: path) (hrest : ':' ∉ rest) :
    cutThrough? schemeMark (path ++ rest) =
      if path.getLast? = some ':' then stripStart? ['/', '/'] rest else none := by
  induction path with
  | nil => exact absurd rfl hne
  | cons c path ih =>
    cases path with
    | nil =>
      by_cases hc : c = ':'
      · subst hc
        exact (congrArg (Option.or _) (cutThrough?_eq_none hrest)).trans (Option.or_none ..)
      · rw [if_neg (by simpa using hc)]
        apply cutThrough?_eq_none
        simp [hrest, Ne.symm hc]
    | cons d path =>
      -- The mark cannot begin here: it is not in the path, and the path does not end with a slash.
      have hhere : stripStart? schemeMark (c :: d :: path ++ rest) = none := by
        rw [Option.eq_none_iff_forall_ne_some]
        intro rest' hstrip
        have heq := stripStart?_eq_some.1 hstrip
        simp only [schemeMark, List.cons_append, List.nil_append, List.cons.injEq] at heq
        obtain ⟨rfl, rfl, heq⟩ := heq
        cases path with
        | nil => exact hlast rfl
        | cons e path =>
          simp only [List.cons_append, List.cons.injEq] at heq
          obtain ⟨rfl, -⟩ := heq
          exact hmark ⟨[], path, rfl⟩
      have hbelow := ih (List.cons_ne_nil d path)
        (by rwa [List.getLast?_cons_cons] at hlast)
        (fun hin => hmark (List.IsInfix.trans hin (List.suffix_cons c _).isInfix))
      rw [List.cons_append, cutThrough?, ← List.cons_append, hhere, Option.none_or, hbelow,
        List.getLast?_cons_cons]

/-- The end of a user is sought as far as the first `@` or slash. -/
theorem dropWhile_user {before : List Char} (hslash : '/' ∉ before) (hat : '@' ∉ before)
    {c : Char} (hc : c = '@' ∨ c = '/') (rest : List Char) :
    (before ++ c :: rest).dropWhile (fun c => c != '@' && c != '/') = c :: rest := by
  rw [List.dropWhile_append_of_pos]
  · rcases hc with rfl | rfl <;> rfl
  · intro d hd
    simp only [Bool.and_eq_true, bne_iff_ne]
    exact ⟨fun h => hat (h ▸ hd), fun h => hslash (h ▸ hd)⟩

/-- No user stands before a slash that comes first. -/
theorem dropUser_append_slash {before : List Char} (hslash : '/' ∉ before) (hat : '@' ∉ before)
    (rest : List Char) : dropUser (before ++ '/' :: rest) = before ++ '/' :: rest := by
  rw [dropUser, dropWhile_user hslash hat (.inr rfl)]
  rfl

/-- What stands before the first `@` is dropped, unless there is a slash in it. -/
theorem dropUser_append_at {before : List Char} (hslash : '/' ∉ before) (hat : '@' ∉ before)
    (rest : List Char) : dropUser (before ++ '@' :: rest) = rest := by
  rw [dropUser, dropWhile_user hslash hat (.inl rfl)]
  rfl

/-- A location in small letters without its scheme and its user. -/
def bare (small : List Char) : List Char := dropUser (dropScheme small)

/-- What is left over of slashes after two of them. -/
theorem stripStart?_ending (git : Bool) (slashes : Nat) :
    stripStart? ['/', '/'] (ending git slashes) =
      if git = false ∧ 2 ≤ slashes then some (List.replicate (slashes - 2) '/') else none := by
  cases git with
  | true => rfl
  | false =>
    match slashes with
    | 0 | 1 => rfl
    | n + 2 => simp [ending, List.replicate_succ, stripStart?]

/-- There are no colons in what follows the path. -/
theorem colon_not_mem_ending (git : Bool) (slashes : Nat) : ':' ∉ ending git slashes := by
  cases git <;> simp [ending, gitEnding, List.mem_replicate]

/-- Slashes alone have no user in front. -/
theorem dropUser_replicate (n : Nat) : dropUser (List.replicate n '/') = List.replicate n '/' := by
  cases n <;> rfl

section
variable (r : Repository) (s : Spelling) (git : Bool) (slashes : Nat)

/-- Where no scheme is written, a spelling is cut if its end looks like the end of a scheme. -/
theorem cutThrough?_behindScheme (hs : ¬ s.HasScheme) :
    cutThrough? schemeMark (r.behindScheme s git slashes) =
      if r.EndsLikeScheme s git slashes then some (List.replicate (slashes - 2) '/')
      else none := by
  have hlead : ':' ∉ s.lead ++ r.host := by
    have hhost := r.host_marks.2.1
    cases s with
    | bare => exact hhost
    | shell => simpa [Spelling.lead, shellLead] using hhost
    | url | userUrl => exact absurd trivial hs
  -- A colon between host and path does not begin the mark: no slash follows it.
  have hjoint : stripStart? schemeMark (s.joint :: (r.path ++ ending git slashes)) = none := by
    rw [Option.eq_none_iff_forall_ne_some]
    intro rest hstrip
    have heq := stripStart?_eq_some.1 hstrip
    have hhead := r.path_head
    cases hpath : r.path with
    | nil => exact r.path_ne_nil hpath
    | cons c path =>
      rw [hpath] at heq hhead
      simp only [schemeMark, List.cons_append, List.cons.injEq] at heq
      exact hhead (congrArg some heq.2.1)
  rw [Repository.behindScheme, ← List.append_assoc, schemeMark,
    cutThrough?_append_of_not_mem hlead, ← schemeMark, cutThrough?, hjoint, Option.none_or,
    cutThrough?_path r.path_ne_nil r.path_last r.path_mark (colon_not_mem_ending git slashes),
    stripStart?_ending]
  simp only [Repository.EndsLikeScheme, hs, not_false_eq_true, true_and]
  split <;> simp_all

/-- Scheme and user are dropped, and nothing else, unless the end looks like the end of a scheme. -/
theorem bare_write {x : List Char} (hx : ':' ∉ x) (hscheme : ¬ s.HasScheme → x = []) :
    bare (x ++ r.behindScheme s git slashes) =
      if r.EndsLikeScheme s git slashes then List.replicate (slashes - 2) '/'
      else r.name ++ ending git slashes := by
  obtain ⟨hslash, hcolon, hat⟩ := r.host_marks
  have hname : dropUser (r.name ++ ending git slashes) = r.name ++ ending git slashes := by
    rw [Repository.name, List.append_assoc, List.cons_append]
    exact dropUser_append_slash hslash hat _
  by_cases hs : s.HasScheme
  · rw [if_neg fun h => h.1 hs, bare]
    -- Behind the mark of the scheme stand host and path, with or without a user in front.
    cases s with
    | bare | shell => exact absurd hs id
    | url scheme =>
      have hcut : cutThrough? schemeMark (x ++ r.behindScheme (.url scheme) git slashes) =
          some (r.name ++ ending git slashes) := by
        rw [schemeMark, cutThrough?_append_of_not_mem hx, Repository.name, List.append_assoc]
        exact cutThrough?_cons_append ..
      rw [dropScheme_of_mark hcut, hname]
    | userUrl scheme user =>
      have hcut : cutThrough? schemeMark (x ++ r.behindScheme (.userUrl scheme user) git slashes) =
          some (user.text ++ '@' :: (r.name ++ ending git slashes)) := by
        rw [schemeMark, cutThrough?_append_of_not_mem hx, Repository.name, Repository.behindScheme]
        simp only [Spelling.lead, Spelling.joint, List.append_assoc, List.cons_append,
          List.nil_append]
        exact cutThrough?_cons_append ..
      rw [dropScheme_of_mark hcut, dropUser_append_at user.marks.1 user.marks.2]
  · obtain rfl := hscheme hs
    have hcut := cutThrough?_behindScheme r s git slashes hs
    rw [List.nil_append, bare]
    split
    · next hend =>
      rw [if_pos hend] at hcut
      rw [dropScheme_of_mark hcut, dropUser_replicate]
    · next hend =>
      rw [if_neg hend] at hcut
      cases s with
      | url | userUrl => exact absurd trivial hs
      | bare =>
        have hshell : ¬ shellLead <+: r.behindScheme .bare git slashes :=
          not_shellLead_prefix hat _
        rw [dropScheme_of_neither hcut hshell]
        have hbare : r.behindScheme .bare git slashes = r.name ++ ending git slashes := by
          simp [Repository.behindScheme, Repository.name, Spelling.lead, Spelling.joint]
        rw [hbare, hname]
      | shell =>
        rw [dropScheme_of_shell hcut rfl]
        have hfirst := replaceFirst_append (d := '/') hcolon (r.path ++ ending git slashes)
        have hslashed : r.host ++ '/' :: (r.path ++ ending git slashes) =
            r.name ++ ending git slashes := by
          simp [Repository.name]
        rw [show Spelling.joint .shell = ':' from rfl, hfirst, hslashed, hname]

/-! ### Slashes and `.git` at the end -/

/-- One `.git` is dropped at the end. -/
theorem dropGit_append (cs : List Char) : dropGit (cs ++ gitEnding) = cs := by
  have hstrip : stripEnd? gitEnding (cs ++ gitEnding) = some cs := stripEnd?_eq_some.2 rfl
  rw [gitEnding] at hstrip ⊢
  rw [dropGit, hstrip]
  rfl

/-- Without `.git` at the end, nothing is dropped. -/
theorem dropGit_of_not_suffix {cs : List Char} (h : ¬ gitEnding <:+ cs) : dropGit cs = cs := by
  have hstrip : stripEnd? gitEnding cs = none := by
    rw [Option.eq_none_iff_forall_ne_some]
    exact fun rest hstrip => h ⟨rest, (stripEnd?_eq_some.1 hstrip).symm⟩
  rw [gitEnding] at hstrip
  rw [dropGit, hstrip]
  rfl

/-- Host and path do not end with `.git` when the path does not. -/
theorem not_gitEnding_suffix {path : List Char} (h : ¬ gitEnding <:+ path) (host : List Char) :
    ¬ gitEnding <:+ host ++ '/' :: path := by
  intro hsuffix
  -- Either the `.git` is in the path, or the slash in front of the path is in the `.git`.
  rcases List.suffix_or_suffix_of_suffix hsuffix (List.suffix_append host ('/' :: path)) with
    hgit | hpath
  · rcases List.suffix_cons_iff.1 hgit with heq | hgit
    · exact absurd heq (by simp [gitEnding])
    · exact h hgit
  · have hmem : '/' ∈ gitEnding := hpath.subset (List.mem_cons_self ..)
    exact absurd hmem (by decide)

/-- What may follow the path is dropped. -/
theorem dropGit_write (hgit : ¬ gitEnding <:+ r.path) :
    dropGit (dropEndWhile (· == '/') (r.name ++ ending git slashes)) = r.name := by
  have hslashes : ∀ c ∈ List.replicate slashes '/', (c == '/') = true := by
    intro c hc
    rw [List.eq_of_mem_replicate hc]
    rfl
  -- The slashes go first.
  rw [ending, ← List.append_assoc, dropEndWhile_append_of_forall _ hslashes]
  cases git with
  -- Then the ending, if it was written.
  | true =>
    rw [if_pos rfl, dropEndWhile_append_of_last _ ⟨'t', rfl, rfl⟩]
    exact dropGit_append r.name
  -- If it was not, the path must not have it either, nor end in a slash.
  | false =>
    have hlast : ∃ c, ('/' :: r.path).getLast? = some c ∧ (c == '/') = false := by
      obtain ⟨c, hc⟩ : ∃ c, r.path.getLast? = some c :=
        Option.ne_none_iff_exists'.1 fun h => r.path_ne_nil (List.getLast?_eq_none_iff.1 h)
      refine ⟨c, ?_, ?_⟩
      · rw [List.getLast?_cons, hc]
        rfl
      · rw [beq_eq_false_iff_ne]
        rintro rfl
        exact r.path_last hc
    rw [if_neg (by decide), List.append_nil, Repository.name, dropEndWhile_append_of_last _ hlast,
      dropGit_of_not_suffix (not_gitEnding_suffix hgit r.host)]

/-! ### Spellings in any letter case -/

/-- Behind the name of the scheme, a spelling consists of plain characters. -/
theorem plain_behindScheme : ∀ c ∈ r.behindScheme s git slashes, Plain c := by
  -- In front of the host, between host and path, and behind the path.
  have hlead : ∀ c ∈ s.lead, Plain c := by
    have hmark : ∀ c ∈ schemeMark, Plain c := forall_of_all (by decide)
    cases s with
    | bare | shell => exact forall_of_all (by decide)
    | url => exact hmark
    | userUrl scheme user =>
      simp only [Spelling.lead, List.forall_mem_append]
      exact ⟨hmark, user.plain, forall_of_all (by decide)⟩
  have hslash : Plain '/' := by decide
  have hjoint : Plain s.joint := by
    cases s with
    | shell => decide
    | bare | url | userUrl => exact hslash
  have hending : ∀ c ∈ ending git slashes, Plain c := by
    rw [ending, List.forall_mem_append]
    refine ⟨?_, fun c hc => List.eq_of_mem_replicate hc ▸ hslash⟩
    cases git <;> exact forall_of_all (by decide)
  simp only [Repository.behindScheme, List.forall_mem_append, List.forall_mem_cons]
  exact ⟨hlead, r.host_plain, hjoint, r.path_plain, hending⟩

/-- There are no blanks in a spelling. -/
theorem not_blank_of_mem_write : ∀ c ∈ r.write s git slashes, isBlank c = false := by
  have hscheme : ∀ c ∈ s.scheme, isBlank c = false := by
    cases s with
    | bare | shell => exact fun c hc => nomatch hc
    | url scheme | userUrl scheme => exact scheme.not_blank
  rw [Repository.write, List.forall_mem_append]
  exact ⟨hscheme, fun c hc => (plain_behindScheme r s git slashes c hc).2⟩

/-- There are no colons in the name of a scheme. -/
theorem colon_not_mem_scheme : ':' ∉ s.scheme := by
  cases s with
  | bare | shell => exact fun h => nomatch h
  | url scheme | userUrl scheme => exact scheme.no_colon

variable {r s git slashes}

/-- However the letters of a spelling are written, small letters make the same text of it behind
the name of the scheme. -/
theorem exists_lowerFrom_spelling {cs : List Char}
    (h : cs.map Char.toLower = (r.write s git slashes).map Char.toLower) :
    ∃ x, ':' ∉ x ∧ (¬ s.HasScheme → x = []) ∧
      lowerFrom [] cs = x ++ r.lower.behindScheme s.lower git slashes := by
  rw [Repository.write, List.map_append, List.map_eq_append_iff] at h
  obtain ⟨a, b, rfl, ha, hb⟩ := h
  have hascii : ∀ c ∈ b, c.toNat < 128 := by
    intro c hc
    apply lt_of_toLower_lt
    have hmem : c.toLower ∈ (r.behindScheme s git slashes).map Char.toLower :=
      hb ▸ List.mem_map_of_mem hc
    obtain ⟨d, hd, heq⟩ := List.mem_map.1 hmem
    rw [← heq]
    exact (plain_behindScheme r s git slashes d hd).toLower.1
  have hsmall : b.map Char.toLower = r.lower.behindScheme s.lower git slashes := by
    rw [hb, Repository.map_toLower_behindScheme]
  by_cases hs : s.HasScheme
  · -- The name of a scheme may have any letters; no colon comes out of them.
    obtain ⟨x, hx, hmarks⟩ := exists_lowerFrom_append (sigma_not_mem hascii) a []
    refine ⟨x, ?_, absurd hs, ?_⟩
    · intro hmem
      have hcolon := (mem_map_toLower_iff (by decide)).2 (hmarks ':' hmem (by decide))
      rw [ha, mem_map_toLower_iff (by decide)] at hcolon
      exact colon_not_mem_scheme s hcolon
    · rw [hx, flatMap_lowerOf_of_lt hascii, hsmall]
  · have hnil : a = [] := by
      have hscheme : s.scheme = [] := by
        cases s with
        | bare | shell => rfl
        | url | userUrl => exact absurd trivial hs
      rw [hscheme] at ha
      exact List.map_eq_nil_iff.1 ha
    subst hnil
    refine ⟨[], List.not_mem_nil, fun _ => rfl, ?_⟩
    rw [List.nil_append, lowerFrom_of_lt hascii, hsmall, List.nil_append]

/-- Letter case has no part in whether an end looks like the end of a scheme. -/
theorem endsLikeScheme_lower :
    r.lower.EndsLikeScheme s.lower git slashes ↔ r.EndsLikeScheme s git slashes := by
  have hs : s.lower.HasScheme ↔ s.HasScheme := by
    cases s <;> rfl
  have hlast : r.lower.path.getLast? = some ':' ↔ r.path.getLast? = some ':' := by
    rw [Repository.lower, List.getLast?_map, map_toLower_eq_some_iff (by decide)]
  rw [Repository.EndsLikeScheme, Repository.EndsLikeScheme, hs, hlast]

/-- Host and path are in ASCII. -/
theorem lowercase_name : lowercase (String.ofList r.name) = String.ofList r.lower.name := by
  have hascii : ∀ c ∈ r.name, c.toNat < 128 := by
    simp only [Repository.name, List.forall_mem_append, List.forall_mem_cons]
    exact ⟨fun c hc => (r.host_plain c hc).1, by decide, fun c hc => (r.path_plain c hc).1⟩
  rw [lowercase, String.toList_ofList, lowerFrom_of_lt hascii]
  simp [Repository.name, Repository.lower]

/-- **Every spelling of a repository comes to host and path in small letters**: with any scheme,
user, `.git`, number of slashes and letter case.  Only a spelling without a scheme whose end looks
like the end of one comes to nothing. -/
theorem canonical_spelling (r : Repository) (s : Spelling) (git : Bool) (slashes : Nat)
    {location : String}
    (h : equalFold location (String.ofList (r.write s git slashes)) = true) :
    canonical location =
      if r.EndsLikeScheme s git slashes then "" else lowercase (String.ofList r.name) := by
  have hfold : location.toList.map Char.toLower = (r.write s git slashes).map Char.toLower := by
    have := equalFold_iff.1 h
    rwa [asciiFold, asciiFold, String.toList_ofList] at this
  -- Blanks have no letter case, so there are none in the location either.
  have htrim : trimWhile isBlank location.toList = location.toList := by
    apply trimWhile_eq_self
    intro c hc
    have hmem : c.toLower ∈ (r.write s git slashes).map Char.toLower :=
      hfold ▸ List.mem_map_of_mem hc
    obtain ⟨d, hd, heq⟩ := List.mem_map.1 hmem
    rw [← isBlank_toLower, ← heq, isBlank_toLower]
    exact not_blank_of_mem_write r s git slashes d hd
  obtain ⟨x, hx, hnil, hsmall⟩ := exists_lowerFrom_spelling hfold
  have hnil' : ¬ s.lower.HasScheme → x = [] := by
    cases s <;> exact hnil
  have hcanonical : canonical location = String.ofList (dropGit (dropEndWhile (· == '/')
      (bare (lowerFrom [] (trimWhile isBlank location.toList))))) := by
    simp only [canonical, lowercase, trim, String.toList_ofList, bare]
  rw [hcanonical, htrim, hsmall, bare_write r.lower s.lower git slashes hx hnil']
  simp only [endsLikeScheme_lower]
  split
  · have hslashes : dropEndWhile (· == '/') (List.replicate (slashes - 2) '/') = [] :=
      dropEndWhile_append_of_forall [] fun c hc => by rw [List.eq_of_mem_replicate hc]; rfl
    rw [hslashes]
    rfl
  · rw [dropGit_write r.lower git slashes r.path_git, lowercase_name]

end

/-- A repository on a forge. -/
def repo : Repository where
  host := "GitHub.com".toList
  path := "Org/Repo".toList
  host_plain := forall_of_all (by decide +kernel)
  host_marks := by decide +kernel
  path_plain := forall_of_all (by decide +kernel)
  path_ne_nil := by decide +kernel
  path_head := by decide +kernel
  path_last := by decide +kernel
  path_mark := by decide +kernel
  path_git := by decide +kernel

/-- A repository whose path ends with a colon. -/
def colonRepo : Repository where
  host := "github.com".toList
  path := "org/repo:".toList
  host_plain := forall_of_all (by decide +kernel)
  host_marks := by decide +kernel
  path_plain := forall_of_all (by decide +kernel)
  path_ne_nil := by decide +kernel
  path_head := by decide +kernel
  path_last := by decide +kernel
  path_mark := by decide +kernel
  path_git := by decide +kernel

/-- The argument of a remote shell comes to host and path; the repository with the colon is lost. -/
theorem canonical_spelling_colonRepo :
    canonical "GIT@github.com:org/REPO.Git//" = "github.com/org/repo" ∧
      canonical "github.com/org/repo:.git/" = "github.com/org/repo:" ∧
      canonical "github.com/org/repo://" = "" := by
  refine ⟨?_, ?_, ?_⟩
  · have hname : lowercase (String.ofList repo.name) = "github.com/org/repo" := by decide +kernel
    have h := canonical_spelling repo .shell true 2
      (show equalFold "GIT@github.com:org/REPO.Git//" _ = true by decide +kernel)
    rwa [if_neg (by decide +kernel), hname] at h
  · have hname : lowercase (String.ofList colonRepo.name) = "github.com/org/repo:" := by
      decide +kernel
    have h := canonical_spelling colonRepo .bare true 1
      (show equalFold "github.com/org/repo:.git/" _ = true by decide +kernel)
    rwa [if_neg (by decide +kernel), hname] at h
  · have h := canonical_spelling colonRepo .bare false 2
      (show equalFold "github.com/org/repo://" _ = true by decide +kernel)
    rwa [if_pos (by decide +kernel)] at h

end ModuleGraph.Location
