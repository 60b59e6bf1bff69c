/-! # Punycode

Writes a list of code points with ASCII letters and digits alone: first the ASCII characters as
they are, then, after a hyphen, the others in ascending order as differences in a number system of
variable length whose thresholds adapt to the size of the differences.  Reading inserts the
characters one by one; numbers of more than 32 bits are refused. -/

namespace ModuleGraph.Url.Punycode

/-- The value of a digit as a character: a to z, then 0 to 9. -/
def digit (d : Nat) : Char := if d < 26 then Char.ofNat (97 + d) else Char.ofNat (22 + d)

/-- The least value that ends a number at place `k`. -/
def threshold (bias k : Nat) : Nat :=
  if k ≤ bias then 1 else if bias + 26 ≤ k then 26 else k - bias

/-- A number in digits, from place `k` on. -/
def digitsFrom (bias k q : Nat) : List Char :=
  let t := threshold bias k
  if h : t ≤ q ∧ 0 < t then
    digit (t + (q - t) % (36 - t)) :: digitsFrom bias (k + 36) ((q - t) / (36 - t))
  else [digit q]
termination_by q
decreasing_by exact Nat.lt_of_le_of_lt (Nat.div_le_self _ _) (by omega)

/-- Counts how often a difference has to be divided to become small. -/
def shrink (delta k : Nat) : Nat :=
  if 455 < delta then shrink (delta / 35) (k + 36) else k + 36 * delta / (delta + 38)
termination_by delta
decreasing_by exact Nat.div_lt_self (by omega) (by omega)

/-- The bias after a difference has been written as the `count`-th one. -/
def adapt (delta count : Nat) (first : Bool) : Nat :=
  let d := if first then delta / 700 else delta / 2
  shrink (d + d / count) 0

structure State where
  delta : Nat
  bias : Nat
  handled : Nat
  output : List Char

/-- Passes over one character of the input while code point `n` is being written. -/
def visit (basic n : Nat) (s : State) (c : Char) : State :=
  if c.toNat < n then { s with delta := s.delta + 1 }
  else if c.toNat = n then
    { delta := 0
      bias := adapt s.delta (s.handled + 1) (s.handled == basic)
      handled := s.handled + 1
      output := s.output ++ digitsFrom s.bias 36 s.delta }
  else s

/-- Writes all occurrences of `next`, when all code points below `least` have been written. -/
def writePoint (input : List Char) (basic : Nat) (acc : Nat × State) (next : Nat) : Nat × State :=
  let (least, s) := acc
  let s := { s with delta := s.delta + (next - least) * (s.handled + 1) }
  let s := input.foldl (visit basic next) s
  (next + 1, { s with delta := s.delta + 1 })

/-- The code points outside ASCII, ascending and once each. -/
def widePoints (input : List Char) : List Nat :=
  ((input.filter fun c => 128 ≤ c.toNat).map Char.toNat).mergeSort.eraseDups

/-- The ASCII form of a text. -/
def encode (input : List Char) : List Char :=
  let plain := input.filter fun c => c.toNat < 128
  let start : State := ⟨0, 72, plain.length, []⟩
  let (_, final) := (widePoints input).foldl (writePoint input plain.length) (128, start)
  (if plain.isEmpty then [] else plain ++ ['-']) ++ final.output

/-- The value of a digit. -/
def digitValue? (c : Char) : Option Nat :=
  if 'a' ≤ c && c ≤ 'z' then some (c.toNat - 97)
  else if '0' ≤ c && c ≤ '9' then some (c.toNat - 22)
  else none

/-- Numbers stay below this bound. -/
def bound : Nat := Nat.pow 2 32

/-- Reads a number from place `k` on, where a digit counts `weight` times, and adds it to `sum`. -/
def readNumber? (bias k weight sum : Nat) : List Char → Option (Nat × List Char)
  | [] => none
  | c :: rest => do
    let d ← digitValue? c
    let next := sum + d * weight
    let heavier := weight * (36 - threshold bias k)
    if bound ≤ next then none
    else if d < threshold bias k then some (next, rest)
    else if bound ≤ heavier then none
    else readNumber? bias (k + 36) heavier next rest

theorem length_of_readNumber? {bias k weight sum : Nat} {cs : List Char} {r : Nat × List Char}
    (h : readNumber? bias k weight sum cs = some r) : r.2.length < cs.length := by
  induction cs generalizing k weight sum with
  | nil => simp [readNumber?] at h
  | cons c rest ih =>
    simp only [readNumber?, Option.bind_eq_bind, Option.bind_eq_some_iff] at h
    obtain ⟨d, -, h⟩ := h
    split at h
    · simp at h
    · split at h
      · rw [← Option.some.inj h]; simp
      · split at h
        · simp at h
        · exact Nat.lt_succ_of_lt (ih h)

/-- Reads all numbers and inserts the code points that they stand for; `point` and `place` are the
code point inserted last and the place behind it. -/
def insertAll? (bias point place : Nat) (output cs : List Char) : Option (List Char) :=
  if cs.isEmpty then some output
  else
    match _h : readNumber? bias 36 1 place cs with
    | none => none
    | some (sum, rest) =>
      let count := output.length + 1
      let next := point + sum / count
      if next.isValidChar then
        insertAll? (adapt (sum - place) count (place == 0)) next (sum % count + 1)
          (output.insertIdx (sum % count) (Char.ofNat next)) rest
      else none
termination_by cs.length
decreasing_by exact length_of_readNumber? _h

/-- The text whose ASCII form is given. -/
def decode? (cs : List Char) : Option (List Char) :=
  let wide := (cs.reverse.takeWhile (· != '-')).reverse
  let plain := cs.take (cs.length - wide.length - 1)
  -- A hyphen with nothing in front of it does not end plain text, and is no digit either.
  if plain.isEmpty then insertAll? 72 128 0 [] cs else insertAll? 72 128 0 plain wide

end ModuleGraph.Url.Punycode
