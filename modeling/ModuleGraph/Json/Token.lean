import ModuleGraph.Json
import ModuleGraph.Text.Decimal
import ModuleGraph.Text.Hexadecimal

/-! # The words of JSON text

Text is cut into tokens one character at a time: a `Mode` says what the characters read so far
have begun, and `Mode.step` takes the next character.  Numbers and names end at the first
character that cannot belong to them. -/

namespace ModuleGraph.Json

inductive Token where
  | openList
  | closeList
  | openRecord
  | closeRecord
  | colon
  | comma
  | text (s : String)
  | value (j : Json)

/-- What the characters read so far have begun; texts are collected in reverse. -/
inductive Mode where
  | between
  /-- A number or one of the three names. -/
  | word (read : List Char)
  | quoted (read : List Char)
  | escaped (read : List Char)
  /-- In an escape by code, with `left` digits to come; `high` is a first half of a pair. -/
  | code (read : List Char) (high : Option Nat) (left value : Nat)
  /-- After the first half of a pair: a backslash has to follow. -/
  | pairSlash (read : List Char) (high : Nat)
  /-- After the first half of a pair and a backslash: the letter u has to follow. -/
  | pairLetter (read : List Char) (high : Nat)

/-- Whether a row of digits is written without a superfluous zero in front. -/
def isPlainNumeral (cs : List Char) : Bool :=
  match cs with
  | [] => false
  | ['0'] => true
  | c :: rest => c != '0' && Text.isDigit c && rest.all Text.isDigit

/-- Whether a text is the exponent of a number, or nothing. -/
def isExponent : List Char → Bool
  | [] => true
  | e :: rest =>
    (e == 'e' || e == 'E') &&
      match rest with
      | '+' :: ds => (Text.numeral? ds).isSome
      | '-' :: ds => (Text.numeral? ds).isSome
      | ds => (Text.numeral? ds).isSome

/-- Whether a text is what may follow the whole part of a number, or nothing. -/
def isFraction : List Char → Bool
  | '.' :: rest =>
    !(rest.takeWhile Text.isDigit).isEmpty && isExponent (rest.dropWhile Text.isDigit)
  | rest => isExponent rest

/-- The number that is written, if one is. -/
def number? (written : List Char) : Option Json :=
  let (negative, unsigned) :=
    match written with
    | '-' :: rest => (true, rest)
    | rest => (false, rest)
  let whole := unsigned.takeWhile Text.isDigit
  let rest := unsigned.dropWhile Text.isDigit
  if !isPlainNumeral whole then none
  else if rest.isEmpty then
    let n := Text.digitsValue whole
    -- Whole numbers outside 64 bits, and minus zero, are kept as they are written.
    if negative && 0 < n && n ≤ Nat.pow 2 63 then some (.int (-n))
    else if !negative && n < Nat.pow 2 64 then some (.int n)
    else some (.real (String.ofList written))
  else if isFraction rest then some (.real (String.ofList written))
  else none

/-- The value that a word stands for. -/
def wordValue? (written : List Char) : Option Json :=
  if written = ['n', 'u', 'l', 'l'] then some .null
  else if written = ['t', 'r', 'u', 'e'] then some (.bool true)
  else if written = ['f', 'a', 'l', 's', 'e'] then some (.bool false)
  else number? written

/-- Blanks between tokens. -/
def isGap (c : Char) : Bool := c == ' ' || c == '\t' || c == '\n' || c == '\r'

/-- Whether `c` can stand in a number or a name. -/
def inWord (c : Char) : Bool :=
  c.isAlphanum || c == '-' || c == '+' || c == '.'

/-- A character where no token has been begun. -/
def Mode.begin? (c : Char) : Option (Mode × List Token) :=
  if isGap c then some (.between, [])
  else if inWord c then some (.word [c], [])
  else
    match c with
    | '"' => some (.quoted [], [])
    | '[' => some (.between, [.openList])
    | ']' => some (.between, [.closeList])
    | '\x7b' => some (.between, [.openRecord])
    | '\x7d' => some (.between, [.closeRecord])
    | ':' => some (.between, [.colon])
    | ',' => some (.between, [.comma])
    | _ => none

/-- The character that an escape by one letter stands for. -/
def escapedChar? (c : Char) : Option Char :=
  match c with
  | '"' => some '"'
  | '\\' => some '\\'
  | '/' => some '/'
  | 'b' => some (Char.ofNat 8)
  | 'f' => some (Char.ofNat 12)
  | 'n' => some '\n'
  | 'r' => some '\r'
  | 't' => some '\t'
  | _ => none

/-- The mode after a complete escape by code. -/
def Mode.afterCode (read : List Char) (high : Option Nat) (value : Nat) : Option Mode :=
  let isHigh := 0xD800 ≤ value && value < 0xDC00
  let isLow := 0xDC00 ≤ value && value < 0xE000
  match high with
  | some h =>
    if isLow then
      some (.quoted (Char.ofNat (0x10000 + (h - 0xD800) * 0x400 + (value - 0xDC00)) :: read))
    else none
  | none =>
    if isHigh then some (.pairSlash read value)
    else if isLow then none
    else some (.quoted (Char.ofNat value :: read))

/-- Takes one character; gives the tokens that it completes. -/
def Mode.step (mode : Mode) (c : Char) : Option (Mode × List Token) :=
  match mode with
  | .between => Mode.begin? c
  | .word read =>
    if inWord c then some (.word (c :: read), [])
    else do
      -- The character that ends a word is the first of what follows.
      let j ← wordValue? read.reverse
      let (next, tokens) ← Mode.begin? c
      pure (next, .value j :: tokens)
  | .quoted read =>
    if c = '"' then some (.between, [.text (String.ofList read.reverse)])
    else if c = '\\' then some (.escaped read, [])
    else if c.toNat < 32 then none
    else some (.quoted (c :: read), [])
  | .escaped read =>
    if c = 'u' then some (.code read none 4 0, [])
    else (escapedChar? c).map fun e => (.quoted (e :: read), [])
  | .code read high left value => do
    let digit ← Text.hexDigit? c
    if left ≤ 1 then
      let next ← Mode.afterCode read high (16 * value + digit)
      pure (next, [])
    else pure (.code read high (left - 1) (16 * value + digit), [])
  | .pairSlash read high => if c = '\\' then some (.pairLetter read high, []) else none
  | .pairLetter read high => if c = 'u' then some (.code read (some high) 4 0, []) else none

/-- Takes one character; the tokens are collected in reverse. -/
def Mode.read (s : Mode × List Token) (c : Char) : Option (Mode × List Token) := do
  let (next, tokens) ← s.1.step c
  pure (next, tokens.reverse ++ s.2)

/-- The tokens that the end of the text completes. -/
def Mode.finish : Mode → Option (List Token)
  | .between => some []
  | .word read => (wordValue? read.reverse).map fun j => [.value j]
  | _ => none

/-- The tokens of a text. -/
def tokens? (s : String) : Option (List Token) := do
  let (mode, tokens) ← s.toList.foldlM Mode.read (.between, [])
  let last ← mode.finish
  pure (tokens.reverse ++ last)

end ModuleGraph.Json
