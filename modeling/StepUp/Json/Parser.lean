import StepUp.Json.Value

/-!
# Reading JSON

The reader accepts JSON with three extensions: `NaN`, `Infinity` and `-Infinity` are numbers, an
escape may name a surrogate alone, and the last of several entries under one key wins. It refuses
integers of more than `maxDigits` digits. A fault says what was expected and how much of the text
was left, from which `Fault.message` computes line and column.
-/

namespace StepUp.Json

/-- The longest integer that is converted. -/
def maxDigits : Nat := 4300

inductive Expectation where
  | value
  | propertyName
  | colon
  | comma
  | closingQuote
  | noControlCharacter
  | escape
  | unicodeEscape
  | endOfText
  | noByteOrderMark
deriving DecidableEq

namespace Expectation

def text : Expectation → Text
  | .value => "Expecting value"
  | .propertyName => "Expecting property name enclosed in double quotes"
  | .colon => "Expecting ':' delimiter"
  | .comma => "Expecting ',' delimiter"
  | .closingQuote => "Unterminated string starting at"
  | .noControlCharacter => "Invalid control character at"
  | .escape => "Invalid \\escape"
  | .unicodeEscape => "Invalid \\uXXXX escape"
  | .endOfText => "Extra data"
  | .noByteOrderMark => "Unexpected UTF-8 BOM (decode using utf-8-sig)"

end Expectation

inductive Fault where
  /-- The text is not JSON; `left` counts the code points from the fault to the end. -/
  | malformed (expected : Expectation) (left : Nat)
  | oversizedInteger (digits : Nat)
deriving DecidableEq

/-- Line and column, from one, of the code point at an index. -/
def lineColumn (source : Text) (index : Nat) : Nat × Nat :=
  let before := source.take index
  let line := before.count (CodePoint.ofChar '\n') + 1
  (line, (before.reverse.takeWhile (· != CodePoint.ofChar '\n')).length + 1)

def oversizedIntegerMessage (digits : Nat) : Text :=
  "Exceeds the limit (" ++ Text.ofNat maxDigits
    ++ " digits) for integer string conversion: value has " ++ Text.ofNat digits
    ++ " digits; use sys.set_int_max_str_digits() to increase the limit"

def Fault.message (source : Text) : Fault → Text
  | .malformed expected left =>
    let index := source.length - left
    let (line, column) := lineColumn source index
    expected.text ++ ": line " ++ Text.ofNat line ++ " column " ++ Text.ofNat column
      ++ " (char " ++ Text.ofNat index ++ ")"
  | .oversizedInteger digits => oversizedIntegerMessage digits

def failAt {α : Type} (expected : Expectation) (rest : Text) : Except Fault α :=
  .error (.malformed expected rest.length)

def isJsonSpace (c : CodePoint) : Bool :=
  c.val == 0x20 || c.val == 0x09 || c.val == 0x0A || c.val == 0x0D

def skipSpace (t : Text) : Text := t.dropWhile isJsonSpace

/-- The number that four hexadecimal digits denote. -/
def hexUnit? (a b c d : CodePoint) : Option Nat := do
  let w ← a.hexValue?
  let x ← b.hexValue?
  let y ← c.hexValue?
  let z ← d.hexValue?
  return 4096 * w + 256 * x + 16 * y + z

def simpleEscape? (c : CodePoint) : Option CodePoint :=
  if c = '"' || c = '\\' || c = '/' then some c
  else if c = 'b' then some (.ofNat 0x08)
  else if c = 'f' then some (.ofNat 0x0C)
  else if c = 'n' then some '\n'
  else if c = 'r' then some '\r'
  else if c = 't' then some '\t'
  else none

def isHighSurrogate (n : Nat) : Bool := 0xD800 ≤ n && n < 0xDC00

def isLowSurrogate (n : Nat) : Bool := 0xDC00 ≤ n && n < 0xE000

def joinSurrogates (high low : Nat) : Nat := 0x10000 + (high - 0xD800) * 0x400 + (low - 0xDC00)

/-- The number of an escape after its `u`, with a further code point behind the four digits. -/
def escapeUnit? : Text → Option Nat
  | a :: b :: c :: d :: _ :: _ => hexUnit? a b c d
  | _ => none

/-- The code point of an escape after its `u`, and how many code points the escape takes: four, or
ten where a second escape completes a pair of surrogates. The second one has to be well formed if
there is room for it. -/
def scanUnicodeEscape (start : Text) (t : Text) : Except Fault (CodePoint × Nat) :=
  match escapeUnit? t with
  | none => failAt .unicodeEscape start
  | some high =>
    match t.drop 4 with
    | q :: u :: more =>
      if isHighSurrogate high && q = '\\' && u = 'u' && 5 ≤ more.length then
        match escapeUnit? more with
        | none => failAt .unicodeEscape (u :: more)
        | some low =>
          if isLowSurrogate low then .ok (.ofNat (joinSurrogates high low), 10)
          else .ok (.ofNat high, 4)
      else .ok (.ofNat high, 4)
    | _ => .ok (.ofNat high, 4)

/-- The body of a string after its opening quote, and what follows the closing one. `start` counts
the code points from the opening quote on. -/
def scanString (start : Nat) : Text → Except Fault (Text × Text)
  | [] => .error (.malformed .closingQuote start)
  | c :: rest =>
    if c = '"' then .ok ([], rest)
    else if c ≠ '\\' then
      if c.val < 0x20 then failAt .noControlCharacter (c :: rest)
      else do
        let (body, after) ← scanString start rest
        return (c :: body, after)
    else match rest with
      | [] => .error (.malformed .closingQuote start)
      | e :: rest =>
        if e = 'u' then do
          let (d, count) ← scanUnicodeEscape (e :: rest) rest
          let (body, after) ← scanString start (rest.drop count)
          return (d :: body, after)
        else match simpleEscape? e with
          | none => failAt .escape (c :: e :: rest)
          | some d => do
            let (body, after) ← scanString start rest
            return (d :: body, after)
termination_by t => t.length
decreasing_by all_goals simp only [List.length_cons, List.length_drop]; omega

/-- Digits after a point, if the point has any. -/
def scanFraction (t : Text) : Text × Text :=
  match t with
  | c :: d :: rest =>
    if c = '.' && d.isAsciiDigit then (d :: rest).span CodePoint.isAsciiDigit else ([], t)
  | _ => ([], t)

/-- The exponent after `e`, if it has digits. -/
def scanExponent? (t : Text) : Option (Int × Text) :=
  match t with
  | [] => none
  | c :: rest =>
    if c = 'e' || c = 'E' then
      let (negative, rest) := match rest with
        | s :: more =>
          if s = '-' then (true, more) else if s = '+' then (false, more) else (false, rest)
        | [] => (false, rest)
      let (digits, after) := rest.span CodePoint.isAsciiDigit
      if digits.isEmpty then none else some (Text.toInt negative digits, after)
    else none

/-- A number whose first code point is a sign or a digit. -/
def scanNumber (start : Text) (negative : Bool) (t : Text) : Except Fault (Json × Text) :=
  match t with
  | [] => failAt .value start
  | c :: rest =>
    if c.isAsciiDigit then
      let (digits, after) := if c = '0' then ([c], rest) else t.span CodePoint.isAsciiDigit
      let (fraction, after) := scanFraction after
      match fraction, scanExponent? after with
      | [], none =>
        if maxDigits < digits.length then .error (.oversizedInteger digits.length)
        else .ok (.int (Text.toInt negative digits), after)
      | fraction, exponent =>
        let (exponent, after) := exponent.getD (0, after)
        .ok (.float (Binary64.ofDecimal negative (Text.toNat (digits ++ fraction))
          (exponent - fraction.length)), after)
    else failAt .value start

/-- The words that are values. -/
def literals : List (Text × Json) :=
  [("null", .null), ("true", .bool true), ("false", .bool false), ("NaN", .float .nan),
    ("Infinity", .float (.infinity false)), ("-Infinity", .float (.infinity true))]

def scanLiteral? (t : Text) : Option (Json × Text) :=
  literals.findSome? fun (word, v) =>
    if word.isPrefixOf t then some (v, t.drop word.length) else none

mutual

/-- One value and the rest of the text. The fuel bounds the calls; twice the length is enough. -/
def scanValue : Nat → Text → Except Fault (Json × Text)
  | 0, t => failAt .value t
  | _ + 1, [] => failAt .value []
  | fuel + 1, c :: rest =>
    if c = '"' then do
      let (body, after) ← scanString (rest.length + 1) rest
      return (.str body, after)
    else if c = '\x7b' then
      match skipSpace rest with
      | [] => failAt .propertyName []
      | d :: more =>
        if d = '\x7d' then .ok (.obj [], more)
        else do
          let (entries, after) ← scanEntries fuel (d :: more)
          return (ofEntries entries, after)
    else if c = '[' then
      match skipSpace rest with
      | [] => failAt .value []
      | d :: more =>
        if d = ']' then .ok (.arr [], more)
        else do
          let (items, after) ← scanItems fuel (d :: more)
          return (.arr items, after)
    else match scanLiteral? (c :: rest) with
      | some found => .ok found
      | none =>
        if c = '-' then scanNumber (c :: rest) true rest
        else scanNumber (c :: rest) false (c :: rest)

/-- The items up to the closing bracket. -/
def scanItems : Nat → Text → Except Fault (List Json × Text)
  | 0, t => failAt .value t
  | fuel + 1, t => do
    let (v, after) ← scanValue fuel t
    match skipSpace after with
    | [] => failAt .comma []
    | c :: rest =>
      if c = ']' then return ([v], rest)
      else if c = ',' then
        let (items, after) ← scanItems fuel (skipSpace rest)
        return (v :: items, after)
      else failAt .comma (c :: rest)

/-- The entries up to the closing brace. -/
def scanEntries : Nat → Text → Except Fault (List (Text × Json) × Text)
  | 0, t => failAt .propertyName t
  | _ + 1, [] => failAt .propertyName []
  | fuel + 1, c :: rest =>
    if c ≠ '"' then failAt .propertyName (c :: rest)
    else do
      let (key, after) ← scanString (rest.length + 1) rest
      match skipSpace after with
      | [] => failAt .colon []
      | d :: more =>
        if d ≠ ':' then failAt .colon (d :: more)
        else
          let (v, after) ← scanValue fuel (skipSpace more)
          match skipSpace after with
          | [] => failAt .comma []
          | e :: rest =>
            if e = '\x7d' then return ([(key, v)], rest)
            else if e = ',' then
              let (entries, after) ← scanEntries fuel (skipSpace rest)
              return ((key, v) :: entries, after)
            else failAt .comma (e :: rest)

end

/-- The value that a whole text denotes. -/
def parse (t : Text) : Except Fault Json :=
  if t.head? = some (CodePoint.ofNat 0xFEFF) then failAt .noByteOrderMark t
  else do
    let (v, after) ← scanValue (2 * t.length + 2) (skipSpace t)
    match skipSpace after with
    | [] => return v
    | rest => failAt .endOfText rest

end StepUp.Json
