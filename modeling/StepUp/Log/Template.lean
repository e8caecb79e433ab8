import StepUp.Json.Display

/-!
# Message templates

A template is a text with conversions such as `%s` and `%05d` that are replaced by arguments in
turn, or by the entries of a single object that conversions name in parentheses. Field width,
precision and flags are those of the C family of print functions.
-/

namespace StepUp.Template

inductive Fault where
  | tooFewArguments
  | tooManyArguments
  | noMapping
  | incompleteKey
  | unknownKey (key : Text)
  | widthNoInteger
  | widthTooBig
  | widthOutOfRange
  | precisionTooBig
  | precisionOutOfRange
  | incomplete
  | unsupported (letter : CodePoint) (index : Nat)
  | noInteger (letter : CodePoint) (kind : Text)
  | noNumber (letter : CodePoint) (kind : Text)
  | noReal (kind : Text)
  | integerTooLarge
  | noCharacter
  | characterOutOfRange
deriving DecidableEq

def Fault.message : Fault → Text
  | .tooFewArguments => "not enough arguments for format string"
  | .tooManyArguments => "not all arguments converted during string formatting"
  | .noMapping => "format requires a mapping"
  | .incompleteKey => "incomplete format key"
  | .unknownKey key => Text.quoted key
  | .widthNoInteger => "* wants int"
  | .widthTooBig => "width too big"
  | .widthOutOfRange => "Python int too large to convert to C ssize_t"
  | .precisionTooBig => "precision too big"
  | .precisionOutOfRange => "Python int too large to convert to C int"
  | .incomplete => "incomplete format"
  | .unsupported letter index =>
    let shown := if 31 ≤ letter.val && letter.val < 126 then letter else CodePoint.ofChar '?'
    "unsupported format character '" ++ [shown] ++ "' (0x" ++ Text.ofNatBase 16 letter.val
      ++ ") at index " ++ Text.ofNat index
  | .noInteger letter kind => "%" ++ [letter] ++ " format: an integer is required, not " ++ kind
  | .noNumber letter kind => "%" ++ [letter] ++ " format: a real number is required, not " ++ kind
  | .noReal kind => "must be real number, not " ++ kind
  | .integerTooLarge => "int too large to convert to float"
  | .noCharacter => "%c requires int or char"
  | .characterOutOfRange => "%c arg not in range(0x110000)"

/-- The name of the kind of a value. -/
def kindName : Json → Text
  | .null => "NoneType"
  | .bool _ => "bool"
  | .int _ => "int"
  | .float _ => "float"
  | .str _ => "str"
  | .arr _ => "list"
  | .obj _ => "dict"

/-- What is between the percent sign and the end of a conversion. -/
structure Conversion where
  leftAligned : Bool := false
  plus : Bool := false
  blank : Bool := false
  alternate : Bool := false
  zero : Bool := false
  width : Nat := 0
  precision : Option Nat := none
  letter : CodePoint := '%'

/-! ## Numbers -/

/-- Decimal digits of a quotient to a number of places, the last one rounded. -/
def fixedPoint (num den places : Nat) (alternate : Bool) : Text :=
  let digits := Text.padZero (places + 1) (Text.ofNat (roundDiv (num * Nat.pow 10 places) den))
  let whole := digits.take (digits.length - places)
  if places = 0 then whole ++ (if alternate then "." else [] : Text)
  else whole ++ "." ++ digits.drop (digits.length - places)

/-- The decimal exponent of a quotient that is not zero. -/
def decimalExponent (num den : Nat) : Int :=
  if den ≤ num then (Nat.toDigits 10 (num / den)).length - 1
  else
    let e : Int := -((Nat.toDigits 10 (den / num)).length : Int)
    if num * Nat.pow 10 e.natAbs < den then e
    else if den * 10 ≤ num * Nat.pow 10 e.natAbs then e + 1 else e

/-- The digits of a quotient in scientific notation, one before the point and `places` behind,
with the exponent. -/
def scientificDigits (num den places : Nat) : Nat × Int :=
  if num = 0 then (0, 0)
  else
    let e := decimalExponent num den
    let shift := (places : Int) - e
    let digits := roundDiv (num * Nat.pow 10 shift.toNat) (den * Nat.pow 10 (-shift).toNat)
    if digits < Nat.pow 10 (places + 1) then (digits, e)
    else
      let shift := shift - 1
      (roundDiv (num * Nat.pow 10 shift.toNat) (den * Nat.pow 10 (-shift).toNat), e + 1)

def exponentText (e : Int) : Text :=
  (if e < 0 then "e-" else "e+") ++ Text.padZero 2 (Text.ofNat e.natAbs)

def scientific (num den places : Nat) (alternate : Bool) : Text :=
  let (digits, e) := scientificDigits num den places
  let digits := Text.padZero (places + 1) (Text.ofNat digits)
  digits.take 1
    ++ (if places = 0 then (if alternate then "." else []) else "." ++ digits.drop 1 : Text)
    ++ exponentText e

def withoutTrailingZeros (t : Text) : Text :=
  if t.contains (CodePoint.ofChar '.') then
    let t := (t.reverse.dropWhile (· == CodePoint.ofChar '0')).reverse
    if t.getLast? = some (CodePoint.ofChar '.') then t.dropLast else t
  else t

/-- `digits` significant digits, positional where the exponent allows. -/
def general (num den digits : Nat) (alternate : Bool) : Text :=
  let digits := max digits 1
  let (_, e) := scientificDigits num den (digits - 1)
  if -4 ≤ e && e < digits then
    let t := fixedPoint num den ((digits : Int) - 1 - e).toNat alternate
    if alternate then t else withoutTrailingZeros t
  else
    let t := scientific num den (digits - 1) alternate
    if alternate then t
    else
      let mantissa := t.takeWhile (· != CodePoint.ofChar 'e')
      withoutTrailingZeros mantissa ++ t.drop mantissa.length

def asciiUpper (t : Text) : Text :=
  t.map fun c => if 0x61 ≤ c.val && c.val ≤ 0x7A then .ofNat (c.val - 0x20) else c

def asciiLower (c : CodePoint) : CodePoint :=
  if 0x41 ≤ c.val && c.val ≤ 0x5A then .ofNat (c.val + 0x20) else c

/-- A floating point number by the conversions `e`, `f` and `g`; capitals give capitals. -/
def floatText (letter : CodePoint) (precision : Nat) (alternate : Bool) (x : Binary64) : Text :=
  let lower := asciiLower letter
  let t : Text := match x with
    | .nan => "nan"
    | .infinity negative => if negative then "-inf" else "inf"
    | .finite negative mantissa exponent =>
      let (n, d) := Binary64.ratio mantissa exponent
      let body :=
        if lower = 'e' then scientific n d precision alternate
        else if lower = 'f' then fixedPoint n d precision alternate
        else general n d precision alternate
      if negative then "-" ++ body else body
  if lower = letter then t else asciiUpper t

/-- An integer by the conversions `d`, `i`, `u`, `o` and `x`, with at least `precision` digits. -/
def integerText (c : Conversion) (n : Int) : Text :=
  let lower := asciiLower c.letter
  let base := if lower = 'o' then 8 else if lower = 'x' then 16 else 10
  let mark : Text :=
    if c.alternate && base != 10 then [CodePoint.ofChar '0', lower] else []
  let digits := Text.padZero (c.precision.getD 0) (Text.ofNatBase base n.natAbs)
  let t := (if n < 0 then "-" else [] : Text) ++ mark ++ digits
  if c.letter = 'X' then asciiUpper t else t

/-! ## Conversions -/

def isAnyOf (letters : String) (c : CodePoint) : Bool := (Text.ofString letters).contains c

/-- Put a converted value into its field. Sign and base mark of a number stand before zeros and
after blanks. -/
def layOut (c : Conversion) (numeric : Bool) (t : Text) : Text :=
  let t := if numeric || c.letter = 'c' then t else t.take (c.precision.getD t.length)
  let (sign, t) : Text × Text :=
    if !numeric then ([], t)
    else match t with
      | d :: rest =>
        if d = '-' then ([d], rest)
        else (if c.plus then "+" else if c.blank then " " else [], t)
      | [] => ([], t)
  let marked := numeric && c.alternate && isAnyOf "xXo" c.letter
  let mark := if marked then t.take 2 else []
  let body := if marked then t.drop 2 else t
  let missing := c.width - (sign.length + mark.length + body.length)
  let pad (d : Char) : Text := List.replicate missing (CodePoint.ofChar d)
  if c.leftAligned then sign ++ mark ++ body ++ pad ' '
  else if numeric && c.zero then sign ++ mark ++ pad '0' ++ body
  else pad ' ' ++ sign ++ mark ++ body

def toReal : Json → Except Fault Binary64
  | .float x => .ok x
  | .int n => if (Binary64.ofInt n).isFinite then .ok (.ofInt n) else .error .integerTooLarge
  | .bool b => .ok (.ofInt (if b then 1 else 0))
  | v => .error (.noReal (kindName v))

def toInteger (letter : CodePoint) (v : Json) : Except Fault Int :=
  let wholeOnly := isAnyOf "oxX" letter
  match v with
  | .int n => .ok n
  | .bool b => .ok (if b then 1 else 0)
  | .float x =>
    match x.truncate? with
    | some n => if wholeOnly then .error (.noInteger letter (kindName v)) else .ok n
    | none => .error (.noNumber letter (kindName v))
  | v =>
    .error (if wholeOnly then .noInteger letter (kindName v) else .noNumber letter (kindName v))

def toCharacter : Json → Except Fault CodePoint
  | .str [c] => .ok c
  | .int n =>
    if 0 ≤ n && n < 0x110000 then .ok (.ofNat n.toNat) else .error .characterOutOfRange
  | .bool b => .ok (.ofNat (if b then 1 else 0))
  | _ => .error .noCharacter

/-- A value by a conversion; `index` is the position of the conversion's letter. -/
def convert (c : Conversion) (index : Nat) (v : Json) : Except Fault Text :=
  if c.letter = 's' then .ok (layOut c false v.display)
  else if c.letter = 'r' then .ok (layOut c false v.quoted)
  else if c.letter = 'a' then .ok (layOut c false (v.quotedWith .ascii))
  else if isAnyOf "diuoxX" c.letter then
    (toInteger c.letter v).map fun n => layOut c true (integerText c n)
  else if isAnyOf "eEfFgG" c.letter then
    (toReal v).map fun x =>
      layOut c true (floatText c.letter (c.precision.getD 6) c.alternate x)
  else if c.letter = 'c' then (toCharacter v).map fun d => layOut c false [d]
  else .error (.unsupported c.letter index)

/-! ## Templates -/

/-- The arguments that are left. A single object serves as often as conversions name its keys,
and once without. -/
structure Supply where
  values : List Json
  mapping : Option (List (Text × Json))

structure Progress where
  rest : Text
  supply : Supply

abbrev Reader := StateT Progress (Except Fault)

def nextValue : Reader Json := do
  let p ← get
  match p.supply.values with
  | [] => throw .tooFewArguments
  | v :: values =>
    set { p with supply := { p.supply with values := values } }
    return v

def nextCharacter : Reader CodePoint := do
  let p ← get
  match p.rest with
  | [] => throw .incomplete
  | c :: rest =>
    set { p with rest := rest }
    return c

/-- The text up to the parenthesis that closes the key, which may hold parentheses in pairs. -/
def keyOf? : Nat → Text → Option (Text × Text)
  | _, [] => none
  | depth, c :: rest =>
    if c = ')' then
      match depth with
      | 0 => some ([], rest)
      | depth + 1 => (keyOf? depth rest).map fun (key, after) => (c :: key, after)
    else
      let depth := if c = '(' then depth + 1 else depth
      (keyOf? depth rest).map fun (key, after) => (c :: key, after)

/-- Make the entry that a conversion names the only argument. -/
def readKey : Reader Unit := do
  let p ← get
  match p.rest with
  | c :: rest =>
    if c = '(' then
      match p.supply.mapping with
      | none => throw .noMapping
      | some entries =>
        match keyOf? 0 rest with
        | none => throw .incompleteKey
        | some (key, after) =>
          match entries.lookup key with
          | none => throw (.unknownKey key)
          | some v => set { p with rest := after, supply := { p.supply with values := [v] } }
  | [] => return

/-- Flags, and the character behind them. -/
def readFlags : Nat → Conversion → Reader (Conversion × CodePoint)
  | 0, _ => throw .incomplete
  | fuel + 1, c => do
    let d ← nextCharacter
    if d = '-' then readFlags fuel { c with leftAligned := true }
    else if d = '+' then readFlags fuel { c with plus := true }
    else if d = ' ' then readFlags fuel { c with blank := true }
    else if d = '#' then readFlags fuel { c with alternate := true }
    else if d = '0' then readFlags fuel { c with zero := true }
    else return (c, d)

/-- Digits from a first one on, up to a limit, and the character behind them. -/
def readDigits (limit : Nat) (tooBig : Fault) : Nat → Nat → Reader (Nat × CodePoint)
  | 0, _ => throw .incomplete
  | fuel + 1, n => do
    let d ← nextCharacter
    if d.isAsciiDigit then
      let value := d.val - 0x30
      if (limit - value) / 10 < n then throw tooBig
      readDigits limit tooBig fuel (10 * n + value)
    else return (n, d)

def maxWidth : Nat := Nat.pow 2 63 - 1

def maxPrecision : Nat := Nat.pow 2 31 - 1

/-- An integer argument in place of a number in the template. -/
def readStar (limit : Nat) (outOfRange : Fault) : Reader Int := do
  let n ← match ← nextValue with
    | .int n => pure n
    | .bool b => pure (if b then 1 else 0)
    | _ => throw .widthNoInteger
  if (limit : Int) < n || n < -(limit : Int) - 1 then throw outOfRange
  return n

def readWidth (fuel : Nat) (c : Conversion) (d : CodePoint) : Reader (Conversion × CodePoint) := do
  if d = '*' then
    let n ← readStar maxWidth .widthOutOfRange
    return ({ c with leftAligned := c.leftAligned || n < 0, width := n.natAbs }, ← nextCharacter)
  else if d.isAsciiDigit then
    let (n, d) ← readDigits maxWidth .widthTooBig fuel (d.val - 0x30)
    return ({ c with width := n }, d)
  else return (c, d)

def readPrecision (fuel : Nat) (c : Conversion) (d : CodePoint) :
    Reader (Conversion × CodePoint) := do
  if d ≠ '.' then return (c, d)
  let d ← nextCharacter
  if d = '*' then
    let n ← readStar maxPrecision .precisionOutOfRange
    return ({ c with precision := some n.toNat }, ← nextCharacter)
  else if d.isAsciiDigit then
    let (n, d) ← readDigits maxPrecision .precisionTooBig fuel (d.val - 0x30)
    return ({ c with precision := some n }, d)
  else return ({ c with precision := some 0 }, d)

/-- A conversion behind its percent sign. -/
def readConversion : Reader Conversion := do
  readKey
  let fuel := (← get).rest.length + 1
  let (c, d) ← readFlags fuel {}
  let (c, d) ← readWidth fuel c d
  let (c, d) ← readPrecision fuel c d
  let d ← if isAnyOf "hlL" d then nextCharacter else pure d
  return { c with letter := d }

/-- The rest of a template, of which `length` is the length of the whole. -/
def fillFrom (length : Nat) : Nat → Reader Text
  | 0 => return []
  | fuel + 1 => do
    let p ← get
    match p.rest with
    | [] =>
      if !p.supply.values.isEmpty && p.supply.mapping.isNone then throw .tooManyArguments
      return []
    | c :: rest =>
      set { p with rest := rest }
      if c ≠ '%' then return c :: (← fillFrom length fuel)
      if rest.head? = some c then
        set { p with rest := rest.drop 1 }
        return c :: (← fillFrom length fuel)
      let conversion ← readConversion
      let index := length - (← get).rest.length - 1
      let v ← nextValue
      let t ← (convert conversion index v : Except Fault Text)
      let p ← get
      if !p.supply.values.isEmpty && p.supply.mapping.isSome then throw .tooManyArguments
      return t ++ (← fillFrom length fuel)

/-- Fill arguments into a template. Without arguments the template is the text. -/
def fill (template : Text) (arguments : List Json) : Except Fault Text :=
  let supply : Supply := match arguments with
    | [.obj (e :: es)] => ⟨arguments, some (e :: es)⟩
    | _ => ⟨arguments, none⟩
  if arguments.isEmpty then .ok template
  else
    ((fillFrom template.length (template.length + 1)).run ⟨template, supply⟩).map Prod.fst

end StepUp.Template
