import AffixSpeller.Text.Number
import AffixSpeller.Toml.Value

/-!
# TOML scalars

Strings come in four forms: between single or double quotes, on one line or on several. Numbers,
truth values and dates are words without blanks, but for the blank that may stand between a date
and a time. Integers must fit 64 bits, and positive floats must not be too large for a double. A
reader returns what it read and the rest of the text.

## Main definitions

* `Toml.skipBlanks`, `Toml.skipFiller`, `Toml.skipLineEnd`: what may stand between values.
* `Toml.readString`: a string of any form.
* `Toml.readScalar`: a string, number, truth value or date.
-/

namespace AffixSpeller.Toml

/-- Whether the character may stand in strings and comments as it is. -/
def isPlain (c : Char) : Bool :=
  c == '\t' || (32 ≤ c.toNat && c.toNat != 127)

/-- Whether the character is a blank within a line. -/
def isBlank (c : Char) : Bool :=
  c == ' ' || c == '\t'

/-- The text after the blanks at its beginning. -/
def skipBlanks (t : Text) : Text :=
  t.dropWhile isBlank

/-- The text after the line end at its beginning. -/
def skipNewline? : Text → Option Text
  | '\n' :: rest => some rest
  | '\r' :: '\n' :: rest => some rest
  | _ => none

/-- The text after the comment at its beginning, if there is one. -/
def skipComment : Text → Text
  | '#' :: rest => rest.dropWhile isPlain
  | t => t

/-- The text after the blanks, the comment and the line end at its beginning. -/
def skipLineEnd (t : Text) : Option Text :=
  match skipComment (skipBlanks t) with
  | [] => some []
  | rest => skipNewline? rest

/-- The text after the blanks, line ends and comments at its beginning. -/
def skipFiller (inComment : Bool) : Text → Option Text
  | [] => some []
  | c :: cs =>
    if c = '\n' then skipFiller false cs
    else if c = '\r' then if cs.head? = some '\n' then skipFiller false cs else none
    else if inComment then if isPlain c then skipFiller true cs else none
    else if isBlank c then skipFiller false cs
    else if c = '#' then skipFiller true cs
    else some (c :: cs)

/-- The character with the given code, written in hexadecimal. -/
def codeChar? (digits : Text) : Option Char :=
  (Text.numeral? 16 digits).bind fun code =>
    if code.isValidChar then some (Char.ofNat code) else none

/-- The character that an escape stands for, given what follows its backslash, and the number of
characters that the escape takes. -/
def escape? : Text → Option (Char × Nat)
  | 'b' :: _ => some ('\x08', 1)
  | 't' :: _ => some ('\t', 1)
  | 'n' :: _ => some ('\n', 1)
  | 'f' :: _ => some ('\x0c', 1)
  | 'r' :: _ => some ('\r', 1)
  | '"' :: _ => some ('"', 1)
  | '\\' :: _ => some ('\\', 1)
  | 'u' :: cs => if cs.length < 4 then none else (codeChar? (cs.take 4)).map (·, 5)
  | 'U' :: cs => if cs.length < 8 then none else (codeChar? (cs.take 8)).map (·, 9)
  | _ => none

/-- The rest of a string in double quotes. The first `skip` characters belong to an escape that was
read already. -/
def readBasic (skip : Nat) : Text → Option (Text × Text)
  | [] => none
  | c :: cs =>
    match skip with
    | skip + 1 => readBasic skip cs
    | 0 =>
      if c = '"' then some ([], cs)
      else if c = '\\' then
        match escape? cs with
        | none => none
        | some (d, taken) => (readBasic taken cs).map fun (s, rest) => (d :: s, rest)
      else if isPlain c then (readBasic 0 cs).map fun (s, rest) => (c :: s, rest)
      else none

/-- The rest of a string in single quotes, which has no escapes. -/
def readLiteral : Text → Option (Text × Text)
  | [] => none
  | c :: cs =>
    if c = '\'' then some ([], cs)
    else if isPlain c then (readLiteral cs).map fun (s, rest) => (c :: s, rest)
    else none

/-- The text after the blanks and line ends at its beginning. A carriage return ends a line only
together with a line feed. -/
def skipBlankLines : Text → Text
  | '\r' :: '\n' :: rest => skipBlankLines rest
  | c :: rest => if isBlank c || c == '\n' then skipBlankLines rest else c :: rest
  | [] => []

/-- The number of blanks and line ends after a backslash that ends a line; there must be a line
end. -/
def lineContinuation? (cs : Text) : Option Nat :=
  (skipNewline? (skipBlanks cs)).map fun rest => cs.length - (skipBlankLines rest).length

/-- The rest of a string of several lines in the given quotes, double ones taking escapes. Three
quotes end it; one or two more in front of them belong to it. Line ends become line feeds. The
first `skip` characters were dealt with already. -/
def readMultiline (quote : Char) (skip : Nat) : Text → Option (Text × Text)
  | [] => none
  | c :: cs =>
    match skip with
    | skip + 1 => readMultiline quote skip cs
    | 0 =>
      if c = quote then
        let quotes := (cs.takeWhile (· == quote)).length + 1
        if 3 ≤ quotes then
          let inside := min (quotes - 3) 2
          some (List.replicate inside quote, cs.drop (inside + 2))
        else (readMultiline quote 0 cs).map fun (s, rest) => (c :: s, rest)
      else if c = '\\' ∧ quote = '"' then
        match lineContinuation? cs with
        | some taken => readMultiline quote taken cs
        | none =>
          match escape? cs with
          | none => none
          | some (d, taken) => (readMultiline quote taken cs).map fun (s, rest) => (d :: s, rest)
      else if c = '\r' then
        if cs.head? = some '\n' then readMultiline quote 0 cs else none
      else if isPlain c || c == '\n' then
        (readMultiline quote 0 cs).map fun (s, rest) => (c :: s, rest)
      else none

/-- The text after the line end at its beginning, if there is one. -/
def skipFirstNewline (t : Text) : Text :=
  (skipNewline? t).getD t

/-- A string of any form. -/
def readString : Text → Option (Text × Text)
  | '"' :: '"' :: '"' :: rest => readMultiline '"' 0 (skipFirstNewline rest)
  | '\'' :: '\'' :: '\'' :: rest => readMultiline '\'' 0 (skipFirstNewline rest)
  | '"' :: rest => readBasic 0 rest
  | '\'' :: rest => readLiteral rest
  | _ => none

/-- Whether the text is digits with single low lines between them. -/
def isGrouped (base : Nat) (t : Text) : Bool :=
  (t.splitOn '_').all fun group =>
    !group.isEmpty && group.all fun c => (Text.digit? base c).isSome

/-- The value of digits with low lines between them. -/
def grouped? (base : Nat) (t : Text) : Option Nat :=
  if isGrouped base t then Text.numeral? base (t.filter (· != '_')) else none

/-- A sign and what follows it. -/
def cutSign : Text → Option Char × Text
  | '+' :: rest => (some '+', rest)
  | '-' :: rest => (some '-', rest)
  | t => (none, t)

/-- Whether the text is a decimal number without superfluous zeros in front. -/
def isWholePart (t : Text) : Bool :=
  isGrouped 10 t && (t == ['0'] || t.head? != some '0')

/-- The value of a written integer, which fits 64 bits. -/
def integer? (written : Text) : Option Int :=
  let value : Option Int := match written with
    | '0' :: 'x' :: digits => (grouped? 16 digits).map fun n => (n : Int)
    | '0' :: 'o' :: digits => (grouped? 8 digits).map fun n => (n : Int)
    | '0' :: 'b' :: digits => (grouped? 2 digits).map fun n => (n : Int)
    | written =>
      let (sign, digits) := cutSign written
      if isWholePart digits then
        (grouped? 10 digits).map fun n => if sign = some '-' then -(n : Int) else (n : Int)
      else none
  value.filter fun i => -9223372036854775808 ≤ i && i ≤ 9223372036854775807

/-- Whether the text is the exponent of a float. -/
def isExponent (t : Text) : Bool :=
  isGrouped 10 (cutSign t).2

/-- Whether the text is a written float: a whole part with a fraction, an exponent, or both; or
one of the two values that are no numbers. -/
def isFloat (written : Text) : Bool :=
  let unsigned := (cutSign written).2
  let mantissa := unsigned.takeWhile fun c => c != 'e' && c != 'E'
  let exponent := (unsigned.drop mantissa.length).drop 1
  let hasExponent := mantissa.length < unsigned.length
  if unsigned = "inf".toList ∨ unsigned = "nan".toList then true
  else if hasExponent && !isExponent exponent then false
  else
    match Text.cutAt '.' mantissa with
    | some (whole, fraction) => isWholePart whole && isGrouped 10 fraction
    | none => hasExponent && isWholePart mantissa

/-- Whether a written float is beyond the largest double, so that the nearest one is infinite. A
value below one, however long its fraction, is not. -/
def isBeyondDoubles (written : Text) : Bool :=
  let (sign, unsigned) := cutSign written
  let mantissa := unsigned.takeWhile fun c => c != 'e' && c != 'E'
  let (expSign, expDigits) := cutSign ((unsigned.drop mantissa.length).drop 1)
  let size := (grouped? 10 expDigits).getD 0
  let (whole, fraction) := (Text.cutAt '.' mantissa).getD (mantissa, [])
  let digits := (whole ++ fraction).filter Char.isDigit
  let value := (Text.decimal? digits).getD 0
  let places := (fraction.filter Char.isDigit).length
  let exponent : Int := (if expSign = some '-' then -(size : Int) else size) - places
  let bound := Nat.pow 2 1024 - Nat.pow 2 970
  if sign = some '-' || value = 0 then false
  else if 0 ≤ exponent then 400 ≤ exponent || bound ≤ value * Nat.pow 10 exponent.toNat
  else if digits.length ≤ (-exponent).toNat then false
  else bound * Nat.pow 10 (-exponent).toNat ≤ value

/-- The value of a number of exactly `width` digits. -/
def fixed? (width : Nat) (t : Text) : Option Nat :=
  if t.length = width then Text.decimal? t else none

/-- The number of days of a month. -/
def daysOfMonth (year month : Nat) : Nat :=
  if month = 2 then
    if year % 4 = 0 ∧ (year % 100 ≠ 0 ∨ year % 400 = 0) then 29 else 28
  else if month = 4 ∨ month = 6 ∨ month = 9 ∨ month = 11 then 30
  else 31

/-- Whether the text is a date. -/
def isDate (t : Text) : Bool :=
  match t.splitOn '-' with
  | [year, month, day] =>
    match fixed? 4 year, fixed? 2 month, fixed? 2 day with
    | some y, some m, some d => 1 ≤ m && m ≤ 12 && 1 ≤ d && d ≤ daysOfMonth y m
    | _, _, _ => false
  | _ => false

/-- Whether the text is a time of day, the seconds perhaps with a fraction. -/
def isTime (t : Text) : Bool :=
  match t.splitOn ':' with
  | [hour, minute, second] =>
    let (whole, fraction) := (Text.cutAt '.' second).getD (second, ['0'])
    match fixed? 2 hour, fixed? 2 minute, fixed? 2 whole with
    | some h, some m, some s =>
      h ≤ 23 && m ≤ 59 && s ≤ 60 && (Text.decimal? fraction).isSome
    | _, _, _ => false
  | _ => false

/-- Whether the text is the distance of a local time from the universal one. -/
def isOffset (t : Text) : Bool :=
  if t = ['Z'] ∨ t = ['z'] then true
  else
    match cutSign t with
    | (some _, distance) =>
      match distance.splitOn ':' with
      | [hour, minute] =>
        match fixed? 2 hour, fixed? 2 minute with
        | some h, some m => h ≤ 23 && m ≤ 59
        | _, _ => false
      | _ => false
    | (none, _) => false

/-- Whether the text is a time, perhaps with an offset. -/
def isOffsetTime (t : Text) : Bool :=
  let time := t.takeWhile fun c => c.isDigit || c == ':' || c == '.'
  let offset := t.drop time.length
  isTime time && (offset.isEmpty || isOffset offset)

/-- Whether the text is a date with a time after it. -/
def isDateTime (t : Text) : Bool :=
  isDate (t.take 10) && (t[10]? == some 'T' || t[10]? == some 't') && isOffsetTime (t.drop 11)

/-- Whether the character may stand in a number or a date. -/
def isWordCharacter (c : Char) : Bool :=
  c.isAlphanum || c == '+' || c == '-' || c == '_' || c == '.' || c == ':'

/-- What a word without quotes stands for, given the text after it. -/
def readWord (word rest : Text) : Option (Value × Text) :=
  if word = "true".toList then some (.boolean true, rest)
  else if word = "false".toList then some (.boolean false, rest)
  else
    match integer? word with
    | some i => some (.integer i, rest)
    | none =>
      if isFloat word then if isBeyondDoubles word then none else some (.float word, rest)
      else if isDate word then
        let time := (rest.drop 1).takeWhile isWordCharacter
        if rest.head? = some ' ' && isOffsetTime time then
          some (.dateTime (word ++ 'T' :: time), rest.drop (time.length + 1))
        else some (.dateTime word, rest)
      else if isTime word || isDateTime word then some (.dateTime word, rest)
      else none

/-- A string, number, truth value or date. -/
def readScalar (t : Text) : Option (Value × Text) :=
  match t with
  | '"' :: _ | '\'' :: _ => (readString t).map fun (s, rest) => (.string s, rest)
  | _ =>
    let word := t.takeWhile isWordCharacter
    readWord word (t.drop word.length)

end AffixSpeller.Toml
