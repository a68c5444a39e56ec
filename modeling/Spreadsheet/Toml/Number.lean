import Spreadsheet.Bounded
import Spreadsheet.Toml.Text
import Spreadsheet.Toml.Value

namespace Spreadsheet.Toml

/-!
# Numbers

Integers are decimal with an optional sign, or hexadecimal, octal or binary behind `0x`, `0o` and `0b`.
They must fit 64 bits. Floats have a fraction, an exponent, or both. Digits may be grouped by single
underscores, and decimal numbers have no leading zeros.
-/

/-- Takes further digits of a class, with single underscores between digits. -/
def furtherDigits (accepts : Char → Bool) : List Char → List Char → List Char × List Char
  | reversed, '_' :: next :: rest =>
    if accepts next then furtherDigits accepts (next :: reversed) rest
    else (reversed.reverse, '_' :: next :: rest)
  | reversed, first :: rest =>
    if accepts first then furtherDigits accepts (first :: reversed) rest
    else (reversed.reverse, first :: rest)
  | reversed, [] => (reversed.reverse, [])

/-- Takes one digit of a class or more. -/
def digits (accepts : Char → Bool) : Reader (List Char) := do
  let first ← Reader.character accepts
  fun text => some (furtherDigits accepts [first] text)

/-- Takes a sign and tells whether it is a minus. -/
def sign : Reader Bool := do
  let found ← Reader.optional (Reader.character fun first => first == '+' || first == '-')
  return found == some '-'

/-- Takes decimal digits without leading zeros. -/
def decimalDigits : Reader (List Char) :=
  (do let _ ← Reader.symbol '0'; return ['0']) <|> digits Char.isDigit

/-- The number that digits write to a base. -/
def numberOfDigits
    (base : Nat)
    (digits : List Char) :
    Nat :=
  digits.foldl (fun value digit => value * base + (hexDigit? digit).getD 0) 0

/-- The integer, which must fit 64 bits. -/
def integerValue
    (isNegative : Bool)
    (magnitude : Nat) :
    Option Value :=
  (Bounded.int64? (if isNegative then -(magnitude : Int) else magnitude)).map .integer

/-- Takes an integer that is written to a base other than ten, after what announces the base. -/
def basedInteger
    (base : Nat)
    (accepts : Char → Bool) :
    Reader Value := do
  let found ← digits accepts
  integerValue false (numberOfDigits base found)

/-- Takes an integer. -/
def integer : Reader Value
  | '0' :: 'x' :: rest => basedInteger 16 (fun digit => (hexDigit? digit).isSome) rest
  | '0' :: 'o' :: rest => basedInteger 8 (fun digit => '0' ≤ digit && digit ≤ '7') rest
  | '0' :: 'b' :: rest => basedInteger 2 (fun digit => digit == '0' || digit == '1') rest
  | text => (do
      let isNegative ← sign
      let found ← decimalDigits
      integerValue isNegative (numberOfDigits 10 found) : Reader Value) text

/-- Takes the digits after a decimal point. -/
def fraction : Reader (List Char) := do
  Reader.symbol '.'
  digits Char.isDigit

/-- Takes an exponent. -/
def exponent : Reader Int := do
  let _ ← Reader.character fun first => first == 'e' || first == 'E'
  let isNegative ← sign
  let magnitude := numberOfDigits 10 (← digits Char.isDigit)
  return if isNegative then -(magnitude : Int) else magnitude

/-- The least number that rounds to no finite float: halfway between the largest one and `2 ^ 1024`. -/
def floatLimit : Nat := Nat.pow 2 1024 - Nat.pow 2 970

/--
Digits times a power of ten have a finite nearest float. Where the count of digits alone decides,
the power is not computed.
-/
def isFinite
    (digits : Nat)
    (exponent : Int) :
    Bool :=
  let places : Int := (Nat.toDigits 10 digits).length + exponent
  if digits = 0 ∨ places ≤ 308 then true
  else if 310 ≤ places then false
  else
    match exponent with
    | .ofNat power => digits * Nat.pow 10 power < floatLimit
    | .negSucc power => digits < floatLimit * Nat.pow 10 (power + 1)

/-- Takes a float with a fraction or an exponent; a positive one must be finite. -/
def numericFloat : Reader FloatValue := do
  let isNegative ← sign
  let whole ← decimalDigits
  let part ← Reader.optional fraction
  let power ← if part.isSome then Reader.optional exponent else some <$> exponent
  let digits := numberOfDigits 10 (whole ++ part.getD [])
  let scale := power.getD 0 - (part.getD []).length
  guard (isNegative || isFinite digits scale)
  return .finite isNegative digits scale

/-- Takes an infinity or what is no number. -/
def specialFloat : Reader FloatValue := do
  let isNegative ← sign
  (do Reader.word "inf".toList; return .infinite isNegative) <|>
    (do Reader.word "nan".toList; return .notANumber)

/-- Takes a float. -/
def float : Reader Value :=
  .float <$> (numericFloat <|> specialFloat)

end Spreadsheet.Toml
