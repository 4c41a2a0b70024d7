import ManifestLint.Json.Basic
import ManifestLint.Text.Digits
import ManifestLint.Text.Shortest

/-!
# Numbers of JSON documents

An integer literal that fits 64 bits, signed or unsigned, is that integer; `-0` and every other
literal is a double. The significand of a double takes the leading digits that fit an unsigned word
of 64 bits: further digits of the whole part only raise the exponent, further digits of the
fraction are dropped. The significand is then multiplied or divided once by a power of ten.
-/
namespace ManifestLint

/-- The parts of a number literal. -/
structure NumberLiteral where
  negative : Bool
  whole : List Char
  fraction : List Char
  exponent : Option Int
  deriving Repr

namespace NumberLiteral

/-- Splits off the exponent of a literal: a sign may stand before its digits. -/
def readExponent : List Char → Option Int
  | '+' :: digits => magnitude digits
  | '-' :: digits => (magnitude digits).map (- ·)
  | digits => magnitude digits
where
  /-- A number of at least one digit and nothing else. -/
  magnitude (digits : List Char) : Option Int :=
    if digits.isEmpty || !digits.all Char.isDigit then none
    else some (Text.natOfDigits digits)

/-- Reads what follows the whole part: a fraction of at least one digit, an exponent, both or
neither. -/
def readTail (negative : Bool) (whole : List Char) : List Char → Option NumberLiteral
  | [] => some ⟨negative, whole, [], none⟩
  | '.' :: rest =>
    let fraction := rest.takeWhile Char.isDigit
    if fraction.isEmpty then none
    else match rest.dropWhile Char.isDigit with
      | [] => some ⟨negative, whole, fraction, none⟩
      | 'e' :: digits | 'E' :: digits =>
        (readExponent digits).map fun e => ⟨negative, whole, fraction, some e⟩
      | _ => none
  | 'e' :: digits | 'E' :: digits =>
    (readExponent digits).map fun e => ⟨negative, whole, [], some e⟩
  | _ => none

/-- Reads an unsigned literal: a whole part without superfluous leading zeros, then the rest. -/
def readUnsigned (negative : Bool) (text : List Char) : Option NumberLiteral :=
  let whole := text.takeWhile Char.isDigit
  if whole.isEmpty || (whole.length != 1 && whole.head? == some '0') then none
  else readTail negative whole (text.dropWhile Char.isDigit)

/-- Reads a whole literal. -/
def ofChars? : List Char → Option NumberLiteral
  | '-' :: rest => readUnsigned true rest
  | text => readUnsigned false text

/-- Appends digits to a significand as long as it fits 64 bits; what did not fit is left over. -/
def extend (significand : Nat) : List Char → Nat × List Char
  | [] => (significand, [])
  | c :: rest =>
    let next := 10 * significand + Text.digitValue c
    if next < Text.wordCount then extend next rest else (significand, c :: rest)

/-- The double nearest to a significand, multiplied or divided by a power of ten. Without a finite
result there is none. -/
def scale (significand : Nat) (exponent : Int) : Option Float :=
  let f := significand.toUInt64.toFloat
  if exponent < -616 then some 0
  -- Powers of ten beyond the range of doubles are applied in two steps.
  else if exponent < -308 then
    some (f / Float.ofScientific 1 false 308 / Float.ofScientific 1 false (-exponent - 308).toNat)
  else if exponent < 0 then some (f / Float.ofScientific 1 false (-exponent).toNat)
  else if significand = 0 then some 0
  else if 308 < exponent then none
  else
    let product := f * Float.ofScientific 1 false exponent.toNat
    if product.isInf then none else some product

/-- The double that a literal denotes, if it is finite. -/
def double? (literal : NumberLiteral) : Option JsonNumber :=
  let (whole, surplus) := extend 0 literal.whole
  let (significand, dropped) := extend whole literal.fraction
  let exponent := (surplus.length : Int) - (literal.fraction.length - dropped.length)
    + literal.exponent.getD 0
  (scale significand exponent).map fun f =>
    .double (if literal.negative then -f else f).toBits

/-- The number that a literal denotes. -/
def value? (literal : NumberLiteral) : Option JsonNumber :=
  if literal.fraction.isEmpty && literal.exponent.isNone then
    let n := Text.natOfDigits literal.whole
    if literal.negative then
      if 0 < n ∧ n ≤ Text.signedBound then some (.int (-n)) else literal.double?
    else if n < Text.wordCount then some (.int n) else literal.double?
  else literal.double?

end NumberLiteral

namespace JsonNumber

/-- A positive decimal in text: positional from `1e-5` up to, but not including, `1e16`, with at
least one digit on either side of the point; otherwise one digit before the point and an exponent
with its sign. -/
def decimalText (d : Text.Decimal) : List Char :=
  let digits := Text.digitsOfNat d.digits
  let length : Int := digits.length
  let point := length + d.exponent
  if 0 ≤ d.exponent ∧ point ≤ 16 then
    digits ++ List.replicate d.exponent.toNat '0' ++ ['.', '0']
  else if 0 < point ∧ point ≤ 16 then
    digits.take point.toNat ++ '.' :: digits.drop point.toNat
  else if -5 < point ∧ point ≤ 0 then
    '0' :: '.' :: (List.replicate (-point).toNat '0' ++ digits)
  else
    let exponent := point - 1
    let mantissa := match digits with
      | [] => []
      | [d] => [d]
      | d :: rest => d :: '.' :: rest
    let sign := if exponent < 0 then '-' else '+'
    mantissa ++ 'e' :: sign :: Text.digitsOfNat exponent.natAbs

/-- The text of a double: its sign, and the shortest decimal of its magnitude. -/
def doubleText (bits : UInt64) : List Char :=
  let sign := if bits.toNat < Text.signedBound then [] else ['-']
  let magnitude := Text.Binary.ofBits bits
  if magnitude.significand = 0 then sign ++ ['0', '.', '0']
  else sign ++ decimalText magnitude.shortest

/-- The text of a number. -/
def text : JsonNumber → List Char
  | .int (.ofNat n) => Text.digitsOfNat n
  | .int (.negSucc n) => '-' :: Text.digitsOfNat (n + 1)
  | .double bits => doubleText bits

end JsonNumber

end ManifestLint
