import ManifestLint.Text.Digits
import ManifestLint.Text.Word
import ManifestLint.Toml.Value

/-!
# Truth values, numbers and dates of settings files

None of these contains a blank, except for a date and a time divided by one. So the longest run of
characters that can stand in one of them is taken, and must be one of them as a whole.
-/
namespace ManifestLint.Toml

/-- The characters of truth values, numbers and dates. -/
def isScalarChar (c : Char) : Bool :=
  c.isAlphanum || c == '+' || c == '-' || c == '_' || c == '.' || c == ':'

/-- Digits of a class with single underscores between them; gives the digits. -/
def grouped? (isDigit : Char → Bool) : List Char → Option (List Char)
  | [] => none
  | [c] => if isDigit c then some [c] else none
  | c :: '_' :: rest => if isDigit c then (grouped? isDigit rest).map (c :: ·) else none
  | c :: rest => if isDigit c then (grouped? isDigit rest).map (c :: ·) else none

/-- Digits without a superfluous leading zero. -/
def wholePart? (text : List Char) : Option (List Char) := do
  let digits ← grouped? Char.isDigit text
  if digits.head? == some '0' && text.length != 1 then none else some digits

/-- Splits off a sign; tells whether it was a minus. -/
def splitSign : List Char → Bool × List Char
  | '-' :: rest => (true, rest)
  | '+' :: rest => (false, rest)
  | text => (false, text)

/-- The number that digits of a base write. -/
def natInBase (base : Nat) (digits : List Char) : Nat :=
  digits.foldl (fun n c => base * n + (Text.hexValue? c).getD 0) 0

/-- Whether a number without a sign is written in a base other than ten and fits 63 bits. -/
def isBasedInteger : List Char → Bool
  | '0' :: 'x' :: digits => fits 16 (fun c => (Text.hexValue? c).isSome) digits
  | '0' :: 'o' :: digits => fits 8 (fun c => '0' ≤ c && c ≤ '7') digits
  | '0' :: 'b' :: digits => fits 2 (fun c => c == '0' || c == '1') digits
  | _ => false
where
  /-- Whether a text is a number in a base that fits 63 bits. -/
  fits (base : Nat) (isDigit : Char → Bool) (text : List Char) : Bool :=
    (grouped? isDigit text).any fun digits => natInBase base digits < Text.signedBound

/-- Whether a text is an integer of 64 bits. -/
def isInteger (text : List Char) : Bool :=
  let (negative, digits) := splitSign text
  isBasedInteger text || (wholePart? digits).any fun digits =>
    Text.natOfDigits digits < if negative then Text.signedBound + 1 else Text.signedBound

/-- The exponent of a number: a sign and digits. -/
def exponent? (text : List Char) : Option Int := do
  let (negative, digits) := splitSign text
  let n := Text.natOfDigits (← grouped? Char.isDigit digits)
  some (if negative then -(n : Int) else n)

/-- The least number that does not round to a finite double: halfway above the greatest one. -/
def doubleBound : Nat := Nat.pow 2 1024 - Nat.pow 2 970

/-- Whether `digits * 10 ^ exponent` is too large for a double, which rounds to nearest. Beyond the
range where the answer is plain from the number of digits, no power is computed. -/
def overflows (digits : List Char) (exponent : Int) : Bool :=
  let n := Text.natOfDigits digits
  let size := (Text.digitsOfNat n).length + exponent
  if n = 0 || size < 300 then false
  else if 400 < size then true
  else if 0 ≤ exponent then doubleBound ≤ n * Nat.pow 10 exponent.toNat
  else doubleBound * Nat.pow 10 (-exponent).toNat ≤ n

/-- The fraction and the exponent of a number behind its whole part; one of them must be there. -/
def fractionAndExponent? : List Char → Option (List Char × Int)
  | '.' :: rest => do
    let isMark c := c == 'e' || c == 'E'
    let digits ← grouped? Char.isDigit (rest.takeWhile (!isMark ·))
    match rest.dropWhile (!isMark ·) with
    | [] => some (digits, 0)
    | _ :: rest => some (digits, ← exponent? rest)
  | 'e' :: rest | 'E' :: rest => do some ([], ← exponent? rest)
  | _ => none

/-- Whether a text is a number with a fraction or an exponent, infinite or no number at all. A
negative number may be too large for a double, a positive one may not. -/
def isFloat (text : List Char) : Bool :=
  let (negative, unsigned) := splitSign text
  if unsigned == "inf".toList || unsigned == "nan".toList then true
  else
    let isWhole c := c.isDigit || c == '_'
    match wholePart? (unsigned.takeWhile isWhole),
        fractionAndExponent? (unsigned.dropWhile isWhole) with
    | some whole, some (fraction, exponent) =>
      negative || !overflows (whole ++ fraction) (exponent - fraction.length)
    | _, _ => false

/-- A number of two digits up to a bound, at the beginning of a text. -/
def twoDigits? (least greatest : Nat) : List Char → Option (Nat × List Char)
  | a :: b :: rest =>
    let n := Text.natOfDigits [a, b]
    if a.isDigit && b.isDigit && least ≤ n && n ≤ greatest then some (n, rest) else none
  | _ => none

/-- The days of a month. -/
def daysOf (year month : Nat) : Nat :=
  if month = 2 then
    if year % 4 = 0 && (year % 100 != 0 || year % 400 = 0) then 29 else 28
  else if month = 4 || month = 6 || month = 9 || month = 11 then 30
  else 31

/-- The text after a given character. -/
def expect? (c : Char) : List Char → Option (List Char)
  | d :: rest => if d = c then some rest else none
  | [] => none

/-- The text after a date at its beginning. -/
def afterDate? : List Char → Option (List Char)
  | a :: b :: c :: d :: '-' :: rest => do
    guard ([a, b, c, d].all Char.isDigit)
    let (month, rest) ← twoDigits? 1 12 rest
    let (_, rest) ← twoDigits? 1 (daysOf (Text.natOfDigits [a, b, c, d]) month)
      (← expect? '-' rest)
    some rest
  | _ => none

/-- The text after a time of day at its beginning. A minute may have a sixty-first second. -/
def afterTime? (text : List Char) : Option (List Char) := do
  let (_, rest) ← twoDigits? 0 23 text
  let (_, rest) ← twoDigits? 0 59 (← expect? ':' rest)
  let (_, rest) ← twoDigits? 0 60 (← expect? ':' rest)
  match rest with
  | '.' :: fraction =>
    guard (fraction.head?.any Char.isDigit)
    some (fraction.dropWhile Char.isDigit)
  | rest => some rest

/-- Whether a text is the offset of a time zone. -/
def isOffset : List Char → Bool
  | ['Z'] | ['z'] => true
  | '+' :: rest | '-' :: rest =>
    ((do
      let (_, rest) ← twoDigits? 0 23 rest
      let (_, rest) ← twoDigits? 0 59 (← expect? ':' rest)
      some rest) : Option (List Char)) == some []
  | _ => false

/-- Whether a text is a time of day, perhaps with the offset of a time zone. -/
def isZonedTime (text : List Char) : Bool :=
  (afterTime? text).any fun rest => rest.isEmpty || isOffset rest

/-- Whether a text is a date, a time of day, or both divided by a `T`. -/
def isDatetime (text : List Char) : Bool :=
  afterTime? text == some [] ||
    match afterDate? text with
    | some [] => true
    | some ('T' :: time) | some ('t' :: time) => isZonedTime time
    | _ => false

/-- Whether a text is a date and nothing more. -/
def isDate (text : List Char) : Bool := afterDate? text == some []

/-- The truth value, number or date at the beginning of a text. A time that follows a date after a
blank belongs to it. -/
def scalar? (text : List Char) : Option (Value × List Char) :=
  let run := text.takeWhile isScalarChar
  let rest := text.dropWhile isScalarChar
  if run == "true".toList then some (.boolean true, rest)
  else if run == "false".toList then some (.boolean false, rest)
  else if isDatetime run then
    match isDate run, rest with
    -- A blank behind a date may divide it from a time.
    | true, ' ' :: after =>
      let time := after.takeWhile isScalarChar
      if time.isEmpty then some (.datetime (String.ofList run), rest)
      else if isZonedTime time then
        some (.datetime (String.ofList (run ++ ' ' :: time)), after.dropWhile isScalarChar)
      else none
    | _, _ => some (.datetime (String.ofList run), rest)
  else if isFloat run then some (.float (String.ofList run), rest)
  else if isInteger run then some (.integer (String.ofList run), rest)
  else none

end ManifestLint.Toml
