import ManifestLint.Text.Digits

/-!
# Blanks, comments, keys and strings of settings files

Every reader takes a list of characters and gives what it read together with the characters that are
left, or nothing.
-/
namespace ManifestLint.Toml

/-- Blanks within a line. -/
def isBlank (c : Char) : Bool := c == ' ' || c == '\t'

/-- The text after the blanks it begins with. -/
def skipBlanks (text : List Char) : List Char := text.dropWhile isBlank

/-- The text after a line break. -/
def newline? : List Char → Option (List Char)
  | '\n' :: rest => some rest
  | '\r' :: '\n' :: rest => some rest
  | _ => none

/-- The characters of comments and strings: no control characters but the tab. -/
def isPlain (c : Char) : Bool := c == '\t' || (0x20 ≤ c.toNat && c.toNat != 0x7F)

/-- The text after blanks, a comment and the end of the line, which must follow. -/
def lineEnd? (text : List Char) : Option (List Char) :=
  let rest := match skipBlanks text with
    | '#' :: comment => comment.dropWhile isPlain
    | rest => rest
  match rest with
  | [] => some []
  | rest => newline? rest

/-- The text after blanks, line breaks and comments; `comment` tells that one has begun. -/
def skipLines (comment : Bool) : List Char → List Char
  | [] => []
  | '\r' :: '\n' :: rest => skipLines false rest
  | c :: rest =>
    if c == '\n' then skipLines false rest
    else if comment then if isPlain c then skipLines true rest else c :: rest
    else if isBlank c then skipLines false rest
    else if c == '#' then skipLines true rest
    else c :: rest

/-- The character of a code point written in hexadecimal digits. -/
def unicode? (digits : List Char) : Option Char := do
  let n ← Text.natOfHex? digits
  if n.isValidChar then some (Char.ofNat n) else none

/-- The character a one-letter escape stands for. -/
def escaped? : Char → Option Char
  | 'b' => some '\x08'
  | 't' => some '\t'
  | 'n' => some '\n'
  | 'f' => some '\x0c'
  | 'r' => some '\r'
  | '"' => some '"'
  | '\\' => some '\\'
  | _ => none

/-- Puts a character in front of what a reader gives. -/
def prepend (c : Char) (read : Option (List Char × List Char)) :
    Option (List Char × List Char) :=
  read.map fun (chars, rest) => (c :: chars, rest)

/-- The rest of a string between double quotes on one line. -/
def basicString : List Char → Option (List Char × List Char)
  | [] => none
  | '"' :: rest => some ([], rest)
  | '\\' :: 'u' :: a :: b :: c :: d :: rest => do
    prepend (← unicode? [a, b, c, d]) (basicString rest)
  | '\\' :: 'U' :: a :: b :: c :: d :: e :: f :: g :: h :: rest => do
    prepend (← unicode? [a, b, c, d, e, f, g, h]) (basicString rest)
  | '\\' :: c :: rest => do prepend (← escaped? c) (basicString rest)
  | c :: rest => if isPlain c then prepend c (basicString rest) else none

/-- The rest of a string between single quotes on one line. -/
def literalString : List Char → Option (List Char × List Char)
  | [] => none
  | '\'' :: rest => some ([], rest)
  | c :: rest => if isPlain c then prepend c (literalString rest) else none

/-- The end of a string over several lines, after its three closing quotes: up to two more quotes
belong to the string. -/
def closingQuotes (quote : Char) : List Char → List Char × List Char
  | a :: b :: rest =>
    if a == quote then if b == quote then ([a, b], rest) else ([a], b :: rest)
    else ([], a :: b :: rest)
  | [a] => if a == quote then ([a], []) else ([], [a])
  | [] => ([], [])

/-- The rest of a string between three double quotes. After a backslash at the end of a line,
`trim` tells that blanks and line breaks are passed over. -/
def basicLines (trim : Bool) : List Char → Option (List Char × List Char)
  | [] => none
  | '"' :: '"' :: '"' :: rest => some (closingQuotes '"' rest)
  | '\r' :: '\n' :: rest =>
    if trim then basicLines true rest else prepend '\n' (basicLines false rest)
  | '\\' :: 'u' :: a :: b :: c :: d :: rest => do
    prepend (← unicode? [a, b, c, d]) (basicLines false rest)
  | '\\' :: 'U' :: a :: b :: c :: d :: e :: f :: g :: h :: rest => do
    prepend (← unicode? [a, b, c, d, e, f, g, h]) (basicLines false rest)
  | '\\' :: c :: rest =>
    if (newline? (skipBlanks (c :: rest))).isSome then basicLines true (c :: rest)
    else do prepend (← escaped? c) (basicLines false rest)
  | c :: rest =>
    if trim && (isBlank c || c == '\n') then basicLines true rest
    else if isPlain c && c != '\\' || c == '\n' then prepend c (basicLines false rest)
    else none

/-- The rest of a string between three single quotes. -/
def literalLines : List Char → Option (List Char × List Char)
  | [] => none
  | '\'' :: '\'' :: '\'' :: rest => some (closingQuotes '\'' rest)
  | '\r' :: '\n' :: rest => prepend '\n' (literalLines rest)
  | c :: rest =>
    if isPlain c || c == '\n' then prepend c (literalLines rest) else none

/-- A string that begins with a quote of either kind. A line break right after three quotes does not
belong to the string. -/
def string? : List Char → Option (List Char × List Char)
  | '"' :: '"' :: '"' :: rest => basicLines false ((newline? rest).getD rest)
  | '\'' :: '\'' :: '\'' :: rest => literalLines ((newline? rest).getD rest)
  | '"' :: rest => basicString rest
  | '\'' :: rest => literalString rest
  | _ => none

/-- The characters of keys that need no quotes. -/
def isBareKeyChar (c : Char) : Bool := c.isAlphanum || c == '_' || c == '-'

/-- One segment of a key. -/
def keySegment? : List Char → Option (String × List Char)
  | '"' :: rest => (basicString rest).map fun (key, rest) => (String.ofList key, rest)
  | '\'' :: rest => (literalString rest).map fun (key, rest) => (String.ofList key, rest)
  | text =>
    let key := text.takeWhile isBareKeyChar
    if key.isEmpty then none else some (String.ofList key, text.dropWhile isBareKeyChar)

/-- The segments of a key, divided by dots with blanks around them. Each segment takes one of the
given number of rounds. -/
def keySegments? : Nat → List Char → Option (List String × List Char)
  | 0, _ => none
  | rounds + 1, text => do
    let (segment, rest) ← keySegment? (skipBlanks text)
    match skipBlanks rest with
    | '.' :: rest =>
      let (segments, rest) ← keySegments? rounds rest
      some (segment :: segments, rest)
    | rest => some ([segment], rest)

/-- Keys, arrays and inline tables are nested less deep than this. -/
def depthLimit : Nat := 80

/-- A key: the segments before the last, the last, and the text behind the blanks that follow. -/
def key? (text : List Char) : Option (List String × String × List Char) := do
  let (segments, rest) ← keySegments? (depthLimit - 1) text
  let last ← segments.getLast?
  some (segments.dropLast, last, rest)

end ManifestLint.Toml
