/-!
# Node patterns

A node is matched to hosts by a regular expression. Its text may stand between slashes, and what is
between them is the body. A body is anchored at the end by a dollar sign that is not escaped: the
run of backslashes before it is even. A domain is spelled with its dots escaped or not, and counts
where it begins a segment of a host name: at the beginning, after a lone `^`, or after a dot.
-/
namespace ManifestLint.NodePattern

/-- The body of a pattern, and whether it stands between slashes. -/
def split : List Char → Bool × List Char
  | '/' :: rest => if rest.getLast? = some '/' then (true, rest.dropLast) else (false, '/' :: rest)
  | text => (false, text)

/-- Puts a body between slashes again if it stood between slashes. -/
def join (delimited : Bool) (body : List Char) : List Char :=
  if delimited then '/' :: (body ++ ['/']) else body

@[simp] theorem join_split (text : List Char) : join (split text).1 (split text).2 = text := by
  unfold split
  split
  · split
    next ends =>
      obtain ⟨body, rfl⟩ := List.getLast?_eq_some_iff.mp ends
      simp [join]
    · rfl
  · rfl

/-- Whether a body, read from its end, ends with a dollar sign that is not escaped. -/
def anchoredReversed : List Char → Bool
  | '$' :: rest => (rest.takeWhile (· == '\\')).length % 2 == 0
  | _ => false

/-- Whether a body is anchored at the end. -/
def isEndAnchored (body : List Char) : Bool := anchoredReversed body.reverse

/-- Drops the end anchors of a body that is read from its end. -/
def dropAnchorsReversed : List Char → List Char
  | [] => []
  | c :: rest => if anchoredReversed (c :: rest) then dropAnchorsReversed rest else c :: rest

/-- A body without the anchors at its end. -/
def dropEndAnchors (body : List Char) : List Char := (dropAnchorsReversed body.reverse).reverse

/-- Whether a body begins with an anchor. -/
def isStartAnchored (body : List Char) : Bool := body.head? == some '^'

/-- A body with an anchor at its beginning. -/
def anchorStart (body : List Char) : List Char :=
  if isStartAnchored body then body else '^' :: body

/-- A domain with its dots escaped. -/
def escapeDots (domain : List Char) : List Char :=
  domain.flatMap fun c => if c = '.' then ['\\', '.'] else [c]

/-- The spellings of a domain: escaped dots first, then as it is. -/
def spellings (domain : String) : List (List Char) := [escapeDots domain.toList, domain.toList]

/-- Whether a segment of a host name begins after a text. -/
def startsSegment (before : List Char) : Bool :=
  before.isEmpty || before == ['^'] || before.getLast? == some '.'

/-- Where a spelling occurs in a text that starts at an offset. The search goes on behind each
occurrence, so occurrences do not overlap; `skip` characters belong to the one before. -/
def offsets (spelling : List Char) (offset skip : Nat) : List Char → List Nat
  | [] => if spelling.isEmpty then [offset] else []
  | c :: rest =>
    match skip with
    | skip + 1 => offsets spelling (offset + 1) skip rest
    | 0 =>
      -- The character at hand is the first of the occurrence, so one fewer is skipped.
      if spelling.isPrefixOf (c :: rest) then
        offset :: offsets spelling (offset + 1) (spelling.length - 1) rest
      else offsets spelling (offset + 1) 0 rest

/-- Whether a spelling is found in a body where a segment begins. -/
def spells (body spelling : List Char) : Bool :=
  (offsets spelling 0 0 body).any fun offset => startsSegment (body.take offset)

/-- The first of some domains that is found in a body, in either spelling. -/
def domainIn? (domains : List String) (body : List Char) : Option String :=
  domains.find? fun domain => (spellings domain).any (spells body)

/-- A text without a given ending. -/
def dropEnding? (ending text : List Char) : Option (List Char) :=
  if ending.isSuffixOf text then some (text.take (text.length - ending.length)) else none

/-- One round of stripping domains: what is before the first domain that ends a body, its end
anchors left out, in a whole number of segments. -/
def stripOnce? (domains : List String) (body : List Char) : Option (List Char) :=
  (domains.flatMap spellings).findSome? fun spelling =>
    (dropEnding? spelling (dropEndAnchors body)).filter startsSegment

/-- Strips domains off the end of a body until none is left. A round that makes nothing shorter,
which only an empty domain allows, is the last here. The bare loop, whose rounds are the relation
`Strips`, has no such stop: on a useless round it strips nothing over and over and never returns.
Where the bare loop does return, it returns the same as this. -/
def stripDomains (domains : List String) (body : List Char) : List Char :=
  match stripOnce? domains body with
  | none => body
  | some shorter =>
    if shorter.length < body.length then stripDomains domains shorter else body
termination_by body.length

end ManifestLint.NodePattern
