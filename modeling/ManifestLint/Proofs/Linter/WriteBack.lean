import ManifestLint.Linter.Run
import ManifestLint.Proofs.Linter.RepairPass
import ManifestLint.Proofs.Token.RoundTrip

/-!
# What is written back

Whatever the rules are, a pass changes a stream by the edits it makes and by nothing else, and the
edits it counts are those it made. A file is written if the pass succeeded with an edit, and then it
holds the tokens it held before, each with the text of the last edit made to it. In every other case
the files stay what they are.
-/
namespace ManifestLint

/-! ### Edits one after the other -/

namespace TokenStream

variable {s t : TokenStream}

/-- The last edit of a list that names a token. -/
def lastEdit? (edits : List Edit) (i : Nat) : Option Edit :=
  (edits.filter fun edit => edit.token == i).getLast?

/-- The text of a token after edits: that of the last one that names it. -/
def editedText (edits : List Edit) (i : Nat) (text : String) : String :=
  ((lastEdit? edits i).map Edit.newText).getD text

theorem editedText_cons (edit : Edit) (edits : List Edit) (i : Nat) (text : String) :
    editedText (edit :: edits) i text =
      editedText edits i (if i = edit.token then edit.newText else text) := by
  by_cases same : edit.token = i
  · -- The edit is the last one only if no later one names the token.
    cases later : lastEdit? edits i <;>
      simp_all [editedText, lastEdit?, List.getLast?_cons]
  · have other : i ≠ edit.token := fun equal => same equal.symm
    simp [editedText, lastEdit?, same, other]

/-- Edits that all apply rewrite the texts of the tokens they name, the last one of each. -/
theorem rewrites_of_edits {edits : List Edit} (edited : edits.foldlM edit? s = some t) :
    s.Rewrites t (editedText edits) := by
  induction edits generalizing s with
  | nil =>
    cases edited
    exact Rewrites.refl _
  | cons edit edits ih =>
    rw [List.foldlM_cons, Option.bind_eq_bind, Option.bind_eq_some_iff] at edited
    obtain ⟨next, first, later⟩ := edited
    have both := (rewrites_of_edit? first).trans (ih later)
    intro i
    rw [both i]
    simp only [editedText_cons]

/-- What holds of every token whatever its text holds of every token of a rewritten stream. -/
theorem Rewrites.forall_tokens {rewrite : Nat → String → String} {P : Token → Prop}
    (rewritten : s.Rewrites t rewrite) (anyText : ∀ token text, P token → P { token with text })
    (each : ∀ token ∈ s.tokens, P token) : ∀ token ∈ t.tokens, P token := by
  intro token member
  obtain ⟨i, here⟩ := Array.mem_iff_getElem?.mp member
  have source := rewritten i
  rw [token?, here] at source
  obtain ⟨old, there, rfl⟩ := Option.map_eq_some_iff.mp source.symm
  exact anyText old _ (each old (Array.mem_of_getElem? there))

/-- A stream read from a file, its texts rewritten and written again, is read back. -/
theorem decode?_encodePretty_of_rewrites {text : String} {rewrite : Nat → String → String}
    (read : decode? text = some s)
    (words : ∀ token ∈ s.tokens, Json.wordMembers token.extra = true)
    (rewritten : s.Rewrites t rewrite) : decode? t.encodePretty = some t := by
  have writable : ∀ token ∈ t.tokens, token.Writable :=
    rewritten.forall_tokens
      (fun _ _ holds => ⟨holds.line, holds.column, holds.unknown, holds.canonical, holds.readable,
        holds.shallow, holds.words⟩)
      (writable_of_decode? read words)
  have named : ∀ token ∈ t.tokens, TokenKind.ofTag token.tag = token.kind :=
    rewritten.forall_tokens (fun _ _ named => named) (named_of_decode? read)
  rw [decode?_encodePretty writable, reread_eq_self named]

theorem new_of_mem_nodeOf (pattern : String) : ∀ token ∈ (nodeOf pattern).tokens,
    ∃ kind text line column, token = .new kind text line column ∧
      line < Text.wordCount ∧ column < Text.wordCount := by
  intro token member
  have listed := Array.mem_toList_iff.mpr member
  simp only [nodeOf, ofList, tokens_ofTokens, List.mem_cons, List.not_mem_nil, or_false] at listed
  rcases listed with rfl | rfl | rfl | rfl <;>
    exact ⟨_, _, _, _, rfl, by decide, by decide⟩

end TokenStream

/-! ### The edits of a pass -/

namespace Linter

variable {s : TokenStream}

/-- The edits that the repairs of a rule's violations make, in order. -/
def editsOfRule (rule : Rule) (s : TokenStream) : List Violation → List Edit
  | [] => []
  | v :: rest =>
    if v.isFixable then
      match rule.fix s v with
      | .error _ => []
      | .ok edit =>
        match s.edit? edit with
        | none => editsOfRule rule s rest
        | some next => edit :: editsOfRule rule next rest
    else editsOfRule rule s rest

/-- The edits that the repairs of all rules make, in order. A refusal ends them. -/
def editsOfRules (s : TokenStream) : List (Rule × List Violation) → List Edit
  | [] => []
  | (rule, violations) :: rest =>
    editsOfRule rule s violations ++
      match (repair rule s violations).result with
      | .error _ => []
      | .ok _ => editsOfRules (repair rule s violations).stream rest

/-- The edits that a check of a stream makes. -/
def editsOf (linter : Linter) (path : String) (s : TokenStream) : List Edit :=
  if linter.fix then editsOfRules s (linter.reports (.ofStream path s linter.root)) else []

/-- A pass made edits if these, and nothing else, take the stream to the one it leaves, and it
counts them. -/
structure Made (s : TokenStream) (edits : List Edit) (pass : Pass) : Prop where
  stream : edits.foldlM TokenStream.edit? s = some pass.stream
  count : ∀ violations count, pass.result = .ok (violations, count) → count = edits.length

/-- Edits made before a pass are counted with those of the pass. -/
theorem Made.after {earlier edits : List Edit} {next : TokenStream} {pass : Pass}
    (first : earlier.foldlM TokenStream.edit? s = some next) (made : Made next edits pass)
    (violations : List Violation) :
    Made s (earlier ++ edits) (pass.prepend violations earlier.length) where
  stream := by
    rw [List.foldlM_append, first]
    exact made.stream
  count := by
    intro reported count passed
    cases result : pass.result with
    | error e => simp [Pass.prepend, result] at passed
    | ok outcome =>
      obtain ⟨others, more⟩ := outcome
      have counted := made.count others more result
      simp only [Pass.prepend, result, Except.ok.injEq, Prod.mk.injEq] at passed
      rw [List.length_append, ← counted, passed.2]

theorem Made.prepend {edits : List Edit} {pass : Pass} (made : Made s edits pass)
    (violations : List Violation) : Made s edits (pass.prepend violations 0) := by
  have none : ([] : List Edit).foldlM TokenStream.edit? s = some s := rfl
  exact Made.after none made violations

theorem made_repair (rule : Rule) (violations : List Violation) :
    Made s (editsOfRule rule s violations) (repair rule s violations) := by
  induction violations generalizing s with
  | nil => exact ⟨rfl, fun _ _ passed => by cases passed; rfl⟩
  | cons v rest ih =>
    rw [editsOfRule, repair]
    by_cases fixable : v.isFixable = true
    · rw [if_pos fixable, if_pos fixable]
      cases rule.fix s v with
      -- A refusal ends the pass without a count.
      | error e => exact ⟨rfl, fun _ _ passed => by cases passed⟩
      | ok edit =>
        cases edited : s.edit? edit with
        | none => simpa [edited] using ih.prepend [v]
        | some next =>
          have first : [edit].foldlM TokenStream.edit? s = some next := by simp [edited]
          simpa [edited] using Made.after first (ih (s := next)) [{ v with fixed := true }]
    · rw [if_neg fixable, if_neg fixable]
      exact ih.prepend [v]

theorem made_repairAll (reports : List (Rule × List Violation)) :
    Made s (editsOfRules s reports) (repairAll s reports) := by
  induction reports generalizing s with
  | nil => exact ⟨rfl, fun _ _ passed => by cases passed; rfl⟩
  | cons report rest ih =>
    obtain ⟨rule, violations⟩ := report
    have here := made_repair (s := s) rule violations
    rw [editsOfRules, repairAll]
    cases result : (repair rule s violations).result with
    | error e =>
      -- The pass ends with the edits made until the refusal.
      refine ⟨?_, fun _ _ passed => ?_⟩
      · simpa [result] using here.stream
      · cases passed
    | ok outcome =>
      obtain ⟨done, edits⟩ := outcome
      have later := Made.after here.stream (ih (s := (repair rule s violations).stream)) done
      rw [← here.count done edits result] at later
      simpa [result] using later

theorem made_checkStream (linter : Linter) (path : String) (s : TokenStream) :
    Made s (linter.editsOf path s) (linter.checkStream path s) := by
  rw [editsOf, checkStream]
  by_cases fix : linter.fix = true
  · rw [if_pos fix, if_pos fix]
    exact made_repairAll _
  · rw [if_neg fix, if_neg fix]
    exact ⟨rfl, fun _ _ passed => by cases passed; rfl⟩

end Linter

/-! ### Where a file that can be read can be written -/

namespace FileTree

/-- A place all of whose enclosing places are directories. -/
def Enclosed (t : FileTree) (place : Place) : Prop :=
  ∀ n < place.length, t.isDirectory (place.take n) = true

theorem enclosed_step {t : FileTree} {place next : Place} {segment : String}
    (enclosed : t.Enclosed place) (stepped : t.step? place segment = some next) :
    t.Enclosed next := by
  rw [step?] at stepped
  split at stepped
  next directory =>
    cases stepped
    rw [Place.step]
    split
    · exact enclosed
    split
    · intro n inside
      rw [List.length_dropLast] at inside
      have shorter : place.dropLast.take n = place.take n := by
        rw [List.dropLast_eq_take, List.take_take, Nat.min_eq_left (by omega)]
      rw [shorter]
      exact enclosed n (by omega)
    · intro n inside
      rw [List.length_append, List.length_singleton] at inside
      have within : n ≤ place.length := by omega
      rw [List.take_append_of_le_length within]
      -- Either the directory that the step starts from, or one that encloses it.
      rcases Nat.lt_or_eq_of_le within with less | rfl
      · exact enclosed n less
      · rw [List.take_length]
        exact directory
  · cases stepped

theorem enclosed_of_resolve? {t : FileTree} {path : String} {place : Place}
    (resolved : t.resolve? path = some place) : t.Enclosed place := by
  have walk (segments : List String) (start : Place) (enclosed : t.Enclosed start)
      (reached : segments.foldlM t.step? start = some place) : t.Enclosed place := by
    induction segments generalizing start with
    | nil =>
      cases reached
      exact enclosed
    | cons segment segments ih =>
      rw [List.foldlM_cons, Option.bind_eq_bind, Option.bind_eq_some_iff] at reached
      obtain ⟨next, stepped, later⟩ := reached
      exact ih next (enclosed_step enclosed stepped) later
  exact walk _ [] (fun _ none => absurd none (Nat.not_lt_zero _)) resolved

theorem exists_place_of_read? {t : FileTree} {path content : String}
    (present : t.read? path = some content) :
    ∃ place, t.resolve? path = some place ∧ t.node? place = some (.file content) := by
  have found : t.lookup? path = some (.file content) := by
    rw [read?] at present
    split at present <;> simp_all
  exact Option.bind_eq_some_iff.mp found

theorem isDirectory_of_file {t : FileTree} {place : Place} {content : String}
    (file : t.node? place = some (.file content)) : t.isDirectory place = false := by
  rw [isDirectory, file]
  rfl

theorem ne_nil_of_file {t : FileTree} {place : Place} {content : String}
    (file : t.node? place = some (.file content)) : place ≠ [] := by
  rintro rfl
  cases file

/-- A file that a path leads to can be written, in its place. -/
theorem write?_eq_put {t : FileTree} {path old : String} {place : Place}
    (resolved : t.resolve? path = some place) (file : t.node? place = some (.file old))
    (content : String) : t.write? path content = some (t.put place (.file content)) := by
  have parent : t.isDirectory place.dropLast = true := by
    have positive := List.length_pos_iff.mpr (ne_nil_of_file file)
    rw [List.dropLast_eq_take]
    exact enclosed_of_resolve? resolved _ (by omega)
  rw [write?, resolved]
  simp [isDirectory_of_file file, parent]

/-- A file that can be read can be written, and nothing else changes then. -/
theorem exists_write?_of_read? {t : FileTree} {path old : String}
    (present : t.read? path = some old) (content : String) :
    ∃ u, t.write? path content = some u ∧
      ∀ place, t.resolve? path ≠ some place → u.node? place = t.node? place := by
  obtain ⟨place, resolved, file⟩ := exists_place_of_read? present
  refine ⟨_, write?_eq_put resolved file content, fun other elsewhere => ?_⟩
  have differs : other ≠ place := fun same => elsewhere (same ▸ resolved)
  rw [node?_put t place other _ (ne_nil_of_file file), if_neg differs]

end FileTree

/-! ### A file after a check -/

namespace Linter

section File

variable {linter : Linter} {files : FileTree} {path content : String} {s : TokenStream}
  (present : files.read? path = some content) (read : TokenStream.decode? content = some s)
include present read

theorem files_checkFile_of_idle (idle : linter.editsOf path s = [] ∨
    ∃ e, (linter.checkStream path s).result = .error e) :
    (linter.checkFile files path).files = files := by
  rw [checkFile, present]
  simp only [read]
  cases result : (linter.checkStream path s).result with
  | error e => rfl
  | ok outcome =>
    obtain ⟨violations, count⟩ := outcome
    have none : linter.editsOf path s = [] := by
      rcases idle with none | ⟨e, refused⟩
      · exact none
      · rw [result] at refused
        cases refused
    have zero : count = 0 := by
      rw [(made_checkStream linter path s).count violations count result, none]
      rfl
    rw [zero]
    rfl

/-- The file was read, so it can be written, and it then holds the stream of the pass. -/
theorem exists_checkFile_of_edits (edits : linter.editsOf path s ≠ [])
    (granted : ∀ e, (linter.checkStream path s).result ≠ .error e) :
    ∃ violations after,
      files.write? path (linter.checkStream path s).stream.encodePretty = some after ∧
      linter.checkFile files path = ⟨after, .ok (violations, (linter.editsOf path s).length)⟩ ∧
      ∀ place, files.resolve? path ≠ some place → after.node? place = files.node? place := by
  cases result : (linter.checkStream path s).result with
  | error e => exact absurd result (granted e)
  | ok outcome =>
    obtain ⟨violations, count⟩ := outcome
    have counted := (made_checkStream linter path s).count violations count result
    have positive : count ≠ 0 := by
      rw [counted]
      exact fun zero => edits (List.length_eq_zero_iff.mp zero)
    obtain ⟨after, written, elsewhere⟩ := FileTree.exists_write?_of_read? present
      (linter.checkStream path s).stream.encodePretty
    refine ⟨violations, after, written, ?_, elsewhere⟩
    rw [checkFile, present, ← counted]
    simp only [read, result, if_neg positive, written]

end File

/-- Whatever the rules are, a check of a token file changes nothing but texts, and never leaves a
file half repaired. The edits it makes all apply, one after the other, and lead to the stream it
leaves. If there are none or a repair is refused, the files stay what they are. Otherwise the edits
are counted, the file is written, every other one stays what it is, and the stream of the check is
read from it. That one has the tokens and links of the stream read before, each token with the text
of the last edit that names it and everything else as it was. -/
theorem checkFile_changes_texts_only (linter : Linter) {files : FileTree} {path content : String}
    {s : TokenStream} (present : files.read? path = some content)
    (read : TokenStream.decode? content = some s)
    (words : ∀ token ∈ s.tokens, Json.wordMembers token.extra = true) :
    (linter.editsOf path s).foldlM TokenStream.edit? s =
        some (linter.checkStream path s).stream ∧
      ((linter.editsOf path s = [] ∨ ∃ e, (linter.checkStream path s).result = .error e) →
        (linter.checkFile files path).files = files) ∧
      (linter.editsOf path s ≠ [] → (∀ e, (linter.checkStream path s).result ≠ .error e) →
        ∃ violations text t,
          (linter.checkFile files path).result =
            .ok (violations, (linter.editsOf path s).length) ∧
          (linter.checkFile files path).files.read? path = some text ∧
          TokenStream.decode? text = some t ∧ t = (linter.checkStream path s).stream ∧
          t.size = s.size ∧ t.next = s.next ∧ t.prev = s.prev ∧
          (∀ i, t.token? i = (s.token? i).map fun token =>
            { token with text := TokenStream.editedText (linter.editsOf path s) i token.text }) ∧
          ∀ place, files.resolve? path ≠ some place →
            (linter.checkFile files path).files.node? place = files.node? place) := by
  have made := made_checkStream linter path s
  refine ⟨made.stream, files_checkFile_of_idle present read, fun edits granted => ?_⟩
  obtain ⟨violations, after, written, checked, elsewhere⟩ :=
    exists_checkFile_of_edits present read edits granted
  have rewritten := TokenStream.rewrites_of_edits made.stream
  have kinds := rewritten.kinds
  rw [checked]
  exact ⟨violations, _, _, rfl, FileTree.read?_of_write? written,
    TokenStream.decode?_encodePretty_of_rewrites read words rewritten, rfl,
    TokenStream.size_congr kinds, TokenStream.next_congr kinds, TokenStream.prev_congr kinds,
    rewritten, elsewhere⟩

/-- A tree with one token file, of a node with a pattern that has three problems. -/
def oneFile : FileTree :=
  (FileTree.empty.makeDirectories ["m"]).put ["m", "site.tokens.json"]
    (.file (TokenStream.nodeOf "db1\\.wmnet$").encode)

/-- Three edits are made to the same token, and the text of the last one is what is read back. -/
theorem checkFile_changes_text_of_pattern :
    oneFile.read? "/m/site.tokens.json" = some (TokenStream.nodeOf "db1\\.wmnet$").encode ∧
      ∃ violations text t,
        (repairing.checkFile oneFile "/m/site.tokens.json").result = .ok (violations, 3) ∧
        (repairing.checkFile oneFile "/m/site.tokens.json").files.read? "/m/site.tokens.json" =
          some text ∧
        TokenStream.decode? text = some t ∧ t.text 1 = "^db1\\." := by
  have present : oneFile.read? "/m/site.tokens.json" =
      some (TokenStream.nodeOf "db1\\.wmnet$").encode := rfl
  have new := TokenStream.new_of_mem_nodeOf "db1\\.wmnet$"
  have three : repairing.editsOf "/m/site.tokens.json" (.nodeOf "db1\\.wmnet$") =
      [⟨1, "^db1\\.wmnet$"⟩, ⟨1, "^db1\\.wmnet"⟩, ⟨1, "^db1\\."⟩] := by decide +kernel
  have granted : (repairing.checkStream "/m/site.tokens.json"
      (.nodeOf "db1\\.wmnet$")).result.isOk = true := by decide +kernel
  obtain ⟨_, _, changed⟩ := checkFile_changes_texts_only repairing present
    (TokenStream.decode?_encode_of_new new) fun token member =>
      (TokenStream.writable_of_new new token member).words
  obtain ⟨violations, text, t, result, written, decoded, _, _, _, _, tokens, _⟩ :=
    changed (by rw [three]; simp) fun e refused => by
      rw [refused] at granted
      cases granted
  rw [three] at result tokens
  refine ⟨present, violations, text, t, result, written, decoded, ?_⟩
  rw [TokenStream.text, tokens 1]
  rfl

end Linter

end ManifestLint
