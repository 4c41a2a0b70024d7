import Mathlib.Data.List.Forall2
import ManifestLint.Proofs.Json.Canonical
import ManifestLint.Proofs.Json.RoundTrip
import ManifestLint.Proofs.Token.Edit
import ManifestLint.Token.Codec

/-!
# Token files round-trip

A token that was read from a file can be written: its numbers are words, the fields the linter does
not look at are in canonical form and never take a name the linter looks at. Neither an edit nor a
change of kind touches any of this, so a stream can be written after any of them, and what is read
back differs at most in the tags that no longer named their token's kind.
-/
namespace ManifestLint

/-! ### Tokens that can be written -/

/-- A token whose fields a token file can hold. -/
structure Token.Writable (token : Token) : Prop where
  line : token.line < Text.wordCount
  column : token.column < Text.wordCount
  unknown : ∀ member ∈ token.extra, member.1 ∉ tokenFields
  canonical : Json.sortMembers (Json.canonicalMembers token.extra) = token.extra
  readable : Json.readableMembers token.extra = true
  shallow : Json.depthMembers token.extra + 2 ≤ Json.depthLimit
  words : Json.wordMembers token.extra = true

/-- A token as it is read back after it was written. -/
def Token.reread (token : Token) : Token := { token with tag := token.writtenTag }

namespace Token

/-- The members of a token object that are kept as they are. -/
def kept (members : List (String × Json)) : List (String × Json) :=
  members.filter fun member => !tokenFields.contains member.1

theorem exists_of_ofJson? {value : Json} {token : Token} (read : ofJson? value = some token) :
    ∃ members, value = .obj members ∧ TokenKind.ofTag token.tag = token.kind ∧
      token.line < Text.wordCount ∧ token.column < Text.wordCount ∧
      token.extra = Json.sortMembers (Json.canonicalMembers (kept members)) := by
  cases value with
  | obj members =>
    simp only [ofJson?, Option.bind_eq_bind, Option.bind_eq_some_iff] at read
    obtain ⟨_, _, _, _, _, _, _, _, _, _, _, line, _, _, _, column, made⟩ := read
    cases made
    exact ⟨members, rfl, rfl, Json.asNat?_lt line, Json.asNat?_lt column, rfl⟩
  | _ => cases read

/-- A token of a file can be written again. -/
theorem writable_of_ofJson? {value : Json} {token : Token} (read : ofJson? value = some token)
    (readable : value.isReadable = true) (shallow : value.depth + 1 ≤ Json.depthLimit)
    (words : Json.wordMembers token.extra = true) : token.Writable := by
  obtain ⟨members, rfl, _, line, column, extra⟩ := exists_of_ofJson? read
  -- What is kept of the members is as readable and as shallow as all of them.
  have among : ∀ member ∈ kept members, member ∈ members :=
    fun member listed => (List.mem_filter.mp listed).1
  have each := Json.canonizes_members (kept members)
  have keptReadable : Json.readableMembers (kept members) = true :=
    Json.readableMembers_iff.mpr fun member listed =>
      Json.readableMembers_iff.mp readable member (among member listed)
  have keptDepth : Json.depthMembers (kept members) ≤ Json.depthMembers members :=
    Json.depthMembers_le_iff.mpr fun member listed =>
      Json.depthMembers_le_iff.mp (Nat.le_refl _) member (among member listed)
  have sortedDepth := Json.depth_sorted each
  have unknown : ∀ member ∈ token.extra, member.1 ∉ tokenFields := by
    intro member sorted
    rw [extra] at sorted
    obtain ⟨other, listed, rfl⟩ := Json.exists_of_mem_sorted sorted
    simpa using (List.mem_filter.mp listed).2
  rw [← extra] at sortedDepth
  refine ⟨line, column, unknown, ?_, ?_, ?_, words⟩
  · rw [extra]
    exact Json.sortMembers_canonicalMembers each
  · rw [extra]
    exact Json.readable_sorted each keptReadable
  · rw [Json.depth] at shallow
    omega

/-- A token that can be written is read back. -/
theorem ofJson?_toJson {token : Token} (writable : token.Writable) :
    ofJson? token.toJson = some token.reread := by
  -- No further field takes the name of one that the linter looks at.
  have only (known : List (String × Json)) (name : String) (value : Json)
      (field : name ∈ tokenFields)
      (once : known.filter (fun member => member.1 == name) = [(name, value)]) :
      Json.only? name (known ++ token.extra) = some value := by
    have none : token.extra.filter (fun member => member.1 == name) = [] := by
      refine List.filter_eq_nil_iff.mpr fun member among same => writable.unknown member among ?_
      rwa [beq_iff_eq.mp same]
    rw [Json.only?, Json.named, List.filter_append, once, none]
    rfl
  have kept : token.extra.filter (fun member => !tokenFields.contains member.1) = token.extra :=
    List.filter_eq_self.mpr fun member among => by simpa using writable.unknown member among
  simp only [toJson, ofJson?]
  rw [only _ "kind" (.str token.writtenTag) (by decide) (by simp),
    only _ "text" (.str token.text) (by decide) (by simp),
    only _ "line" (.nat token.line) (by decide) (by simp),
    only _ "column" (.nat token.column) (by decide) (by simp)]
  simp only [Option.bind_eq_bind, Option.bind_some, Json.asString?, Json.asNat?_nat writable.line,
    Json.asNat?_nat writable.column, ofTag_writtenTag, List.filter_append, kept]
  have dropped := writable.canonical
  simp [tokenFields, reread, dropped]

theorem writable_new (kind : TokenKind) (text : String) {line column : Nat}
    (lineBound : line < Text.wordCount) (columnBound : column < Text.wordCount) :
    (new kind text line column).Writable where
  line := lineBound
  column := columnBound
  unknown := fun _ none => absurd none List.not_mem_nil
  canonical := rfl
  readable := rfl
  shallow := show 0 + 2 ≤ 127 by decide
  words := rfl

theorem Writable.sound {token : Token} (writable : token.Writable) :
    token.toJson.isReadable = true ∧ token.toJson.holdsWords = true ∧
      token.toJson.depth + 1 ≤ Json.depthLimit := by
  obtain ⟨line, column, _, _, readable, shallow, words⟩ := writable
  refine ⟨?_, ?_, ?_⟩
  · simpa [toJson, Json.isReadable, Json.readableMembers, Json.nat] using readable
  · simp only [toJson, List.cons_append, List.nil_append, Json.holdsWords, Json.wordMembers,
      Json.holdsWords_nat line, Json.holdsWords_nat column, words, Bool.and_self]
  · simp only [toJson, Json.depth, Json.depthMembers, Json.nat, List.cons_append, List.nil_append]
    omega

end Token

/-! ### Streams that can be written -/

namespace TokenStream

variable {s : TokenStream}

theorem exists_of_mem_mapM {α β : Type} {read : α → Option β} {items : List α} {values : List β}
    (made : items.mapM read = some values) :
    ∀ value ∈ values, ∃ item ∈ items, read item = some value := by
  induction items generalizing values with
  | nil =>
    cases made
    simp
  | cons item items ih =>
    simp only [List.mapM_cons, Option.bind_eq_bind, Option.bind_eq_some_iff] at made
    obtain ⟨first, here, rest, later, equal⟩ := made
    cases equal
    intro value member
    rcases List.mem_cons.mp member with rfl | behind
    · exact ⟨item, List.mem_cons_self, here⟩
    · obtain ⟨other, among, from_other⟩ := ih later value behind
      exact ⟨other, List.mem_cons_of_mem item among, from_other⟩

/-- Every token of a stream that was read comes from an object of the file. -/
theorem exists_object_of_decode? {text : String} (read : decode? text = some s) {token : Token}
    (member : token ∈ s.tokens) :
    ∃ value : Json, Token.ofJson? value = some token ∧ value.isReadable = true ∧
      value.depth + 1 ≤ Json.depthLimit := by
  simp only [decode?, ofJson?, Json.parseKept?, Option.bind_eq_bind, Option.bind_eq_some_iff]
    at read
  obtain ⟨document, ⟨parsed, _, kept⟩, items, array, tokens, made, equal⟩ := read
  cases equal
  split at kept
  next sound =>
    cases kept
    cases document with
    | arr objects =>
      cases array
      obtain ⟨value, listed, from_value⟩ :=
        exists_of_mem_mapM made token (List.mem_toArray.mp member)
      obtain ⟨readable, bounded⟩ := Bool.and_eq_true_iff.mp sound
      have shallow : Json.depthItems items + 1 ≤ Json.depthLimit := of_decide_eq_true bounded
      have deepest := Json.depthItems_le_iff.mp (Nat.le_refl _) value listed
      exact ⟨value, from_value, Json.readableItems_iff.mp readable value listed, by omega⟩
    | _ => cases array
  · cases kept

/-- What is written of a stream is read back with the tags that were written. -/
theorem decode?_of_parse? {text : String} (writable : ∀ token ∈ s.tokens, token.Writable)
    (parsed : s.toJson.isReadable = true → s.toJson.holdsWords = true →
      Json.parse? text = some s.toJson) :
    decode? text = some (ofList (s.tokens.toList.map Token.reread)) := by
  have each : ∀ value ∈ s.tokens.toList.map Token.toJson, value.isReadable = true ∧
      value.holdsWords = true ∧ value.depth + 1 ≤ Json.depthLimit := by
    intro value listed
    obtain ⟨token, member, rfl⟩ := List.mem_map.mp listed
    exact (writable token (Array.mem_toList_iff.mp member)).sound
  have readable : s.toJson.isReadable = true :=
    Json.readableItems_iff.mpr fun value listed => (each value listed).1
  have words : s.toJson.holdsWords = true :=
    Json.wordItems_iff.mpr fun value listed => (each value listed).2.1
  have shallow : s.toJson.depth ≤ Json.depthLimit := by
    have deepest : Json.depthItems (s.tokens.toList.map Token.toJson) ≤ Json.depthLimit - 1 :=
      Json.depthItems_le_iff.mpr fun value listed => by have := (each value listed).2.2; omega
    rw [toJson, Json.depth]
    have positive : 0 < Json.depthLimit := by decide
    omega
  -- The document is kept as it was parsed, and its objects are read one by one.
  have tokens : (s.tokens.toList.map Token.toJson).mapM Token.ofJson? =
      some (s.tokens.toList.map Token.reread) :=
    Json.mapM_map_of_some fun token member =>
      Token.ofJson?_toJson (writable token (Array.mem_toList_iff.mp member))
  rw [decode?, Json.parseKept?, parsed readable words]
  simp only [Option.bind_eq_bind, Option.bind_some, readable, shallow, decide_true, Bool.and_self,
    if_true, ofJson?]
  rw [toJson, Json.asArray?, Option.bind_some, tokens]
  rfl

/-! ### Changes -/

/-- A change that is made to a stream in memory. -/
inductive Change where
  /-- Another text for a token. -/
  | edit (edit : Edit)
  /-- Another kind for a token. -/
  | kind (token : Nat) (kind : TokenKind)

/-- What a change makes of the token at a position. -/
def Change.apply (i : Nat) (token : Token) : Change → Token
  | .edit e => if i = e.token then { token with text := e.newText } else token
  | .kind j k => if i = j then { token with kind := k } else token

/-- The stream after a change. A change of a token that does not exist changes nothing. -/
def change (s : TokenStream) : Change → TokenStream
  | .edit edit => (s.edit? edit).getD s
  | .kind i kind => s.setKind i kind

theorem token?_change (s : TokenStream) (c : Change) (i : Nat) :
    (s.change c).token? i = (s.token? i).map (c.apply i) := by
  cases c with
  | edit edit =>
    cases edited : s.edit? edit with
    | some t =>
      rw [change, edited, Option.getD_some, token?_of_edit? edited]
      rfl
    | none =>
      -- The edit names no token, so wherever there is one nothing changes.
      rw [change, edited, Option.getD_none]
      cases here : s.token? i with
      | none => rfl
      | some token =>
        have outside : ¬ edit.token < s.size := by
          rw [← edit?_isSome_iff, edited]
          simp
        have inside : i < s.size := (Array.getElem?_eq_some_iff.mp here).1
        have other : i ≠ edit.token := by omega
        simp [Change.apply, other]
  | kind j kind =>
    rw [change, setKind, token?, tokens_ofTokens, Array.getElem?_modify]
    by_cases same : j = i
    · subst same
      simp [Change.apply, token?]
    · have other : i ≠ j := fun equal => same equal.symm
      simp [Change.apply, token?, same, other]

/-- What holds of every token and survives a change holds after the change. -/
theorem forall_tokens_change {P : Token → Prop} {c : Change}
    (kept : ∀ i token, P token → P (c.apply i token)) (each : ∀ token ∈ s.tokens, P token) :
    ∀ token ∈ (s.change c).tokens, P token := by
  intro token member
  obtain ⟨i, here⟩ := Array.mem_iff_getElem?.mp member
  have changed := token?_change s c i
  rw [token?, here] at changed
  obtain ⟨old, there, rfl⟩ := Option.map_eq_some_iff.mp changed.symm
  exact kept i old (each old (Array.mem_of_getElem? there))

theorem forall_tokens_changes {P : Token → Prop} {changes : List Change}
    (kept : ∀ c ∈ changes, ∀ i token, P token → P (c.apply i token))
    (each : ∀ token ∈ s.tokens, P token) :
    ∀ token ∈ (changes.foldl change s).tokens, P token := by
  induction changes generalizing s with
  | nil => exact each
  | cons c changes ih =>
    rw [List.foldl_cons]
    exact ih (fun later member => kept later (List.mem_cons_of_mem c member))
      (forall_tokens_change (kept c List.mem_cons_self) each)

end TokenStream

namespace Token

theorem Writable.change {token : Token} (writable : token.Writable) (c : TokenStream.Change)
    (i : Nat) : (c.apply i token).Writable := by
  -- A change gives another text or another kind, and neither is asked for.
  obtain ⟨line, column, unknown, canonical, readable, shallow, words⟩ := writable
  cases c <;> rw [TokenStream.Change.apply] <;> split <;>
    exact ⟨line, column, unknown, canonical, readable, shallow, words⟩

/-- What a token keeps when it is written and read back. -/
structure Survives (before after : Token) : Prop where
  kind : after.kind = before.kind
  text : after.text = before.text
  line : after.line = before.line
  column : after.column = before.column
  extra : after.extra = before.extra
  tag : after.tag = before.tag ↔ TokenKind.ofTag before.tag = before.kind

theorem survives_reread (token : Token) : token.Survives token.reread :=
  ⟨rfl, rfl, rfl, rfl, rfl, token.writtenTag_eq_tag_iff⟩

end Token

namespace TokenStream

variable {s : TokenStream}

theorem decode?_encode (writable : ∀ token ∈ s.tokens, token.Writable) :
    decode? s.encode = some (ofList (s.tokens.toList.map Token.reread)) :=
  decode?_of_parse? writable Json.parse?_toCompact

theorem decode?_encodePretty (writable : ∀ token ∈ s.tokens, token.Writable) :
    decode? s.encodePretty = some (ofList (s.tokens.toList.map Token.reread)) :=
  decode?_of_parse? writable Json.parse?_toPretty

theorem kinds_reread (s : TokenStream) :
    (ofList (s.tokens.toList.map Token.reread)).kinds = s.kinds := by
  rw [kinds, kinds, ofList, tokens_ofTokens, List.toList_toArray, List.map_map]
  rfl

/-- Where every tag names the kind of its token, a stream is read back as it was. -/
theorem reread_eq_self (named : ∀ token ∈ s.tokens, TokenKind.ofTag token.tag = token.kind) :
    ofList (s.tokens.toList.map Token.reread) = s := by
  have same : s.tokens.toList.map Token.reread = s.tokens.toList.map id := by
    refine List.map_congr_left fun token member => ?_
    have written := token.writtenTag_eq_tag_iff.mpr (named token (Array.mem_toList_iff.mp member))
    rw [Token.reread, written]
    rfl
  rw [same, List.map_id]
  exact ext rfl

section New

/-! Streams whose tokens are all new, at places that can be written. -/

variable (new : ∀ token ∈ s.tokens, ∃ kind text line column, token = .new kind text line column ∧
  line < Text.wordCount ∧ column < Text.wordCount)
include new

theorem writable_of_new : ∀ token ∈ s.tokens, token.Writable := by
  intro token member
  obtain ⟨kind, text, line, column, rfl, lineBound, columnBound⟩ := new token member
  exact Token.writable_new kind text lineBound columnBound

theorem named_of_new : ∀ token ∈ s.tokens, TokenKind.ofTag token.tag = token.kind := by
  intro token member
  obtain ⟨kind, _, _, _, rfl, _, _⟩ := new token member
  exact TokenKind.ofTag_tag kind

theorem decode?_encode_of_new : decode? s.encode = some s := by
  rw [decode?_encode (writable_of_new new), reread_eq_self (named_of_new new)]

theorem decode?_encodePretty_of_new : decode? s.encodePretty = some s := by
  rw [decode?_encodePretty (writable_of_new new), reread_eq_self (named_of_new new)]

end New

theorem writable_of_decode? {text : String} (read : decode? text = some s)
    (words : ∀ token ∈ s.tokens, Json.wordMembers token.extra = true) :
    ∀ token ∈ s.tokens, token.Writable := by
  intro token member
  obtain ⟨value, object, readable, shallow⟩ := exists_object_of_decode? read member
  exact Token.writable_of_ofJson? object readable shallow (words token member)

theorem named_of_decode? {text : String} (read : decode? text = some s) :
    ∀ token ∈ s.tokens, TokenKind.ofTag token.tag = token.kind := by
  intro token member
  obtain ⟨value, object, _, _⟩ := exists_object_of_decode? read member
  obtain ⟨_, _, named, _⟩ := Token.exists_of_ofJson? object
  exact named

/-- A stream that was read from a file and then changed, in texts or kinds, is read back after it
was written in either form: the same tokens in the same order, each with its kind, text, place and
further fields, and the same links. Its tag is the one it had exactly if that still names its kind.
Where only texts were changed, the stream read back is the stream written. -/
theorem decode?_encode_of_changes {text : String} (read : decode? text = some s)
    (words : ∀ token ∈ s.tokens, Json.wordMembers token.extra = true) (changes : List Change) :
    ∃ t, decode? (changes.foldl change s).encode = some t ∧
      decode? (changes.foldl change s).encodePretty = some t ∧
      List.Forall₂ Token.Survives (changes.foldl change s).tokens.toList t.tokens.toList ∧
      t.next = (changes.foldl change s).next ∧ t.prev = (changes.foldl change s).prev ∧
      ((∀ c ∈ changes, ∃ edit, c = .edit edit) → t = changes.foldl change s) := by
  have writable : ∀ token ∈ (changes.foldl change s).tokens, token.Writable :=
    forall_tokens_changes (fun c _ i _ holds => holds.change c i) (writable_of_decode? read words)
  have kinds := kinds_reread (changes.foldl change s)
  refine ⟨_, decode?_encode writable, decode?_encodePretty writable, ?_, next_congr kinds,
    prev_congr kinds, ?_⟩
  · rw [ofList, tokens_ofTokens, List.toList_toArray, List.forall₂_map_right_iff]
    exact List.forall₂_same.mpr fun token _ => token.survives_reread
  · intro edits
    -- An edit keeps tag and kind, so each tag names its kind as it did when it was read.
    refine reread_eq_self (forall_tokens_changes (fun c member i token named => ?_)
      (named_of_decode? read))
    obtain ⟨edit, rfl⟩ := edits c member
    rw [Change.apply]
    split <;> exact named

/-- A file of two tokens. The first is of a kind the linter does not know, with fields of its
own. -/
def heredocFile : String :=
  "[\x7b\"kind\":\"HEREDOC\",\"text\":\"a\",\"line\":1,\"column\":1,\"z\":[-1],\"b\":true\x7d, " ++
  "\x7b\"column\":9,\"line\":1,\"text\":\"\\u00e9\",\"kind\":\"NAME\"\x7d]"

/-- The text of the first token and the kind of the second are changed. -/
theorem decode?_encode_of_heredocFile :
    ∃ s t, decode? heredocFile = some s ∧
      (∀ token ∈ s.tokens, Json.wordMembers token.extra = true) ∧
      decode? ([.edit ⟨0, "b\t"⟩, .kind 1 .variable].foldl change s).encode = some t ∧
      decode? ([.edit ⟨0, "b\t"⟩, .kind 1 .variable].foldl change s).encodePretty = some t ∧
      List.Forall₂ Token.Survives
        ([.edit ⟨0, "b\t"⟩, .kind 1 .variable].foldl change s).tokens.toList t.tokens.toList := by
  have checked : (decode? heredocFile).any (fun s =>
      s.tokens.all fun token => Json.wordMembers token.extra) = true := by decide +kernel
  obtain ⟨s, read, sound⟩ := (Option.any_eq_true _ _).mp checked
  have words := Array.all_eq_true_iff_forall_mem.mp sound
  obtain ⟨t, compact, pretty, survive, _⟩ :=
    decode?_encode_of_changes read words [.edit ⟨0, "b\t"⟩, .kind 1 .variable]
  exact ⟨s, t, read, words, compact, pretty, survive⟩

end TokenStream

end ManifestLint
