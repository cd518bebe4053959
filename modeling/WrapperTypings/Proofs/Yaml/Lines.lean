import WrapperTypings.Yaml.Document

set_option autoImplicit false

/-! Documents of lines, each a name and a word with a colon between them. Their tokens are known
whatever the words are, as long as these are letters, digits, underscores and points behind a letter or
a digit. -/

namespace WrapperTypings.Yaml

def isWordChar (c : Char) : Bool :=
  c.isAlphanum || c = '_' || c = '.'

/-- A word begins with a letter or a digit. -/
structure IsWord (text : List Char) : Prop where
  begins : ∃ c rest, text = c :: rest ∧ c.isAlphanum = true
  chars : ∀ c ∈ text, isWordChar c = true

private theorem isWord_iff (text : List Char) :
    (text.head?.any Char.isAlphanum && text.all isWordChar) = true ↔ IsWord text := by
  rw [Bool.and_eq_true, List.all_eq_true]
  constructor
  · rintro ⟨letter, chars⟩
    cases text with
    | nil => cases letter
    | cons c rest => exact ⟨⟨c, rest, rfl, letter⟩, chars⟩
  · rintro ⟨⟨c, rest, rfl, letter⟩, chars⟩
    exact ⟨letter, chars⟩

instance (text : List Char) : Decidable (IsWord text) :=
  decidable_of_iff _ (isWord_iff text)

def markChars : List Char :=
  ['\x00', '%', '-', '.', '[', '\x7b', ']', '\x7d', ',', '?', ':', '*', '&', '!', '|', '>', '\'', '"',
    '#', '@', '\x60', ' ', '\t', '\n', '\r', '\x85', '\u2028', '\u2029', '\uFEFF', '\uD7FF']

private theorem ne_mark_of_isAlphanum {c : Char} (letter : c.isAlphanum = true) :
    ∀ mark ∈ markChars, c ≠ mark := by
  have none : markChars.any Char.isAlphanum = false := by decide
  intro mark among same
  exact List.any_eq_false.mp none mark among (same ▸ letter)

private theorem ne_mark_of_isWordChar {c : Char} (char : isWordChar c = true) :
    ∀ mark ∈ markChars, mark ≠ '.' → c ≠ mark := by
  have none : (markChars.filter (· ≠ '.')).any isWordChar = false := by decide
  intro mark among different same
  exact List.any_eq_false.mp none mark (List.mem_filter.mpr ⟨among, decide_eq_true different⟩)
    (same ▸ char)

private theorem isWideGap_of_isWordChar {c : Char} (char : isWordChar c = true) :
    isWideGap c = false := by
  have different := ne_mark_of_isWordChar char
  simp only [markChars, List.forall_mem_cons] at different
  simp [isWideGap, isGap, isLineEnd, isBreak, different]

section
variable {text rest : List Char} {index line column : Nat}

private theorem skip_word (chars : ∀ c ∈ text, isWordChar c = true) :
    (Cursor.mk (text ++ rest) index line column).skip text.length =
      ⟨rest, index + text.length, line, column + text.length⟩ := by
  induction text generalizing index column with
  | nil => rfl
  | cons c more ih =>
      obtain ⟨here, later⟩ := List.forall_mem_cons.mp chars
      have different := ne_mark_of_isWordChar here
      simp only [markChars, List.forall_mem_cons] at different
      have stepped : (Cursor.mk (c :: more ++ rest) index line column).next =
          ⟨more ++ rest, index + 1, line, column + 1⟩ := by
        simp [Cursor.next, isBreak, different, Text.lead]
      rw [List.length_cons, Cursor.skip, stepped, ih later]
      simp only [Cursor.mk.injEq, true_and]
      omega

end

section
variable {text rest : List Char} {index line column : Nat}

private theorem plainChunk_append (chars : ∀ c ∈ text, isWordChar c = true) :
    plainChunk false (text ++ rest) = text ++ plainChunk false rest := by
  induction text with
  | nil => rfl
  | cons c more ih =>
      obtain ⟨here, later⟩ := List.forall_mem_cons.mp chars
      have noColon : c ≠ ':' := ne_mark_of_isWordChar here ':' (by decide) (by decide)
      rw [List.cons_append, plainChunk, isWideGap_of_isWordChar here, ih later]
      simp [noColon]

theorem IsWord.letter {cursor : Cursor} (word : IsWord text) (at_ : cursor.rest = text ++ rest) :
    cursor.here.isAlphanum = true := by
  obtain ⟨c, more, rfl, letter⟩ := word.begins
  unfold Cursor.here Cursor.peek
  rw [at_]
  exact letter

private theorem plainText_chunk {cursor behind after : Cursor} {gap : List Char} {ended : Bool}
    {indent : Int}
    (fuel : Nat) (word : IsWord text) (at_ : cursor.rest = text ++ rest)
    (ends : plainChunk false rest = []) (skipped : cursor.skip text.length = behind)
    (gapRead : plainGap behind = (gap, ended, after))
    (stops : gap = [] ∨ (after.column : Int) < indent) :
    plainText false indent (fuel + 1) [] false cursor = (text, ended, after) := by
  have noComment : cursor.here ≠ '#' := ne_mark_of_isAlphanum (word.letter at_) '#' (by decide)
  have chunk : plainChunk false cursor.rest = text := by
    rw [at_, plainChunk_append word.chars, ends, List.append_nil]
  have filled : text.isEmpty = false := by
    obtain ⟨c, more, rfl, _⟩ := word.begins
    rfl
  rw [plainText]
  simp only [if_neg noComment, chunk, filled, skipped, gapRead]
  rcases stops with rfl | outside
  · rfl
  · simp [outside]

private theorem plainText_colon (word : IsWord text) (indent : Int) (fuel : Nat) :
    plainText false indent (fuel + 1) [] false ⟨text ++ ':' :: ' ' :: rest, index, line, column⟩ =
      (text, false, ⟨':' :: ' ' :: rest, index + text.length, line, column + text.length⟩) := by
  refine plainText_chunk fuel word rfl ?_ (skip_word word.chars) ?_ (.inl rfl)
  · rfl
  · rfl

def StartsPlainly (text : List Char) : Prop :=
  ∀ c ∈ text.head?, c.isAlphanum = true

private theorem plainBreaks_of_startsPlainly (fuel : Nat) (plain : StartsPlainly rest) :
    plainBreaks (fuel + 1) ⟨rest, index, line, column⟩ = (some [], ⟨rest, index, line, column⟩) := by
  cases rest with
  | nil => rfl
  | cons c more =>
      have different := ne_mark_of_isAlphanum (plain c rfl)
      simp only [markChars, List.forall_mem_cons] at different
      have noBoundary : (Cursor.mk (c :: more) index line column).atBoundary = false := by
        simp [Cursor.atBoundary, different]
      have noSpaces : (Cursor.mk (c :: more) index line column).skipSpaces =
          ⟨c :: more, index, line, column⟩ := by
        simp [Cursor.skipSpaces, Cursor.skipWhile, Cursor.run, Cursor.skip, different]
      have noBreak : (Cursor.mk (c :: more) index line column).lineBreak =
          ([], ⟨c :: more, index, line, column⟩) := by
        simp [Cursor.lineBreak, Cursor.here, Cursor.peek, Text.peek, different]
      rw [plainBreaks]
      simp [noBoundary, noSpaces, noBreak]

private theorem plainText_newline (word : IsWord text) {indent : Int} (fuel : Nat)
    (inside : 0 < indent)
    (plain : StartsPlainly rest) :
    plainText false indent (fuel + 1) [] false ⟨text ++ '\n' :: rest, index, line, column⟩ =
      (text, true, ⟨rest, index + text.length + 1, line + 1, 0⟩) := by
  have ended : (Cursor.mk ('\n' :: rest) (index + text.length) line (column + text.length)).lineBreak =
      (['\n'], ⟨rest, index + text.length + 1, line + 1, 0⟩) := rfl
  have noSpaces : (Cursor.mk ('\n' :: rest) (index + text.length) line
      (column + text.length)).span (· = ' ') =
      ([], ⟨'\n' :: rest, index + text.length, line, column + text.length⟩) := rfl
  have gapRead : plainGap ⟨'\n' :: rest, index + text.length, line, column + text.length⟩ =
      ([' '], true, ⟨rest, index + text.length + 1, line + 1, 0⟩) := by
    unfold plainGap
    rw [noSpaces]
    dsimp only
    rw [ended]
    dsimp only
    rw [plainBreaks_of_startsPlainly _ plain]
    rfl
  exact plainText_chunk fuel word rfl rfl (skip_word word.chars) gapRead (.inr inside)

end

namespace Lexer

/-- From one token to the beginning of the next: blanks are behind it, no key has become stale, and no
block ends there. -/
structure Settles (lexer next : Lexer) : Prop where
  moved : toNextToken (lexer.skipMark.cursor.rest.length + 1) lexer.skipMark = next
  kept : next.dropStale = .ok next
  deep : next.unwind next.column = next

section
variable {lexer next : Lexer}

private theorem dropStale_nil (noKeys : lexer.possibleKeys = []) : lexer.dropStale = .ok lexer := by
  unfold dropStale
  rw [noKeys]
  cases lexer
  cases noKeys
  rfl

private theorem dropStale_singleton {level : Nat} {key : PossibleKey}
    (only : lexer.possibleKeys = [(level, key)]) (sameLine : key.place.line = lexer.cursor.line)
    (near : lexer.cursor.index - key.place.index ≤ keyReach) : lexer.dropStale = .ok lexer := by
  have same : { lexer with possibleKeys := [(level, key)] } = lexer := by
    cases lexer
    cases only
    rfl
  unfold dropStale
  rw [only]
  simp [sameLine, Nat.not_lt.mpr near, same]

private theorem unwind_of_le {column : Int} (noFlow : lexer.flowLevel = 0)
    (deep : lexer.indent ≤ column) :
    lexer.unwind column = lexer := by
  have notLess : ¬ column < lexer.indent := by omega
  unfold unwind inFlow
  rw [noFlow, if_neg (by decide)]
  cases indents : lexer.indents with
  | nil => rfl
  | cons outer others =>
      rw [unwind.go, if_neg notLess]

def gapMarks : List Char :=
  ['#', '\r', '\n', '\x85', '\u2028', '\u2029']

private theorem not_mem_gapMarks {c : Char} (letter : c.isAlphanum = true) : c ∉ gapMarks := by
  have none : gapMarks.any Char.isAlphanum = false := by decide
  exact fun among => List.any_eq_false.mp none c among letter

private theorem toNextToken_of_skipSpaces {cursor : Cursor} (fuel : Nat)
    (skipped : lexer.cursor.skipSpaces = cursor) (apart : cursor.here ∉ gapMarks) :
    toNextToken (fuel + 1) lexer = { lexer with cursor } := by
  have plain : ∀ mark ∈ gapMarks, cursor.here ≠ mark := fun mark among same => apart (same ▸ among)
  simp only [gapMarks, List.forall_mem_cons] at plain
  have noComment : lexer.cursor.skipComment = cursor := by
    simp [Cursor.skipComment, skipped, plain]
  have noBreak : cursor.lineBreak = ([], cursor) := by
    simp [Cursor.lineBreak, plain]
  unfold toNextToken
  simp only [noComment, noBreak]

private theorem fetch_end (settles : Settles lexer next) (atEnd : next.cursor.here = '\x00') :
    lexer.fetch = next.streamEnd := by
  unfold fetch
  dsimp only
  rw [settles.moved, settles.kept]
  change (if (next.unwind next.column).cursor.here = '\x00' then _ else _) = _
  rw [settles.deep, if_pos atEnd]

private theorem fetch_colon (settles : Settles lexer next) (colon : next.cursor.here = ':')
    (gap : isWideGap (next.cursor.peek 1) = true) : lexer.fetch = next.valueMark := by
  unfold fetch
  dsimp only
  rw [settles.moved, settles.kept]
  change (if (next.unwind next.column).cursor.here = '\x00' then _ else _) = _
  rw [settles.deep]
  simp [colon, gap]

private theorem fetch_word (settles : Settles lexer next)
    (letter : next.cursor.here.isAlphanum = true) :
    lexer.fetch = next.plainScalar := by
  have different := ne_mark_of_isAlphanum letter
  simp only [markChars, List.forall_mem_cons] at different
  have begins : next.beginsPlain = true := by
    have gap : isWideGap next.cursor.here = false :=
      isWideGap_of_isWordChar (by simp [isWordChar, letter])
    simp [beginsPlain, gap, different]
  unfold fetch
  dsimp only
  rw [settles.moved, settles.kept]
  change (if (next.unwind next.column).cursor.here = '\x00' then _ else _) = _
  rw [settles.deep]
  simp [different, begins]

end

/-- A state outside of flow collections: at the top, or in a block mapping without indentation. -/
def state (inMapping : Bool) (cursor : Cursor) (queue : List Token) (taken : Nat) (keyAllowed : Bool)
    (possibleKeys : List (Nat × PossibleKey)) : Lexer where
  cursor := cursor
  finished := false
  flowLevel := 0
  queue := queue
  taken := taken
  indent := if inMapping then 0 else -1
  indents := if inMapping then [-1] else []
  keyAllowed := keyAllowed
  possibleKeys := possibleKeys

section
variable {inMapping : Bool} {name word rest : List Char} {index line column taken : Nat}

private theorem skipMark_of_ne {lexer : Lexer} (different : lexer.cursor.here ≠ '\uFEFF') :
    lexer.skipMark = lexer := by
  unfold skipMark
  simp [different]

private theorem settles_of_word {lexer : Lexer} (noFlow : lexer.flowLevel = 0)
    (noKeys : lexer.possibleKeys = []) (deep : lexer.indent ≤ lexer.column)
    (letter : lexer.cursor.here.isAlphanum = true) : Settles lexer lexer := by
  have noMark : lexer.skipMark = lexer :=
    skipMark_of_ne (ne_mark_of_isAlphanum letter '\uFEFF' (by decide))
  refine ⟨?_, dropStale_nil noKeys, unwind_of_le noFlow deep⟩
  rw [noMark]
  refine toNextToken_of_skipSpaces _ ?_ (not_mem_gapMarks letter)
  obtain ⟨⟨text, _, _, _⟩⟩ := lexer
  cases text with
  | nil => rfl
  | cons c more =>
      have noSpace : c ≠ ' ' := ne_mark_of_isAlphanum letter ' ' (by decide)
      simp [Cursor.skipSpaces, Cursor.skipWhile, Cursor.run, Cursor.skip, noSpace]

private theorem indent_state_le (inMapping : Bool) (cursor : Cursor) (queue : List Token)
    (taken : Nat)
    (keyAllowed : Bool) (possibleKeys : List (Nat × PossibleKey)) :
    (state inMapping cursor queue taken keyAllowed possibleKeys).indent ≤ (cursor.column : Int) := by
  have above : (if inMapping then 0 else -1 : Int) ≤ 0 := by cases inMapping <;> decide
  exact Int.le_trans above (Int.natCast_nonneg cursor.column)

private theorem plainScalar_of_saveKey {lexer saved : Lexer} {text : List Char} {ended : Bool}
    {cursor : Cursor} (keyed : lexer.saveKey = .ok saved)
    (read : plainText saved.inFlow (saved.indent + 1) (saved.cursor.rest.length + 1) [] false
      saved.cursor = (text, ended, cursor)) :
    lexer.plainScalar = .ok (push (.scalar (String.ofList text) true)
      { saved with cursor, keyAllowed := ended }) := by
  unfold plainScalar
  rw [keyed]
  simp only [bind, Except.bind]
  rw [read]

theorem fetch_name (isWord : IsWord name) :
    (state inMapping ⟨name ++ ':' :: ' ' :: rest, index, line, 0⟩ [] taken true []).fetch =
      .ok (state inMapping ⟨':' :: ' ' :: rest, index + name.length, line, 0 + name.length⟩
        [.scalar (String.ofList name) true] taken false
        [(0, ⟨taken, inMapping, ⟨name ++ ':' :: ' ' :: rest, index, line, 0⟩⟩)]) := by
  have keyed : (state inMapping ⟨name ++ ':' :: ' ' :: rest, index, line, 0⟩ [] taken true []).saveKey =
      .ok (state inMapping ⟨name ++ ':' :: ' ' :: rest, index, line, 0⟩ [] taken true
        [(0, ⟨taken, inMapping, ⟨name ++ ':' :: ' ' :: rest, index, line, 0⟩⟩)]) := by
    cases inMapping <;> rfl
  have letter : (state inMapping ⟨name ++ ':' :: ' ' :: rest, index, line, 0⟩
      [] taken true []).cursor.here.isAlphanum = true := isWord.letter rfl
  have settles := settles_of_word rfl rfl (indent_state_le ..) letter
  exact (fetch_word settles letter).trans (plainScalar_of_saveKey keyed (plainText_colon isWord _ _))

private theorem fetch_value (isWord : IsWord word) (plain : StartsPlainly rest) :
    (state true ⟨' ' :: (word ++ '\n' :: rest), index, line, column⟩ [] taken false []).fetch =
      .ok (state true ⟨rest, index + 1 + word.length + 1, line + 1, 0⟩
        [.scalar (String.ofList word) true] taken true []) := by
  have letter : (state true ⟨word ++ '\n' :: rest, index + 1, line, column + 1⟩
      [] taken false []).cursor.here.isAlphanum = true := isWord.letter rfl
  have settles : Settles (state true ⟨' ' :: (word ++ '\n' :: rest), index, line, column⟩ [] taken
      false []) (state true ⟨word ++ '\n' :: rest, index + 1, line, column + 1⟩ [] taken false []) := by
    refine ⟨?_, dropStale_nil rfl, unwind_of_le rfl (indent_state_le ..)⟩
    rw [skipMark_of_ne (by change ' ' ≠ _; decide)]
    refine toNextToken_of_skipSpaces _ ?_ (not_mem_gapMarks letter)
    obtain ⟨c, more, rfl, first⟩ := isWord.begins
    have noSpace : c ≠ ' ' := ne_mark_of_isAlphanum first ' ' (by decide)
    simp [state, Cursor.skipSpaces, Cursor.skipWhile, Cursor.run, Cursor.skip, noSpace, Cursor.next,
      isBreak, Text.lead]
  have keyed : (state true ⟨word ++ '\n' :: rest, index + 1, line, column + 1⟩ [] taken false []).saveKey =
      .ok (state true ⟨word ++ '\n' :: rest, index + 1, line, column + 1⟩ [] taken false []) := rfl
  have inside : (0 : Int) < 1 := by decide
  exact (fetch_word settles letter).trans
    (plainScalar_of_saveKey keyed (plainText_newline isWord _ inside plain))

def colonTokens (inMapping : Bool) (name : List Char) : List Token :=
  (if inMapping then [] else [.blockMappingStart]) ++
    [.key, .scalar (String.ofList name) true, .value]

private theorem fetch_mark {place : Cursor} (sameLine : place.line = line)
    (atStart : place.column = 0)
    (near : index - place.index ≤ keyReach) :
    (state inMapping ⟨':' :: ' ' :: rest, index, line, column⟩ [.scalar (String.ofList name) true] taken
      false [(0, ⟨taken, inMapping, place⟩)]).fetch =
      .ok (state true ⟨' ' :: rest, index + 1, line, column + 1⟩ (colonTokens inMapping name) taken
        false []) := by
  have settles : Settles (state inMapping ⟨':' :: ' ' :: rest, index, line, column⟩
      [.scalar (String.ofList name) true] taken false [(0, ⟨taken, inMapping, place⟩)])
      (state inMapping ⟨':' :: ' ' :: rest, index, line, column⟩
      [.scalar (String.ofList name) true] taken false [(0, ⟨taken, inMapping, place⟩)]) := by
    refine ⟨?_, dropStale_singleton rfl sameLine near, unwind_of_le rfl (indent_state_le ..)⟩
    rw [skipMark_of_ne (by change ':' ≠ _; decide)]
    exact toNextToken_of_skipSpaces _ rfl (show ':' ∉ gapMarks by decide)
  rw [fetch_colon settles rfl rfl]
  unfold valueMark
  cases inMapping with
  | false =>
      simp [state, colonTokens, insertAt, deepen, inFlow, advance, push, Cursor.skip, Cursor.next, isBreak,
        Text.lead, atStart]
  | true =>
      simp [state, colonTokens, insertAt, deepen, inFlow, advance, push, Cursor.skip, Cursor.next, isBreak,
        Text.lead, atStart]

private theorem fetch_streamEnd :
    (state true ⟨[], index, line, 0⟩ [] taken true []).fetch =
      .ok { state false ⟨[], index, line, 0⟩ [.blockEnd, .streamEnd] taken false [] with
        finished := true } := by
  have settles : Settles (state true ⟨[], index, line, 0⟩ [] taken true [])
      (state true ⟨[], index, line, 0⟩ [] taken true []) := by
    refine ⟨?_, dropStale_nil rfl, unwind_of_le rfl (indent_state_le ..)⟩
    rw [skipMark_of_ne (by change '\x00' ≠ _; decide)]
    exact toNextToken_of_skipSpaces _ rfl (show '\x00' ∉ gapMarks by decide)
  rw [fetch_end settles rfl]
  rfl

end

section
variable {lexer next : Lexer}

private theorem turn_of_fetch (asks : lexer.mustFetch = .ok (true, lexer))
    (fetched : lexer.fetch = .ok next) :
    lexer.turn = .ok (some ([], next)) := by
  unfold turn
  rw [asks]
  simp only [bind, Except.bind, if_true]
  rw [fetched]

private theorem mustFetch_of_queue (noKeys : lexer.possibleKeys = []) (filled : lexer.queue ≠ []) :
    lexer.mustFetch = .ok (false, lexer) := by
  unfold mustFetch
  cases lexer.finished with
  | true => rfl
  | false =>
      have notEmpty : lexer.queue.isEmpty = false := List.isEmpty_eq_false_iff.mpr filled
      rw [notEmpty, dropStale_nil noKeys]
      simp only [Bool.false_eq_true, if_false, bind, Except.bind, noKeys, List.any_nil]

private theorem turn_of_queue {token : Token} {queue : List Token}
    (noKeys : lexer.possibleKeys = [])
    (queued : lexer.queue = token :: queue) :
    lexer.turn = .ok (some ([token], { lexer with queue, taken := lexer.taken + 1 })) := by
  unfold turn
  rw [mustFetch_of_queue noKeys (queued ▸ List.cons_ne_nil _ _)]
  simp only [bind, Except.bind, Bool.false_eq_true, if_false, queued]

end

end Lexer

def Stream.after {ε α : Type} (lead : List α) (stream : Stream ε α) : Stream ε α :=
  ⟨lead ++ stream.items, stream.fault⟩

@[simp] theorem Stream.after_after {ε α : Type} (first second : List α) (stream : Stream ε α) :
    (stream.after second).after first = stream.after (first ++ second) := by
  simp only [after, List.append_assoc]

namespace Lexer

section
variable {fuel : Nat} {lexer next : Lexer}

private theorem tokens_of_turn {handed : List Token}
    (turned : lexer.turn = .ok (some (handed, next))) :
    tokens none (fuel + 1) lexer = (tokens none fuel next).after handed := by
  rw [tokens, turned]
  simp only [wallAt_none]
  rfl

private theorem tokens_of_fetch (asks : lexer.mustFetch = .ok (true, lexer))
    (fetched : lexer.fetch = .ok next) :
    tokens none (fuel + 1) lexer = tokens none fuel next :=
  tokens_of_turn (turn_of_fetch asks fetched)

private theorem tokens_of_queue {queue : List Token} (noKeys : lexer.possibleKeys = [])
    (queued : lexer.queue = queue) :
    tokens none (fuel + queue.length) lexer =
      (tokens none fuel { lexer with queue := [], taken := lexer.taken + queue.length }).after queue := by
  induction queue generalizing lexer with
  | nil =>
      cases lexer
      cases queued
      rfl
  | cons token queue ih =>
      have handed : tokens none (fuel + queue.length) { lexer with queue, taken := lexer.taken + 1 } = _ :=
        ih noKeys rfl
      rw [List.length_cons, ← Nat.add_assoc, tokens_of_turn (turn_of_queue noKeys queued), handed,
        Stream.after_after]
      simp only [List.singleton_append, Nat.add_assoc, Nat.add_comm 1]

end

section
variable {inMapping : Bool} {name word rest : List Char} {index line taken fuel : Nat}

private theorem mustFetch_of_key {cursor place : Cursor} {queue : List Token}
    (sameLine : place.line = cursor.line)
    (near : cursor.index - place.index ≤ keyReach) :
    (state inMapping cursor queue taken false [(0, ⟨taken, inMapping, place⟩)]).mustFetch =
      .ok (true, state inMapping cursor queue taken false [(0, ⟨taken, inMapping, place⟩)]) := by
  unfold mustFetch
  rw [dropStale_singleton rfl sameLine near]
  cases queue with
  | nil => rfl
  | cons token queue => simp [state, bind, Except.bind]

private theorem tokens_line (isName : IsWord name) (short : name.length ≤ keyReach)
    (isWord : IsWord word)
    (plain : StartsPlainly rest) :
    ∃ index' taken', tokens none (fuel + 1 + 1 + (colonTokens inMapping name).length + 1 + 1)
      (state inMapping ⟨name ++ ':' :: ' ' :: (word ++ '\n' :: rest), index, line, 0⟩ [] taken true []) =
      (tokens none fuel (state true ⟨rest, index', line + 1, 0⟩ [] taken' true [])).after
        (colonTokens inMapping name ++ [.scalar (String.ofList word) true]) := by
  have near : index + name.length - index ≤ keyReach := by omega
  have keyed : tokens none (fuel + 1 + 1 + (colonTokens inMapping name).length + 1 + 1)
      (state inMapping ⟨name ++ ':' :: ' ' :: (word ++ '\n' :: rest), index, line, 0⟩ [] taken true []) =
      tokens none (fuel + 1 + 1 + (colonTokens inMapping name).length) _ :=
    (tokens_of_fetch rfl (fetch_name isName)).trans
      (tokens_of_fetch (mustFetch_of_key rfl near) (fetch_mark rfl rfl near))
  have opened := @tokens_of_queue (fuel + 1 + 1) (state true ⟨' ' :: (word ++ '\n' :: rest),
    index + name.length + 1, line, 0 + name.length + 1⟩ (colonTokens inMapping name) taken false []) _ rfl rfl
  refine ⟨index + name.length + 1 + 1 + word.length + 1, taken + (colonTokens inMapping name).length + 1,
    keyed.trans (opened.trans ?_)⟩
  rw [← Stream.after_after]
  refine congrArg (Stream.after _) ?_
  exact (tokens_of_fetch rfl (fetch_value isWord plain)).trans (tokens_of_turn (turn_of_queue rfl rfl))

end

end Lexer

def lineText (entry : String × String) : List Char :=
  entry.1.toList ++ ':' :: ' ' :: (entry.2.toList ++ ['\n'])

def linesText (entries : List (String × String)) : String :=
  String.ofList (entries.flatMap lineText)

/-- A name that can be a key, and a word. -/
structure IsLine (entry : String × String) : Prop where
  name : IsWord entry.1.toList
  short : entry.1.toList.length ≤ Lexer.keyReach
  word : IsWord entry.2.toList

def lineTokens (entry : String × String) : List Token :=
  [.key, .scalar entry.1 true, .value, .scalar entry.2 true]

section
variable {entries : List (String × String)}

private theorem startsPlainly_lines (lines : ∀ entry ∈ entries, IsLine entry) :
    StartsPlainly (entries.flatMap lineText) := by
  intro c first
  cases entries with
  | nil => cases first
  | cons entry rest =>
      obtain ⟨d, more, begins, letter⟩ := (lines entry List.mem_cons_self).name.begins
      rw [List.flatMap_cons, lineText, begins] at first
      cases first
      exact letter

theorem Lexer.tokens_lines {index line taken fuel : Nat} (lines : ∀ entry ∈ entries, IsLine entry) :
    tokens none (fuel + 4 + 7 * entries.length)
      (state true ⟨entries.flatMap lineText, index, line, 0⟩ [] taken true []) =
      ⟨entries.flatMap lineTokens ++ [.blockEnd, .streamEnd], none⟩ := by
  induction entries generalizing index line taken with
  | nil =>
      rw [List.flatMap_nil, List.length_nil, Nat.mul_zero, Nat.add_zero]
      have closed := @tokens_of_queue (fuel + 1) { state false ⟨[], index, line, 0⟩
        [.blockEnd, .streamEnd] taken false [] with finished := true } _ rfl rfl
      exact (tokens_of_fetch rfl fetch_streamEnd).trans closed
  | cons entry rest ih =>
      obtain ⟨here, later⟩ := List.forall_mem_cons.mp lines
      obtain ⟨index', taken', handed⟩ := @tokens_line true entry.1.toList entry.2.toList
        (rest.flatMap lineText) index line taken (fuel + 4 + 7 * rest.length) here.name here.short
        here.word (startsPlainly_lines later)
      have text : (entry :: rest).flatMap lineText = entry.1.toList ++ ':' :: ' ' ::
          (entry.2.toList ++ '\n' :: rest.flatMap lineText) := by
        simp [lineText]
      -- Seven turns for a line: two fetch its name and colon, three hand them out, two are for its word.
      have count : fuel + 4 + 7 * (entry :: rest).length = fuel + 4 + 7 * rest.length + 1 + 1 +
          (colonTokens true entry.1.toList).length + 1 + 1 := by
        have three : (colonTokens true entry.1.toList).length = 3 := rfl
        rw [three, List.length_cons]
        omega
      rw [text, count, handed, ih later]
      simp [Stream.after, colonTokens, lineTokens]

private theorem isAllowed_of_isWordChar {c : Char} (char : isWordChar c = true) :
    isAllowed c = true := by
  have visible : '\x20' ≤ c ∧ c ≤ '\x7e' := by
    rw [isWordChar, Bool.or_eq_true, Bool.or_eq_true, decide_eq_true_eq, decide_eq_true_eq] at char
    have between {low high : Char} (first : '\x20' ≤ low) (last : high ≤ '\x7e')
        (inside : low.val ≤ c.val ∧ c.val ≤ high.val) : '\x20' ≤ c ∧ c ≤ '\x7e' :=
      ⟨UInt32.le_trans first inside.1, UInt32.le_trans inside.2 last⟩
    rcases char with (alphanumeric | rfl) | rfl
    · rcases Bool.or_eq_true_iff.mp alphanumeric with letter | digit
      · rcases Bool.or_eq_true_iff.mp letter with upper | lower
        · exact between (by decide) (by decide) (of_decide_eq_true upper)
        · exact between (by decide) (by decide)
            ((Bool.and_eq_true_iff.mp lower).imp of_decide_eq_true of_decide_eq_true)
      · exact between (by decide) (by decide)
          ((Bool.and_eq_true_iff.mp digit).imp of_decide_eq_true of_decide_eq_true)
    · decide
    · decide
  simp [isAllowed, visible]

private theorem char_of_mem_lines (lines : ∀ entry ∈ entries, IsLine entry) {c : Char}
    (member : c ∈ entries.flatMap lineText) : isWordChar c = true ∨ c ∈ [':', ' ', '\n'] := by
  obtain ⟨entry, among, member⟩ := List.mem_flatMap.mp member
  have line := lines entry among
  simp only [lineText, List.mem_append, List.mem_cons, List.not_mem_nil, or_false] at member
  rcases member with name | rfl | rfl | word | rfl
  · exact .inl (line.name.chars c name)
  · exact .inr (by decide)
  · exact .inr (by decide)
  · exact .inl (line.word.chars c word)
  · exact .inr (by decide)

private theorem isAllowed_of_mem_lines (lines : ∀ entry ∈ entries, IsLine entry) :
    ∀ c ∈ entries.flatMap lineText, isAllowed c = true := by
  intro c member
  have marks : [':', ' ', '\n'].all isAllowed = true := by decide
  exact (char_of_mem_lines lines member).elim isAllowed_of_isWordChar (List.all_eq_true.mp marks c)

theorem all_isAllowed_lines (lines : ∀ entry ∈ entries, IsLine entry) :
    (linesText entries).toList.all isAllowed = true := by
  rw [linesText, String.toList_ofList, List.all_eq_true]
  exact isAllowed_of_mem_lines lines

theorem not_mem_lines (lines : ∀ entry ∈ entries, IsLine entry) {c : Char}
    (noWord : isWordChar c = false) (noMark : c ∉ [':', ' ', '\n']) :
    c ∉ (linesText entries).toList := by
  intro member
  rw [linesText, String.toList_ofList] at member
  rcases char_of_mem_lines lines member with char | mark
  · exact absurd char (noWord ▸ Bool.false_ne_true)
  · exact noMark mark

private theorem length_le_lines : entries.length ≤ (entries.flatMap lineText).length := by
  induction entries with
  | nil => exact Nat.le_refl 0
  | cons entry rest ih =>
      rw [List.flatMap_cons, List.length_append, List.length_cons]
      have filled : 0 < (lineText entry).length := by
        simp only [lineText, List.length_append, List.length_cons]
        omega
      omega

/-- The first line opens the mapping that the last one closes. -/
theorem tokens_ofSource_lines {first : String × String}
    (lines : ∀ entry ∈ first :: entries, IsLine entry) :
    Token.ofSource ⟨(linesText (first :: entries)).toList, none⟩ = ⟨.streamStart :: .blockMappingStart ::
      (first :: entries).flatMap lineTokens ++ [.blockEnd, .streamEnd], none⟩ := by
  obtain ⟨here, later⟩ := List.forall_mem_cons.mp lines
  have text : (linesText (first :: entries)).toList = first.1.toList ++ ':' :: ' ' ::
      (first.2.toList ++ '\n' :: entries.flatMap lineText) := by
    simp [linesText, lineText]
  -- Each line has a character at least, so the fuel is enough for all turns.
  obtain ⟨extra, enough⟩ : ∃ extra, 8 * (linesText (first :: entries)).toList.length + 16 =
      extra + 4 + 7 * entries.length + 1 + 1 + 4 + 1 + 1 + 1 := by
    have long : (first :: entries).length ≤ (linesText (first :: entries)).toList.length := by
      rw [linesText, String.toList_ofList]
      exact length_le_lines
    rw [List.length_cons] at long
    exact ⟨8 * (linesText (first :: entries)).toList.length + 16 - (7 * entries.length + 13), by omega⟩
  obtain ⟨index, taken, handed⟩ := @Lexer.tokens_line false first.1.toList first.2.toList
    (entries.flatMap lineText) 0 0 1 (extra + 4 + 7 * entries.length) here.name here.short here.word
    (startsPlainly_lines later)
  have started : Lexer.start (linesText (first :: entries)).toList =
      Lexer.state false ⟨first.1.toList ++ ':' :: ' ' :: (first.2.toList ++ '\n' ::
        entries.flatMap lineText), 0, 0, 0⟩ [.streamStart] 0 true [] := by
    rw [text]
    rfl
  unfold Token.ofSource
  dsimp only
  rw [enough, started, Lexer.tokens_of_turn (Lexer.turn_of_queue rfl rfl)]
  refine (congrArg (Stream.after _) (handed.trans
    (congrArg (Stream.after _) (Lexer.tokens_lines later)))).trans ?_
  simp [Stream.after, Lexer.colonTokens, lineTokens]

end

end WrapperTypings.Yaml
