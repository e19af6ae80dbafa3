/-
**The machine with a cursor follows the parser.**

Every function of the machine does what the parsing function of its name says, from the tests up to
whole conditions. The connectives are one induction along the calls of the parsing functions; the
depth of calls that suffices there is the measure by which these end, with room for seven calls per
token.

* `follows_test`: a test is read as `parseTest` says;
* `follows_all`: so are the levels, their operands and further operands;
* `follows_whole`: and a whole condition.
-/

import SheetExport.Proofs.Condition.Cursor

namespace SheetExport.Condition

variable {lexed : Lexed}

/-! ### Tests -/

section Tests

variable (expression : String) (readable : ∀ t ∈ lexed.tokens, t.lexeme.Readable)

include readable

theorem follows_expectNumber (comparator : Comparator) (ts : List Token) :
    Follows lexed expression ((lexed.tape expression).expectNumber comparator) ts
      (parseOperandNumber lexed.finish comparator ts).view := by
  unfold parseOperandNumber
  split
  · exact .bind (.current _) (.skip rfl (.yes rfl (.fail _)))
  · rename_i numeral position rest
    refine .ofSuffix fun suffix => .bind (.current _) (.yes rfl (.bind (.advance _ _) ?_))
    exact .readNumber (readable _ (suffix.subset List.mem_cons_self))
  · rename_i t rest notNumber
    refine .bind (.current _) (.no ?_ (.no t.kind_ne_finish (.fail _)))
    intro number
    obtain ⟨_, _, _, same⟩ := number_of_kind number
    exact notNumber _ _ (List.cons.inj same).1

theorem follows_bound (part : BetweenPart) (ts : List Token) :
    Follows lexed expression ((lexed.tape expression).bound part) ts
      (parseBound lexed.finish part ts).view := by
  unfold parseBound
  split
  · rename_i numeral position rest
    refine .ofSuffix fun suffix => .bind (.current _) (.yes rfl (.bind (.advance _ _) ?_))
    exact .readNumber (readable _ (suffix.subset List.mem_cons_self))
  · rename_i notNumber
    refine .bind (.current _) (.no ?_ (.fail _))
    intro number
    obtain ⟨_, _, _, same⟩ := number_of_kind number
    exact notNumber _ _ _ same

omit readable

theorem follows_expectText (how : TextMatch) (ts : List Token) :
    Follows lexed expression ((lexed.tape expression).expectText how) ts
      (parseText lexed.finish how ts).view := by
  unfold parseText
  split
  · exact .bind (.current _) (.yes rfl (.bind (.advance _ _) (.pure _ _)))
  · exact .bind (.current _) (.skip rfl (.yes (.inl rfl) (.fail _)))
  · exact .bind (.current _) (.skip rfl (.yes (.inr rfl) (.fail _)))
  · rename_i notQuoted notWord notNumber
    refine .bind (.current _) (.no ?_ (.no ?_ (.fail _)))
    · intro quoted
      obtain ⟨lexeme, position, _, rfl, kind⟩ := cons_of_kind quoted (by decide)
      cases lexeme <;> cases kind
      exact notQuoted _ _ _ rfl
    · rintro (word | number)
      · obtain ⟨_, _, _, same⟩ := word_of_kind word
        exact notWord _ _ _ same
      · obtain ⟨_, _, _, same⟩ := number_of_kind number
        exact notNumber _ _ _ same

theorem follows_conjunction (ts : List Token) :
    Follows lexed expression (lexed.tape expression).conjunction ts
      (parseConjunction lexed.finish ts).view := by
  unfold parseConjunction
  split
  · rename_i w position rest
    split
    · rename_i same
      subst same
      exact .bind (.current _) (.yes (isWord_word _ _) (.bind (.advance _ _) (.pure _ _)))
    · rename_i other
      refine .bind (.current _) (.no ?_ (.fail _))
      intro word
      obtain ⟨_, _, same⟩ := word_of_isWord word
      cases same
      exact other rfl
  · rename_i notWord
    refine .bind (.current _) (.no ?_ (.fail _))
    intro word
    obtain ⟨_, _, rfl⟩ := word_of_isWord word
    exact notWord _ _ _ rfl

include readable

theorem follows_between (ts : List Token) :
    Follows lexed expression (lexed.tape expression).between ts
      (parseBetween lexed.finish ts).view := by
  have lower := follows_bound expression readable .lower ts
  unfold parseBetween
  split
  · exact lower.stop ‹_›
  · rename_i first readFirst
    have word : Follows lexed expression (lexed.tape expression).conjunction first.rest _ :=
      follows_conjunction expression first.rest
    split
    · exact lower.step readFirst (word.stop ‹_›)
    · rename_i middle readMiddle
      have upper := follows_bound expression readable .upper middle.rest
      split
      · exact lower.step readFirst (word.step readMiddle (upper.stop ‹_›))
      · rename_i last readLast
        exact lower.step readFirst (word.step readMiddle (upper.step readLast (.pure _ _)))

theorem follows_keyword (w : List Char) (position : Nat) (ts : List Token) :
    Follows lexed expression ((lexed.tape expression).keyword (Token.entry ⟨.word w, position⟩))
      (⟨.word w, position⟩ :: ts) (parseKeyword lexed.finish w position ts).view := by
  have text : (Token.entry ⟨.word w, position⟩).text.toList = w := String.toList_ofList
  unfold parseKeyword Tape.keyword
  rw [text]
  cases Keyword.ofWord? w with
  | none => exact .fail _
  | some keyword =>
    refine .bind (.advance _ _) ?_
    cases keyword with
    | between =>
      simp only [Parsed.view_weaken]
      exact follows_between expression readable ts
    | matchText how =>
      simp only [Parsed.view_map_weaken]
      exact .map (follows_expectText expression how ts)
    | has property => exact .pure _ _

theorem follows_comparison (ts : List Token) :
    Follows lexed expression (lexed.tape expression).comparison ts
      (parseComparison lexed.finish ts).view := by
  unfold parseComparison
  split
  · exact .bind (.current _) (.skip rfl (.yes rfl (.fail _)))
  · rename_i comparator position rest
    rw [Parsed.view_map_weaken]
    refine .bind (.current _) (.yes rfl (.bind (.advance _ _) (.bind (.readComparator _) ?_)))
    exact .map (follows_expectNumber expression readable comparator rest)
  · rename_i w position rest
    refine .bind (.current _) (.skip rfl (.skip rfl (.yes rfl ?_)))
    exact follows_keyword expression readable w position rest
  · rename_i t rest notComparator notWord
    refine .bind (.current _) (.no ?_ (.no t.kind_ne_finish (.no ?_ (.fail _))))
    · intro comparator
      obtain ⟨lexeme, position, _, same, kind⟩ := cons_of_kind comparator (by decide)
      cases same
      cases lexeme <;> cases kind
      exact notComparator _ _ rfl
    · intro word
      obtain ⟨_, _, _, same⟩ := word_of_kind word
      exact notWord _ _ (List.cons.inj same).1

theorem follows_test (ts : List Token) :
    Follows lexed expression (lexed.tape expression).test ts
      (parseTest lexed.finish ts).view := by
  unfold parseTest
  split
  · exact .bind (.current _) (.yes rfl (.fail _))
  · rename_i t rest
    split
    · rename_i isValue
      obtain ⟨_, position⟩ := t
      cases isValue
      rw [Parsed.view_weaken]
      refine .bind (.current _) (.skip rfl (.yes (isWord_word _ _) (.bind (.advance _ _) ?_)))
      exact follows_comparison expression readable rest
    · rename_i other
      refine .bind (.current _) (.no t.kind_ne_finish (.no ?_ (.fail _)))
      intro value
      obtain ⟨_, _, same⟩ := word_of_isWord value
      cases same
      exact other rfl

end Tests

/-! ### Connectives -/

section Connectives

variable (expression : String) (readable : ∀ t ∈ lexed.tokens, t.lexeme.Readable)

theorem Level.joinsEntry_entry (level : Level) (t : Token) :
    level.joinsEntry t.entry = level.joins t.lexeme := by
  obtain ⟨lexeme, position⟩ := t
  cases lexeme with
  | connective c => simp [joinsEntry, joins, Token.entry, Lexeme.entryKind, Entry.isWord]
  | word w =>
    have text : ∀ v : List Char, String.ofList w = String.ofList v ↔ v = w := by
      intro v
      rw [String.ofList_inj, eq_comm]
    cases level <;> simp [joinsEntry, joins, Token.entry, Lexeme.entryKind, Lexeme.text,
      Entry.isWord, word?, text]
  | _ => cases level <;> simp [joinsEntry, joins, Token.entry, Lexeme.entryKind, Entry.isWord]

theorem Level.joinsEntry_finish (level : Level) (finish : Nat) :
    level.joinsEntry (entryOf finish []) = false := by
  cases level <;> simp [joinsEntry, entryOf, Entry.isWord]

/-- There are three ranks. -/
theorem Level.rank_mem (level : Level) : 0 < level.rank ∧ level.rank ≤ 3 := by
  cases level <;> decide

/-! What is shown of the four functions: with room for seven calls per token they follow the parsing
functions. -/

/-- A level is followed. -/
def FollowsLevel (lexed : Lexed) (expression : String) (level : Level) (ts : List Token) : Prop :=
  ∀ fuel, 7 * ts.length + 2 * level.rank + 1 ≤ fuel →
    Follows lexed expression ((lexed.tape expression).readLevel fuel level) ts
      (parseLevel lexed.finish level ts).view

/-- The further operands of a level are followed. -/
def FollowsJoined (lexed : Lexed) (expression : String) (level : Level) (ts : List Token)
    (soFar : Front Tree ts) : Prop :=
  ∀ fuel, 7 * soFar.rest.length + 1 ≤ fuel →
    Follows lexed expression ((lexed.tape expression).readJoined fuel level soFar.value) soFar.rest
      (parseJoined lexed.finish level soFar).view

/-- An operand of a level is followed. -/
def FollowsOperand (lexed : Lexed) (expression : String) (level : Level) (ts : List Token) : Prop :=
  ∀ fuel, 7 * ts.length + 2 * level.rank ≤ fuel →
    Follows lexed expression ((lexed.tape expression).readOperand fuel level) ts
      (parseOperand lexed.finish level ts).view

/-- An operand of the tightest level is followed. -/
def FollowsUnary (lexed : Lexed) (expression : String) (ts : List Token) : Prop :=
  ∀ fuel, 7 * ts.length + 1 ≤ fuel →
    Follows lexed expression ((lexed.tape expression).readUnary fuel) ts
      (parseUnary lexed.finish ts).view

include readable

/-- The four functions of the machine follow the parsing functions, by one induction along the calls
of these. -/
theorem follows_all :
    (∀ level ts, FollowsLevel lexed expression level ts) ∧
    (∀ level ts (soFar : Front Tree ts), FollowsJoined lexed expression level ts soFar) ∧
    (∀ level ts, FollowsOperand lexed expression level ts) ∧
    ∀ ts, FollowsUnary lexed expression ts := by
  apply parseLevel.mutual_induct lexed.finish (FollowsLevel lexed expression)
    (FollowsJoined lexed expression) (FollowsOperand lexed expression)
    (FollowsUnary lexed expression)
  -- A level without a first operand.
  · rintro level ts mistake failed operand (_ | fuel) enough
    · omega
    rw [parseLevel, failed]
    exact (operand fuel (by omega)).stop failed
  -- A level after its first operand.
  · rintro level ts first read operand joined (_ | fuel) enough
    · omega
    have shorter := first.shorter
    rw [parseLevel, read]
    exact (operand fuel (by omega)).step read (joined fuel (by omega))
  -- The joined operands end with the text.
  · rintro level ts soFar atEnd (_ | fuel) enough
    · omega
    rw [parseJoined_nil atEnd]
    refine .bind (.current _) (.no ?_ (.pure _ _))
    rw [atEnd, level.joinsEntry_finish]
    exact Bool.false_ne_true
  -- An operator without an operand behind it.
  · rintro level ts soFar t rest follows joins mistake failed operand (_ | fuel) enough
    · omega
    have few := level.rank_mem
    rw [follows, List.length_cons] at enough
    rw [parseJoined_failed follows joins failed, follows]
    refine .bind (.current _) (.yes ((level.joinsEntry_entry t).trans joins) ?_)
    exact .bind (.advance _ _) ((operand fuel (by omega)).stop failed)
  -- An operator with its operand.
  · rintro level ts soFar t rest follows joins next read operand joined (_ | fuel) enough
    · omega
    have shorter := next.shorter
    have few := level.rank_mem
    rw [follows, List.length_cons] at enough
    have onward : ∀ us, us = t :: rest → Follows lexed expression
        ((lexed.tape expression).readJoined (fuel + 1) level soFar.value) us
        (parseJoined lexed.finish level (soFar.joinedBy level next follows)).view := by
      rintro _ rfl
      refine .bind (.current _) (.yes ((level.joinsEntry_entry t).trans joins) ?_)
      have others : 7 * next.rest.length + 1 ≤ fuel := by omega
      exact .bind (.advance _ _) ((operand fuel (by omega)).step read (joined fuel others))
    rw [parseJoined_step follows joins read]
    exact onward _ follows
  -- The joined operands end before a token that does not join.
  · rintro level ts soFar t rest follows stop (_ | fuel) enough
    · omega
    rw [parseJoined_stop follows stop]
    refine .bind (.current _) (.no ?_ (.pure _ _))
    rw [follows]
    exact fun joins => stop ((level.joinsEntry_entry t).symm.trans joins)
  -- An operand of a level above the tightest.
  · rintro level ts tighter below joined (_ | fuel) enough
    · exact absurd enough (by have := level.rank_mem; omega)
    have lower := Level.rank_lt_of_tighter? below
    rw [parseOperand_eq, Level.operand_of_some below, Tape.readOperand, below]
    exact joined fuel (by omega)
  -- An operand of the tightest level.
  · rintro level ts below unary (_ | fuel) enough
    · exact absurd enough (by have := level.rank_mem; omega)
    have positive := level.rank_mem
    rw [parseOperand_eq, Level.operand_of_none below, Tape.readOperand, below]
    exact unary fuel (by omega)
  -- A negation of what cannot be read.
  · rintro position rest mistake failed unary (_ | fuel) enough
    · omega
    rw [List.length_cons] at enough
    rw [parseUnary, failed]
    refine .bind (.current _) (.yes rfl (.bind (.advance _ _) ?_))
    exact (unary fuel (by omega)).stop failed
  -- A negation.
  · rintro position rest operand read unary (_ | fuel) enough
    · omega
    rw [List.length_cons] at enough
    rw [parseUnary, read]
    refine .bind (.current _) (.yes rfl (.bind (.advance _ _) ?_))
    exact (unary fuel (by omega)).step read (.pure _ _)
  -- Parentheses around nothing.
  · rintro opened closed tail (_ | fuel) enough
    · omega
    rw [parseUnary]
    refine .bind (.current _) (.skip rfl (.yes rfl (.bind (.advance _ _) ?_)))
    exact .bind (.current _) (.yes rfl (.fail _))
  -- Parentheses around what cannot be read.
  · rintro opened inner notClosed mistake failed joined (_ | fuel) enough
    · omega
    rw [List.length_cons] at enough
    have loosest : Level.or.rank = 3 := rfl
    rw [parseUnary_open_failed opened notClosed failed]
    refine .bind (.current _) (.skip rfl (.yes rfl (.bind (.advance _ _) ?_)))
    refine .bind (.current _) (.no (NotClosed.kind_ne notClosed lexed.finish) ?_)
    exact (joined fuel (by omega)).stop failed
  -- Parentheses.
  · rintro opened inner notClosed enclosed closed rest shorter read joined (_ | fuel) enough
    · omega
    rw [List.length_cons] at enough
    have loosest : Level.or.rank = 3 := rfl
    obtain ⟨_, outcome⟩ := parseUnary_open_closed opened notClosed read rfl
    rw [outcome]
    refine .bind (.current _) (.skip rfl (.yes rfl (.bind (.advance _ _) ?_)))
    refine .bind (.current _) (.no (NotClosed.kind_ne notClosed lexed.finish) ?_)
    refine (joined fuel (by omega)).step read (.bind (.current _) (.yes rfl ?_))
    exact .bind (.advance _ _) (.pure _ _)
  -- A parenthesis that is not closed.
  · rintro opened inner notClosed enclosed unclosed read joined (_ | fuel) enough
    · omega
    rw [List.length_cons] at enough
    have notClosing : NotClosed enclosed.rest := by
      intro closed tail same
      obtain ⟨tree, rest, shorter⟩ := enclosed
      subst same
      exact unclosed _ _ _ _ rfl
    have loosest : Level.or.rank = 3 := rfl
    rw [parseUnary_open_unclosed opened notClosed read notClosing]
    refine .seen fun seen => .bind (.current _) (.skip rfl (.yes rfl (.bind (.advance _ _) ?_)))
    refine .bind (.current _) (.no (NotClosed.kind_ne notClosed lexed.finish) ?_)
    refine (joined fuel (by omega)).step read (.bind (.current _) (.no ?_ (.failAt _ seen)))
    exact notClosing.kind_ne lexed.finish
  -- A test.
  · rintro other notNegated notOpened (_ | fuel) enough
    · omega
    rw [parseUnary_test notNegated notOpened, Parsed.view_map]
    refine .bind (.current _) (.no ?_ (.no ?_ (.map (follows_test expression readable other))))
    · intro negated
      obtain ⟨lexeme, position, rest, rfl, kind⟩ := cons_of_kind negated (by decide)
      cases lexeme <;> cases kind
      exact notNegated _ _ rfl
    · intro opened
      obtain ⟨lexeme, position, rest, rfl, kind⟩ := cons_of_kind opened (by decide)
      cases lexeme <;> cases kind
      exact notOpened _ _ rfl

theorem follows_whole (nonempty : lexed.tokens ≠ []) {fuel : Nat}
    (enough : 7 * (lexed.tokens.length + 1) ≤ fuel) :
    Follows lexed expression ((lexed.tape expression).whole fuel) lexed.tokens
      (lexed.parse.map fun root => (⟨expression, root⟩, [])) := by
  have loosest : Level.or.rank = 3 := rfl
  have root := (follows_all expression readable).1 .or lexed.tokens fuel (by omega)
  have notFinish : (entryOf lexed.finish lexed.tokens).kind ≠ .finish :=
    fun finish => nonempty (nil_of_kind finish)
  refine .bind (.current _) (.no notFinish ?_)
  unfold Lexed.parse
  split
  · exact absurd ‹_› nonempty
  · split
    · exact root.stop ‹_›
    · rename_i whole read
      refine root.step read (.bind (.current _) ?_)
      generalize whole.rest = remaining
      rcases remaining with _ | ⟨⟨lexeme, position⟩, rest⟩
      · exact .skip rfl (.yes rfl (.pure _ _))
      · cases lexeme with
        | rightParen => exact .yes rfl (.fail _)
        | _ => exact .skip rfl (.no (Token.kind_ne_finish _) (.fail _))

end Connectives

end SheetExport.Condition
