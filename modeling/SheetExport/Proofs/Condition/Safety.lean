/-
**Every text is a condition or a mistake at a place in it.**

What the machine with a cursor relies on holds of the entries of every text, and it has as many as
the text has characters and one more at most. So it ends, meets no fault, and does what
`Condition.parse` says.

* `compile_eq_parse`: the machine does what `Condition.parse` says;
* `position_of_parse`: a mistake is reported at a place in the expression;
* `parse_safe`: both, with what the machine relies on.
-/

import SheetExport.Condition.Compiled
import SheetExport.Proofs.Condition.Following

namespace SheetExport.Condition

/-- The entries of a text are those that the tokenizer shows, and as the machine needs them: the end
stands last and alone, numbers are read as numbers, comparators as comparators. -/
structure Lexed.Sound (lexed : Lexed) : Prop where
  shown : lexed.entries = lexed.items.map Entry.shown
  ended : ∃ front, lexed.items = front ++ [⟨.finish, "", lexed.finish⟩] ∧
    ∀ entry ∈ front, entry.kind ≠ .finish
  numbers : ∀ entry ∈ lexed.items, entry.kind = .number →
    (Written.float? entry.text.toList).isSome = true
  comparators : ∀ entry ∈ lexed.items, entry.kind = .comparator →
    (Comparator.ofSymbol? entry.text).isSome = true

variable {expression : String} {lexed : Lexed} {mistake : Mistake} {e : SyntaxError} {fuel : Nat}

/-- An entry is a token's, or the end. -/
theorem Lexed.mem_items {entry : Entry} (member : entry ∈ lexed.items) :
    (∃ t ∈ lexed.tokens, t.entry = entry) ∨ entry = ⟨.finish, "", lexed.finish⟩ := by
  rcases List.mem_append.mp member with token | finish
  · exact Or.inl (List.mem_map.mp token)
  · exact Or.inr (List.mem_singleton.mp finish)

theorem Lexed.sound_of_readable (readable : ∀ t ∈ lexed.tokens, t.lexeme.Readable) :
    lexed.Sound := by
  refine ⟨lexed.entries_eq, ⟨lexed.tokens.map Token.entry, rfl, ?_⟩, ?_, ?_⟩
  · intro entry member
    obtain ⟨t, _, rfl⟩ := List.mem_map.mp member
    exact t.kind_ne_finish
  · intro entry member kind
    rcases mem_items member with ⟨⟨lexeme, position⟩, among, rfl⟩ | rfl
    · cases lexeme <;> cases kind
      rename_i numeral
      have text : (String.ofList numeral).toList = numeral := String.toList_ofList
      show (Written.float? (String.ofList numeral).toList).isSome = true
      rw [text, readable _ among numeral rfl]
      rfl
    · cases kind
  · intro entry member kind
    rcases mem_items member with ⟨⟨lexeme, position⟩, among, rfl⟩ | rfl
    · cases lexeme <;> cases kind
      rename_i comparator
      cases comparator <;> rfl
    · cases kind

/-- The tokens of an expression stand in it. -/
theorem inside_of_tokenize (read : tokenize expression = .ok lexed) :
    (∀ t ∈ lexed.tokens, t.Inside 0 expression.length) ∧
      lexed.tokens.length ≤ expression.length := by
  rw [← String.length_toList]
  exact inside_of_tokensFrom (tokensFrom_of_tokenize read).1

/-- What the tokenizer reports is a place in the expression. -/
theorem position_of_tokenize (failed : tokenize expression = .error e) :
    e.expression = expression ∧ ∃ p, e.mistake.position = some p ∧ p ≤ expression.length := by
  unfold tokenize at failed
  split at failed
  · cases failed
  · rename_i mistake same
    cases failed
    obtain ⟨p, position, before⟩ := exists_position_of_tokensFrom same
    rw [String.length_toList, Nat.zero_add] at before
    exact ⟨rfl, p, position, Nat.le_of_lt before⟩

/-- A mistake among the entries of an expression is at a place in it. -/
theorem Lexed.Marks.position (marks : lexed.Marks mistake)
    (read : tokenize expression = .ok lexed) :
    ∃ p, mistake.position = some p ∧ p ≤ expression.length := by
  obtain ⟨entry, member, same⟩ := marks
  refine ⟨entry.position, same, ?_⟩
  rcases mem_items member with ⟨t, among, rfl⟩ | rfl
  · have before := ((inside_of_tokenize read).1 t among).before
    rw [Nat.zero_add] at before
    exact Nat.le_of_lt before
  · exact Nat.le_of_eq (tokensFrom_of_tokenize read).2

/-- On the tokens of an expression that is not blank, the machine does what the parser says. -/
theorem run_whole (read : tokenize expression = .ok lexed)
    (notBlank : Text.isAllBlank expression.toList = false)
    (enough : 7 * (expression.length + 1) ≤ fuel) :
    match lexed.parse with
    | .ok root => (((lexed.tape expression).whole fuel).run.run 0).1 = .ok ⟨expression, root⟩
    | .error mistake => lexed.Marks mistake ∧
      (((lexed.tape expression).whole fuel).run.run 0).1 =
        .error (.syntaxError { mistake, expression }) := by
  obtain ⟨inside, few⟩ := inside_of_tokenize read
  have nonempty : lexed.tokens ≠ [] := by
    intro none
    have scanned := (tokensFrom_of_tokenize read).1
    rw [none] at scanned
    rw [isAllBlank_of_tokensFrom_nil scanned] at notBlank
    cases notBlank
  have follows := follows_whole expression (fun t among => (inside t among).readable) nonempty
    (show 7 * (lexed.tokens.length + 1) ≤ fuel by omega) 0 ⟨[], rfl, rfl⟩
  cases parsed : lexed.parse with
  | ok root =>
    rw [parsed] at follows
    obtain ⟨_, _, yields⟩ := follows
    exact congrArg Prod.fst yields
  | error mistake =>
    rw [parsed] at follows
    obtain ⟨marks, _, fails⟩ := follows
    exact ⟨marks, congrArg Prod.fst fails⟩

/-- **The machine does what `Condition.parse` says**: it ends, and meets no fault. -/
theorem compile_eq_parse (expression : String) (enough : 7 * (expression.length + 1) ≤ fuel) :
    compile fuel expression = (Condition.parse expression).mapError Stop.syntaxError := by
  unfold compile Condition.parse
  split
  · rfl
  · rename_i notBlank
    cases read : tokenize expression with
    | error e => rfl
    | ok lexed =>
      have run := run_whole read (eq_false_of_ne_true notBlank) enough
      cases parsed : lexed.parse with
      | ok root =>
        rw [parsed] at run
        simp only [parsed]
        exact run
      | error mistake =>
        rw [parsed] at run
        simp only [parsed]
        exact run.2

/-- **A mistake is reported with the expression and at a place in it**; only a blank expression has
a mistake without a place. -/
theorem position_of_parse (failed : Condition.parse expression = .error e) :
    e.expression = expression ∧
      (e.mistake.position = none ↔ Text.isAllBlank expression.toList = true) ∧
      ∀ p ∈ e.mistake.position, p ≤ expression.length := by
  unfold Condition.parse at failed
  split at failed
  · rename_i blank
    cases failed
    exact ⟨rfl, ⟨fun _ => blank, fun _ => rfl⟩, nofun⟩
  · rename_i notBlank
    obtain ⟨same, p, place, le⟩ : e.expression = expression ∧
        ∃ p, e.mistake.position = some p ∧ p ≤ expression.length := by
      split at failed
      · cases failed
        exact position_of_tokenize ‹_›
      · rename_i lexed read
        have run := run_whole read (eq_false_of_ne_true notBlank) (Nat.le_refl _)
        split at failed
        · rename_i mistake parsed
          cases failed
          rw [parsed] at run
          exact ⟨rfl, run.1.position read⟩
        · cases failed
    refine ⟨same, ⟨fun none => ?_, fun blank => absurd blank notBlank⟩, ?_⟩
    · rw [place] at none
      cases none
    · intro q there
      rw [place] at there
      cases there
      exact le

/-- **Compiling an expression is safe.** It ends in a condition or in a mistake of the expression,
at a place in it unless it is blank; on the way the cursor stays on the entries, of which only the
last is the end, and every number and every comparator among them is read as one. -/
theorem parse_safe (expression : String) :
    (∀ fuel, 7 * (expression.length + 1) ≤ fuel →
      compile fuel expression = (Condition.parse expression).mapError Stop.syntaxError) ∧
    (∀ e, Condition.parse expression = .error e → e.expression = expression ∧
      (e.mistake.position = none ↔ Text.isAllBlank expression.toList = true) ∧
      ∀ p ∈ e.mistake.position, p ≤ expression.length) ∧
    ∀ lexed, tokenize expression = .ok lexed → lexed.Sound := by
  refine ⟨fun fuel enough => compile_eq_parse expression enough,
    fun e failed => position_of_parse failed, fun lexed read => ?_⟩
  exact Lexed.sound_of_readable fun t among => ((inside_of_tokenize read).1 t among).readable

end SheetExport.Condition
