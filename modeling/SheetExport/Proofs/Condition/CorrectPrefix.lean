/-
**A mistake is reported at the first token with which no condition begins.**

The end of the text counts as the last token. Up to the one where the parser stops, the tokens are
the beginning of a condition, and with it they are the beginning of none.

* `stops_of_parsePhrase`: what follows a phrase that was read does not go on with it;
* `Derives.balanced`: behind a phrase, the same parentheses are open as before it;
* `stopsIn_of_parsePhrase`: a parsing function that fails stops in its tokens;
* `Lexed.FirstWrong lexed i` — entry `i` is the first with which no condition begins;
* `firstWrong_of_parse`: a mistake is reported at that entry, or at the innermost parenthesis
  that is open before it if it is not closed; the mistake of having no tokens has no place.
-/

import SheetExport.Proofs.Condition.Stopping

namespace SheetExport.Condition

/-! ### What follows a phrase -/

section Following

variable {finish : Nat} {phrase : Phrase} {level : Level} {ts us rest : List Token}

/-- Only the first token can go on with a phrase. -/
theorem Stops.of_head? (stops : Stops phrase rest) (same : us.head? = rest.head?) :
    Stops phrase us := by
  rw [Stops, same]
  exact stops

theorem NotClosed.of_head? (notClosed : NotClosed rest) (same : us.head? = rest.head?) :
    NotClosed us := by
  rintro closed tail rfl
  obtain ⟨tail', isClosed⟩ := List.head?_eq_some_iff.mp same.symm
  exact notClosed closed tail' isClosed

/-- What joins no operands of a level, and does not go on with one, does not go on with a phrase of
the level. -/
theorem Stops.joined (stops : Stops level.operand rest)
    (ends : ∀ t ∈ rest.head?, ¬ level.joins t.lexeme) : Stops (.joined level) rest := by
  intro t head other le
  by_cases same : other = level
  · rw [same]
    exact ends t head
  · refine stops t head other ?_
    cases level <;> cases other <;>
      first | exact absurd rfl same | exact absurd le (by decide) | decide

/-- What is left when operands are joined does not go on with them. -/
theorem stops_all :
    (∀ level ts (x : Front Tree ts), parseLevel finish level ts = .ok x →
      Stops (.joined level) x.rest) ∧
    (∀ level ts (soFar x : Front Tree ts), parseJoined finish level soFar = .ok x →
      Stops level.operand soFar.rest → Stops (.joined level) x.rest) ∧
    (∀ level ts (x : Front Tree ts), parseOperand finish level ts = .ok x →
      Stops level.operand x.rest) ∧
    ∀ ts (x : Front Tree ts), parseUnary finish ts = .ok x → Stops .unary x.rest := by
  apply parseLevel.mutual_induct finish
    (fun level ts => ∀ x : Front Tree ts, parseLevel finish level ts = .ok x →
      Stops (.joined level) x.rest)
    (fun level ts soFar => ∀ x : Front Tree ts, parseJoined finish level soFar = .ok x →
      Stops level.operand soFar.rest → Stops (.joined level) x.rest)
    (fun level ts => ∀ x : Front Tree ts, parseOperand finish level ts = .ok x →
      Stops level.operand x.rest)
    (fun ts => ∀ x : Front Tree ts, parseUnary finish ts = .ok x → Stops .unary x.rest)
  -- A level without a first operand.
  · intro level ts mistake failed _ x read
    rw [parseLevel, failed] at read
    cases read
  -- A level after its first operand.
  · intro level ts first readFirst operand joined x read
    rw [parseLevel, readFirst] at read
    exact joined x read (operand first readFirst)
  -- The joined operands end with the text.
  · intro level ts soFar atEnd x read _
    rw [parseJoined_nil atEnd] at read
    cases read
    rw [atEnd]
    exact stops_nil _
  -- An operator without an operand behind it.
  · intro level ts soFar t rest follows joins mistake failed _ x read
    rw [parseJoined_failed follows joins failed] at read
    cases read
  -- An operator with its operand.
  · intro level ts soFar t rest follows joins next readNext operand joined x read _
    rw [parseJoined_step follows joins readNext] at read
    exact joined x read (operand next readNext)
  -- The joined operands end before a token that does not join.
  · intro level ts soFar t rest follows stop x read stops
    rw [parseJoined_stop follows stop] at read
    cases read
    refine stops.joined fun other head => ?_
    rw [follows] at head
    cases head
    exact stop
  -- An operand of a level above the tightest.
  · intro level ts tighter below joined x read
    rw [parseOperand_eq, Level.operand_of_some below] at read
    rw [Level.operand_of_some below]
    exact joined x read
  -- Operands of the tightest level are not gone on with.
  · intro level ts below _ x _
    rw [Level.operand_of_none below]
    exact Stops.unary _
  all_goals intros; exact Stops.unary _

/-- **What follows a phrase that was read does not go on with it.** -/
theorem stops_of_parsePhrase {x : Front Tree ts} (read : parsePhrase finish phrase ts = .ok x) :
    Stops phrase x.rest := by
  cases phrase with
  | joined level => exact stops_all.1 level ts x read
  | unary => exact stops_all.2.2.2 ts x read

/-- What was read off is read off before other tokens too, if their first one is the same. -/
theorem exists_parsePhrase_append {x : Front Tree ts}
    (read : parsePhrase finish phrase ts = .ok x) :
    ∃ vs, ts = vs ++ x.rest ∧ Derives phrase (lexemesOf vs) x.value ∧
      ∀ us, us.head? = x.rest.head? →
        ∃ y, parsePhrase finish phrase (vs ++ us) = .ok y ∧ y.value = x.value ∧ y.rest = us := by
  obtain ⟨vs, same, derives⟩ := ReadOff.of_parsePhrase read
  refine ⟨vs, same, derives, fun us head => ?_⟩
  exact parsePhrase_append finish derives vs us rfl ((stops_of_parsePhrase read).of_head? head)

end Following

/-! ### Parentheses -/

section Parentheses

/-- Tokens of these lexemes leave open what was open before them. -/
def Balanced (lexemes : List Lexeme) : Prop :=
  ∀ ts, lexemesOf ts = lexemes → ∀ opened, openBehind opened ts = opened

theorem Balanced.append {lexemes more : List Lexeme} (first : Balanced lexemes)
    (second : Balanced more) : Balanced (lexemes ++ more) := by
  intro ts same opened
  obtain ⟨us, vs, rfl, front, back⟩ := exists_of_lexemesOf_append same
  rw [openBehind_append, first us front, second vs back]

theorem Balanced.flatMap {further : List Further}
    (each : ∀ f ∈ further, Balanced f.written) : Balanced (further.flatMap Further.written) := by
  induction further with
  | nil =>
    intro ts same opened
    rw [List.map_eq_nil_iff.mp same]
    rfl
  | cons f further ih =>
    rw [List.flatMap_cons]
    exact (each f List.mem_cons_self).append
      (ih fun g member => each g (List.mem_cons_of_mem _ member))

/-- A lexeme that is no parenthesis leaves open what was open. -/
theorem Balanced.cons {lexeme : Lexeme} {lexemes : List Lexeme}
    (plain : lexeme ≠ .leftParen ∧ lexeme ≠ .rightParen) (others : Balanced lexemes) :
    Balanced (lexeme :: lexemes) := by
  intro ts same opened
  obtain ⟨position, us, rfl, after⟩ := exists_of_lexemesOf_cons same
  have kept : Token.track opened ⟨lexeme, position⟩ = opened := by
    unfold Token.track
    cases lexeme <;> simp_all
  show openBehind (Token.track opened ⟨lexeme, position⟩) us = opened
  rw [kept, others us after]

theorem Balanced.nil : Balanced [] := by
  intro ts same opened
  rw [List.map_eq_nil_iff.mp same]
  rfl

theorem TestPhrase.balanced {lexemes : List Lexeme} {test : Test}
    (phrase : TestPhrase lexemes test) : Balanced lexemes := by
  cases phrase <;> repeat' first | exact .nil | refine .cons (by simp) ?_

/-- **Behind a phrase, the same parentheses are open as before it.** -/
theorem Derives.balanced {phrase : Phrase} {lexemes : List Lexeme} {tree : Tree}
    (derives : Derives phrase lexemes tree) : Balanced lexemes := by
  induction derives with
  | joined level further head operators operands inHead inOperands =>
    refine inHead.append (.flatMap fun f member => .cons ?_ (inOperands f member))
    have operator := operators f member
    constructor <;> intro same <;> rw [same] at operator <;> cases level <;>
      simp [Level.operators] at operator
  | negation operand ih => exact .cons (by simp) ih
  | parentheses enclosed ih =>
    intro ts same opened
    obtain ⟨first, us, rfl, after⟩ := exists_of_lexemesOf_cons same
    obtain ⟨inner, closing, rfl, innerLexemes, closingLexemes⟩ := exists_of_lexemesOf_append after
    obtain ⟨last, none_, rfl, noneLexemes⟩ := exists_of_lexemesOf_cons closingLexemes
    cases List.map_eq_nil_iff.mp noneLexemes
    show openBehind (first :: opened) (inner ++ [⟨.rightParen, last⟩]) = opened
    rw [openBehind_append, ih inner innerLexemes]
    rfl
  | test phrase => exact phrase.balanced

end Parentheses

/-! ### Phrases -/

section Phrases

variable {finish : Nat} {level : Level} {mistake : Mistake} {ts rest : List Token}

/-- The lexemes are those of a phrase. -/
def Derivable (phrase : Phrase) (lexemes : List Lexeme) : Prop :=
  ∃ tree, Derives phrase lexemes tree

/-- The lexemes go on with every phrase that joins operands of the level. -/
def Continues (level : Level) (lexemes : List Lexeme) : Prop :=
  ∀ before, Derivable (.joined level) before → Derivable (.joined level) (before ++ lexemes)

/-- Operands before the tokens cannot be gone on with by them. -/
def RejectsOn (finish : Nat) (level : Level) (us : List Token) : Prop :=
  ∀ {ts : List Token} (soFar : Front Tree ts), soFar.rest = us →
    ∃ mistake, parseJoined finish level soFar = .error mistake

theorem exists_derivable (phrase : Phrase) : ∃ lexemes, Derivable phrase lexemes := by
  have unary : Derives Level.and.operand _ _ := .test (.has .isEmpty)
  have and : Derives Level.xor.operand _ _ := unary.single
  have xor : Derives Level.or.operand _ _ := and.single
  cases phrase with
  | unary => exact ⟨_, _, unary⟩
  | joined level =>
    cases level with
    | and => exact ⟨_, _, and⟩
    | xor => exact ⟨_, _, xor⟩
    | or => exact ⟨_, _, xor.single⟩

theorem rejects_parseLevel {x : Front Tree ts} (read : parseOperand finish level ts = .ok x) :
    ∃ vs, ts = vs ++ x.rest ∧ Derivable level.operand (lexemesOf vs) ∧
      ∀ us, us.head? = x.rest.head? → RejectsOn finish level us →
        Rejects (parseLevel finish level) (vs ++ us) := by
  rw [parseOperand_eq] at read
  obtain ⟨vs, same, derives, again⟩ := exists_parsePhrase_append read
  refine ⟨vs, same, ⟨_, derives⟩, fun us head rejects => ?_⟩
  obtain ⟨y, readAgain, _, remaining⟩ := again us head
  obtain ⟨mistake, failed⟩ := rejects y remaining
  exact ⟨mistake, by rw [parseLevel, parseOperand_eq, readAgain]; exact failed⟩

/-- A parsing function that fails stops in its tokens, by one induction along the calls. -/
theorem stopsIn_all :
    (∀ level ts mistake, parseLevel finish level ts = .error mistake →
      StopsIn finish (Rejects (parseLevel finish level)) (Derivable (.joined level)) mistake ts) ∧
    (∀ level ts (soFar : Front Tree ts) mistake, parseJoined finish level soFar = .error mistake →
      StopsIn finish (RejectsOn finish level) (Continues level) mistake soFar.rest) ∧
    (∀ level ts mistake, parseOperand finish level ts = .error mistake →
      StopsIn finish (Rejects (parseOperand finish level)) (Derivable level.operand) mistake ts) ∧
    ∀ ts mistake, parseUnary finish ts = .error mistake →
      StopsIn finish (Rejects (parseUnary finish)) (Derivable .unary) mistake ts := by
  apply parseLevel.mutual_induct finish
    (fun level ts => ∀ mistake, parseLevel finish level ts = .error mistake →
      StopsIn finish (Rejects (parseLevel finish level)) (Derivable (.joined level)) mistake ts)
    (fun level ts soFar => ∀ mistake, parseJoined finish level soFar = .error mistake →
      StopsIn finish (RejectsOn finish level) (Continues level) mistake soFar.rest)
    (fun level ts => ∀ mistake, parseOperand finish level ts = .error mistake →
      StopsIn finish (Rejects (parseOperand finish level)) (Derivable level.operand) mistake ts)
    (fun ts => ∀ mistake, parseUnary finish ts = .error mistake →
      StopsIn finish (Rejects (parseUnary finish)) (Derivable .unary) mistake ts)
  -- A level without a first operand.
  · intro level ts mistake' failed operand mistake stopped
    rw [parseLevel, failed] at stopped
    cases stopped
    refine (operand _ failed).imp ?_ ?_
    · rintro lexemes ⟨tree, derives⟩
      exact ⟨[], tree, by rw [List.append_nil]; exact derives.single⟩
    · rintro us _ ⟨mistake, failed⟩
      exact ⟨mistake, by rw [parseLevel, failed]⟩
  -- A level after its first operand.
  · intro level ts first readFirst _ joined mistake stopped
    rw [parseLevel, readFirst] at stopped
    obtain ⟨vs, same, ⟨tree, derives⟩, rejects⟩ := rejects_parseLevel readFirst
    rw [same]
    refine (joined _ stopped).prepend vs ?_ rejects
    exact fun lexemes continues => continues _ ⟨tree, derives.single⟩
  -- The joined operands end with the text.
  · intro level ts soFar atEnd mistake stopped
    rw [parseJoined_nil atEnd] at stopped
    cases stopped
  -- An operator without an operand behind it.
  · intro level ts soFar t rest follows joins mistake' failed operand mistake stopped
    rw [parseJoined_failed follows joins failed] at stopped
    cases stopped
    rw [follows]
    refine (operand _ failed).prepend [t] ?_ ?_
    · rintro lexemes ⟨tree, derives⟩ before ⟨left, phrase⟩
      exact ⟨_, phrase.join ((level.joins_iff _).mp joins) derives⟩
    · rintro us _ ⟨mistake, failed⟩ ts' soFar' follows'
      exact ⟨mistake, parseJoined_failed follows' joins failed⟩
  -- An operator with its operand.
  · intro level ts soFar t rest follows joins next readNext _ joined mistake stopped
    rw [parseJoined_step follows joins readNext] at stopped
    rw [parseOperand_eq] at readNext
    obtain ⟨vs, same, derives, again⟩ := exists_parsePhrase_append readNext
    rw [follows, same, ← List.cons_append]
    refine (joined _ stopped).prepend (t :: vs) ?_ ?_
    · rintro lexemes continues before ⟨left, phrase⟩
      have longer := phrase.join ((level.joins_iff _).mp joins) derives
      have whole := continues _ ⟨_, longer⟩
      simpa using whole
    · intro us head rejects ts' soFar' follows'
      obtain ⟨y, readAgain, _, remaining⟩ := again us head
      rw [parseJoined_step follows' joins ((parseOperand_eq level _).trans readAgain)]
      exact rejects _ remaining
  -- The joined operands end before a token that does not join.
  · intro level ts soFar t rest follows stop mistake stopped
    rw [parseJoined_stop follows stop] at stopped
    cases stopped
  -- An operand of a level above the tightest.
  · intro level ts tighter below joined mistake stopped
    rw [parseOperand_eq, Level.operand_of_some below] at stopped
    rw [Level.operand_of_some below]
    refine (joined _ stopped).prepend [] (fun _ derivable => derivable) ?_
    rintro us _ ⟨mistake, failed⟩
    exact ⟨mistake, by rw [parseOperand_eq, Level.operand_of_some below]; exact failed⟩
  -- An operand of the tightest level.
  · intro level ts below unary mistake stopped
    rw [parseOperand_eq, Level.operand_of_none below] at stopped
    rw [Level.operand_of_none below]
    refine (unary _ stopped).prepend [] (fun _ derivable => derivable) ?_
    rintro us _ ⟨mistake, failed⟩
    exact ⟨mistake, by rw [parseOperand_eq, Level.operand_of_none below]; exact failed⟩
  -- A negation of what cannot be read.
  · intro position rest mistake' failed operand mistake stopped
    rw [parseUnary, failed] at stopped
    cases stopped
    refine (operand _ failed).prepend [_] ?_ ?_
    · rintro lexemes ⟨tree, derives⟩
      exact ⟨_, derives.negation⟩
    · rintro us _ ⟨mistake, failed⟩
      exact ⟨mistake, by rw [List.singleton_append, parseUnary, failed]⟩
  -- A negation.
  · intro position rest operand readOperand _ mistake stopped
    rw [parseUnary, readOperand] at stopped
    cases stopped
  -- Parentheses around nothing.
  · intro opened closed tail mistake stopped
    rw [parseUnary] at stopped
    cases stopped
    obtain ⟨lexemes, tree, derives⟩ := exists_derivable (.joined .or)
    refine ⟨[_], _ :: tail, rfl, ⟨lexemes ++ [.rightParen], _, derives.parentheses⟩, ?_, rfl⟩
    rintro _ _ ⟨⟩ other
    exact ⟨_, by rw [List.singleton_append, parseUnary]⟩
  -- Parentheses around what cannot be read.
  · intro opened inner notClosed mistake' failed joined mistake stopped
    rw [parseUnary_open_failed opened notClosed failed] at stopped
    cases stopped
    refine (joined _ failed).enclose [_] ?_ ?_
    · rintro lexemes ⟨tree, derives⟩
      exact ⟨[.rightParen], _, derives.parentheses⟩
    · rintro us head ⟨mistake, failed⟩
      exact ⟨mistake, parseUnary_open_failed opened (NotClosed.of_head? notClosed head) failed⟩
  -- Parentheses.
  · intro opened inner notClosed enclosed closed rest shorter readInner _ mistake stopped
    obtain ⟨_, outcome⟩ := parseUnary_open_closed opened notClosed readInner rfl
    rw [outcome] at stopped
    cases stopped
  -- A parenthesis that is not closed.
  · intro opened inner notClosed enclosed unclosed readInner _ mistake stopped
    have notClosing : NotClosed enclosed.rest := by
      intro closed tail same
      obtain ⟨tree, rest, shorter⟩ := enclosed
      subst same
      exact unclosed _ _ _ _ rfl
    rw [parseUnary_open_unclosed opened notClosed readInner notClosing] at stopped
    cases stopped
    have readPhrase : parsePhrase finish (.joined .or) inner = .ok enclosed := readInner
    obtain ⟨vs, same, derives, again⟩ := exists_parsePhrase_append readPhrase
    refine ⟨⟨.leftParen, opened⟩ :: vs, enclosed.rest, congrArg _ same,
      ⟨[.rightParen], _, derives.parentheses⟩, fun t tail rest other => ?_, opened, rfl,
      fun outer => ⟨outer, derives.balanced vs rfl _⟩⟩
    have head : (t :: other).head? = enclosed.rest.head? := by rw [rest]; rfl
    obtain ⟨y, readAgain, _, remaining⟩ := again (t :: other) head
    have begins : (vs ++ t :: other).head? = inner.head? := by
      rw [same, rest]
      cases vs <;> rfl
    exact ⟨_, parseUnary_open_unclosed opened (NotClosed.of_head? notClosed begins) readAgain
      (notClosing.of_head? (by rw [remaining]; exact head))⟩
  -- A test.
  · intro other notNegated notOpened mistake stopped
    rw [parseUnary_test notNegated notOpened, map_eq_error_iff] at stopped
    refine (stopsIn_test stopped).prepend [] ?_ ?_
    · rintro lexemes ⟨test, phrase⟩
      exact ⟨_, .test phrase⟩
    · rintro us head ⟨mistake, failed⟩
      refine ⟨mistake, ?_⟩
      rw [List.nil_append, parseUnary_test, map_eq_error_iff]
      · exact failed
      · rintro position rest rfl
        obtain ⟨tail, same⟩ := List.head?_eq_some_iff.mp head.symm
        exact notNegated position tail same
      · rintro position rest rfl
        obtain ⟨tail, same⟩ := List.head?_eq_some_iff.mp head.symm
        exact notOpened position tail same

/-- **A parsing function that fails stops in its tokens.** -/
theorem stopsIn_of_parsePhrase {phrase : Phrase}
    (failed : parsePhrase finish phrase ts = .error mistake) :
    StopsIn finish (Rejects (parsePhrase finish phrase)) (Derivable phrase) mistake ts := by
  cases phrase with
  | joined level => exact stopsIn_all.1 level ts mistake failed
  | unary => exact stopsIn_all.2.2.2 ts mistake failed

end Phrases

/-! ### Whole conditions -/

/-- The lexemes of all tokens, and the end. -/
def Lexed.symbols (lexed : Lexed) : List (Option Lexeme) :=
  (lexemesOf lexed.tokens).map some ++ [none]

/-- Some condition begins with these lexemes, or is all of them if the end is among them. -/
def BeginsCondition (symbols : List (Option Lexeme)) : Prop :=
  ∃ lexemes, Derivable (.joined .or) lexemes ∧ symbols <+: lexemes.map some ++ [none]

/-- Entry `i` is the first one with which no condition begins. -/
structure Lexed.FirstWrong (lexed : Lexed) (i : Nat) : Prop where
  inside : i < lexed.symbols.length
  before : ∀ j < i, BeginsCondition (lexed.symbols.take (j + 1))
  wrong : ¬ BeginsCondition (lexed.symbols.take (i + 1))

/-- The mistake is reported where entry `i` stands. A parenthesis that is not closed is reported
where it was opened, and that there are no tokens without a place. -/
def Lexed.Blames (lexed : Lexed) (i : Nat) (mistake : Mistake) : Prop :=
  match mistake.reason with
  | .emptyExpression => lexed.tokens = [] ∧ mistake.position = none
  | .missingClose => ∃ innermost outer,
      openBehind [] (lexed.tokens.take i) = innermost :: outer ∧ mistake.position = some innermost
  | _ => lexed.tokens ≠ [] ∧ ∃ entry, lexed.entries[i]? = some entry ∧
      mistake.position = some entry.2.2

section Whole

variable {finish : Nat} {lexed : Lexed} {mistake : Mistake} {xs ys : List Lexeme}
variable {ts : List Token}

theorem prefix_of_map_some (within : xs.map some <+: ys.map some ++ [none]) : xs <+: ys := by
  rcases List.prefix_concat_iff.mp within with same | shorter
  · have last : none ∈ xs.map some := same ▸ List.mem_append_right _ (List.mem_singleton_self _)
    simp at last
  · obtain ⟨zs, isPrefix, same⟩ := List.prefix_map_iff.mp shorter
    rwa [(List.map_inj_right fun _ _ => Option.some.inj).mp same]

theorem eq_of_map_some (within : xs.map some ++ [none] <+: ys.map some ++ [none]) : xs = ys := by
  rcases List.prefix_concat_iff.mp within with same | shorter
  · exact (List.map_inj_right fun _ _ => Option.some.inj).mp (List.append_cancel_right same)
  · have last := shorter.subset (List.mem_append_right _ (List.mem_singleton_self none))
    simp at last

/-- All of a phrase is read off. -/
theorem Derivable.exists_parsePhrase {phrase : Phrase}
    (derivable : Derivable phrase (lexemesOf ts)) :
    ∃ x, parsePhrase finish phrase ts = .ok x ∧ x.rest = [] := by
  obtain ⟨tree, derives⟩ := derivable
  have whole := parsePhrase_append finish derives ts [] rfl (stops_nil _)
  rw [List.append_nil] at whole
  obtain ⟨x, read, _, nothing⟩ := whole
  exact ⟨x, read, nothing⟩

/-- Tokens that a phrase leaves over are the beginning of no longer one. -/
theorem stopsIn_of_leftover {phrase : Phrase} {x : Front Tree ts}
    (read : parsePhrase finish phrase ts = .ok x) (reported : ReportedAt finish [] x.rest mistake) :
    StopsIn finish (fun us => ¬ Derivable phrase (lexemesOf us)) (Derivable phrase) mistake ts := by
  obtain ⟨vs, same, derives, again⟩ := exists_parsePhrase_append read
  refine ⟨vs, x.rest, same, ⟨[], _, by rw [List.append_nil]; exact derives⟩, ?_, ?_⟩
  · intro t tail left other derivable
    obtain ⟨y, readAgain, _, remaining⟩ := again (t :: other) (by rw [left]; rfl)
    obtain ⟨z, readAll, nothing⟩ := derivable.exists_parsePhrase
    cases readAgain.symm.trans readAll
    cases remaining.symm.trans nothing
  · have there := reported.prepend vs
    rwa [List.append_nil] at there

/-- The tokens of a mistake stop being a condition where it is reported. -/
theorem stopsIn_of_parse (failed : lexed.parse = .error mistake) (nonempty : lexed.tokens ≠ []) :
    StopsIn lexed.finish (fun us => ¬ Derivable (.joined .or) (lexemesOf us))
      (Derivable (.joined .or)) mistake lexed.tokens := by
  unfold Lexed.parse at failed
  split at failed
  · rename_i empty
    exact absurd empty nonempty
  · split at failed
    · rename_i stopped
      cases failed
      have stops : StopsIn lexed.finish (Rejects (parsePhrase lexed.finish (.joined .or))) _ _ _ :=
        stopsIn_of_parsePhrase stopped
      refine stops.prepend [] (fun _ derivable => derivable) ?_
      rintro us _ ⟨mistake, rejects⟩ derivable
      obtain ⟨x, read, _⟩ := derivable.exists_parsePhrase
      cases rejects.symm.trans read
    · rename_i whole read
      have readPhrase : parsePhrase lexed.finish (.joined .or) lexed.tokens = .ok whole := read
      split at failed
      · cases failed
      · rename_i left
        cases failed
        exact stopsIn_of_leftover readPhrase (by rw [left]; rfl)
      · rename_i left
        cases failed
        exact stopsIn_of_leftover readPhrase (by rw [left]; rfl)

/-- Where tokens stop being a condition, the first entry is wrong with which none begins. -/
theorem firstWrong_of_stops {front rest : List Token} (parts : lexed.tokens = front ++ rest)
    (begins : ∃ more, Derivable (.joined .or) (lexemesOf front ++ more))
    (fails : ∀ t tail, rest = t :: tail → ∀ other,
      ¬ Derivable (.joined .or) (lexemesOf (front ++ t :: other)))
    (failed : lexed.parse = .error mistake) : lexed.FirstWrong front.length := by
  have symbols : lexed.symbols =
      (lexemesOf front).map some ++ ((lexemesOf rest).map some ++ [none]) := by
    rw [Lexed.symbols, parts, lexemesOf_append, List.map_append, List.append_assoc]
  have length : ((lexemesOf front).map some).length = front.length := by
    rw [List.length_map, lexemesOf, List.length_map]
  refine ⟨?_, fun j before => ?_, ?_⟩
  · rw [symbols, List.length_append, length, List.length_append, List.length_singleton]
    omega
  · obtain ⟨more, derivable⟩ := begins
    refine ⟨_, derivable, ?_⟩
    rw [symbols, List.take_append_of_le_length (by omega), List.map_append, List.append_assoc]
    exact (List.take_prefix _ _).trans (List.prefix_append _ _)
  · rintro ⟨lexemes, derivable, within⟩
    rw [symbols, ← length, List.take_length_add_append] at within
    cases rest with
    | nil =>
      have whole : lexemesOf lexed.tokens = lexemes := by
        rw [parts, List.append_nil]
        exact eq_of_map_some within
      obtain ⟨tree, derives⟩ := derivable
      rw [← whole] at derives
      cases failed.symm.trans (parse_eq_ok_iff_derives.mpr derives)
    | cons t tail =>
      have shorter : lexemesOf front ++ [t.lexeme] <+: lexemes := by
        refine prefix_of_map_some ?_
        rw [List.map_append]
        exact within
      obtain ⟨others, rfl⟩ := shorter
      have written : lexemesOf (others.map fun lexeme => ⟨lexeme, 0⟩) = others := by
        rw [lexemesOf, List.map_map]
        exact List.map_id others
      refine fails t tail rfl (others.map fun lexeme => ⟨lexeme, 0⟩) ?_
      rwa [lexemesOf_append, lexemesOf_cons, written, List.append_cons]

/-- The first token of a part of the tokens, or the end, is the entry behind those before it. -/
theorem exists_entry_of_parts {front rest : List Token} (parts : lexed.tokens = front ++ rest) :
    ∃ entry, lexed.entries[front.length]? = some entry ∧
      entry.2.2 = startOf lexed.finish rest := by
  rw [Lexed.entries, parts, List.map_append, List.append_assoc,
    List.getElem?_append_right (by simp), List.length_map, Nat.sub_self]
  cases rest with
  | nil => exact ⟨_, rfl, rfl⟩
  | cons t tail => exact ⟨_, rfl, rfl⟩

theorem Lexed.FirstWrong.unique {i j : Nat} (first : lexed.FirstWrong i)
    (first' : lexed.FirstWrong j) : i = j := by
  rcases Nat.lt_trichotomy i j with less | same | greater
  · exact absurd (first'.before i less) first.wrong
  · exact same
  · exact absurd (first.before j greater) first'.wrong

theorem exists_blamed_of_parse (failed : lexed.parse = .error mistake) :
    ∃ i, lexed.FirstWrong i ∧ lexed.Blames i mistake := by
  by_cases nonempty : lexed.tokens = []
  · have nothing : lexed.parse = .error ⟨.emptyExpression, none⟩ := by
      rw [Lexed.parse, nonempty]
    cases failed.symm.trans nothing
    obtain ⟨lexemes, derivable⟩ := exists_derivable (.joined .or)
    have parts : lexed.tokens = [] ++ [] := nonempty
    exact ⟨0, firstWrong_of_stops parts ⟨lexemes, derivable⟩ nofun failed, nonempty, rfl⟩
  · obtain ⟨front, rest, parts, begins, fails, reported⟩ := stopsIn_of_parse failed nonempty
    refine ⟨front.length, firstWrong_of_stops parts begins fails failed, ?_⟩
    obtain ⟨entry, there, place⟩ := exists_entry_of_parts parts
    obtain ⟨reason, position⟩ := mistake
    cases reason with
    | emptyExpression => exact reported.elim
    | missingClose =>
      obtain ⟨innermost, same, opens⟩ := reported
      obtain ⟨outer, behind⟩ := opens []
      exact ⟨innermost, outer, by rw [parts, List.take_left]; exact behind, same⟩
    | _ => exact ⟨nonempty, entry, there, place ▸ reported⟩

/-- **A mistake is reported at the first token with which no condition begins.** -/
theorem firstWrong_of_parse (failed : lexed.parse = .error mistake) :
    (∃! i, lexed.FirstWrong i) ∧ ∀ i, lexed.FirstWrong i → lexed.Blames i mistake := by
  obtain ⟨i, first, blames⟩ := exists_blamed_of_parse failed
  refine ⟨⟨i, first, fun j first' => first'.unique first⟩, fun j first' => ?_⟩
  rwa [first'.unique first]

/-- The tokens of `(value is_empty && (value is_empty`. -/
def unclosedTokens : Lexed where
  tokens := [⟨.leftParen, 0⟩, ⟨.word "value".toList, 1⟩, ⟨.word "is_empty".toList, 7⟩,
    ⟨.connective .and, 16⟩, ⟨.leftParen, 19⟩, ⟨.word "value".toList, 20⟩,
    ⟨.word "is_empty".toList, 26⟩]
  finish := 34

/-- The inner parenthesis is not closed. -/
theorem firstWrong_of_parse_sample :
    unclosedTokens.parse = .error ⟨.missingClose, some 19⟩ ∧
      (∃! i, unclosedTokens.FirstWrong i) ∧ ∀ i, unclosedTokens.FirstWrong i →
        unclosedTokens.Blames i ⟨.missingClose, some 19⟩ := by
  have failed : unclosedTokens.parse = .error ⟨.missingClose, some 19⟩ := by cbv
  exact ⟨failed, firstWrong_of_parse failed⟩

end Whole

end SheetExport.Condition
