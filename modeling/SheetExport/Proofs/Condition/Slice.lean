/-
**The characters that a lexeme is read from.**

`Slice slice lexeme` is the written form of each kind of lexeme, without a word about reading: a
symbol, a numeral, a text between quotes, or a word, which begins with a word character that is no
digit of any kind. Reading takes the longest slice off the front of a text, and fails only where
the text begins with none.

* `Manner.GoesOn slice c manner` — a slice written in this manner goes on with the character;
* `longest_iff`: a slice is the longest one just where it does not go on with the next character;
* `exists_slice_of_nextLexeme`: what is read is the longest slice;
* `not_slice_of_nextLexeme`: where nothing is read, no slice begins.
-/

import SheetExport.Proofs.Condition.Spelling
import SheetExport.Proofs.Number.Scanning

namespace SheetExport

open Text (isDecimalDigit)

/-! ### Numerals -/

/-- A numeral as it is written: a magnitude, perhaps with a sign in front. -/
inductive Numeral : List Char → Prop
  | unsigned {magnitude : List Char} (isMagnitude : Magnitude magnitude) : Numeral magnitude
  | signed {c : Char} {magnitude : List Char} (sign : isSign c = true)
      (isMagnitude : Magnitude magnitude) : Numeral (c :: magnitude)

section Numerals

variable {cs rest digits numeral more : List Char} {c : Char}

theorem AllDigits.point_notMem (all : AllDigits digits) : '.' ∉ digits :=
  fun member => absurd (all '.' member) (by decide)

/-- A point stands in a magnitude once at most. -/
theorem Magnitude.count_point_le (magnitude : Magnitude numeral) : numeral.count '.' ≤ 1 := by
  cases magnitude with
  | whole _ all => rw [List.count_eq_zero.mpr all.point_notMem]; exact Nat.zero_le _
  | point _ allBefore allBehind =>
    rw [List.count_append, List.count_cons_self, List.count_eq_zero.mpr allBefore.point_notMem,
      List.count_eq_zero.mpr allBehind.point_notMem]

/-- What a magnitude goes on with: digits, and a point if there is none yet. -/
theorem Magnitude.of_append (magnitude : Magnitude (numeral ++ c :: more)) :
    isDecimalDigit c = true ∨ c = '.' ∧ '.' ∉ numeral := by
  rcases magnitude.mem (List.mem_append_right _ List.mem_cons_self) with digit | rfl
  · exact Or.inl digit
  · have once := magnitude.count_point_le
    rw [List.count_append, List.count_cons_self] at once
    exact Or.inr ⟨rfl, List.count_eq_zero.mp (by omega)⟩

/-- A magnitude does go on with these. -/
theorem Magnitude.concat (magnitude : Magnitude numeral)
    (goesOn : isDecimalDigit c = true ∨ c = '.' ∧ '.' ∉ numeral) : Magnitude (numeral ++ [c]) := by
  have longer : ∀ {digits : List Char}, AllDigits digits → isDecimalDigit c = true →
      AllDigits (digits ++ [c]) := by
    intro digits all digit d member
    rcases List.mem_append.mp member with inside | last
    · exact all d inside
    · rw [List.mem_singleton.mp last]
      exact digit
  cases magnitude with
  | whole nonempty all =>
    rcases goesOn with digit | ⟨rfl, _⟩
    · exact .whole (by simp) (longer all digit)
    · exact .point (by simpa using nonempty) all nofun
  | @point before behind nonempty allBefore allBehind =>
    rcases goesOn with digit | ⟨_, absent⟩
    · rw [List.append_assoc, List.cons_append]
      exact .point (by simp) allBefore (longer allBehind digit)
    · exact absurd (List.mem_append_right _ List.mem_cons_self) absent

theorem Numeral.of_append (isNumeral : Numeral (numeral ++ c :: more)) (nonempty : numeral ≠ []) :
    isDecimalDigit c = true ∨ c = '.' ∧ '.' ∉ numeral := by
  generalize same : numeral ++ c :: more = whole at isNumeral
  cases isNumeral with
  | unsigned magnitude =>
    subst same
    exact magnitude.of_append
  | @signed d _ sign magnitude =>
    obtain ⟨first, others, rfl⟩ := List.exists_cons_of_ne_nil nonempty
    rw [List.cons_append, List.cons.injEq] at same
    obtain ⟨rfl, rfl⟩ := same
    rcases magnitude.of_append with digit | ⟨rfl, absent⟩
    · exact Or.inl digit
    · refine Or.inr ⟨rfl, fun member => ?_⟩
      rcases List.mem_cons.mp member with rfl | inside
      · cases sign
      · exact absent inside

theorem Numeral.concat (isNumeral : Numeral numeral)
    (goesOn : isDecimalDigit c = true ∨ c = '.' ∧ '.' ∉ numeral) : Numeral (numeral ++ [c]) := by
  cases isNumeral with
  | unsigned magnitude => exact .unsigned (magnitude.concat goesOn)
  | signed sign magnitude =>
    refine .signed sign (magnitude.concat (goesOn.imp_right fun ⟨point, absent⟩ => ⟨point, ?_⟩))
    exact fun member => absent (List.mem_cons_of_mem _ member)

/-- Digits are followed by no digit. -/
theorem not_isDecimalDigit_of_head (cs : List Char) :
    ∀ c ∈ (cs.dropWhile isDecimalDigit).head?, isDecimalDigit c = false := by
  intro c head
  have ends := List.head?_dropWhile_not isDecimalDigit cs
  rw [Option.mem_def.mp head] at ends
  exact ends

/-- A magnitude is scanned up to where it does not go on. -/
theorem append_of_scanMagnitude (found : scanMagnitude cs = some (numeral, rest)) :
    cs = numeral ++ rest ∧
      ∀ c ∈ rest.head?, isDecimalDigit c = false ∧ (c = '.' → '.' ∈ numeral) := by
  have parts : ∀ cs : List Char,
      cs = cs.takeWhile isDecimalDigit ++ cs.dropWhile isDecimalDigit :=
    fun cs => List.takeWhile_append_dropWhile.symm
  have whole := parts cs
  unfold scanMagnitude at found
  dsimp only at found
  split at found
  · rename_i rest' nothing behind
    split at found
    · cases found
    · cases found
      refine ⟨?_, fun c head => ⟨not_isDecimalDigit_of_head rest' c head, fun _ => by simp⟩⟩
      rw [nothing, behind] at whole
      rw [whole, List.nil_append, List.cons_append, ← parts rest']
  · cases found
  · rename_i rest' behind _
    cases found
    refine ⟨?_, fun c head => ⟨not_isDecimalDigit_of_head rest' c head, fun _ => by simp⟩⟩
    rw [behind] at whole
    rw [List.append_assoc, List.cons_append, ← parts rest']
    exact whole
  · rename_i noPoint _
    cases found
    refine ⟨whole, fun c head => ⟨not_isDecimalDigit_of_head cs c head, ?_⟩⟩
    rintro rfl
    obtain ⟨tail, behind⟩ := List.head?_eq_some_iff.mp (Option.mem_def.mp head)
    exact absurd behind (noPoint tail)

/-- A numeral is scanned up to where it does not go on. -/
theorem append_of_scanNumber (found : scanNumber cs = some (numeral, rest)) :
    cs = numeral ++ rest ∧
      ∀ c ∈ rest.head?, isDecimalDigit c = false ∧ (c = '.' → '.' ∈ numeral) := by
  unfold scanNumber at found
  split at found
  · cases found
  · split at found
    · obtain ⟨⟨magnitude, _⟩, scanned, same⟩ := Option.map_eq_some_iff.mp found
      cases same
      obtain ⟨same, ends⟩ := append_of_scanMagnitude scanned
      exact ⟨congrArg _ same, fun c head =>
        ⟨(ends c head).1, fun point => List.mem_cons_of_mem _ ((ends c head).2 point)⟩⟩
    · exact append_of_scanMagnitude found

theorem numeral_of_scanNumber (found : scanNumber cs = some (numeral, rest)) : Numeral numeral := by
  rcases magnitude_of_scanNumber found with magnitude | ⟨c, digits, rfl, sign, magnitude⟩
  · exact .unsigned magnitude
  · exact .signed sign magnitude

theorem Magnitude.isSome_scanMagnitude (magnitude : Magnitude numeral) (rest : List Char) :
    (scanMagnitude (numeral ++ rest)).isSome = true := by
  have begins : ∀ {c : Char} {digits : List Char}, isDecimalDigit c = true →
      (scanMagnitude (c :: digits)).isSome = true := by
    intro c digits digit
    rw [scanMagnitude, List.takeWhile_cons_of_pos digit, List.dropWhile_cons_of_pos digit]
    split
    · rename_i empty _
      cases empty
    · rename_i empty _
      cases empty
    · rfl
    · rfl
  cases magnitude with
  | whole nonempty all =>
    obtain ⟨c, digits, rfl⟩ := List.exists_cons_of_ne_nil nonempty
    exact begins (all c List.mem_cons_self)
  | @point before behind nonempty allBefore allBehind =>
    cases before with
    | cons c digits => exact begins (allBefore c List.mem_cons_self)
    | nil =>
      obtain ⟨c, digits, rfl⟩ := List.exists_cons_of_ne_nil nonempty
      have point : ¬ isDecimalDigit '.' = true := by decide
      have digit : isDecimalDigit c = true := allBehind c List.mem_cons_self
      rw [List.nil_append, List.cons_append, List.cons_append, scanMagnitude,
        List.takeWhile_cons_of_neg point, List.dropWhile_cons_of_neg point]
      simp only [List.takeWhile_cons_of_pos digit, Option.isSome_some]

/-- Where a numeral begins, one is scanned. -/
theorem Numeral.isSome_scanNumber (isNumeral : Numeral numeral) (rest : List Char) :
    (scanNumber (numeral ++ rest)).isSome = true := by
  cases isNumeral with
  | unsigned magnitude =>
    have scanned := magnitude.isSome_scanMagnitude rest
    cases numeral with
    | nil =>
      have whole := magnitude.scanned
      cases whole
    | cons c digits =>
      rw [List.cons_append, scanNumber, if_neg (by simp [magnitude.notSign List.mem_cons_self])]
      exact scanned
  | signed sign magnitude =>
    rw [List.cons_append, scanNumber, if_pos sign, Option.isSome_map]
    exact magnitude.isSome_scanMagnitude rest

end Numerals

namespace Condition

/-- What is decided of each item of a list holds of its members. To decide a statement on all
characters means to try every character there is; this one tries those of the list. -/
theorem forall_mem_of_all {α : Type} {p : α → Prop} [DecidablePred p] {items : List α}
    (all : items.all (fun x => decide (p x)) = true) : ∀ x ∈ items, p x :=
  fun x member => of_decide_eq_true (List.all_eq_true.mp all x member)

/-! ### Slices -/

/-- The ways in which lexemes are written. -/
inductive Manner
  | symbol | numeral | quotation | word
deriving DecidableEq

/-- How a lexeme is written. -/
def Lexeme.manner : Lexeme → Manner
  | number _ => .numeral
  | quoted _ => .quotation
  | word _ => .word
  | _ => .symbol

/-- A word begins with a word character that is no digit and does not look like one. -/
def startsWord (c : Char) : Bool := Text.isWordChar c && !Text.isDigitLike c

/-- A word as it is written: word characters, of which the first one can begin a word. -/
def IsWord : List Char → Prop
  | [] => False
  | c :: cs => startsWord c = true ∧ ∀ d ∈ cs, Text.isWordChar d = true

/-- The characters that a lexeme is read from: a numeral itself, a text between quotes, a word that
has the lexeme's spelling in lower case, or the text of a symbol. -/
def Slice (slice : List Char) : Lexeme → Prop
  | .number numeral => slice = numeral ∧ Numeral numeral
  | .quoted text => slice = '\'' :: text ++ ['\''] ∧ '\'' ∉ text
  | .word lower => IsWord slice ∧ Text.lowerWord slice = lower
  | lexeme => slice = lexeme.text.toList

/-- No lexeme is read from these characters and some of those behind them. -/
def Longest (slice rest : List Char) : Prop :=
  ∀ more, more ≠ [] → more <+: rest → ∀ lexeme, ¬ Slice (slice ++ more) lexeme

/-- A slice begins with the character. -/
def Manner.starts (c : Char) : Manner → Prop
  | symbol => c ∈ symbolStarts
  | numeral => startsNumber c = true
  | quotation => c = '\''
  | word => startsWord c = true

/-- The slice goes on with the character. -/
def Manner.GoesOn (slice : List Char) (c : Char) : Manner → Prop
  | symbol => c = '=' ∧ slice ∈ [['<'], ['>'], ['!']]
  | numeral => isDecimalDigit c = true ∨ c = '.' ∧ '.' ∉ slice
  | quotation => False
  | word => Text.isWordChar c = true

section Symbols

variable {cs rest slice : List Char} {lexeme : Lexeme}

/-- The symbols as they are written. -/
def symbolSlices : List (List Char × Lexeme) := [
  (['|', '|'], .connective .or), (['&', '&'], .connective .and), (['^'], .connective .xor),
  (['!'], .connective .not), (['<', '='], .comparator .le), (['>', '='], .comparator .ge),
  (['=', '='], .comparator .eq), (['!', '='], .comparator .ne), (['<'], .comparator .lt),
  (['>'], .comparator .gt), (['('], .leftParen), ([')'], .rightParen)]

theorem mem_symbolSlices_iff :
    (slice, lexeme) ∈ symbolSlices ↔ lexeme.manner = .symbol ∧ Slice slice lexeme := by
  constructor
  · have all : ∀ symbol ∈ symbolSlices,
        symbol.2.manner = .symbol ∧ symbol.1 = symbol.2.text.toList := by decide
    intro member
    obtain ⟨isSymbol, same⟩ := all _ member
    refine ⟨isSymbol, ?_⟩
    cases lexeme <;> first | exact same | cases isSymbol
  · rintro ⟨isSymbol, same⟩
    cases lexeme with
    | connective connective => subst same; cases connective <;> decide
    | comparator comparator => subst same; cases comparator <;> decide
    | leftParen => subst same; decide
    | rightParen => subst same; decide
    | _ => cases isSymbol

/-- Symbols begin with their characters, no two are written alike, and what one goes on with is an
equality sign. -/
theorem symbolSlices_facts : ∀ symbol ∈ symbolSlices,
    symbol.1.head?.any (· ∈ symbolStarts) = true ∧
      ∀ other ∈ symbolSlices, symbol.1 <+: other.1 → symbol = other ∨
        other.1 = symbol.1 ++ ['='] ∧ symbol.1 ∈ [['<'], ['>'], ['!']] := by
  decide

theorem mem_of_symbol? (found : symbol? cs = some (lexeme, rest)) :
    ∃ slice, cs = slice ++ rest ∧ (slice, lexeme) ∈ symbolSlices ∧
      ∀ c ∈ rest.head?, ¬ Manner.symbol.GoesOn slice c := by
  have ends : ∀ {rest : List Char}, (∀ rest', rest ≠ '=' :: rest') →
      ∀ slice, ∀ c ∈ rest.head?, ¬ Manner.symbol.GoesOn slice c := by
    rintro rest absent slice c head ⟨rfl, _⟩
    obtain ⟨rest', same⟩ := List.head?_eq_some_iff.mp (Option.mem_def.mp head)
    exact absent rest' same
  unfold symbol? at found
  split at found <;> cases found
  · exact ⟨['|', '|'], rfl, by decide, fun c _ goesOn => absurd goesOn.2 (by decide)⟩
  · exact ⟨['&', '&'], rfl, by decide, fun c _ goesOn => absurd goesOn.2 (by decide)⟩
  · exact ⟨['<', '='], rfl, by decide, fun c _ goesOn => absurd goesOn.2 (by decide)⟩
  · exact ⟨['>', '='], rfl, by decide, fun c _ goesOn => absurd goesOn.2 (by decide)⟩
  · exact ⟨['=', '='], rfl, by decide, fun c _ goesOn => absurd goesOn.2 (by decide)⟩
  · exact ⟨['!', '='], rfl, by decide, fun c _ goesOn => absurd goesOn.2 (by decide)⟩
  · rename_i absent
    exact ⟨['<'], rfl, by decide, ends absent _⟩
  · rename_i absent
    exact ⟨['>'], rfl, by decide, ends absent _⟩
  · rename_i absent
    exact ⟨['!'], rfl, by decide, ends absent _⟩
  · exact ⟨['^'], rfl, by decide, fun c _ goesOn => absurd goesOn.2 (by decide)⟩
  · exact ⟨['('], rfl, by decide, fun c _ goesOn => absurd goesOn.2 (by decide)⟩
  · exact ⟨[')'], rfl, by decide, fun c _ goesOn => absurd goesOn.2 (by decide)⟩

theorem isSome_symbol? (member : (slice, lexeme) ∈ symbolSlices) (rest : List Char) :
    (symbol? (slice ++ rest)).isSome = true := by
  simp only [symbolSlices, List.mem_cons, Prod.mk.injEq, List.not_mem_nil, or_false] at member
  rcases member with h | h | h | h | h | h | h | h | h | h | h | h <;> obtain ⟨rfl, -⟩ := h <;>
    simp only [List.cons_append, List.nil_append] <;> unfold symbol? <;> split <;> simp_all

end Symbols

section Slices

variable {c : Char} {cs slice rest more : List Char} {lexeme other : Lexeme}

/-! #### The first character tells how a lexeme is written -/

theorem not_startsNumber_of_startsWord (starts : startsWord c = true) :
    startsNumber c = false ∧ c ≠ '\'' ∧ c ∉ symbolStarts := by
  obtain ⟨wordChar, notDigit⟩ := Bool.and_eq_true_iff.mp starts
  have others : ∀ d ∈ '+' :: '-' :: '.' :: '\'' :: symbolStarts, Text.isWordChar d = false :=
    forall_mem_of_all (by decide)
  have apart : c ∉ '+' :: '-' :: '.' :: '\'' :: symbolStarts := fun member =>
    absurd wordChar (by simp [others c member])
  simp only [List.mem_cons, not_or] at apart
  obtain ⟨notPlus, notMinus, notPoint, notQuote, notSymbol⟩ := apart
  refine ⟨?_, notQuote, by simpa [symbolStarts] using notSymbol⟩
  simp only [startsNumber, isSign, Bool.not_eq_true'] at notDigit ⊢
  simp [notDigit, notPlus, notMinus, notPoint]

theorem not_symbol_of_startsNumber (starts : startsNumber c = true) :
    c ≠ '\'' ∧ c ∉ symbolStarts := by
  have others : ∀ d ∈ '\'' :: symbolStarts, startsNumber d = false :=
    forall_mem_of_all (by decide)
  have apart : c ∉ '\'' :: symbolStarts := fun member =>
    absurd starts (by simp [others c member])
  simpa only [List.mem_cons, not_or] using apart

theorem Manner.starts_unique {manner manner' : Manner} (starts : manner.starts c)
    (starts' : manner'.starts c) : manner = manner' := by
  have quote : '\'' ∉ symbolStarts := by decide
  have numberApart : startsNumber c = true → c ≠ '\'' ∧ c ∉ symbolStarts :=
    not_symbol_of_startsNumber
  have wordApart : startsWord c = true → startsNumber c = false ∧ c ≠ '\'' ∧ c ∉ symbolStarts :=
    not_startsNumber_of_startsWord
  cases manner <;> cases manner' <;> simp only [Manner.starts] at starts starts' <;> grind

theorem startsNumber_of_numeral (isNumeral : Numeral (c :: cs)) : startsNumber c = true := by
  cases isNumeral with
  | unsigned magnitude =>
    rcases magnitude.mem List.mem_cons_self with digit | rfl
    · simp [startsNumber, Text.isDigitLike, digit]
    · rfl
  | signed sign _ => simp [startsNumber, sign]

theorem Slice.exists_head (spelt : Slice slice lexeme) :
    ∃ c cs, slice = c :: cs ∧ lexeme.manner.starts c := by
  have symbol : lexeme.manner = .symbol → ∃ c cs, slice = c :: cs ∧ c ∈ symbolStarts := by
    intro isSymbol
    have member := mem_symbolSlices_iff.mpr ⟨isSymbol, spelt⟩
    obtain ⟨c, head, starts⟩ := (Option.any_eq_true ..).mp (symbolSlices_facts _ member).1
    obtain ⟨cs, same⟩ := List.head?_eq_some_iff.mp head
    exact ⟨c, cs, same, of_decide_eq_true starts⟩
  cases lexeme with
  | number numeral =>
    obtain ⟨rfl, isNumeral⟩ := spelt
    cases slice with
    | nil =>
      cases isNumeral with
      | unsigned magnitude => cases magnitude.scanned
    | cons c cs => exact ⟨c, cs, rfl, startsNumber_of_numeral isNumeral⟩
  | quoted text =>
    obtain ⟨rfl, _⟩ := spelt
    exact ⟨_, _, rfl, rfl⟩
  | word lower =>
    cases slice with
    | nil => exact spelt.1.elim
    | cons c cs => exact ⟨c, cs, rfl, spelt.1.1⟩
  | _ => exact symbol rfl

/-- Slices that begin alike are written alike. -/
theorem Slice.manner_eq {slice' : List Char} (spelt : Slice slice lexeme)
    (spelt' : Slice slice' other) (within : slice <+: slice') : lexeme.manner = other.manner := by
  obtain ⟨c, cs, rfl, starts⟩ := spelt.exists_head
  obtain ⟨d, ds, rfl, starts'⟩ := spelt'.exists_head
  obtain ⟨rest, same⟩ := within
  rw [List.cons_append, List.cons.injEq] at same
  rw [← same.1] at starts'
  exact Manner.starts_unique starts starts'

/-- A slice is one of one lexeme only. -/
theorem Slice.unique (spelt : Slice slice lexeme) (spelt' : Slice slice other) :
    lexeme = other := by
  have alike := spelt.manner_eq spelt' List.prefix_rfl
  have symbol : lexeme.manner = .symbol → lexeme = other := by
    intro isSymbol
    have member := mem_symbolSlices_iff.mpr ⟨isSymbol, spelt⟩
    have member' := mem_symbolSlices_iff.mpr ⟨alike ▸ isSymbol, spelt'⟩
    rcases (symbolSlices_facts _ member).2 _ member' List.prefix_rfl with same | ⟨longer, _⟩
    · exact congrArg Prod.snd same
    · have := congrArg List.length longer
      simp at this
  cases lexeme with
  | number numeral =>
    cases other with
    | number => rw [← spelt.1, ← spelt'.1]
    | _ => cases alike
  | quoted text =>
    cases other with
    | quoted text' =>
      have same := spelt.1.symm.trans spelt'.1
      rw [List.cons_append, List.cons_append, List.cons.injEq, List.append_singleton_inj] at same
      rw [same.2.1]
    | _ => cases alike
  | word lower =>
    cases other with
    | word => rw [← spelt.2, ← spelt'.2]
    | _ => cases alike
  | _ => exact symbol rfl

/-! #### Where a slice goes on -/

/-- A slice that is longer goes on with its next character. -/
theorem Slice.goesOn (spelt : Slice slice lexeme) (longer : Slice (slice ++ c :: more) other) :
    lexeme.manner.GoesOn slice c := by
  have alike := spelt.manner_eq longer ⟨_, rfl⟩
  obtain ⟨d, ds, begins, _⟩ := spelt.exists_head
  have symbol : lexeme.manner = .symbol → Manner.symbol.GoesOn slice c := by
    intro isSymbol
    have member := mem_symbolSlices_iff.mpr ⟨isSymbol, spelt⟩
    have member' := mem_symbolSlices_iff.mpr ⟨alike ▸ isSymbol, longer⟩
    rcases (symbolSlices_facts _ member).2 _ member' ⟨_, rfl⟩ with same | ⟨next, isOne⟩
    · have := congrArg (fun symbol => symbol.1.length) same
      simp at this
    · have next := List.append_cancel_left next
      cases next
      exact ⟨rfl, isOne⟩
  cases lexeme with
  | number numeral =>
    cases other with
    | number =>
      obtain ⟨rfl, isNumeral⟩ := longer
      exact isNumeral.of_append (by rw [begins]; simp)
    | _ => cases alike
  | quoted text =>
    cases other with
    | quoted text' =>
      obtain ⟨rfl, _⟩ := spelt
      obtain ⟨same, noQuote⟩ := longer
      simp only [List.cons_append, List.append_assoc, List.cons.injEq, List.nil_append,
        true_and] at same
      have inside := congrArg List.dropLast same
      rw [List.dropLast_concat, List.dropLast_append_cons, List.dropLast_cons_cons] at inside
      exact absurd (inside ▸ List.mem_append_right _ List.mem_cons_self) noQuote
    | _ => cases alike
  | word lower =>
    cases other with
    | word lower' =>
      subst begins
      exact longer.1.2 c (List.mem_append_right _ List.mem_cons_self)
    | _ => cases alike
  | _ => exact symbol rfl

/-- A slice that goes on with a character is part of a longer one. -/
theorem Slice.exists_concat (spelt : Slice slice lexeme) (goesOn : lexeme.manner.GoesOn slice c) :
    ∃ longer, Slice (slice ++ [c]) longer := by
  have symbol : Manner.symbol.GoesOn slice c → ∃ longer, Slice (slice ++ [c]) longer := by
    rintro ⟨rfl, isOne⟩
    simp only [List.mem_cons, List.not_mem_nil, or_false] at isOne
    rcases isOne with rfl | rfl | rfl
    · exact ⟨.comparator .le, rfl⟩
    · exact ⟨.comparator .ge, rfl⟩
    · exact ⟨.comparator .ne, rfl⟩
  cases lexeme with
  | number numeral =>
    obtain ⟨rfl, isNumeral⟩ := spelt
    exact ⟨.number _, rfl, isNumeral.concat goesOn⟩
  | quoted text => exact goesOn.elim
  | word lower =>
    obtain ⟨d, ds, rfl, _⟩ := spelt.exists_head
    refine ⟨.word _, ⟨spelt.1.1, fun e member => ?_⟩, rfl⟩
    rcases List.mem_append.mp member with inside | last
    · exact spelt.1.2 e inside
    · rw [List.mem_singleton.mp last]
      exact goesOn
  | _ => exact symbol goesOn

/-- **A slice is the longest one** just where it does not go on with the next character. -/
theorem longest_iff (spelt : Slice slice lexeme) :
    Longest slice rest ↔ ∀ c ∈ rest.head?, ¬ lexeme.manner.GoesOn slice c := by
  constructor
  · intro longest c head goesOn
    obtain ⟨tail, rfl⟩ := List.head?_eq_some_iff.mp (Option.mem_def.mp head)
    obtain ⟨longer, spelt'⟩ := spelt.exists_concat goesOn
    exact longest [c] (by simp) ⟨tail, rfl⟩ longer spelt'
  · intro ends more nonempty within other spelt'
    obtain ⟨c, tail, rfl⟩ := List.exists_cons_of_ne_nil nonempty
    obtain ⟨further, rfl⟩ := within
    exact ends c rfl (spelt.goesOn spelt')

/-- A text begins with one longest slice at most. -/
theorem Longest.unique {slice' rest' : List Char} (same : slice ++ rest = slice' ++ rest')
    (spelt : Slice slice lexeme) (longest : Longest slice rest) (spelt' : Slice slice' other)
    (longest' : Longest slice' rest') : slice = slice' ∧ rest = rest' := by
  rcases List.append_eq_append_iff.mp same with ⟨more, rfl, rfl⟩ | ⟨more, rfl, rfl⟩
  · cases more with
    | nil => simp
    | cons c more => exact absurd spelt' (longest _ (by simp) ⟨rest', rfl⟩ other)
  · cases more with
    | nil => simp
    | cons c more => exact absurd spelt (longest' _ (by simp) ⟨rest, rfl⟩ lexeme)

/-! ### Reading one lexeme -/

/-- A numeral is scanned to the end of the longest slice. -/
theorem longest_of_scanNumber {numeral : List Char}
    (scanned : scanNumber cs = some (numeral, rest)) :
    cs = numeral ++ rest ∧ Slice numeral (.number numeral) ∧ Longest numeral rest := by
  obtain ⟨same, ends⟩ := append_of_scanNumber scanned
  have spelt : Slice numeral (.number numeral) := ⟨rfl, numeral_of_scanNumber scanned⟩
  refine ⟨same, spelt, (longest_iff spelt).mpr fun d head goesOn => ?_⟩
  obtain ⟨notDigit, point⟩ := ends d head
  rcases goesOn with digit | ⟨isPoint, absent⟩
  · rw [digit] at notDigit
    cases notDigit
  · exact absent (point isPoint)

/-- A numeral is scanned in front of what it does not go on with. -/
theorem scanNumber_append_of_longest {numeral : List Char} (isNumeral : Numeral numeral)
    (longest : Longest numeral rest) : scanNumber (numeral ++ rest) = some (numeral, rest) := by
  obtain ⟨⟨numeral', rest'⟩, scanned⟩ :=
    Option.isSome_iff_exists.mp (isNumeral.isSome_scanNumber rest)
  have spelt : Slice numeral (.number numeral) := ⟨rfl, isNumeral⟩
  obtain ⟨same, spelt', longest'⟩ := longest_of_scanNumber scanned
  obtain ⟨rfl, rfl⟩ := Longest.unique same spelt longest spelt' longest'
  exact scanned

/-- **What is read is the longest slice.** -/
theorem exists_slice_of_nextLexeme (read : nextLexeme c cs = .ok (lexeme, rest)) :
    ∃ slice, c :: cs = slice ++ rest ∧ Slice slice lexeme ∧ Longest slice rest := by
  have wordEnds : ∀ d ∈ (cs.dropWhile Text.isWordChar).head?, ¬ Text.isWordChar d = true := by
    intro d head
    have ends := List.head?_dropWhile_not Text.isWordChar cs
    rw [Option.mem_def.mp head] at ends
    simp [ends]
  unfold nextLexeme at read
  split at read
  · rename_i isQuote
    split at read
    · cases read
    · rename_i closing rest' behind
      cases read
      have parts : cs.takeWhile (· ≠ '\'') ++ cs.dropWhile (· ≠ '\'') = cs :=
        List.takeWhile_append_dropWhile
      have closes : closing = '\'' := by
        have ends := List.head?_dropWhile_not (· ≠ '\'') cs
        rw [behind] at ends
        simpa using ends
      have noQuote : '\'' ∉ cs.takeWhile (· ≠ '\'') := fun member => by
        simpa using List.mem_takeWhile_imp member
      have spelt : Slice ('\'' :: cs.takeWhile (· ≠ '\'') ++ ['\''])
          (.quoted (cs.takeWhile (· ≠ '\''))) := ⟨rfl, noQuote⟩
      refine ⟨_, ?_, spelt, (longest_iff spelt).mpr fun _ _ goesOn => goesOn⟩
      rw [List.append_assoc, List.singleton_append, ← closes, ← behind, closes, isQuote,
        List.cons_append, parts]
  · split at read
    · split at read
      · rename_i numeral rest' scanned
        cases read
        exact ⟨numeral, longest_of_scanNumber scanned⟩
      · cases read
    · rename_i notNumber
      split at read
      · rename_i found symbol
        cases read
        obtain ⟨slice, same, member, ends⟩ := mem_of_symbol? symbol
        obtain ⟨isSymbol, spelt⟩ := mem_symbolSlices_iff.mp member
        exact ⟨slice, same, spelt, (longest_iff spelt).mpr (isSymbol ▸ ends)⟩
      · split at read
        · rename_i wordChar
          cases read
          have starts : startsWord c = true := by
            simp only [startsNumber, Bool.or_eq_true, not_or] at notNumber
            simp [startsWord, wordChar, notNumber.1.1]
          have spelt : Slice (c :: cs.takeWhile Text.isWordChar)
              (.word (Text.lowerWord (c :: cs.takeWhile Text.isWordChar))) :=
            ⟨⟨starts, fun _ member => List.mem_takeWhile_imp member⟩, rfl⟩
          exact ⟨_, by rw [List.cons_append, List.takeWhile_append_dropWhile], spelt,
            (longest_iff spelt).mpr wordEnds⟩
        · cases read

/-- **Where nothing is read, no slice begins.** -/
theorem not_slice_of_nextLexeme {reason : Reason} (failed : nextLexeme c cs = .error reason)
    (within : slice <+: c :: cs) : ¬ Slice slice lexeme := by
  intro spelt
  obtain ⟨rest, same⟩ := within
  obtain ⟨d, ds, begins, starts⟩ := spelt.exists_head
  obtain rfl : d = c := by
    rw [begins, List.cons_append, List.cons.injEq] at same
    exact same.1
  unfold nextLexeme at failed
  split at failed
  · rename_i isQuote
    split at failed
    · rename_i noClosing
      have isQuoted : lexeme.manner = .quotation :=
        Manner.starts_unique starts (isQuote : Manner.quotation.starts d)
      cases lexeme with
      | quoted text =>
        obtain ⟨rfl, _⟩ := spelt
        rw [List.append_assoc, List.cons_append, List.cons.injEq] at same
        have inside : '\'' ∈ cs := by simp [← same.2]
        simpa using List.dropWhile_eq_nil_iff.mp noClosing _ inside
      | _ => cases isQuoted
    · cases failed
  · rename_i notQuote
    split at failed
    · rename_i isNumber
      split at failed
      · cases failed
      · rename_i notScanned
        have isNumeral : lexeme.manner = .numeral :=
          Manner.starts_unique starts (isNumber : Manner.numeral.starts d)
        cases lexeme with
        | number numeral =>
          have scanned := spelt.2.isSome_scanNumber rest
          rw [← spelt.1, same, notScanned] at scanned
          cases scanned
        | _ => cases isNumeral
    · rename_i notNumber
      split at failed
      · cases failed
      · rename_i notSymbol
        split at failed
        · cases failed
        · rename_i notWord
          cases manner : lexeme.manner with
          | symbol =>
            have isSymbol := isSome_symbol? (mem_symbolSlices_iff.mpr ⟨manner, spelt⟩) rest
            rw [same, notSymbol] at isSymbol
            cases isSymbol
          | numeral => exact notNumber (manner ▸ starts : Manner.numeral.starts d)
          | quotation => exact notQuote (manner ▸ starts : Manner.quotation.starts d)
          | word =>
            have isWord : startsWord d = true := (manner ▸ starts : Manner.word.starts d)
            exact notWord (Bool.and_eq_true_iff.mp isWord).1

/-- A slice is read where it is the longest one. -/
theorem nextLexeme_of_slice (same : c :: cs = slice ++ rest) (spelt : Slice slice lexeme)
    (longest : Longest slice rest) : nextLexeme c cs = .ok (lexeme, rest) := by
  cases read : nextLexeme c cs with
  | error reason => exact absurd spelt (not_slice_of_nextLexeme read ⟨rest, same.symm⟩)
  | ok found =>
    obtain ⟨other, rest'⟩ := found
    obtain ⟨slice', same', spelt', longest'⟩ := exists_slice_of_nextLexeme read
    obtain ⟨rfl, rfl⟩ := Longest.unique (same.symm.trans same') spelt longest spelt' longest'
    rw [spelt'.unique spelt]

end Slices

end Condition

end SheetExport
