/-
**One condition in several spellings.**

The tokens of a text are the same, but for their positions, however wide the white space between
them is, and whatever case the ASCII letters of its words are in. `Layout.Respelt` says that a text
differs from another in that: slices are written in other case unless they are quoted, gaps are
other white space, and none is closed that was open.

* `lowerWord_recased`: the lower-case spelling of a word does not see the case of ASCII letters, not
  even at a sigma, which looks around for letters;
* `Slice.recased`: a slice in other case is one of the same lexeme;
* `Longest.respelt`: it is the longest one before what follows it now;
* `tokenize_respelt`: a text has one layout, and respelt it has the same tokens and the same
  condition, or is none either.
-/

import Mathlib.Data.List.Forall2
import SheetExport.Proofs.Condition.Layout

namespace SheetExport.Condition

open Text (isBlank isAllBlank isDecimalDigit)

/-! ### The case of ASCII letters -/

/-- The characters are one, or they are the two forms of an ASCII letter. -/
def SameLetter (c d : Char) : Prop := c.toLower = d.toLower

instance : DecidableRel SameLetter := fun c d => inferInstanceAs (Decidable (c.toLower = d.toLower))

def capitals : List Char := "ABCDEFGHIJKLMNOPQRSTUVWXYZ".toList

def letters : List Char := capitals ++ capitals.map Char.toLower

section Letters

variable {c d : Char} {cs ds before before' : List Char}

theorem toLower_eq_or_mem (c : Char) : c.toLower = c ∨ c ∈ capitals := by
  by_cases upper : 65 ≤ c.toNat ∧ c.toNat ≤ 90
  · have all : ∀ n < 91, 65 ≤ n → Char.ofNat n ∈ capitals := by decide
    right
    rw [← Char.ofNat_toNat c]
    exact all c.toNat (Nat.lt_succ_of_le upper.2) upper.1
  · have notUpper : ¬ (c.val ≥ 'A'.val ∧ c.val ≤ 'Z'.val) := fun within =>
      upper ⟨UInt32.le_iff_toNat_le.mp within.1, UInt32.le_iff_toNat_le.mp within.2⟩
    exact Or.inl (dif_neg notUpper)

/-- What is the same for each capital and its small letter does not see the case of a letter. -/
theorem SameLetter.congr {α : Type} {f : Char → α} [DecidablePred fun e => f e.toLower = f e]
    (same : SameLetter c d) (capital : capitals.all (fun e => decide (f e.toLower = f e)) = true) :
    f c = f d := by
  have lower : ∀ e : Char, f e.toLower = f e := by
    intro e
    rcases toLower_eq_or_mem e with own | member
    · rw [own]
    · exact forall_mem_of_all capital e member
  rw [← lower c, ← lower d, same]

theorem SameLetter.symm (same : SameLetter c d) : SameLetter d c := Eq.symm same

/-- Only letters have another form. -/
theorem SameLetter.eq_of_notMem (same : SameLetter c d) (caseless : c ∉ letters) : d = c := by
  have own : c.toLower = c :=
    (toLower_eq_or_mem c).resolve_right fun member => caseless (List.mem_append_left _ member)
  rcases toLower_eq_or_mem d with own' | member
  · rw [← own, same, own']
  · refine absurd (List.mem_append_right _ (List.mem_map.mpr ⟨d, member, ?_⟩)) caseless
    rw [← same, own]

theorem eq_of_caseless (same : List.Forall₂ SameLetter cs ds) (caseless : ∀ c ∈ cs, c ∉ letters) :
    ds = cs := by
  induction same with
  | nil => rfl
  | cons here _ ih =>
    obtain ⟨notHere, notLater⟩ := List.forall_mem_cons.mp caseless
    rw [here.eq_of_notMem notHere, ih notLater]

theorem startsCased_cons (c : Char) (cs : List Char) :
    Text.startsCased (c :: cs) =
      if Text.isCaseIgnorable c then Text.startsCased cs else Text.isCased c := by
  unfold Text.startsCased
  by_cases ignorable : Text.isCaseIgnorable c = true
  · rw [List.dropWhile_cons_of_pos ignorable, if_pos ignorable]
  · rw [List.dropWhile_cons_of_neg ignorable, if_neg ignorable]

theorem startsCased_recased (same : List.Forall₂ SameLetter cs ds) :
    Text.startsCased cs = Text.startsCased ds := by
  induction same with
  | nil => rfl
  | cons here _ ih =>
    have ignorable := here.congr (f := Text.isCaseIgnorable) (by decide +kernel)
    have cased := here.congr (f := Text.isCased) (by decide +kernel)
    rw [startsCased_cons, startsCased_cons, ignorable, cased, ih]

theorem lowerFrom_recased (same : List.Forall₂ SameLetter cs ds)
    (sameBefore : List.Forall₂ SameLetter before before') :
    Text.lowerFrom before cs = Text.lowerFrom before' ds := by
  induction same generalizing before before' with
  | nil => rfl
  | @cons c d cs ds here others ih =>
    have sigma := here.congr (f := (· = 'Σ')) (by decide)
    have dotted := here.congr (f := (· = 'İ')) (by decide)
    have small := here.congr (f := Text.mapCase Text.lowerRows) (by decide +kernel)
    have around := startsCased_recased sameBefore
    have behind := startsCased_recased others
    rw [Text.lowerFrom, Text.lowerFrom, ih (.cons here sameBefore), Text.lowerChar, Text.lowerChar]
    simp only [sigma, dotted, small, around, behind]

/-- **Lower-casing a word does not see the case of ASCII letters.** -/
theorem lowerWord_recased (same : List.Forall₂ SameLetter cs ds) :
    Text.lowerWord cs = Text.lowerWord ds :=
  lowerFrom_recased same .nil

end Letters

/-! ### Respelling -/

/-- The case of ASCII letters is switched, but a quoted text stays as it is. -/
def Recased (slice slice' : List Char) : Prop :=
  List.Forall₂ SameLetter slice slice' ∧ (slice.head? = some '\'' → slice' = slice)

/-- White space takes the place of a gap, and a gap that was open stays open. -/
def Respaced (gap gap' : List Char) : Prop :=
  isAllBlank gap' = true ∧ (gap ≠ [] → gap' ≠ [])

instance (slice slice' : List Char) : Decidable (Recased slice slice') :=
  inferInstanceAs (Decidable (_ ∧ _))

instance (gap gap' : List Char) : Decidable (Respaced gap gap') :=
  inferInstanceAs (Decidable (_ ∧ _))

/-- The second layout has the slices of the first in other case, and other gaps. -/
inductive Layout.Respelt : Layout → Layout → Prop
  | tail {gap gap' : List Char} (respaced : Respaced gap gap') : Respelt (.tail gap) (.tail gap')
  | piece {gap gap' slice slice' : List Char} {rest rest' : Layout} (respaced : Respaced gap gap')
      (recased : Recased slice slice') (others : Respelt rest rest') :
      Respelt (.piece gap slice rest) (.piece gap' slice' rest')

/-- The expressions have tokens of the same kinds and texts, and either they are conditions with one
root or neither is a condition. -/
structure SameCondition (expression expression' : String) : Prop where
  tokens : ∃ lexed lexed', tokenize expression = .ok lexed ∧ tokenize expression' = .ok lexed' ∧
    lexed'.entries.map (fun entry => (entry.1, entry.2.1)) =
      lexed.entries.map fun entry => (entry.1, entry.2.1)
  roots : (Condition.parse expression').toOption.map Condition.root =
    (Condition.parse expression).toOption.map Condition.root

section Respelling

variable {position : Nat} {c d : Char} {slice slice' numeral : List Char} {lexeme : Lexeme}
variable {manner : Manner} {layout layout' : Layout} {tokens : List Token}
variable {expression : String} {lexed : Lexed}

theorem notMem_letters_of_numeral (isNumeral : Numeral numeral) : ∀ c ∈ numeral, c ∉ letters := by
  have signs : ∀ d ∈ letters, isSign d = false ∧ isDecimalDigit d = false ∧ d ≠ '.' :=
    forall_mem_of_all (by decide +kernel)
  have inMagnitude : ∀ {digits : List Char}, Magnitude digits → ∀ c ∈ digits, c ∉ letters := by
    intro digits magnitude c member letter
    obtain ⟨_, notDigit, notPoint⟩ := signs c letter
    rcases magnitude.mem member with digit | point
    · rw [digit] at notDigit
      cases notDigit
    · exact notPoint point
  cases isNumeral with
  | unsigned magnitude => exact inMagnitude magnitude
  | signed sign magnitude =>
    refine List.forall_mem_cons.mpr ⟨fun letter => ?_, inMagnitude magnitude⟩
    rw [(signs _ letter).1] at sign
    cases sign

/-- A slice that is no word stays as it is. -/
theorem Slice.eq_of_recased (spelt : Slice slice lexeme) (recased : Recased slice slice') :
    lexeme.manner = .word ∨ slice' = slice := by
  have symbol : lexeme.manner = .symbol → slice' = slice := by
    intro isSymbol
    have caseless : ∀ symbol ∈ symbolSlices, symbol.1.all (· ∉ letters) = true := by decide
    have here := caseless _ (mem_symbolSlices_iff.mpr ⟨isSymbol, spelt⟩)
    exact eq_of_caseless recased.1 (forall_mem_of_all here)
  cases lexeme with
  | number numeral =>
    obtain ⟨rfl, isNumeral⟩ := spelt
    exact Or.inr (eq_of_caseless recased.1 (notMem_letters_of_numeral isNumeral))
  | quoted text =>
    obtain ⟨rfl, _⟩ := spelt
    exact Or.inr (recased.2 rfl)
  | word lower => exact Or.inl rfl
  | _ => exact Or.inr (symbol rfl)

/-- **A slice in other case is one of the same lexeme.** -/
theorem Slice.recased (spelt : Slice slice lexeme) (recased : Recased slice slice') :
    Slice slice' lexeme := by
  rcases spelt.eq_of_recased recased with isWord | same
  · cases lexeme with
    | word lower =>
      refine ⟨?_, by rw [← lowerWord_recased recased.1, spelt.2]⟩
      obtain ⟨same, _⟩ := recased
      cases same with
      | nil => exact spelt.1
      | cons here others =>
        refine ⟨(here.symm.congr (by decide +kernel)).trans spelt.1.1, fun d member => ?_⟩
        obtain ⟨c, inSlice, letter⟩ := exists_of_mem_right others member
        exact (letter.symm.congr (by decide +kernel)).trans (spelt.1.2 c inSlice)
    | _ => cases isWord
  · rwa [same]

/-- No slice goes on with white space. -/
theorem Manner.GoesOn.notBlank (goesOn : manner.GoesOn slice c) : isBlank c = false := by
  cases manner with
  | symbol =>
    obtain ⟨rfl, _⟩ := goesOn
    decide
  | numeral =>
    rcases goesOn with digit | ⟨rfl, _⟩
    · exact isBlank_of_isDecimalDigit digit
    · decide
  | quotation => exact goesOn.elim
  | word =>
    by_contra blank
    have notWord := (plain_of_isBlank (Bool.not_eq_false _ ▸ blank)).1
    rw [show Text.isWordChar c = true from goesOn] at notWord
    cases notWord

/-- Where a slice goes on does not depend on case. -/
theorem Manner.GoesOn.recased (goesOn : manner.GoesOn slice' d)
    (same : manner = .word ∨ slice' = slice) (letter : SameLetter c d) : manner.GoesOn slice c := by
  cases manner with
  | symbol =>
    obtain ⟨rfl, isOne⟩ := goesOn
    exact ⟨letter.symm.eq_of_notMem (by decide), same.resolve_left nofun ▸ isOne⟩
  | numeral =>
    rcases goesOn with digit | ⟨rfl, absent⟩
    · exact Or.inl ((letter.congr (by decide +kernel)).trans digit)
    · exact Or.inr ⟨letter.symm.eq_of_notMem (by decide), same.resolve_left nofun ▸ absent⟩
  | quotation => exact goesOn.elim
  | word => exact (letter.congr (by decide +kernel)).trans goesOn

/-- What a respelt text begins with is white space, or what the text began with. -/
theorem Layout.Respelt.head (respelt : layout.Respelt layout')
    (reads : layout.Reads position tokens) :
    ∀ d ∈ layout'.text.head?, isBlank d = true ∨ ∃ c ∈ layout.text.head?, SameLetter c d := by
  intro d head
  cases respelt with
  | tail respaced => exact Or.inl (List.all_eq_true.mp respaced.1 d (List.mem_of_head? head))
  | @piece gap gap' slice slice' rest rest' respaced recased others =>
    cases gap' with
    | cons e gap' =>
      cases head
      exact Or.inl (List.all_eq_true.mp respaced.1 d List.mem_cons_self)
    | nil =>
      obtain rfl : gap = [] := by_contra fun open_ => respaced.2 open_ rfl
      cases reads with
      | piece blank spelt longest others =>
        obtain ⟨c, cs, rfl, _⟩ := spelt.exists_head
        obtain ⟨letters, _⟩ := recased
        cases letters with
        | cons here _ =>
          cases head
          exact Or.inr ⟨c, rfl, here⟩

/-- **A slice is still the longest one** when it and what follows it are respelt. -/
theorem Longest.respelt (longest : Longest slice layout.text) (spelt : Slice slice lexeme)
    (recased : Recased slice slice') (respelt : layout.Respelt layout')
    (reads : layout.Reads position tokens) : Longest slice' layout'.text := by
  refine (longest_iff (spelt.recased recased)).mpr fun d head goesOn => ?_
  rcases respelt.head reads d head with blank | ⟨c, head', letter⟩
  · rw [goesOn.notBlank] at blank
    cases blank
  · exact (longest_iff spelt).mp longest c head'
      (goesOn.recased (spelt.eq_of_recased recased) letter)

/-- **The tokens of a respelt layout** are the same but for their positions. -/
theorem Layout.Reads.respelt (reads : layout.Reads position tokens)
    (respelt : layout.Respelt layout') (position' : Nat) :
    ∃ tokens', layout'.Reads position' tokens' ∧ lexemesOf tokens' = lexemesOf tokens := by
  induction reads generalizing layout' position' with
  | tail _ =>
    cases respelt with
    | tail respaced => exact ⟨[], .tail respaced.1, rfl⟩
  | piece _ spelt longest others ih =>
    cases respelt with
    | piece respaced recased further =>
      obtain ⟨tokens', reads', same⟩ := ih further _
      exact ⟨_ :: tokens', .piece respaced.1 (spelt.recased recased)
        (longest.respelt spelt recased further others) reads', congrArg (_ :: ·) same⟩

/-- The condition that an expression writes is what its tokens derive. -/
theorem root_parse_of_tokenize (read : tokenize expression = .ok lexed) (root : Tree) :
    root ∈ (Condition.parse expression).toOption.map Condition.root ↔
      Derives (.joined .or) (lexemesOf lexed.tokens) root := by
  have decides : root ∈ (Condition.parse expression).toOption.map Condition.root ↔
      ∃ condition, Condition.parse expression = .ok condition ∧ condition.root = root := by
    cases Condition.parse expression <;> simp [Except.toOption]
  rw [decides]
  cases blank : isAllBlank expression.toList with
  | true =>
    have none_ : lexed.tokens = [] := by
      have gap : tokensFrom 0 (expression.toList ++ []) = _ := tokensFrom_gap blank 0
      rw [List.append_nil, tokensFrom_nil, (tokensFrom_of_tokenize read).1] at gap
      exact Except.ok.inj gap
    rw [none_]
    constructor
    · rintro ⟨condition, parsed, _⟩
      rw [Condition.parse, if_pos blank] at parsed
      cases parsed
    · intro derives
      obtain ⟨_, _, nothing, _⟩ := derives.exists_head
      cases nothing
  | false =>
    constructor
    · rintro ⟨condition, parsed, rfl⟩
      exact ((parse_eq_ok_iff_of_tokenize read blank).mp parsed).2
    · intro derives
      exact ⟨⟨expression, root⟩,
        (parse_eq_ok_iff_of_tokenize read blank).mpr ⟨rfl, derives⟩, rfl⟩

/-- **A text has one layout, and respelt it writes the same condition.** -/
theorem tokenize_respelt (read : tokenize expression = .ok lexed) :
    (∃! layout : Layout, layout.text = expression.toList ∧ layout.Reads 0 lexed.tokens) ∧
      ∀ layout layout' : Layout, layout.text = expression.toList → layout.Reads 0 lexed.tokens →
        layout.Respelt layout' → SameCondition expression (String.ofList layout'.text) := by
  obtain ⟨tokens, finish⟩ := tokensFrom_of_tokenize read
  constructor
  · obtain ⟨layout, text, reads⟩ := exists_reads_of_tokensFrom tokens
    refine ⟨layout, ⟨text, reads⟩, fun other ⟨text', reads'⟩ => ?_⟩
    exact reads'.unique reads (text'.trans text.symm)
  · intro layout layout' text reads respelt
    obtain ⟨tokens', reads', same⟩ := reads.respelt respelt 0
    have read' : tokenize (String.ofList layout'.text) =
        .ok ⟨tokens', (String.ofList layout'.text).length⟩ := by
      rw [tokenize, String.toList_ofList, tokensFrom_of_reads reads']
    refine ⟨⟨lexed, _, read, read', ?_⟩, Option.ext fun root => ?_⟩
    · have shown : ∀ lexed : Lexed, lexed.entries.map (fun entry => (entry.1, entry.2.1)) =
          (lexemesOf lexed.tokens).map (fun lexeme => (lexeme.kind, lexeme.text)) ++
            [("end", "")] := by
        intro lexed
        rw [Lexed.entries, lexemesOf, List.map_append, List.map_map, List.map_map]
        rfl
      rw [shown, shown, same]
    · rw [← Option.mem_def, ← Option.mem_def, root_parse_of_tokenize read',
        root_parse_of_tokenize read, same]

/-- A test of a text, with a gap that is not open. -/
def sampleLayout : Layout :=
  .piece [] "VALUE".toList (.piece [' '] "contains".toList (.piece [] "'Ab'".toList (.tail [])))

/-- The same with other gaps and in other case. -/
def respeltLayout : Layout :=
  .piece [' '] "value".toList (.piece ['\t', ' '] "Contains".toList
    (.piece [' '] "'Ab'".toList (.tail [])))

def sampleTokens : List Token :=
  [⟨.word "value".toList, 0⟩, ⟨.word "contains".toList, 6⟩, ⟨.quoted "Ab".toList, 14⟩]

theorem reads_sampleLayout : sampleLayout.Reads 0 sampleTokens := by
  have value : Slice "VALUE".toList (.word "value".toList) :=
    ⟨⟨by decide, forall_mem_of_all (by decide)⟩, by decide⟩
  have contains : Slice "contains".toList (.word "contains".toList) :=
    ⟨⟨by decide, forall_mem_of_all (by decide)⟩, by decide⟩
  have quoted : Slice "'Ab'".toList (.quoted "Ab".toList) := ⟨by decide, by decide⟩
  refine .piece (by decide) value ((longest_iff value).mpr ?_) ?_
  · rintro _ ⟨⟩
    exact (by decide : ¬ Text.isWordChar ' ' = true)
  · refine .piece (by decide) contains ((longest_iff contains).mpr ?_) ?_
    · rintro _ ⟨⟩
      exact (by decide : ¬ Text.isWordChar '\'' = true)
    · refine .piece (by decide) quoted ((longest_iff quoted).mpr ?_) (.tail (by decide))
      rintro _ ⟨⟩

/-- The test is respelt. -/
theorem tokenize_respelt_sample :
    tokenize "VALUE contains'Ab'" = .ok ⟨sampleTokens, 18⟩ ∧
      SameCondition "VALUE contains'Ab'" " value\t Contains 'Ab'" := by
  have text : sampleLayout.text = "VALUE contains'Ab'".toList := by decide
  have respelt : sampleLayout.Respelt respeltLayout :=
    .piece (by decide) (by decide)
      (.piece (by decide) (by decide) (.piece (by decide) (by decide) (.tail (by decide))))
  have read : tokenize "VALUE contains'Ab'" = .ok ⟨sampleTokens, 18⟩ := by
    rw [tokenize, ← text, tokensFrom_of_reads reads_sampleLayout]
    rfl
  exact ⟨read, (tokenize_respelt read).2 _ _ text reads_sampleLayout respelt⟩

end Respelling

end SheetExport.Condition
