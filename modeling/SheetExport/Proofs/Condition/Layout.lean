/-
**The slices that a text is read in.**

A text lies before the tokenizer as slices with white space around them. `Layout.Reads` says so of
a layout and its tokens, piece by piece: each gap is white space, each slice is the longest one of
its token. Reading a text finds such a layout, and finds the tokens of one again; no text has two.

* `exists_reads_of_tokensFrom`, `tokensFrom_of_reads`: a text has the tokens of its layout;
* `Layout.Reads.unique`: a text has one layout;
* `Tiled cs start spans` — the same by positions: the spans of the tokens lie in the text one behind
  the other, and what is outside of them is white space;
* `tokenize_slices`: every text is tiled by the spans of its tokens, or else reading it stops at
  the first character where no slice begins.
-/

import SheetExport.Proofs.Condition.Position
import SheetExport.Proofs.Condition.Slice

namespace SheetExport.Condition

open Text (isBlank isAllBlank)

/-! ### Layouts -/

/-- A text as slices with gaps before them, and what stands behind the last one. -/
inductive Layout
  | tail (gap : List Char)
  | piece (gap slice : List Char) (rest : Layout)

namespace Layout

/-- The characters of a layout. -/
def text : Layout → List Char
  | tail gap => gap
  | piece gap slice rest => gap ++ (slice ++ rest.text)

/-- One more character before the first slice. -/
def indent (c : Char) : Layout → Layout
  | tail gap => tail (c :: gap)
  | piece gap slice rest => piece (c :: gap) slice rest

/-- The gaps of the layout are white space, and the slices between them are those of the tokens; the
layout begins at `position`. -/
inductive Reads : Nat → Layout → List Token → Prop
  | tail {position : Nat} {gap : List Char} (blank : isAllBlank gap = true) :
      Reads position (.tail gap) []
  | piece {position : Nat} {gap slice : List Char} {lexeme : Lexeme} {rest : Layout}
      {tokens : List Token} (blank : isAllBlank gap = true) (spelt : Slice slice lexeme)
      (longest : Longest slice rest.text)
      (others : Reads (position + gap.length + slice.length) rest tokens) :
      Reads position (.piece gap slice rest) (⟨lexeme, position + gap.length⟩ :: tokens)

end Layout

section Layouts

variable {position : Nat} {c : Char} {cs slice gap : List Char} {lexeme : Lexeme}
variable {layout : Layout} {tokens : List Token}

/-- White space is part of no word and looks like no digit. -/
theorem plain_of_isBlank (blank : isBlank c = true) :
    Text.isWordChar c = false ∧ Text.isDigitLike c = false := by
  refine ⟨not_covers_of_apart (by decide +kernel) blank, Bool.or_eq_false_iff.mpr ⟨?_, ?_⟩⟩
  · exact not_covers_of_apart (by decide +kernel) blank
  · exact not_covers_of_apart (by decide +kernel) blank

/-- No slice begins with white space. -/
theorem Manner.starts.notBlank {manner : Manner} (starts : manner.starts c) :
    isBlank c = false := by
  have others : ∀ d ∈ '+' :: '-' :: '.' :: '\'' :: symbolStarts, isBlank d = false :=
    forall_mem_of_all (by decide)
  by_contra blank
  rw [Bool.not_eq_false] at blank
  obtain ⟨notWord, notDigit⟩ := plain_of_isBlank blank
  have apart : c ∉ '+' :: '-' :: '.' :: '\'' :: symbolStarts := fun member =>
    absurd blank (by simp [others c member])
  simp only [List.mem_cons, not_or] at apart
  obtain ⟨notPlus, notMinus, notPoint, notQuote, notSymbol⟩ := apart
  cases manner with
  | symbol => exact absurd starts (by simpa [Manner.starts, symbolStarts] using notSymbol)
  | numeral =>
    simp [Manner.starts, startsNumber, isSign, notDigit, notPlus, notMinus, notPoint] at starts
  | quotation => exact notQuote starts
  | word => simp [Manner.starts, startsWord, notWord] at starts

theorem Slice.exists_head_notBlank (spelt : Slice slice lexeme) :
    ∃ c cs, slice = c :: cs ∧ isBlank c = false := by
  obtain ⟨c, cs, begins, starts⟩ := spelt.exists_head
  exact ⟨c, cs, begins, starts.notBlank⟩

theorem tokensFrom_gap (blank : isAllBlank gap = true) (position : Nat) :
    tokensFrom position (gap ++ cs) = tokensFrom (position + gap.length) cs := by
  induction gap generalizing position with
  | nil => rfl
  | cons c gap ih =>
    rw [isAllBlank, List.all_cons, Bool.and_eq_true] at blank
    rw [List.cons_append, tokensFrom_blank position blank.1, ih blank.2, List.length_cons,
      Nat.add_right_comm, Nat.add_assoc]

/-- **The tokens of a layout are those of its text.** -/
theorem tokensFrom_of_reads (reads : layout.Reads position tokens) :
    tokensFrom position layout.text = .ok tokens := by
  induction reads with
  | @tail position gap blank =>
    rw [Layout.text, ← List.append_nil gap, tokensFrom_gap blank, tokensFrom_nil]
  | @piece position gap slice lexeme rest tokens blank spelt longest others ih =>
    obtain ⟨c, cs, rfl, notBlank⟩ := spelt.exists_head_notBlank
    have read : nextLexeme c (cs ++ rest.text) = .ok (lexeme, rest.text) :=
      nextLexeme_of_slice rfl spelt longest
    rw [Layout.text, tokensFrom_gap blank, List.cons_append,
      tokensFrom_lexeme _ notBlank read, ← List.cons_append, List.length_append,
      Nat.add_sub_cancel, ih]
    rfl

theorem Layout.Reads.indent (reads : layout.Reads (position + 1) tokens)
    (blank : isBlank c = true) : (layout.indent c).Reads position tokens := by
  cases reads with
  | tail others => exact .tail (by rw [isAllBlank, List.all_cons, blank]; exact others)
  | @piece _ gap slice lexeme rest tokens others spelt longest following =>
    have further : isAllBlank (c :: gap) = true := by
      rw [isAllBlank, List.all_cons, blank]
      exact others
    have shift : position + 1 + gap.length = position + (c :: gap).length := by
      rw [List.length_cons, Nat.add_right_comm, Nat.add_assoc]
    rw [shift] at following ⊢
    exact .piece further spelt longest following

theorem Layout.text_indent (c : Char) (layout : Layout) :
    (layout.indent c).text = c :: layout.text := by
  cases layout <;> rfl

/-- A slice without a gap before it. -/
theorem Layout.Reads.adjoin {rest : List Char} (same : c :: cs = slice ++ rest)
    (spelt : Slice slice lexeme) (longest : Longest slice layout.text)
    (others : layout.Reads (position + ((c :: cs).length - rest.length)) tokens) :
    (Layout.piece [] slice layout).Reads position (⟨lexeme, position⟩ :: tokens) := by
  refine .piece rfl spelt longest ?_
  rwa [same, List.length_append, Nat.add_sub_cancel] at others

/-- **A text that has tokens has a layout of them.** -/
theorem exists_reads_of_tokensFrom (read : tokensFrom position cs = .ok tokens) :
    ∃ layout : Layout, layout.text = cs ∧ layout.Reads position tokens := by
  fun_induction tokensFrom position cs generalizing tokens with
  | case1 position =>
    cases read
    exact ⟨.tail [], rfl, .tail rfl⟩
  | case2 position c rest blank ih =>
    obtain ⟨layout, rfl, reads⟩ := ih read
    exact ⟨layout.indent c, layout.text_indent c, reads.indent blank⟩
  | case3 => cases read
  | case4 => cases read
  | case5 position c rest notBlank lexeme after next more others ih =>
    cases read
    obtain ⟨slice, same, spelt, longest⟩ := exists_slice_of_nextLexeme next
    obtain ⟨layout, rfl, reads⟩ := ih others
    exact ⟨.piece [] slice layout, same.symm, .adjoin same spelt longest reads⟩

theorem Longest.of_append {rest more : List Char} (longest : Longest slice (rest ++ more)) :
    Longest slice rest := by
  intro further nonempty within
  exact longest further nonempty (within.trans (List.prefix_append rest more))

/-- **Where reading stops** the text before has a layout, and what follows begins no slice. -/
theorem exists_reads_before_of_tokensFrom {mistake : Mistake}
    (failed : tokensFrom position cs = .error mistake) :
    ∃ (layout : Layout) (tokens : List Token) (c : Char) (behind : List Char),
      cs = layout.text ++ c :: behind ∧ layout.Reads position tokens ∧
        mistake.position = some (position + layout.text.length) ∧ isBlank c = false ∧
        nextLexeme c behind = .error mistake.reason := by
  fun_induction tokensFrom position cs with
  | case1 => cases failed
  | case2 position c rest blank ih =>
    obtain ⟨layout, tokens, d, behind, rfl, reads, place, stops⟩ := ih failed
    refine ⟨layout.indent c, tokens, d, behind, ?_, reads.indent blank, ?_, stops⟩
    · rw [layout.text_indent]
      rfl
    · rw [place, layout.text_indent, List.length_cons, Nat.add_right_comm, Nat.add_assoc]
  | case3 position c rest notBlank reason first =>
    cases failed
    exact ⟨.tail [], [], c, rest, rfl, .tail rfl, rfl, eq_false_of_ne_true notBlank, first⟩
  | case4 position c rest notBlank lexeme after next other others ih =>
    cases failed
    obtain ⟨slice, same, spelt, longest⟩ := exists_slice_of_nextLexeme next
    obtain ⟨layout, tokens, d, behind, rfl, reads, place, stops⟩ := ih others
    refine ⟨.piece [] slice layout, _, d, behind, ?_,
      .adjoin same spelt longest.of_append reads, ?_, stops⟩
    · rw [same, Layout.text, List.nil_append, List.append_assoc]
    · rw [place, same, List.length_append, Nat.add_sub_cancel, Layout.text, List.nil_append,
        List.length_append, Nat.add_assoc]
  | case5 => cases failed

/-- The gap before a slice is the white space that the text begins with. -/
theorem takeWhile_gap {rest : List Char} (blank : isAllBlank gap = true)
    (spelt : Slice slice lexeme) : (gap ++ (slice ++ rest)).takeWhile isBlank = gap := by
  obtain ⟨c, cs, rfl, notBlank⟩ := spelt.exists_head_notBlank
  refine takeWhile_append_of_ends (List.all_eq_true.mp blank) fun d head => ?_
  cases head
  exact notBlank

/-- White space alone is no text with a slice. -/
theorem ne_of_isAllBlank {gap' rest : List Char} (blank : isAllBlank gap = true)
    (blank' : isAllBlank gap' = true) (spelt : Slice slice lexeme) :
    gap ≠ gap' ++ (slice ++ rest) := by
  intro same
  have whole : gap.takeWhile isBlank = gap :=
    List.takeWhile_eq_self_iff.mpr (List.all_eq_true.mp blank)
  rw [same, takeWhile_gap blank' spelt] at whole
  obtain ⟨c, cs, rfl, _⟩ := spelt.exists_head_notBlank
  simp at whole

/-- **A text has one layout.** -/
theorem Layout.Reads.unique {layout' : Layout} {position' : Nat} {tokens' : List Token}
    (reads : layout.Reads position tokens) (reads' : layout'.Reads position' tokens')
    (same : layout.text = layout'.text) : layout = layout' := by
  induction reads generalizing layout' position' tokens' with
  | tail blank =>
    cases reads' with
    | tail _ => exact congrArg Layout.tail same
    | piece blank' spelt _ _ => exact absurd same (ne_of_isAllBlank blank blank' spelt)
  | piece blank spelt longest others ih =>
    cases reads' with
    | tail blank' => exact absurd same.symm (ne_of_isAllBlank blank' blank spelt)
    | piece blank' spelt' longest' others' =>
      rw [Layout.text, Layout.text] at same
      obtain rfl := (takeWhile_gap blank spelt).symm.trans
        ((congrArg _ same).trans (takeWhile_gap blank' spelt'))
      obtain ⟨rfl, rest⟩ :=
        Longest.unique (List.append_cancel_left same) spelt longest spelt' longest'
      rw [ih others' rest]

end Layouts

/-! ### The same by positions -/

/-- A token and the position behind its last character. -/
structure Span where
  token : Token
  finish : Nat

namespace Span

/-- The characters of a text that a span has. -/
def slice (s : Span) (cs : List Char) : List Char := (cs.take s.finish).drop s.token.position

/-- The position is one of the span. -/
def Has (s : Span) (i : Nat) : Prop := s.token.position ≤ i ∧ i < s.finish

end Span

/-- The spans lie in the text from `start` on, each behind the one before it and on the longest
slice of its token; everything else there is white space. -/
structure Tiled (cs : List Char) (start : Nat) (spans : List Span) : Prop where
  inside : ∀ s ∈ spans,
    start ≤ s.token.position ∧ s.token.position < s.finish ∧ s.finish ≤ cs.length
  apart : spans.Pairwise fun s next => s.finish ≤ next.token.position
  spelt : ∀ s ∈ spans, Slice (s.slice cs) s.token.lexeme
  longest : ∀ s ∈ spans, Longest (s.slice cs) (cs.drop s.finish)
  blank : ∀ i c, start ≤ i → cs[i]? = some c → (∀ s ∈ spans, ¬ s.Has i) → isBlank c = true

/-- What the tokens of an expression show of its text. One entry, the last, is the end, which is at
the end of the text; positions ascend up to it, and the spans of the tokens tile the text. -/
structure Lexed.Shows (lexed : Lexed) (expression : String) : Prop where
  ended : ∃ front, lexed.entries = front ++ [("end", "", expression.length)] ∧
    ∀ entry ∈ front, entry.1 ≠ "end"
  ascending : (lexed.entries.map fun entry => entry.2.2).Pairwise (· < ·)
  tiled : ∃ spans, spans.map Span.token = lexed.tokens ∧ Tiled expression.toList 0 spans

/-- Reading an expression stops at a character: the text before it has tokens, no slice begins
there, and it is a quote that is not closed, or else it is no quote. -/
structure SyntaxError.Stops (e : SyntaxError) (expression : String) (before : List Char) (c : Char)
    (behind : List Char) : Prop where
  text : e.expression = expression ∧ expression.toList = before ++ c :: behind
  position : e.mistake.position = some before.length
  readable : ∃ lexed, tokenize (String.ofList before) = .ok lexed
  notBlank : isBlank c = false
  noSlice : ∀ slice, slice <+: c :: behind → ∀ lexeme, ¬ Slice slice lexeme
  reason : e.mistake.reason = .unterminatedText ∧ c = '\'' ∧ '\'' ∉ behind ∨
    e.mistake.reason = .unknownOperator (String.singleton c) ∧ c ≠ '\''

section Spans

variable {position start : Nat} {c : Char} {cs front slice : List Char} {lexeme : Lexeme}
variable {layout : Layout} {tokens : List Token} {s : Span} {spans : List Span}
variable {expression : String} {lexed : Lexed} {e : SyntaxError}

/-- The characters of a span are those between its ends. -/
theorem Span.slice_append (before : front.length = s.token.position)
    (until_ : s.finish = s.token.position + slice.length) (rest : List Char) :
    s.slice (front ++ slice ++ rest) = slice ∧ (front ++ slice ++ rest).drop s.finish = rest := by
  have here : s.finish = (front ++ slice).length := by rw [until_, List.length_append, before]
  rw [Span.slice, here, List.take_left, List.drop_left, ← before, List.drop_left]
  exact ⟨rfl, rfl⟩

theorem Tiled.cons (others : Tiled cs s.finish spans) (behind : start ≤ s.token.position)
    (inside : s.token.position < s.finish ∧ s.finish ≤ cs.length)
    (spelt : Slice (s.slice cs) s.token.lexeme) (longest : Longest (s.slice cs) (cs.drop s.finish))
    (gap : ∀ i c, start ≤ i → i < s.token.position → cs[i]? = some c → isBlank c = true) :
    Tiled cs start (s :: spans) where
  inside := by
    refine List.forall_mem_cons.mpr ⟨⟨behind, inside⟩, fun other member => ?_⟩
    obtain ⟨later, within⟩ := others.inside other member
    exact ⟨by omega, within⟩
  apart := List.pairwise_cons.mpr ⟨fun other member => (others.inside other member).1, others.apart⟩
  spelt := List.forall_mem_cons.mpr ⟨spelt, others.spelt⟩
  longest := List.forall_mem_cons.mpr ⟨longest, others.longest⟩
  blank := by
    intro i c from_ there outside
    obtain ⟨notHere, notLater⟩ := List.forall_mem_cons.mp outside
    by_cases before : i < s.token.position
    · exact gap i c from_ before there
    · refine others.blank i c (Nat.le_of_not_lt fun within => ?_) there notLater
      exact notHere ⟨Nat.le_of_not_lt before, within⟩

/-- **The pieces of a layout tile its text**, wherever in a text it stands. -/
theorem Layout.Reads.exists_tiled (reads : layout.Reads position tokens) :
    ∀ front : List Char, front.length = position →
      ∃ spans, spans.map Span.token = tokens ∧ Tiled (front ++ layout.text) position spans := by
  induction reads with
  | @tail position gap blank =>
    intro front same
    refine ⟨[], rfl, ⟨nofun, .nil, nofun, nofun, fun i c from_ there _ => ?_⟩⟩
    rw [List.getElem?_append_right (by omega)] at there
    exact List.all_eq_true.mp blank c (List.mem_of_getElem? there)
  | @piece position gap slice lexeme rest tokens blank spelt longest others ih =>
    intro front same
    have before : (front ++ gap).length = position + gap.length := by
      rw [List.length_append, same]
    obtain ⟨spans, tokens, tiled⟩ := ih (front ++ gap ++ slice) (by rw [List.length_append, before])
    have whole : front ++ (Layout.piece gap slice rest).text =
        front ++ gap ++ slice ++ rest.text := by
      simp only [Layout.text, List.append_assoc]
    rw [whole]
    refine ⟨⟨⟨lexeme, position + gap.length⟩, position + gap.length + slice.length⟩ :: spans,
      congrArg _ tokens, ?_⟩
    obtain ⟨own, behind⟩ := Span.slice_append (s := ⟨⟨lexeme, position + gap.length⟩,
      position + gap.length + slice.length⟩) before rfl rest.text
    have nonempty : 0 < slice.length := by
      obtain ⟨c, cs, rfl, _⟩ := spelt.exists_head
      exact Nat.succ_pos _
    refine tiled.cons (Nat.le_add_right _ _) ⟨Nat.lt_add_of_pos_right nonempty, ?_⟩
      (by rwa [own]) (by rwa [own, behind]) fun i c from_ until_ there => ?_
    · simp only [List.length_append, same]
      omega
    · rw [List.append_assoc, List.getElem?_append_left (before ▸ until_),
        List.getElem?_append_right (same ▸ from_)] at there
      exact List.all_eq_true.mp blank c (List.mem_of_getElem? there)

/-- Positions ascend from span to span, up to the end of the text. -/
theorem Tiled.ascending (tiled : Tiled cs start spans) :
    (spans.map (·.token.position) ++ [cs.length]).Pairwise (· < ·) := by
  refine List.pairwise_append.mpr ⟨List.pairwise_map.mpr ?_, List.pairwise_singleton _ _, ?_⟩
  · refine List.Pairwise.imp_of_mem (fun {s next} member _ behind => ?_) tiled.apart
    exact Nat.lt_of_lt_of_le (tiled.inside s member).2.1 behind
  · intro p member finish isFinish
    obtain ⟨s, inSpans, rfl⟩ := List.mem_map.mp member
    obtain ⟨_, nonempty, within⟩ := tiled.inside s inSpans
    rw [List.mem_singleton.mp isFinish]
    exact Nat.lt_of_lt_of_le nonempty within

theorem Lexeme.kind_ne_end (lexeme : Lexeme) : lexeme.kind ≠ "end" := by
  cases lexeme with
  | connective connective => cases connective <;> decide
  | _ => rw [Lexeme.kind]; decide

theorem Lexed.shows_of_tokenize (read : tokenize expression = .ok lexed) :
    lexed.Shows expression := by
  obtain ⟨tokens, finish⟩ := tokensFrom_of_tokenize read
  obtain ⟨layout, text, reads⟩ := exists_reads_of_tokensFrom tokens
  obtain ⟨spans, map, tiled⟩ := reads.exists_tiled [] rfl
  rw [List.nil_append, text] at tiled
  refine ⟨⟨_, by rw [Lexed.entries, finish], fun entry member => ?_⟩, ?_, spans, map, tiled⟩
  · obtain ⟨t, _, rfl⟩ := List.mem_map.mp member
    exact t.lexeme.kind_ne_end
  · have positions : lexed.entries.map (fun entry => entry.2.2) =
        spans.map (·.token.position) ++ [expression.toList.length] := by
      rw [Lexed.entries, ← map, List.map_append, List.map_map, List.map_map, finish,
        String.length_toList]
      rfl
    rw [positions]
    exact tiled.ascending

/-- Reading fails at a quote only when it is not closed, and otherwise shows the character. -/
theorem reason_of_nextLexeme {reason : Reason} {behind : List Char}
    (failed : nextLexeme c behind = .error reason) :
    reason = .unterminatedText ∧ c = '\'' ∧ '\'' ∉ behind ∨
      reason = .unknownOperator (String.singleton c) ∧ c ≠ '\'' := by
  unfold nextLexeme at failed
  split at failed
  · rename_i isQuote
    split at failed
    · rename_i noClosing
      cases failed
      refine Or.inl ⟨rfl, isQuote, fun member => ?_⟩
      simpa using List.dropWhile_eq_nil_iff.mp noClosing _ member
    · cases failed
  · rename_i notQuote
    refine Or.inr ⟨?_, notQuote⟩
    split at failed
    · split at failed <;> cases failed
      rfl
    · split at failed
      · cases failed
      · split at failed <;> cases failed
        rfl

theorem SyntaxError.exists_stops_of_tokenize (failed : tokenize expression = .error e) :
    ∃ before c behind, e.Stops expression before c behind := by
  rw [tokenize] at failed
  split at failed
  · cases failed
  · rename_i mistake stopped
    cases failed
    obtain ⟨layout, tokens, c, behind, text, reads, place, notBlank, stops⟩ :=
      exists_reads_before_of_tokensFrom stopped
    rw [Nat.zero_add] at place
    refine ⟨layout.text, c, behind, ⟨rfl, text⟩, place, ?_, notBlank, ?_,
      reason_of_nextLexeme stops⟩
    · rw [tokenize, String.toList_ofList, tokensFrom_of_reads reads]
      exact ⟨_, rfl⟩
    · exact fun slice within lexeme => not_slice_of_nextLexeme stops within

/-- **Every text is read to its end, or up to where no slice begins.** -/
theorem tokenize_slices (expression : String) :
    match tokenize expression with
    | .ok lexed => lexed.Shows expression
    | .error e => ∃ before c behind, e.Stops expression before c behind := by
  split
  · exact Lexed.shows_of_tokenize ‹_›
  · exact SyntaxError.exists_stops_of_tokenize ‹_›

end Spans

end SheetExport.Condition
