/-
**What cleaning a name once does not clean.**

A declared name loses pairs of points first, then the characters that no worksheet's name may have,
then the white space at its ends, and it is cut last. So points may meet that were no pair before,
and the cut may leave white space at the end.

* `remainingName` — what remains of a declared name before it is cut;
* `PointsMeet`, `CutBehindBlank` — the declared names for which the one and the other happens;
* `cleanSheetName_eq_self_iff` — the names that cleaning leaves as they are;
* `cleanSheetName_settled`: a cleaned name is never empty, too long, or with a character that it may
  not have or white space in front; it has a pair of points, or white space at its end, just if
  points meet or the cut is behind white space, and otherwise cleaning it again changes nothing.
-/

import Mathlib.Data.List.DropRight
import SheetExport.Proofs.Workbook.Naming

namespace SheetExport

open Text (isBlank strip)

/-- A character that no worksheet's name keeps. -/
def isDropped (c : Char) : Bool := illegalInSheetName.contains c || isControl c

/-- A name with two points side by side. -/
def HasPointPair (name : List Char) : Prop := ['.', '.'] <:+: name

/-- A name with white space in front. -/
def StartsBlank (name : List Char) : Prop := ∃ c, name.head? = some c ∧ isBlank c = true

/-- A name with white space at its end. -/
def EndsBlank (name : List Char) : Prop := ∃ c, name.getLast? = some c ∧ isBlank c = true

/-- What remains of a declared name before it is cut. -/
def remainingName (declared : List Char) : List Char :=
  strip ((dropPointPairs (strip declared)).filter (!isDropped ·))

/-- Two points have nothing between them but characters that are dropped, and both are among the
characters in front of the cut. -/
def PointsMeet (declared : List Char) : Prop :=
  ∃ before middle after,
    dropPointPairs (strip declared) = before ++ '.' :: (middle ++ '.' :: after) ∧
    (∀ c ∈ middle, isDropped c = true) ∧
    ((before.filter (!isDropped ·)).dropWhile isBlank).length + 2 ≤ maxSheetNameLength

/-- The last character in front of the cut is white space. -/
def CutBehindBlank (declared : List Char) : Prop :=
  ∃ c, (remainingName declared)[maxSheetNameLength - 1]? = some c ∧ isBlank c = true

section Cleaning

variable {declared name cs before after : List Char} {c : Char}

/-! ### White space at the ends -/

/-- White space is dropped in front, and then at the end. -/
theorem strip_eq_rdropWhile (cs : List Char) :
    strip cs = (cs.dropWhile isBlank).rdropWhile isBlank := rfl

/-- What is stripped begins with no white space. -/
theorem not_startsBlank_strip (cs : List Char) : ¬ StartsBlank (strip cs) := by
  rintro ⟨c, first, blank⟩
  rw [strip_eq_rdropWhile] at first
  obtain ⟨rest, same⟩ := List.rdropWhile_prefix isBlank (l := cs.dropWhile isBlank)
  have head : (cs.dropWhile isBlank).head? = some c := by
    rw [← same, List.head?_append, first, Option.some_or]
  have plain := List.head?_dropWhile_not isBlank cs
  rw [head] at plain
  simp only [blank, Bool.true_eq_false] at plain

/-- What is stripped ends with no white space. -/
theorem not_endsBlank_strip (cs : List Char) : ¬ EndsBlank (strip cs) := by
  rintro ⟨c, last, blank⟩
  rw [strip_eq_rdropWhile] at last
  have nonempty : (cs.dropWhile isBlank).rdropWhile isBlank ≠ [] := by
    intro empty
    rw [empty] at last
    cases last
  have plain := List.rdropWhile_last_not isBlank (cs.dropWhile isBlank) nonempty
  rw [List.getLast?_eq_some_getLast nonempty, Option.some.injEq] at last
  rw [last] at plain
  exact plain blank

/-- A text without white space at its ends is stripped of nothing. -/
theorem strip_eq_self (start : ¬ StartsBlank cs) (ends : ¬ EndsBlank cs) : strip cs = cs := by
  have front : cs.dropWhile isBlank = cs := by
    cases cs with
    | nil => rfl
    | cons c cs =>
      have plain : ¬ isBlank c = true := fun blank => start ⟨c, rfl, blank⟩
      exact List.dropWhile_cons_of_neg plain
  rw [strip_eq_rdropWhile, front, List.rdropWhile_eq_self_iff]
  intro nonempty blank
  exact ends ⟨_, List.getLast?_eq_some_getLast nonempty, blank⟩

/-- Dropping in front ends at what is kept. -/
theorem dropWhile_append_cons {drop : Char → Bool} (kept : drop c = false) :
    (before ++ c :: after).dropWhile drop = before.dropWhile drop ++ c :: after := by
  rw [List.dropWhile_append, List.dropWhile_cons_of_neg (by simp [kept])]
  split
  · rename_i nothing
    rw [List.isEmpty_iff.mp nothing, List.nil_append]
  · rfl

/-- Around something that is not white space, both ends are stripped on their own. -/
theorem strip_append_cons (plain : isBlank c = false) :
    strip (before ++ c :: after) = before.dropWhile isBlank ++ c :: after.rdropWhile isBlank := by
  rw [strip_eq_rdropWhile, dropWhile_append_cons plain, List.rdropWhile, List.reverse_append,
    List.reverse_cons, List.append_assoc, List.singleton_append, dropWhile_append_cons plain]
  simp [List.rdropWhile]

/-! ### Pairs of points -/

theorem dropPointPairs_sublist (cs : List Char) : (dropPointPairs cs).Sublist cs := by
  fun_induction dropPointPairs cs with
  | case1 rest ih => exact (ih.cons _).cons _
  | case2 c rest _ ih => exact ih.cons_cons c
  | case3 => exact .refl _

/-- A point in front was there before pairs were dropped. -/
theorem exists_of_point_prefix (first : ['.'] <+: dropPointPairs cs) :
    ∃ rest, cs = '.' :: rest := by
  cases cs with
  | nil => simp [dropPointPairs] at first
  | cons c rest =>
    by_cases point : c = '.'
    · exact ⟨rest, by rw [point]⟩
    · rw [dropPointPairs.eq_2 _ _ fun _ same => absurd same point] at first
      exact absurd (List.cons_prefix_cons.mp first).1.symm point

/-- No pair of points is left where pairs are dropped. -/
theorem not_hasPointPair_dropPointPairs (cs : List Char) :
    ¬ HasPointPair (dropPointPairs cs) := by
  fun_induction dropPointPairs cs with
  | case1 rest ih => exact ih
  | case2 c rest noPair ih =>
    intro pair
    rcases List.infix_cons_iff.mp pair with first | later
    · obtain ⟨rfl, second⟩ := List.cons_prefix_cons.mp first
      obtain ⟨more, rfl⟩ := exists_of_point_prefix second
      exact noPair more rfl rfl
    · exact ih later
  | case3 => simp [HasPointPair]

/-- Without a pair of points nothing is dropped. -/
theorem dropPointPairs_eq_self (none : ¬ HasPointPair cs) : dropPointPairs cs = cs := by
  fun_induction dropPointPairs cs with
  | case1 rest ih => exact absurd ⟨[], rest, rfl⟩ none
  | case2 c rest _ ih => rw [ih fun pair => none (pair.trans (List.suffix_cons c rest).isInfix)]
  | case3 => rfl

/-! ### What is dropped from a name -/

theorem cleanSheetName_eq (declared : List Char) :
    cleanSheetName declared =
      if (remainingName declared).isEmpty then none
      else some ((remainingName declared).take maxSheetNameLength) := by
  have both : ∀ cs : List Char, (cs.filter (!illegalInSheetName.contains ·)).filter (!isControl ·) =
      cs.filter (!isDropped ·) := by
    intro cs
    rw [List.filter_filter]
    refine List.filter_congr fun c _ => ?_
    rw [isDropped, Bool.not_or, Bool.and_comm]
  unfold cleanSheetName remainingName
  simp only [both]

theorem of_clean (clean : cleanSheetName declared = some name) :
    remainingName declared ≠ [] ∧ name = (remainingName declared).take maxSheetNameLength := by
  rw [cleanSheetName_eq] at clean
  split at clean
  · cases clean
  · rename_i remains
    exact ⟨fun empty => remains (List.isEmpty_iff.mpr empty), (Option.some.inj clean).symm⟩

theorem not_isDropped_point : isDropped '.' = false := by decide

/-- Points that are side by side where characters are dropped had only such ones between them. -/
theorem filter_eq_append_points_iff :
    cs.filter (!isDropped ·) = before ++ '.' :: '.' :: after ↔
      ∃ start middle rest, cs = start ++ '.' :: (middle ++ '.' :: rest) ∧
        start.filter (!isDropped ·) = before ∧ (∀ c ∈ middle, isDropped c = true) ∧
        rest.filter (!isDropped ·) = after := by
  constructor
  · intro filtered
    obtain ⟨lead, others, rfl, isBefore, points⟩ := List.filter_eq_append_iff.mp filtered
    obtain ⟨gap, tail, rfl, dropped, -, second⟩ := List.filter_eq_cons_iff.mp points
    obtain ⟨middle, rest, rfl, dropped', -, isAfter⟩ := List.filter_eq_cons_iff.mp second
    refine ⟨lead ++ gap, middle, rest, by rw [List.append_assoc], ?_, ?_, isAfter⟩
    · rw [List.filter_append, isBefore, List.filter_eq_nil_iff.mpr dropped, List.append_nil]
    · exact fun c member => by simpa using dropped' c member
  · rintro ⟨start, middle, rest, rfl, rfl, dropped, rfl⟩
    have point : (!isDropped '.') = true := by rw [not_isDropped_point]; rfl
    have gap : middle.filter (!isDropped ·) = [] :=
      List.filter_eq_nil_iff.mpr fun c member => by simp [dropped c member]
    rw [List.filter_append, List.filter_cons, if_pos point, List.filter_append, gap,
      List.nil_append, List.filter_cons, if_pos point]

/-! ### Cleaned names -/

/-- **A cleaned name has a pair of points just if points meet.** -/
theorem hasPointPair_iff (clean : cleanSheetName declared = some name) :
    HasPointPair name ↔ PointsMeet declared := by
  obtain ⟨-, isCut⟩ := of_clean clean
  constructor
  · rintro ⟨before, after, pair⟩
    -- The pair is in the remaining name, and behind white space in what it is stripped of.
    have short : before.length + 2 ≤ maxSheetNameLength := by
      have cut := List.length_take_le maxSheetNameLength (remainingName declared)
      rw [← isCut, ← pair, List.length_append, List.length_append, List.length_cons] at cut
      simp only [List.length_cons, List.length_nil] at cut
      omega
    obtain ⟨tail, stripped⟩ := List.rdropWhile_prefix isBlank
      (l := ((dropPointPairs (strip declared)).filter (!isDropped ·)).dropWhile isBlank)
    have whole : (dropPointPairs (strip declared)).filter (!isDropped ·) =
        (((dropPointPairs (strip declared)).filter (!isDropped ·)).takeWhile isBlank ++ before) ++
          '.' :: '.' :: (after ++ (remainingName declared).drop maxSheetNameLength ++ tail) := by
      have remains : remainingName declared =
          name ++ (remainingName declared).drop maxSheetNameLength := by
        rw [isCut, List.take_append_drop]
      conv_lhs => rw [← List.takeWhile_append_dropWhile (p := isBlank) (l := List.filter _ _)]
      rw [← stripped, ← strip_eq_rdropWhile]
      conv_lhs => rw [← remainingName, remains, ← pair]
      simp
    obtain ⟨start, middle, rest, pairless, lead, dropped, -⟩ :=
      filter_eq_append_points_iff.mp whole
    refine ⟨start, middle, rest, pairless, dropped, ?_⟩
    rw [lead, List.dropWhile_append_of_pos fun c member => List.mem_takeWhile_imp member]
    exact le_trans (Nat.add_le_add_right (List.length_dropWhile_le _ _) 2) short
  · rintro ⟨before, middle, after, pairless, dropped, inFront⟩
    have filtered := filter_eq_append_points_iff.mpr
      ⟨before, middle, after, pairless, rfl, dropped, rfl⟩
    have plain : isBlank '.' = false := by decide
    have remains : remainingName declared =
        ((before.filter (!isDropped ·)).dropWhile isBlank ++ ['.', '.']) ++
          (after.filter (!isDropped ·)).rdropWhile isBlank := by
      rw [remainingName, filtered, List.append_cons, strip_append_cons plain,
        dropWhile_append_cons plain]
      simp
    rw [isCut, remains, List.take_append, List.take_of_length_le (by simpa using inFront)]
    exact ⟨_, _, rfl⟩

/-- **A cleaned name ends with white space just if the cut is behind some.** -/
theorem endsBlank_iff (clean : cleanSheetName declared = some name) :
    EndsBlank name ↔ CutBehindBlank declared := by
  obtain ⟨-, isCut⟩ := of_clean clean
  have last : name.getLast? =
      (remainingName declared)[maxSheetNameLength - 1]?.or (remainingName declared).getLast? := by
    rw [isCut, List.getLast?_take, if_neg (by decide)]
  constructor
  · rintro ⟨c, isLast, blank⟩
    rw [last] at isLast
    rcases Option.or_eq_some_iff.mp isLast with atCut | ⟨-, atEnd⟩
    · exact ⟨c, atCut, blank⟩
    · exact absurd ⟨c, atEnd, blank⟩ (not_endsBlank_strip _)
  · rintro ⟨c, atCut, blank⟩
    exact ⟨c, by rw [last, atCut, Option.some_or], blank⟩

/-- A cleaned name begins with no white space. -/
theorem not_startsBlank_of_clean (clean : cleanSheetName declared = some name) :
    ¬ StartsBlank name := by
  obtain ⟨-, isCut⟩ := of_clean clean
  rintro ⟨c, first, blank⟩
  rw [isCut, List.head?_take, if_neg (by decide)] at first
  exact not_startsBlank_strip _ ⟨c, first, blank⟩

/-- **The names that cleaning leaves as they are.** -/
theorem cleanSheetName_eq_self_iff :
    cleanSheetName name = some name ↔
      (LegalSheetName name ∧ name.length ≤ maxSheetNameLength) ∧
        ¬ HasPointPair name ∧ ¬ StartsBlank name ∧ ¬ EndsBlank name := by
  constructor
  · intro clean
    obtain ⟨-, isCut⟩ := of_clean clean
    -- Each step leaves part of what there was, and in the end all of it is left.
    have filtered : ((dropPointPairs (strip name)).filter (!isDropped ·)).Sublist
      (dropPointPairs (strip name)) := List.filter_sublist
    have fromPairless : name.Sublist (dropPointPairs (strip name)) := by
      have cut := List.take_sublist maxSheetNameLength (remainingName name)
      rw [← isCut] at cut
      exact (cut.trans (trimBy_sublist isBlank _)).trans filtered
    have pairless : dropPointPairs (strip name) = name :=
      ((dropPointPairs_sublist _).trans (trimBy_sublist isBlank name)).antisymm fromPairless
    have stripped : strip name = name :=
      (trimBy_sublist isBlank name).antisymm (fromPairless.trans (dropPointPairs_sublist _))
    refine ⟨of_cleanSheetName clean, ?_, not_startsBlank_of_clean clean, ?_⟩
    · rw [← pairless]
      exact not_hasPointPair_dropPointPairs _
    · rw [← stripped]
      exact not_endsBlank_strip _
  · rintro ⟨⟨legal, short⟩, noPair, start, ends⟩
    have kept : name.filter (!isDropped ·) = name := by
      refine List.filter_eq_self.mpr fun c member => ?_
      simp [isDropped, legal.legal c member, legal.noControl c member]
    have remains : remainingName name = name := by
      rw [remainingName, strip_eq_self start ends, dropPointPairs_eq_self noPair, kept,
        strip_eq_self start ends]
    rw [cleanSheetName_eq, remains, if_neg (by simp [legal.ne_nil]), List.take_of_length_le short]

/-- **What is settled about a cleaned name**, and what is not: it is never empty or too long, and it
has no character that it may not have and no white space in front. It has a pair of points just if
points meet, and white space at its end just if the cut is behind some; unless one of these happens,
cleaning it again leaves it as it is. -/
theorem cleanSheetName_settled (clean : cleanSheetName declared = some name) :
    (LegalSheetName name ∧ name.length ≤ maxSheetNameLength) ∧ ¬ StartsBlank name ∧
      (HasPointPair name ↔ PointsMeet declared) ∧ (EndsBlank name ↔ CutBehindBlank declared) ∧
      (cleanSheetName name = some name ↔ ¬ PointsMeet declared ∧ ¬ CutBehindBlank declared) := by
  have start := not_startsBlank_of_clean clean
  refine ⟨of_cleanSheetName clean, start, hasPointPair_iff clean, endsBlank_iff clean, ?_⟩
  rw [cleanSheetName_eq_self_iff, hasPointPair_iff clean, endsBlank_iff clean]
  exact ⟨fun settled => ⟨settled.2.1, settled.2.2.2⟩,
    fun neither => ⟨of_cleanSheetName clean, neither.1, start, neither.2⟩⟩

end Cleaning

/-- A name of 32 characters, the last but one of them a space. -/
def spacedName : List Char := List.replicate 30 'x' ++ [' ', 'x']

/-- The cut leaves the space at the end, which cleaning once more takes away. -/
theorem cleanSheetName_settled_sample :
    ∃ name, cleanSheetName spacedName = some name ∧ ¬ PointsMeet spacedName ∧
      CutBehindBlank spacedName ∧ EndsBlank name ∧ cleanSheetName name ≠ some name := by
  have clean : cleanSheetName spacedName = some (List.replicate 30 'x' ++ [' ']) := by
    decide +kernel
  obtain ⟨-, -, meet, cut, settled⟩ := cleanSheetName_settled clean
  have noPair : ¬ HasPointPair (List.replicate 30 'x' ++ [' ']) := fun pair =>
    absurd (pair.subset List.mem_cons_self) (by decide)
  have blank : EndsBlank (List.replicate 30 'x' ++ [' ']) := ⟨' ', by decide, by decide⟩
  exact ⟨_, clean, mt meet.mpr noPair, cut.mp blank, blank,
    fun fixed => (settled.mp fixed).2 (cut.mp blank)⟩

/-- **Points meet where a character between them is dropped**: the cleaned name has a pair of
points, and cleaning it once more gives another name. -/
theorem cleaned_hasPointPair :
    cleanSheetName "a.:.b".toList = some "a..b".toList ∧ HasPointPair "a..b".toList ∧
      cleanSheetName "a..b".toList = some "ab".toList := by
  refine ⟨by decide +kernel, ⟨['a'], ['b'], ?_⟩, by decide +kernel⟩
  decide

end SheetExport
