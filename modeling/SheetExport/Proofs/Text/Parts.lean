/-
**The parts of a text.**

* `mem_and_ne_of_mem_parts` — the parts hold the characters of the text except the separators;
* `parts_of_notMem` — a text without separators is one part;
* `splitOn_eq_parts` — splitting a text on a character gives its parts.
-/

import SheetExport.Text.Parts
import Mathlib.Data.String.Basic

namespace SheetExport.Text

open String

variable {separator head c : Char} {part cs : List Char}

/-! ### Characters -/

/-- A part holds characters of the text, and no separator. -/
theorem mem_and_ne_of_mem_parts (isPart : part ∈ parts separator cs) (isChar : c ∈ part) :
    c ∈ cs ∧ c ≠ separator := by
  induction cs generalizing part with
  | nil =>
    rw [parts, List.mem_singleton] at isPart
    exact absurd (isPart ▸ isChar) List.not_mem_nil
  | cons head cs ih =>
    have later {part : List Char} (isPart : part ∈ parts separator cs) (isChar : c ∈ part) :
        c ∈ head :: cs ∧ c ≠ separator :=
      (ih isPart isChar).imp_left (List.mem_cons_of_mem head)
    rw [parts] at isPart
    split at isPart
    · obtain rfl | isPart := List.mem_cons.mp isPart
      · exact absurd isChar List.not_mem_nil
      · exact later isPart isChar
    · rename_i noSeparator
      split at isPart
      · rename_i first rest others
        obtain rfl | isPart := List.mem_cons.mp isPart
        · obtain isHead | isChar := List.mem_cons.mp isChar
          · rw [isHead]
            exact ⟨List.mem_cons_self, noSeparator⟩
          · exact later (others ▸ List.mem_cons_self) isChar
        · exact later (others ▸ List.mem_cons_of_mem first isPart) isChar
      · rw [List.mem_singleton.mp isPart, List.mem_singleton] at isChar
        rw [isChar]
        exact ⟨List.mem_cons_self, noSeparator⟩

/-- A text without separators is one part. -/
theorem parts_of_notMem (absent : separator ∉ cs) : parts separator cs = [cs] := by
  induction cs with
  | nil => rfl
  | cons head cs ih =>
    have other : ¬ head = separator := fun same => absent (same ▸ List.mem_cons_self)
    rw [parts, if_neg other, ih fun isChar => absent (List.mem_cons_of_mem head isChar)]

theorem leadingParts_isPrefix (separator : Char) (cs : List Char) :
    leadingParts separator cs <+: parts separator cs := by
  rw [← List.reverse_suffix, leadingParts, List.reverse_reverse]
  exact List.dropWhile_suffix _

theorem mem_and_ne_of_mem_leadingParts (isPart : part ∈ leadingParts separator cs)
    (isChar : c ∈ part) : c ∈ cs ∧ c ≠ separator :=
  mem_and_ne_of_mem_parts ((leadingParts_isPrefix separator cs).subset isPart) isChar

/-- The parts hold no separator. -/
theorem notMem_of_mem_leadingParts (isPart : part ∈ leadingParts separator cs) : separator ∉ part :=
  fun isChar => (mem_and_ne_of_mem_leadingParts isPart isChar).2 rfl

/-- A text of several parts has a separator. -/
theorem mem_of_one_lt_length_leadingParts (several : 1 < (leadingParts separator cs).length) :
    separator ∈ cs := by
  by_contra absent
  have fewer := (leadingParts_isPrefix separator cs).length_le
  rw [parts_of_notMem absent, List.length_singleton] at fewer
  exact absurd several (Nat.not_lt.mpr fewer)

/-! ### Splitting -/

theorem parts_ne_nil (separator : Char) (cs : List Char) : parts separator cs ≠ [] := by
  cases cs with
  | nil => exact List.cons_ne_nil _ _
  | cons head cs =>
    rw [parts]
    split
    · exact List.cons_ne_nil _ _
    · split <;> exact List.cons_ne_nil _ _

theorem parts_cons_of_ne (other : head ≠ separator) :
    parts separator (head :: cs) = (parts separator cs).modifyHead (head :: ·) := by
  rw [parts, if_neg other]
  cases found : parts separator cs with
  | nil => exact absurd found (parts_ne_nil separator cs)
  | cons first rest => rfl

theorem modifyHead_same (xs : List (List Char)) : xs.modifyHead (fun x => x) = xs := by
  cases xs <;> rfl

/-- Splitting on, with the part that is read so far and those that are complete. -/
theorem splitOnAux_eq (separator : Char) (done front rest : List Char) (found : List String) :
    splitOnAux (ofList (done ++ front ++ rest)) (ofList [separator]) ⟨utf8Len done⟩
      ⟨utf8Len (done ++ front)⟩ 0 found =
    found.reverse ++ ((parts separator rest).modifyHead (front ++ ·)).map ofList := by
  have first : Pos.Raw.get (ofList [separator]) 0 = separator := get_of_valid [] [separator]
  have start (i : Pos.Raw) : i.unoffsetBy 0 = i := by simp [Pos.Raw.unoffsetBy]
  induction rest generalizing done front found with
  | nil =>
    have part := extract_of_valid done front []
    rw [← utf8Len_append] at part
    unfold splitOnAux
    rw [if_pos (by simp [-ofList_append]), part]
    simp [parts]
  | cons head rest ih =>
    have notEnd : ¬ Pos.Raw.atEnd (ofList (done ++ front ++ head :: rest))
        ⟨utf8Len (done ++ front)⟩ = true := by
      have wide := head.utf8Size_pos
      rw [atEnd_iff, rawEndPos_ofList, utf8Len_append (done ++ front), utf8Len_cons,
        Pos.Raw.mk_le_mk]
      omega
    have char : Pos.Raw.get (ofList (done ++ front ++ head :: rest))
        ⟨utf8Len (done ++ front)⟩ = head := get_of_valid (done ++ front) (head :: rest)
    have next : Pos.Raw.next (ofList (done ++ front ++ head :: rest)) ⟨utf8Len (done ++ front)⟩ =
        ⟨utf8Len (done ++ front ++ [head])⟩ := by
      rw [next_of_valid, utf8Len_append (done ++ front)]
      simp
    unfold splitOnAux
    rw [if_neg notEnd, char, first, start, next]
    by_cases same : head = separator
    · subst same
      have step : Pos.Raw.next (ofList [head]) 0 = ⟨head.utf8Size⟩ := by
        simpa using next_of_valid [] head []
      have ends : Pos.Raw.atEnd (ofList [head]) (Pos.Raw.next (ofList [head]) 0) = true := by
        rw [step, atEnd_iff, rawEndPos_ofList]
        simp
      have back : Pos.Raw.unoffsetBy ⟨utf8Len (done ++ front ++ [head])⟩
          (Pos.Raw.next (ofList [head]) 0) = ⟨utf8Len done + utf8Len front⟩ := by
        rw [step]
        simp [Pos.Raw.unoffsetBy, ← Nat.add_assoc]
      have part := extract_of_valid done front (head :: rest)
      have later := ih (done ++ front ++ [head]) [] (ofList front :: found)
      rw [if_pos (beq_self_eq_true head), if_pos ends, back, part]
      simp only [List.append_assoc, List.append_nil, List.cons_append, List.nil_append] at later ⊢
      rw [later, modifyHead_same]
      simp [parts]
    · have later := ih done (front ++ [head]) found
      rw [if_neg (by simpa using same), parts_cons_of_ne same]
      simp only [List.append_assoc, List.cons_append, List.nil_append] at later ⊢
      rw [later, List.modifyHead_modifyHead]
      rfl

/-- **Splitting on a character gives the parts.** -/
theorem splitOn_eq_parts (separator : Char) (s : String) :
    s.splitOn (ofList [separator]) = (parts separator s.toList).map ofList := by
  have whole := splitOnAux_eq separator [] [] s.toList []
  have notEmpty : ¬ (ofList [separator] == "") = true := by
    rw [beq_iff_eq, ← String.toList_inj]
    simp
  unfold String.splitOn
  rw [if_neg notEmpty]
  simp only [List.append_nil, List.nil_append, String.ofList_toList, List.reverse_nil] at whole
  rw [modifyHead_same] at whole
  exact whole

end SheetExport.Text
