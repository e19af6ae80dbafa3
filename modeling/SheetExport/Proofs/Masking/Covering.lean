/-
**What a mask covers, character by character.**

Where a strategy does not recognise the form of a text (`Disclosure.of?` has no pieces), the masked
text is the text itself with mask characters in place of some of its characters. The strategies keep
so many characters at the front and so many at the end (`Margins`), and go by few things in doing so:

* `Masking.Measure` — the length of a text, and for two strategies one thing more;
* `Masking.margins`, `Masking.keeps` — the positions that are kept are a function of the measure;
* `Masking.measure_congr` — what texts must have in common for their measures to be equal;
* `Masking.mask_eq_cover` — every text of no recognised form is covered at the other positions;
* `Masking.maskText_covers` — so lengths stay, every position shows its character or the mask, and
  where the measure is the length alone, masking twice is masking once.
-/

import SheetExport.Proofs.Masking.Disclosure

namespace SheetExport.Masking

variable {m : Masking} {cs : List Char} {left right : Nat}

/-! ### Covered texts -/

/-- A text with masks in place of the characters that are not kept. -/
def cover (keeps : Nat → Bool) (cs : List Char) : List Char :=
  cs.mapIdx fun i c => if keeps i then c else '*'

@[simp]
theorem length_cover (keeps : Nat → Bool) (cs : List Char) :
    (cover keeps cs).length = cs.length :=
  List.length_mapIdx

theorem getElem?_cover (keeps : Nat → Bool) (cs : List Char) (i : Nat) :
    (cover keeps cs)[i]? = cs[i]?.map fun c => if keeps i then c else '*' :=
  List.getElem?_mapIdx

/-- What is covered stays covered. -/
theorem cover_cover (keeps : Nat → Bool) (cs : List Char) :
    cover keeps (cover keeps cs) = cover keeps cs := by
  rw [cover, cover, List.mapIdx_mapIdx, List.mapIdx_eq_mapIdx_iff]
  intro i inside
  rw [Function.comp_apply]
  split <;> rfl

/-! ### Margins -/

/-- How many characters are kept at the front of a text and at its end. -/
structure Margins where
  left : Nat
  right : Nat
deriving Repr, DecidableEq

/-- The position is in one of the margins of a text of a length. -/
def Margins.keeps (margins : Margins) (length i : Nat) : Bool :=
  i < margins.left || length ≤ i + margins.right

/-- A text whose margins meet is kept as it is. -/
theorem cover_of_le (meet : cs.length ≤ left + right) :
    cover (Margins.keeps ⟨left, right⟩ cs.length) cs = cs := by
  refine List.ext_getElem? fun i => ?_
  rw [getElem?_cover]
  cases found : cs[i]? with
  | none => rfl
  | some c =>
    have kept : Margins.keeps ⟨left, right⟩ cs.length i = true := by
      simp only [Margins.keeps, Bool.or_eq_true, decide_eq_true_eq]
      omega
    rw [Option.map_some, if_pos kept]

/-- Between margins that do not meet there are only masks. -/
theorem cover_of_margins (apart : left + right ≤ cs.length) :
    cover (Margins.keeps ⟨left, right⟩ cs.length) cs =
      cs.take left ++ stars (cs.length - left - right) ++ cs.drop (cs.length - right) := by
  refine List.ext_getElem? fun i => ?_
  rw [getElem?_cover, List.append_assoc, List.getElem?_append, List.getElem?_append, stars,
    List.length_take, List.length_replicate, min_eq_left (by omega), List.getElem?_take,
    List.getElem?_replicate, List.getElem?_drop]
  simp only [Margins.keeps, Bool.or_eq_true, decide_eq_true_eq]
  by_cases front : i < left
  · rw [if_pos front, if_pos front]
    simp only [front, true_or, if_true, Option.map_id']
  · rw [if_neg front]
    by_cases middle : i - left < cs.length - left - right
    · have inside : i < cs.length := by omega
      have covered : ¬ (i < left ∨ cs.length ≤ i + right) := by omega
      rw [if_pos middle, if_pos middle, List.getElem?_eq_getElem inside]
      simp only [covered, if_false, Option.map_some]
    · have place : cs.length - right + (i - left - (cs.length - left - right)) = i := by omega
      have kept : i < left ∨ cs.length ≤ i + right := by omega
      rw [if_neg middle, place]
      simp only [kept, if_true, Option.map_id']

/-! ### Covering the middle, the front or the end -/

theorem repeated_maskChar (count : Int) : Text.repeated count maskChar = stars count.toNat := by
  rw [Text.repeated, stars, maskChar, List.flatten_replicate_singleton]

/-- **Covering the middle** keeps both margins. -/
theorem maskMiddle_eq_cover (left right : Nat) (cs : List Char) :
    maskMiddle left right maskChar cs = cover (Margins.keeps ⟨left, right⟩ cs.length) cs := by
  rw [maskMiddle]
  split
  · rename_i short
    refine (cover_of_le ?_).symm
    rcases short with empty | short
    · rw [List.isEmpty_iff.mp empty]
      exact Nat.zero_le _
    · exact_mod_cast short
  · rename_i long
    have apart : left + right < cs.length := by
      have more := (not_or.mp long).2
      omega
    have count : ((cs.length : Int) - left - right).toNat = cs.length - left - right := by omega
    have place : ((cs.length : Int) - right).toNat = cs.length - right := by omega
    rw [cover_of_margins apart.le, Text.before, Text.fromOn, repeated_maskChar, count,
      if_neg (by omega), if_neg (by omega), Int.toNat_natCast, place]

/-- Covering the end is covering the middle without a margin at the end. -/
theorem maskRight_eq_cover (visible : Nat) (cs : List Char) :
    maskRight visible maskChar cs = cover (Margins.keeps ⟨visible, 0⟩ cs.length) cs := by
  have none : Text.fromOn (cs.length - (0 : Nat)) cs = [] := by
    simp [Text.fromOn, Int.not_lt.mpr (Int.natCast_nonneg cs.length)]
  rw [← maskMiddle_eq_cover, maskMiddle, maskRight, none, List.append_nil, Int.natCast_zero,
    Int.add_zero, Int.sub_zero]

/-- Covering the front is covering the middle without a margin at the front. -/
theorem maskLeft_eq_cover (visible : Nat) (cs : List Char) :
    maskLeft visible maskChar cs = cover (Margins.keeps ⟨0, visible⟩ cs.length) cs := by
  have none : Text.before (0 : Nat) cs = [] := rfl
  rw [← maskMiddle_eq_cover, maskMiddle, maskLeft, none, List.nil_append, Int.natCast_zero,
    Int.zero_add, Int.sub_zero]

/-- So many characters and then masks. -/
theorem take_append_stars (count : Nat) (cs : List Char) :
    cs.take count ++ stars (cs.length - count) =
      cover (Margins.keeps ⟨count, 0⟩ cs.length) cs := by
  by_cases apart : count ≤ cs.length
  · rw [cover_of_margins apart, Nat.sub_zero, Nat.sub_zero, List.drop_length, List.append_nil]
  · have short : cs.length ≤ count := by omega
    rw [cover_of_le short, List.take_of_length_le short, Nat.sub_eq_zero_of_le short, stars,
      List.replicate_zero, List.append_nil]

/-! ### What strategies go by -/

/-- What a strategy goes by when it chooses the positions to keep. -/
structure Measure where
  length : Nat
  /-- There are at least ten digits, as far as the strategy counts them. -/
  manyDigits : Bool
  /-- The position of the first dash, as far as the strategy looks for one. -/
  dash : Option Nat
deriving Repr, DecidableEq

/-- The measure of a text: its length, for identity cards also whether there are many digits, and for
social security numbers where the first dash is. -/
def measure (m : Masking) (cs : List Char) : Measure where
  length := cs.length
  manyDigits := m = .idCard && 10 ≤ (digitsOf cs).length
  dash := if m = .ssn then cs.idxOf? '-' else Option.none

/-- Texts of one length have one measure, unless the strategy counts their digits or looks for the
first dash and these differ. -/
theorem measure_congr {ds : List Char} (sameLength : ds.length = cs.length)
    (sameDigits : m = .idCard → (10 ≤ (digitsOf ds).length ↔ 10 ≤ (digitsOf cs).length))
    (sameDash : m = .ssn → ds.idxOf? '-' = cs.idxOf? '-') : m.measure ds = m.measure cs := by
  unfold measure
  congr 1
  · by_cases card : m = .idCard
    · rw [decide_eq_decide.mpr (sameDigits card)]
    · rw [decide_eq_false card, Bool.false_and, Bool.false_and]
  · by_cases number : m = .ssn
    · rw [if_pos number, if_pos number, sameDash number]
    · rw [if_neg number, if_neg number]

/-- The margins that a strategy leaves to a text of no form that it recognises. -/
def margins (m : Masking) (size : Measure) : Margins :=
  match m with
  | .phone => ⟨3, 4⟩
  | .ssn =>
    match size.dash with
    | some (before + 1) => ⟨before + 2, 0⟩
    | _ => ⟨6, 0⟩
  | .name => ⟨1, if size.length ≤ 2 then 0 else 1⟩
  | .creditCard | .partialRight => ⟨4, 0⟩
  | .accountNumber => ⟨4, 3⟩
  | .address => ⟨0, 0⟩
  | .zipCode => ⟨3, 0⟩
  | .idCard => ⟨if size.manyDigits then size.length / 3 else 6, 0⟩
  | .passport => if size.length ≤ 6 then ⟨2, 0⟩ else ⟨3, 3⟩
  | .licensePlate => if size.length ≤ 4 then ⟨4, 0⟩ else ⟨size.length - 4, 2⟩
  | .partialLeft => ⟨0, 4⟩
  | .middle => ⟨2, 2⟩
  | .none | .email | .ipAddress => ⟨size.length, 0⟩

/-- The strategy keeps the position in texts of the measure. -/
def keeps (m : Masking) (size : Measure) : Nat → Bool := (m.margins size).keeps size.length

/-- A text is covered as the strategy says if it is covered between the strategy's margins. -/
theorem eq_cover_keeps {masked : List Char}
    (covered : masked = cover (Margins.keeps ⟨left, right⟩ cs.length) cs)
    (margins : m.margins (m.measure cs) = ⟨left, right⟩) :
    masked = cover (m.keeps (m.measure cs)) cs := by
  rw [keeps, margins]
  exact covered

/-! ### Strategy by strategy -/

theorem maskName_eq_cover (cs : List Char) :
    maskName cs = cover (keeps .name (measure .name cs)) cs := by
  match cs with
  | [] => rfl
  | [only] => rfl
  | [first, second] => rfl
  | first :: second :: third :: rest =>
    have long : ¬ ((first :: second :: third :: rest).length ≤ 2) := by
      simp only [List.length_cons]
      omega
    have edges : margins .name (measure .name (first :: second :: third :: rest)) = ⟨1, 1⟩ :=
      congrArg (Margins.mk 1) (if_neg long)
    refine eq_cover_keeps ?_ edges
    rw [cover_of_margins (by omega)]
    rfl

/-- The position of the first dash is the number of characters before it. -/
theorem idxOf?_dash (cs : List Char) :
    cs.idxOf? '-' =
      if (cs.takeWhile (· ≠ '-')).length < cs.length then
        some (cs.takeWhile (· ≠ '-')).length
      else Option.none := by
  have lead : (cs.takeWhile (· ≠ '-')).length = cs.findIdx (· == '-') := by
    have same : (fun c : Char => !decide (c ≠ '-')) = (· == '-') := by
      funext c
      simp [beq_eq_decide]
    rw [List.takeWhile_eq_take_findIdx_not, same, List.length_take,
      min_eq_left List.findIdx_le_length]
  rw [lead, List.idxOf?, List.findIdx?_eq_guard_findIdx_lt, Option.guard]
  simp only [decide_eq_true_eq]

theorem maskSsn_eq_cover (unrecognised : Disclosure.of? .ssn cs = Option.none) :
    maskSsn cs = cover (keeps .ssn (measure .ssn cs)) cs := by
  have other : (digitsOf cs).length ≠ 13 := by
    intro known
    cases (if_pos known).symm.trans unrecognised
  have dash : (measure .ssn cs).dash = _ := idxOf?_dash cs
  rw [maskSsn, if_neg other]
  generalize (cs.takeWhile (· ≠ '-')).length = lead at dash
  by_cases inside : lead < cs.length
  · rw [if_pos inside] at dash
    cases lead with
    | zero => exact eq_cover_keeps (maskRight_eq_cover 6 cs) (by rw [margins, dash])
    | succ before =>
      rw [if_pos ⟨Nat.succ_pos before, inside⟩, Nat.sub_sub]
      exact eq_cover_keeps (take_append_stars (before + 2) cs) (by rw [margins, dash])
  · rw [if_neg inside] at dash
    rw [if_neg fun both => inside both.2]
    exact eq_cover_keeps (maskRight_eq_cover 6 cs) (by rw [margins, dash])

theorem maskPassport_eq_cover (cs : List Char) :
    maskPassport cs = cover (keeps .passport (measure .passport cs)) cs := by
  rw [maskPassport]
  by_cases short : cs.length ≤ 6
  · rw [if_pos short]
    exact eq_cover_keeps (maskMiddle_eq_cover 2 0 cs) (if_pos short)
  · rw [if_neg short]
    exact eq_cover_keeps (maskMiddle_eq_cover 3 3 cs) (if_neg short)

theorem maskLicensePlate_eq_cover (cs : List Char) :
    maskLicensePlate cs = cover (keeps .licensePlate (measure .licensePlate cs)) cs := by
  rw [maskLicensePlate]
  by_cases short : cs.length ≤ 4
  · rw [if_pos short]
    exact eq_cover_keeps (cover_of_le short).symm (if_pos short)
  · have front : (cs.length : Int) - 4 = (cs.length - 4 : Nat) := by omega
    rw [if_neg short, front]
    exact eq_cover_keeps (maskMiddle_eq_cover (cs.length - 4) 2 cs) (if_neg short)

theorem maskIdCard_eq_cover (cs : List Char) :
    maskIdCard cs = cover (keeps .idCard (measure .idCard cs)) cs := by
  refine eq_cover_keeps (maskRight_eq_cover _ cs) ?_
  simp [measure, margins]

theorem maskPhone_eq_cover (unrecognised : Disclosure.of? .phone cs = Option.none) :
    maskPhone cs = cover (keeps .phone (measure .phone cs)) cs := by
  have other : Disclosure.phoneLead? (digitsOf cs).length = Option.none :=
    Option.map_eq_none_iff.mp unrecognised
  rw [maskPhone]
  split <;> rename_i count
  · rw [count] at other
    cases other
  · rw [count] at other
    cases other
  · rw [count] at other
    cases other
  · exact eq_cover_keeps (maskMiddle_eq_cover 3 4 cs) rfl

theorem maskCreditCard_eq_cover (unrecognised : Disclosure.of? .creditCard cs = Option.none) :
    maskCreditCard cs = cover (keeps .creditCard (measure .creditCard cs)) cs := by
  have other : (digitsOf cs).length ≠ 16 := by
    intro known
    cases (if_pos known).symm.trans unrecognised
  rw [maskCreditCard, if_neg other]
  exact eq_cover_keeps (maskRight_eq_cover 4 cs) rfl

theorem maskZipCode_eq_cover (unrecognised : Disclosure.of? .zipCode cs = Option.none) :
    maskZipCode cs = cover (keeps .zipCode (measure .zipCode cs)) cs := by
  have other : ¬ ((digitsOf cs).length = 5 ∨ (digitsOf cs).length = 6) := by
    intro known
    cases (if_pos known).symm.trans unrecognised
  rw [maskZipCode]
  split <;> rename_i count
  · exact absurd (Or.inl count) other
  · exact absurd (Or.inr count) other
  · exact eq_cover_keeps (take_append_stars 3 cs) rfl

theorem maskAccountNumber_eq_cover (unrecognised : Disclosure.of? .accountNumber cs = Option.none) :
    maskAccountNumber cs = cover (keeps .accountNumber (measure .accountNumber cs)) cs := by
  rw [maskAccountNumber]
  split
  · rename_i parts
    rw [Disclosure.of?, parts] at unrecognised
    cases unrecognised
  · exact eq_cover_keeps (maskMiddle_eq_cover 4 3 cs) rfl

theorem maskAddress_eq_cover (unrecognised : Disclosure.of? .address cs = Option.none) :
    maskAddress cs = cover (keeps .address (measure .address cs)) cs := by
  rw [maskAddress]
  split
  · rename_i parts
    rw [Disclosure.of?, parts] at unrecognised
    cases unrecognised
  · rename_i parts
    rw [Disclosure.of?, parts] at unrecognised
    cases unrecognised
  · exact eq_cover_keeps (maskRight_eq_cover 0 cs) rfl

theorem maskEmail_eq_self (unrecognised : Disclosure.of? .email cs = Option.none) :
    maskEmail cs = cs := by
  cases cs with
  | nil => rfl
  | cons first rest =>
    have absent : '@' ∉ rest := by
      intro later
      cases (if_pos later).symm.trans unrecognised
    by_cases leads : first = '@'
    · rw [leads]
      rfl
    · have noDomain : (first :: rest).dropWhile (· ≠ '@') = [] := by
        refine List.dropWhile_eq_nil_iff.mpr fun c member => decide_eq_true ?_
        rintro rfl
        rcases List.mem_cons.mp member with same | later
        · exact leads same.symm
        · exact absent later
      unfold maskEmail
      rw [noDomain]

theorem maskIpAddress_eq_self (unrecognised : Disclosure.of? .ipAddress cs = Option.none) :
    maskIpAddress cs = cs := by
  rw [maskIpAddress]
  by_cases pointed : '.' ∈ cs
  · rw [if_pos (List.contains_iff_mem.mpr pointed)]
    split
    · rename_i parts
      rw [Disclosure.of?, parts] at unrecognised
      cases unrecognised
    · rfl
  · rw [if_neg (mt List.contains_iff_mem.mp pointed)]
    split
    · rename_i parts
      rw [Disclosure.of?, parts, if_neg pointed] at unrecognised
      split at unrecognised <;> cases unrecognised
    · rfl

/-! ### All strategies -/

/-- **A text of no recognised form is covered** at the positions that the strategy does not keep in
texts of its measure. -/
theorem mask_eq_cover (unrecognised : Disclosure.of? m cs = Option.none) :
    m.mask cs = cover (m.keeps (m.measure cs)) cs := by
  have whole : cs = cover (Margins.keeps ⟨cs.length, 0⟩ cs.length) cs :=
    (cover_of_le (Nat.le_refl _)).symm
  cases cs with
  | nil => cases m <;> rfl
  | cons c cs =>
    cases m with
    | none => exact eq_cover_keeps whole rfl
    | phone => exact maskPhone_eq_cover unrecognised
    | email => exact eq_cover_keeps ((maskEmail_eq_self unrecognised).trans whole) rfl
    | ssn => exact maskSsn_eq_cover unrecognised
    | name => exact maskName_eq_cover _
    | creditCard => exact maskCreditCard_eq_cover unrecognised
    | accountNumber => exact maskAccountNumber_eq_cover unrecognised
    | address => exact maskAddress_eq_cover unrecognised
    | zipCode => exact maskZipCode_eq_cover unrecognised
    | ipAddress => exact eq_cover_keeps ((maskIpAddress_eq_self unrecognised).trans whole) rfl
    | idCard => exact maskIdCard_eq_cover _
    | passport => exact maskPassport_eq_cover _
    | licensePlate => exact maskLicensePlate_eq_cover _
    | partialLeft => exact eq_cover_keeps (maskLeft_eq_cover 4 _) rfl
    | partialRight => exact eq_cover_keeps (maskRight_eq_cover 4 _) rfl
    | middle => exact eq_cover_keeps (maskMiddle_eq_cover 2 2 _) rfl

/-- The strategies that recognise no form. -/
def formless : List Masking :=
  [.name, .idCard, .passport, .licensePlate, .partialLeft, .partialRight, .middle]

theorem of?_of_formless (inList : m ∈ formless) (cs : List Char) :
    Disclosure.of? m cs = Option.none := by
  cases m <;> first | rfl | exact absurd inList (by decide)

/-- Where the measure is the length alone, a masked text has that of the original. -/
theorem measure_mask (notCard : m ≠ .idCard) (notSsn : m ≠ .ssn)
    (unrecognised : Disclosure.of? m cs = Option.none) :
    m.measure (m.mask cs) = m.measure cs := by
  rw [mask_eq_cover unrecognised, measure, measure, length_cover]
  simp only [notCard, notSsn, decide_false, Bool.false_and, if_false]

/-- **Masking twice is masking once** for the strategies that go by the length alone. -/
theorem mask_mask (inList : m ∈ formless) (notCard : m ≠ .idCard) (cs : List Char) :
    m.mask (m.mask cs) = m.mask cs := by
  have notSsn : m ≠ .ssn := by
    rintro rfl
    exact absurd inList (by decide)
  have always := of?_of_formless inList
  rw [mask_eq_cover (always _), measure_mask notCard notSsn (always cs), mask_eq_cover (always cs),
    cover_cover]

/-- **What is masked without regard to a form is covered character by character**: the text keeps its
length, and every position shows its own character or the mask. Which positions are kept depends on
the length alone; for identity cards also on whether there are ten digits, and for social security
numbers on where the first dash is. Masking such a text once more changes nothing, unless the
strategy goes by the digits that it has covered. -/
theorem maskText_covers {m : Masking} {s : String}
    (charwise : m ∈ formless ∨ Disclosure.of? m s.toList = Option.none) :
    (m.maskText s).length = s.length ∧
    (∀ i c, s.toList[i]? = some c →
      (m.maskText s).toList[i]? = some (if m.keeps (m.measure s.toList) i then c else '*')) ∧
    (∀ t : String, t.length = s.length →
      (m = .idCard → (10 ≤ (digitsOf t.toList).length ↔ 10 ≤ (digitsOf s.toList).length)) →
      (m = .ssn → t.toList.idxOf? '-' = s.toList.idxOf? '-') →
      m.keeps (m.measure t.toList) = m.keeps (m.measure s.toList)) ∧
    (m ∈ formless → m ≠ .idCard → m.maskText (m.maskText s) = m.maskText s) := by
  have unrecognised : Disclosure.of? m s.toList = Option.none :=
    charwise.elim (of?_of_formless · s.toList) id
  have covered := mask_eq_cover unrecognised
  refine ⟨?_, fun i c found => ?_, fun t sameLength sameDigits sameDash => ?_,
    fun inList notCard => ?_⟩
  · rw [maskText, String.length_ofList, covered, length_cover, String.length_toList]
  · rw [maskText, String.toList_ofList, covered, getElem?_cover, found, Option.map_some]
  · rw [measure_congr (by rwa [String.length_toList, String.length_toList]) sameDigits sameDash]
  · rw [maskText, maskText, String.toList_ofList, mask_mask inList notCard]

/-- A number with a dash but without thirteen digits, and the number of a passport. -/
theorem maskText_covers_sample :
    (Masking.ssn.maskText "12-34567").length = 8 ∧
    (Masking.ssn.maskText "12-34567").toList[2]? = some '-' ∧
    (Masking.ssn.maskText "12-34567").toList[3]? = some '*' ∧
    Masking.ssn.keeps (Masking.ssn.measure "98-76543".toList) =
      Masking.ssn.keeps (Masking.ssn.measure "12-34567".toList) ∧
    Masking.passport.maskText (Masking.passport.maskText "M1234567") =
      Masking.passport.maskText "M1234567" := by
  have number := maskText_covers (m := .ssn) (s := "12-34567") (Or.inr (by decide +kernel))
  have passport := maskText_covers (m := .passport) (s := "M1234567") (Or.inl (by decide))
  refine ⟨number.1, ?_, ?_, ?_, passport.2.2.2 (by decide) (by decide)⟩
  · rw [number.2.1 2 '-' (by decide +kernel)]
    decide +kernel
  · rw [number.2.1 3 '3' (by decide +kernel)]
    decide +kernel
  · exact number.2.2.1 "98-76543" (by decide) nofun fun _ => by decide +kernel

/-- Masked once, an identity card may have fewer than ten digits left. -/
example : Masking.idCard.maskText "123456789012345678901234" = "12345678****************" ∧
    Masking.idCard.maskText "12345678****************" = "123456******************" := by
  decide +kernel

end SheetExport.Masking
