/-
**What masked texts let one see of the originals.**

Where a masking strategy recognises the form of a text — a number of digits, an address, parts
between separators — the masked text has a fixed shape around a few pieces of the original.

* `Disclosure` — these pieces, by the form; `Disclosure.of? m cs` finds them in a text, and has none
  where the strategy covers characters one by one;
* `Disclosure.shows_of_of?` — the masked text is `Disclosure.render` of the pieces, so it depends on
  nothing else;
* `Disclosure.render_inj` — the pieces can be read off the masked text again, as those of digits have
  a fixed length and what stands before a separator holds none (`Disclosure.Formed`);
* `Disclosure.maskValue_eq_iff` — so two values of recognised forms have one masked value just when
  their pieces are the same.
-/

import SheetExport.Masking
import SheetExport.Proofs.Text.Parts
import Mathlib.Data.List.DropRight

namespace SheetExport

/-! ### Pieces -/

/-- The pieces of a text that its masked form shows. -/
inductive Disclosure
  /-- The number of digits, the first ones and the last ones. -/
  | phone (count : Nat) (lead tail : List Char)
  /-- The last digits, and whether there are dashes. -/
  | creditCard (tail : List Char) (dashed : Bool)
  /-- The first digits, and whether there are dashes. -/
  | ssn (lead : List Char) (dashed : Bool)
  /-- The number of digits and the first ones. -/
  | zipCode (count : Nat) (lead : List Char)
  /-- The first character, and everything from the first `@` on. -/
  | email (first : Char) (domain : List Char)
  /-- The first part, and the length and the last characters of the last one. -/
  | accountNumber (first : List Char) (length : Nat) (tail : List Char)
  /-- The first two of several parts. -/
  | address (first second : List Char)
  /-- The first of two parts. -/
  | shortAddress (first : List Char)
  /-- The first two of four parts between points. -/
  | dotted (first second : List Char)
  /-- The first two parts between colons. -/
  | colons (first second : List Char)
deriving Repr, DecidableEq

namespace Disclosure

open Masking

/-- How many of so many digits stand first in a telephone number. -/
def phoneLead? : Nat → Option Nat
  | 9 | 10 => some 2
  | 11 => some 3
  | _ => none

/-- What the masked form of a text shows, if the strategy recognises the text. -/
def of? (m : Masking) (cs : List Char) : Option Disclosure :=
  let digits := digitsOf cs
  match m with
  | .phone =>
    (phoneLead? digits.length).map fun lead =>
      .phone digits.length (digits.take lead) (digits.rtake 4)
  | .creditCard =>
    if digits.length = 16 then some (.creditCard (digits.rtake 4) (decide ('-' ∈ cs))) else none
  | .ssn =>
    if digits.length = 13 then some (.ssn (digits.take 6) (decide ('-' ∈ cs))) else none
  | .zipCode =>
    if digits.length = 5 ∨ digits.length = 6 then some (.zipCode digits.length (digits.take 3))
    else none
  | .email =>
    match cs with
    | first :: rest =>
      if '@' ∈ rest then some (.email first (cs.dropWhile (· ≠ '@'))) else none
    | [] => none
  | .accountNumber =>
    match Text.leadingParts '-' cs with
    | [first, _, last] => some (.accountNumber first last.length (last.rtake 3))
    | _ => none
  | .address =>
    match Text.leadingParts ' ' cs with
    | first :: second :: _ :: _ => some (.address first second)
    | [first, _] => some (.shortAddress first)
    | _ => none
  | .ipAddress =>
    match Text.leadingParts '.' cs with
    | [first, second, _, _] => some (.dotted first second)
    | _ =>
      if '.' ∈ cs then none
      else
        match Text.leadingParts ':' cs with
        | first :: second :: _ => some (.colons first second)
        | _ => none
  | _ => none

/-- What the masked form of a value shows, if it is a text that the strategy recognises. -/
def ofValue? (m : Masking) : Value → Option Disclosure
  | .text s | .textMember _ s => of? m s.toList
  | _ => none

/-- The masked text around the pieces. -/
def render : Disclosure → List Char
  | phone count lead tail =>
    lead ++ '-' :: stars (count - lead.length - tail.length) ++ '-' :: tail
  | creditCard tail dashed => (if dashed then "****-****-****-".toList else stars 12) ++ tail
  | ssn lead dashed => lead ++ (if dashed then ['-'] else []) ++ stars 7
  | zipCode count lead => lead ++ stars (count - lead.length)
  | email first domain => if first = '@' then domain else first :: stars 3 ++ domain
  | accountNumber first length tail => first ++ "-***-".toList ++ stars (length - 3) ++ tail
  | address first second => first ++ ' ' :: second ++ ' ' :: stars 3
  | shortAddress first => first ++ ' ' :: stars 3
  | dotted first second => first ++ '.' :: second ++ ".*.*".toList
  | colons first second => first ++ ':' :: second ++ (List.replicate 6 ":****".toList).flatten

/-- The pieces are as a text that the strategy recognises has them: digits are of a fixed number, and
what stands before a separator holds none. -/
inductive Formed : Masking → Disclosure → Prop
  | phone {count : Nat} {lead tail : List Char} (known : phoneLead? count = some lead.length)
    (long : tail.length = 4) : Formed .phone (.phone count lead tail)
  | creditCard {tail : List Char} {dashed : Bool} (long : tail.length = 4) :
    Formed .creditCard (.creditCard tail dashed)
  | ssn {lead : List Char} {dashed : Bool} (long : lead.length = 6) : Formed .ssn (.ssn lead dashed)
  | zipCode {count : Nat} {lead : List Char} (many : 3 ≤ count) (long : lead.length = 3) :
    Formed .zipCode (.zipCode count lead)
  | email {first : Char} {domain : List Char} (leads : first = '@' → domain.head? = some '@') :
    Formed .email (.email first domain)
  | accountNumber {first : List Char} {length : Nat} {tail : List Char} (free : '-' ∉ first)
    (long : tail.length = min 3 length) : Formed .accountNumber (.accountNumber first length tail)
  | address {first second : List Char} (free : ' ' ∉ first) : Formed .address (.address first second)
  | shortAddress {first : List Char} (free : ' ' ∉ first) : Formed .address (.shortAddress first)
  | dotted {first second : List Char} (free : '.' ∉ first) : Formed .ipAddress (.dotted first second)
  | colons {first second : List Char} (free : ':' ∉ first) (noPoint : '.' ∉ first)
    (noPoint' : '.' ∉ second) : Formed .ipAddress (.colons first second)

/-! ### Masked texts show their pieces -/

section Shown

variable {m : Masking} {cs : List Char} {d e : Disclosure}

/-- The masked form of the text is that of the pieces. -/
structure Shows (m : Masking) (cs : List Char) (d : Disclosure) : Prop where
  mask : m.mask cs = d.render
  formed : d.Formed m

theorem length_rtake (n : Nat) (xs : List Char) : (xs.rtake n).length = min n xs.length := by
  rw [List.rtake, List.length_drop]
  omega

theorem mask_phone (cs : List Char) : mask .phone cs = maskPhone cs := by cases cs <;> rfl

theorem mask_creditCard (cs : List Char) : mask .creditCard cs = maskCreditCard cs := by
  cases cs <;> rfl

theorem mask_ssn (cs : List Char) : mask .ssn cs = maskSsn cs := by cases cs <;> rfl

theorem mask_zipCode (cs : List Char) : mask .zipCode cs = maskZipCode cs := by cases cs <;> rfl

theorem mask_accountNumber (cs : List Char) : mask .accountNumber cs = maskAccountNumber cs := by
  cases cs <;> rfl

theorem mask_address (cs : List Char) : mask .address cs = maskAddress cs := by cases cs <;> rfl

theorem mask_ipAddress (cs : List Char) : mask .ipAddress cs = maskIpAddress cs := by
  cases cs <;> rfl

theorem shows_phone (shown : of? .phone cs = some d) : Shows .phone cs d := by
  obtain ⟨lead, found, rfl⟩ := Option.map_eq_some_iff.mp shown
  have enough : lead ≤ (digitsOf cs).length ∧ 4 ≤ (digitsOf cs).length := by
    unfold phoneLead? at found
    split at found <;> cases found <;> omega
  refine ⟨?_, .phone ?_ ?_⟩
  · rw [mask_phone, maskPhone, render, length_rtake, List.length_take, List.rtake]
    unfold phoneLead? at found
    split at found <;> cases found <;> rename_i count <;> rw [count] <;> rfl
  · rw [found, List.length_take, min_eq_left enough.1]
  · rw [length_rtake, min_eq_left enough.2]

theorem shows_creditCard (shown : of? .creditCard cs = some d) : Shows .creditCard cs d := by
  obtain ⟨count, shown⟩ := Option.ite_none_right_eq_some.mp shown
  cases shown
  refine ⟨?_, .creditCard ?_⟩
  · rw [mask_creditCard, maskCreditCard, if_pos count, render, List.rtake, count,
      List.contains_eq_mem]
  · rw [length_rtake, count]
    rfl

theorem shows_ssn (shown : of? .ssn cs = some d) : Shows .ssn cs d := by
  obtain ⟨count, shown⟩ := Option.ite_none_right_eq_some.mp shown
  cases shown
  refine ⟨?_, .ssn ?_⟩
  · rw [mask_ssn, maskSsn, if_pos count, render, List.contains_eq_mem]
  · rw [List.length_take, count]
    rfl

theorem shows_zipCode (shown : of? .zipCode cs = some d) : Shows .zipCode cs d := by
  obtain ⟨count, shown⟩ := Option.ite_none_right_eq_some.mp shown
  cases shown
  refine ⟨?_, .zipCode ?_ ?_⟩
  · rw [mask_zipCode, maskZipCode, render, List.length_take]
    obtain five | six := count
    · rw [five]
      rfl
    · rw [six]
      rfl
  · omega
  · rw [List.length_take]
    omega

theorem maskEmail_cons {first : Char} {rest : List Char} (other : first ≠ '@')
    (later : '@' ∈ rest) :
    maskEmail (first :: rest) = first :: stars 3 ++ (first :: rest).dropWhile (· ≠ '@') := by
  have rests : (first :: rest).dropWhile (· ≠ '@') = rest.dropWhile (· ≠ '@') :=
    List.dropWhile_cons_of_pos (by simpa using other)
  cases found : rest.dropWhile (· ≠ '@') with
  | nil =>
    have absent := List.dropWhile_eq_nil_iff.mp found '@' later
    simp at absent
  | cons c domain =>
    unfold maskEmail
    rw [rests, found]
    split
    · contradiction
    · rename_i same _
      exact absurd (List.cons.inj same).1 other
    · rename_i same _
      cases same
      rfl
    · contradiction

theorem shows_email (shown : of? .email cs = some d) : Shows .email cs d := by
  cases cs with
  | nil => cases shown
  | cons first rest =>
    obtain ⟨later, shown⟩ := Option.ite_none_right_eq_some.mp shown
    cases shown
    by_cases leads : first = '@'
    · subst leads
      have whole : ('@' :: rest).dropWhile (· ≠ '@') = '@' :: rest := rfl
      rw [whole]
      exact ⟨rfl, .email fun _ => rfl⟩
    · refine ⟨?_, .email fun leads' => absurd leads' leads⟩
      rw [render, if_neg leads]
      exact maskEmail_cons leads later

theorem shows_accountNumber (shown : of? .accountNumber cs = some d) :
    Shows .accountNumber cs d := by
  dsimp only [of?] at shown
  split at shown
  · rename_i first middle last parts
    cases shown
    refine ⟨?_, .accountNumber ?_ ?_⟩
    · rw [mask_accountNumber, maskAccountNumber, parts]
      rfl
    · exact Text.notMem_of_mem_leadingParts (parts ▸ List.mem_cons_self)
    · rw [length_rtake]
  · cases shown

theorem shows_address (shown : of? .address cs = some d) : Shows .address cs d := by
  dsimp only [of?] at shown
  split at shown
  · rename_i first second third rest parts
    cases shown
    refine ⟨?_, .address ?_⟩
    · rw [mask_address, maskAddress, parts]
      rfl
    · exact Text.notMem_of_mem_leadingParts (parts ▸ List.mem_cons_self)
  · rename_i first second parts
    cases shown
    refine ⟨?_, .shortAddress ?_⟩
    · rw [mask_address, maskAddress, parts]
      rfl
    · exact Text.notMem_of_mem_leadingParts (parts ▸ List.mem_cons_self)
  · cases shown

theorem shows_ipAddress (shown : of? .ipAddress cs = some d) : Shows .ipAddress cs d := by
  dsimp only [of?] at shown
  split at shown
  · rename_i first second third fourth parts
    cases shown
    have pointed : '.' ∈ cs := by
      refine Text.mem_of_one_lt_length_leadingParts ?_
      rw [parts]
      exact Nat.one_lt_succ_succ 2
    refine ⟨?_, .dotted ?_⟩
    · rw [mask_ipAddress, maskIpAddress, if_pos (List.contains_iff_mem.mpr pointed), parts]
      rfl
    · exact Text.notMem_of_mem_leadingParts (parts ▸ List.mem_cons_self)
  · obtain ⟨noPoint, shown⟩ := Option.ite_none_left_eq_some.mp shown
    split at shown
    · rename_i first second rest parts
      cases shown
      have isFirst : first ∈ Text.leadingParts ':' cs := parts ▸ List.mem_cons_self
      have isSecond : second ∈ Text.leadingParts ':' cs :=
        parts ▸ List.mem_cons_of_mem first List.mem_cons_self
      refine ⟨?_, .colons ?_ ?_ ?_⟩
      · rw [mask_ipAddress, maskIpAddress, if_neg (mt List.contains_iff_mem.mp noPoint), parts]
        rfl
      · exact Text.notMem_of_mem_leadingParts isFirst
      · exact fun isChar => noPoint (Text.mem_and_ne_of_mem_leadingParts isFirst isChar).1
      · exact fun isChar => noPoint (Text.mem_and_ne_of_mem_leadingParts isSecond isChar).1
    · cases shown

/-- **A recognised text is masked to what its pieces render to.** -/
theorem shows_of_of? (shown : of? m cs = some d) : Shows m cs d := by
  cases m with
  | phone => exact shows_phone shown
  | creditCard => exact shows_creditCard shown
  | ssn => exact shows_ssn shown
  | zipCode => exact shows_zipCode shown
  | email => exact shows_email shown
  | accountNumber => exact shows_accountNumber shown
  | address => exact shows_address shown
  | ipAddress => exact shows_ipAddress shown
  | _ => cases shown

end Shown

/-! ### Pieces can be read off the masked text -/

/-- What stands before the first separator can be read off. -/
theorem append_cons_inj {separator : Char} {first second xs ys : List Char}
    (free : separator ∉ first) (free' : separator ∉ second)
    (same : first ++ separator :: xs = second ++ separator :: ys) : first = second ∧ xs = ys := by
  induction first generalizing second with
  | nil =>
    cases second with
    | nil => exact ⟨rfl, (List.cons.inj same).2⟩
    | cons c second => exact absurd ((List.cons.inj same).1 ▸ List.mem_cons_self) free'
  | cons c first ih =>
    cases second with
    | nil => exact absurd ((List.cons.inj same).1 ▸ List.mem_cons_self) free
    | cons c' second =>
      obtain ⟨rfl, later⟩ := List.cons.inj same
      obtain ⟨rfl, rest⟩ := ih (fun h => free (List.mem_cons_of_mem _ h))
        (fun h => free' (List.mem_cons_of_mem _ h)) later
      exact ⟨rfl, rest⟩

/-- More digits are known than are shown. -/
theorem add_four_lt_of_phoneLead? {count lead : Nat} (known : phoneLead? count = some lead) :
    lead + 4 < count := by
  unfold phoneLead? at known
  split at known <;> cases known <;> omega

section Pieces

variable {count count' length length' : Nat} {first first' second second' : List Char}
  {lead lead' tail tail' domain domain' : List Char} {dashed dashed' : Bool}

theorem phone_inj (known : phoneLead? count = some lead.length)
    (known' : phoneLead? count' = some lead'.length) (long : tail.length = 4)
    (long' : tail'.length = 4)
    (same : (phone count lead tail).render = (phone count' lead' tail').render) :
    phone count lead tail = phone count' lead' tail' := by
  have covered := add_four_lt_of_phoneLead? known
  have covered' := add_four_lt_of_phoneLead? known'
  have lengths := congrArg List.length same
  simp only [render, List.length_append, List.length_cons, stars, List.length_replicate, long,
    long'] at lengths
  obtain rfl : count = count' := by omega
  have leads : lead.length = lead'.length := Option.some.inj (known.symm.trans known')
  obtain ⟨rfl, back⟩ := List.append_inj (List.append_inj' same (by simp [long, long'])).1 leads
  obtain ⟨-, last⟩ := List.append_inj' same (by simp [long, long'])
  rw [(List.cons.inj last).2]

theorem creditCard_inj (long : tail.length = 4) (long' : tail'.length = 4)
    (same : (creditCard tail dashed).render = (creditCard tail' dashed').render) :
    creditCard tail dashed = creditCard tail' dashed' := by
  obtain ⟨front, rfl⟩ := List.append_inj' same (long.trans long'.symm)
  cases dashed <;> cases dashed' <;> first | rfl | exact absurd front (by decide)

theorem ssn_inj (long : lead.length = 6) (long' : lead'.length = 6)
    (same : (ssn lead dashed).render = (ssn lead' dashed').render) :
    ssn lead dashed = ssn lead' dashed' := by
  have front := List.append_cancel_right same
  obtain ⟨rfl, dash⟩ := List.append_inj front (long.trans long'.symm)
  cases dashed <;> cases dashed' <;> first | rfl | exact absurd dash (by decide)

theorem zipCode_inj (many : 3 ≤ count) (many' : 3 ≤ count') (long : lead.length = 3)
    (long' : lead'.length = 3)
    (same : (zipCode count lead).render = (zipCode count' lead').render) :
    zipCode count lead = zipCode count' lead' := by
  have lengths := congrArg List.length same
  simp only [render, List.length_append, stars, List.length_replicate, long, long'] at lengths
  obtain rfl : count = count' := by omega
  rw [(List.append_inj same (long.trans long'.symm)).1]

theorem head?_render_email {c : Char} (leads : c = '@' → domain.head? = some '@') :
    (email c domain).render.head? = some c := by
  rw [render]
  split
  · rename_i isAt
    rw [leads isAt, isAt]
  · rfl

theorem email_inj {c c' : Char} (leads : c = '@' → domain.head? = some '@')
    (leads' : c' = '@' → domain'.head? = some '@')
    (same : (email c domain).render = (email c' domain').render) :
    email c domain = email c' domain' := by
  obtain rfl : c = c' := by
    rw [← Option.some.injEq, ← head?_render_email leads, ← head?_render_email leads', same]
  rw [render, render] at same
  split at same
  · rw [same]
  · rw [List.append_cancel_left same]

theorem accountNumber_inj (free : '-' ∉ first) (free' : '-' ∉ first')
    (long : tail.length = min 3 length) (long' : tail'.length = min 3 length')
    (same : (accountNumber first length tail).render = (accountNumber first' length' tail').render) :
    accountNumber first length tail = accountNumber first' length' tail' := by
  simp only [render, List.append_assoc] at same
  obtain ⟨rfl, -⟩ := append_cons_inj free free' same
  have rest := List.append_cancel_left (List.append_cancel_left same)
  have lengths := congrArg List.length rest
  simp only [List.length_append, stars, List.length_replicate, long, long'] at lengths
  obtain rfl : length = length' := by omega
  rw [List.append_cancel_left rest]

theorem address_inj (free : ' ' ∉ first) (free' : ' ' ∉ first')
    (same : (address first second).render = (address first' second').render) :
    address first second = address first' second' := by
  simp only [render, List.append_assoc, List.cons_append] at same
  obtain ⟨rfl, rest⟩ := append_cons_inj free free' same
  rw [List.append_cancel_right rest]

theorem shortAddress_inj (free : ' ' ∉ first) (free' : ' ' ∉ first')
    (same : (shortAddress first).render = (shortAddress first').render) :
    shortAddress first = shortAddress first' := by
  rw [(append_cons_inj free free' same).1]

/-- Behind the first word there is one space more, so the two forms do not meet. -/
theorem address_ne_shortAddress (free : ' ' ∉ first) (free' : ' ' ∉ first') :
    (address first second).render ≠ (shortAddress first').render := fun same => by
  simp only [render, List.append_assoc, List.cons_append] at same
  obtain ⟨-, rest⟩ := append_cons_inj free free' same
  have space : ' ' ∈ stars 3 := rest ▸ List.mem_append_right _ List.mem_cons_self
  exact absurd space (by decide)

theorem dotted_inj (free : '.' ∉ first) (free' : '.' ∉ first')
    (same : (dotted first second).render = (dotted first' second').render) :
    dotted first second = dotted first' second' := by
  simp only [render, List.append_assoc, List.cons_append] at same
  obtain ⟨rfl, rest⟩ := append_cons_inj free free' same
  rw [List.append_cancel_right rest]

theorem colons_inj (free : ':' ∉ first) (free' : ':' ∉ first')
    (same : (colons first second).render = (colons first' second').render) :
    colons first second = colons first' second' := by
  simp only [render, List.append_assoc, List.cons_append] at same
  obtain ⟨rfl, rest⟩ := append_cons_inj free free' same
  rw [List.append_cancel_right rest]

/-- Only the form between points has points. -/
theorem dotted_ne_colons (free : '.' ∉ first') (frees : '.' ∉ second') :
    (dotted first second).render ≠ (colons first' second').render := fun same => by
  have shown : '.' ∈ (colons first' second').render := same ▸ by simp [render]
  simp only [render, List.mem_append, List.mem_cons] at shown
  obtain (isFirst | isColon | isSecond) | isCover := shown
  · exact free isFirst
  · exact absurd isColon (by decide)
  · exact frees isSecond
  · exact absurd isCover (by decide)

end Pieces

variable {m : Masking} {d e : Disclosure}

/-- **Pieces of one strategy that render to the same text are the same.** -/
theorem render_inj (formed : Formed m d) (formed' : Formed m e) (same : d.render = e.render) :
    d = e := by
  cases formed with
  | phone known long =>
    cases formed' with
    | phone known' long' => exact phone_inj known known' long long' same
  | creditCard long =>
    cases formed' with
    | creditCard long' => exact creditCard_inj long long' same
  | ssn long =>
    cases formed' with
    | ssn long' => exact ssn_inj long long' same
  | zipCode many long =>
    cases formed' with
    | zipCode many' long' => exact zipCode_inj many many' long long' same
  | email leads =>
    cases formed' with
    | email leads' => exact email_inj leads leads' same
  | accountNumber free long =>
    cases formed' with
    | accountNumber free' long' => exact accountNumber_inj free free' long long' same
  | address free =>
    cases formed' with
    | address free' => exact address_inj free free' same
    | shortAddress free' => exact absurd same (address_ne_shortAddress free free')
  | shortAddress free =>
    cases formed' with
    | address free' => exact absurd same.symm (address_ne_shortAddress free' free)
    | shortAddress free' => exact shortAddress_inj free free' same
  | dotted free =>
    cases formed' with
    | dotted free' => exact dotted_inj free free' same
    | colons _ noPoint noPoint' => exact absurd same (dotted_ne_colons noPoint noPoint')
  | colons free noPoint noPoint' =>
    cases formed' with
    | dotted _ => exact absurd same.symm (dotted_ne_colons noPoint noPoint')
    | colons free' _ _ => exact colons_inj free free' same

/-- A value of a recognised form becomes the text of its pieces. -/
theorem maskValue_eq_render {v : Value} (shown : ofValue? m v = some d) :
    m.maskValue v = .text (String.ofList d.render) ∧ Formed m d := by
  unfold ofValue? at shown
  split at shown
  · have shows := shows_of_of? shown
    exact ⟨by rw [maskValue, maskText, shows.mask], shows.formed⟩
  · have shows := shows_of_of? shown
    exact ⟨by rw [maskValue, maskText, shows.mask], shows.formed⟩
  · cases shown

/-- **Values of recognised forms are masked alike just when they show the same pieces**, so the masked
value tells the pieces and nothing else. -/
theorem maskValue_eq_iff {v w : Value} (shown : ofValue? m v = some d)
    (shown' : ofValue? m w = some e) : m.maskValue v = m.maskValue w ↔ d = e := by
  obtain ⟨masked, formed⟩ := maskValue_eq_render shown
  obtain ⟨masked', formed'⟩ := maskValue_eq_render shown'
  rw [masked, masked']
  constructor
  · intro same
    exact render_inj formed formed' (String.ofList_injective (Value.text.inj same))
  · rintro rfl
    rfl

/-- Two telephone numbers that differ in the middle and in their dashes, two that differ at the end,
and two network addresses that differ behind the second part. -/
theorem maskValue_eq_iff_sample :
    Masking.phone.maskValue (.text "010-1234-5678") =
      Masking.phone.maskValue (.textMember "HOME" "(010) 99995678") ∧
    Masking.phone.maskValue (.text "010-1234-5678") ≠
      Masking.phone.maskValue (.text "010-1234-5679") ∧
    Masking.ipAddress.maskValue (.text "2001:db8::1") =
      Masking.ipAddress.maskValue (.text "2001:db8:ff:7:") := by
  have own : ofValue? .phone (.text "010-1234-5678") =
      some (.phone 11 "010".toList "5678".toList) := by decide +kernel
  have other : ofValue? .phone (.text "010-1234-5679") =
      some (.phone 11 "010".toList "5679".toList) := by decide +kernel
  have home : ofValue? .phone (.textMember "HOME" "(010) 99995678") =
      some (.phone 11 "010".toList "5678".toList) := by decide +kernel
  have short : ofValue? .ipAddress (.text "2001:db8::1") =
      some (.colons "2001".toList "db8".toList) := by decide +kernel
  have long : ofValue? .ipAddress (.text "2001:db8:ff:7:") =
      some (.colons "2001".toList "db8".toList) := by decide +kernel
  refine ⟨(maskValue_eq_iff own home).mpr rfl, fun same => ?_, (maskValue_eq_iff short long).mpr rfl⟩
  exact absurd ((maskValue_eq_iff own other).mp same) (by decide +kernel)

end Disclosure

end SheetExport
