/-
**The bits of floats.**

A float is known by its bits: a sign, a biased exponent and a fraction (`BitParts`). This is the
form in which its parts are read off, and also what it is unpacked to for calculating.

* `unpack_eq`, `ofFloat?_eq` — both say the same of a float;
* `Canonical` — the one form of a number that its bits keep (`unpacked_packed`);
* `beq_of_unpacked`, `unpacked_of_beq`: floats are equal when they are unpacked to the same.
-/

import Mathlib
import SheetExport.Number.Binary

namespace SheetExport.Binary64

open Float.Model (UnpackedFloat)
open Float.Model.UnpackedFloat (Sign packComponents unpackMantissa unpackExponent unpackSign)

/-- The format of floats. -/
abbrev format : Float.Model.Format := .binary64

/-! ### Bits -/

theorem toNat_unpackMantissa (b : BitVec 64) :
    (@unpackMantissa format b).toNat = b.toNat % 2 ^ 52 := by
  simp [unpackMantissa]

theorem toNat_unpackExponent (b : BitVec 64) :
    (@unpackExponent format b).toNat = b.toNat / 2 ^ 52 % 2 ^ 11 := by
  simp [unpackExponent, Nat.shiftRight_eq_div_pow]

theorem toNat_unpackSign (b : BitVec 64) :
    (@unpackSign format b).toNat = b.toNat / 2 ^ 63 % 2 := by
  simp [unpackSign, Nat.shiftRight_eq_div_pow]

/-- The sign, the biased exponent and the fraction that the bits of a float hold. -/
structure BitParts where
  negative : Bool
  biased : Nat
  fraction : Nat

/-- The parts of sixty-four bits. -/
def bitParts (bits : Nat) : BitParts :=
  ⟨decide (bits / 2 ^ 63 = 1), bits / 2 ^ 52 % 2 ^ 11, bits % 2 ^ 52⟩

/-- The sign of a number. -/
def signOf (negative : Bool) : Sign := if negative then .negative else .positive

/-- The number that the parts stand for. -/
def BitParts.unpacked (p : BitParts) : UnpackedFloat :=
  if p.biased = 2047 then
    if p.fraction = 0 then .infinity (signOf p.negative) else .notANumber
  else if p.biased = 0 then
    if positive : 0 < p.fraction then .finite (signOf p.negative) p.fraction (-1074) positive
    else .zero (signOf p.negative)
  else .finite (signOf p.negative) (2 ^ 52 + p.fraction) (p.biased - 1075) (by omega)

theorem sign_unpackSign (b : BitVec 64) :
    Sign.ofBitVec (@unpackSign format b) = signOf (decide (b.toNat / 2 ^ 63 = 1)) := by
  have bound := b.isLt
  have value := toNat_unpackSign b
  unfold Sign.ofBitVec signOf
  by_cases zero : b.toNat / 2 ^ 63 = 0
  · rw [if_pos, if_neg]
    · rw [decide_eq_true_eq, zero]
      decide
    · apply BitVec.eq_of_toNat_eq
      rw [value, zero]
      rfl
  · have one : b.toNat / 2 ^ 63 = 1 := by omega
    rw [if_neg, if_pos]
    · rw [decide_eq_true_eq, one]
    · intro same
      rw [same, one] at value
      cases value

/-- **Unpacking bits** gives the number that their parts stand for. -/
theorem unpack_eq (b : BitVec 64) :
    UnpackedFloat.unpack format b = (bitParts b.toNat).unpacked := by
  have mantissa := toNat_unpackMantissa b
  have exponent := toNat_unpackExponent b
  have sign := sign_unpackSign b
  have exponentBound := Nat.mod_lt (b.toNat / 2 ^ 52) (by decide : 0 < 2 ^ 11)
  have isTop : @unpackExponent format b = -1#_ ↔ b.toNat / 2 ^ 52 % 2 ^ 11 = 2047 := by
    rw [← BitVec.toNat_inj, exponent]
    rfl
  have isBottom : @unpackExponent format b = 0#_ ↔ b.toNat / 2 ^ 52 % 2 ^ 11 = 0 := by
    rw [← BitVec.toNat_inj, exponent]
    rfl
  have isEmpty : @unpackMantissa format b = 0#_ ↔ b.toNat % 2 ^ 52 = 0 := by
    rw [← BitVec.toNat_inj, mantissa]
    rfl
  unfold UnpackedFloat.unpack BitParts.unpacked bitParts
  simp only [isTop, isBottom, isEmpty, mantissa, exponent, sign]
  split
  · rfl
  · split
    · rename_i biased
      by_cases empty : b.toNat % 2 ^ 52 = 0
      · rw [dif_pos empty, dif_neg (by omega)]
      · rw [dif_neg empty, dif_pos (by omega), biased]
        rfl
    · congr 1
      rw [BitVec.toNat_append, ← Nat.shiftLeft_add_eq_or_of_lt (BitVec.isLt _), mantissa]
      rfl

/-! ### Packing -/

/-- A finite number in the one form that packing keeps: its mantissa has fifty-three bits, unless
its exponent is the least one. -/
def Canonical : UnpackedFloat → Prop
  | .finite _ mantissa exponent _ =>
    mantissa < 2 ^ 53 ∧ -1074 ≤ exponent ∧ exponent ≤ 971 ∧
      (2 ^ 52 ≤ mantissa ∨ exponent = -1074)
  | _ => True

theorem BitParts.canonical_unpacked (bits : Nat) : Canonical (bitParts bits).unpacked := by
  have top := Nat.mod_lt (bits / 2 ^ 52) (by decide : 0 < 2 ^ 11)
  have low := Nat.mod_lt bits (by decide : 0 < 2 ^ 52)
  unfold BitParts.unpacked bitParts
  simp only
  split
  · split <;> trivial
  · split
    · split
      · exact ⟨by omega, by omega, by omega, Or.inr rfl⟩
      · trivial
    · exact ⟨by omega, by omega, by omega, Or.inl (by omega)⟩

theorem signOf_toBitVec (s : Sign) : signOf (decide (s.toBitVec.toNat = 1)) = s := by
  cases s <;> rfl

theorem toNat_packComponents (s : Sign) (e : BitVec 11) (m : BitVec 52) :
    (packComponents format s e m).toNat =
      s.toBitVec.toNat * 2 ^ 63 + e.toNat * 2 ^ 52 + m.toNat := by
  unfold packComponents
  rw [BitVec.toNat_append, ← Nat.shiftLeft_add_eq_or_of_lt m.isLt, BitVec.toNat_append,
    ← Nat.shiftLeft_add_eq_or_of_lt e.isLt, Nat.shiftLeft_eq, Nat.shiftLeft_eq]
  omega

theorem bitParts_packComponents (s : Sign) (e : BitVec 11) (m : BitVec 52) :
    bitParts (packComponents format s e m).toNat =
      ⟨decide (s.toBitVec.toNat = 1), e.toNat, m.toNat⟩ := by
  have signBound := s.toBitVec.isLt
  have exponentBound := e.isLt
  have mantissaBound := m.isLt
  rw [toNat_packComponents]
  unfold bitParts
  congr 1
  · congr 1
    apply propext
    omega
  · omega
  · omega

/-- The parts of a number with an implicit bit. -/
theorem BitParts.unpacked_normal (negative : Bool) {mantissa : Nat} {exponent : Int}
    (normal : 2 ^ 52 ≤ mantissa) (least : -1074 ≤ exponent) (greatest : exponent ≤ 971) :
    (BitParts.mk negative (exponent + 1075).toNat (mantissa - 2 ^ 52)).unpacked =
      .finite (signOf negative) mantissa exponent (Nat.lt_of_lt_of_le (by decide) normal) := by
  have notTop : ¬ (exponent + 1075).toNat = 2047 := by omega
  have notBottom : ¬ (exponent + 1075).toNat = 0 := by omega
  have total : 2 ^ 52 + (mantissa - 2 ^ 52) = mantissa := by omega
  have back : ((exponent + 1075).toNat : Int) - 1075 = exponent := by omega
  unfold BitParts.unpacked
  simp only [if_neg notTop, if_neg notBottom, total, back]

/-- **Packing keeps** a canonical number. -/
theorem unpack_pack {u : UnpackedFloat} (canonical : Canonical u) :
    UnpackedFloat.unpack format (UnpackedFloat.pack format u) = u := by
  rw [unpack_eq]
  cases u with
  | infinity s =>
    show (bitParts (packComponents format s _ _).toNat).unpacked = _
    rw [bitParts_packComponents]
    show UnpackedFloat.infinity _ = _
    rw [signOf_toBitVec]
  | notANumber => rfl
  | zero s =>
    show (bitParts (packComponents format s _ _).toNat).unpacked = _
    rw [bitParts_packComponents]
    show UnpackedFloat.zero _ = _
    rw [signOf_toBitVec]
  | finite s mantissa exponent positive =>
    obtain ⟨below, least, greatest, normal⟩ := canonical
    have fits : ¬ 2 ^ format.exponentBits ≤
        (exponent + format.exponentBias +
          format.mantissaBitsWithoutImplicit).toNat + 1 := by
      have bias : (format.exponentBias : Int) = 1023 := rfl
      rw [bias]
      show ¬ 2 ^ 11 ≤ (exponent + 1023 + 52).toNat + 1
      omega
    simp only [UnpackedFloat.pack]
    rw [if_neg fits]
    by_cases isNormal : 2 ^ 52 ≤ mantissa
    · have bits : mantissa.log2 + 1 = format.mantissaBits := by
        have log : mantissa.log2 = 52 := (Nat.log2_eq_iff (by omega)).mpr ⟨isNormal, below⟩
        rw [log]
        rfl
      rw [if_pos bits, bitParts_packComponents, BitVec.toNat_ofNat, BitVec.toNat_ofNat]
      have biased : (exponent + (format.exponentBias : Int) +
          (format.mantissaBitsWithoutImplicit : Int)).toNat % 2 ^ 11 = (exponent + 1075).toNat := by
        show (exponent + 1023 + 52).toNat % 2 ^ 11 = _
        omega
      have fraction : mantissa % 2 ^ format.mantissaBitsWithoutImplicit = mantissa - 2 ^ 52 := by
        show mantissa % 2 ^ 52 = _
        omega
      rw [biased, fraction, BitParts.unpacked_normal _ isNormal least greatest, signOf_toBitVec]
    · have bits : ¬ mantissa.log2 + 1 = format.mantissaBits := by
        intro same
        have log : mantissa.log2 = 52 := Nat.succ.inj same
        exact isNormal ((Nat.log2_eq_iff (by omega)).mp log).1
      have fraction : (BitVec.ofNat format.mantissaBitsWithoutImplicit mantissa).toNat =
          mantissa := by
        rw [BitVec.toNat_ofNat]
        show mantissa % 2 ^ 52 = _
        omega
      obtain rfl : exponent = -1074 := normal.resolve_left isNormal
      rw [if_neg bits, bitParts_packComponents, fraction]
      unfold BitParts.unpacked
      simp only
      rw [if_neg (by decide), if_pos (by rfl), dif_pos positive, signOf_toBitVec]

/-! ### Floats -/

/-- A float taken apart. -/
def unpacked (x : Float) : UnpackedFloat := x.toModel.unpack

/-- The float of an unpacked number. -/
def packed (u : UnpackedFloat) : Float := .ofModel (.pack u)

section Floats

variable {x y : Float} {u : UnpackedFloat}

theorem unpacked_eq (x : Float) : unpacked x = (bitParts x.toBits.toNat).unpacked :=
  unpack_eq x.toBits.toBitVec

theorem canonical_unpacked (x : Float) : Canonical (unpacked x) := by
  rw [unpacked_eq]
  exact BitParts.canonical_unpacked _

theorem unpacked_packed (canonical : Canonical u) : unpacked (packed u) = u :=
  unpack_pack canonical

/-- Whether a sign is a minus. -/
def isNegative : Sign → Bool
  | .negative => true
  | .positive => false

theorem isNegative_signOf (negative : Bool) : isNegative (signOf negative) = negative := by
  cases negative <;> rfl

/-- The parts of an unpacked number, if it is finite. -/
def binary? : UnpackedFloat → Option Binary
  | .finite s mantissa exponent _ => some ⟨isNegative s, mantissa, exponent⟩
  | .zero s => some ⟨isNegative s, 0, -1074⟩
  | _ => none

/-- **The parts of a float** are those that it is unpacked to. -/
theorem ofFloat?_eq (x : Float) : Binary.ofFloat? x = binary? (unpacked x) := by
  rw [unpacked_eq]
  unfold Binary.ofFloat? BitParts.unpacked bitParts twoPow
  simp only [Nat.pow_eq]
  by_cases top : x.toBits.toNat / 2 ^ 52 % 2 ^ 11 = 2047
  · simp only [if_pos top]
    split <;> rfl
  · simp only [if_neg top]
    by_cases bottom : x.toBits.toNat / 2 ^ 52 % 2 ^ 11 = 0
    · simp only [if_pos bottom]
      by_cases positive : 0 < x.toBits.toNat % 2 ^ 52
      · simp only [dif_pos positive, binary?, isNegative_signOf]
      · have empty : x.toBits.toNat % 2 ^ 52 = 0 := by omega
        simp only [dif_neg positive, binary?, isNegative_signOf]
        rw [empty]
    · simp only [if_neg bottom, binary?, isNegative_signOf]

theorem beq_eq (x y : Float) : (x == y) = (unpacked x).beq (unpacked y) := rfl

/-- Numbers that are unpacked to the same are equal. -/
theorem beq_of_unpacked {s : Sign} {mantissa : Nat} {exponent : Int} {positive : 0 < mantissa}
    (left : unpacked x = .finite s mantissa exponent positive)
    (right : unpacked y = .finite s mantissa exponent positive) : (x == y) = true := by
  rw [beq_eq, left, right]
  exact (UnpackedFloat.beq_iff_ne_notANumber_and_eq _ _).mpr ⟨nofun, nofun, Or.inl rfl⟩

/-- What equals a number that is not zero is unpacked to the same. -/
theorem unpacked_of_beq {s : Sign} {mantissa : Nat} {exponent : Int} {positive : 0 < mantissa}
    (equal : (x == y) = true) (right : unpacked y = .finite s mantissa exponent positive) :
    unpacked x = .finite s mantissa exponent positive := by
  rw [beq_eq, right] at equal
  obtain ⟨-, -, same | ⟨_, zero⟩ | ⟨_, zero⟩⟩ :=
    (UnpackedFloat.beq_iff_ne_notANumber_and_eq _ _).mp equal
  · exact same
  · cases zero
  · cases zero

theorem neg_eq (x : Float) : unpacked (-x) = (unpacked x).neg := by
  have canonical : Canonical (unpacked x).neg := by
    have before := canonical_unpacked x
    revert before
    cases unpacked x with
    | finite s m e _ => exact id
    | _ => exact fun _ => trivial
  exact unpack_pack canonical

/-- Zero may be left out of a difference whose sign does not matter. -/
theorem abs_sub_zero (x : Float) : (x - 0).abs = x.abs := by
  have difference : unpacked (x - 0) =
      UnpackedFloat.unpack format (UnpackedFloat.pack format
        (UnpackedFloat.sub format (unpacked x) (.zero .positive))) := rfl
  have absolute (y : Float) : y.abs = packed (unpacked y).abs := rfl
  rw [absolute, absolute, difference]
  have canonical := canonical_unpacked x
  revert canonical
  cases unpacked x with
  | finite s mantissa exponent positive =>
    intro canonical
    exact congrArg (fun u => packed (UnpackedFloat.abs u)) (unpack_pack canonical)
  | notANumber => exact fun _ => rfl
  | zero s => cases s <;> exact fun _ => rfl
  | infinity s => cases s <;> exact fun _ => rfl

end Floats

end SheetExport.Binary64
