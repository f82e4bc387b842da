/-!
# Binary64 numbers

The numbers of the calculator are the IEEE 754 binary64 numbers with a single
NaN.  A finite magnitude is given by its *code*, the 63 bits below the sign bit
read as a natural number.  Codes are ordered as the magnitudes are, every code
below `finiteCodes` is a finite number, and its magnitude is a whole number of
*units* of 2⁻¹⁰⁷⁴ (`units`).  Arithmetic on magnitudes is therefore arithmetic on
natural numbers.

The interchange form of a number is its 64 bits (`Binary64.ofBits`,
`Binary64.toBits`); reading back what was written gives the number again
(`Binary64.ofBits_toBits`).
-/

set_option autoImplicit false

namespace PocketCalculator

/-! ## Codes and units -/

/-- The number of magnitudes with the same exponent: 2⁵². -/
abbrev fractionCodes : Nat := 0x10000000000000

/-- The number of finite magnitudes: 2047 exponents with all fractions each. -/
abbrev finiteCodes : Nat := 2047 * fractionCodes

/-- The weight of the sign bit in the interchange form: 2⁶³. -/
abbrev signBit : Nat := 0x8000000000000000

/-- The number of binary places of a unit, which is 2⁻¹⁰⁷⁴. -/
@[irreducible] def unitPlaces : Nat := 1074

/-- The number of units in one.  Proofs see the power through `unitsPerOne_eq`
alone, so that no elaboration step computes it by accident. -/
@[irreducible] def unitsPerOne : Nat := Nat.pow 2 unitPlaces

theorem unitsPerOne_eq : unitsPerOne = Nat.pow 2 unitPlaces := by
  rw [unitsPerOne]

theorem unitsPerOne_pos : 0 < unitsPerOne := by
  rw [unitsPerOne_eq]
  exact Nat.two_pow_pos unitPlaces

/-- The magnitude of a code in units.  Codes up to `fractionCodes` are one unit
apart; every further block of as many codes doubles the spacing. -/
def units (code : Nat) : Nat :=
  if code < fractionCodes then code
  else (fractionCodes + code % fractionCodes) * Nat.pow 2 (code / fractionCodes - 1)

/-- A binary64 number; the payload and the sign of a NaN are not kept. -/
inductive Binary64 where
  | nan
  | infinite (negative : Bool)
  | finite (negative : Bool) (code : Fin finiteCodes)
deriving DecidableEq, Repr

namespace Binary64

/-- The zero of either sign. -/
def zero (negative : Bool) : Binary64 := finite negative ⟨0, by decide⟩

instance : Inhabited Binary64 := ⟨zero false⟩

/-- Whether the number is a zero of either sign. -/
def isZero : Binary64 → Bool
  | finite _ code => code.val == 0
  | _ => false

/-- The signed number of units of a finite number. -/
def signedUnits (negative : Bool) (code : Nat) : Int :=
  if negative then -(units code : Int) else units code

/-! ## The interchange form -/

/-- The number with the given sign bit and 63 lower bits. -/
def ofCode (negative : Bool) (code : Nat) : Binary64 :=
  if h : code < finiteCodes then finite negative ⟨code, h⟩
  else if code = finiteCodes then infinite negative
  else nan

/-- The number whose interchange form is the given word. -/
def ofBits (bits : UInt64) : Binary64 :=
  ofCode (bits.toNat / signBit == 1) (bits.toNat % signBit)

/-- The sign bit as the weight that it has in the interchange form. -/
def signWeight (negative : Bool) : Nat := if negative then signBit else 0

/-- The interchange form as a natural number; NaN has the quiet payload. -/
def toBitsNat : Binary64 → Nat
  | nan => finiteCodes + fractionCodes / 2
  | infinite negative => signWeight negative + finiteCodes
  | finite negative code => signWeight negative + code

/-- The interchange form of a number. -/
def toBits (x : Binary64) : UInt64 := UInt64.ofNat x.toBitsNat

theorem toBitsNat_lt (x : Binary64) : x.toBitsNat < UInt64.size := by
  cases x with
  | nan => decide
  | infinite negative => cases negative <;> decide
  | finite negative code =>
      have bound : code.val < 2047 * 0x10000000000000 := code.isLt
      cases negative <;>
        simp only [toBitsNat, signWeight, signBit, finiteCodes, UInt64.size, Bool.false_eq_true,
          if_true, if_false] <;> omega

theorem ofCode_signWeight (negative : Bool) (code : Nat) (bound : code < signBit) :
    ofCode ((signWeight negative + code) / signBit == 1) ((signWeight negative + code) % signBit)
      = ofCode negative code := by
  have bound : code < 0x8000000000000000 := bound
  have low : (signWeight negative + code) % signBit = code := by
    cases negative <;>
      simp only [signWeight, signBit, Bool.false_eq_true, if_true, if_false] <;> omega
  have high : ((signWeight negative + code) / signBit == 1) = negative := by
    cases negative <;>
      simp only [signWeight, signBit, Bool.false_eq_true, if_true, if_false, beq_iff_eq,
        beq_eq_false_iff_ne] <;> omega
  rw [low, high]

/-- **Reading back.** The interchange form determines the number. -/
theorem ofBits_toBits (x : Binary64) : ofBits x.toBits = x := by
  have value : x.toBits.toNat = x.toBitsNat :=
    UInt64.toNat_ofNat_of_lt' (toBitsNat_lt x)
  unfold ofBits
  rw [value]
  cases x with
  | nan => decide
  | infinite negative => cases negative <;> decide
  | finite negative code =>
      have bound : code.val < 2047 * 0x10000000000000 := code.isLt
      rw [toBitsNat, ofCode_signWeight negative code (Nat.lt_trans bound (by decide))]
      simp [ofCode]

end Binary64

end PocketCalculator
