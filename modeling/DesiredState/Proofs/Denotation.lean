import DesiredState.Numeral
import Mathlib

/-! What real numbers stand for. The fields of a number tell its magnitude, and the other way round, so
that different bits stand for one number only if this is zero; and equality of numbers is equality of
what they stand for. -/
namespace DesiredState

namespace Binary64
variable {x y : Binary64}

lemma fractionField_lt (x : Binary64) : x.fractionField < 2 ^ 52 :=
  Nat.mod_lt _ (by decide)

lemma eq_of_fields (hsign : x.isNegative = y.isNegative)
    (hexponent : x.exponentField = y.exponentField)
    (hfraction : x.fractionField = y.fractionField) : x = y := by
  obtain ⟨a⟩ := x
  obtain ⟨b⟩ := y
  rw [mk.injEq, ← UInt64.toNat_inj]
  have ha := a.toNat_lt
  have hb := b.toNat_lt
  simp only [isNegative, exponentField, fractionField] at hsign hexponent hfraction
  have hsign' : a.toNat / 0x8000000000000000 = 1 ↔ b.toNat / 0x8000000000000000 = 1 := by
    rw [← beq_iff_eq, hsign, beq_iff_eq]
  omega

lemma units_of_subnormal (h : x.exponentField = 0) : x.units = x.fractionField := by
  simp [units, significand, scale, h]

lemma units_of_normal (h : x.exponentField ≠ 0) :
    x.units = (x.fractionField + 2 ^ 52) * 2 ^ (x.exponentField - 1) := by
  simp [units, significand, scale, h, Nat.shiftLeft_eq]

lemma units_lt (x : Binary64) : x.units < 2 ^ 52 * 2 ^ x.exponentField := by
  have hfraction := x.fractionField_lt
  by_cases h : x.exponentField = 0
  · rw [units_of_subnormal h, h]
    omega
  · obtain ⟨e, he⟩ := Nat.exists_eq_add_one_of_ne_zero h
    rw [units_of_normal h, he, Nat.add_sub_cancel]
    calc (x.fractionField + 2 ^ 52) * 2 ^ e
      _ < 2 ^ 53 * 2 ^ e := Nat.mul_lt_mul_of_pos_right (by omega) (Nat.two_pow_pos e)
      _ = 2 ^ 52 * 2 ^ (e + 1) := by ring

lemma le_units (h : x.exponentField ≠ 0) : 2 ^ 52 * 2 ^ (x.exponentField - 1) ≤ x.units := by
  rw [units_of_normal h]
  exact Nat.mul_le_mul_right _ (Nat.le_add_left _ _)

lemma units_lt_of_exponentField_lt (h : x.exponentField < y.exponentField) : x.units < y.units := by
  have hy : y.exponentField ≠ 0 := by omega
  calc x.units
    _ < 2 ^ 52 * 2 ^ x.exponentField := x.units_lt
    _ ≤ 2 ^ 52 * 2 ^ (y.exponentField - 1) :=
      Nat.mul_le_mul_left _ (Nat.pow_le_pow_right (by decide) (by omega))
    _ ≤ y.units := le_units hy

/-- The magnitude of a number tells its fields. -/
lemma fields_of_units (h : x.units = y.units) :
    x.exponentField = y.exponentField ∧ x.fractionField = y.fractionField := by
  rcases Nat.lt_trichotomy x.exponentField y.exponentField with hlt | heq | hgt
  · exact absurd h (units_lt_of_exponentField_lt hlt).ne
  · refine ⟨heq, ?_⟩
    by_cases hx : x.exponentField = 0
    · rwa [units_of_subnormal hx, units_of_subnormal (heq ▸ hx)] at h
    · rw [units_of_normal hx, units_of_normal (heq ▸ hx), heq] at h
      have := Nat.eq_of_mul_eq_mul_right (Nat.two_pow_pos _) h
      omega
  · exact absurd h (units_lt_of_exponentField_lt hgt).ne'

lemma isZero_iff_units : x.isZero = true ↔ x.units = 0 := by
  simp only [isZero, Bool.and_eq_true, beq_iff_eq]
  constructor
  · rintro ⟨hexponent, hfraction⟩
    rw [units_of_subnormal hexponent, hfraction]
  · intro h
    by_cases hexponent : x.exponentField = 0
    · rw [units_of_subnormal hexponent] at h
      exact ⟨hexponent, h⟩
    · have := le_units hexponent
      have hpos : 0 < 2 ^ 52 * 2 ^ (x.exponentField - 1) := by positivity
      omega

/-- A finite number, counted in least positive numbers. -/
def signedUnits (x : Binary64) : ℤ := if x.isNegative then -x.units else x.units

/-- What a number that is no NaN stands for: an infinity, or so many least positive numbers. -/
def denoted (x : Binary64) : WithBot (WithTop ℤ) :=
  if x.isInfinite then if x.isNegative then ⊥ else ((⊤ : WithTop ℤ) : WithBot (WithTop ℤ))
  else (x.signedUnits : WithTop ℤ)

lemma isNaN_and_isInfinite_of_isZero (h : x.isZero = true) :
    x.isNaN = false ∧ x.isInfinite = false := by
  simp only [isZero, Bool.and_eq_true, beq_iff_eq] at h
  simp [isNaN, isInfinite, h.1]

lemma denoted_of_isZero (h : x.isZero = true) : x.denoted = ((0 : ℤ) : WithTop ℤ) := by
  rw [denoted, (isNaN_and_isInfinite_of_isZero h).2, signedUnits, isZero_iff_units.1 h]
  simp

lemma eq_or_isZero_of_signedUnits (h : x.signedUnits = y.signedUnits) :
    x = y ∨ x.isZero = true ∧ y.isZero = true := by
  rw [isZero_iff_units, isZero_iff_units]
  rw [signedUnits, signedUnits] at h
  by_cases hsign : x.isNegative = y.isNegative
  · have hunits : x.units = y.units := by
      rw [hsign] at h
      split at h <;> omega
    obtain ⟨hexponent, hfraction⟩ := fields_of_units hunits
    exact .inl (eq_of_fields hsign hexponent hfraction)
  · -- A number is its own negative only if it is zero.
    right
    cases hx : x.isNegative <;> cases hy : y.isNegative <;> simp [hx, hy] at h hsign <;> omega

lemma eq_of_isInfinite (hx : x.isInfinite = true) (hy : y.isInfinite = true)
    (hsign : x.isNegative = y.isNegative) : x = y := by
  simp only [isInfinite, Bool.and_eq_true, beq_iff_eq] at hx hy
  exact eq_of_fields hsign (hx.1.trans hy.1.symm) (hx.2.trans hy.2.symm)

/-- What stands for one number are the same bits, or both zeros. -/
lemma denoted_eq_iff : x.denoted = y.denoted ↔ x = y ∨ x.isZero = true ∧ y.isZero = true := by
  constructor
  · intro h
    rw [denoted, denoted] at h
    by_cases hx : x.isInfinite = true
    · by_cases hy : y.isInfinite = true
      · rw [if_pos hx, if_pos hy] at h
        refine .inl (eq_of_isInfinite hx hy ?_)
        cases hxs : x.isNegative <;> cases hys : y.isNegative <;> simp [hxs, hys] at h ⊢
      · rw [if_pos hx, if_neg hy] at h
        cases hxs : x.isNegative <;> simp [hxs] at h
    · by_cases hy : y.isInfinite = true
      · rw [if_neg hx, if_pos hy] at h
        cases hys : y.isNegative <;> simp [hys] at h
      · rw [if_neg hx, if_neg hy, WithBot.coe_inj, WithTop.coe_inj] at h
        exact eq_or_isZero_of_signedUnits h
  · rintro (rfl | ⟨hx, hy⟩)
    · rfl
    · rw [denoted_of_isZero hx, denoted_of_isZero hy]

lemma equals_iff : x.equals y = true ↔
    x.isNaN = false ∧ y.isNaN = false ∧ (x = y ∨ x.isZero = true ∧ y.isZero = true) := by
  have hbits : x.bits = y.bits ↔ x = y := by
    cases x
    cases y
    simp
  simp [equals, hbits, and_assoc]

/-- Numbers are equal if they stand for the same number. -/
theorem equals_iff_denoted : x.equals y = true ↔
    x.isNaN = false ∧ y.isNaN = false ∧ x.denoted = y.denoted := by
  rw [equals_iff, denoted_eq_iff]

/-- The same number, without a sign if it is zero. -/
def unsignedZero (x : Binary64) : Binary64 := if x.isZero then ⟨0⟩ else x

lemma unsignedZero_eq_iff :
    x.unsignedZero = y.unsignedZero ↔ x = y ∨ x.isZero = true ∧ y.isZero = true := by
  have hzero : isZero ⟨0⟩ = true := by decide
  rw [unsignedZero, unsignedZero]
  split <;> split <;> grind

lemma equals_iff_unsignedZero : x.equals y = true ↔
    x.isNaN = false ∧ y.isNaN = false ∧ x.unsignedZero = y.unsignedZero := by
  rw [equals_iff, unsignedZero_eq_iff]

end Binary64

namespace Numeral

/-- The same number, without a sign if it is zero. -/
def unsignedZero : Numeral → Numeral
  | integer i => integer i
  | real x => real (if x.val.isZero then ⟨⟨0⟩, by decide⟩ else x)

lemma equals_iff_unsignedZero {m n : Numeral} :
    m.equals n = true ↔ m.unsignedZero = n.unsignedZero := by
  cases m with
  | integer i => cases n <;> simp [equals, unsignedZero]
  | real x =>
    cases n with
    | integer j => simp [equals, unsignedZero]
    | real y =>
      have hval (z : Binary64.Finite) : (if z.val.isZero then (⟨⟨0⟩, by decide⟩ : Binary64.Finite)
          else z).val = z.val.unsignedZero := by
        rw [Binary64.unsignedZero]
        split <;> rfl
      rw [unsignedZero, unsignedZero, real.injEq, Subtype.ext_iff, hval, hval, equals,
        Binary64.equals_iff_unsignedZero]
      simp [x.isNaN_eq_false, y.isNaN_eq_false]

lemma equals_real_iff {x y : Binary64.Finite} :
    (real x).equals (real y) = true ↔ x.val.denoted = y.val.denoted := by
  rw [equals, Binary64.equals_iff_denoted]
  simp [x.isNaN_eq_false, y.isNaN_eq_false]

end Numeral

end DesiredState
