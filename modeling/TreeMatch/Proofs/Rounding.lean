import Mathlib.Algebra.Order.Field.Power
import Mathlib.Tactic.FieldSimp
import Mathlib.Tactic.Linarith
import Mathlib.Tactic.Positivity
import Mathlib.Tactic.Ring
import TreeMatch.Proofs.Reprinting

/-! The decimal that is written for a floating point number rounds to the number, so a number that
is written with a point is read back. -/

namespace TreeMatch.Number.Binary64

/-- The finite numbers with 53 binary digits, each with its own mantissa and exponent. -/
def IsCanonical : Binary64 → Prop
  | finite _ mantissa exponent =>
    mantissa < twoTo 53 ∧ minExponent ≤ exponent ∧ exponent ≤ maxExponent ∧
      (exponent = minExponent ∨ twoTo 52 ≤ mantissa)
  | _ => True

instance (x : Binary64) : Decidable x.IsCanonical := by
  cases x <;> unfold IsCanonical <;> infer_instance

def Decimal.value (d : Decimal) : ℚ :=
  d.digits * 10 ^ d.power

namespace Rounding

def inQuarters (r : Rounding) (quarters : Nat) : ℚ :=
  quarters * 2 ^ r.exponent

structure Covers (r : Rounding) (number : ℚ) : Prop where
  low : r.inQuarters r.low ≤ number
  high : number ≤ r.inQuarters r.high
  inside : r.closed = false → r.inQuarters r.low < number ∧ number < r.inQuarters r.high

theorem covers_of_inside {r : Rounding} {number : ℚ} (hlow : r.inQuarters r.low < number)
    (hhigh : number < r.inQuarters r.high) : r.Covers number :=
  ⟨hlow.le, hhigh.le, fun _ => ⟨hlow, hhigh⟩⟩

end Rounding

section Scales

variable {numerator denominator : Nat}

theorem natCast_twoTo (n : Nat) : ((twoTo n : Nat) : ℚ) = 2 ^ n := by
  change ((2 ^ n : Nat) : ℚ) = 2 ^ n
  norm_cast

theorem natCast_tenTo (n : Nat) : ((tenTo n : Nat) : ℚ) = 10 ^ n := by
  change ((10 ^ n : Nat) : ℚ) = 10 ^ n
  norm_cast

theorem zpow_toNat (base : ℚ) {power : Int} (hpower : 0 ≤ power) :
    base ^ power.toNat = base ^ power := by
  rw [← zpow_natCast, Int.toNat_of_nonneg hpower]

theorem zpow_neg_toNat (base : ℚ) {power : Int} (hpower : ¬ 0 ≤ power) :
    base ^ (-power).toNat = (base ^ power)⁻¹ := by
  rw [zpow_toNat base (by omega), zpow_neg]

theorem scaled_pos (numerator : Nat) (hpositive : 0 < denominator) (exponent : Int) :
    0 < (scaled numerator denominator exponent).2 := by
  unfold scaled
  split
  · exact Nat.mul_pos hpositive (Nat.two_pow_pos _)
  · exact hpositive

theorem scaled_ratio (numerator denominator : Nat) (exponent : Int) :
    ((scaled numerator denominator exponent).1 : ℚ) / (scaled numerator denominator exponent).2 =
      numerator / denominator / 2 ^ exponent := by
  unfold scaled
  split
  · rename_i hpower
    rw [Nat.cast_mul, natCast_twoTo, zpow_toNat 2 hpower, div_div]
  · rename_i hpower
    rw [Nat.cast_mul, natCast_twoTo, zpow_neg_toNat 2 hpower]
    field_simp

theorem inUnits_pos (r : Rounding) (quarters : Nat) (power : Int) :
    0 < (r.inUnits quarters power).2 := by
  unfold Rounding.inUnits
  dsimp only
  split <;> split <;> simp [twoTo, tenTo]

theorem inUnits_ratio (r : Rounding) (quarters : Nat) (power : Int) :
    ((r.inUnits quarters power).1 : ℚ) / (r.inUnits quarters power).2 =
      r.inQuarters quarters / 10 ^ power := by
  have hbinary : ∀ top bottom : Nat, (top, bottom) =
      (if 0 ≤ r.exponent then (quarters * twoTo r.exponent.toNat, 1)
        else (quarters, twoTo (-r.exponent).toNat)) →
      (top : ℚ) / bottom = r.inQuarters quarters := by
    intro top bottom hsplit
    split at hsplit
    · rename_i hexponent
      cases hsplit
      rw [Nat.cast_mul, natCast_twoTo, zpow_toNat 2 hexponent, Nat.cast_one, div_one,
        Rounding.inQuarters]
    · rename_i hexponent
      cases hsplit
      rw [natCast_twoTo, zpow_neg_toNat 2 hexponent, div_inv_eq_mul, Rounding.inQuarters]
  unfold Rounding.inUnits
  generalize hsplit : (if 0 ≤ r.exponent then (quarters * twoTo r.exponent.toNat, 1)
    else (quarters, twoTo (-r.exponent).toNat)) = fraction
  obtain ⟨top, bottom⟩ := fraction
  rw [← hbinary top bottom hsplit.symm]
  dsimp only
  split
  · rename_i hpower
    rw [Nat.cast_mul, natCast_tenTo, zpow_toNat 10 hpower, div_div]
  · rename_i hpower
    rw [Nat.cast_mul, natCast_tenTo, zpow_neg_toNat 10 hpower]
    field_simp

theorem le_div_iff_ratio {top bottom bound : Nat} (hpositive : 0 < bottom) :
    bound ≤ top / bottom ↔ (bound : ℚ) ≤ top / bottom := by
  rw [Nat.le_div_iff_mul_le hpositive, le_div_iff₀ (Nat.cast_pos.mpr hpositive)]
  norm_cast

end Scales

section Rounded

variable {numerator denominator mantissa : Nat} {exponent : Int}

theorem ratio_bounds (hnumerator : numerator ≠ 0) (hdenominator : denominator ≠ 0) :
    (2 : ℚ) ^ ((numerator.log2 : Int) - denominator.log2 - 1) < numerator / denominator ∧
      (numerator / denominator : ℚ) < 2 ^ ((numerator.log2 : Int) - denominator.log2 + 1) := by
  have hbounds : ∀ n : Nat, n ≠ 0 → (2 : ℚ) ^ (n.log2 : Int) ≤ n ∧
      (n : ℚ) < 2 ^ ((n.log2 : Int) + 1) := by
    intro n hn
    constructor
    · exact_mod_cast Nat.log2_self_le hn
    · exact_mod_cast Nat.lt_log2_self (n := n)
  obtain ⟨hlow, hhigh⟩ := hbounds numerator hnumerator
  obtain ⟨hlow', hhigh'⟩ := hbounds denominator hdenominator
  have hpositive : (0 : ℚ) < denominator := Nat.cast_pos.mpr (Nat.pos_of_ne_zero hdenominator)
  constructor
  · rw [lt_div_iff₀ hpositive]
    calc (2 : ℚ) ^ ((numerator.log2 : Int) - denominator.log2 - 1) * denominator
        < 2 ^ ((numerator.log2 : Int) - denominator.log2 - 1) *
            2 ^ ((denominator.log2 : Int) + 1) := by gcongr
      _ = 2 ^ (numerator.log2 : Int) := by
          rw [← zpow_add₀ (by norm_num)]
          congr 1
          ring
      _ ≤ numerator := hlow
  · rw [div_lt_iff₀ hpositive]
    calc (numerator : ℚ) < 2 ^ ((numerator.log2 : Int) + 1) := hhigh
      _ = 2 ^ ((numerator.log2 : Int) - denominator.log2 + 1) * 2 ^ (denominator.log2 : Int) := by
          rw [← zpow_add₀ (by norm_num)]
          congr 1
          ring
      _ ≤ 2 ^ ((numerator.log2 : Int) - denominator.log2 + 1) * denominator := by gcongr

structure IsExponentOf (number : ℚ) (exponent : Int) : Prop where
  least : minExponent ≤ exponent
  low : exponent = minExponent ∨ (2 : ℚ) ^ (exponent + 52) ≤ number
  high : number < 2 ^ (exponent + 53)

theorem IsExponentOf.le {number : ℚ} {first second : Int} (hfirst : IsExponentOf number first)
    (hsecond : IsExponentOf number second) : first ≤ second := by
  rcases hfirst.low with hleast | hlow
  · exact hleast ▸ hsecond.least
  · have hpowers := (zpow_lt_zpow_iff_right₀ (by norm_num : (1 : ℚ) < 2)).mp
      (lt_of_le_of_lt hlow hsecond.high)
    omega

theorem IsExponentOf.unique {number : ℚ} {first second : Int} (hfirst : IsExponentOf number first)
    (hsecond : IsExponentOf number second) : first = second :=
  le_antisymm (hfirst.le hsecond) (hsecond.le hfirst)

theorem isExponentOf_exponentOf (hnumerator : numerator ≠ 0) (hdenominator : denominator ≠ 0) :
    IsExponentOf (numerator / denominator) (exponentOf numerator denominator) := by
  obtain ⟨habove, hbelow⟩ := ratio_bounds hnumerator hdenominator
  let guess : Int := (numerator.log2 : Int) - denominator.log2 - 53
  have hguess : twoTo 53 ≤ (scaled numerator denominator guess).1 /
      (scaled numerator denominator guess).2 ↔
      (2 : ℚ) ^ (guess + 53) ≤ numerator / denominator := by
    rw [le_div_iff_ratio (scaled_pos numerator (Nat.pos_of_ne_zero hdenominator) guess), scaled_ratio,
      natCast_twoTo, le_div_iff₀ (by positivity), zpow_add₀ (by norm_num), mul_comm]
    norm_cast
  have hown : exponentOf numerator denominator = max minExponent
      (if (2 : ℚ) ^ (guess + 53) ≤ numerator / denominator then guess + 1 else guess) :=
    congrArg (max minExponent) (if_congr hguess rfl rfl)
  rw [hown]
  generalize hchosen : (if (2 : ℚ) ^ (guess + 53) ≤ numerator / denominator then guess + 1
    else guess) = chosen
  have hdigits : (2 : ℚ) ^ (chosen + 52) ≤ numerator / denominator ∧
      (numerator / denominator : ℚ) < 2 ^ (chosen + 53) := by
    rw [← hchosen]
    split
    · rename_i hlarge
      constructor
      · rwa [show guess + 1 + 52 = guess + 53 by ring]
      · rwa [show guess + 1 + 53 = (numerator.log2 : Int) - denominator.log2 + 1 by omega]
    · rename_i hsmall
      refine ⟨?_, lt_of_not_ge hsmall⟩
      rw [show guess + 52 = (numerator.log2 : Int) - denominator.log2 - 1 by omega]
      exact habove.le
  refine ⟨le_max_left _ _, ?_, hdigits.2.trans_le ?_⟩
  · rcases le_total chosen minExponent with hless | hmore
    · exact .inl (max_eq_left hless)
    · rw [max_eq_right hmore]
      exact .inr hdigits.1
  · exact zpow_le_zpow_right₀ (by norm_num) (by omega)

theorem roundQuotient_eq (hpositive : 0 < denominator)
    (hlow : (mantissa : ℚ) - 1 / 2 ≤ numerator / denominator)
    (hhigh : (numerator / denominator : ℚ) ≤ mantissa + 1 / 2)
    (hinside : mantissa % 2 = 1 → (mantissa : ℚ) - 1 / 2 < numerator / denominator ∧
      (numerator / denominator : ℚ) < mantissa + 1 / 2) :
    roundQuotient numerator denominator = mantissa := by
  have hbottom : (0 : ℚ) < denominator := Nat.cast_pos.mpr hpositive
  rw [le_div_iff₀ hbottom] at hlow
  rw [div_le_iff₀ hbottom] at hhigh
  rw [lt_div_iff₀ hbottom, div_lt_iff₀ hbottom] at hinside
  have hlow : 2 * mantissa * denominator ≤ 2 * numerator + denominator := by
    have hscaled : (2 * mantissa * denominator : ℚ) ≤ 2 * numerator + denominator := by linarith
    exact_mod_cast hscaled
  have hhigh : 2 * numerator ≤ 2 * mantissa * denominator + denominator := by
    have hscaled : (2 * numerator : ℚ) ≤ 2 * mantissa * denominator + denominator := by linarith
    exact_mod_cast hscaled
  have hinside : mantissa % 2 = 1 → 2 * mantissa * denominator < 2 * numerator + denominator ∧
      2 * numerator < 2 * mantissa * denominator + denominator := by
    intro hodd
    obtain ⟨hlow, hhigh⟩ := hinside hodd
    constructor
    · have hscaled : (2 * mantissa * denominator : ℚ) < 2 * numerator + denominator := by linarith
      exact_mod_cast hscaled
    · have hscaled : (2 * numerator : ℚ) < 2 * mantissa * denominator + denominator := by linarith
      exact_mod_cast hscaled
  have hdivided := Nat.div_add_mod numerator denominator
  have hrest := Nat.mod_lt numerator hpositive
  rw [roundQuotient]
  generalize numerator / denominator = quotient at *
  generalize numerator % denominator = rest at *
  subst hdivided
  -- The mantissa is the quotient or the number behind it.
  have hnear : mantissa = quotient ∨ mantissa = quotient + 1 := by
    have hle : mantissa < quotient + 2 := by
      by_contra hmore
      nlinarith [Nat.mul_le_mul_right denominator (Nat.le_of_not_lt hmore)]
    have hge : quotient < mantissa + 1 := by
      by_contra hmore
      nlinarith [Nat.mul_le_mul_right denominator (Nat.le_of_not_lt hmore)]
    omega
  rcases hnear with rfl | rfl
  · have hsmall : 2 * rest ≤ denominator := by nlinarith
    split
    · rfl
    split
    · omega
    · have heven : ¬ mantissa % 2 = 1 := fun hodd => by
        have := (hinside hodd).2
        nlinarith
      omega
  · have hlarge : denominator ≤ 2 * rest := by nlinarith
    split
    · omega
    split
    · rfl
    · have heven : ¬ (quotient + 1) % 2 = 1 := fun hodd => by
        have := (hinside hodd).1
        nlinarith
      omega

end Rounded

section Nearest

variable {negative : Bool} {numerator denominator mantissa : Nat} {exponent : Int} {number : ℚ}

theorem inQuarters_rounding (quarters : Nat) :
    (rounding mantissa exponent).inQuarters quarters = quarters / 4 * 2 ^ exponent := by
  change (quarters : ℚ) * 2 ^ (exponent - 2) = _
  rw [zpow_sub₀ (by norm_num)]
  ring

theorem Rounding.Covers.near (covers : (rounding mantissa exponent).Covers number) :
    (mantissa - 1 / 2 : ℚ) ≤ number / 2 ^ exponent ∧
      number / 2 ^ exponent ≤ mantissa + 1 / 2 ∧
      (mantissa % 2 = 1 → (mantissa - 1 / 2 : ℚ) < number / 2 ^ exponent ∧
        number / 2 ^ exponent < mantissa + 1 / 2) := by
  have hplace : (0 : ℚ) < 2 ^ exponent := by positivity
  have hlow : (mantissa - 1 / 2 : ℚ) ≤ (rounding mantissa exponent).low / 4 := by
    have hquarters : 4 * mantissa ≤ (rounding mantissa exponent).low + 2 := by
      change 4 * mantissa ≤ 4 * mantissa - _ + 2
      split <;> omega
    have hcast : (4 * mantissa : ℚ) ≤ (rounding mantissa exponent).low + 2 := by
      exact_mod_cast hquarters
    linarith
  have hhigh : ((rounding mantissa exponent).high : ℚ) / 4 = mantissa + 1 / 2 := by
    change ((4 * mantissa + 2 : Nat) : ℚ) / 4 = _
    push_cast
    ring
  obtain ⟨hbelow, habove, hinside⟩ := covers
  rw [inQuarters_rounding, ← le_div_iff₀ hplace] at hbelow
  rw [inQuarters_rounding, hhigh, ← div_le_iff₀ hplace] at habove
  refine ⟨hlow.trans hbelow, habove, fun hodd => ?_⟩
  have hopen : (rounding mantissa exponent).closed = false := by
    change (mantissa % 2 == 0) = false
    rw [hodd]
    rfl
  obtain ⟨hbelow, habove⟩ := hinside hopen
  rw [inQuarters_rounding, ← lt_div_iff₀ hplace] at hbelow
  rw [inQuarters_rounding, hhigh, ← div_lt_iff₀ hplace] at habove
  exact ⟨hlow.trans_lt hbelow, habove⟩

/-- Below a power of two, what rounds to it is at most a quarter of a place away. -/
theorem Rounding.Covers.near_power (covers : (rounding (twoTo 52) exponent).Covers number)
    (hmore : minExponent < exponent) : (2 ^ 52 - 1 / 4 : ℚ) ≤ number / 2 ^ exponent := by
  have hlow : ((rounding (twoTo 52) exponent).low : ℚ) / 4 = 2 ^ 52 - 1 / 4 := by
    change ((4 * twoTo 52 - (if twoTo 52 = twoTo 52 ∧ minExponent < exponent then 1 else 2) : Nat) :
      ℚ) / 4 = _
    rw [if_pos ⟨rfl, hmore⟩]
    norm_num [twoTo]
  have hbelow := covers.low
  rwa [inQuarters_rounding, hlow, ← le_div_iff₀ (by positivity)] at hbelow

theorem ofFraction_eq_of_round (found : Int) (rounded : Nat) (hnumerator : numerator ≠ 0)
    (hexponent : exponentOf numerator denominator = found)
    (hrounded : roundQuotient (scaled numerator denominator found).1
      (scaled numerator denominator found).2 = rounded)
    (hcarried : (if rounded = twoTo 53 then (twoTo 52, found + 1) else (rounded, found)) =
      (mantissa, exponent)) (hgreatest : exponent ≤ maxExponent) :
    ofFraction negative numerator denominator = finite negative mantissa exponent := by
  have hresult : ofFraction negative numerator denominator =
      if maxExponent < (if rounded = twoTo 53 then (twoTo 52, found + 1) else (rounded, found)).2
      then infinite negative
      else finite negative
        (if rounded = twoTo 53 then (twoTo 52, found + 1) else (rounded, found)).1
        (if rounded = twoTo 53 then (twoTo 52, found + 1) else (rounded, found)).2 := by
    rw [← hrounded, ← hexponent]
    exact if_neg hnumerator
  rw [hresult, hcarried]
  exact if_neg (not_lt.mpr hgreatest)

theorem ofFraction_of_covers (canonical : (finite negative mantissa exponent).IsCanonical)
    (hpositive : mantissa ≠ 0) (hdenominator : denominator ≠ 0)
    (covers : (rounding mantissa exponent).Covers (numerator / denominator)) :
    ofFraction negative numerator denominator = finite negative mantissa exponent := by
  obtain ⟨hsmall, hleast, hgreatest, hnormal⟩ := canonical
  obtain ⟨hbelow, habove, hinside⟩ := covers.near
  have hplace : (0 : ℚ) < 2 ^ exponent := by positivity
  have hmantissa : (1 : ℚ) ≤ mantissa := by exact_mod_cast Nat.pos_of_ne_zero hpositive
  have hnumerator : numerator ≠ 0 := by
    rintro rfl
    rw [Nat.cast_zero, zero_div, zero_div] at hbelow
    linarith
  have hplaces : ∀ digits : Int, (2 : ℚ) ^ (exponent + digits) = 2 ^ digits * 2 ^ exponent := by
    intro digits
    rw [zpow_add₀ (by norm_num), mul_comm]
  by_cases hcarry : mantissa = twoTo 52 ∧ minExponent < exponent ∧
      (numerator / denominator : ℚ) < 2 ^ (exponent + 52)
  · -- The fraction has one place more than the number, into which the rounding carries.
    obtain ⟨rfl, hmore, hunder⟩ := hcarry
    have hquarter := covers.near_power hmore
    have hhalved : (numerator / denominator / 2 ^ (exponent - 1) : ℚ) =
        2 * (numerator / denominator / 2 ^ exponent) := by
      rw [zpow_sub₀ (by norm_num)]
      field_simp
    have hunder' : (numerator / denominator / 2 ^ exponent : ℚ) < 2 ^ 52 := by
      rw [div_lt_iff₀ hplace]
      exact_mod_cast (hplaces 52) ▸ hunder
    refine ofFraction_eq_of_round (exponent - 1) (twoTo 53) hnumerator ?_ ?_ ?_ hgreatest
    · refine (isExponentOf_exponentOf hnumerator hdenominator).unique
        ⟨by omega, .inr ?_, ?_⟩
      · rw [show exponent - 1 + 52 = exponent + 51 by ring, hplaces, ← le_div_iff₀ hplace]
        rw [zpow_ofNat]
        linarith
      · rwa [show exponent - 1 + 53 = exponent + 52 by ring]
    · refine roundQuotient_eq (scaled_pos numerator (Nat.pos_of_ne_zero hdenominator) _) ?_ ?_ ?_
      · rw [scaled_ratio, hhalved, natCast_twoTo]
        linarith
      · rw [scaled_ratio, hhalved, natCast_twoTo]
        linarith
      · exact fun hodd => absurd hodd (by decide)
    · rw [if_pos rfl, sub_add_cancel]
  · have hlargest : (mantissa : ℚ) ≤ 2 ^ 53 - 1 := by
      have hle : mantissa + 1 ≤ 2 ^ 53 := hsmall
      have hcast : (mantissa + 1 : ℚ) ≤ 2 ^ 53 := by exact_mod_cast hle
      linarith
    refine ofFraction_eq_of_round exponent mantissa hnumerator ?_ ?_ ?_ hgreatest
    · refine (isExponentOf_exponentOf hnumerator hdenominator).unique ⟨hleast, ?_, ?_⟩
      · refine or_iff_not_imp_left.mpr fun hnotleast => ?_
        have hmore : minExponent < exponent := lt_of_le_of_ne hleast (Ne.symm hnotleast)
        have hlarge : twoTo 52 ≤ mantissa := hnormal.resolve_left hnotleast
        rcases Nat.eq_or_lt_of_le hlarge with rfl | hlarger
        · exact not_lt.mp fun hunder => hcarry ⟨rfl, hmore, hunder⟩
        · have hnext : (2 ^ 52 + 1 : ℚ) ≤ mantissa := by
            exact_mod_cast (hlarger : 2 ^ 52 + 1 ≤ mantissa)
          rw [hplaces, ← le_div_iff₀ hplace, zpow_ofNat]
          linarith
      · rw [hplaces, ← div_lt_iff₀ hplace, zpow_ofNat]
        linarith
    · have hpos := scaled_pos numerator (Nat.pos_of_ne_zero hdenominator) exponent
      refine roundQuotient_eq hpos ?_ ?_ ?_ <;> rw [scaled_ratio] <;> assumption
    · rw [if_neg (Nat.ne_of_lt hsmall)]

/-- What rounds to a finite number is neither too small nor too large to be told from the sizes. -/
theorem Rounding.Covers.bounds (canonical : (finite negative mantissa exponent).IsCanonical)
    (hpositive : mantissa ≠ 0) (covers : (rounding mantissa exponent).Covers number) :
    (10 : ℚ) ^ (-401 : Int) ≤ number ∧ number < (10 : ℚ) ^ (400 : Int) := by
  obtain ⟨hsmall, hleast, hgreatest, -⟩ := canonical
  obtain ⟨hbelow, habove, -⟩ := covers.near
  have hplace : (0 : ℚ) < 2 ^ exponent := by positivity
  have hmantissa : (1 : ℚ) ≤ mantissa := by exact_mod_cast Nat.pos_of_ne_zero hpositive
  rw [le_div_iff₀ hplace] at hbelow
  rw [div_le_iff₀ hplace] at habove
  constructor
  · have hpowers : (2 * 2 ^ 1074 : ℚ) ≤ 10 ^ 401 := by
      exact_mod_cast (by decide +kernel : 2 * 2 ^ 1074 ≤ 10 ^ 401)
    have hleast : (10 : ℚ) ^ (-401 : Int) ≤ 1 / 2 * 2 ^ minExponent := by
      change (10 : ℚ) ^ (-(401 : Nat) : Int) ≤ 1 / 2 * 2 ^ (-(1074 : Nat) : Int)
      rw [zpow_neg, zpow_neg, zpow_natCast, zpow_natCast, one_div, ← mul_inv]
      exact inv_anti₀ (by positivity) hpowers
    calc (10 : ℚ) ^ (-401 : Int) ≤ 1 / 2 * 2 ^ minExponent := hleast
      _ ≤ 1 / 2 * 2 ^ exponent := by gcongr; norm_num
      _ ≤ (mantissa - 1 / 2) * 2 ^ exponent := by gcongr; linarith
      _ ≤ number := hbelow
  · have hlargest : (mantissa : ℚ) ≤ 2 ^ 53 := by
      exact_mod_cast (Nat.le_of_lt hsmall : mantissa ≤ 2 ^ 53)
    have hpowers : (2 ^ 54 * 2 ^ 971 : ℚ) < 10 ^ 400 := by
      exact_mod_cast (by decide +kernel : 2 ^ 54 * 2 ^ 971 < 10 ^ 400)
    calc number ≤ (mantissa + 1 / 2) * 2 ^ exponent := habove
      _ ≤ (2 ^ 53 + 1 / 2) * 2 ^ exponent := by gcongr
      _ ≤ (2 ^ 53 + 1 / 2) * 2 ^ maxExponent := by gcongr; norm_num
      _ ≤ 2 ^ 54 * 2 ^ maxExponent := by gcongr; norm_num
      _ < (10 : ℚ) ^ (400 : Int) := hpowers

/-- A number written with some digits lies between the powers of ten next to it. -/
theorem size_bounds {digits : Nat} (hpositive : digits ≠ 0) (power : Int) :
    (10 : ℚ) ^ ((Nat.toDigits 10 digits).length + power - 1) ≤ digits * 10 ^ power ∧
      (digits * 10 ^ power : ℚ) < 10 ^ ((Nat.toDigits 10 digits).length + power) := by
  have hlength : 0 < (Nat.toDigits 10 digits).length :=
    List.length_pos_iff.mpr Nat.toDigits_ne_nil
  have hunder : digits < 10 ^ (Nat.toDigits 10 digits).length :=
    (Nat.length_toDigits_le_iff (by decide) hlength).mp (Nat.le_refl _)
  have hover : 10 ^ ((Nat.toDigits 10 digits).length - 1) ≤ digits := by
    rcases Nat.eq_zero_or_pos ((Nat.toDigits 10 digits).length - 1) with hone | hmore
    · rw [hone]
      exact Nat.pos_of_ne_zero hpositive
    · refine Nat.le_of_not_lt fun hless => ?_
      have := (Nat.length_toDigits_le_iff (by decide) hmore).mpr hless
      omega
  have hscale : (0 : ℚ) < 10 ^ power := by positivity
  constructor
  · rw [show ((Nat.toDigits 10 digits).length : Int) + power - 1 =
        (((Nat.toDigits 10 digits).length - 1 : Nat) : Int) + power by omega,
      zpow_add₀ (by norm_num), zpow_natCast]
    gcongr
    exact_mod_cast hover
  · rw [zpow_add₀ (by norm_num), zpow_natCast]
    gcongr
    exact_mod_cast hunder

theorem ofDecimal_of_covers (canonical : (finite negative mantissa exponent).IsCanonical)
    (hpositive : mantissa ≠ 0) {digits : Nat} {power : Int}
    (covers : (rounding mantissa exponent).Covers (digits * 10 ^ power)) :
    ofDecimal negative digits power = finite negative mantissa exponent := by
  obtain ⟨hleast, hgreatest⟩ := covers.bounds canonical hpositive
  have hdigits : digits ≠ 0 := by
    rintro rfl
    rw [Nat.cast_zero, zero_mul] at hleast
    exact absurd hleast (not_le.mpr (by positivity))
  obtain ⟨hover, hunder⟩ := size_bounds hdigits power
  have hlarge : ¬ (400 : Int) < (Nat.toDigits 10 digits).length + power := fun hsize => by
    have hpowers := (zpow_lt_zpow_iff_right₀ (by norm_num : (1 : ℚ) < 10)).mp
      (hover.trans_lt hgreatest)
    omega
  have hsmall : ¬ (Nat.toDigits 10 digits).length + power < (-400 : Int) := fun hsize => by
    have hpowers := (zpow_lt_zpow_iff_right₀ (by norm_num : (1 : ℚ) < 10)).mp
      (hleast.trans_lt hunder)
    omega
  rw [ofDecimal, if_neg hdigits]
  dsimp only
  rw [if_neg hlarge, if_neg hsmall]
  split
  · rename_i hpower
    refine ofFraction_of_covers canonical hpositive Nat.one_ne_zero ?_
    rwa [Nat.cast_mul, natCast_tenTo, zpow_toNat 10 hpower, Nat.cast_one, div_one]
  · rename_i hpower
    refine ofFraction_of_covers canonical hpositive (Nat.ne_of_gt (Nat.pow_pos (by decide))) ?_
    rwa [natCast_tenTo, zpow_neg_toNat 10 hpower, div_inv_eq_mul]

theorem isCanonical_ofFraction (negative : Bool) (hdenominator : denominator ≠ 0) :
    (ofFraction negative numerator denominator).IsCanonical := by
  by_cases hnumerator : numerator = 0
  · rw [ofFraction, if_pos hnumerator]
    exact ⟨by decide, le_refl _, by decide, .inl rfl⟩
  obtain ⟨hleast, hlow, hhigh⟩ := isExponentOf_exponentOf hnumerator hdenominator
  rw [ofFraction, if_neg hnumerator]
  dsimp only
  generalize exponentOf numerator denominator = found at *
  have hplace : (0 : ℚ) < 2 ^ found := by positivity
  have hpositive := scaled_pos numerator (Nat.pos_of_ne_zero hdenominator) found
  have hratio := scaled_ratio numerator denominator found
  generalize (scaled numerator denominator found).1 = top at *
  generalize (scaled numerator denominator found).2 = bottom at *
  have hsmall : ¬ twoTo 53 ≤ top / bottom := by
    rw [le_div_iff_ratio hpositive, hratio, natCast_twoTo, not_le, div_lt_iff₀ hplace]
    rwa [zpow_add₀ (by norm_num), mul_comm, zpow_ofNat] at hhigh
  have hlarge : found = minExponent ∨ twoTo 52 ≤ top / bottom := by
    refine hlow.imp_right fun hlow => ?_
    rw [le_div_iff_ratio hpositive, hratio, natCast_twoTo, le_div_iff₀ hplace]
    rwa [zpow_add₀ (by norm_num), mul_comm, zpow_ofNat] at hlow
  -- The quotient has at most 53 digits, and rounding adds no more than one to it.
  have hrounded : top / bottom ≤ roundQuotient top bottom ∧
      roundQuotient top bottom ≤ top / bottom + 1 := by
    rw [roundQuotient]
    split
    · omega
    split <;> omega
  generalize roundQuotient top bottom = rounded at *
  split
  · dsimp only
    split
    · trivial
    · rename_i hlimit
      exact ⟨by decide, by omega, not_lt.mp hlimit, .inr (le_refl _)⟩
  · rename_i hfits
    dsimp only
    split
    · trivial
    · rename_i hlimit
      exact ⟨by omega, hleast, not_lt.mp hlimit, hlarge.imp_right hrounded.1.trans'⟩

theorem isCanonical_ofDecimal (negative : Bool) (digits : Nat) (power : Int) :
    (ofDecimal negative digits power).IsCanonical := by
  have hzero : (zero negative).IsCanonical := ⟨by decide, le_refl _, by decide, .inl rfl⟩
  rw [ofDecimal]
  split
  · exact hzero
  dsimp only
  split
  · trivial
  split
  · exact hzero
  split
  · exact isCanonical_ofFraction negative Nat.one_ne_zero
  · exact isCanonical_ofFraction negative (Nat.ne_of_gt (Nat.pow_pos (by decide)))

end Nearest

section Search

variable {mantissa : Nat} {exponent : Int} {r : Rounding} {d : Decimal} {power : Int}

theorem le_digits_iff (quarters : Nat) :
    (r.inUnits quarters d.power).1 ≤ d.digits * (r.inUnits quarters d.power).2 ↔
      r.inQuarters quarters ≤ d.value := by
  have hscale : (0 : ℚ) < 10 ^ d.power := by positivity
  have hbottom : (0 : ℚ) < (r.inUnits quarters d.power).2 := Nat.cast_pos.mpr (inUnits_pos ..)
  rw [Decimal.value, ← div_le_iff₀ hscale, ← inUnits_ratio, div_le_iff₀ hbottom]
  norm_cast

theorem digits_le_iff (quarters : Nat) :
    d.digits * (r.inUnits quarters d.power).2 ≤ (r.inUnits quarters d.power).1 ↔
      d.value ≤ r.inQuarters quarters := by
  have hscale : (0 : ℚ) < 10 ^ d.power := by positivity
  have hbottom : (0 : ℚ) < (r.inUnits quarters d.power).2 := Nat.cast_pos.mpr (inUnits_pos ..)
  rw [Decimal.value, ← le_div_iff₀ hscale, ← inUnits_ratio, le_div_iff₀ hbottom]
  norm_cast

theorem contains_iff_covers : r.contains d = true ↔ r.Covers d.value := by
  have hlow := le_digits_iff (r := r) (d := d) r.low
  have hhigh := digits_le_iff (r := r) (d := d) r.high
  have hunder := not_congr (digits_le_iff (r := r) (d := d) r.low)
  have hover := not_congr (le_digits_iff (r := r) (d := d) r.high)
  rw [not_le, not_le] at hunder hover
  unfold Rounding.contains
  dsimp only
  split
  · rename_i hclosed
    rw [Bool.and_eq_true, decide_eq_true_eq, decide_eq_true_eq, hlow, hhigh]
    refine ⟨fun ⟨hlow, hhigh⟩ => ⟨hlow, hhigh, fun hopen => ?_⟩, fun covers => ?_⟩
    · rw [hclosed] at hopen
      cases hopen
    · exact ⟨covers.low, covers.high⟩
  · rename_i hclosed
    rw [Bool.and_eq_true, decide_eq_true_eq, decide_eq_true_eq, hunder, hover]
    refine ⟨fun hinside => ⟨hinside.1.le, hinside.2.le, fun _ => hinside⟩, fun covers => ?_⟩
    exact covers.inside (eq_false_of_ne_true hclosed)

def Rounding.Admits (r : Rounding) (d : Decimal) : Prop :=
  d.digits ≠ 0 ∧ r.contains d = true

theorem admits_of_nearest? (hnearest : r.nearest? power = some d) : r.Admits d := by
  have hcheck : ∀ first second : Decimal,
      (if first.digits ≠ 0 && r.contains first then some first
        else if second.digits ≠ 0 && r.contains second then some second else none) = some d →
      r.Admits d := by
    intro first second hfound
    split at hfound
    · rename_i hfirst
      cases hfound
      rwa [Bool.and_eq_true, decide_eq_true_eq] at hfirst
    split at hfound
    · rename_i hsecond
      cases hfound
      rwa [Bool.and_eq_true, decide_eq_true_eq] at hsecond
    · cases hfound
  exact hcheck _ _ hnearest

theorem isSome_of_admits {first second : Decimal} (admits : r.Admits first ∨ r.Admits second) :
    (if first.digits ≠ 0 && r.contains first then some first
      else if second.digits ≠ 0 && r.contains second then some second else none).isSome := by
  unfold Rounding.Admits at admits
  split
  · rfl
  · rename_i hfirst
    rw [Bool.and_eq_true, decide_eq_true_eq] at hfirst
    rw [if_pos (by rw [Bool.and_eq_true, decide_eq_true_eq]; exact admits.resolve_left hfirst)]
    rfl

/-- On a grid that is fine enough, the value or the number above it is in the interval. -/
theorem isSome_nearest? (hpositive : r.value ≠ 0) (hlow : r.low < r.value)
    (hwide : (10 : ℚ) ^ power ≤ r.inQuarters r.high - r.inQuarters r.value) :
    (r.nearest? power).isSome := by
  have hscale : (0 : ℚ) < 10 ^ power := by positivity
  have hbottom := inUnits_pos r r.value power
  have hratio := inUnits_ratio r r.value power
  have hunder : r.inQuarters r.low < r.inQuarters r.value := by
    rw [Rounding.inQuarters, Rounding.inQuarters]
    gcongr
  have hsome : 0 < r.inQuarters r.value := by
    have hcount : (0 : ℚ) < r.value := Nat.cast_pos.mpr (Nat.pos_of_ne_zero hpositive)
    rw [Rounding.inQuarters]
    positivity
  unfold Rounding.nearest?
  dsimp only
  generalize (r.inUnits r.value power).1 = top at *
  generalize (r.inUnits r.value power).2 = bottom at *
  have hcast : (0 : ℚ) < bottom := Nat.cast_pos.mpr hbottom
  have hvalue : r.inQuarters r.value = top / bottom * 10 ^ power := by
    rw [hratio, div_mul_cancel₀ _ hscale.ne']
  have hdivided := Nat.div_add_mod top bottom
  -- A value on the grid is in its own interval. Otherwise the next number of the grid is, for the
  -- upper half of the interval is no narrower than the grid.
  by_cases hexact : top % bottom = 0
  · have hwhole : ((top / bottom : Nat) : ℚ) = top / bottom := by
      rw [eq_div_iff hcast.ne']
      rw [hexact, Nat.add_zero, Nat.mul_comm] at hdivided
      exact_mod_cast hdivided
    have hsame : Decimal.value ⟨top / bottom, power⟩ = r.inQuarters r.value := by
      rw [hvalue, ← hwhole]
      rfl
    have hadmits : r.Admits ⟨top / bottom, power⟩ := by
      refine ⟨fun hzero => ?_, contains_iff_covers.mpr ?_⟩
      · change top / bottom = 0 at hzero
        rw [hvalue, ← hwhole, hzero, Nat.cast_zero, zero_mul] at hsome
        exact lt_irrefl _ hsome
      · rw [hsame]
        exact Rounding.covers_of_inside hunder (by linarith)
    rw [hexact, if_pos hbottom]
    exact isSome_of_admits (.inl hadmits)
  · have habove : (top / bottom : ℚ) < (top / bottom : Nat) + 1 ∧
        ((top / bottom : Nat) : ℚ) < top / bottom := by
      rw [div_lt_iff₀ hcast, lt_div_iff₀ hcast]
      constructor
      · have hless : top < (top / bottom + 1) * bottom := by
          rw [Nat.succ_mul, Nat.mul_comm]
          have := Nat.mod_lt top hbottom
          omega
        exact_mod_cast hless
      · have hmore : top / bottom * bottom < top := by
          rw [Nat.mul_comm]
          omega
        exact_mod_cast hmore
    have hsame : Decimal.value ⟨top / bottom + 1, power⟩ =
        ((top / bottom : Nat) + 1) * 10 ^ power := by
      rw [Decimal.value]
      push_cast
      rfl
    have hadmits : r.Admits ⟨top / bottom + 1, power⟩ := by
      refine ⟨Nat.succ_ne_zero _, contains_iff_covers.mpr ?_⟩
      rw [hsame]
      refine Rounding.covers_of_inside (hunder.trans ?_) ?_
      · rw [hvalue]
        exact mul_lt_mul_of_pos_right habove.1 hscale
      · have hstep : ((top / bottom : Nat) : ℚ) * 10 ^ power < r.inQuarters r.value := by
          rw [hvalue]
          exact mul_lt_mul_of_pos_right habove.2 hscale
        rw [add_mul, one_mul]
        linarith
    split
    · exact isSome_of_admits (.inr hadmits)
    split
    · exact isSome_of_admits (.inl hadmits)
    split
    · exact isSome_of_admits (.inr hadmits)
    · exact isSome_of_admits (.inl hadmits)

/-- The search ends with a suitable decimal if there is one on some grid that it reaches. -/
theorem admits_search {fuel : Nat} {depth : Nat} (hdepth : depth < fuel)
    (hfound : (r.nearest? (power - depth)).isSome) : r.Admits (r.search fuel power) := by
  induction fuel generalizing power depth with
  | zero => cases hdepth
  | succ fuel induction =>
      unfold Rounding.search
      split
      · exact admits_of_nearest? ‹_›
      · rename_i hnone
        cases depth with
        | zero =>
            rw [Int.natCast_zero, sub_zero, hnone] at hfound
            cases hfound
        | succ depth =>
            refine induction (Nat.lt_of_succ_lt_succ hdepth) ?_
            rwa [show power - 1 - (depth : Int) = power - (depth + 1 : Nat) by push_cast; ring]

/-- Powers of ten and of two compared by approximations of the logarithm. -/
theorem ten_zpow_le_two_zpow {tens twos : Int} (hpositive : 309 * tens ≤ 93 * twos)
    (hnegative : 93 * tens ≤ 28 * twos) : (10 : ℚ) ^ tens ≤ 2 ^ twos := by
  rcases le_total 0 twos with hsign | hsign
  · refine (pow_le_pow_iff_left₀ (by positivity) (by positivity) (n := 309) (by decide)).mp ?_
    calc ((10 : ℚ) ^ tens) ^ 309 = 10 ^ (309 * tens) := by
          rw [mul_comm, zpow_mul]
          rfl
      _ ≤ 10 ^ (93 * twos) := zpow_le_zpow_right₀ (by norm_num) hpositive
      _ = ((10 : ℚ) ^ 93) ^ twos := by
          rw [zpow_mul]
          rfl
      _ ≤ ((2 : ℚ) ^ 309) ^ twos := by
          refine zpow_le_zpow_left₀ hsign (by positivity) ?_
          exact_mod_cast (by decide +kernel : 10 ^ 93 ≤ 2 ^ 309)
      _ = ((2 : ℚ) ^ twos) ^ 309 := by
          rw [← zpow_natCast, ← zpow_natCast, ← zpow_mul, ← zpow_mul, mul_comm]
  · obtain ⟨count, rfl⟩ : ∃ count : Nat, twos = -count := ⟨(-twos).toNat, by omega⟩
    refine (pow_le_pow_iff_left₀ (by positivity) (by positivity) (n := 93) (by decide)).mp ?_
    calc ((10 : ℚ) ^ tens) ^ 93 = 10 ^ (93 * tens) := by
          rw [mul_comm, zpow_mul]
          rfl
      _ ≤ 10 ^ (28 * -(count : Int)) := zpow_le_zpow_right₀ (by norm_num) hnegative
      _ = (((10 : ℚ) ^ 28) ^ count)⁻¹ := by
          rw [zpow_mul, zpow_neg, zpow_natCast]
          rfl
      _ ≤ (((2 : ℚ) ^ 93) ^ count)⁻¹ := by
          refine inv_anti₀ (by positivity) (pow_le_pow_left₀ (by positivity) ?_ count)
          exact_mod_cast (by decide +kernel : 2 ^ 93 ≤ 10 ^ 28)
      _ = ((2 : ℚ) ^ (-(count : Int))) ^ 93 := by
          rw [zpow_neg, zpow_natCast, inv_pow, ← pow_mul, ← pow_mul, Nat.mul_comm]

theorem admits_shortest (negative : Bool)
    (canonical : (finite negative mantissa exponent).IsCanonical) (hpositive : mantissa ≠ 0) :
    (rounding mantissa exponent).Admits (shortest mantissa exponent) := by
  obtain ⟨hsmall, hleast, hgreatest, -⟩ := canonical
  let r := rounding mantissa exponent
  have hsome : 4 * mantissa ≠ 0 := by omega
  have hfew : 2 ≤ (4 * mantissa).log2 := (Nat.le_log2 hsome).mpr (by omega)
  have hmany : (4 * mantissa).log2 < 55 := (Nat.log2_lt hsome).mpr (by
    change mantissa < 2 ^ 53 at hsmall
    omega)
  have hplaces : r.places - 19 =
      (if 0 ≤ ((4 * mantissa).log2 : Int) + (exponent - 2) + 1 then
        (((4 * mantissa).log2 : Int) + (exponent - 2) + 1) * 30103 / 100000 + 1
      else -((-(((4 * mantissa).log2 : Int) + (exponent - 2) + 1)) * 30102 / 100000) + 1) - 19 :=
    rfl
  have hwide : (10 : ℚ) ^ (r.places - 19) ≤ r.inQuarters r.high - r.inQuarters r.value := by
    have hwidth : r.inQuarters r.high - r.inQuarters r.value = 2 ^ (exponent - 1) := by
      change ((4 * mantissa + 2 : Nat) : ℚ) * 2 ^ (exponent - 2) -
        ((4 * mantissa : Nat) : ℚ) * 2 ^ (exponent - 2) = _
      rw [show exponent - 1 = exponent - 2 + 1 by ring, zpow_add_one₀ (by norm_num)]
      push_cast
      ring
    rw [hwidth, hplaces]
    change -1074 ≤ exponent at hleast
    change exponent ≤ 971 at hgreatest
    refine ten_zpow_le_two_zpow ?_ ?_
    · split <;> omega
    · split <;> omega
  refine admits_search (by decide : 19 < 20) (isSome_nearest? hsome ?_ hwide)
  change 4 * mantissa - _ < 4 * mantissa
  split <;> omega

end Search

section Written

variable {digits whole part : List Char} {point : Int}

theorem digitsValue_append (value : Nat) (front back : List Char) :
    digitsValue value (front ++ back) = digitsValue (digitsValue value front) back :=
  List.foldl_append

theorem digitsValue_replicate (value count : Nat) :
    digitsValue value (List.replicate count '0') = value * 10 ^ count := by
  induction count generalizing value with
  | zero => exact (Nat.mul_one value).symm
  | succ count induction =>
      have hdigit : digitsValue value (List.replicate (count + 1) '0') =
          digitsValue (10 * value) (List.replicate count '0') := rfl
      rw [hdigit, induction, Nat.pow_succ]
      ring

theorem exists_eq_stripZeros_append (digits : List Char) :
    ∃ count, digits = stripZeros digits ++ List.replicate count '0' := by
  let zeros := digits.reverse.takeWhile (· == '0')
  refine ⟨zeros.length, ?_⟩
  have hzeros : zeros.reverse = List.replicate zeros.length '0' := by
    refine List.eq_replicate_iff.mpr ⟨List.length_reverse, fun c member => ?_⟩
    have hzero := List.mem_reverse.mp member
    exact eq_of_beq (List.mem_takeWhile_imp (p := (· == '0')) hzero)
  rw [← hzeros, stripZeros, ← List.reverse_append, List.takeWhile_append_dropWhile,
    List.reverse_reverse]

theorem floatOfNumeral_signed (negative : Bool) (hwhole : IsDigits whole) :
    floatOfNumeral (signed negative (whole ++ '.' :: part)) =
      ofDecimal negative (digitsValue 0 (whole ++ part)) (-part.length) := by
  have hsplit : splitSign (signed negative (whole ++ '.' :: part)) =
      (negative, whole ++ '.' :: part) := by
    refine splitSign_signed negative fun c hhead => ?_
    cases whole with
    | nil =>
        cases hhead
        exact ⟨by decide, by decide⟩
    | cons d whole => exact hwhole.head_plain c hhead
  have hspan : (whole ++ '.' :: part).span (· ≠ '.') = (whole, '.' :: part) := by
    refine Grammar.Lexeme.span_of_stops (fun c member => ?_) (fun c hhead => ?_)
    · exact decide_eq_true (ne_of_isDigit (hwhole c member) (by decide))
    · cases hhead
      rfl
  rw [floatOfNumeral, hsplit]
  dsimp only
  rw [hspan]
  dsimp only
  rw [List.drop_succ_cons, List.drop_zero, digitsValue_append]

/-- Digits with a point in them denote the number that they are laid out for. -/
theorem exists_layout (hdigits : IsDigits digits) (hpoint : -4 < point ∧ point ≤ 16) :
    ∃ whole part, layout digits point = whole ++ '.' :: part ∧ whole ≠ [] ∧ IsDigits whole ∧
      IsDigits part ∧ (digitsValue 0 (whole ++ part) * 10 ^ (-part.length : Int) : ℚ) =
        digitsValue 0 digits * 10 ^ (point - digits.length) := by
  unfold layout
  dsimp only
  rw [if_pos hpoint]
  -- Zeros stand in front of the digits, behind them, or the point falls among them.
  split
  · refine ⟨['0'], List.replicate (-point).toNat '0' ++ digits, rfl, List.cons_ne_nil _ _,
      isDigits_zeros 1, List.forall_mem_append.mpr ⟨isDigits_zeros _, hdigits⟩, ?_⟩
    have hvalue : digitsValue 0 (['0'] ++ (List.replicate (-point).toNat '0' ++ digits)) =
        digitsValue 0 digits := by
      rw [digitsValue_append, digitsValue_append, show digitsValue 0 ['0'] = 0 from rfl,
        digitsValue_replicate, Nat.zero_mul]
    have hpower : (-(List.replicate (-point).toNat '0' ++ digits).length : Int) =
        point - digits.length := by
      rw [List.length_append, List.length_replicate]
      omega
    rw [hvalue, hpower]
  split
  · rename_i hfew
    obtain ⟨count, hcount⟩ : ∃ count : Nat, point = digits.length + count :=
      ⟨(point - digits.length).toNat, by omega⟩
    refine ⟨digits ++ List.replicate (point - digits.length).toNat '0', ['0'], ?_, ?_, ?_,
      isDigits_zeros 1, ?_⟩
    · rw [List.append_assoc]
    · refine List.ne_nil_of_length_pos ?_
      rw [List.length_append, List.length_replicate]
      omega
    · exact List.forall_mem_append.mpr ⟨hdigits, isDigits_zeros _⟩
    · have hzeros : (point - digits.length).toNat = count := by omega
      rw [hzeros, digitsValue_append, digitsValue_append, digitsValue_replicate,
        show ['0'] = List.replicate 1 '0' from rfl, digitsValue_replicate, List.length_replicate,
        show point - digits.length = (count : Int) by omega, zpow_natCast, zpow_neg, zpow_natCast]
      push_cast
      field_simp
  · refine ⟨digits.take point.toNat, digits.drop point.toNat, rfl, ?_, ?_, ?_, ?_⟩
    · refine List.ne_nil_of_length_pos ?_
      rw [List.length_take]
      omega
    · exact fun c member => hdigits c (List.mem_of_mem_take member)
    · exact fun c member => hdigits c (List.mem_of_mem_drop member)
    · have hpower : (-(digits.drop point.toNat).length : Int) = point - digits.length := by
        rw [List.length_drop]
        omega
      rw [List.take_append_drop, hpower]

theorem exponent_mem_layout (hpoint : ¬ (-4 < point ∧ point ≤ 16)) : 'e' ∈ layout digits point := by
  unfold layout
  dsimp only
  rw [if_neg hpoint]
  exact List.mem_append_right _ List.mem_cons_self

/-- The digits of the shortest decimal, without the zeros at their end, denote it. -/
theorem value_stripZeros (d : Decimal) :
    (digitsValue 0 (stripZeros (Nat.toDigits 10 d.digits)) *
      10 ^ ((Nat.toDigits 10 d.digits).length + d.power -
        (stripZeros (Nat.toDigits 10 d.digits)).length) : ℚ) = d.value := by
  obtain ⟨count, hcount⟩ := exists_eq_stripZeros_append (Nat.toDigits 10 d.digits)
  have hvalue := digitsValue_toDigits d.digits
  generalize Nat.toDigits 10 d.digits = digits at *
  generalize stripZeros digits = front at *
  rw [hcount, digitsValue_append, digitsValue_replicate] at hvalue
  have hpower : (digits.length : Int) + d.power - front.length = count + d.power := by
    rw [hcount, List.length_append, List.length_replicate]
    push_cast
    ring
  rw [hpower, zpow_add₀ (by norm_num), zpow_natCast, Decimal.value, ← hvalue]
  push_cast
  ring

/-- A number other than zero is written with digits that stand for a number rounded to it. -/
theorem exists_digits {negative : Bool} {mantissa : Nat} {exponent : Int}
    (canonical : (finite negative mantissa exponent).IsCanonical) (hpositive : mantissa ≠ 0) :
    ∃ digits point, (finite negative mantissa exponent).text.toList =
        signed negative (layout digits point) ∧
      digits ≠ [] ∧ (∀ c ∈ digits, c.isDigit = true) ∧
      (rounding mantissa exponent).Covers
        (digitsValue 0 digits * 10 ^ (point - digits.length : Int)) := by
  obtain ⟨hsome, hcontains⟩ := admits_shortest negative canonical hpositive
  let d := shortest mantissa exponent
  have hvalue := value_stripZeros d
  refine ⟨stripZeros (Nat.toDigits 10 d.digits), (Nat.toDigits 10 d.digits).length + d.power,
    ?_, ?_, ?_, ?_⟩
  · rw [text, String.toList_ofList, if_neg hpositive]
    rfl
  · intro hempty
    have hzero : d.value = 0 := by
      rw [← hvalue, hempty]
      exact zero_mul _
    have hscale : (10 : ℚ) ^ d.power ≠ 0 := by positivity
    exact hsome (by exact_mod_cast (mul_eq_zero.mp hzero).resolve_right hscale)
  · intro c member
    obtain ⟨count, hcount⟩ := exists_eq_stripZeros_append (Nat.toDigits 10 d.digits)
    have hmem : c ∈ Nat.toDigits 10 d.digits := by
      rw [hcount]
      exact List.mem_append_left _ member
    exact Nat.isDigit_of_mem_toDigits (by decide) (by decide) hmem
  · rw [hvalue]
    exact contains_iff_covers.mp hcontains

/-- A number that is written with a point and without an exponent is read back. -/
theorem isExact_of_isPositional {x : Binary64} (canonical : x.IsCanonical)
    (hpositional : x.IsPositional) : x.IsExact := by
  cases x with
  | nan label =>
      rw [IsPositional, show (nan label).text = "nan" from rfl] at hpositional
      cases hpositional
  | infinite negative =>
      exact absurd hpositional (not_isPositional (.inr (by cases negative <;> simp [text])))
  | finite negative mantissa exponent =>
      by_cases hzero : mantissa = 0
      · subst hzero
        obtain ⟨-, -, -, hleast⟩ := canonical
        rw [hleast.resolve_right (by decide)]
        cases negative <;> rfl
      · obtain ⟨digits, point, hwritten, -, hascii, covers⟩ := exists_digits canonical hzero
        have hpoint : -4 < point ∧ point ≤ 16 := by
          by_contra hfar
          refine not_isPositional (.inl ?_) hpositional
          rw [hwritten]
          cases negative with
          | true => exact List.mem_cons_of_mem _ (exponent_mem_layout hfar)
          | false => exact exponent_mem_layout hfar
        have hdigits : IsDigits digits := fun c member => isDigit_of_isDigit (hascii c member)
        obtain ⟨whole, part, hlayout, -, hwhole, -, hvalue⟩ := exists_layout hdigits hpoint
        rw [IsExact, hwritten, hlayout, floatOfNumeral_signed negative hwhole]
        refine ofDecimal_of_covers canonical hzero ?_
        rw [hvalue]
        exact covers

end Written

end TreeMatch.Number.Binary64
