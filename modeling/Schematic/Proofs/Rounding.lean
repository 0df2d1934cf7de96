import Mathlib.Algebra.Order.Field.Power
import Mathlib.Tactic.FieldSimp
import Mathlib.Tactic.Linarith
import Mathlib.Tactic.Ring
import Schematic.Decimal.Shortest

namespace Schematic

theorem zpow_eq_div {a : ℚ} (ha : a ≠ 0) (n : ℤ) : a ^ n = a ^ n.toNat / a ^ (-n).toNat := by
  rw [eq_div_iff (pow_ne_zero _ ha), ← zpow_natCast a (-n).toNat, ← zpow_natCast a n.toNat, ← zpow_add₀ ha]
  congr 1
  omega

namespace Binary64

variable {x : Binary64}

theorem toNat_bits_eq (x : Binary64) :
    x.bits.toNat = signBit x.negative + (x.exponent + 1074).toNat * 2 ^ 52 + x.significand := by
  have hbound : x.bits.toNat < 2 ^ 64 := x.bits.toNat_lt
  simp only [signBit, negative, exponent, significand, exponentField, fraction, Nat.pow_eq, decide_eq_true_eq]
  by_cases hfield : x.bits.toNat / 2 ^ 52 % 2 ^ 11 = 0 <;> by_cases hneg : x.bits.toNat / 2 ^ 63 = 1 <;>
    simp only [hfield, hneg, if_true, if_false] <;> omega

theorem eq_ofNat_bits (x : Binary64) :
    x = ⟨UInt64.ofNat (signBit x.negative + ((x.exponent + 1074).toNat * Nat.pow 2 52 + x.significand))⟩ := by
  rw [← Nat.add_assoc, Nat.pow_eq, ← toNat_bits_eq, UInt64.ofNat_toNat]

theorem significand_lt (x : Binary64) : x.significand < 2 ^ 53 := by
  simp only [significand, fraction, Nat.pow_eq]
  split <;> omega

theorem exponent_bounds (h : x.isFinite = true) : -1074 ≤ x.exponent ∧ x.exponent ≤ 971 := by
  have hfield : x.exponentField ≠ 2047 := of_decide_eq_true h
  have hsmall : x.exponentField < 2 ^ 11 := Nat.mod_lt _ (by decide)
  simp only [exponent]
  split <;> omega

/-- The distance to the number below is that to the number above, except at a power of two. -/
theorem lowerEnd_cases (x : Binary64) (hpos : 0 < x.significand) :
    (x.lowerEnd + 1 = 4 * x.significand ∧ x.significand = 2 ^ 52 ∧ -1074 < x.exponent) ∨
    (x.lowerEnd + 2 = 4 * x.significand ∧ (2 ^ 52 < x.significand ∨ x.exponent = -1074)) := by
  simp only [lowerEnd, Bool.and_eq_true, decide_eq_true_eq]
  split
  · rename_i h
    refine .inl ⟨by omega, ?_, ?_⟩
    · simp [significand, h.1, show x.exponentField ≠ 0 by omega]
    · simp only [exponent, show x.exponentField ≠ 0 by omega, if_false]
      omega
  · rename_i h
    refine .inr ⟨by omega, ?_⟩
    simp only [significand, exponent, Nat.pow_eq]
    split <;> omega

/-- A quarter of the last place of `x`. -/
def quarter (x : Binary64) : ℚ := 2 ^ (x.exponent - 2)

theorem quarter_pos (x : Binary64) : 0 < x.quarter := by unfold quarter; positivity

/-- The positive numbers to which no other number is nearer than `x` by its size; half-way the even one counts. -/
structure IsNearest (x : Binary64) (q : ℚ) : Prop where
  lower : x.lowerEnd * x.quarter ≤ q
  upper : q ≤ x.upperEnd * x.quarter
  even : q = x.lowerEnd * x.quarter ∨ q = x.upperEnd * x.quarter → x.significand % 2 = 0

theorem compareGrid_eq (x : Binary64) (digits : Nat) (place : ℤ) (quarters : Nat) :
    (x.compareGrid digits place quarters = .lt ↔ (digits : ℚ) * 10 ^ place < quarters * x.quarter) ∧
    (x.compareGrid digits place quarters = .eq ↔ (digits : ℚ) * 10 ^ place = quarters * x.quarter) ∧
    (x.compareGrid digits place quarters = .gt ↔ quarters * x.quarter < (digits : ℚ) * 10 ^ place) := by
  let c : ℚ := 10 ^ (-place).toNat * 2 ^ (-(x.exponent - 2)).toNat
  have hc : 0 < c := by positivity
  have hleft : ((digits * Nat.pow 10 place.toNat * Nat.pow 2 (-(x.exponent - 2)).toNat : Nat) : ℚ) =
      digits * 10 ^ place * c := by
    simp only [zpow_eq_div (by norm_num : (10 : ℚ) ≠ 0) place, c, Nat.pow_eq]
    push_cast
    field_simp
  have hright : ((quarters * Nat.pow 2 (x.exponent - 2).toNat * Nat.pow 10 (-place).toNat : Nat) : ℚ) =
      quarters * x.quarter * c := by
    simp only [quarter, zpow_eq_div (by norm_num : (2 : ℚ) ≠ 0) (x.exponent - 2), c, Nat.pow_eq]
    push_cast
    field_simp
  simp only [compareGrid, compare_lt_iff_lt, compare_eq_iff_eq, compare_gt_iff_gt,
    ← Nat.cast_lt (α := ℚ), ← Nat.cast_inj (R := ℚ), hleft, hright]
  simp only [mul_lt_mul_iff_left₀ hc, mul_left_inj' hc.ne', and_self]

/-- The test that the search makes is the one for the interval. -/
theorem readsBack_iff (x : Binary64) (digits : Nat) (place : ℤ) :
    x.readsBack digits place = true ↔ x.IsNearest (digits * 10 ^ place) := by
  obtain ⟨-, heqLow, hgt⟩ := compareGrid_eq x digits place x.lowerEnd
  obtain ⟨hlt, heqHigh, -⟩ := compareGrid_eq x digits place x.upperEnd
  simp only [readsBack, Bool.and_eq_true, Bool.or_eq_true, decide_eq_true_eq, hgt, heqLow, hlt, heqHigh]
  constructor
  · rintro ⟨hlow, hhigh⟩
    refine ⟨hlow.elim le_of_lt fun h => h.1.ge, hhigh.elim le_of_lt fun h => h.1.le, ?_⟩
    rintro (heq | heq)
    · exact hlow.elim (fun h => absurd heq h.ne') (·.2)
    · exact hhigh.elim (fun h => absurd heq h.ne) (·.2)
  · rintro ⟨hlow, hhigh, heven⟩
    refine ⟨hlow.lt_or_eq.imp_right fun h => ⟨h.symm, heven (.inl h.symm)⟩, ?_⟩
    exact hhigh.lt_or_eq.imp_right fun h => ⟨h, heven (.inr h)⟩

/-- A quotient is rounded to the integer that is within one half of it, half-way to the even one. -/
theorem roundHalfEven_eq {n d s : Nat} (hd : 0 < d) (hlow : (s : ℚ) - 1 / 2 ≤ n / d) (hhigh : (n : ℚ) / d ≤ s + 1 / 2)
    (heven : (n : ℚ) / d = s - 1 / 2 ∨ (n : ℚ) / d = s + 1 / 2 → s % 2 = 0) : roundHalfEven n d = s := by
  have hdq : (0 : ℚ) < d := by exact_mod_cast hd
  have hlow' : 2 * s * d ≤ 2 * n + d := by
    rw [le_div_iff₀ hdq] at hlow
    have : (2 : ℚ) * s * d ≤ 2 * n + d := by linarith
    exact_mod_cast this
  have hhigh' : 2 * n ≤ (2 * s + 1) * d := by
    rw [div_le_iff₀ hdq] at hhigh
    have : (2 : ℚ) * n ≤ (2 * s + 1) * d := by linarith
    exact_mod_cast this
  have heven' : 2 * s * d = 2 * n + d ∨ 2 * n = (2 * s + 1) * d → s % 2 = 0 := by
    intro h
    apply heven
    rw [div_eq_iff hdq.ne', div_eq_iff hdq.ne']
    rcases h with h | h
    · left
      have : (2 : ℚ) * s * d = 2 * n + d := by exact_mod_cast h
      linarith
    · right
      have : (2 : ℚ) * n = (2 * s + 1) * d := by exact_mod_cast h
      linarith
  have hdiv : n = d * (n / d) + n % d := (Nat.div_add_mod n d).symm
  have hmod : n % d < d := Nat.mod_lt n hd
  simp only [roundHalfEven]
  generalize n / d = q at hdiv
  generalize n % d = r at hdiv hmod
  subst hdiv
  have hsq : s ≤ q + 1 := by nlinarith
  have hqs : q ≤ s := by nlinarith
  rcases (show s = q ∨ s = q + 1 by omega) with rfl | rfl
  · have hr : 2 * r ≤ d := by nlinarith
    have htie : 2 * r = d → s % 2 = 0 := fun h => heven' (.inr (by rw [← h]; ring))
    rw [if_pos]
    simp only [Bool.or_eq_true, Bool.and_eq_true, decide_eq_true_eq]
    omega
  · have hr : d ≤ 2 * r := by nlinarith
    have htie : 2 * r = d → (q + 1) % 2 = 0 := fun h => heven' (.inl (by rw [← h]; ring))
    rw [if_neg]
    simp only [Bool.or_eq_true, Bool.and_eq_true, decide_eq_true_eq]
    omega

theorem log2Ratio_spec {n d : Nat} (hn : 0 < n) (hd : 0 < d) :
    (2 : ℚ) ^ log2Ratio n d ≤ n / d ∧ (n : ℚ) / d < 2 ^ (log2Ratio n d + 1) := by
  have hdq : (0 : ℚ) < d := by exact_mod_cast hd
  have hnLow : (2 : ℚ) ^ Nat.log2 n ≤ n := by exact_mod_cast Nat.log2_self_le hn.ne'
  have hnHigh : (n : ℚ) < 2 ^ (Nat.log2 n + 1) := by exact_mod_cast Nat.lt_log2_self
  have hdLow : (2 : ℚ) ^ Nat.log2 d ≤ d := by exact_mod_cast Nat.log2_self_le hd.ne'
  have hdHigh : (d : ℚ) < 2 ^ (Nat.log2 d + 1) := by exact_mod_cast Nat.lt_log2_self
  let k : ℤ := (Nat.log2 n : ℤ) - Nat.log2 d
  have hk : (2 : ℚ) ^ k = 2 ^ Nat.log2 n / 2 ^ Nat.log2 d := by
    rw [zpow_sub₀ (by norm_num), zpow_natCast, zpow_natCast]
  have hbelow : (2 : ℚ) ^ (k - 1) ≤ n / d := by
    rw [zpow_sub_one₀ (by norm_num), hk, ← div_eq_mul_inv, div_div, ← pow_succ]
    exact div_le_div₀ (by positivity) hnLow hdq hdHigh.le
  have habove : (n : ℚ) / d < 2 ^ (k + 1) := by
    rw [zpow_add_one₀ (by norm_num), hk, div_mul_eq_mul_div, ← pow_succ]
    exact div_lt_div₀ hnHigh hdLow (by positivity) (by positivity)
  have htest : (if 0 ≤ k then n < d * Nat.pow 2 k.toNat else n * Nat.pow 2 (-k).toNat < d) ↔ (n : ℚ) / d < 2 ^ k := by
    rw [zpow_eq_div (by norm_num) k, div_lt_div_iff₀ hdq (by positivity)]
    split
    · rename_i h
      simp only [show (-k).toNat = 0 by omega, pow_zero, mul_one, Nat.pow_eq]
      rw [mul_comm d]
      exact_mod_cast Iff.rfl
    · rename_i h
      simp only [show k.toNat = 0 by omega, pow_zero, one_mul, Nat.pow_eq]
      exact_mod_cast Iff.rfl
  have hlog : log2Ratio n d = if (n : ℚ) / d < 2 ^ k then k - 1 else k := if_congr htest rfl rfl
  rw [hlog]
  split
  · rename_i h
    exact ⟨hbelow, by rwa [sub_add_cancel]⟩
  · rename_i h
    exact ⟨not_lt.mp h, habove⟩

theorem log2Ratio_lt {n d : Nat} (hn : 0 < n) (hd : 0 < d) {e : ℤ} (h : (n : ℚ) / d < 2 ^ e) : log2Ratio n d < e :=
  (zpow_lt_zpow_iff_right₀ (by norm_num)).mp ((log2Ratio_spec hn hd).1.trans_lt h)

theorem le_log2Ratio {n d : Nat} (hn : 0 < n) (hd : 0 < d) {e : ℤ} (h : (2 : ℚ) ^ e ≤ n / d) : e ≤ log2Ratio n d := by
  have hlt : e < log2Ratio n d + 1 :=
    (zpow_lt_zpow_iff_right₀ (by norm_num : (1 : ℚ) < 2)).mp (h.trans_lt (log2Ratio_spec hn hd).2)
  omega

/-- A ratio as a multiple of `2 ^ e`, rounded. -/
def inUnits (n d : Nat) (e : ℤ) : Nat :=
  if 0 ≤ e then roundHalfEven n (d * Nat.pow 2 e.toNat) else roundHalfEven (n * Nat.pow 2 (-e).toNat) d

theorem inUnits_eq {n d s : Nat} (hd : 0 < d) {e : ℤ} (hlow : ((s : ℚ) - 1 / 2) * 2 ^ e ≤ n / d)
    (hhigh : (n : ℚ) / d ≤ (s + 1 / 2) * 2 ^ e)
    (heven : (n : ℚ) / d = (s - 1 / 2) * 2 ^ e ∨ (n : ℚ) / d = (s + 1 / 2) * 2 ^ e → s % 2 = 0) :
    inUnits n d e = s := by
  have hu : (0 : ℚ) < 2 ^ e := by positivity
  have hunits : (n : ℚ) / d / 2 ^ e = (n * Nat.pow 2 (-e).toNat : Nat) / (d * Nat.pow 2 e.toNat : Nat) := by
    rw [zpow_eq_div (by norm_num) e]
    push_cast [Nat.pow_eq]
    field_simp
  rw [← le_div_iff₀ hu, hunits] at hlow
  rw [← div_le_iff₀ hu, hunits] at hhigh
  rw [← div_eq_iff hu.ne', ← div_eq_iff hu.ne', hunits] at heven
  have hround := roundHalfEven_eq (Nat.mul_pos hd (Nat.pow_pos (by decide))) hlow hhigh heven
  unfold inUnits
  split
  · rename_i he
    simpa [show (-e).toNat = 0 by omega] using hround
  · rename_i he
    simpa [show e.toNat = 0 by omega] using hround

/-- Rounding in units of the last place of `x` gives `x`, also where that takes the next power of two in units of half
its last place. -/
theorem ofRatio_eq_of_units (hfinite : x.isFinite = true) {n d s : Nat} (hn : 0 < n) (hd : 0 < d) {e : ℤ}
    (he : max (log2Ratio n d - 52) (-1074) = e) (hs : inUnits n d e = s)
    (hbits : (e + 1074).toNat * 2 ^ 52 + s = (x.exponent + 1074).toNat * 2 ^ 52 + x.significand) :
    ofRatio ⟨x.negative, n, d⟩ = x := by
  obtain ⟨hmin, hmax⟩ := exponent_bounds hfinite
  have hsmall := significand_lt x
  have hrange : (x.exponent + 1074).toNat * 2 ^ 52 + x.significand < 0x7ff * 2 ^ 52 := by omega
  unfold inUnits at hs
  simp only [ofRatio, hn.ne', hd.ne', decide_false, Bool.or_self, Bool.false_eq_true, if_false, he, hs]
  rw [Nat.pow_eq, hbits, if_neg hrange.not_ge]
  exact (eq_ofNat_bits x).symm

def unit (x : Binary64) : ℚ := 2 ^ x.exponent

theorem unit_pos (x : Binary64) : 0 < x.unit := by unfold unit; positivity

theorem quarter_eq (x : Binary64) : x.quarter = x.unit / 4 := by
  rw [quarter, unit, zpow_sub₀ (by norm_num)]
  norm_num

theorem upperEnd_mul_quarter (x : Binary64) : (x.upperEnd : ℚ) * x.quarter = (x.significand + 1 / 2) * x.unit := by
  rw [quarter_eq, upperEnd]
  push_cast
  ring

/-- Within one half of the last place, in the range of numbers with that last place. -/
theorem ofRatio_eq_of_unit (hfinite : x.isFinite = true) {n d : Nat} (hn : 0 < n) (hd : 0 < d)
    (hlow : ((x.significand : ℚ) - 1 / 2) * x.unit ≤ n / d) (hhigh : (n : ℚ) / d ≤ (x.significand + 1 / 2) * x.unit)
    (heven : (n : ℚ) / d = (x.significand - 1 / 2) * x.unit ∨ (n : ℚ) / d = (x.significand + 1 / 2) * x.unit →
      x.significand % 2 = 0)
    (hrange : 2 ^ 52 * x.unit ≤ n / d ∨ x.exponent = -1074) : ofRatio ⟨x.negative, n, d⟩ = x := by
  obtain ⟨hmin, -⟩ := exponent_bounds hfinite
  have hsmall : (x.significand : ℚ) + 1 / 2 < 2 ^ 53 := by
    have hlt : (x.significand : ℚ) + 1 ≤ 2 ^ 53 := by exact_mod_cast significand_lt x
    linarith
  have hlog : log2Ratio n d < 53 + x.exponent := by
    refine log2Ratio_lt hn hd ?_
    rw [zpow_add₀ (by norm_num)]
    exact hhigh.trans_lt (mul_lt_mul_of_pos_right hsmall x.unit_pos)
  have hexponent : max (log2Ratio n d - 52) (-1074) = x.exponent := by
    rcases hrange with hrange | hrange
    · have hle : 52 + x.exponent ≤ log2Ratio n d := by
        refine le_log2Ratio hn hd ?_
        rw [zpow_add₀ (by norm_num)]
        exact hrange
      omega
    · omega
  exact ofRatio_eq_of_units hfinite hn hd hexponent (inUnits_eq hd hlow hhigh heven) rfl

/-- A ratio is rounded to the number in whose interval it lies. -/
theorem ofRatio_eq (hfinite : x.isFinite = true) (hpos : 0 < x.significand) {n d : Nat} (hn : 0 < n) (hd : 0 < d)
    (h : x.IsNearest (n / d)) : ofRatio ⟨x.negative, n, d⟩ = x := by
  obtain ⟨hlow, hhigh, heven⟩ := h
  have hu := x.unit_pos
  rw [upperEnd_mul_quarter] at hhigh heven
  rcases lowerEnd_cases x hpos with ⟨hend, hpower, hexponent⟩ | ⟨hend, hrange⟩
  · have hlower : (x.lowerEnd : ℚ) * x.quarter = (x.significand - 1 / 4) * x.unit := by
      rw [quarter_eq, ← sub_eq_iff_eq_add.mpr (by exact_mod_cast hend.symm : (4 * x.significand : ℚ) = x.lowerEnd + 1)]
      ring
    rw [hlower] at hlow
    have hs : (x.significand : ℚ) = 2 ^ 52 := by exact_mod_cast hpower
    by_cases hside : 2 ^ 52 * x.unit ≤ (n : ℚ) / d
    · refine ofRatio_eq_of_unit hfinite hn hd (by nlinarith) hhigh (fun _ => by rw [hpower]; decide) (.inl hside)
    -- below the power of two the last place is half as large
    have hhalf : (2 : ℚ) ^ (x.exponent - 1) = x.unit / 2 := by
      rw [unit, zpow_sub_one₀ (by norm_num)]
      ring
    have hlog : log2Ratio n d = 51 + x.exponent := by
      refine le_antisymm (Int.lt_add_one_iff.mp (log2Ratio_lt hn hd ?_)) (le_log2Ratio hn hd ?_)
      · rw [show 51 + x.exponent + 1 = 52 + x.exponent by ring, zpow_add₀ (by norm_num)]
        exact not_le.mp hside
      · rw [zpow_add₀ (by norm_num)]
        refine le_trans ?_ hlow
        rw [hs]
        exact mul_le_mul_of_nonneg_right (by norm_num) hu.le
    have hround : inUnits n d (x.exponent - 1) = 2 ^ 53 := by
      refine inUnits_eq hd ?_ ?_ fun _ => by decide
      · rw [hhalf]
        push_cast
        nlinarith
      · rw [hhalf]
        push_cast
        nlinarith [not_le.mp hside]
    exact ofRatio_eq_of_units hfinite hn hd (by omega) hround (by omega)
  · have hlower : (x.lowerEnd : ℚ) * x.quarter = (x.significand - 1 / 2) * x.unit := by
      rw [quarter_eq, ← sub_eq_iff_eq_add.mpr (by exact_mod_cast hend.symm : (4 * x.significand : ℚ) = x.lowerEnd + 2)]
      ring
    rw [hlower] at hlow heven
    refine ofRatio_eq_of_unit hfinite hn hd hlow hhigh heven (hrange.imp_left fun hlarge => le_trans ?_ hlow)
    have hlarge : (2 ^ 52 : ℚ) + 1 ≤ x.significand := by exact_mod_cast hlarge
    exact mul_le_mul_of_nonneg_right (by linarith) hu.le

/-- The number of digits of a positive number says between which powers of ten it is. -/
theorem toDigits_length_bounds {n : Nat} (hn : 0 < n) :
    (10 : ℚ) ^ (((Nat.toDigits 10 n).length : ℤ) - 1) ≤ n ∧ (n : ℚ) < 10 ^ ((Nat.toDigits 10 n).length : ℤ) := by
  have hlength : 0 < (Nat.toDigits 10 n).length := Nat.length_toDigits_pos
  have hiff : ∀ k, 0 < k → ((Nat.toDigits 10 n).length ≤ k ↔ n < 10 ^ k) := fun k hk =>
    Nat.length_toDigits_le_iff (by decide) hk
  generalize (Nat.toDigits 10 n).length = len at hlength hiff
  have hbelow : 10 ^ (len - 1) ≤ n := by
    rcases Nat.eq_or_lt_of_le hlength with heq | hlt
    · rw [← heq]
      exact hn
    · exact not_lt.mp (mt (hiff (len - 1) (by omega)).mpr (by omega))
  have habove : n < 10 ^ len := (hiff len hlength).mp le_rfl
  rw [show (len : ℤ) - 1 = ((len - 1 : Nat) : ℤ) by omega, zpow_natCast, zpow_natCast]
  exact ⟨by exact_mod_cast hbelow, by exact_mod_cast habove⟩

theorem lowerEnd_ge (x : Binary64) (hpos : 0 < x.significand) : 2 ≤ x.lowerEnd := by
  simp only [lowerEnd]
  split <;> omega

theorem IsNearest.pos {q : ℚ} (hpos : 0 < x.significand) (h : x.IsNearest q) : 0 < q := by
  refine lt_of_lt_of_le (mul_pos ?_ x.quarter_pos) h.lower
  exact_mod_cast (x.lowerEnd_ge hpos).trans_lt' (by decide)

theorem two_pow_lt_ten_pow (m n : Nat) (h : m < 3 * n) : (2 : ℚ) ^ (m : ℤ) < 10 ^ (n : ℤ) := by
  rw [zpow_natCast, zpow_natCast]
  calc (2 : ℚ) ^ m ≤ 2 ^ (3 * n) := pow_le_pow_right₀ (by norm_num) h.le
    _ = (2 ^ 3) ^ n := pow_mul 2 3 n
    _ < 10 ^ n := pow_lt_pow_left₀ (by norm_num) (by norm_num) (by omega)

/-- What lies in the interval of a finite number is far from where decimals are cut off. -/
theorem IsNearest.bounds (hfinite : x.isFinite = true) (hpos : 0 < x.significand) {q : ℚ} (h : x.IsNearest q) :
    (10 : ℚ) ^ (-401 : ℤ) < q ∧ q < 10 ^ (400 : ℤ) := by
  obtain ⟨hmin, hmax⟩ := exponent_bounds hfinite
  constructor
  · have hquarter : (2 : ℚ) ^ (-1076 : ℤ) ≤ x.quarter := zpow_le_zpow_right₀ (by norm_num) (by omega)
    have hend : (2 : ℚ) ≤ x.lowerEnd := by exact_mod_cast x.lowerEnd_ge hpos
    have hpower : (10 : ℚ) ^ (-401 : ℤ) < 2 ^ (-1076 : ℤ) := by
      rw [zpow_neg, zpow_neg]
      exact inv_strictAnti₀ (by positivity) (two_pow_lt_ten_pow 1076 401 (by decide))
    calc (10 : ℚ) ^ (-401 : ℤ) < 2 ^ (-1076 : ℤ) := hpower
      _ ≤ x.quarter := hquarter
      _ ≤ x.lowerEnd * x.quarter := le_mul_of_one_le_left x.quarter_pos.le (by linarith)
      _ ≤ q := h.lower
  · have hunit : x.unit ≤ 2 ^ (971 : ℤ) := zpow_le_zpow_right₀ (by norm_num) hmax
    have hend : (x.significand : ℚ) + 1 / 2 ≤ 2 ^ (53 : ℤ) := by
      have hlt : (x.significand : ℚ) + 1 ≤ 2 ^ 53 := by exact_mod_cast significand_lt x
      have hcast : (2 : ℚ) ^ (53 : ℤ) = 2 ^ 53 := by norm_cast
      linarith
    have hpower : (2 : ℚ) ^ (1024 : ℤ) < 10 ^ (400 : ℤ) := two_pow_lt_ten_pow 1024 400 (by decide)
    calc q ≤ (x.significand + 1 / 2) * x.unit := by rw [← upperEnd_mul_quarter]; exact h.upper
      _ ≤ 2 ^ (53 : ℤ) * 2 ^ (971 : ℤ) := mul_le_mul hend hunit x.unit_pos.le (by positivity)
      _ = 2 ^ (1024 : ℤ) := by rw [← zpow_add₀ (by norm_num)]; norm_num
      _ < 10 ^ (400 : ℤ) := hpower

/-- A decimal is rounded to the number in whose interval it lies. -/
theorem ofDecimal_eq (hfinite : x.isFinite = true) (hpos : 0 < x.significand) {digits : Nat} {e : ℤ}
    (h : x.IsNearest (digits * 10 ^ e)) : ofDecimal x.negative digits e = x := by
  have hdigits : 0 < digits := by
    rcases Nat.eq_zero_or_pos digits with rfl | hdigits
    · exact absurd (h.pos hpos) (by simp)
    · exact hdigits
  obtain ⟨hlow, hhigh⟩ := h.bounds hfinite hpos
  obtain ⟨hbelow, habove⟩ := toDigits_length_bounds hdigits
  unfold ofDecimal
  generalize ((Nat.toDigits 10 digits).length : ℤ) = size at *
  have hsmall : ¬ size + e > 400 := by
    intro hlarge
    have hle : (10 : ℚ) ^ (400 : ℤ) ≤ 10 ^ (size - 1 + e) := zpow_le_zpow_right₀ (by norm_num) (by omega)
    rw [zpow_add₀ (by norm_num)] at hle
    exact hhigh.not_ge (hle.trans (mul_le_mul_of_nonneg_right hbelow (by positivity)))
  have hlarge : ¬ size + e < -400 := by
    intro hsmall
    have hle : (10 : ℚ) ^ (size + e) ≤ 10 ^ (-401 : ℤ) := zpow_le_zpow_right₀ (by norm_num) (by omega)
    rw [zpow_add₀ (by norm_num)] at hle
    exact hlow.not_ge ((mul_le_mul_of_nonneg_right habove.le (by positivity)).trans hle)
  have hpowers := zpow_eq_div (by norm_num : (10 : ℚ) ≠ 0) e
  simp only [hdigits.ne', if_false, hsmall, hlarge, Nat.pow_eq]
  split
  · rename_i he
    refine ofRatio_eq hfinite hpos (by positivity) one_pos ?_
    rw [hpowers, show (-e).toNat = 0 by omega, pow_zero, div_one] at h
    simpa using h
  · rename_i he
    refine ofRatio_eq hfinite hpos hdigits (by positivity) ?_
    rw [hpowers, show e.toNat = 0 by omega, pow_zero, mul_one_div] at h
    simpa using h

/-- The number that `x` stands for, without its sign. -/
def size (x : Binary64) : ℚ := x.significand * x.unit

theorem cutOff_bounds (x : Binary64) (place : ℤ) :
    (x.cutOff place : ℚ) * 10 ^ place ≤ x.size ∧ x.size < (x.cutOff place + 1) * 10 ^ place := by
  let n := x.significand * Nat.pow 2 x.exponent.toNat * Nat.pow 10 (-place).toNat
  let d := Nat.pow 2 (-x.exponent).toNat * Nat.pow 10 place.toNat
  have hd : (0 : ℚ) < d := by
    simp only [d, Nat.pow_eq]
    positivity
  have hsize : x.size = n / d * 10 ^ place := by
    simp only [size, unit, zpow_eq_div (by norm_num : (2 : ℚ) ≠ 0) x.exponent,
      zpow_eq_div (by norm_num : (10 : ℚ) ≠ 0) place, n, d, Nat.pow_eq]
    push_cast
    field_simp
  have hcut : x.cutOff place = n / d := rfl
  have hplace : (0 : ℚ) < 10 ^ place := by positivity
  rw [hsize, hcut, mul_le_mul_iff_left₀ hplace, mul_lt_mul_iff_left₀ hplace, le_div_iff₀ hd, div_lt_iff₀ hd]
  have hmod : n % d < d := Nat.mod_lt n (by exact_mod_cast hd)
  have hdiv : n / d * d + n % d = n := Nat.div_add_mod' n d
  constructor
  · exact_mod_cast Nat.div_mul_le_self n d
  · have hlt : n < (n / d + 1) * d := by rw [Nat.add_mul, Nat.one_mul]; omega
    exact_mod_cast hlt

theorem ten_pow_le_of_cutOff {place : ℤ} (h : x.cutOff place ≠ 0) : (10 : ℚ) ^ place ≤ x.size := by
  have hone : (1 : ℚ) ≤ x.cutOff place := by exact_mod_cast Nat.one_le_iff_ne_zero.mpr h
  exact (le_mul_of_one_le_left (by positivity) hone).trans (x.cutOff_bounds place).1

theorem readsBack_of_onGrid? {place : ℤ} {digits : Nat} (h : x.onGrid? place = some digits) :
    x.readsBack digits place = true := by
  simp only [onGrid?] at h
  split at h
  · rename_i hbelow habove
    split at h
    · exact Option.some.inj h ▸ habove
    · exact Option.some.inj h ▸ hbelow
    · obtain rfl := Option.some.inj h
      split
      · exact hbelow
      · exact habove
  · rename_i hbelow _
    exact Option.some.inj h ▸ hbelow
  · rename_i _ habove
    exact Option.some.inj h ▸ habove
  · cases h

theorem onGrid?_ne_none {place : ℤ} (h : x.readsBack (x.cutOff place) place = true) : x.onGrid? place ≠ none := by
  simp only [onGrid?, h]
  cases x.readsBack (x.cutOff place + 1) place with
  | true => simp only; split <;> nofun
  | false => nofun

theorem readsBack_shortestFrom {place : ℤ} {tries : Nat}
    (h : ∃ n < tries, x.onGrid? (place - n) ≠ none) :
    x.readsBack (x.shortestFrom place tries).1 (x.shortestFrom place tries).2 = true := by
  induction tries generalizing place with
  | zero => simp at h
  | succ tries ih =>
    rw [shortestFrom]
    split
    · rename_i digits hdigits
      exact readsBack_of_onGrid? hdigits
    · rename_i hnone
      obtain ⟨n, hn, hsome⟩ := h
      cases n with
      | zero => simp [hnone] at hsome
      | succ n =>
        refine ih ⟨n, by omega, ?_⟩
        rwa [show place - 1 - (n : ℤ) = place - ((n + 1 : Nat) : ℤ) by push_cast; ring]

theorem toRatio_eq (x : Binary64) : (x.toRatio.numerator : ℚ) / x.toRatio.denominator = x.size := by
  rw [toRatio, scaled, size, unit, zpow_eq_div (by norm_num) x.exponent]
  split
  · rename_i he
    simp [show (-x.exponent).toNat = 0 by omega]
  · rename_i he
    simp [show x.exponent.toNat = 0 by omega, div_eq_mul_inv]

theorem toRatio_pos (hpos : 0 < x.significand) : 0 < x.toRatio.numerator ∧ 0 < x.toRatio.denominator := by
  rw [toRatio, scaled]
  split <;> simp [hpos]

theorem ten_pow_firstPlace_le (hpos : 0 < x.significand) : (10 : ℚ) ^ x.firstPlace ≤ x.size := by
  obtain ⟨hn, hd⟩ := toRatio_pos hpos
  have hdq : (0 : ℚ) < x.toRatio.denominator := by exact_mod_cast hd
  obtain ⟨hbelow, -⟩ := toDigits_length_bounds hn
  obtain ⟨-, habove⟩ := toDigits_length_bounds hd
  simp only [firstPlace]
  split
  · rw [show ∀ a b : ℤ, a - b - 1 = a - 1 - b by intros; ring, zpow_sub₀ (by norm_num), ← toRatio_eq]
    exact div_le_div₀ (by positivity) hbelow hdq habove.le
  · rename_i hcut
    exact ten_pow_le_of_cutOff hcut

/-- Seventeen places below the first digit, what is cut off is less than a quarter of the last place. -/
theorem readsBack_cutOff (hpos : 0 < x.significand) {place : ℤ} (h : (10 : ℚ) ^ place * 10 ^ 17 ≤ x.size) :
    x.readsBack (x.cutOff place) place = true := by
  obtain ⟨hbelow, habove⟩ := x.cutOff_bounds place
  have hu := x.unit_pos
  have hsmall : (x.significand : ℚ) < 2 ^ 53 := by exact_mod_cast significand_lt x
  have hsize : x.size < 2 ^ 53 * x.unit := mul_lt_mul_of_pos_right hsmall hu
  have hgrid : (10 : ℚ) ^ place < x.unit / 4 := by linarith
  have hlower : (x.lowerEnd : ℚ) * x.quarter ≤ x.size - x.unit / 4 := by
    have hend : (x.lowerEnd : ℚ) + 1 ≤ 4 * x.significand := by
      rcases lowerEnd_cases x hpos with ⟨hend, -⟩ | ⟨hend, -⟩ <;> exact_mod_cast (by omega)
    rw [quarter_eq, size]
    nlinarith
  have hupper : x.size < x.upperEnd * x.quarter := by
    rw [upperEnd_mul_quarter, size]
    linarith
  have hgt : (x.lowerEnd : ℚ) * x.quarter < x.cutOff place * 10 ^ place := by linarith
  have hlt : (x.cutOff place : ℚ) * 10 ^ place < x.upperEnd * x.quarter := by linarith
  rw [readsBack_iff]
  exact ⟨hgt.le, hlt.le, fun h => h.elim (fun h => absurd h hgt.ne') fun h => absurd h hlt.ne⟩

theorem isNearest_shortest (hpos : 0 < x.significand) :
    x.IsNearest (x.shortest.1 * 10 ^ x.shortest.2) := by
  rw [← readsBack_iff]
  refine readsBack_shortestFrom ⟨17, by decide, onGrid?_ne_none (readsBack_cutOff hpos ?_)⟩
  rw [zpow_sub₀ (by norm_num)]
  have hfirst := ten_pow_firstPlace_le hpos
  norm_num
  linarith

end Binary64
end Schematic
