import Mathlib.Algebra.Order.Field.Power
import Mathlib.Data.Int.Log
import Mathlib.Data.Rat.Floor
import Mathlib.Tactic.Positivity
import Mathlib.Tactic.Ring
import TraceGraph.Binary64

/-! Rounding to binary floating-point numbers. The number nearest to a fraction depends on its value alone,
every finite number is the one nearest to its own value, and a decimal is rounded as the fraction that it
is. The two shortcuts for decimals far out of range give what rounding would give. -/

namespace TraceGraph.Binary64

/-! ### The value alone counts -/

theorem roundHalfEven_mul {k : Nat} (hk : 0 < k) (num den : Nat) :
    roundHalfEven (num * k) (den * k) = roundHalfEven num den := by
  have hquotient : num * k / (den * k) = num / den := Nat.mul_div_mul_right num den hk
  have hremainder : num * k % (den * k) = num % den * k := Nat.mul_mod_mul_right k num den
  have hdouble : 2 * (num % den * k) = 2 * (num % den) * k := (Nat.mul_assoc ..).symm
  simp only [roundHalfEven, hquotient, hremainder, hdouble, Nat.mul_lt_mul_right hk,
    Nat.mul_left_inj hk.ne']

theorem le_log_two_iff {x : ℚ} (hx : 0 < x) {k : Int} : k ≤ Int.log 2 x ↔ 2 ^ k ≤ x := by
  have h := Int.zpow_le_iff_le_log (b := 2) one_lt_two (x := k) hx
  rw [← h, Nat.cast_ofNat]

theorem two_zpow_le_div_iff (num : Nat) {den : Nat} (hden : 0 < den) (k : Int) :
    (2 : ℚ) ^ k ≤ num / den ↔ den * 2 ^ k.toNat ≤ num * 2 ^ (-k).toNat := by
  have hden' : (0 : ℚ) < den := by exact_mod_cast hden
  rw [le_div_iff₀ hden']
  obtain ⟨n, rfl | rfl⟩ := k.eq_nat_or_neg
  · have hneg : (-(n : Int)).toNat = 0 := by omega
    rw [zpow_natCast, Int.toNat_natCast, hneg, pow_zero, mul_one, mul_comm]
    exact_mod_cast Iff.rfl
  · have hneg : (-(n : Int)).toNat = 0 := by omega
    rw [zpow_neg, zpow_natCast, neg_neg, Int.toNat_natCast, hneg, pow_zero, mul_one,
      inv_mul_le_iff₀ (by positivity), mul_comm]
    exact_mod_cast Iff.rfl

/-- The exponent of the greatest power of two that a positive fraction reaches. -/
def binade (num den : Nat) : Int :=
  let k : Int := (num.log2 : Int) - den.log2
  if den * 2 ^ k.toNat ≤ num * 2 ^ (-k).toNat then k else k - 1

theorem binade_eq_log {num den : Nat} (hnum : 0 < num) (hden : 0 < den) :
    binade num den = Int.log 2 (num / den : ℚ) := by
  have hx : (0 : ℚ) < num / den := by positivity
  have hbounds {n : Nat} (hn : 0 < n) : (2 : ℚ) ^ (n.log2 : Int) ≤ n ∧ (n : ℚ) < 2 ^ ((n.log2 : Int) + 1) :=
    ⟨by exact_mod_cast Nat.log2_self_le hn.ne', by exact_mod_cast Nat.lt_log2_self⟩
  obtain ⟨hnumLow, hnumHigh⟩ := hbounds hnum
  obtain ⟨hdenLow, hdenHigh⟩ := hbounds hden
  have hlow : (2 : ℚ) ^ ((num.log2 : Int) - den.log2 - 1) ≤ num / den := by
    rw [sub_sub, zpow_sub₀ two_ne_zero]
    gcongr
  have hhigh : (num / den : ℚ) < 2 ^ ((num.log2 : Int) - den.log2 + 1) := by
    rw [sub_add_eq_add_sub, zpow_sub₀ two_ne_zero]
    gcongr
  rw [← le_log_two_iff hx] at hlow
  rw [← not_le, ← le_log_two_iff hx] at hhigh
  simp only [binade, ← two_zpow_le_div_iff num hden, ← le_log_two_iff hx]
  split <;> omega

theorem le_binade_iff {num den : Nat} (hnum : 0 < num) (hden : 0 < den) {k : Int} :
    k ≤ binade num den ↔ (2 : ℚ) ^ k ≤ num / den := by
  rw [binade_eq_log hnum hden, le_log_two_iff (by positivity)]

theorem binade_mul {k : Nat} (hk : 0 < k) {num den : Nat} (hnum : 0 < num) (hden : 0 < den) :
    binade (num * k) (den * k) = binade num den := by
  rw [binade_eq_log (Nat.mul_pos hnum hk) (Nat.mul_pos hden hk), binade_eq_log hnum hden, Nat.cast_mul,
    Nat.cast_mul, mul_div_mul_right _ _ (by positivity)]

/-- The power of two that a fraction is rounded to a multiple of. -/
def grid (num den : Nat) : Int := max (binade num den - 52) (-1074)

/-- The multiple of it that is nearest. -/
def nearest (num den : Nat) : Nat :=
  roundHalfEven (num * 2 ^ (-grid num den).toNat) (den * 2 ^ (grid num den).toNat)

theorem ofRatio_zero (negative : Bool) (den : Nat) : ofRatio negative 0 den = zero negative := rfl

theorem ofRatio_of_pos (negative : Bool) {num : Nat} (hnum : 0 < num) (den : Nat) :
    ofRatio negative num den = pack negative ((grid num den + 1074).toNat * 2 ^ 52 + nearest num den) :=
  if_neg hnum.ne'

/-- A common factor makes no difference. -/
theorem ofRatio_mul (negative : Bool) {k : Nat} (hk : 0 < k) (num : Nat) {den : Nat} (hden : 0 < den) :
    ofRatio negative (num * k) (den * k) = ofRatio negative num den := by
  rcases num.eq_zero_or_pos with rfl | hnum
  · rw [Nat.zero_mul, ofRatio_zero, ofRatio_zero]
  · rw [ofRatio_of_pos negative (Nat.mul_pos hnum hk), ofRatio_of_pos negative hnum, nearest, nearest, grid,
      grid, binade_mul hk hnum hden]
    simp only [Nat.mul_right_comm _ k, roundHalfEven_mul hk]

/-! ### Beyond the range, and below it -/

theorem le_roundHalfEven {q num den : Nat} (hden : 0 < den) (h : q * den ≤ num) :
    q ≤ roundHalfEven num den := by
  have hquotient : q ≤ num / den := (Nat.le_div_iff_mul_le hden).2 h
  rw [roundHalfEven]
  split <;> omega

theorem roundHalfEven_of_lt {num den : Nat} (h : 2 * num < den) : roundHalfEven num den = 0 := by
  have hlt : num < den := by omega
  rw [roundHalfEven, Nat.div_eq_of_lt hlt, Nat.mod_eq_of_lt hlt]
  exact if_neg (by omega)

theorem roundHalfEven_mul_self (q : Nat) {den : Nat} (hden : 0 < den) : roundHalfEven (q * den) den = q := by
  rw [roundHalfEven, Nat.mul_div_cancel q hden, Nat.mul_mod_left]
  exact if_neg (by omega)

theorem pack_of_lt (negative : Bool) {e f : Nat} (he : e < 2047) (hf : f < 2 ^ 52) :
    pack negative (e * 2 ^ 52 + f) = .finite negative ⟨e, he⟩ ⟨f, hf⟩ := by
  have hexponent : (e * 2 ^ 52 + f) / Nat.pow 2 52 = e := by
    change _ / 2 ^ 52 = e
    omega
  have hfraction : (e * 2 ^ 52 + f) % Nat.pow 2 52 = f := by
    change _ % 2 ^ 52 = f
    omega
  simp only [pack, hexponent, hfraction, he, dif_pos]

theorem pack_of_le (negative : Bool) {bits : Nat} (h : 2047 * 2 ^ 52 ≤ bits) :
    pack negative bits = .infinite negative :=
  dif_neg (Nat.not_lt.2 ((Nat.le_div_iff_mul_le (Nat.pow_pos two_pos)).2 h))

/-- A fraction at a power of two beyond all finite numbers overflows. -/
theorem ofRatio_eq_infinite (negative : Bool) {num den k : Nat} (hden : 0 < den) (hk : 1024 ≤ k)
    (h : den * 2 ^ k ≤ num) : ofRatio negative num den = .infinite negative := by
  have hnum : 0 < num := lt_of_lt_of_le (by positivity) h
  have hexact := two_zpow_le_div_iff num hden
  have hbinade : (k : Int) ≤ binade num den := by
    rw [le_binade_iff hnum hden, hexact, Int.toNat_natCast]
    exact h.trans (Nat.le_mul_of_pos_right num (by positivity))
  have hgrid : grid num den = binade num den - 52 := max_eq_left (by omega)
  have hnearest : 2 ^ 52 ≤ nearest num den := by
    have hreach := (hexact _).1 ((le_binade_iff hnum hden).1 le_rfl)
    have hpow : 2 ^ 52 * (den * 2 ^ (grid num den).toNat) = den * 2 ^ (binade num den).toNat := by
      have hsum : (binade num den).toNat = 52 + (grid num den).toNat := by omega
      rw [hsum, pow_add, Nat.mul_left_comm]
    have hneg : (-grid num den).toNat = (-binade num den).toNat := by omega
    refine le_roundHalfEven (by positivity) ?_
    rwa [hpow, hneg]
  have hexponent : 2046 ≤ (grid num den + 1074).toNat := by omega
  rw [ofRatio_of_pos negative hnum]
  exact pack_of_le negative (by omega)

/-- A fraction below half the least number is rounded to zero. -/
theorem ofRatio_eq_zero (negative : Bool) {num den k : Nat} (hk : 1075 ≤ k) (h : num * 2 ^ k < den) :
    ofRatio negative num den = zero negative := by
  rcases num.eq_zero_or_pos with rfl | hnum
  · exact ofRatio_zero negative den
  · have hden : 0 < den := Nat.zero_lt_of_lt h
    have hbinade : ¬ -(k : Int) ≤ binade num den := by
      rw [le_binade_iff hnum hden, two_zpow_le_div_iff num hden, not_le, neg_neg, Int.toNat_natCast]
      exact h.trans_le (Nat.le_mul_of_pos_right den (by positivity))
    obtain ⟨n, hn, hgrid⟩ : ∃ n : Nat, n = 1074 ∧ grid num den = -n := ⟨1074, rfl, max_eq_right (by omega)⟩
    have hnearest : nearest num den = 0 := by
      have hneg : (-(n : Int)).toNat = 0 := by omega
      rw [nearest, hgrid, neg_neg, Int.toNat_natCast, hneg, pow_zero, Nat.mul_one]
      apply roundHalfEven_of_lt
      calc 2 * (num * 2 ^ n) = num * 2 ^ (n + 1) := by ring
        _ ≤ num * 2 ^ k := Nat.mul_le_mul_left _ (Nat.pow_le_pow_right two_pos (by omega))
        _ < den := h
    rw [ofRatio_of_pos negative hnum, hnearest, hgrid, hn]
    rfl

/-! ### Exact values -/

theorem two_pow_div_two_pow (p : Int) : (2 ^ p.toNat / 2 ^ (-p).toNat : ℚ) = 2 ^ p := by
  rw [← zpow_natCast, ← zpow_natCast, ← zpow_sub₀ two_ne_zero]
  congr 1
  omega

theorem significand_lt (e : Nat) {f : Nat} (hf : f < 2 ^ 52) : significand e f < 2 ^ 53 := by
  rw [significand]
  split
  · omega
  · change 2 ^ 52 + f < 2 ^ 53
    omega

theorem eq_zero_of_significand_eq_zero {e f : Nat} (h : significand e f = 0) : e = 0 ∧ f = 0 := by
  rw [significand] at h
  split at h
  · next he => exact ⟨he, h⟩
  · have : 0 < Nat.pow 2 52 := Nat.pow_pos two_pos
    omega

theorem magnitude_value (e f : Nat) :
    ((magnitude e f).1 / (magnitude e f).2 : ℚ) = significand e f * 2 ^ scale e := by
  have hnum : (magnitude e f).1 = significand e f * 2 ^ (scale e).toNat := rfl
  have hden : (magnitude e f).2 = 2 ^ (-scale e).toNat := rfl
  rw [hnum, hden]
  push_cast
  rw [mul_div_assoc, two_pow_div_two_pow]

/-- The value of a number is a multiple of its own power of two, and is rounded to one of that. -/
theorem grid_magnitude (e : Nat) {f : Nat} (hf : f < 2 ^ 52) (hpos : 0 < significand e f) :
    grid (magnitude e f).1 (magnitude e f).2 = scale e := by
  have hnum : 0 < (magnitude e f).1 := Nat.mul_pos hpos (Nat.pow_pos two_pos)
  have hden : 0 < (magnitude e f).2 := Nat.pow_pos two_pos
  have hbelow : binade (magnitude e f).1 (magnitude e f).2 < 53 + scale e := by
    rw [← not_le, le_binade_iff hnum hden, magnitude_value, not_le, zpow_add₀ two_ne_zero]
    have hlt : (significand e f : ℚ) < 2 ^ (53 : Int) := by exact_mod_cast significand_lt e hf
    gcongr
  rw [grid]
  by_cases he : e = 0
  · subst he
    have hscale : scale 0 = -1074 := rfl
    -- of a subnormal number nothing more is known, and nothing more is needed
    omega
  · have habove : 52 + scale e ≤ binade (magnitude e f).1 (magnitude e f).2 := by
      rw [le_binade_iff hnum hden, magnitude_value, zpow_add₀ two_ne_zero]
      have hsignificand : significand e f = 2 ^ 52 + f := if_neg he
      have hle : (2 : ℚ) ^ (52 : Int) ≤ significand e f := by
        rw [hsignificand]
        exact_mod_cast Nat.le_add_right _ _
      gcongr
    have hscale : scale e = max (e : Int) 1 - 1075 := by
      rw [scale, Nat.cast_max, Nat.cast_one]
    omega

theorem scale_add (e : Nat) : (scale e + 1074).toNat = e - 1 := by
  rw [scale]
  omega

/-- A number is the one nearest to its own value. -/
theorem ofRatio_magnitude (negative : Bool) (e : Fin 2047) (f : Fin (Nat.pow 2 52)) :
    ofRatio negative (magnitude e f).1 (magnitude e f).2 = .finite negative e f := by
  obtain ⟨e, he⟩ := e
  obtain ⟨f, hf⟩ := f
  change f < 2 ^ 52 at hf
  rcases (significand e f).eq_zero_or_pos with hzero | hpos
  · have hnum : (magnitude e f).1 = 0 := by
      rw [magnitude, hzero, Nat.zero_mul]
    obtain ⟨rfl, rfl⟩ := eq_zero_of_significand_eq_zero hzero
    rw [hnum]
    rfl
  · have hnum : 0 < (magnitude e f).1 := Nat.mul_pos hpos (Nat.pow_pos two_pos)
    have hnearest : nearest (magnitude e f).1 (magnitude e f).2 = significand e f := by
      have hswap : (magnitude e f).1 * 2 ^ (-scale e).toNat =
          significand e f * ((magnitude e f).2 * 2 ^ (scale e).toNat) := by
        change significand e f * 2 ^ (scale e).toNat * 2 ^ (-scale e).toNat =
          significand e f * (2 ^ (-scale e).toNat * 2 ^ (scale e).toNat)
        ring
      rw [nearest, grid_magnitude e hf hpos, hswap]
      exact roundHalfEven_mul_self _ (Nat.mul_pos (Nat.pow_pos two_pos) (by positivity))
    rw [ofRatio_of_pos negative hnum, hnearest, grid_magnitude e hf hpos, scale_add]
    have hbits : (e - 1) * 2 ^ 52 + significand e f = e * 2 ^ 52 + f := by
      rw [significand]
      split
      · next he => rw [he]
      · change (e - 1) * 2 ^ 52 + (2 ^ 52 + f) = e * 2 ^ 52 + f
        omega
    rw [hbits]
    exact pack_of_lt negative he hf

/-! ### Decimals -/

/-- The digits of a number are bounded by those of its binary form. -/
theorem lt_ten_pow (c : Nat) : c < 10 ^ ((c.log2 + 1) / 3 + 1) := by
  calc c < 2 ^ (c.log2 + 1) := Nat.lt_log2_self
    _ ≤ 2 ^ (3 * ((c.log2 + 1) / 3 + 1)) := Nat.pow_le_pow_right two_pos (by omega)
    _ = (2 ^ 3) ^ ((c.log2 + 1) / 3 + 1) := pow_mul ..
    _ ≤ 10 ^ ((c.log2 + 1) / 3 + 1) := Nat.pow_le_pow_left (by decide) _

/-- A decimal is rounded as the fraction that it is, however large or small. -/
theorem ofDecimal_eq_ofRatio (negative : Bool) (c : Nat) (e : Int) :
    ofDecimal negative c e = ofRatio negative (c * 10 ^ e.toNat) (10 ^ (-e).toNat) := by
  rw [ofDecimal]
  split_ifs with hzero hlarge hsmall
  · rw [hzero, Nat.zero_mul, ofRatio_zero]
  · obtain ⟨k, m, hk, hm, hpow⟩ : ∃ k m, 1024 ≤ k ∧ m ≤ 311 ∧ 2 ^ k ≤ 10 ^ m :=
      ⟨1024, 311, le_rfl, le_rfl, by decide +kernel⟩
    have hden : (-e).toNat = 0 := by omega
    rw [hden, pow_zero]
    refine (ofRatio_eq_infinite negative Nat.one_pos hk ?_).symm
    calc 1 * 2 ^ k ≤ 10 ^ m := by rwa [Nat.one_mul]
      _ ≤ 10 ^ e.toNat := Nat.pow_le_pow_right (by decide) (by omega)
      _ ≤ c * 10 ^ e.toNat := Nat.le_mul_of_pos_left _ (Nat.pos_of_ne_zero hzero)
  · obtain ⟨k, m, hk, hm, hpow⟩ : ∃ k m, 1075 ≤ k ∧ m ≤ 330 ∧ 2 ^ k ≤ 10 ^ m :=
      ⟨1075, 330, le_rfl, le_rfl, by decide +kernel⟩
    have hwhole : e.toNat = 0 := by omega
    rw [hwhole, pow_zero, Nat.mul_one]
    refine (ofRatio_eq_zero negative hk ?_).symm
    calc c * 2 ^ k < 10 ^ ((c.log2 + 1) / 3 + 1) * 2 ^ k :=
          Nat.mul_lt_mul_of_pos_right (lt_ten_pow c) (by positivity)
      _ ≤ 10 ^ ((c.log2 + 1) / 3 + 1) * 10 ^ m := Nat.mul_le_mul_left _ hpow
      _ = 10 ^ ((c.log2 + 1) / 3 + 1 + m) := (pow_add ..).symm
      _ ≤ 10 ^ (-e).toNat := Nat.pow_le_pow_right (by decide) (by omega)
  · rfl

/-- Zeros may be moved between the digits and the exponent. -/
theorem ofDecimal_mul_pow (negative : Bool) (c k : Nat) (e : Int) :
    ofDecimal negative (c * 10 ^ k) (e - k) = ofDecimal negative c e := by
  rw [ofDecimal_eq_ofRatio, ofDecimal_eq_ofRatio]
  -- the two fractions differ by the part of the factor that the exponent does not take up
  have hnum : c * 10 ^ k * 10 ^ (e - k).toNat = c * 10 ^ e.toNat * 10 ^ (k - e.toNat) := by
    rw [Nat.mul_assoc, Nat.mul_assoc, ← pow_add, ← pow_add]
    congr 2
    omega
  have hden : 10 ^ (-(e - k)).toNat = 10 ^ (-e).toNat * 10 ^ (k - e.toNat) := by
    rw [← pow_add]
    congr 1
    omega
  rw [hnum, hden, ofRatio_mul negative (by positivity) _ (by positivity)]

/-- The sign is kept apart from all else. -/
theorem ofRatio_of_eq_finite {num den : Nat} {e : Fin 2047} {f : Fin (Nat.pow 2 52)}
    (h : ofRatio false num den = .finite false e f) (negative : Bool) :
    ofRatio negative num den = .finite negative e f := by
  rcases num.eq_zero_or_pos with rfl | hnum
  · obtain ⟨-, rfl, rfl⟩ := Binary64.finite.inj h
    rfl
  · rw [ofRatio_of_pos _ hnum, pack] at h ⊢
    split at h
    · next hbits =>
      obtain ⟨-, rfl, rfl⟩ := Binary64.finite.inj h
      exact dif_pos hbits
    · cases h

end TraceGraph.Binary64
