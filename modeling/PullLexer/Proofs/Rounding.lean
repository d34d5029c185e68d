import Mathlib.Data.Nat.Dist
import Mathlib.Order.Monotone.Basic
import PullLexer.Numeric.Decimal
/-!
# Rounding to the nearest magnitude

A fraction is rounded to the magnitude nearest to it, of two equally near ones to the even rank,
where infinity counts as the magnitude one step above the greatest finite one. Distances are
compared in whole numbers, with the denominator multiplied out. Hence a fraction is rounded to
infinity from the midpoint above the greatest finite magnitude on, and a decimal number is rounded
so whatever its power of ten is.
-/

namespace PullLexer

namespace Binary64

/-- The rank is that of the magnitude nearest to `num / den`, and is even if another magnitude is as
near. -/
structure IsNearest (num den rank : Nat) : Prop where
  le : rank ≤ infinityRank
  nearest : ∀ other ≤ infinityRank,
    Nat.dist (num * one) (units rank * den) ≤ Nat.dist (num * one) (units other * den)
  tie : ∀ other ≤ infinityRank, other ≠ rank →
    Nat.dist (num * one) (units rank * den) = Nat.dist (num * one) (units other * den) →
      rank % 2 = 0

section Units

private theorem normal_pos : 0 < normal := Nat.two_pow_pos 52

private theorem units_scaled {shift m : Nat} (hm : m ≤ 2 * normal)
    (hshift : normal ≤ m ∨ shift = 0) :
    units (shift * normal + m) = m * Nat.pow 2 shift := by
  have hpos := normal_pos
  by_cases hsmall : m < normal
  · obtain rfl : shift = 0 := by omega
    rw [Nat.zero_mul, Nat.zero_add, units, if_pos hsmall]
    exact (Nat.mul_one m).symm
  · -- The rank stands `m - normal` above the start of the group after the one of the shift.
    obtain ⟨k, rfl⟩ := Nat.exists_eq_add_of_le (Nat.le_of_not_lt hsmall)
    have hrank : shift * normal + (normal + k) = k + (shift + 1) * normal := by
      rw [Nat.add_mul, Nat.one_mul]
      omega
    have hlarge : ¬ k + (shift + 1) * normal < normal := by
      rw [Nat.add_mul, Nat.one_mul]
      omega
    rw [hrank, units, if_neg hlarge, Nat.add_mul_mod_self_right, Nat.add_mul_div_right _ _ hpos]
    by_cases hk : k < normal
    · rw [Nat.mod_eq_of_lt hk, Nat.div_eq_of_lt hk, Nat.zero_add, Nat.add_sub_cancel]
    · obtain rfl : k = normal := by omega
      have hpow : Nat.pow 2 (1 + (shift + 1) - 1) = 2 * Nat.pow 2 shift := by
        rw [Nat.add_sub_cancel_left]
        exact Nat.pow_succ'
      rw [Nat.mod_self, Nat.div_self hpos, hpow, Nat.add_zero, ← Nat.mul_assoc, Nat.mul_two]

private theorem exists_scaled (rank : Nat) :
    ∃ shift m, rank = shift * normal + m ∧ m < 2 * normal ∧ (normal ≤ m ∨ shift = 0) := by
  have hpos := normal_pos
  by_cases hsmall : rank < normal
  · exact ⟨0, rank, by omega, by omega, .inr rfl⟩
  · obtain ⟨k, rfl⟩ := Nat.exists_eq_add_of_le (Nat.le_of_not_lt hsmall)
    have hmod := Nat.mod_lt k hpos
    have hdiv := Nat.div_add_mod' k normal
    exact ⟨k / normal, normal + k % normal, by omega, by omega, .inl (by omega)⟩

theorem units_strictMono : StrictMono units := by
  apply strictMono_nat_of_lt_succ
  intro rank
  obtain ⟨shift, m, rfl, hm, hshift⟩ := exists_scaled rank
  have hnext : units (shift * normal + (m + 1)) = (m + 1) * Nat.pow 2 shift :=
    units_scaled (by omega) (by omega)
  rw [Nat.add_assoc, hnext, units_scaled (by omega) hshift]
  exact Nat.mul_lt_mul_of_pos_right (Nat.lt_succ_self m) (Nat.two_pow_pos shift)

private theorem units_multiple (rank shift : Nat) :
    (∃ k, units rank = k * Nat.pow 2 shift) ∨
      0 < shift ∧ units rank < normal * Nat.pow 2 shift := by
  obtain ⟨s, m, rfl, hm, hs⟩ := exists_scaled rank
  rw [units_scaled (by omega) hs]
  by_cases hle : shift ≤ s
  · obtain ⟨d, rfl⟩ := Nat.exists_eq_add_of_le hle
    refine .inl ⟨m * Nat.pow 2 d, ?_⟩
    have hpow : Nat.pow 2 (shift + d) = Nat.pow 2 d * Nat.pow 2 shift := by
      rw [Nat.add_comm]
      exact Nat.pow_add 2 d shift
    rw [hpow, Nat.mul_assoc]
  · refine .inr ⟨by omega, ?_⟩
    obtain ⟨d, rfl⟩ := Nat.exists_eq_add_of_lt (Nat.lt_of_not_le hle)
    have hpow : Nat.pow 2 (s + d + 1) = 2 * Nat.pow 2 (s + d) := Nat.pow_succ'
    have hmono : Nat.pow 2 s ≤ Nat.pow 2 (s + d) :=
      Nat.pow_le_pow_right (by decide) (Nat.le_add_right s d)
    calc
      m * Nat.pow 2 s < 2 * normal * Nat.pow 2 s :=
        Nat.mul_lt_mul_of_pos_right hm (Nat.two_pow_pos s)
      _ ≤ 2 * normal * Nat.pow 2 (s + d) := Nat.mul_le_mul_left _ hmono
      _ = normal * Nat.pow 2 (s + d + 1) := by
        rw [hpow, Nat.mul_comm 2 normal, Nat.mul_assoc]

end Units

section Multiples

variable {num den : Nat}

private theorem multiples_apart (den : Nat) {k m : Nat} (h : k ≠ m) :
    k * den + den ≤ m * den ∨ m * den + den ≤ k * den := by
  rcases Nat.lt_or_gt_of_ne h with hlt | hlt
  · left
    have := Nat.mul_le_mul_right den hlt
    rwa [Nat.succ_mul] at this
  · right
    have := Nat.mul_le_mul_right den hlt
    rwa [Nat.succ_mul] at this

theorem roundHalfEven_nearest (pos : 0 < den) (k : Nat) :
    Nat.dist num (roundHalfEven num den * den) ≤ Nat.dist num (k * den) := by
  obtain ⟨hbelow, habove⟩ := roundHalfEven_near num pos
  by_cases hk : k = roundHalfEven num den
  · rw [hk]
  · have hapart := multiples_apart den hk
    unfold Nat.dist
    omega

private theorem roundHalfEven_even (pos : 0 < den) {k : Nat} (hk : k ≠ roundHalfEven num den)
    (h : Nat.dist num (roundHalfEven num den * den) = Nat.dist num (k * den)) :
    roundHalfEven num den % 2 = 0 := by
  -- A tie is half the denominator away on either side.
  have hhalf : 2 * Nat.dist num (roundHalfEven num den * den) = den := by
    obtain ⟨hbelow, habove⟩ := roundHalfEven_near num pos
    have hapart := multiples_apart den hk
    unfold Nat.dist at h ⊢
    omega
  have whole : num / den * den + num % den = num := Nat.div_add_mod' num den
  have part : num % den < den := Nat.mod_lt num pos
  unfold roundHalfEven at hhalf ⊢
  dsimp only at hhalf ⊢
  unfold Nat.dist at hhalf
  split at hhalf
  · rename_i hdown
    rw [if_pos hdown]
    omega
  · rename_i hup
    rw [if_neg hup]
    rw [Nat.add_mul, Nat.one_mul] at hhalf
    omega

/-- A quotient that is scaled to fewer than 54 bits, and to 53 at least if it is scaled at all. -/
structure IsScaled (num den shift : Nat) : Prop where
  pos : 0 < den
  small : num < 2 * normal * (den * Nat.pow 2 shift)
  large : shift = 0 ∨ normal * (den * Nat.pow 2 shift) ≤ num

private theorem isScaled_log2 (num : Nat) (pos : 0 < den) :
    IsScaled num den ((num / den).log2 - 52) := by
  have hnormal (k : Nat) : normal * (den * Nat.pow 2 k) = den * Nat.pow 2 (52 + k) := by
    have hpow : Nat.pow 2 (52 + k) = normal * Nat.pow 2 k := Nat.pow_add 2 52 k
    rw [hpow, Nat.mul_left_comm]
  have hfloor := Nat.div_mul_le_self num den
  generalize hlog : (num / den).log2 = log at *
  refine ⟨pos, ?_, ?_⟩
  · have hlt : num / den < Nat.pow 2 (52 + (log - 52 + 1)) := by
      have hself : num / den < Nat.pow 2 (log + 1) := hlog ▸ Nat.lt_log2_self
      have hmono : Nat.pow 2 (log + 1) ≤ Nat.pow 2 (52 + (log - 52 + 1)) :=
        Nat.pow_le_pow_right (by decide) (by omega)
      omega
    have hdouble : 2 * normal * (den * Nat.pow 2 (log - 52)) =
        normal * (den * Nat.pow 2 (log - 52 + 1)) := by
      have hpow : Nat.pow 2 (log - 52 + 1) = 2 * Nat.pow 2 (log - 52) := Nat.pow_succ'
      rw [hpow, Nat.mul_comm 2 normal, Nat.mul_assoc, Nat.mul_left_comm 2 den]
    rw [hdouble, hnormal, Nat.mul_comm]
    exact (Nat.div_lt_iff_lt_mul pos).1 hlt
  · by_cases hshift : log - 52 = 0
    · exact .inl hshift
    · right
      have hne : num / den ≠ 0 := by
        intro hzero
        rw [hzero] at hlog
        simp at hlog
        omega
      have hself : Nat.pow 2 log ≤ num / den := hlog ▸ Nat.log2_self_le hne
      have hexponent : 52 + (log - 52) = log := by omega
      rw [hnormal, hexponent, Nat.mul_comm]
      exact (Nat.le_div_iff_mul_le pos).1 hself

variable {shift : Nat}

private theorem IsScaled.rounded (h : IsScaled num den shift) :
    roundHalfEven num (den * Nat.pow 2 shift) ≤ 2 * normal ∧
      (normal ≤ roundHalfEven num (den * Nat.pow 2 shift) ∨ shift = 0) := by
  have hpos : 0 < den * Nat.pow 2 shift := Nat.mul_pos h.pos (Nat.two_pow_pos shift)
  have hfloor : num / (den * Nat.pow 2 shift) < 2 * normal :=
    (Nat.div_lt_iff_lt_mul hpos).2 h.small
  have hlarge : normal ≤ num / (den * Nat.pow 2 shift) ∨ shift = 0 := by
    rcases h.large with hzero | hle
    · exact .inr hzero
    · exact .inl ((Nat.le_div_iff_mul_le hpos).2 hle)
  unfold roundHalfEven
  dsimp only
  split
  · omega
  · omega

private theorem IsScaled.nearest (h : IsScaled num den shift) (other : Nat) :
    let rank := shift * normal + roundHalfEven num (den * Nat.pow 2 shift)
    Nat.dist num (units rank * den) ≤ Nat.dist num (units other * den) ∧
      (other ≠ rank → Nat.dist num (units rank * den) = Nat.dist num (units other * den) →
        rank % 2 = 0) := by
  have hpos : 0 < den * Nat.pow 2 shift := Nat.mul_pos h.pos (Nat.two_pow_pos shift)
  have hmultiple (k : Nat) : k * Nat.pow 2 shift * den = k * (den * Nat.pow 2 shift) := by
    rw [Nat.mul_assoc, Nat.mul_comm den]
  obtain ⟨hle, hshift⟩ := h.rounded
  have hunits := units_scaled hle hshift
  dsimp only
  generalize hm : roundHalfEven num (den * Nat.pow 2 shift) = m at *
  rw [hunits, hmultiple]
  rcases units_multiple other shift with ⟨k, hk⟩ | ⟨hshift', hbelow⟩
  · rw [hk, hmultiple, ← hm]
    refine ⟨roundHalfEven_nearest hpos k, ?_⟩
    intro hne htie
    have hkm : k ≠ roundHalfEven num (den * Nat.pow 2 shift) := by
      rintro rfl
      exact hne (units_strictMono.injective (hk.trans (hm ▸ hunits.symm)))
    have heven := roundHalfEven_even hpos hkm htie
    have hnormal : shift * normal = 2 * (shift * Nat.pow 2 51) := by
      rw [Nat.mul_left_comm]
      rfl
    omega
  · -- Below all normal multiples the first of these is nearer than the other magnitude.
    have hfirst : Nat.dist num (roundHalfEven num (den * Nat.pow 2 shift) *
        (den * Nat.pow 2 shift)) ≤ Nat.dist num (normal * (den * Nat.pow 2 shift)) :=
      roundHalfEven_nearest hpos normal
    have hfar : units other * den < normal * (den * Nat.pow 2 shift) := by
      rw [← hmultiple]
      exact Nat.mul_lt_mul_of_pos_right hbelow h.pos
    have hnum := h.large.resolve_left (Nat.ne_of_gt hshift')
    rw [hm] at hfirst
    unfold Nat.dist at hfirst ⊢
    omega

end Multiples

section Ranks

variable {num den : Nat}

private theorem units_mul_lt {rank other : Nat} (pos : 0 < den) (h : rank < other) :
    units rank * den < units other * den :=
  Nat.mul_lt_mul_of_pos_right (units_strictMono h) pos

private theorem isNearest_infinityRank (pos : 0 < den) (h : units infinityRank * den ≤ num * one) :
    IsNearest num den infinityRank := by
  have hfar {other : Nat} (hother : other ≤ infinityRank) (hne : other ≠ infinityRank) :
      Nat.dist (num * one) (units infinityRank * den) <
        Nat.dist (num * one) (units other * den) := by
    have hlt := units_mul_lt pos (Nat.lt_of_le_of_ne hother hne)
    unfold Nat.dist
    omega
  refine ⟨Nat.le_refl _, ?_, ?_⟩
  · intro other hother
    by_cases hne : other = infinityRank
    · rw [hne]
    · exact Nat.le_of_lt (hfar hother hne)
  · intro other hother hne htie
    exact absurd htie (Nat.ne_of_lt (hfar hother hne))

private theorem isNearest_zero (h : 2 * (num * one) ≤ den) : IsNearest num den 0 := by
  have hzero : units 0 = 0 := rfl
  refine ⟨Nat.zero_le _, ?_, fun _ _ _ _ => rfl⟩
  intro other _
  rw [hzero, Nat.zero_mul]
  by_cases hother : other = 0
  · rw [hother, hzero, Nat.zero_mul]
  · have hpositive : 0 < units other := hzero ▸ units_strictMono (Nat.pos_of_ne_zero hother)
    have hle : den ≤ units other * den := Nat.le_mul_of_pos_left den hpositive
    unfold Nat.dist
    omega

/-- Ten to the bound on exponents, which exceeds all finite magnitudes and whose reciprocal is
rounded to zero. -/
def great : Nat := Nat.pow 10 Decimal.exponentBound.toNat

private theorem great_le {k : Nat} (h : Decimal.exponentBound ≤ k) : great ≤ Nat.pow 10 k := by
  unfold great
  generalize Decimal.exponentBound = bound at h ⊢
  exact Nat.pow_le_pow_right (by decide) (by omega)

private theorem isNearest_infinityRank_of_large (h : great ≤ num) :
    IsNearest num 1 infinityRank := by
  have hunits : units infinityRank ≤ great * one := by decide +kernel
  apply isNearest_infinityRank Nat.one_pos
  rw [Nat.mul_one]
  exact Nat.le_trans hunits (Nat.mul_le_mul_right one h)

private theorem isNearest_zero_of_small (h : num * great ≤ den) : IsNearest num den 0 := by
  have hunit : 2 * one ≤ great := by decide +kernel
  apply isNearest_zero
  rw [Nat.mul_left_comm]
  exact Nat.le_trans (Nat.mul_le_mul_left num hunit) h

theorem nearestRank_isNearest (num : Nat) (pos : 0 < den) :
    IsNearest num den (nearestRank num den) := by
  have hnearest := (isScaled_log2 (num * one) pos).nearest
  unfold nearestRank
  dsimp only at hnearest ⊢
  generalize ((num * one / den).log2 - 52) * normal +
    roundHalfEven (num * one) (den * Nat.pow 2 ((num * one / den).log2 - 52)) = rank at hnearest ⊢
  by_cases hrank : rank ≤ infinityRank
  · rw [Nat.min_eq_right hrank]
    exact ⟨hrank, fun other _ => (hnearest other).1, fun other _ => (hnearest other).2⟩
  · have hlt : infinityRank < rank := Nat.lt_of_not_le hrank
    rw [Nat.min_eq_left (Nat.le_of_lt hlt)]
    apply isNearest_infinityRank pos
    have hbeyond := units_mul_lt pos hlt
    have hdist := (hnearest infinityRank).1
    unfold Nat.dist at hdist
    omega

/-- The midpoint between the greatest finite magnitude and the one above it, as a whole number. -/
def overflow : Nat := Nat.pow 2 1024 - Nat.pow 2 970

private theorem units_midpoint :
    units (infinityRank - 1) + units infinityRank = 2 * (overflow * one) := by
  decide +kernel

/-- A fraction is rounded to infinity exactly if it reaches the midpoint: there the greatest finite
magnitude is as near, but its rank is odd. -/
theorem IsNearest.infinite_iff {rank : Nat} (pos : 0 < den) (h : IsNearest num den rank) :
    rank = infinityRank ↔ overflow * den ≤ num := by
  have hone : 0 < one := by decide +kernel
  have hlast : infinityRank - 1 < infinityRank := by decide +kernel
  have hscaled : overflow * den ≤ num ↔
      units (infinityRank - 1) * den + units infinityRank * den ≤ 2 * (num * one) := by
    have hsum : units (infinityRank - 1) * den + units infinityRank * den =
        2 * (overflow * den * one) := by
      rw [← Nat.add_mul, units_midpoint, Nat.mul_assoc, Nat.mul_right_comm overflow]
    rw [hsum, Nat.mul_le_mul_left_iff (by decide), Nat.mul_le_mul_right_iff hone]
  have hbelow := units_mul_lt pos hlast
  rw [hscaled]
  constructor
  · rintro rfl
    have hdist := h.nearest _ (Nat.le_of_lt hlast)
    unfold Nat.dist at hdist
    omega
  · intro hreached
    by_contra hne
    -- No finite rank is nearer than infinity, and of these only the last one is as near.
    have hfinite : rank ≤ infinityRank - 1 := by
      have hle := h.le
      omega
    have hle : units rank * den ≤ units (infinityRank - 1) * den :=
      Nat.mul_le_mul_right den (units_strictMono.monotone hfinite)
    have hdist := h.nearest infinityRank (Nat.le_refl _)
    have htie : Nat.dist (num * one) (units rank * den) =
        Nat.dist (num * one) (units infinityRank * den) := by
      unfold Nat.dist at hdist ⊢
      omega
    have hsame : rank = infinityRank - 1 := by
      have hunits : units rank * den = units (infinityRank - 1) * den := by
        unfold Nat.dist at hdist
        omega
      exact units_strictMono.injective (Nat.eq_of_mul_eq_mul_right pos hunits)
    have heven := h.tie infinityRank (Nat.le_refl _) (Ne.symm hne) htie
    have hodd : (infinityRank - 1) % 2 = 1 := by decide +kernel
    rw [hsame] at heven
    omega

end Ranks

/-- The value has this sign, and the magnitude nearest to `num / den`. -/
def Rounds (negative : Bool) (num den : Nat) (x : Binary64) : Prop :=
  ∃ rank, x = ofRank negative rank ∧ IsNearest num den rank

theorem Rounds.isFinite_iff {negative : Bool} {num den : Nat} {x : Binary64} (pos : 0 < den)
    (h : Rounds negative num den x) : x.isFinite = true ↔ num < overflow * den := by
  obtain ⟨rank, rfl, hnearest⟩ := h
  have hle := hnearest.le
  have hinfinite := hnearest.infinite_iff pos
  simp only [ofRank, isFinite, decide_eq_true_eq, Nat.min_eq_right hle]
  omega

end Binary64

namespace Decimal

/-- A decimal number is rounded to the nearest value, also where its power of ten is so great or so
small that it is not computed. -/
theorem toBinary64_rounds (d : Decimal) :
    Binary64.Rounds d.negative (d.mantissa * Nat.pow 10 d.exponent.toNat)
      (Nat.pow 10 (-d.exponent).toNat) d.toBinary64 := by
  have hunit : Nat.pow 10 0 = 1 := rfl
  have hbound : 0 ≤ exponentBound := by decide
  unfold toBinary64
  split
  · rename_i hzero
    refine ⟨0, rfl, Binary64.isNearest_zero ?_⟩
    rw [hzero, Nat.zero_mul, Nat.zero_mul]
    exact Nat.zero_le _
  rename_i hmantissa
  split
  · rename_i hlarge
    refine ⟨Binary64.infinityRank, rfl, ?_⟩
    have hexponent : (-d.exponent).toNat = 0 := by omega
    rw [hexponent, hunit]
    apply Binary64.isNearest_infinityRank_of_large
    apply Nat.le_trans (Binary64.great_le (k := d.exponent.toNat) (by omega))
    exact Nat.le_mul_of_pos_left _ (Nat.pos_of_ne_zero hmantissa)
  split
  · rename_i hsmall
    refine ⟨0, rfl, Binary64.isNearest_zero_of_small ?_⟩
    have hexponent : d.exponent.toNat = 0 := by omega
    -- As many places as the mantissa has bits suffice for it.
    have hmantissa : d.mantissa ≤ Nat.pow 10 (d.mantissa.log2 + 1) := by
      have hbits : d.mantissa < 2 ^ (d.mantissa.log2 + 1) := Nat.lt_log2_self
      have hbase : 2 ^ (d.mantissa.log2 + 1) ≤ Nat.pow 10 (d.mantissa.log2 + 1) :=
        Nat.pow_le_pow_left (by decide) _
      omega
    obtain ⟨places, hplaces⟩ := Nat.exists_eq_add_of_le
      (show d.mantissa.log2 + 1 ≤ (-d.exponent).toNat by omega)
    have hsum : Nat.pow 10 (-d.exponent).toNat =
        Nat.pow 10 (d.mantissa.log2 + 1) * Nat.pow 10 places := by
      rw [hplaces]
      exact Nat.pow_add 10 _ _
    rw [hexponent, hunit, Nat.mul_one, hsum]
    exact Nat.mul_le_mul hmantissa (Binary64.great_le (by omega))
  · exact ⟨_, rfl, Binary64.nearestRank_isNearest _ (Nat.pow_pos (by decide))⟩

end Decimal

end PullLexer
