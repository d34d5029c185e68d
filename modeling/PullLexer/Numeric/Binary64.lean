/-!
# Binary floating point of 64 bits

A value is not-a-number or a sign with a magnitude. Magnitudes are counted by rank: rank 0 is
zero, each further rank is the next magnitude up, and the last rank is infinity. In units of the
least positive magnitude, 2 to the power −1074, every finite rank is a natural number, so that
rounding and comparing are exact.
-/

namespace PullLexer

/-- Significands have 53 bits; a normal one starts at 2 to the power 52. -/
def Binary64.normal : Nat := Nat.pow 2 52

/-- The rank of infinity: below it are 2047 groups of 2 to the power 52 finite ranks each. -/
def Binary64.infinityRank : Nat := 2047 * Nat.pow 2 52

inductive Binary64
  | nan
  | ranked (negative : Bool) (rank : Fin (Binary64.infinityRank + 1))
deriving DecidableEq, Repr

namespace Binary64

def one : Nat := Nat.pow 2 1074

def units (rank : Nat) : Nat :=
  if rank < normal then rank else (normal + rank % normal) * Nat.pow 2 (rank / normal - 1)

/-- The whole number nearest to `num / den`, of two equally near ones the even one. -/
def roundHalfEven (num den : Nat) : Nat :=
  let floor := num / den
  if 2 * (num % den) < den ∨ 2 * (num % den) = den ∧ floor % 2 = 0 then floor else floor + 1

theorem roundHalfEven_near (num : Nat) {den : Nat} (pos : 0 < den) :
    2 * num ≤ 2 * (roundHalfEven num den * den) + den ∧
      2 * (roundHalfEven num den * den) ≤ 2 * num + den := by
  have whole : num / den * den + num % den = num := Nat.div_add_mod' num den
  have part : num % den < den := Nat.mod_lt num pos
  unfold roundHalfEven
  dsimp only
  split
  · omega
  · rw [Nat.add_mul, Nat.one_mul]
    omega

/-- The rank of the magnitude nearest to `num / den`; from the midpoint above the greatest finite
magnitude on, infinity. -/
def nearestRank (num den : Nat) : Nat :=
  let shift := (num * one / den).log2 - 52
  min infinityRank (shift * normal + roundHalfEven (num * one) (den * Nat.pow 2 shift))

/-- The magnitude of a rank with a sign; ranks beyond that of infinity stand for it as well. -/
def ofRank (negative : Bool) (rank : Nat) : Binary64 :=
  .ranked negative ⟨min infinityRank rank, Nat.lt_succ_of_le (Nat.min_le_left _ _)⟩

def zero (negative : Bool) : Binary64 := ofRank negative 0

def infinity (negative : Bool) : Binary64 := ofRank negative infinityRank

def ofFraction (negative : Bool) (num den : Nat) : Binary64 :=
  ofRank negative (nearestRank num den)

def isFinite : Binary64 → Bool
  | .nan => false
  | .ranked _ rank => rank.val < infinityRank

end Binary64

end PullLexer
