import PullLexer.Numeric.Binary64
/-!
# Shortest decimals

The fewest decimal digits that read back as a given floating-point magnitude. A decimal reads back
when it lies between the midpoints to the two neighbouring magnitudes; the midpoints themselves
belong to the even rank. The interval is kept in half units, so that all of it is exact.
-/

namespace PullLexer.Shortest

/-- Which of two equally near decimals is taken. -/
inductive Tie
  | even
  | up
deriving DecidableEq, Repr

/-- A decimal without sign: `digits` times ten to the power `exponent`. -/
structure Scaled where
  digits : Nat
  exponent : Int
deriving DecidableEq, Repr

def digitCount (n : Nat) : Nat := (Nat.toDigits 10 n).length

def leadingExponent (num den : Nat) : Int :=
  if den ≤ num then (digitCount (num / den) : Int) - 1 else -(digitCount ((den - 1) / num) : Int)

def halfUnits : Nat := 2 * Binary64.one

/-- Whether `d` reads back as the magnitude of rank `rank`. -/
def readsBack (rank : Nat) (d : Scaled) : Bool :=
  let scale := Nat.pow 10 (-d.exponent).toNat
  let point := d.digits * Nat.pow 10 d.exponent.toNat * halfUnits
  let low := (Binary64.units (rank - 1) + Binary64.units rank) * scale
  let high := (Binary64.units rank + Binary64.units (rank + 1)) * scale
  if rank % 2 = 0 then low ≤ point && point ≤ high else low < point && point < high

/-- The nearest of the decimals with last place `exponent` that read back as `rank`, if there is
one: only the two neighbours of the magnitude have to be tried. -/
def onGrid? (tie : Tie) (rank : Nat) (exponent : Int) : Option Scaled :=
  let num := 2 * Binary64.units rank * Nat.pow 10 (-exponent).toNat
  let den := halfUnits * Nat.pow 10 exponent.toNat
  let below : Scaled := ⟨num / den, exponent⟩
  let above : Scaled := ⟨num / den + 1, exponent⟩
  let twiceRest := 2 * (num % den)
  let nearAbove := den < twiceRest ∨ den = twiceRest ∧ (tie = .up ∨ below.digits % 2 = 1)
  match readsBack rank below, readsBack rank above with
  | true, true => some (if nearAbove then above else below)
  | true, false => some below
  | false, true => some above
  | false, false => none

theorem readsBack_of_onGrid? {tie : Tie} {rank : Nat} {exponent : Int} {d : Scaled}
    (h : onGrid? tie rank exponent = some d) : readsBack rank d = true := by
  unfold onGrid? at h
  dsimp only at h
  split at h
  · rename_i below above
    split at h
    · exact Option.some.inj h ▸ above
    · exact Option.some.inj h ▸ below
  · rename_i below _; exact Option.some.inj h ▸ below
  · rename_i _ above; exact Option.some.inj h ▸ above
  · exact absurd h (by simp)

/-- The first grid with a hit, from `count` further digits on. -/
def search (tie : Tie) (rank : Nat) (exponent : Int) : Nat → Scaled
  | 0 => ⟨0, exponent⟩
  | count + 1 =>
    match onGrid? tie rank exponent with
    | some d => d
    | none => search tie rank (exponent - 1) count

/-- Seventeen digits always suffice. -/
def mostDigits : Nat := 17

/-- The shortest decimal that reads back as the finite magnitude of rank `rank`, the nearest of
those with that number of digits. -/
def decimal (tie : Tie) (rank : Nat) : Scaled :=
  search tie rank (leadingExponent (Binary64.units rank) Binary64.one) mostDigits

end PullLexer.Shortest
