/-!
# Sets of code points

A property of characters is kept as closed intervals of code points in ascending order, and a
code point is looked up by halving. Runs of a predicate over a stretch of code points are the
reverse view: they list the intervals on which the predicate holds.
-/

namespace PullLexer.Text

/-- Closed intervals of code points, ascending and apart from each other. -/
structure CodeRanges where
  intervals : Array (Nat × Nat)

namespace CodeRanges

/-- Advances from interval `i` by strides of falling powers of two, taking a stride when the
interval it lands on starts at or below `n`. -/
def locateFrom (ranges : CodeRanges) (n : Nat) : Nat → Nat → Nat
  | 0, i => i
  | k + 1, i =>
    match ranges.intervals[i + 2 ^ k]? with
    | some (low, _) => locateFrom ranges n k (if low ≤ n then i + 2 ^ k else i)
    | none => locateFrom ranges n k i

def locate (ranges : CodeRanges) (n : Nat) : Nat :=
  ranges.locateFrom n (ranges.intervals.size.log2 + 1) 0

def contains (ranges : CodeRanges) (n : Nat) : Bool :=
  match ranges.intervals[ranges.locate n]? with
  | some (low, high) => low ≤ n && n ≤ high
  | none => false

theorem exists_interval_of_contains {ranges : CodeRanges} {n : Nat}
    (h : ranges.contains n = true) :
    ∃ i low high : Nat, ranges.intervals[i]? = some (low, high) ∧ low ≤ n ∧ n ≤ high := by
  unfold contains at h
  split at h
  · rename_i low high hi
    simp only [Bool.and_eq_true, decide_eq_true_eq] at h
    exact ⟨_, low, high, hi, h.1, h.2⟩
  · exact absurd h (by decide)

end CodeRanges

def lastCodePoint : Nat := 0x10FFFF

/-- The character with code point `n`; surrogates and values beyond the last code point have
none. -/
def character? (n : Nat) : Option Char :=
  if h : n.isValidChar then some (Char.ofNatAux n h) else none

/-- Puts `n` in front of runs that all lie above it, joining it to the first when they touch. -/
def extendRuns (n : Nat) : List (Nat × Nat) → List (Nat × Nat)
  | [] => [(n, n)]
  | (low, high) :: runs => if low = n + 1 then (n, high) :: runs else (n, n) :: (low, high) :: runs

/-- Adds to `runs` the maximal runs among the `count` code points that start at `first`. -/
def runsInto (p : Char → Bool) (first : Nat) : Nat → List (Nat × Nat) → List (Nat × Nat)
  | 0, runs => runs
  | count + 1, runs =>
    runsInto p first count
      (if (character? (first + count)).any p then extendRuns (first + count) runs else runs)

/-- Maximal runs of the code points in `first, …, last` whose character satisfies `p`. -/
def runs (p : Char → Bool) (first last : Nat) : List (Nat × Nat) :=
  runsInto p first (min last lastCodePoint + 1 - first) []

end PullLexer.Text
