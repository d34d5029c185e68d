import PullLexer.Numeric.Shortest
/-!
# Layout of floating-point text

The shortest digits of a value are laid out positionally, with a point and at least one digit on
either side of it, or with a power of ten. A layout says where positional text begins and ends,
how a power of ten is signed and which of two equally near decimals is shown.
-/

namespace PullLexer

structure FloatLayout where
  /-- The least power of ten of the leading digit that is written positionally. -/
  leastPositional : Int
  /-- The greatest power of ten of the leading digit that is written positionally. -/
  greatestPositional : Int
  /-- Whether a power of ten that is not negative carries a plus sign. -/
  plusSign : Bool
  tie : Shortest.Tie

namespace FloatLayout

/-- Positional from five places after the point to sixteen before it; powers of ten carry their
sign. -/
def signedExponents : FloatLayout := ⟨-5, 15, true, .even⟩

/-- Positional from four places after the point to sixteen before it; a half is shown rounded up. -/
def plainExponents : FloatLayout := ⟨-4, 15, false, .up⟩

def significantDigits (n : Nat) : List Char :=
  ((Nat.toDigits 10 n).reverse.dropWhile (· = '0')).reverse

/-- Digits with the point after the one whose power of ten is zero; `lead` belongs to the first. -/
def positional (digits : List Char) (lead : Int) : List Char :=
  if lead < 0 then
    ['0', '.'] ++ List.replicate (-lead - 1).toNat '0' ++ digits
  else
    let whole := digits.take (lead.toNat + 1)
    let fraction := digits.drop (lead.toNat + 1)
    whole ++ List.replicate (lead.toNat + 1 - whole.length) '0' ++ ['.'] ++
      (if fraction.isEmpty then ['0'] else fraction)

/-- Digits with the point after the first, if others follow it, and the power of ten of the
first. -/
def scientific (plusSign : Bool) (digits : List Char) (lead : Int) : List Char :=
  digits.take 1 ++ (if digits.length ≤ 1 then [] else '.' :: digits.drop 1) ++ ['e'] ++
    (if lead < 0 then ['-'] else if plusSign then ['+'] else []) ++ Nat.toDigits 10 lead.natAbs

def magnitude (layout : FloatLayout) (rank : Nat) : List Char :=
  if rank = 0 then ['0', '.', '0']
  else
    let d := Shortest.decimal layout.tie rank
    let lead := d.exponent + (Shortest.digitCount d.digits : Int) - 1
    let digits := significantDigits d.digits
    if layout.leastPositional ≤ lead ∧ lead ≤ layout.greatestPositional then positional digits lead
    else scientific layout.plusSign digits lead

/-- The text of a value. Infinities and not-a-number have words; zero keeps its sign. -/
def render (layout : FloatLayout) : Binary64 → String
  | .nan => "NaN"
  | .ranked negative rank =>
    let text := if rank.val < Binary64.infinityRank then layout.magnitude rank else ['i', 'n', 'f']
    String.ofList (if negative then '-' :: text else text)

end FloatLayout

end PullLexer
