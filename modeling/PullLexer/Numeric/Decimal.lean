import PullLexer.Numeric.Binary64
/-!
# Decimal numerals

A whole numeral has an optional sign and at least one decimal digit. Its value has any size; a word
of 64 bits holds it if it fits. A decimal numeral has an optional sign, digits with at most one
point and at least one digit, and an optional power of ten. It denotes the nearest floating-point
value. The words for infinity and not-a-number are read in any case.
-/

namespace PullLexer

namespace Numeral

/-- The number that a row of decimal digits writes. -/
def digitsValue (digits : List Char) : Nat :=
  digits.foldl (fun value d => 10 * value + (d.toNat - '0'.toNat)) 0

/-- Splits off an optional sign; `true` stands for a minus. -/
def splitSign : List Char → Bool × List Char
  | '-' :: text => (true, text)
  | '+' :: text => (false, text)
  | text => (false, text)

def readDigits? (text : List Char) : Option Nat :=
  if text.isEmpty || !text.all Char.isDigit then none else some (digitsValue text)

def readInt? (text : List Char) : Option Int :=
  let (negative, digits) := splitSign text
  (readDigits? digits).map fun n => if negative then -(n : Int) else n

/-- The value of a whole numeral that fits a signed word of 64 bits. -/
def readInt64? (text : List Char) : Option Int64 :=
  (readInt? text).bind fun n =>
    if -Int.pow 2 63 ≤ n ∧ n < Int.pow 2 63 then some (Int64.ofInt n) else none

theorem readInt?_of_readInt64? {text : List Char} {n : Int64} (h : readInt64? text = some n) :
    readInt? text = some n.toInt := by
  unfold readInt64? at h
  cases hi : readInt? text with
  | none => rw [hi] at h; exact absurd h (by simp)
  | some i =>
    rw [hi, Option.bind_some] at h
    split at h
    · rename_i fits
      rw [← Option.some.inj h, Int64.toInt_ofInt_of_le fits.1 fits.2]
    · exact absurd h (by simp)

end Numeral

/-- A decimal number: its magnitude is `mantissa` times ten to the power `exponent`. -/
structure Decimal where
  negative : Bool
  mantissa : Nat
  exponent : Int
deriving DecidableEq, Repr

namespace Decimal

/-- The power of ten after the digits: nothing, or the letter e and a whole numeral. -/
def readExponent? : List Char → Option Int
  | [] => some 0
  | e :: text => if e = 'e' ∨ e = 'E' then Numeral.readInt? text else none

/-- Splits off the digits after a point, if a point comes first. -/
def splitFraction : List Char → List Char × List Char
  | '.' :: text => (text.takeWhile Char.isDigit, text.dropWhile Char.isDigit)
  | text => ([], text)

/-- Reads what follows the sign of a decimal numeral. -/
def readUnsigned? (negative : Bool) (text : List Char) : Option Decimal :=
  let whole := text.takeWhile Char.isDigit
  let (fraction, rest) := splitFraction (text.dropWhile Char.isDigit)
  if whole.isEmpty && fraction.isEmpty then none
  else (readExponent? rest).map fun exponent =>
    ⟨negative, Numeral.digitsValue (whole ++ fraction), exponent - (fraction.length : Int)⟩

/-- Ten to this power exceeds every finite magnitude, and its reciprocal rounds to zero. -/
def exponentBound : Int := 400

/-- The floating-point value nearest to a decimal number. The bound on the exponent only spares the
computation of powers that are certain to overflow or to vanish. -/
def toBinary64 (d : Decimal) : Binary64 :=
  if d.mantissa = 0 then .zero d.negative
  else if exponentBound < d.exponent then .infinity d.negative
  else if d.exponent + (d.mantissa.log2 + 1 : Nat) < -exponentBound then .zero d.negative
  else .ofFraction d.negative (d.mantissa * Nat.pow 10 d.exponent.toNat)
    (Nat.pow 10 (-d.exponent).toNat)

end Decimal

def Binary64.infinityWords : List (List Char) := ["inf".toList, "infinity".toList]

def Binary64.nanWord : List Char := "nan".toList

def Binary64.read? (text : List Char) : Option Binary64 :=
  let (negative, unsigned) := Numeral.splitSign text
  let word := unsigned.map Char.toLower
  if word = nanWord then some .nan
  else if infinityWords.contains word then some (infinity negative)
  else (Decimal.readUnsigned? negative unsigned).map Decimal.toBinary64

end PullLexer
