import Highlighter.Toml.Scan

/-!
# TOML numbers

An integer has 64 bits. A float may have any number of digits, but a positive one that rounds to
infinity in double precision is refused.
-/

namespace Highlighter.Toml

def isDigit (char : Char) : Bool :=
  '0' ≤ char && char ≤ '9'

/-- The digits of a number, in which an underscore may stand between each two. -/
def ungrouped? (digit : Char → Bool) : Text → Option Text
  | [] => none
  | [last] => if digit last then some [last] else none
  | first :: '_' :: rest => if digit first then (ungrouped? digit rest).map (first :: ·) else none
  | first :: rest => if digit first then (ungrouped? digit rest).map (first :: ·) else none

def digits (digit : Char → Bool) : Scan Text := do
  let taken ← Scan.takeWhile fun char => digit char || char = '_'
  liftM (ungrouped? digit taken)

/-- Reads the digits of a number that has no leading zeros. -/
def leadDigits : Scan Text := do
  let taken ← digits isDigit
  if taken.head? = some '0' && taken ≠ ['0'] then failure
  return taken

/-- Reads a sign, if there is one, and tells whether it is a minus. -/
def sign : Scan Bool :=
  (Scan.exactly ['-'] *> pure true) <|> (Scan.exactly ['+'] *> pure false) <|> pure false

/-- The number that some digits give in a base. -/
def ofDigits (base : Nat) (digits : Text) : Nat :=
  digits.foldl (fun number digit =>
    base * number + (digit.toLower.toNat - if isDigit digit then '0'.toNat else 'a'.toNat - 10)) 0

/-- The least number that needs more than 63 bits. -/
def integerBound : Nat :=
  1 <<< 63

/-- Reads a number with the mark of its base. It must fit in 63 bits. -/
def basedInteger (mark : Char) (base : Nat) (digit : Char → Bool) : Scan Unit := do
  Scan.exactly ['0', mark]
  let taken ← digits digit
  if integerBound ≤ ofDigits base taken then failure

/-- Reads a decimal number of 64 bits with sign: the least one is `-integerBound`. -/
def decimalInteger : Scan Unit := do
  let negative ← sign
  let taken ← leadDigits
  let size := ofDigits 10 taken
  if (if negative then integerBound < size else integerBound ≤ size) then failure

def integer : Scan Unit :=
  basedInteger 'x' 16 (fun char => isDigit char || 'a' ≤ char.toLower && char.toLower ≤ 'f') <|>
    basedInteger 'o' 8 (fun char => '0' ≤ char && char ≤ '7') <|>
    basedInteger 'b' 2 (fun char => char = '0' || char = '1') <|> decimalInteger

/-- The least number that rounds to infinity in double precision: it lies halfway between the
greatest finite one, which has 53 binary digits, and the next that 54 would give. -/
def infinityBound : Nat :=
  (1 <<< 54 - 1) <<< 970

/-- Whether a decimal number rounds to infinity in double precision: with fewer than 309 places
before the point it cannot, and with more it must. -/
def roundsToInfinity (digits : Text) (exponent : Int) : Bool :=
  let significant := digits.dropWhile (· = '0')
  let places := exponent + significant.length
  if significant = [] || places < 309 then false
  else if 309 < places then true
  else
    infinityBound * Nat.pow 10 (-exponent).toNat ≤
      ofDigits 10 significant * Nat.pow 10 exponent.toNat

def exponent : Scan Int := do
  Scan.exactly ['e'] <|> Scan.exactly ['E']
  let negative ← sign
  let size := ofDigits 10 (← digits isDigit)
  return if negative then -size else size

def fraction : Scan Text := do
  Scan.exactly ['.']
  digits isDigit

/-- Reads a number with a point, an exponent, or both. -/
def decimalFloat : Scan Unit := do
  let negative ← sign
  let whole ← leadDigits
  let (part, power) ←
    (do
      let part ← fraction
      let power ← exponent <|> pure 0
      return (part, power)) <|>
    (do
      let power ← exponent
      return ([], power))
  if !negative && roundsToInfinity (whole ++ part) (power - part.length) then failure

def float : Scan Unit :=
  decimalFloat <|> (discard sign *> (Scan.exactly "inf".toList <|> Scan.exactly "nan".toList))

end Highlighter.Toml
