import LanguageClient.Text.Basic
namespace LanguageClient

/-!
# Numbers with a fraction

Numbers that are no integers of 64 bits are kept with 53 binary digits. A magnitude is counted in
units of the least one, two to the power -1074. A decimal is read by rounding its digits and then
multiplying or dividing by a power of ten, each step to the nearest magnitude; it is written with
the fewest digits that lead to the same magnitude.
-/

namespace Json.Binary64

/-- The binary digits that a magnitude keeps. -/
def precision : Nat := 53

/-- The binary digits of a unit after the point. -/
def scale : Nat := 1074

/-- Every finite magnitude is below this one. -/
def limit : Nat := 1 <<< (scale + 1024)

/-- The distance of neighbouring magnitudes from `n` upwards. -/
def spacing (n : Nat) : Nat := if n = 0 then 1 else 1 <<< (n.log2 + 1 - precision)

/-- The integer nearest to a ratio, the even one of two. -/
def roundDiv (num den : Nat) : Nat :=
  let quotient := num / den
  let twice := 2 * (num % den)
  if twice < den ∨ (twice = den ∧ quotient % 2 = 0) then quotient else quotient + 1

/-- The magnitude nearest to a ratio of units, the even one of two. -/
def nearest (num den : Nat) : Nat :=
  let step := spacing (num / den)
  roundDiv num (den * step) * step

def ofNat (n : Nat) : Nat := nearest (n <<< scale) 1

def powerOfTen (k : Nat) : Nat := ofNat (Nat.pow 10 k)

def mul (a b : Nat) : Nat := nearest (a * b) (1 <<< scale)

def div (a b : Nat) : Nat := nearest (a <<< scale) b

/-- The greatest power of ten that is no greater than every magnitude. -/
def maxPower : Nat := 308

/-- Divides by a power of ten, by at most the greatest one at a time. -/
def scaleDown : (fuel a k : Nat) → Nat
  | 0, _, _ => 0
  | fuel + 1, a, k =>
    if a = 0 then 0
    else if k ≤ maxPower then div a (powerOfTen k)
    else scaleDown fuel (div a (powerOfTen maxPower)) (k - maxPower)

/-- The magnitude of digits with a decimal exponent; none if it is too large. -/
def ofDecimal? (digits : Nat) (exponent : Int) : Option Nat :=
  let a := ofNat digits
  match exponent with
  | .ofNat k =>
    if a = 0 then some 0
    else if k ≤ maxPower ∧ mul a (powerOfTen k) < limit then some (mul a (powerOfTen k))
    else none
  | .negSucc k => some (scaleDown 4 a (k + 1))

/-- Digits and a decimal exponent. -/
structure Decimal where
  digits : Nat
  exponent : Int
deriving DecidableEq, Repr

/-- Takes the zeros at the end of the digits into the exponent. -/
def Decimal.trimmed (digits : Nat) (exponent : Int) : Decimal :=
  if 0 < digits ∧ digits % 10 = 0 then trimmed (digits / 10) (exponent + 1)
  else ⟨digits, exponent⟩
termination_by digits
decreasing_by omega

/-- A power of ten in units, as a ratio. -/
def unitsOfPower : Int → Nat × Nat
  | .ofNat k => (Nat.pow 10 k <<< scale, 1)
  | .negSucc k => (1 <<< scale, Nat.pow 10 (k + 1))

/-- Whether a ratio of units rounds to the magnitude `n`. -/
def roundsTo (n num den : Nat) : Bool :=
  let above := spacing n
  let below := if n.log2 + 1 > precision ∧ n = 1 <<< n.log2 then above / 2 else above
  let low := (4 * n - 2 * below) * den
  let high := (4 * n + 2 * above) * den
  if n / above % 2 = 0 then low ≤ 4 * num && 4 * num ≤ high else low < 4 * num && 4 * num < high

/-- The decimal with the given exponent that rounds to `n` and is nearest to it. -/
def decimalAt? (n : Nat) (exponent : Int) : Option Decimal :=
  let (num, den) := unitsOfPower exponent
  let digits := n * den / num
  let next := digits + 1
  let distance := n * den - digits * num
  let nextDistance := next * num - n * den
  let preferNext := nextDistance < distance ∨ (nextDistance = distance ∧ digits % 2 = 1)
  match roundsTo n (digits * num) den, roundsTo n (next * num) den with
  | true, true => some (.trimmed (if preferNext then next else digits) exponent)
  | true, false => some (.trimmed digits exponent)
  | false, true => some (.trimmed next exponent)
  | false, false => none

/-- The number of decimal digits before the point; of a fraction, minus the zeros after it. -/
def magnitudeOfTen (n : Nat) : Int :=
  (Nat.toDigits 10 ((n * Nat.pow 10 400) >>> scale)).length - 400

/-- The shortest decimal that rounds to a magnitude. -/
def shortest (n : Nat) : Decimal :=
  ((List.range 17).findSome? fun (count : Nat) =>
    decimalAt? n (magnitudeOfTen n - (count + 1))).getD ⟨0, 0⟩

def zeros (n : Nat) : Text := List.replicate n '0'

/-- Numbers from a hundred-thousandth to below ten quadrillions are written without an exponent; of
others the exponent has a sign, whichever it is. -/
def write (n : Nat) : Text :=
  if n = 0 then ['0', '.', '0']
  else
    let d := shortest n
    let digits := Nat.toDigits 10 d.digits
    let point : Int := digits.length + d.exponent
    if 0 ≤ d.exponent ∧ point ≤ 16 then digits ++ zeros d.exponent.toNat ++ ['.', '0']
    else if 0 < point ∧ point ≤ 16 then
      digits.take point.toNat ++ '.' :: digits.drop point.toNat
    else if -5 < point ∧ point ≤ 0 then '0' :: '.' :: (zeros (-point).toNat ++ digits)
    else
      let fraction := if digits.length = 1 then [] else '.' :: digits.drop 1
      let sign := if point < 1 then '-' else '+'
      digits.take 1 ++ fraction ++ 'e' :: sign :: Nat.toDigits 10 (point - 1).natAbs

end Json.Binary64

end LanguageClient
