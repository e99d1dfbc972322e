/-!
The fewest decimal digits that read back as a given binary number, by exact comparisons on natural
numbers.
-/
namespace Colloquy.Decimal

-- `significand * 10 ^ exponent`.
structure Digits where
  significand : Nat
  exponent : Int
deriving DecidableEq, Repr

-- A positive number as a quotient; `den` is never zero here.
structure Ratio where
  num : Nat
  den : Nat

-- `mantissa * 2 ^ exponent`.
def Ratio.ofBinary (mantissa : Nat) (exponent : Int) : Ratio :=
  if 0 ≤ exponent then ⟨mantissa * Nat.pow 2 exponent.toNat, 1⟩
  else ⟨mantissa, Nat.pow 2 (-exponent).toNat⟩

inductive Tie where
  | upward
  | toEven
deriving DecidableEq

def countDigits (n : Nat) : Nat := (Nat.toDigits 10 n).length

-- Where the decimal point stands in a value no smaller than 10^-340: the number of digits before
-- it, or minus the number of zeros that follow it.
def Ratio.pointPosition (v : Ratio) : Int :=
  (countDigits (v.num * Nat.pow 10 340 / v.den) : Int) - 340

def Ratio.inUnits (v : Ratio) (unit : Int) : Ratio :=
  if 0 ≤ unit then ⟨v.num, v.den * Nat.pow 10 unit.toNat⟩
  else ⟨v.num * Nat.pow 10 (-unit).toNat, v.den⟩

-- The hit on the grid of `count` digits, if one of the neighbours reads back.
def onGrid (v : Ratio) (readsBack : Digits → Bool) (tie : Tie) (count : Nat) : Option Digits :=
  let unit := v.pointPosition - count
  let scaled := v.inUnits unit
  let below := scaled.num / scaled.den
  let rest := 2 * (scaled.num % scaled.den)
  let low : Digits := ⟨below, unit⟩
  let high : Digits := ⟨below + 1, unit⟩
  match readsBack low, readsBack high with
  | false, false => none
  | true, false => some low
  | false, true => some high
  | true, true =>
    if rest < scaled.den then some low
    else if scaled.den < rest then some high
    else match tie with
      | .upward => some high
      | .toEven => if below % 2 = 0 then some low else some high

-- All digits of a binary fraction, which always has a finite decimal expansion.
def exactDigits (mantissa : Nat) (exponent : Int) : Digits :=
  if 0 ≤ exponent then ⟨mantissa * Nat.pow 2 exponent.toNat, 0⟩
  else ⟨mantissa * Nat.pow 5 (-exponent).toNat, exponent⟩

def Digits.trimZeros (d : Digits) : Digits :=
  let text := (Nat.toDigits 10 d.significand).reverse
  let zeros := (text.takeWhile (· == '0')).length
  if d.significand = 0 then ⟨0, 0⟩ else ⟨d.significand / Nat.pow 10 zeros, d.exponent + zeros⟩

def shortest (mantissa : Nat) (exponent : Int) (readsBack : Digits → Bool) (tie : Tie) : Digits :=
  let v := Ratio.ofBinary mantissa exponent
  let found := (List.range' 1 17).findSome? (onGrid v readsBack tie)
  (found.getD (exactDigits mantissa exponent)).trimZeros

-- The double nearest to the decimal, a half going to the even neighbour.
def Digits.toFloat (d : Digits) : Float :=
  if 0 ≤ d.exponent then Float.ofScientific d.significand false d.exponent.toNat
  else Float.ofScientific d.significand true (-d.exponent).toNat

def Digits.toFloat32 (d : Digits) : Float32 :=
  if 0 ≤ d.exponent then Float32.ofScientific d.significand false d.exponent.toNat
  else Float32.ofScientific d.significand true (-d.exponent).toNat

-- A finite double without its sign, as `mantissa * 2 ^ exponent`.
def binaryParts (x : Float) : Nat × Int :=
  let bits := x.toBits.toNat % Nat.pow 2 63
  let field := bits / Nat.pow 2 52
  let fraction := bits % Nat.pow 2 52
  if field = 0 then (fraction, -1074) else (fraction + Nat.pow 2 52, Int.ofNat field - 1075)

def binaryParts32 (x : Float32) : Nat × Int :=
  let bits := x.toBits.toNat % Nat.pow 2 31
  let field := bits / Nat.pow 2 23
  let fraction := bits % Nat.pow 2 23
  if field = 0 then (fraction, -149) else (fraction + Nat.pow 2 23, Int.ofNat field - 150)

def digitsOf (tie : Tie) (x : Float) : Digits :=
  let (mantissa, exponent) := binaryParts x
  if mantissa = 0 then ⟨0, 0⟩
  else
    let magnitude := x.toBits.toNat % Nat.pow 2 63
    shortest mantissa exponent (fun d => d.toFloat.toBits.toNat == magnitude) tie

def digitsOf32 (tie : Tie) (x : Float32) : Digits :=
  let (mantissa, exponent) := binaryParts32 x
  if mantissa = 0 then ⟨0, 0⟩
  else
    let magnitude := x.toBits.toNat % Nat.pow 2 31
    shortest mantissa exponent (fun d => d.toFloat32.toBits.toNat == magnitude) tie

end Colloquy.Decimal
