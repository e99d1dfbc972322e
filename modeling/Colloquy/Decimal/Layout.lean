import Colloquy.Decimal.Shortest

/-! How a number is laid out as text, given its shortest digits. -/
namespace Colloquy.Decimal

structure Layout where
  -- Exponents of the leading digit written without an exponent; `none` sets no bound.
  lowest : Option Int
  highest : Option Int
  -- Whether a whole number keeps one decimal.
  keepsPoint : Bool
  -- Whether a positive exponent carries its sign.
  plusSign : Bool
  tie : Tie

def zeros (n : Nat) : List Char := List.replicate n '0'

def positional (layout : Layout) (text : List Char) (point : Int) : List Char :=
  let tail := if layout.keepsPoint then ['.', '0'] else []
  if point ≤ 0 then '0' :: '.' :: zeros (-point).toNat ++ text
  else if text.length ≤ point.toNat then text ++ zeros (point.toNat - text.length) ++ tail
  else text.take point.toNat ++ '.' :: text.drop point.toNat

def scientific (layout : Layout) (text : List Char) (lead : Int) : List Char :=
  let fraction := text.drop 1
  let magnitude := Nat.toDigits 10 lead.natAbs
  let sign := if lead < 0 then ['-'] else if layout.plusSign then ['+'] else []
  text.take 1 ++ (if fraction.isEmpty then [] else '.' :: fraction)
    ++ 'e' :: sign ++ magnitude

def layOut (layout : Layout) (d : Digits) : List Char :=
  if d.significand = 0 then if layout.keepsPoint then ['0', '.', '0'] else ['0']
  else
    let text := Nat.toDigits 10 d.significand
    let point := d.exponent + text.length
    let lead := point - 1
    if layout.lowest.all (· ≤ lead) && layout.highest.all (lead ≤ ·) then positional layout text point
    else scientific layout text lead

-- Signs are kept, also that of a negative zero.
def Layout.render (layout : Layout) (x : Float) : String :=
  if x.isNaN then "NaN"
  else
    let sign := if x.toBits.toNat < Nat.pow 2 63 then [] else ['-']
    if x.isInf then String.ofList (sign ++ ['i', 'n', 'f'])
    else String.ofList (sign ++ layOut layout (digitsOf layout.tie x))

def Layout.render32 (layout : Layout) (x : Float32) : String :=
  if x.isNaN then "NaN"
  else
    let sign := if x.toBits.toNat < Nat.pow 2 31 then [] else ['-']
    if x.isInf then String.ofList (sign ++ ['i', 'n', 'f'])
    else String.ofList (sign ++ layOut layout (digitsOf32 layout.tie x))

-- Values shown to people: never an exponent, no decimals for a whole number.
def plain : Layout := ⟨none, none, false, false, .upward⟩

-- Numbers quoted in messages: at least one decimal, an exponent from 10^16 up and below 10^-4.
def annotated : Layout := ⟨some (-4), some 15, true, false, .upward⟩

-- Numbers in stored documents: at least one decimal, a signed exponent from 10^16 up and below 10^-5.
def stored : Layout := ⟨some (-5), some 15, true, true, .toEven⟩

end Colloquy.Decimal
