import ObjectProtocol.Decimal.Shortest

/-!
# Texts of doubles

Both texts that the host writes use the shortest digits that read back.  They differ in where an
exponent takes over and in whether a whole number keeps its point, which is what a `NumberStyle`
records.
-/

namespace ObjectProtocol

/-- How the digits of a number are laid out. -/
structure NumberStyle where
  /-- Exponents of the leading digit that are written without an exponent mark; `none` for all. -/
  positional : Option (Int × Int)
  /-- What a whole number ends in when it is written positionally. -/
  wholeEnding : String

namespace NumberStyle

/-- Values in their exact form: `1.0`, `0.0001`, `1e16`, `1e-5`. -/
def exact : NumberStyle := ⟨some (-4, 15), ".0"⟩

/-- Values in messages: always positional, and a whole number stands without a point. -/
def plain : NumberStyle := ⟨none, ""⟩

def writePositional (style : NumberStyle) (digits : List Char) (leading : Int) : String :=
  let zeros (n : Int) := List.replicate n.toNat '0'
  let places : Int := digits.length
  if leading < 0 then String.ofList (['0', '.'] ++ zeros (-leading - 1) ++ digits)
  else if places ≤ leading + 1 then
    String.ofList (digits ++ zeros (leading + 1 - places)) ++ style.wholeEnding
  else
    String.ofList (digits.take (leading + 1).toNat ++ '.' :: digits.drop (leading + 1).toNat)

def writeScientific (digits : List Char) (leading : Int) : String :=
  let mantissa := match digits with
    | first :: second :: rest => first :: '.' :: second :: rest
    | short => short
  String.ofList mantissa ++ "e" ++ toString leading

def writeDecimal (style : NumberStyle) (d : Decimal) : String :=
  let digits := Nat.toDigits 10 d.digits
  let leading := d.exponent + digits.length - 1
  match style.positional with
  | none => style.writePositional digits leading
  | some (least, greatest) =>
    if least ≤ leading ∧ leading ≤ greatest then style.writePositional digits leading
    else writeScientific digits leading

def write (style : NumberStyle) (x : Float) : String :=
  if x.isNaN then "NaN"
  else
    let bits := x.toBits
    let sign := if bits >>> 63 = 1 then "-" else ""
    sign ++
      if x.isInf then "inf"
      else if bits <<< 1 = 0 then "0" ++ style.wholeEnding
      else style.writeDecimal (Decimal.ofBits bits)

end NumberStyle

end ObjectProtocol
