import ObjectProtocol.Toml.Item
import ObjectProtocol.Toml.Quoted

/-!
# Numbers

Integers in four bases, which have to lie in the native range, and floats.  A float that is too large
to be a number is refused, unless it is negative.
-/

namespace ObjectProtocol.Toml

open Reader

namespace Number

def sign : Reader Bool := do
  match ← perhaps (satisfying fun c => c = '+' || c = '-') with
  | some '-' => return true
  | _ => return false

def ofDigits (base : Nat) (ds : List Char) : Nat :=
  ds.foldl (fun n c => base * n + ((Quoted.hexValue [c]).getD 0)) 0

def decimalDigits : Reader (List Char) := do
  if (← peek?) = some '0' then
    char '0'
    return ['0']
  else digitGroups Char.isDigit

def inRange (i : Int) : Reader Item :=
  match NativeInt.ofInt? i with
  | some n => return .int n
  | none => failure

def based (base : Nat) (p : Char → Bool) : Reader Item := do
  inRange (ofDigits base (← digitGroups p))

def isHex (c : Char) : Bool := (Quoted.hexValue [c]).isSome

def integer : Reader Item := do
  match ← rest with
  | '0' :: 'x' :: cs =>
    set cs
    based 16 isHex
  | '0' :: 'o' :: cs =>
    set cs
    based 8 fun c => '0' ≤ c && c ≤ '7'
  | '0' :: 'b' :: cs =>
    set cs
    based 2 fun c => c = '0' || c = '1'
  | _ =>
    let negative ← sign
    let n := ofDigits 10 (← decimalDigits)
    inRange (if negative then -n else n)

/-- The double nearest to `m · 10 ^ e`. Exponents beyond the range of doubles are settled first. -/
def toFloat (m : Nat) (e : Int) : Float :=
  let leading := e + (Nat.toDigits 10 m).length
  if m = 0 ∨ leading < -330 then 0.0
  else if 310 < leading then 1.0 / 0.0
  else Float.ofScientific m (e < 0) e.natAbs

def exponent : Reader Int := do
  let _ ← satisfying fun c => c = 'e' || c = 'E'
  let negative ← sign
  let n := ofDigits 10 (← digitGroups Char.isDigit)
  return if negative then -n else n

def decimalFloat : Reader Item := do
  let negative ← sign
  let whole ← decimalDigits
  let fraction ←
    if (← peek?) = some '.' then do
      char '.'
      some <$> digitGroups Char.isDigit
    else pure none
  let exponent ← perhaps exponent
  if fraction.isNone ∧ exponent.isNone then failure
  let places := (fraction.getD []).length
  let x := toFloat (ofDigits 10 (whole ++ fraction.getD [])) (exponent.getD 0 - places)
  if negative then return .float (-x)
  else if x.isInf then failure
  else return .float x

def specialFloat : Reader Item := do
  let negative ← sign
  let x : Float ←
    if (← peek?) = some 'i' then do
      word ['i', 'n', 'f']
      pure (1.0 / 0.0)
    else do
      word ['n', 'a', 'n']
      pure (0.0 / 0.0)
  return .float (if negative then -x else x)

end Number

end ObjectProtocol.Toml
