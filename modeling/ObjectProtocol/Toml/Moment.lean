import ObjectProtocol.Toml.Item
import ObjectProtocol.Toml.Reader

/-!
# Dates and times

A date, a time of day, or both with perhaps an offset.  Their parts have to be in range, days by the
lengths of the months; what they say is not kept.
-/

namespace ObjectProtocol.Toml

open Reader

namespace Moment

def daysIn (year month : Nat) : Nat :=
  if month = 2 then
    (if year % 4 = 0 ∧ (year % 100 ≠ 0 ∨ year % 400 = 0) then 29 else 28)
  else if month = 4 ∨ month = 6 ∨ month = 9 ∨ month = 11 then 30
  else 31

def date : Reader Unit := do
  let year ← digits 4 0
  char '-'
  let month ← bounded 2 1 12
  char '-'
  let _ ← bounded 2 1 (daysIn year month)

def time : Reader Unit := do
  let _ ← bounded 2 0 23
  char ':'
  let _ ← bounded 2 0 59
  char ':'
  let _ ← bounded 2 0 60
  if (← peek?) = some '.' then
    char '.'
    let _ ← spanSome Char.isDigit

def offset : Reader Unit := do
  match ← satisfying fun c => c = 'Z' || c = 'z' || c = '+' || c = '-' with
  | '+' | '-' =>
    let _ ← bounded 2 0 23
    char ':'
    let _ ← bounded 2 0 59
  | _ => return ()

def timeAfterDate : Reader Unit := do
  let _ ← satisfying fun c => c = 'T' || c = 't' || c = ' '
  time
  let _ ← perhaps offset

def moment : Reader Item := do
  (do
    date
    let _ ← perhaps timeAfterDate) <|> time
  return .datetime

end Moment

end ObjectProtocol.Toml
