import ObjectProtocol.Toml.Moment
import ObjectProtocol.Toml.Number

/-!
# Scalars

A scalar is told by its first character where that suffices.  Numbers and moments begin alike, so
moments are tried first, and floats before integers.
-/

namespace ObjectProtocol.Toml

open Reader

def scalar : Reader Item := do
  match ← peek? with
  | some '"' | some '\x27' => .str <$> Quoted.text
  | some 't' =>
    word ['t', 'r', 'u', 'e']
    return .bool true
  | some 'f' =>
    word ['f', 'a', 'l', 's', 'e']
    return .bool false
  | some 'i' | some 'n' => Number.specialFloat
  | _ => Moment.moment <|> Number.decimalFloat <|> Number.specialFloat <|> Number.integer

end ObjectProtocol.Toml
