import ObjectProtocol.Text.Hidden

/-!
# Text

Two views of a text that printing and searching need.  `hasBlock` decides whether one text occurs in
another as a contiguous block of characters, and `quoted` is the form in which debug output shows a
name: between double quotes, with the characters that would be misread written as escapes.
-/

namespace ObjectProtocol.Text

/-- Whether `block` occurs in `text` as a contiguous block of characters. -/
def hasBlock (text block : String) : Bool := text.contains block

theorem hasBlock_iff {text block : String} :
    hasBlock text block = true ↔ block.toList <:+: text.toList := String.contains_string_iff

def hexDigits (n : Nat) : List Char := Nat.toDigits 16 n

def escape (c : Char) : List Char :=
  match c with
  | '"' => ['\\', '"']
  | '\\' => ['\\', '\\']
  | '\n' => ['\\', 'n']
  | '\r' => ['\\', 'r']
  | '\t' => ['\\', 't']
  | '\x00' => ['\\', '0']
  | c => if isHidden c then ['\\', 'u', '\x7b'] ++ hexDigits c.toNat ++ ['\x7d'] else [c]

/-- The text between double quotes, each character as `escape` writes it. -/
def quoted (s : String) : String :=
  String.ofList ('"' :: s.toList.flatMap escape ++ ['"'])

end ObjectProtocol.Text
