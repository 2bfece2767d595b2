import ObjectProtocol.Toml.Reader

/-!
# Texts in quotes

Texts stand between single or double quotes, on one line or, between three of them, on several.
Between double quotes a backslash begins an escape; between single quotes it stands for itself.
-/

namespace ObjectProtocol.Toml

open Reader

namespace Quoted

def hexValue (cs : List Char) : Option Nat :=
  cs.foldlM (fun n c =>
    if c.isDigit then some (16 * n + (c.toNat - '0'.toNat))
    else if 'a' ≤ c ∧ c ≤ 'f' then some (16 * n + (c.toNat - 'a'.toNat + 10))
    else if 'A' ≤ c ∧ c ≤ 'F' then some (16 * n + (c.toNat - 'A'.toNat + 10))
    else none) 0

def ofCode (cs : List Char) : Option Char := do
  let n ← hexValue cs
  if n.isValidChar then return Char.ofNat n else none

def ofLetter : Char → Option Char
  | 'b' => some '\x08'
  | 't' => some '\t'
  | 'n' => some '\n'
  | 'f' => some '\x0c'
  | 'r' => some '\r'
  | '"' => some '"'
  | '\\' => some '\\'
  | _ => none

def isPlain (c : Char) : Bool := c = '\t' || (' ' ≤ c && c ≠ '\x7f')

def basic : List Char → Option (List Char × List Char)
  | '"' :: cs => some ([], cs)
  | '\\' :: 'u' :: a :: b :: c :: d :: cs => do
    let x ← ofCode [a, b, c, d]
    let (text, cs) ← basic cs
    return (x :: text, cs)
  | '\\' :: 'U' :: a :: b :: c :: d :: e :: f :: g :: h :: cs => do
    let x ← ofCode [a, b, c, d, e, f, g, h]
    let (text, cs) ← basic cs
    return (x :: text, cs)
  | '\\' :: letter :: cs => do
    let x ← ofLetter letter
    let (text, cs) ← basic cs
    return (x :: text, cs)
  | c :: cs =>
    if isPlain c ∧ c ≠ '\\' then do
      let (text, cs) ← basic cs
      return (c :: text, cs)
    else none
  | [] => none

def literal : List Char → Option (List Char × List Char)
  | '\x27' :: cs => some ([], cs)
  | c :: cs =>
    if isPlain c then do
      let (text, cs) ← literal cs
      return (c :: text, cs)
    else none
  | [] => none

/-- Where a run of three or more quotes closes a text, the quotes before the closing three belong to the
text, at most two of them. -/
def closing (quote : Char) (cs : List Char) : Option (List Char × List Char) :=
  let run := (cs.takeWhile (· = quote)).length
  if run < 3 then none
  else
    let kept := min (run - 3) 2
    some (List.replicate kept quote, cs.drop (kept + 3))

/-- Whether a backslash before these characters folds the line: only blanks follow it. -/
def folds (cs : List Char) : Bool :=
  match cs.dropWhile isBlank with
  | '\n' :: _ => true
  | '\r' :: '\n' :: _ => true
  | _ => false

/-- The rest of a text in three double quotes. While a line is being folded, blanks and line ends are left
out. -/
def basicLines (folding : Bool) : List Char → Option (List Char × List Char)
  | '\n' :: cs => do
    let (text, cs) ← basicLines folding cs
    return (if folding then text else '\n' :: text, cs)
  | '\r' :: '\n' :: cs => do
    let (text, cs) ← basicLines folding cs
    return (if folding then text else '\n' :: text, cs)
  | '\\' :: 'u' :: a :: b :: c :: d :: cs => do
    let x ← ofCode [a, b, c, d]
    let (text, cs) ← basicLines false cs
    return (x :: text, cs)
  | '\\' :: 'U' :: a :: b :: c :: d :: e :: f :: g :: h :: cs => do
    let x ← ofCode [a, b, c, d, e, f, g, h]
    let (text, cs) ← basicLines false cs
    return (x :: text, cs)
  | '\\' :: letter :: cs =>
    if folds (letter :: cs) then basicLines true (letter :: cs)
    else do
      let x ← ofLetter letter
      let (text, cs) ← basicLines false cs
      return (x :: text, cs)
  | c :: cs =>
    if folding && isBlank c then basicLines true cs
    else
      match if c = '"' then closing '"' (c :: cs) else none with
      | some (text, cs) => some (text, cs)
      | none =>
        if isPlain c ∧ c ≠ '\\' then do
          let (text, cs) ← basicLines false cs
          return (c :: text, cs)
        else none
  | [] => none

def literalLines : List Char → Option (List Char × List Char)
  | '\n' :: cs => do
    let (text, cs) ← literalLines cs
    return ('\n' :: text, cs)
  | '\r' :: '\n' :: cs => do
    let (text, cs) ← literalLines cs
    return ('\n' :: text, cs)
  | c :: cs =>
    match if c = '\x27' then closing '\x27' (c :: cs) else none with
    | some (text, cs) => some (text, cs)
    | none =>
      if isPlain c then do
        let (text, cs) ← literalLines cs
        return (c :: text, cs)
      else none
  | [] => none

def skipNewline : List Char → List Char
  | '\n' :: cs => cs
  | '\r' :: '\n' :: cs => cs
  | cs => cs

def line : Reader String := fun
  | '"' :: cs => (basic cs).map fun (text, cs) => (String.ofList text, cs)
  | '\x27' :: cs => (literal cs).map fun (text, cs) => (String.ofList text, cs)
  | _ => none

def text : Reader String := fun
  | '"' :: '"' :: '"' :: cs =>
    (basicLines false (skipNewline cs)).map fun (text, cs) => (String.ofList text, cs)
  | '\x27' :: '\x27' :: '\x27' :: cs =>
    (literalLines (skipNewline cs)).map fun (text, cs) => (String.ofList text, cs)
  | cs => line cs

end Quoted

end ObjectProtocol.Toml
