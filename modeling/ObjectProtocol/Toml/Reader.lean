/-!
# Readers

A reader takes something off the front of the text and gives the rest back, or refuses.  These are the
readers that do not know what they are reading: single characters, runs of characters, digits, blanks
and line ends.
-/

namespace ObjectProtocol.Toml

/-- Takes an `α` off the front of the characters. -/
abbrev Reader := StateT (List Char) Option

namespace Reader

def rest : Reader (List Char) := get

def peek? : Reader (Option Char) := do return (← rest).head?

def satisfying (p : Char → Bool) : Reader Char := fun
  | c :: cs => if p c then some (c, cs) else none
  | [] => none

def char (c : Char) : Reader Unit := do let _ ← satisfying (· = c)

def word : List Char → Reader Unit
  | [] => pure ()
  | c :: cs => do
    char c
    word cs

def span (p : Char → Bool) : Reader (List Char) := fun cs =>
  some (cs.takeWhile p, cs.dropWhile p)

/-- `span`, refused when it takes nothing. -/
def spanSome (p : Char → Bool) : Reader (List Char) := do
  let cs ← span p
  if cs.isEmpty then failure else return cs

def perhaps {α : Type} (r : Reader α) : Reader (Option α) := fun cs =>
  match r cs with
  | some (a, cs) => some (some a, cs)
  | none => some (none, cs)

def digits : Nat → Nat → Reader Nat
  | 0, value => return value
  | n + 1, value => do
    let c ← satisfying Char.isDigit
    digits n (10 * value + (c.toNat - '0'.toNat))

def bounded (n least most : Nat) : Reader Nat := do
  let value ← digits n 0
  if least ≤ value ∧ value ≤ most then return value else failure

def grouped (p : Char → Bool) : List Char → List Char × List Char
  | '_' :: c :: cs => if p c then let (ds, cs) := grouped p cs; (c :: ds, cs) else ([], '_' :: c :: cs)
  | c :: cs => if p c then let (ds, cs) := grouped p cs; (c :: ds, cs) else ([], c :: cs)
  | [] => ([], [])

def digitGroups (p : Char → Bool) : Reader (List Char) := do
  let first ← satisfying p
  let (more, cs) := grouped p (← rest)
  set cs
  return first :: more

/-! ## Blanks and line ends -/

def isBlank (c : Char) : Bool := c = ' ' || c = '\t'

def blanks : Reader Unit := do let _ ← span isBlank

def isCommentChar (c : Char) : Bool := c = '\t' || (' ' ≤ c && c ≠ '\x7f')

def newline : Reader Unit := fun
  | '\n' :: cs => some ((), cs)
  | '\r' :: '\n' :: cs => some ((), cs)
  | _ => none

def lineEnd : Reader Unit := do
  if (← rest).isEmpty then return () else newline

def lineTail : Reader Unit := do
  blanks
  if (← peek?) = some '#' then
    let _ ← span isCommentChar
  lineEnd

/-- Skips blanks, line ends and whole comments; `inside` says whether a comment has been begun. -/
def skipTrivia (inside : Bool) : List Char → Option (List Char)
  | [] => if inside then none else some []
  | '\n' :: cs => skipTrivia false cs
  | '\r' :: '\n' :: cs => skipTrivia false cs
  | c :: cs =>
    if inside then (if isCommentChar c then skipTrivia true cs else none)
    else if isBlank c then skipTrivia false cs
    else if c = '#' then skipTrivia true cs
    else some (c :: cs)

def trivia : Reader Unit := fun cs => (skipTrivia false cs).map ((), ·)

end Reader

end ObjectProtocol.Toml
