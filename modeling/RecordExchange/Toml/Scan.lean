set_option autoImplicit false

/-!
Characters and small pieces of a TOML document: blanks, comments, line ends, digits.

A reader takes the characters in front of it and gives what it read with the characters behind, or
nothing if the document is wrong there.
-/

namespace RecordExchange.Toml

abbrev Reader (α : Type) := List Char → Option (α × List Char)

/-- A control character that no text of a document may hold as it is. -/
def isControl (c : Char) : Bool := c.toNat < 0x20 && c ≠ '\t' || c.toNat = 0x7f

def skipBlanks (cs : List Char) : List Char := cs.dropWhile fun c => c = ' ' || c = '\t'

def lineEnd : List Char → Option (List Char)
  | '\n' :: rest => some rest
  | '\r' :: '\n' :: rest => some rest
  | _ => none

/-- Skips a comment, if one is there, up to the end of its line. -/
def skipComment : List Char → Option (List Char)
  | '#' :: rest =>
    let behind := rest.dropWhile fun c => !isControl c
    if behind.isEmpty || (lineEnd behind).isSome then some behind else none
  | cs => some cs

/-- Skips blanks and a comment, and the end of the line or of the document. -/
def finishLine (cs : List Char) : Option (List Char) := do
  match ← skipComment (skipBlanks cs) with
  | [] => some []
  | behind => lineEnd behind

def skipLinesFor : Nat → List Char → Option (List Char)
  | 0, cs => some cs
  | fuel + 1, cs => do
    let behind ← skipComment (skipBlanks cs)
    match lineEnd behind with
    | some rest => skipLinesFor fuel rest
    | none => some behind

def skipLines (cs : List Char) : Option (List Char) := skipLinesFor (cs.length + 1) cs

def digitValue? (base : Nat) (c : Char) : Option Nat :=
  let n :=
    if '0' ≤ c && c ≤ '9' then c.toNat - '0'.toNat
    else if 'a' ≤ c && c ≤ 'f' then c.toNat - 'a'.toNat + 10
    else if 'A' ≤ c && c ≤ 'F' then c.toNat - 'A'.toNat + 10
    else base
  if n < base then some n else none

def isDigit (base : Nat) (c : Char) : Bool := (digitValue? base c).isSome

def digitsValue (base : Nat) (digits : List Char) : Nat :=
  digits.foldl (fun n c => n * base + (digitValue? base c).getD 0) 0

def fixedDigits (n : Nat) (cs : List Char) : Option (List Char × List Char) :=
  let digits := cs.take n
  if digits.length = n && digits.all (isDigit 10) then some (digits, cs.drop n) else none

def moreDigits (base : Nat) : List Char → Option (List Char × List Char)
  | '_' :: c :: rest =>
    if isDigit base c then (moreDigits base rest).map fun (ds, rest) => (c :: ds, rest) else none
  | c :: rest =>
    if isDigit base c then (moreDigits base rest).map fun (ds, rest) => (c :: ds, rest)
    else if c = '_' then none
    else some ([], c :: rest)
  | [] => some ([], [])

def digits (base : Nat) : Reader (List Char)
  | c :: rest =>
    if isDigit base c then (moreDigits base rest).map fun (ds, rest) => (c :: ds, rest) else none
  | [] => none

end RecordExchange.Toml
