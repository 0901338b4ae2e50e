import RecordExchange.Toml.Scan

set_option autoImplicit false

/-!
The texts of a TOML document: basic and literal, on one line or on several; how they are read, and
which form a text is written in.
-/

namespace RecordExchange.Toml

def scalar? (n : Nat) : Option Char := if n.isValidChar then some (Char.ofNat n) else none

def codePoint (width : Nat) (cs : List Char) : Option (Char × List Char) :=
  let ds := cs.take width
  if ds.length = width && ds.all (isDigit 16) then
    (scalar? (digitsValue 16 ds)).map fun c => (c, cs.drop width)
  else none

def escape : Reader Char
  | 'b' :: rest => some ('\x08', rest)
  | 't' :: rest => some ('\t', rest)
  | 'n' :: rest => some ('\n', rest)
  | 'f' :: rest => some ('\x0c', rest)
  | 'r' :: rest => some ('\r', rest)
  | '"' :: rest => some ('"', rest)
  | '\\' :: rest => some ('\\', rest)
  | 'u' :: rest => codePoint 4 rest
  | 'U' :: rest => codePoint 8 rest
  | _ => none

def skipWhite : List Char → List Char
  | ' ' :: rest => skipWhite rest
  | '\t' :: rest => skipWhite rest
  | '\n' :: rest => skipWhite rest
  | '\r' :: '\n' :: rest => skipWhite rest
  | cs => cs

/-- Reads the rest of a basic text on one line; `fuel` bounds its characters. -/
def basicFor : Nat → Reader (List Char)
  | 0, _ => none
  | _, [] => none
  | _, '"' :: rest => some ([], rest)
  | fuel + 1, '\\' :: rest => do
    let (c, rest) ← escape rest
    let (cs, rest) ← basicFor fuel rest
    some (c :: cs, rest)
  | fuel + 1, c :: rest =>
    if isControl c then none
    else (basicFor fuel rest).map fun (cs, rest) => (c :: cs, rest)

def literalRest : Reader (List Char)
  | [] => none
  | '\'' :: rest => some ([], rest)
  | c :: rest =>
    if isControl c then none
    else (literalRest rest).map fun (cs, rest) => (c :: cs, rest)

def quotes (mark : Char) (cs : List Char) : Nat := (cs.takeWhile (· = mark)).length

/-- Reads the rest of a text on several lines, with or without escapes; up to two quotes may stand
before the closing three. `fuel` bounds the characters. -/
def multilineFor (mark : Char) (hasEscapes : Bool) : Nat → Reader (List Char)
  | 0, _ => none
  | _, [] => none
  | fuel + 1, c :: rest =>
    if c = mark then
      let n := quotes mark (c :: rest)
      if 3 ≤ n then
        let inner := min (n - 3) 2
        some (List.replicate inner mark, (c :: rest).drop (inner + 3))
      else (multilineFor mark hasEscapes fuel rest).map fun (cs, rest) => (c :: cs, rest)
    else if c = '\\' && hasEscapes then
      match lineEnd (skipBlanks rest) with
      | some behind => multilineFor mark hasEscapes fuel (skipWhite behind)
      | none => do
        let (e, rest) ← escape rest
        let (cs, rest) ← multilineFor mark hasEscapes fuel rest
        some (e :: cs, rest)
    else
      match lineEnd (c :: rest) with
      | some behind =>
        (multilineFor mark hasEscapes fuel behind).map fun (cs, rest) => ('\n' :: cs, rest)
      | none =>
        if isControl c then none
        else (multilineFor mark hasEscapes fuel rest).map fun (cs, rest) => (c :: cs, rest)

/-- Reads the rest of a text on several lines; a line end right behind the opening does not
count. -/
def multiline (mark : Char) (hasEscapes : Bool) (cs : List Char) :
    Option (List Char × List Char) :=
  let body := (lineEnd cs).getD cs
  multilineFor mark hasEscapes (body.length + 1) body

def singleLine : Reader String
  | '"' :: rest => (basicFor (rest.length + 1) rest).map fun (cs, rest) => (String.ofList cs, rest)
  | '\'' :: rest => (literalRest rest).map fun (cs, rest) => (String.ofList cs, rest)
  | _ => none

def text : Reader String
  | '"' :: '"' :: '"' :: rest =>
    (multiline '"' true rest).map fun (cs, rest) => (String.ofList cs, rest)
  | '\'' :: '\'' :: '\'' :: rest =>
    (multiline '\'' false rest).map fun (cs, rest) => (String.ofList cs, rest)
  | cs => singleLine cs

def hexWord (n : Nat) : List Char :=
  [n / 0x1000, n / 0x100, n / 0x10, n].map fun d => (Nat.digitChar (d % 16)).toUpper

/-- A character of a basic text other than a quote; a line end stands for itself if the text has
several lines. -/
def basicChar (severalLines : Bool) (c : Char) : List Char :=
  if c = '\x08' then ['\\', 'b']
  else if c = '\t' then ['\\', 't']
  else if c = '\n' then if severalLines then ['\n'] else ['\\', 'n']
  else if c = '\x0c' then ['\\', 'f']
  else if c = '\r' then ['\\', 'r']
  else if c = '\\' then ['\\', '\\']
  else if isControl c then ['\\', 'u'] ++ hexWord c.toNat
  else [c]

/-- The characters of a basic text. Between three quotes only every third quote of a row has to be
escaped, otherwise each; `row` quotes stand in front as they are. -/
def basicChars (threeQuotes : Bool) (row : Nat) : List Char → List Char
  | [] => []
  | '"' :: rest =>
    if threeQuotes && row < 2 then '"' :: basicChars threeQuotes (row + 1) rest
    else '\\' :: '"' :: basicChars threeQuotes 0 rest
  | c :: rest => basicChar threeQuotes c ++ basicChars threeQuotes 0 rest

def longestRun (mark : Char) (cs : List Char) : Nat :=
  (cs.foldl (fun (best, run) c =>
    let run := if c = mark then run + 1 else 0
    (max best run, run)) (0, 0)).1

inductive TextForm where
  /-- With escapes, between quotes. -/
  | basic
  /-- As it is, between single quotes. -/
  | literal
  /-- With escapes, between three quotes. -/
  | longBasic
  /-- As it is, between three single quotes. -/
  | longLiteral
  deriving DecidableEq, Repr

/-- The form a text is written in: the first of the four in which nothing has to be escaped, and a
basic one, long if there are several lines, if something has to be in all of them. -/
def TextForm.of (cs : List Char) : TextForm :=
  let isPlain := cs.all fun c => c = '\n' || !isControl c
  let hasLineEnd := cs.contains '\n'
  let hasBackslash := cs.contains '\\'
  let singles := longestRun '\'' cs
  let doubles := longestRun '"' cs
  if isPlain && !hasBackslash && doubles = 0 && !hasLineEnd then .basic
  else if isPlain && singles = 0 && !hasLineEnd then .literal
  else if isPlain && !hasBackslash && doubles ≤ 2 then .longBasic
  else if isPlain && singles ≤ 2 then .longLiteral
  else if hasLineEnd then .longBasic
  else .basic

/-- Writes a text. A long form of several lines begins on a line of its own. -/
def writeText (s : String) : String :=
  let cs := s.toList
  let opening := if cs.contains '\n' then ['\n'] else []
  let single := List.replicate 3 '\''
  let double := List.replicate 3 '"'
  String.ofList <|
    match TextForm.of cs with
    | .basic => '"' :: basicChars false 0 cs ++ ['"']
    | .literal => '\'' :: cs ++ ['\'']
    | .longBasic => double ++ opening ++ basicChars true 0 cs ++ double
    | .longLiteral => single ++ opening ++ cs ++ single

end RecordExchange.Toml
