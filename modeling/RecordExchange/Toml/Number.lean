import RecordExchange.Toml.Scan
import RecordExchange.Toml.Value
import RecordExchange.Word

set_option autoImplicit false

/-!
The numbers and points in time of a TOML document.
-/

namespace RecordExchange.Toml

def sign : List Char → Option Bool × List Char
  | '+' :: rest => (some false, rest)
  | '-' :: rest => (some true, rest)
  | cs => (none, cs)

def signed64? (isNegative : Bool) (n : Nat) : Option Int :=
  if isNegative then if n ≤ Word.values64 / 2 then some (-(n : Int)) else none
  else if n < Word.values64 / 2 then some n else none

def decimalDigits : Reader (List Char)
  | '0' :: rest => some (['0'], rest)
  | cs => digits 10 cs

def integer : Reader Value
  | '0' :: 'x' :: rest => based 16 rest
  | '0' :: 'o' :: rest => based 8 rest
  | '0' :: 'b' :: rest => based 2 rest
  | cs => do
    let (minus, behind) := sign cs
    let (ds, rest) ← decimalDigits behind
    let n ← signed64? (minus.getD false) (digitsValue 10 ds)
    some (.integer n, rest)
where
  based (base : Nat) (cs : List Char) : Option (Value × List Char) := do
    let (ds, rest) ← digits base cs
    let n ← signed64? false (digitsValue base ds)
    some (.integer n, rest)

def fraction : List Char → Option (Option (List Char) × List Char)
  | '.' :: rest => (digits 10 rest).map fun (ds, rest) => (some ds, rest)
  | cs => some (none, cs)

def exponent : List Char → Option (Option (Bool × List Char) × List Char)
  | c :: rest =>
    if c = 'e' || c = 'E' then
      let (minus, behind) := sign rest
      (digits 10 behind).map fun (ds, rest) => (some (minus.getD false, ds), rest)
    else some (none, c :: rest)
  | [] => some (none, [])

/-- Whether `mantissa * 10 ^ exponent` lies beyond every finite number of 64 bits: the middle
between the largest one and the next power of two rounds upwards. -/
def isTooLarge (mantissa : Nat) (exponent : Int) : Bool :=
  mantissa ≠ 0 && (400 < exponent ||
    -400 - (mantissa.log2 : Int) ≤ exponent &&
      (Nat.pow 2 1024 - Nat.pow 2 970) * Nat.pow 10 (-exponent).toNat ≤
        mantissa * Nat.pow 10 exponent.toNat)

/-- Reads a number with a fraction or an exponent, or one of the names of what is no number. The
text is kept as it is written. -/
def float (cs : List Char) : Option (Value × List Char) := do
  let (minus, behind) := sign cs
  match behind with
  | 'i' :: 'n' :: 'f' :: rest => some (.float "inf", rest)
  | 'n' :: 'a' :: 'n' :: rest => some (.float "nan", rest)
  | _ =>
    let (whole, rest) ← decimalDigits behind
    let (frac, rest) ← fraction rest
    let (power, rest) ← exponent rest
    if frac.isNone && power.isNone then none
    else
      let frac := frac.getD []
      let (powerMinus, powerDigits) := power.getD (false, [])
      let power : Int := digitsValue 10 powerDigits
      let shown := if powerMinus then -power else power
      let mantissa := digitsValue 10 (whole ++ frac)
      if !(minus.getD false) && isTooLarge mantissa (shown - frac.length) then none
      else some (.float (String.ofList (cs.take (cs.length - rest.length))), rest)

def monthDays (year month : Nat) : Nat :=
  if month = 2 then
    if year % 4 = 0 && (year % 100 ≠ 0 || year % 400 = 0) then 29 else 28
  else if month = 4 || month = 6 || month = 9 || month = 11 then 30
  else 31

def bounded (width low high : Nat) (cs : List Char) : Option (Nat × List Char) := do
  let (ds, rest) ← fixedDigits width cs
  let n := digitsValue 10 ds
  if low ≤ n && n ≤ high then some (n, rest) else none

def expect (c : Char) : List Char → Option (List Char)
  | d :: rest => if c = d then some rest else none
  | [] => none

def skipDate (cs : List Char) : Option (List Char) := do
  let (year, cs) ← bounded 4 0 9999 cs
  let cs ← expect '-' cs
  let (month, cs) ← bounded 2 1 12 cs
  let cs ← expect '-' cs
  let (_, cs) ← bounded 2 1 (monthDays year month) cs
  some cs

def skipTime (cs : List Char) : Option (List Char) := do
  let (_, cs) ← bounded 2 0 23 cs
  let cs ← expect ':' cs
  let (_, cs) ← bounded 2 0 59 cs
  let cs ← expect ':' cs
  let (_, cs) ← bounded 2 0 60 cs
  match cs with
  | '.' :: rest =>
    let behind := rest.dropWhile (isDigit 10)
    if behind.length < rest.length then some behind else none
  | cs => some cs

def skipOffset (cs : List Char) : Option (List Char) :=
  match cs with
  | 'Z' :: rest => some rest
  | 'z' :: rest => some rest
  | c :: rest =>
    if c = '+' || c = '-' then do
      let (_, rest) ← bounded 2 0 23 rest
      let rest ← expect ':' rest
      let (_, rest) ← bounded 2 0 59 rest
      some rest
    else some cs
  | [] => some []

def startsDate (cs : List Char) : Bool :=
  match fixedDigits 4 cs with
  | some (_, '-' :: _) => true
  | _ => false

def startsTime (cs : List Char) : Bool :=
  match bounded 2 0 23 cs with
  | some (_, ':' :: _) => true
  | _ => false

/-- Reads a day, a time of day, or both with or without a distance to universal time. -/
def dateTime (cs : List Char) : Option (Value × List Char) := do
  let rest ←
    if startsDate cs then do
      let rest ← skipDate cs
      match rest with
      | c :: behind =>
        if (c = 'T' || c = 't' || c = ' ') && startsTime behind then
          skipOffset (← skipTime behind)
        else some rest
      | [] => some []
    else skipTime cs
  some (.dateTime (String.ofList (cs.take (cs.length - rest.length))), rest)

def number (cs : List Char) : Option (Value × List Char) :=
  if startsDate cs || startsTime cs then dateTime cs
  else
    let behind := (sign cs).2
    match behind with
    | 'i' :: _ => float cs
    | 'n' :: _ => float cs
    | _ =>
      match decimalDigits behind with
      | some (_, '.' :: _) => float cs
      | some (_, 'e' :: _) => float cs
      | some (_, 'E' :: _) => float cs
      | _ => integer cs

end RecordExchange.Toml
