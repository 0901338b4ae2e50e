set_option autoImplicit false

/-!
The text of a duration: a decimal number in the largest of the units seconds, milliseconds,
microseconds and nanoseconds that does not make it less than one, without trailing zeros.
-/

namespace RecordExchange.Text

def paddedDigits (n : Nat) : Nat → List Char
  | 0 => []
  | width + 1 => paddedDigits (n / 10) width ++ [Nat.digitChar (n % 10)]

/-- `whole` and `fraction / 10 ^ places` as a decimal number without trailing zeros. -/
def decimal (whole fraction places : Nat) : String :=
  let digits := ((paddedDigits fraction places).reverse.dropWhile (· = '0')).reverse
  if digits.isEmpty then toString whole
  else toString whole ++ "." ++ String.ofList digits

/-- Nanoseconds of a microsecond. -/
def microsecond : Nat := 1000

/-- Nanoseconds of a millisecond. -/
def millisecond : Nat := 1000000

/-- Nanoseconds of a second. -/
def second : Nat := 1000000000

def duration (nanos : Nat) : String :=
  if second ≤ nanos then decimal (nanos / second) (nanos % second) 9 ++ "s"
  else if millisecond ≤ nanos then
    decimal (nanos / millisecond) (nanos % millisecond) 6 ++ "ms"
  else if microsecond ≤ nanos then
    decimal (nanos / microsecond) (nanos % microsecond) 3 ++ "µs"
  else toString nanos ++ "ns"

def milliseconds (ms : Nat) : String := duration (ms * millisecond)

end RecordExchange.Text
