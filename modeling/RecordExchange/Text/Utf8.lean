set_option autoImplicit false

/-!
Text as UTF-8, and bytes read as such, either strictly or with a replacement character for what is
no text.
-/

namespace RecordExchange.Text

def toUtf8 (s : String) : List UInt8 := s.toList.flatMap String.utf8EncodeChar

/-- One character at the front of some bytes: the character, or how many bytes are at fault, with
the bytes behind it. -/
inductive Utf8Step where
  | char (c : Char) (rest : List UInt8)
  | fault (rest : List UInt8)

/-- Whether a byte continues a character. -/
def isContinuation (b : UInt8) : Bool := 0x80 ≤ b && b ≤ 0xbf

/-- Whether `second` may follow `first` at the beginning of a character of three or four bytes, so
that the character has no shorter form, is no surrogate and lies in the code space. -/
def isSecond (first second : UInt8) : Bool :=
  if first = 0xe0 then 0xa0 ≤ second && second ≤ 0xbf
  else if first = 0xed then 0x80 ≤ second && second ≤ 0x9f
  else if first = 0xf0 then 0x90 ≤ second && second ≤ 0xbf
  else if first = 0xf4 then 0x80 ≤ second && second ≤ 0x8f
  else isContinuation second

def payloadBits (b : UInt8) : Nat := b.toNat % 0x40

/-- Reads one character; a fault covers the bytes up to the first that cannot continue it. -/
def utf8Step (first : UInt8) (rest : List UInt8) : Utf8Step :=
  if first < 0x80 then .char (Char.ofNat first.toNat) rest
  else if 0xc2 ≤ first && first ≤ 0xdf then
    match rest with
    | b :: rest =>
      if isContinuation b then
        .char (Char.ofNat (first.toNat % 0x20 * 0x40 + payloadBits b)) rest
      else .fault (b :: rest)
    | [] => .fault []
  else if 0xe0 ≤ first && first ≤ 0xef then
    match rest with
    | b :: rest =>
      if !isSecond first b then .fault (b :: rest)
      else
        match rest with
        | c :: rest =>
          if isContinuation c then
            .char (Char.ofNat
              (first.toNat % 0x10 * 0x1000 + payloadBits b * 0x40 + payloadBits c)) rest
          else .fault (c :: rest)
        | [] => .fault []
    | [] => .fault []
  else if 0xf0 ≤ first && first ≤ 0xf4 then
    match rest with
    | b :: rest =>
      if !isSecond first b then .fault (b :: rest)
      else
        match rest with
        | c :: rest =>
          if !isContinuation c then .fault (c :: rest)
          else
            match rest with
            | d :: rest =>
              if isContinuation d then
                .char (Char.ofNat (first.toNat % 8 * 0x40000 + payloadBits b * 0x1000 +
                  payloadBits c * 0x40 + payloadBits d)) rest
              else .fault (d :: rest)
            | [] => .fault []
        | [] => .fault []
    | [] => .fault []
  else .fault rest

/-- Reads characters while `fuel` lasts, which the number of bytes does. -/
def decodeFor : Nat → List UInt8 → List (Option Char)
  | 0, _ => []
  | _, [] => []
  | fuel + 1, first :: rest =>
    match utf8Step first rest with
    | .char c rest => some c :: decodeFor fuel rest
    | .fault rest => none :: decodeFor fuel rest

def decodeUtf8 (bytes : List UInt8) : List (Option Char) := decodeFor bytes.length bytes

def ofUtf8? (bytes : List UInt8) : Option String :=
  let chars := decodeUtf8 bytes
  if chars.all Option.isSome then some (String.ofList (chars.filterMap id)) else none

def replacement : Char := Char.ofNat 0xfffd

def ofUtf8Lossy (bytes : List UInt8) : String :=
  String.ofList ((decodeUtf8 bytes).map fun c => c.getD replacement)

end RecordExchange.Text
