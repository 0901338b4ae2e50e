set_option autoImplicit false

/-!
The values of a TOML document, and the tables a document is made of.
-/

namespace RecordExchange.Toml

/-- A value. Of numbers with a fraction and of points in time only the text is kept. -/
inductive Value where
  | string (text : String)
  | integer (n : Int)
  | float (text : String)
  | boolean (b : Bool)
  | dateTime (text : String)
  | array (items : List Value)
  | inlineTable (entries : List (String × Value))
  deriving Repr, Inhabited

inductive Item where
  | value (v : Value)
  /-- A table; `isImplicit` if only tables below it were written so far, `isDotted` if it came from
  a dotted key. -/
  | table (isImplicit isDotted : Bool) (entries : List (String × Item))
  /-- The tables of an array, in order. -/
  | tables (items : List (List (String × Item)))
  deriving Repr, Inhabited

/-- Keys and what they stand for, in the order they were written. -/
abbrev Table := List (String × Item)

end RecordExchange.Toml
