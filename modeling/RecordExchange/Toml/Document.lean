import RecordExchange.Toml.Number
import RecordExchange.Toml.Text

set_option autoImplicit false

/-!
A TOML document: keys, values, table headers, and the tree of tables they make.

A key may be set once. A table may be opened by a header once; tables that headers or dotted keys
only pass through may be opened or extended later, each in the way they came about.
-/

namespace RecordExchange.Toml

def isBare (c : Char) : Bool := c.isAlphanum || c = '_' || c = '-'

def keyPart (cs : List Char) : Option (String × List Char) :=
  match cs with
  | '"' :: _ => singleLine cs
  | '\'' :: _ => singleLine cs
  | _ =>
    let part := cs.takeWhile isBare
    if part.isEmpty then none else some (String.ofList part, cs.dropWhile isBare)

/-- Reads a key of one or more parts with dots between them; `fuel` bounds the parts. -/
def keyFor : Nat → Reader (List String)
  | 0, _ => none
  | fuel + 1, cs => do
    let (part, rest) ← keyPart (skipBlanks cs)
    let rest := skipBlanks rest
    match rest with
    | '.' :: rest =>
      let (parts, rest) ← keyFor fuel rest
      some (part :: parts, rest)
    | rest => some ([part], rest)

/-- Tables and arrays may lie in each other up to this depth, and keys have no more parts. -/
def maxDepth : Nat := 80

def key (cs : List Char) : Option (List String × List Char) := keyFor (maxDepth - 1) cs

namespace Table

/-- Puts an item under a key that has none, or in place of the one it has. -/
def set (t : Table) (key : String) (item : Item) : Table :=
  if t.any (·.1 == key) then t.map fun entry => if entry.1 == key then (key, item) else entry
  else t ++ [(key, item)]

def erase (t : Table) (key : String) : Table := t.filter fun entry => entry.1 != key

/-- Changes the table that lies at a path, making tables on the way that are not there. A dotted
path must not lead through tables that a header opened. The function also learns whether the table
came from a dotted key. -/
def update (isDotted : Bool) (f : Bool → Table → Option Table) (ownDotted : Bool) (t : Table) :
    List String → Option Table
  | [] => f ownDotted t
  | part :: path =>
    match t.lookup part with
    | none => do
      let inner ← update isDotted f isDotted [] path
      some (set t part (.table true isDotted inner))
    | some (.value _) => none
    | some (.table isImplicit wasDotted inner) =>
      if isDotted && !isImplicit then none
      else do
        let inner ← update isDotted f wasDotted inner path
        some (set t part (.table isImplicit wasDotted inner))
    | some (.tables items) =>
      match items.reverse with
      | [] => none
      | last :: before => do
        let last ← update isDotted f false last path
        some (set t part (.tables (before.reverse ++ [last])))

/-- Sets a key. The last part must be new, and the table it lies in must have come from a dotted
key just if this one is dotted. -/
def insert (t : Table) (path : List String) (v : Value) : Option Table :=
  match path.reverse with
  | [] => none
  | last :: before =>
    let before := before.reverse
    update true (fun wasDotted inner =>
      if wasDotted == before.isEmpty || inner.any (·.1 == last) then none
      else some (inner ++ [(last, .value v)])) false t before

end Table

/-- The values at keys of a table whose entries are values or tables made by dotted keys. -/
def inlineEntries : Nat → Table → List (String × Value)
  | 0, _ => []
  | depth + 1, t => t.map fun (key, item) =>
    match item with
    | .value v => (key, v)
    | .table _ _ inner => (key, .inlineTable (inlineEntries depth inner))
    | .tables _ => (key, .array [])

mutual

/-- Reads a value; `depth` bounds how far values may lie in each other. -/
def value (depth : Nat) (cs : List Char) : Option (Value × List Char) :=
  match cs with
  | '[' :: rest =>
    match depth with
    | 0 => none
    | depth + 1 =>
      (items depth (rest.length + 1) rest).map fun (vs, rest) => (.array vs, rest)
  | '\x7b' :: rest =>
    match depth with
    | 0 => none
    | depth + 1 => do
      let behind := skipBlanks rest
      match behind with
      | '\x7d' :: rest => some (.inlineTable [], rest)
      | _ =>
        let (t, rest) ← pairs depth (rest.length + 1) [] behind
        some (.inlineTable (inlineEntries maxDepth t), rest)
  | '"' :: _ => (text cs).map fun (s, rest) => (.string s, rest)
  | '\'' :: _ => (text cs).map fun (s, rest) => (.string s, rest)
  | 't' :: 'r' :: 'u' :: 'e' :: rest => some (.boolean true, rest)
  | 'f' :: 'a' :: 'l' :: 's' :: 'e' :: rest => some (.boolean false, rest)
  | 'i' :: _ => float cs
  | 'n' :: _ => float cs
  | _ => number cs
termination_by (depth, 1, 0)

/-- Reads the items of an array up to its closing bracket; `fuel` bounds their number. -/
def items (depth : Nat) (fuel : Nat) (cs : List Char) : Option (List Value × List Char) :=
  match fuel with
  | 0 => none
  | fuel + 1 => do
    let cs ← skipLines cs
    match cs with
    | ']' :: rest => some ([], rest)
    | _ =>
      let (v, rest) ← value depth cs
      let rest ← skipLines rest
      match rest with
      | ',' :: rest =>
        let (vs, rest) ← items depth fuel rest
        some (v :: vs, rest)
      | ']' :: rest => some ([v], rest)
      | _ => none
termination_by (depth, 2, fuel)

/-- Reads the pairs of an inline table up to its closing brace; `fuel` bounds their number. -/
def pairs (depth : Nat) (fuel : Nat) (t : Table) (cs : List Char) :
    Option (Table × List Char) :=
  match fuel with
  | 0 => none
  | fuel + 1 => do
    let (path, rest) ← key cs
    let rest ← expect '=' rest
    let (v, rest) ← value depth (skipBlanks rest)
    let t ← t.insert path v
    match skipBlanks rest with
    | ',' :: rest => pairs depth fuel t rest
    | '\x7d' :: rest => some (t, rest)
    | _ => none
termination_by (depth, 2, fuel)

end

/-- A document that is being read: the tables closed so far, the one that is open with its path,
and whether it is an item of an array. -/
structure Draft where
  root : Table
  current : Table
  path : List String
  isItem : Bool

namespace Draft

def empty : Draft := ⟨[], [], [], false⟩

def close (d : Draft) : Option Table :=
  match d.path.reverse with
  | [] => some d.current
  | last :: before =>
    Table.update false (fun _ parent =>
      if d.isItem then
        match parent.lookup last with
        | none => some (parent ++ [(last, .tables [d.current])])
        | some (.tables items) => some (Table.set parent last (.tables (items ++ [d.current])))
        | some _ => none
      else
        match parent.lookup last with
        | none => some (parent ++ [(last, .table false false d.current)])
        | some _ => none) false d.root before.reverse

/-- Opens the table at a path: a new one, or one that other headers only passed through. -/
def openTable (d : Draft) (path : List String) : Option Draft := do
  let root ← d.close
  match path.reverse with
  | [] => none
  | last :: before =>
    let before := before.reverse
    let parent ← find root before
    match parent.lookup last with
    | none =>
      let root ← Table.update false (fun _ t => some t) false root before
      some ⟨root, [], path, false⟩
    | some (.table true false inner) =>
      let root ← Table.update false (fun _ t => some (Table.erase t last)) false root before
      some ⟨root, inner, path, false⟩
    | some _ => none
where
  find (t : Table) : List String → Option Table
    | [] => some t
    | part :: path =>
      match t.lookup part with
      | none => some []
      | some (.value _) => none
      | some (.table _ _ inner) => find inner path
      | some (.tables items) =>
        match items.getLast? with
        | some last => find last path
        | none => none

def openItem (d : Draft) (path : List String) : Option Draft := do
  let root ← d.close
  match path.reverse with
  | [] => none
  | last :: before =>
    let root ← Table.update false (fun _ t =>
      match t.lookup last with
      | none => some (t ++ [(last, .tables [])])
      | some (.tables _) => some t
      | some _ => none) false root before.reverse
    some ⟨root, [], path, true⟩

def header (d : Draft) (cs : List Char) : Option (Draft × List Char) :=
  match cs with
  | '[' :: rest => do
    let (path, rest) ← key rest
    let rest ← expect ']' (← expect ']' rest)
    some (← d.openItem path, rest)
  | _ => do
    let (path, rest) ← key cs
    let rest ← expect ']' rest
    some (← d.openTable path, rest)

def pair (d : Draft) (cs : List Char) : Option (Draft × List Char) := do
  let (path, rest) ← key cs
  let rest ← expect '=' rest
  let (v, rest) ← value (maxDepth - 1) (skipBlanks rest)
  some ({ d with current := ← d.current.insert path v }, rest)

def lines : Nat → Draft → List Char → Option Draft
  | 0, _, _ => none
  | fuel + 1, d, cs =>
    match skipBlanks cs with
    | [] => some d
    | '[' :: rest => do
      let (d, rest) ← d.header rest
      lines fuel d (← finishLine rest)
    | '#' :: rest => do lines fuel d (← finishLine ('#' :: rest))
    | '\n' :: rest => lines fuel d rest
    | '\r' :: '\n' :: rest => lines fuel d rest
    | behind => do
      let (d, rest) ← d.pair behind
      lines fuel d (← finishLine rest)

end Draft

def byteOrderMark : Char := Char.ofNat 0xfeff

def readDocument (s : String) : Option Table := do
  let cs := s.toList
  let cs := if cs.head? = some byteOrderMark then cs.drop 1 else cs
  (← Draft.empty.lines (cs.length + 1) cs).close

def writeLine (key value : String) : String := key ++ " = " ++ value ++ "\n"

end RecordExchange.Toml
