import RecordExchange.Error

set_option autoImplicit false

/-!
The files of a host, and the paths that lead to them.

A path leads from directory to directory. A single dot stays where it is, two dots go back, and
slashes in a row count as one. Everything in front of the last name has to be a directory that
exists; what stands at the last name is another question, which depends on what is to be done there.
-/

namespace RecordExchange

/-- The names that lead from the root to a file or a directory. -/
abbrev Place := List String

inductive PathEnd where
  /-- In a directory, which the path names by dots or as the root. -/
  | directory (place : Place)
  /-- At a name in a directory that exists. With a slash behind it only a directory is meant. -/
  | name (place : Place) (slash : Bool)
  deriving DecidableEq, Repr

structure FileTree (α : Type) where
  /-- Directories below the root. -/
  directories : List Place
  files : List (Place × α)
  deriving Inhabited

inductive DirectoryEntry (α : Type) where
  | directory
  | file (content : α)
  deriving DecidableEq, Repr

namespace FileTree

variable {α : Type}

def maxName : Nat := 255

def maxPath : Nat := 4095

def isLong (name : String) : Bool := maxName < name.utf8ByteSize

def isDirectory (t : FileTree α) (place : Place) : Bool :=
  place.isEmpty || t.directories.contains place

def isFile (t : FileTree α) (place : Place) : Bool := (t.files.lookup place).isSome

def follow (t : FileTree α) (slash : Bool) (here : Place) : List String → Except PathFault PathEnd
  | [] => .ok (.directory here)
  | name :: rest =>
    if name = "." then t.follow slash here rest
    else if name = ".." then t.follow slash here.dropLast rest
    else if rest.isEmpty then .ok (.name (here ++ [name]) slash)
    else if isLong name then .error .nameTooLong
    else if t.isDirectory (here ++ [name]) then t.follow slash (here ++ [name]) rest
    else if t.isFile (here ++ [name]) then .error .notDirectory
    else .error .missing

def names (path : String) : List String := (path.splitOn "/").filter (· ≠ "")

/-- Follows a path. One that does not start with a slash starts at the root all the same. -/
def locate (t : FileTree α) (path : String) : Except PathFault PathEnd :=
  if path.contains '\x00' then .error .holdsNul
  else if maxPath < path.utf8ByteSize then .error .nameTooLong
  else t.follow (path.endsWith "/") [] (names path)

def entryAt (t : FileTree α) : PathEnd → Except PathFault (Option (DirectoryEntry α))
  | .directory _ => .ok (some .directory)
  | .name place slash =>
    if place.getLast?.any isLong then .error .nameTooLong
    else if t.isDirectory place then .ok (some .directory)
    else
      match t.files.lookup place with
      | none => .ok none
      | some content => if slash then .error .notDirectory else .ok (some (.file content))

def lookUp (t : FileTree α) (path : String) : Except PathFault (Option (DirectoryEntry α)) :=
  (t.locate path).bind t.entryAt

/-- Whether a new file can be made at a path, where nothing stands yet. No file is made at a name
with a slash behind it, whatever stands there. -/
def isVacant (t : FileTree α) (path : String) : Except PathFault Bool := do
  match ← t.locate path with
  | .name _ true => throw .isDirectory
  | place => return (← t.entryAt place).isNone

def remove (t : FileTree α) (path : String) : FileTree α :=
  match t.locate path with
  | .ok (.name place false) => { t with files := t.files.filter fun file => file.1 != place }
  | _ => t

/-- Puts a file in place of the one at a path, if one stood there. Where none can stand, nothing
happens. -/
def put (t : FileTree α) (path : String) (content : α) : FileTree α :=
  match t.locate path with
  | .ok (.name place false) =>
    let others := t.remove path
    { others with files := (place, content) :: others.files }
  | _ => t

end FileTree

end RecordExchange
