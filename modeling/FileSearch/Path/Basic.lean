import FileSearch.Text.Lowercase

set_option autoImplicit false

namespace FileSearch

structure Path where
  text : String
  deriving DecidableEq, Repr, Inhabited

-- One step of a path. The order of the constructors is that of components in sorted paths.
inductive Component where
  | root
  | current
  | parent
  | named (name : String)
  deriving DecidableEq, Repr

namespace Component

def rank : Component → Nat
  | .root => 0
  | .current => 1
  | .parent => 2
  | .named _ => 3

def compare : Component → Component → Ordering
  | .named left, .named right => Ord.compare left right
  | left, right => Ord.compare left.rank right.rank

def ofPart? (part : List Char) : Option Component :=
  if part = [] ∨ part = ['.'] then none
  else if part = ['.', '.'] then some .parent
  else some (.named (String.ofList part))

end Component

namespace Path

def parts : List Char → List (List Char)
  | [] => [[]]
  | c :: rest =>
    if c = '/' then [] :: parts rest
    else match parts rest with
      | [] => [[c]]
      | first :: others => (c :: first) :: others

def isAbsolute (path : Path) : Bool :=
  path.text.toList.head? = some '/'

/-- The components of a path, from the root of an absolute one on. A dot counts only where a
relative path starts with it. -/
def components (path : Path) : List Component :=
  let parts := parts path.text.toList
  let named := parts.filterMap Component.ofPart?
  if path.isAbsolute then .root :: named
  else if parts.head? = some ['.'] then .current :: named
  else named

def sameAs (left right : Path) : Bool :=
  left.components = right.components

def compareComponents : List Component → List Component → Ordering
  | [], [] => .eq
  | [], _ :: _ => .lt
  | _ :: _, [] => .gt
  | a :: left, b :: right => (a.compare b).then (compareComponents left right)

def compare (left right : Path) : Ordering :=
  compareComponents left.components right.components

def fileName? (path : Path) : Option String :=
  match path.components.getLast? with
  | some (.named name) => some name
  | _ => none

def join (outer inner : Path) : Path :=
  if inner.isAbsolute || outer.text.isEmpty then inner
  else if outer.text.toList.getLast? = some '/' then ⟨outer.text ++ inner.text⟩
  else ⟨outer.text ++ "/" ++ inner.text⟩

def isAmong (path : Path) (paths : List Path) : Bool :=
  paths.any path.sameAs

def addNew (kept : List Path) : List Path → List Path
  | [] => kept
  | path :: rest => addNew (if path.isAmong kept then kept else kept ++ [path]) rest

def distinct (paths : List Path) : List Path :=
  addNew [] paths

end Path

/-- What stands behind the last dot of a file name, in ASCII lower case. Neither the dot of a name
that starts with its only dot counts, nor one at the end. -/
def extensionOfName (name : String) : Option String :=
  let reversed := name.toList.reverse
  let ending := reversed.takeWhile (· ≠ '.')
  match reversed.dropWhile (· ≠ '.') with
  | '.' :: _ :: _ =>
    if ending.isEmpty then none
    else some (Text.asciiLowercase (String.ofList ending.reverse))
  | _ => none

end FileSearch
