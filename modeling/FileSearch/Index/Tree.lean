import FileSearch.Content.Scan
import FileSearch.Path.Basic
import FileSearch.Time.Instant

set_option autoImplicit false

namespace FileSearch

structure Times where
  created? : Option Instant := none
  modified? : Option Instant := none

-- The times of a folder that is made on the way, changed at the start of 1970.
def Times.born (times : Times) : Times :=
  { times with modified? := Instant.ofParts? 0 0 }

inductive Node where
  | file (times : Times) (content : ByteArray)
  | folder (times : Times) (entries : List (String × Node))
  | link (times : Times) (target : Path)
  | other (times : Times)

abbrev Entries := List (String × Node)

namespace Node

def times : Node → Times
  | .file times _ => times
  | .folder times _ => times
  | .link times _ => times
  | .other times => times

def kind : Node → String
  | .file .. => "Document"
  | .folder .. => "Folder"
  | .link .. => "Alias"
  | .other .. => "Other"

def size? : Node → Option UInt64
  | .file _ content => some (UInt64.ofNat content.size)
  | _ => none

def isFolder : Node → Bool
  | .folder .. => true
  | _ => false

end Node

namespace Entries

def put (name : String) (node : Node) : Entries → Entries
  | [] => [(name, node)]
  | (other, old) :: rest =>
    if other = name then (name, node) :: rest else (other, old) :: put name node rest

def merge (old? : Option Node) (new : Node) : Node :=
  match old?, new with
  | some (.folder _ entries), .folder times [] => .folder times entries
  | _, new => new

def insert (node : Node) : List String → Entries → Entries
  | [], entries => entries
  | [name], entries => put name (merge (entries.lookup name) node) entries
  | name :: rest, entries =>
    match entries.lookup name with
    | some (.folder times inner) => put name (.folder times (insert node rest inner)) entries
    | _ => put name (.folder node.times.born (insert node rest [])) entries

end Entries

namespace Path

def maxLength : Nat := 4095

def isTooLong (path : Path) : Bool :=
  maxLength < path.text.utf8ByteSize

-- The steps that a path takes. Where it ends with a slash or a dot, what it leads to has to be a
-- folder, which a step on the spot makes sure of.
def steps (path : Path) : List Component :=
  match (parts path.text.toList).getLast? with
  | some [] => path.components ++ [.current]
  | some ['.'] => path.components ++ [.current]
  | _ => path.components

end Path

structure Tree where
  top : Entries

namespace Tree

inductive Place where
  | folder (entries : Entries)
  | leaf (node : Node)

def maxLinks : Nat := 40

-- Takes steps from a folder on. `outer` are the folders around it, the innermost first.
def follow (top : Entries) (links : Nat) (here : Entries) (outer : List Entries) :
    List Component → Option Place
  | [] => some (.folder here)
  | .root :: rest => follow top links top [] rest
  | .current :: rest => follow top links here outer rest
  | .parent :: rest =>
    match outer with
    -- Above the topmost folder there is only itself.
    | [] => follow top links here [] rest
    | above :: outer => follow top links above outer rest
  | .named name :: rest =>
    match here.lookup name with
    | none => none
    | some (.folder _ entries) => follow top links entries (here :: outer) rest
    | some (.link _ target) =>
      match links with
      | 0 => none
      -- The target is taken from the folder that the link is in.
      | links + 1 => follow top links here outer (target.steps ++ rest)
    | some node => if rest.isEmpty then some (.leaf node) else none
  termination_by steps => (links, steps.length)

def find? (tree : Tree) (path : Path) : Option Place :=
  if path.isTooLong || !path.isAbsolute then none
  else follow tree.top maxLinks tree.top [] path.steps

def folder? (tree : Tree) (path : Path) : Option Entries :=
  match tree.find? path with
  | some (.folder entries) => some entries
  | _ => none

def content (tree : Tree) (path : Path) : Content.Source :=
  match tree.find? path with
  | some (.leaf (.file _ bytes)) => .file bytes
  | _ => .unreadable

end Tree

end FileSearch
