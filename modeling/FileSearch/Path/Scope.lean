import FileSearch.Path.Basic
import FileSearch.Text.Blank
import FileSearch.Text.Quoted

set_option autoImplicit false

namespace FileSearch

namespace Path

/-- The characters of a path with slashes for backslashes and without slashes at the end. The
directory above all others is a single slash. -/
def normalChars (chars : List Char) : List Char :=
  let slashed := chars.map fun c => if c = '\\' then '/' else c
  let stripped := (slashed.reverse.dropWhile (· = '/')).reverse
  if stripped.isEmpty then ['/'] else stripped

def normalText (text : String) : String :=
  String.ofList (normalChars text.toList)

def isWithin (candidate scope : Path) : Bool :=
  let inner := normalChars candidate.text.toList
  let outer := normalChars scope.text.toList
  outer = ['/'] || inner = outer || (outer ++ ['/']).isPrefixOf inner

end Path

inductive PathError where
  | empty
  | notAbsolute (text : String)
  | noHome (text : String)
  deriving Repr, DecidableEq

def PathError.message : PathError → String
  | .empty => "paths: entries must not be empty"
  | .notAbsolute text => "paths: " ++ Text.quoted text ++ " is not an absolute path"
  | .noHome text => "paths: cannot expand " ++ Text.quoted text ++ ", HOME is not set"

namespace Path

-- The path that a text stands for; a tilde in front of the first slash is the home directory.
def expand (home : Option String) (text : String) : Except PathError Path :=
  match text.toList with
  | ['~'] => match home with
    | some home => .ok ⟨home⟩
    | none => .error (.noHome text)
  | '~' :: '/' :: rest => match home with
    | some home => .ok (join ⟨home⟩ ⟨String.ofList rest⟩)
    | none => .error (.noHome text)
  | _ => .ok ⟨text⟩

def ofScopeText (home : Option String) (raw : String) : Except PathError Path :=
  let text := Text.trimmed raw
  if text.isEmpty then .error .empty
  else do
    let path ← expand home text
    if path.isAbsolute then .ok ⟨normalText path.text⟩ else .error (.notAbsolute text)

def ofEachScopeText (home : Option String) : List String → Except PathError (List Path)
  | [] => .ok []
  | text :: rest => do
    let path ← ofScopeText home text
    let others ← ofEachScopeText home rest
    .ok (path :: others)

def ofScopeTexts (home : Option String) (texts : List String) : Except PathError (List Path) :=
  (ofEachScopeText home texts).map distinct

end Path

end FileSearch
