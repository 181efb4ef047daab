import FileSearch.Filter

set_option autoImplicit false

namespace FileSearch

inductive TextKind where
  | extension
  | contents
  | filename
  | all
  deriving DecidableEq, Repr

def TextKind.parse (raw : String) : TextKind :=
  match Text.asciiLowercase (Text.trimmed raw) with
  | "extension" => .extension
  | "contents" => .contents
  | "filename" => .filename
  | _ => .all

structure FlatSearch where
  query : String := ""
  kind? : Option TextKind := none
  -- Looked at only if the text is an extension.
  extensions : List String := []
  onlyIn : List Path := []
  dateFilter? : Option DateRange := none
  filenameOnly? : Option Bool := none
  deriving DecidableEq

namespace FlatSearch

-- The wish for file names only goes before the kind of text.
def effectiveKind (search : FlatSearch) : TextKind :=
  if search.filenameOnly? = some true then .filename else search.kind?.getD .all

def unlessEmpty (text : String) (filter : Filter) : List Filter :=
  if text.isEmpty then [] else [filter]

-- The filters for the text. Listed extensions go before the text as an extension.
def textFilters (search : FlatSearch) : List Filter :=
  match search.effectiveKind with
  | .extension =>
    match Filter.addExtensions [] search.extensions with
    | [] => unlessEmpty search.query (.extensionsOf [search.query])
    | extensions => [.extensions extensions]
  | .contents => unlessEmpty search.query (.content search.query)
  | .filename => unlessEmpty search.query (.fileName search.query)
  | .all => unlessEmpty search.query (.nameOrContent search.query)

def toQuery (search : FlatSearch) : Query :=
  let dates := (search.dateFilter?.map Filter.dateModified).toList
  let places := if search.onlyIn.isEmpty then [] else [Filter.paths search.onlyIn]
  ⟨[{ filters := search.textFilters ++ dates ++ places }]⟩

end FlatSearch

end FileSearch
