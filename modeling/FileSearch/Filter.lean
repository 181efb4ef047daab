import FileSearch.Path.Basic
import FileSearch.Text.Blank
import FileSearch.Time.Instant

set_option autoImplicit false

namespace FileSearch

-- Moments between two bounds, both included. A bound may be absent; bounds in the wrong order leave
-- nothing between them.
structure DateRange where
  earliest? : Option Instant := none
  latest? : Option Instant := none
  deriving DecidableEq

def DateRange.since (moment : Instant) : DateRange :=
  { earliest? := some moment }

structure SizeRange where
  least? : Option UInt64 := none
  most? : Option UInt64 := none
  deriving DecidableEq, Repr

inductive Filter where
  | content (text : String)
  | fileName (text : String)
  | nameOrContent (text : String)
  | extensions (values : List String)
  | dateModified (range : DateRange)
  | dateCreated (range : DateRange)
  | size (range : SizeRange)
  -- Directories to search; no condition on a file.
  | paths (values : List Path)
  deriving DecidableEq

namespace Filter

def cleanExtension (raw : String) : String :=
  String.ofList ((Text.trim raw.toList).dropWhile (· = '.'))

/-- Adds cleaned extensions to those kept so far, unless nothing is left of them or one that
differs only in the case of ASCII letters is among them. -/
def addExtensions (kept : List String) : List String → List String
  | [] => kept
  | raw :: rest =>
    let clean := cleanExtension raw
    if clean.isEmpty || kept.any (Text.sameIgnoringAsciiCase clean) then addExtensions kept rest
    else addExtensions (kept ++ [clean]) rest

def extensionsOf (raw : List String) : Filter :=
  .extensions (addExtensions [] raw)

end Filter

inductive Combinator where
  | and
  | or
  deriving DecidableEq, Repr

structure FilterGroup where
  filters : List Filter
  combinator : Combinator := .and
  deriving DecidableEq

def FilterGroup.isEmpty (group : FilterGroup) : Bool :=
  group.filters.isEmpty

-- Groups, any of which may be met. No groups at all are met by everything.
structure Query where
  groups : List FilterGroup
  deriving DecidableEq

def Query.matchAll : Query := ⟨[]⟩

end FileSearch
