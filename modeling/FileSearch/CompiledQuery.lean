import FileSearch.Filter
import FileSearch.Predicate.Basic

set_option autoImplicit false

namespace FileSearch

inductive Scope where
  | indexedVolume
  | directory (path : Path)
  deriving DecidableEq, Repr

structure CompiledQuery where
  predicate : Predicate
  scopes : List Scope

def CompiledQuery.usesDefaultScope (compiled : CompiledQuery) : Bool :=
  compiled.scopes = [.indexedVolume]

def textCondition (attr : Attribute) (text : String) : Option Predicate :=
  if text.isEmpty then none else some (.contains attr text)

def boundsCondition (bounds : List Predicate) : Option Predicate :=
  if bounds.isEmpty then none else some (.all bounds)

def rangeBounds (attr : Attribute) (lower upper : Option Scalar) : List Predicate :=
  (lower.map (Predicate.atLeast attr)).toList ++ (upper.map (Predicate.atMost attr)).toList

def DateRange.condition (range : DateRange) (attr : Attribute) : Option Predicate :=
  boundsCondition
    (rangeBounds attr (range.earliest?.map Scalar.time) (range.latest?.map Scalar.time))

def SizeRange.condition (range : SizeRange) : Option Predicate :=
  boundsCondition (rangeBounds .size (range.least?.map Scalar.bytes) (range.most?.map Scalar.bytes))

namespace Filter

def endings (extensions : List String) : List Predicate :=
  ((extensions.map cleanExtension).filter fun clean => !clean.isEmpty).map fun clean =>
    .endsWith .fileName ("." ++ clean)

def condition : Filter → Option Predicate
  | .content text => textCondition .textContent text
  | .fileName text => textCondition .fileName text
  | .nameOrContent text => do
    let name ← textCondition .fileName text
    let content ← textCondition .textContent text
    some (.or [name, content])
  | .extensions values =>
    let endings := endings values
    if endings.isEmpty then none else some (.any endings)
  | .dateModified range => range.condition .modifiedAt
  | .dateCreated range => range.condition .createdAt
  | .size range => range.condition
  | .paths _ => none

def namedPaths : Filter → List Path
  | .paths values => values
  | _ => []

end Filter

namespace FilterGroup

def condition (group : FilterGroup) : Predicate :=
  let parts := group.filters.filterMap Filter.condition
  match group.combinator with
  | .and => .all parts
  | .or => .any parts

def namedPaths (group : FilterGroup) : List Path :=
  Path.distinct (group.filters.flatMap Filter.namedPaths)

end FilterGroup

namespace Query

def namedPaths (query : Query) : List Path :=
  Path.distinct (query.groups.flatMap FilterGroup.namedPaths)

def compile (query : Query) : CompiledQuery where
  predicate := .any (query.groups.map FilterGroup.condition)
  scopes :=
    match query.namedPaths with
    | [] => [.indexedVolume]
    | paths => paths.map .directory

end Query

end FileSearch
