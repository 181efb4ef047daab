import FileSearch.Attribute

set_option autoImplicit false

namespace FileSearch

inductive SortField where
  | name
  | dateModified
  | dateCreated
  | size
  deriving DecidableEq, Repr

inductive SortDirection where
  | ascending
  | descending
  deriving DecidableEq, Repr

structure SortSpec where
  field : SortField := .name
  direction : SortDirection := .ascending
  deriving DecidableEq, Repr

structure Order where
  attr : Attribute
  ascending : Bool
  deriving DecidableEq, Repr

def SortField.attr : SortField → Attribute
  | .name => .fileName
  | .dateModified => .modifiedAt
  | .dateCreated => .createdAt
  | .size => .size

def SortSpec.order (sort : SortSpec) : Order :=
  ⟨sort.field.attr, sort.direction = .ascending⟩

-- Compares two values, the second first if the order goes down. A missing value comes last.
def compareMissingLast {α : Type} [Ord α] (ascending : Bool) : Option α → Option α → Ordering
  | some left, some right => if ascending then compare left right else compare right left
  | some _, none => .lt
  | none, some _ => .gt
  | none, none => .eq

def compareMissingFirst : Option String → Option String → Ordering
  | some left, some right => compare left right
  | some _, none => .gt
  | none, some _ => .lt
  | none, none => .eq

namespace Order

def compareKeys (order : Order) (left right : Attributes) : Ordering :=
  match order.attr with
  | .size => compareMissingLast order.ascending (left.bytes .size) (right.bytes .size)
  | .createdAt => compareMissingLast order.ascending (left.time .createdAt) (right.time .createdAt)
  | .modifiedAt =>
    compareMissingLast order.ascending (left.time .modifiedAt) (right.time .modifiedAt)
  | attr =>
    compareMissingLast order.ascending
      ((left.text attr).map Text.lowercase) ((right.text attr).map Text.lowercase)

def compare (order : Order) (left right : Attributes) : Ordering :=
  (order.compareKeys left right).then (compareMissingFirst (left.text .path) (right.text .path))

def sort {α : Type} (order : Order) (attributes : α → Attributes) (files : List α) : List α :=
  files.mergeSort fun left right =>
    (order.compare (attributes left) (attributes right)).isLE

end Order

def cap {α : Type} (results : List α) (limit : Nat) : List α :=
  results.take limit

end FileSearch
