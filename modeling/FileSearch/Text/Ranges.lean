set_option autoImplicit false

namespace FileSearch.Text

structure CodeRange where
  first : Nat
  last : Nat
  deriving Repr, DecidableEq

def covers (code : Nat) : List CodeRange → Bool
  | [] => false
  | range :: rest =>
    if code < range.first then false
    else if code ≤ range.last then true
    else covers code rest

end FileSearch.Text
