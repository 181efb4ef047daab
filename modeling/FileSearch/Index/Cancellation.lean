set_option autoImplicit false

namespace FileSearch

namespace Cancellation

def interval : Nat := 1024

def seenAt (counter : Nat) (cancelled : Bool) : Bool :=
  counter % interval = 0 && cancelled

end Cancellation

-- Tokens by number, each with the number of the flag that it shares.
structure Tokens where
  flags : List Bool
  flagOf : List Nat

namespace Tokens

def start : Tokens := ⟨[false], [0]⟩

def isCancelled (tokens : Tokens) (token : Nat) : Bool :=
  match tokens.flagOf[token]? with
  | some flag => tokens.flags[flag]?.getD false
  | none => false

def create (tokens : Tokens) : Nat × Tokens :=
  (tokens.flagOf.length,
    ⟨tokens.flags ++ [false], tokens.flagOf ++ [tokens.flags.length]⟩)

def copy (tokens : Tokens) (token : Nat) : Nat × Tokens :=
  (tokens.flagOf.length,
    { tokens with flagOf := tokens.flagOf ++ [tokens.flagOf[token]?.getD tokens.flags.length] })

def cancel (tokens : Tokens) (token : Nat) : Bool × Tokens :=
  match tokens.flagOf[token]? with
  | some flag =>
    (!tokens.isCancelled token, { tokens with flags := tokens.flags.set flag true })
  | none => (false, tokens)

end Tokens

end FileSearch
