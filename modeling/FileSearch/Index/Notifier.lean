set_option autoImplicit false

namespace FileSearch

structure Notifier (ℓ : Type) where
  issued : Nat := 0
  current? : Option (Nat × ℓ) := none

namespace Notifier

variable {ℓ : Type}

def subscribe (notifier : Notifier ℓ) (listener : ℓ) : Nat × Notifier ℓ :=
  let number := notifier.issued + 1
  (number, { issued := number, current? := some (number, listener) })

def unsubscribe (notifier : Notifier ℓ) (number : Nat) : Notifier ℓ :=
  match notifier.current? with
  | some (current, _) => if current = number then { notifier with current? := none } else notifier
  | none => notifier

def notify (notifier : Notifier ℓ) : Option ℓ × Notifier ℓ :=
  (notifier.current?.map Prod.snd, { notifier with current? := none })

def isSubscribed (notifier : Notifier ℓ) : Bool :=
  notifier.current?.isSome

end Notifier

end FileSearch
