import FileSearch.Proofs.Predicate.Widening

set_option autoImplicit false

namespace FileSearch

-- The attributes of two files agree, but perhaps for this one.
structure Attributes.AgreeBeside (attr : Attribute) (left right : Attributes) : Prop where
  text : ∀ other, other ≠ attr → left.text other = right.text other
  bytes : ∀ other, other ≠ attr → left.bytes other = right.bytes other
  time : ∀ other, other ≠ attr → left.time other = right.time other
  containsText : ∀ other, other ≠ attr → ∀ needle,
    left.containsText other needle = right.containsText other needle

namespace Predicate

-- The attribute that a condition tests, if it is a test.
def tested? : Predicate → Option Attribute
  | .contains attr _ => some attr
  | .endsWith attr _ => some attr
  | .atLeast attr _ => some attr
  | .atMost attr _ => some attr
  | _ => none

-- No test that a condition is joined from is of this attribute.
def Avoids (predicate : Predicate) (attr : Attribute) : Prop :=
  ∀ part, Comprises part predicate → part.tested? ≠ some attr

variable {attr : Attribute} {left right : Attributes}

theorem avoids_test {predicate : Predicate} {other : Attribute}
    (test : predicate.tested? = some other) (beside : other ≠ attr) : predicate.Avoids attr := by
  intro part within same
  cases within with
  | self => exact beside (Option.some.inj (test.symm.trans same))
  | and | or => cases test

theorem avoids_and {parts : List Predicate} (each : ∀ part ∈ parts, part.Avoids attr) :
    (and parts).Avoids attr := by
  intro part within
  cases within with
  | self => exact fun same => nomatch same
  | and member inner => exact each _ member part inner

theorem avoids_or {parts : List Predicate} (each : ∀ part ∈ parts, part.Avoids attr) :
    (or parts).Avoids attr := by
  intro part within
  cases within with
  | self => exact fun same => nomatch same
  | or member inner => exact each _ member part inner

theorem compareBound_congr (agree : left.AgreeBeside attr right) {other : Attribute}
    (beside : other ≠ attr) (bound : Scalar) :
    compareBound left other bound = compareBound right other bound := by
  cases bound with
  | bytes value => rw [compareBound, compareBound, agree.bytes other beside]
  | time value => rw [compareBound, compareBound, agree.time other beside]

theorem holds_congr (agree : left.AgreeBeside attr right) (predicate : Predicate)
    (avoids : predicate.Avoids attr) : predicate.holds left = predicate.holds right := by
  induction predicate with
  | always => rfl
  | contains other needle =>
    have beside : other ≠ attr := fun same => avoids _ .self (congrArg some same)
    rw [holds, holds, agree.containsText other beside]
  | endsWith other suffix =>
    have beside : other ≠ attr := fun same => avoids _ .self (congrArg some same)
    rw [holds, holds, hasEnding, hasEnding, agree.text other beside]
  | atLeast other bound =>
    have beside : other ≠ attr := fun same => avoids _ .self (congrArg some same)
    rw [holds, holds, compareBound_congr agree beside]
  | atMost other bound =>
    have beside : other ≠ attr := fun same => avoids _ .self (congrArg some same)
    rw [holds, holds, compareBound_congr agree beside]
  | and parts ih =>
    have each : ∀ part ∈ parts, part.holds left = part.holds right := fun part member =>
      ih part member fun inner within => avoids inner (.and member within)
    rw [holds, holds, Bool.eq_iff_iff, allHold_iff, allHold_iff]
    exact forall₂_congr fun part member => by rw [each part member]
  | or parts ih =>
    have each : ∀ part ∈ parts, part.holds left = part.holds right := fun part member =>
      ih part member fun inner within => avoids inner (.or member within)
    rw [holds, holds, Bool.eq_iff_iff, Bool.or_eq_true, Bool.or_eq_true, anyHolds_iff,
      anyHolds_iff]
    exact or_congr_right (exists_congr fun part =>
      and_congr_right fun member => by rw [each part member])

end Predicate

end FileSearch
