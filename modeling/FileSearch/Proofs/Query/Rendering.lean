import FileSearch.Proofs.Predicate.Rendering
import FileSearch.Proofs.Query.Meaning

set_option autoImplicit false

namespace FileSearch

def Filter.bounds : Filter → List Scalar
  | .dateModified range | .dateCreated range =>
    (range.earliest?.map Scalar.time).toList ++ (range.latest?.map Scalar.time).toList
  | .size range => (range.least?.map Scalar.bytes).toList ++ (range.most?.map Scalar.bytes).toList
  | _ => []

def Query.bounds (query : Query) : List Scalar :=
  query.groups.flatMap fun group => group.filters.flatMap Filter.bounds

-- A property of the tests that can be made with the given bounds, which groups of at least two
-- parts take over.
structure Spreads (motive : Predicate → Prop) (bounds : List Scalar) : Prop where
  always : motive .always
  contains : ∀ attr needle, motive (.contains attr needle)
  endsWith : ∀ attr suffix, motive (.endsWith attr suffix)
  atLeast : ∀ attr, ∀ bound ∈ bounds, motive (.atLeast attr bound)
  atMost : ∀ attr, ∀ bound ∈ bounds, motive (.atMost attr bound)
  and : ∀ first second parts, (∀ part ∈ first :: second :: parts, motive part) →
    motive (.and (first :: second :: parts))
  or : ∀ first second parts, (∀ part ∈ first :: second :: parts, motive part) →
    motive (.or (first :: second :: parts))

section Compiled

variable {motive : Predicate → Prop} {bounds : List Scalar} (spreads : Spreads motive bounds)

include spreads

theorem Spreads.all (parts : List Predicate) (each : ∀ part ∈ parts, motive part) :
    motive (.all parts) := by
  match parts with
  | [] => exact spreads.always
  | [part] => exact each part List.mem_cons_self
  | first :: second :: parts => exact spreads.and first second parts each

theorem Spreads.any (parts : List Predicate) (each : ∀ part ∈ parts, motive part) :
    motive (.any parts) := by
  match parts with
  | [] => exact spreads.always
  | [part] => exact each part List.mem_cons_self
  | first :: second :: parts => exact spreads.or first second parts each

theorem Spreads.textCondition {attr : Attribute} {text : String} {part : Predicate}
    (made : FileSearch.textCondition attr text = some part) : motive part := by
  rw [FileSearch.textCondition] at made
  split at made
  · cases made
  · cases made
    exact spreads.contains attr text

theorem Spreads.boundsCondition {attr : Attribute} {lower? upper? : Option Scalar}
    {part : Predicate} (known : ∀ bound ∈ lower?.toList ++ upper?.toList, bound ∈ bounds)
    (made : FileSearch.boundsCondition (rangeBounds attr lower? upper?) = some part) :
    motive part := by
  rw [Filter.boundsCondition_rangeBounds] at made
  split at made
  · cases made
    refine spreads.all _ ?_
    intro part member
    simp only [rangeBounds, List.mem_append, Option.mem_toList, Option.map_eq_some_iff] at member
    rcases member with ⟨bound, given, rfl⟩ | ⟨bound, given, rfl⟩
    · exact spreads.atLeast attr bound (known bound (by simp [given]))
    · exact spreads.atMost attr bound (known bound (by simp [given]))
  · cases made

theorem Spreads.filter (filter : Filter) (known : ∀ bound ∈ filter.bounds, bound ∈ bounds)
    {part : Predicate} (made : filter.condition = some part) : motive part := by
  cases filter with
  | content text => exact spreads.textCondition made
  | fileName text => exact spreads.textCondition made
  | nameOrContent text =>
    simp only [Filter.condition, bind, Option.bind_eq_some_iff, Option.some.injEq] at made
    obtain ⟨name, name_made, content, content_made, rfl⟩ := made
    apply spreads.any [name, content]
    simp [spreads.textCondition name_made, spreads.textCondition content_made]
  | extensions values =>
    simp only [Filter.condition] at made
    split at made
    · cases made
    · cases made
      refine spreads.any _ ?_
      intro part member
      obtain ⟨extension, -, rfl⟩ := (Filter.mem_endings_iff values part).mp member
      exact spreads.endsWith _ _
  | dateModified range => exact spreads.boundsCondition known made
  | dateCreated range => exact spreads.boundsCondition known made
  | size range => exact spreads.boundsCondition known made
  | paths values => cases made

theorem Spreads.group (group : FilterGroup)
    (known : ∀ filter ∈ group.filters, ∀ bound ∈ filter.bounds, bound ∈ bounds) :
    motive group.condition := by
  have parts : ∀ part ∈ group.filters.filterMap Filter.condition, motive part := by
    intro part member
    obtain ⟨filter, member, made⟩ := List.mem_filterMap.mp member
    exact spreads.filter filter (known filter member) made
  rw [FilterGroup.condition]
  cases group.combinator with
  | and => exact spreads.all _ parts
  | or => exact spreads.any _ parts

theorem Spreads.query (query : Query) (known : ∀ bound ∈ query.bounds, bound ∈ bounds) :
    motive query.compile.predicate := by
  refine spreads.any _ ?_
  intro part member
  obtain ⟨group, listed, rfl⟩ := List.mem_map.mp member
  refine spreads.group group ?_
  intro filter within bound given
  apply known
  simp only [Query.bounds, List.mem_flatMap]
  exact ⟨group, listed, filter, within, given⟩

end Compiled

namespace Predicate

theorem isProper_spreads (bounds : List Scalar) : Spreads IsProper bounds where
  always := .always
  contains := .contains
  endsWith := .endsWith
  atLeast attr bound _ := .atLeast attr bound
  atMost attr bound _ := .atMost attr bound
  and _ _ _ each := .and each
  or _ _ _ each := .or each

theorem printed_spreads (bounds : List Scalar)
    (whole : ∀ moment, Scalar.time moment ∈ bounds → moment.nano = 0) :
    Spreads (fun predicate => predicate.printed = predicate) bounds := by
  have bound_printed (up : Bool) (bound : Scalar) (given : bound ∈ bounds) :
      bound.printed up = bound := by
    cases bound with
    | bytes value => rfl
    | time moment => exact congrArg Scalar.time (moment.printed_of_whole up (whole moment given))
  have maps (parts : List Predicate) (each : ∀ part ∈ parts, part.printed = part) :
      allPrinted parts = parts := by
    simpa [allPrinted_eq_map] using List.map_congr_left each
  exact {
    always := by rw [printed]
    contains attr needle := by rw [printed]
    endsWith attr suffix := by rw [printed]
    atLeast attr bound given := by rw [printed, bound_printed false bound given]
    atMost attr bound given := by rw [printed, bound_printed true bound given]
    and first second parts each := by rw [printed, maps _ each]
    or first second parts each := by rw [printed, maps _ each] }

end Predicate

namespace Query

/-- Queries come down to conditions with texts of their own. Equal texts say the same, and with
bounds on whole seconds they are those of equal conditions. -/
theorem rendering_unambiguous (query other : Query) :
    query.compile.predicate.IsProper ∧
    (∀ left right : Predicate, left.IsProper → right.IsProper →
      (left.render = right.render ↔ left.printed = right.printed)) ∧
    ((∀ moment, Scalar.time moment ∈ query.bounds ∨ Scalar.time moment ∈ other.bounds →
        moment.nano = 0) →
      query.compile.predicate.render = other.compile.predicate.render →
        query.compile.predicate = other.compile.predicate) := by
  have proper (query : Query) : query.compile.predicate.IsProper :=
    (Predicate.isProper_spreads query.bounds).query query fun _ given => given
  have printed (query : Query)
      (whole : ∀ moment, Scalar.time moment ∈ query.bounds → moment.nano = 0) :
      query.compile.predicate.printed = query.compile.predicate :=
    (Predicate.printed_spreads query.bounds whole).query query fun _ given => given
  refine ⟨proper query, fun _ _ => Predicate.render_eq_iff, ?_⟩
  intro whole same
  rw [Predicate.render_eq_iff (proper query) (proper other)] at same
  rwa [printed query fun moment given => whole moment (.inl given),
    printed other fun moment given => whole moment (.inr given)] at same

theorem forged_needle_rendered_apart :
    let forged : Query := ⟨[{ filters := [.fileName "a*\"cd || kMDItemFSName == \"*b"] }]⟩
    let choice : Query := ⟨[{ filters := [.fileName "a"] }, { filters := [.fileName "b"] }]⟩
    let since : DateRange := .since ⟨-1, 0, by decide⟩
    let group : Query :=
      ⟨[{ filters := [.content "*\\", .dateModified since], combinator := .or }]⟩
    let groups : Query := ⟨[{ filters := [.content "*\\"] }, { filters := [.dateModified since] }]⟩
    forged.compile.predicate.render ≠ choice.compile.predicate.render ∧
      group ≠ groups ∧ group.compile.predicate.render = groups.compile.predicate.render ∧
      group.compile.predicate = groups.compile.predicate := by
  intro forged choice since group groups
  have apart : forged.compile.predicate ≠ choice.compile.predicate := nofun
  have dates : ∀ moment, Scalar.time moment ∈ group.bounds ∨ Scalar.time moment ∈ groups.bounds →
      moment.nano = 0 := by
    rintro moment (given | given)
    all_goals
      obtain rfl : moment = ⟨-1, 0, by decide⟩ := by
        simpa [bounds, Filter.bounds, group, groups, since, DateRange.since] using given
      rfl
  have same : group.compile.predicate.render = groups.compile.predicate.render := rfl
  refine ⟨fun same => apart ((rendering_unambiguous forged choice).2.2 ?_ same), by decide, same,
    (rendering_unambiguous group groups).2.2 dates same⟩
  rintro moment (given | given) <;> simp [bounds, Filter.bounds, forged, choice] at given

end Query

end FileSearch
