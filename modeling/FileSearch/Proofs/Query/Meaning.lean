import FileSearch.CompiledQuery
import FileSearch.Proofs.Query.Stripping
import FileSearch.Proofs.Time.Order
import Mathlib.Data.List.Infix

set_option autoImplicit false

namespace FileSearch

-- A value is there, and neither of the bounds that are given excludes it.
def Within {α : Type} [LE α] (lower? upper? value? : Option α) : Prop :=
  ∃ value ∈ value?, (∀ bound ∈ lower?, bound ≤ value) ∧ ∀ bound ∈ upper?, value ≤ bound

namespace Filter

-- What the extensions in a list come to; those that come to nothing or to white space only do not
-- count.
def Lists (values : List String) (extension : String) : Prop :=
  (∃ value ∈ values, StripsTo value extension) ∧ ∃ c ∈ extension.toList, Text.isBlank c = false

def IsActive : Filter → Prop
  | .content text => text ≠ ""
  | .fileName text => text ≠ ""
  | .nameOrContent text => text ≠ ""
  | .extensions values => ∃ extension, Lists values extension
  | .dateModified range => range.earliest?.isSome ∨ range.latest?.isSome
  | .dateCreated range => range.earliest?.isSome ∨ range.latest?.isSome
  | .size range => range.least?.isSome ∨ range.most?.isSome
  | .paths _ => False

def IsMet (file : Attributes) : Filter → Prop
  | .content text => file.containsText .textContent (Text.lowercase text) = true
  | .fileName text => file.containsText .fileName (Text.lowercase text) = true
  | .nameOrContent text =>
    file.containsText .fileName (Text.lowercase text) = true ∨
      file.containsText .textContent (Text.lowercase text) = true
  | .extensions values =>
    ∃ extension, Lists values extension ∧ ∃ name ∈ file.text .fileName,
      (Text.lowercase ("." ++ extension)).toList <:+ (Text.lowercase name).toList
  | .dateModified range => Within range.earliest? range.latest? (file.time .modifiedAt)
  | .dateCreated range => Within range.earliest? range.latest? (file.time .createdAt)
  | .size range => Within range.least? range.most? (file.bytes .size)
  | .paths _ => True

def IsInverted : Filter → Prop
  | .dateModified range => ∃ first ∈ range.earliest?, ∃ last ∈ range.latest?, ¬ first ≤ last
  | .dateCreated range => ∃ first ∈ range.earliest?, ∃ last ∈ range.latest?, ¬ first ≤ last
  | .size range => ∃ least ∈ range.least?, ∃ most ∈ range.most?, ¬ least ≤ most
  | _ => False

end Filter

def FilterGroup.IsMet (file : Attributes) (group : FilterGroup) : Prop :=
  match group.combinator with
  | .and => ∀ filter ∈ group.filters, filter.IsActive → filter.IsMet file
  | .or =>
    (∀ filter ∈ group.filters, ¬ filter.IsActive) ∨
      ∃ filter ∈ group.filters, filter.IsActive ∧ filter.IsMet file

def Query.IsMet (file : Attributes) (query : Query) : Prop :=
  query.groups = [] ∨ ∃ group ∈ query.groups, group.IsMet file

namespace Predicate

variable (file : Attributes)

theorem allHold_iff (parts : List Predicate) :
    allHold file parts = true ↔ ∀ part ∈ parts, part.holds file = true := by
  induction parts with
  | nil => simp [allHold]
  | cons part rest ih => simp [allHold, ih]

theorem anyHolds_iff (parts : List Predicate) :
    anyHolds file parts = true ↔ ∃ part ∈ parts, part.holds file = true := by
  induction parts with
  | nil => simp [anyHolds]
  | cons part rest ih => simp [anyHolds, ih]

theorem all_holds_iff (parts : List Predicate) :
    (all parts).holds file = true ↔ ∀ part ∈ parts, part.holds file = true := by
  cases parts with
  | nil => simp [all, holds]
  | cons part rest => cases rest <;> simp [all, holds, allHold_iff]

theorem any_holds_iff (parts : List Predicate) :
    (any parts).holds file = true ↔ parts = [] ∨ ∃ part ∈ parts, part.holds file = true := by
  cases parts with
  | nil => simp [any, holds]
  | cons part rest => cases rest <;> simp [any, holds, anyHolds_iff]

theorem hasEnding_iff (attr : Attribute) (suffix : String) :
    hasEnding file attr suffix = true ↔ ∃ value ∈ file.text attr,
      (Text.lowercase suffix).toList <:+ (Text.lowercase value).toList := by
  cases read : file.text attr <;>
    simp [hasEnding, read, Text.endsWith, List.isSuffixOf_iff_suffix]

theorem rangeBounds_hold_iff {α : Type} [Ord α] [LE α] [Std.LawfulOrderOrd α] (attr : Attribute)
    (scalar : α → Scalar) (value? : Option α)
    (reads : ∀ bound, compareBound file attr (scalar bound) = value?.map (compare · bound))
    (lower? upper? : Option α) (given : lower?.isSome ∨ upper?.isSome) :
    (∀ part ∈ rangeBounds attr (lower?.map scalar) (upper?.map scalar), part.holds file = true) ↔
      Within lower? upper? value? := by
  cases lower? <;> cases upper? <;> cases value? <;>
    simp [rangeBounds, holds, reads, Within, Std.isLE_compare, Std.isGE_compare] at given ⊢

end Predicate

namespace Filter

theorem lists_iff (values : List String) (extension : String) :
    Lists values extension ↔ extension ∈ values.map cleanExtension ∧ extension ≠ "" := by
  simp only [Lists, stripsTo_iff, List.mem_map]
  refine and_congr_right fun listed => ?_
  obtain ⟨raw, -, rfl⟩ := listed
  constructor
  · rintro ⟨c, member, -⟩ empty
    simp [empty] at member
  · exact cleanExtension_shown raw

theorem mem_endings_iff (values : List String) (part : Predicate) :
    part ∈ endings values ↔
      ∃ extension, Lists values extension ∧ .endsWith .fileName ("." ++ extension) = part := by
  simp [endings, lists_iff]

theorem endings_eq_nil_iff (values : List String) :
    endings values = [] ↔ ¬ ∃ extension, Lists values extension := by
  simp only [List.eq_nil_iff_forall_not_mem, mem_endings_iff, not_exists, not_and]
  exact ⟨fun none extension listed => none _ extension listed rfl,
    fun none _ extension listed _ => none extension listed⟩

theorem boundsCondition_rangeBounds (attr : Attribute) (lower? upper? : Option Scalar) :
    boundsCondition (rangeBounds attr lower? upper?) =
      if lower?.isSome ∨ upper?.isSome then some (.all (rangeBounds attr lower? upper?))
      else none := by
  cases lower? <;> cases upper? <;> rfl

theorem condition_isSome_iff (filter : Filter) :
    filter.condition.isSome = true ↔ filter.IsActive := by
  cases filter with
  | content text => simp [condition, textCondition, IsActive]
  | fileName text => simp [condition, textCondition, IsActive]
  | nameOrContent text =>
    by_cases empty : text = "" <;> simp [condition, textCondition, IsActive, empty]
  | extensions values =>
    have none := endings_eq_nil_iff values
    by_cases listed : ∃ extension, Lists values extension <;>
      simp [condition, IsActive, none, listed]
  | dateModified range =>
    simp [condition, DateRange.condition, boundsCondition_rangeBounds, IsActive]
  | dateCreated range =>
    simp [condition, DateRange.condition, boundsCondition_rangeBounds, IsActive]
  | size range =>
    simp [condition, SizeRange.condition, boundsCondition_rangeBounds, IsActive]
  | paths values => simp [condition, IsActive]

theorem dates_hold_iff (range : DateRange) (attr : Attribute) (file : Attributes)
    (part : Predicate) (made : range.condition attr = some part) :
    part.holds file = true ↔ Within range.earliest? range.latest? (file.time attr) := by
  rw [DateRange.condition, boundsCondition_rangeBounds] at made
  split at made
  next given =>
    cases made
    rw [Predicate.all_holds_iff]
    exact Predicate.rangeBounds_hold_iff file attr Scalar.time _ (fun _ => rfl) _ _
      (by simpa using given)
  next => cases made

theorem sizes_hold_iff (range : SizeRange) (file : Attributes) (part : Predicate)
    (made : range.condition = some part) :
    part.holds file = true ↔ Within range.least? range.most? (file.bytes .size) := by
  rw [SizeRange.condition, boundsCondition_rangeBounds] at made
  split at made
  next given =>
    cases made
    rw [Predicate.all_holds_iff]
    exact Predicate.rangeBounds_hold_iff file .size Scalar.bytes _ (fun _ => rfl) _ _
      (by simpa using given)
  next => cases made

theorem condition_holds_iff (filter : Filter) (file : Attributes) (part : Predicate)
    (made : filter.condition = some part) : part.holds file = true ↔ filter.IsMet file := by
  cases filter with
  | content text =>
    by_cases empty : text = "" <;> simp [condition, textCondition, empty] at made
    simp [← made, Predicate.holds, IsMet]
  | fileName text =>
    by_cases empty : text = "" <;> simp [condition, textCondition, empty] at made
    simp [← made, Predicate.holds, IsMet]
  | nameOrContent text =>
    by_cases empty : text = "" <;> simp [condition, textCondition, empty] at made
    simp [← made, Predicate.holds, Predicate.anyHolds, IsMet]
  | extensions values =>
    have none := endings_eq_nil_iff values
    by_cases empty : endings values = [] <;> simp [condition, empty] at made
    rw [← made, Predicate.any_holds_iff]
    simp [empty, mem_endings_iff, Predicate.holds, Predicate.hasEnding_iff, IsMet]
  | dateModified range => exact dates_hold_iff range _ file part made
  | dateCreated range => exact dates_hold_iff range _ file part made
  | size range => exact sizes_hold_iff range file part made
  | paths values => simp [condition] at made

theorem isActive_iff (filter : Filter) :
    filter.IsActive ↔ ∃ part, filter.condition = some part := by
  rw [← condition_isSome_iff, Option.isSome_iff_exists]

theorem not_within_of_inverted {α : Type} [LE α]
    (trans : ∀ first middle last : α, first ≤ middle → middle ≤ last → first ≤ last)
    (lower? upper? value? : Option α)
    (inverted : ∃ lower ∈ lower?, ∃ upper ∈ upper?, ¬ lower ≤ upper) :
    ¬ Within lower? upper? value? := by
  obtain ⟨lower, first, upper, last, apart⟩ := inverted
  rintro ⟨value, -, above, below⟩
  exact apart (trans lower value upper (above lower first) (below upper last))

theorem not_isMet_of_isInverted (filter : Filter) (inverted : filter.IsInverted)
    (file : Attributes) : filter.IsActive ∧ ¬ filter.IsMet file := by
  cases filter with
  | dateModified range =>
    refine ⟨.inl ?_, not_within_of_inverted Instant.le_trans _ _ _ inverted⟩
    obtain ⟨first, given, -⟩ := inverted
    exact Option.isSome_of_mem given
  | dateCreated range =>
    refine ⟨.inl ?_, not_within_of_inverted Instant.le_trans _ _ _ inverted⟩
    obtain ⟨first, given, -⟩ := inverted
    exact Option.isSome_of_mem given
  | size range =>
    refine ⟨.inl ?_, not_within_of_inverted (fun _ _ _ => UInt64.le_trans) _ _ _ inverted⟩
    obtain ⟨least, given, -⟩ := inverted
    exact Option.isSome_of_mem given
  | _ => cases inverted

end Filter

namespace FilterGroup

variable (filters : List Filter) (file : Attributes)

theorem parts_eq_nil_iff :
    filters.filterMap Filter.condition = [] ↔ ∀ filter ∈ filters, ¬ filter.IsActive := by
  simp [Filter.isActive_iff, Option.eq_none_iff_forall_ne_some]

theorem parts_hold_iff :
    (∀ part ∈ filters.filterMap Filter.condition, part.holds file = true) ↔
      ∀ filter ∈ filters, filter.IsActive → filter.IsMet file := by
  constructor
  · intro hold filter member active
    obtain ⟨part, made⟩ := filter.isActive_iff.mp active
    rw [← filter.condition_holds_iff file part made]
    exact hold part (List.mem_filterMap.mpr ⟨filter, member, made⟩)
  · intro met part member
    obtain ⟨filter, member, made⟩ := List.mem_filterMap.mp member
    rw [filter.condition_holds_iff file part made]
    exact met filter member (filter.isActive_iff.mpr ⟨part, made⟩)

theorem part_holds_iff :
    (∃ part ∈ filters.filterMap Filter.condition, part.holds file = true) ↔
      ∃ filter ∈ filters, filter.IsActive ∧ filter.IsMet file := by
  constructor
  · rintro ⟨part, member, holds⟩
    obtain ⟨filter, member, made⟩ := List.mem_filterMap.mp member
    exact ⟨filter, member, filter.isActive_iff.mpr ⟨part, made⟩,
      (filter.condition_holds_iff file part made).mp holds⟩
  · rintro ⟨filter, member, active, met⟩
    obtain ⟨part, made⟩ := filter.isActive_iff.mp active
    exact ⟨part, List.mem_filterMap.mpr ⟨filter, member, made⟩,
      (filter.condition_holds_iff file part made).mpr met⟩

theorem condition_holds_iff (group : FilterGroup) :
    group.condition.holds file = true ↔ group.IsMet file := by
  rw [condition, IsMet]
  cases group.combinator with
  | and => rw [Predicate.all_holds_iff, parts_hold_iff]
  | or => rw [Predicate.any_holds_iff, parts_eq_nil_iff, part_holds_iff]

end FilterGroup

namespace Query

theorem predicate_holds_iff (query : Query) (file : Attributes) :
    query.compile.predicate.holds file = true ↔ query.IsMet file := by
  rw [compile, Predicate.any_holds_iff, IsMet]
  simp [FilterGroup.condition_holds_iff]

/-- The condition of a query holds of exactly the files that meet the query; a filter whose bounds
are in the wrong order is met by none. -/
theorem compiled_holds_iff_met (query : Query) (file : Attributes) :
    (query.compile.predicate.holds file = true ↔ query.IsMet file) ∧
      ∀ filter : Filter, filter.IsInverted →
        (Query.mk [{ filters := [filter] }]).compile.predicate.holds file = false := by
  refine ⟨query.predicate_holds_iff file, ?_⟩
  intro filter inverted
  obtain ⟨active, missed⟩ := filter.not_isMet_of_isInverted inverted file
  rw [Bool.eq_false_iff, ne_eq, predicate_holds_iff]
  simp [IsMet, FilterGroup.IsMet, active, missed]

theorem pdf_asked_for :
    let named (name : String) : Attributes :=
      { text := fun _ => some name, bytes := fun _ => none, time := fun _ => none }
    let query : Query :=
      ⟨[{ filters := [.content "", .extensions [" ", " .Pdf "], .paths [⟨"/a"⟩]] }]⟩
    let inverted : Filter := .size ⟨some 2, some 1⟩
    query.compile.predicate.holds (named "Report.PDF") = true ∧
      query.compile.predicate.holds (named "Report.doc") = false ∧ inverted.IsInverted ∧
      (Query.mk [{ filters := [inverted] }]).compile.predicate.holds (named "Report.PDF") = false := by
  intro named query inverted
  have lists (extension : String) :
      Filter.Lists [" ", " .Pdf "] extension ↔ extension = "Pdf" := by
    have blank : Filter.cleanExtension " " = "" := by decide +kernel
    have pdf : Filter.cleanExtension " .Pdf " = "Pdf" := by decide +kernel
    rw [Filter.lists_iff]
    simp only [List.map_cons, List.map_nil, blank, pdf, List.mem_pair]
    constructor
    · rintro ⟨rfl | rfl, some⟩
      · exact absurd rfl some
      · rfl
    · rintro rfl
      exact ⟨.inr rfl, by decide⟩
  have met_iff (name : String) : query.IsMet (named name) ↔
      (Text.lowercase ".Pdf").toList <:+ (Text.lowercase name).toList := by
    have dotted : "." ++ "Pdf" = ".Pdf" := by decide
    simp [IsMet, FilterGroup.IsMet, Filter.IsActive, Filter.IsMet, lists, query, named, dotted]
  have wrong : inverted.IsInverted := ⟨2, rfl, 1, rfl, by decide⟩
  refine ⟨?_, ?_, wrong, (compiled_holds_iff_met query (named "Report.PDF")).2 inverted wrong⟩
  · rw [(compiled_holds_iff_met query _).1, met_iff]
    decide +kernel
  · rw [Bool.eq_false_iff, ne_eq, (compiled_holds_iff_met query _).1, met_iff]
    decide +kernel

end Query

end FileSearch
