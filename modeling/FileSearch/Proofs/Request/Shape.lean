import FileSearch.Proofs.Json.Record
import FileSearch.Request.Basic
import Mathlib.Data.List.Pairwise

set_option autoImplicit false

namespace FileSearch

open Json RecordShape

namespace DateRange

def IsShaped : Json → Prop
  | .object members =>
    ∀ member ∈ members, member.1 = "from" ∨ member.1 = "to" → IsNullOr IsMoment member.2
  | .array items => items.length ≤ 2 ∧ ∀ item ∈ items, IsNullOr IsMoment item
  | _ => False

-- What a bound has to be, the first one and the last one alike.
def Admits (_name : String) (value : Json) : Prop :=
  IsNullOr IsMoment value

theorem fields_demand : ∀ field ∈ fields, field.Demands Held.mk (Admits field.name) := by
  have moments := (Decoder.moment_demands Held.mirrors).option Held.mirrors
  rw [fields, List.forall_mem_cons, List.forall_mem_singleton]
  exact ⟨moments.field _ (fun bound range => { range with earliest? := bound }) rfl,
    moments.field _ (fun bound range => { range with latest? := bound }) rfl⟩

theorem decode_demands : decode.Demands Held.mk IsShaped := by
  intro json ordered
  have reads := read_demands Held.mirrors "struct DateRange" fields_demand (by simp [fields]) {}
    json ordered
  rw [decode, reads]
  cases json with
  | object members =>
    have plain : ∀ field ∈ (fields : List (Field Held DateRange)), field.alias? = none := by
      simp [fields]
    have names : (fields : List (Field Held DateRange)).map Field.name = ["from", "to"] := rfl
    simp [IsRecord, IsShaped, Admits, suits_iff_of_plain plain, names,
      fieldNames_nodup plain ordered.ascending]
  | array items =>
    rcases items with _ | ⟨_, _ | ⟨_, _ | ⟨_, _⟩⟩⟩ <;> simp [IsRecord, IsShaped, Admits, fields]
  | _ => exact Iff.rfl

end DateRange

namespace GroupDraft

def IsShaped : Json → Prop
  | .object members =>
    (∀ member ∈ members, member.1 = "filters" → IsListOf (fun _ => True) member.2) ∧
      (∀ member ∈ members, member.1 = "combination" ∨ member.1 = "combinator" →
        IsNameOf ["and", "or"] member.2) ∧
      ("combination" ∉ members.map Prod.fst ∨ "combinator" ∉ members.map Prod.fst)
  | .array items =>
    items.length ≤ 2 ∧ (∀ filters ∈ items[0]?, IsListOf (fun _ => True) filters) ∧
      ∀ combinator ∈ items[1]?, IsNameOf ["and", "or"] combinator
  | _ => False

def Admits (name : String) (value : Json) : Prop :=
  if name = "filters" then IsListOf (fun _ => True) value else IsNameOf ["and", "or"] value

theorem fields_demand : ∀ field ∈ fields, field.Demands id (Admits field.name) := by
  have any : Decoder.Demands (Except.ok : Decoder Json Json) id fun _ => True := by
    intro json _
    simp
  have lists := any.list Json.mirrors
  have names := Decoder.variant_demands Json.mirrors combinatorNames
  rw [fields, List.forall_mem_cons, List.forall_mem_singleton]
  exact ⟨lists.field _ (fun filters group => { group with filters }) rfl,
    names.field _ (fun combinator group => { group with combinator }) rfl⟩

-- The name under which a member is declared; the combinator has two names.
def declared? (name : String) : Option String :=
  if name = "filters" then some "filters"
  else if name = "combination" ∨ name = "combinator" then some "combination"
  else none

theorem fieldOf?_name (name : String) : (fieldOf? fields name).map Field.name = declared? name := by
  by_cases filters : name = "filters"
  · simp [filters, fieldOf?, fields, Field.answersTo, declared?]
  · by_cases combinator : name = "combination" ∨ name = "combinator"
    · rcases combinator with rfl | rfl <;> rfl
    · obtain ⟨combination, combinator⟩ := not_or.mp combinator
      simp [fieldOf?, fields, Field.answersTo, declared?, Ne.symm filters, Ne.symm combination,
        Ne.symm combinator, filters, combination, combinator]

theorem declared?_eq_some_iff (name declared : String) :
    declared? name = some declared ↔
      (name = "filters" ∧ declared = "filters") ∨
        ((name = "combination" ∨ name = "combinator") ∧ declared = "combination") := by
  rw [declared?]
  split
  next filters => simp [filters, eq_comm]
  next filters => split <;> simp_all [eq_comm]

-- Two members that are not read as the same one.
def Apart (first second : String × Json) : Prop :=
  ∀ name ∈ declared? first.1, ∀ other ∈ declared? second.1, name ≠ other

theorem apart_symm : Std.Symm Apart where
  symm _ _ apart name given other alike := (apart other alike name given).symm

theorem fieldNames_nodup_iff_apart (members : List (String × Json)) :
    (fieldNames fields members).Nodup ↔ members.Pairwise Apart := by
  simp only [fieldNames, fieldOf?_name]
  exact List.pairwise_filterMap

theorem fieldNames_nodup_iff {members : List (String × Json)} (ascending : Ascending members) :
    (fieldNames fields members).Nodup ↔
      ("combination" ∉ members.map Prod.fst ∨ "combinator" ∉ members.map Prod.fst) := by
  rw [fieldNames_nodup_iff_apart]
  constructor
  · intro apart
    by_contra both
    simp only [not_or, not_not, List.mem_map, Prod.exists, exists_and_right,
      exists_eq_right] at both
    obtain ⟨⟨first, given⟩, second, also⟩ := both
    have symm := apart_symm
    exact apart.forall given also (by simp) "combination" rfl "combination" rfl rfl
  · intro single
    refine ascending.imp_of_mem ?_
    rintro ⟨first, value⟩ ⟨second, held⟩ member later less name given _ alike rfl
    have listed := List.mem_map_of_mem (f := Prod.fst) member
    have also := List.mem_map_of_mem (f := Prod.fst) later
    simp only [Option.mem_def, declared?_eq_some_iff] at given alike
    rcases given with ⟨rfl, rfl⟩ | ⟨rfl | rfl, rfl⟩ <;>
      rcases alike with ⟨rfl, other⟩ | ⟨rfl | rfl, other⟩ <;> simp_all

theorem decode_demands : decode.Demands id IsShaped := by
  intro json ordered
  have reads := read_demands Json.mirrors "struct WireGroup" fields_demand (by simp [fields]) {}
    json ordered
  rw [decode, reads]
  cases json with
  | object members =>
    simp only [IsRecord, IsShaped, fieldNames_nodup_iff ordered.ascending, suits_iff, fieldOf?_name]
    rw [← and_assoc]
    refine and_congr_left fun _ => ?_
    simp only [declared?_eq_some_iff, Option.mem_def, Admits]
    constructor
    · intro suits
      exact ⟨fun member listed filters => suits member listed _ (.inl ⟨filters, rfl⟩),
        fun member listed combinator => suits member listed _ (.inr ⟨combinator, rfl⟩)⟩
    · rintro ⟨filters, combinators⟩ member listed _ (⟨named, rfl⟩ | ⟨named, rfl⟩)
      · exact filters member listed named
      · exact combinators member listed named
  | array items =>
    rcases items with _ | ⟨_, _ | ⟨_, _ | ⟨_, _⟩⟩⟩ <;> simp [IsRecord, IsShaped, fields, Admits]
  | _ => exact Iff.rfl

end GroupDraft

namespace FlatSearch

def memberNames : List String :=
  ["query", "queryType", "extensions", "onlyIn", "dateFilter", "filenameOnly"]

-- What the members of a flat search have to be. Any texts may stand for kinds and paths.
def Admits (name : String) (value : Json) : Prop :=
  match name with
  | "query" => IsText value
  | "queryType" => IsNullOr IsText value
  | "extensions" => IsListOf IsText value
  | "onlyIn" => IsListOf IsText value
  | "dateFilter" => IsNullOr DateRange.IsShaped value
  | "filenameOnly" => IsNullOr IsFlag value
  | _ => True

theorem fields_demand : ∀ field ∈ fields, field.Demands Held.mk (Admits field.name) := by
  have texts : Decoder.string.Demands Held.mk IsText := Decoder.text_demands Held.mirrors _
  have path : Path.decode.Demands Held.mk IsText := by
    intro json ordered
    rw [Path.decode, Outcome.exists_map_ok_iff]
    exact Decoder.text_demands Held.mirrors _ json ordered
  have flags := (Decoder.bool_demands Held.mirrors).option Held.mirrors
  have dates := DateRange.decode_demands.option Held.mirrors
  simp only [fields, List.forall_mem_cons, List.not_mem_nil, false_implies, implies_true, and_true]
  exact ⟨texts.field _ (fun query search => { search with query }) rfl,
    (texts.option Held.mirrors).field _
      (fun kind search => { search with kind? := kind.map TextKind.parse }) rfl,
    (texts.list Held.mirrors).field _ (fun extensions search => { search with extensions }) rfl,
    (path.list Held.mirrors).field _ (fun onlyIn search => { search with onlyIn }) rfl,
    dates.field _ (fun range search => { search with dateFilter? := range }) rfl,
    flags.field _ (fun flag search => { search with filenameOnly? := flag }) rfl⟩

theorem admits_other {name : String} (other : name ∉ memberNames) (value : Json) :
    Admits name value := by
  simp only [memberNames, List.mem_cons, List.not_mem_nil, or_false, not_or] at other
  simp [Admits, other]

theorem readObject_ok_iff {members : List (String × Json)} (ordered : (object members).IsOrdered) :
    (∃ search, readObject fields (named Held.mk members) ({} : FlatSearch) = .ok search) ↔
      ∀ member ∈ members, Admits member.1 member.2 := by
  rw [readObject_plain_ok_iff Held.mirrors fields_demand (by simp [fields]) (by simp [fields])
    ordered]
  refine forall₂_congr fun member _ => ⟨fun admits => ?_, fun admits _ => admits⟩
  by_cases known : member.1 ∈ memberNames
  · exact admits known
  · exact admits_other known member.2

end FlatSearch

namespace SearchRequest

-- What the members of a request have to be, those of a flat search among them.
def Admits (name : String) (value : Json) : Prop :=
  match name with
  | "filterGroups" => IsNullOr (IsListOf GroupDraft.IsShaped) value
  | "sortBy" => IsNullOr (IsNameOf ["name", "dateModified", "dateCreated", "size"]) value
  | "sortDirection" => IsNullOr (IsNameOf ["ascending", "descending"]) value
  | "limit" => IsNullOr IsNatural value
  | "timeoutMs" => IsNullOr IsNatural value
  | name => FlatSearch.Admits name value

def memberNames : List String :=
  ["filterGroups", "sortBy", "sortDirection", "limit", "timeoutMs"]

theorem fields_demand : ∀ field ∈ RequestDraft.fields, field.Demands id (Admits field.name) := by
  have groups := (GroupDraft.decode_demands.list Json.mirrors).option Json.mirrors
  have names := (Decoder.variant_demands Json.mirrors SortSpec.fieldNames).option Json.mirrors
  have directions :=
    (Decoder.variant_demands Json.mirrors SortSpec.directionNames).option Json.mirrors
  have limits := (Decoder.natural_demands Json.mirrors "usize").option Json.mirrors
  have times := (Decoder.natural_demands Json.mirrors "u64").option Json.mirrors
  simp only [RequestDraft.fields, List.forall_mem_cons, List.not_mem_nil, false_implies,
    implies_true, and_true]
  exact ⟨groups.field _ (fun groups request => { request with groups? := groups }) rfl,
    names.field _ (fun field request => { request with field? := field }) rfl,
    directions.field _ (fun direction request => { request with direction? := direction }) rfl,
    limits.field _ (fun limit request => { request with limit? := limit }) rfl,
    times.field _ (fun timeout request => { request with timeoutMs? := timeout }) rfl⟩

theorem admits_other {name : String} (other : name ∉ memberNames) (value : Json) :
    Admits name value = FlatSearch.Admits name value := by
  simp only [memberNames, List.mem_cons, List.not_mem_nil, or_false, not_or] at other
  simp [Admits, other]

theorem decodeParts_eq (members : List (String × Json)) :
    decodeParts (.object members) =
      readObject RequestDraft.fields (named id members) {} >>= fun request =>
        readObject FlatSearch.fields (named Held.mk members) ({} : FlatSearch) >>= fun search =>
          .ok (request, search) := by
  simp [decodeParts, Json.view, named, Function.comp_def]

theorem decodeParts_ok_iff {members : List (String × Json)} (ordered : (object members).IsOrdered) :
    (∃ parts, decodeParts (.object members) = .ok parts) ↔
      ∀ member ∈ members, Admits member.1 member.2 := by
  have requests := readObject_plain_ok_iff Json.mirrors fields_demand
    (by simp [RequestDraft.fields]) (by simp [RequestDraft.fields]) ordered {}
  have parts : (∃ parts, decodeParts (.object members) = .ok parts) ↔
      (∃ request, readObject RequestDraft.fields (named id members) {} = .ok request) ∧
        ∃ search, readObject FlatSearch.fields (named Held.mk members) ({} : FlatSearch) =
          .ok search := by
    rw [decodeParts_eq]
    simp [Outcome.bind_ok_iff]
  rw [parts, requests, FlatSearch.readObject_ok_iff ordered]
  have own : RequestDraft.fields.map Field.name = memberNames := rfl
  have apart : ∀ name ∈ memberNames, name ∉ FlatSearch.memberNames := by
    simp [memberNames, FlatSearch.memberNames]
  rw [own]
  constructor
  · rintro ⟨admits, flat⟩ member listed
    by_cases known : member.1 ∈ memberNames
    · exact admits member listed known
    · rw [admits_other known]
      exact flat member listed
  · intro admits
    refine ⟨fun member listed _ => admits member listed, fun member listed => ?_⟩
    by_cases known : member.1 ∈ memberNames
    · exact FlatSearch.admits_other (apart member.1 known) member.2
    · rw [← admits_other known]
      exact admits member listed

end SearchRequest

end FileSearch
