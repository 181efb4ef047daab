import FileSearch.Json.Decoder
import FileSearch.Proofs.Json.Ordered
import FileSearch.Proofs.Outcome

set_option autoImplicit false

namespace FileSearch

namespace Json

def IsText : Json → Prop
  | .string _ => True
  | _ => False

def IsFlag : Json → Prop
  | .bool _ => True
  | _ => False

-- A natural number that fits into 64 bits.
def IsNatural : Json → Prop
  | .number (.integer value) => 0 ≤ value ∧ value < JsonNumber.integerEnd
  | _ => False

def IsMoment : Json → Prop
  | .string text => ∃ moment, Instant.read text = .ok moment
  | _ => False

def IsNullOr (shape : Json → Prop) (json : Json) : Prop :=
  json = .null ∨ shape json

def IsListOf (shape : Json → Prop) : Json → Prop
  | .array items => ∀ item ∈ items, shape item
  | _ => False

-- One of the names, alone or as that of the only member of an object, whose value is null.
def IsNameOf (names : List String) : Json → Prop
  | .string name => name ∈ names
  | .object [(name, value)] => name ∈ names ∧ value = .null
  | _ => False

end Json

-- A way to hold values that shows them as they are.
structure Mirrors {α : Type} [Readable α] (wrap : Json → α) : Prop where
  view : ∀ json, Readable.view (wrap json) = json.view.map wrap
  passable : ∀ json, Readable.passable (wrap json) = true

theorem Held.mirrors : Mirrors Held.mk :=
  ⟨fun _ => rfl, fun _ => rfl⟩

theorem Json.mirrors : Mirrors (id : Json → Json) := by
  refine ⟨fun json => ?_, fun _ => rfl⟩
  cases json <;> simp [Readable.view, Json.view, View.map]

namespace Decoder

open Outcome Json

variable {α β : Type}

-- The decoder accepts the values of this shape and no others.
def Demands (decoder : Decoder α β) (wrap : Json → α) (shape : Json → Prop) : Prop :=
  ∀ json, json.IsOrdered → ((∃ value, decoder (wrap json) = .ok value) ↔ shape json)

section Lists

variable {decoder : Decoder α β} {wrap : Json → α} {shape : Json → Prop}

theorem Demands.each_iff (demands : decoder.Demands wrap shape) (items : List Json)
    (ordered : ∀ item ∈ items, item.IsOrdered) :
    (∃ values, each decoder (items.map wrap) = .ok values) ↔ ∀ item ∈ items, shape item := by
  induction items with
  | nil => simp [each]
  | cons item rest ih =>
    obtain ⟨first, others⟩ := List.forall_mem_cons.mp ordered
    rw [List.forall_mem_cons, ← ih others, ← demands item first]
    simp only [List.map_cons, each, bind_ok_iff]
    constructor
    · rintro ⟨-, value, head, values, tail, -⟩
      exact ⟨⟨value, head⟩, values, tail⟩
    · rintro ⟨⟨value, head⟩, values, tail⟩
      exact ⟨value :: values, value, head, values, tail, rfl⟩

end Lists

variable [Readable α] {decoder : Decoder α β} {wrap : Json → α} {shape : Json → Prop}
  (mirrors : Mirrors wrap)

include mirrors

theorem text_demands (expected : String) : (text expected).Demands wrap IsText := by
  intro json _
  rw [text, mirrors.view]
  cases json <;> simp [Json.view, View.map, IsText]

theorem bool_demands : bool.Demands wrap IsFlag := by
  intro json _
  rw [bool, mirrors.view]
  cases json <;> simp [Json.view, View.map, IsFlag]

theorem natural_demands (width : String) : (natural width).Demands wrap IsNatural := by
  intro json _
  rw [natural, mirrors.view]
  cases json with
  | number value =>
    cases value with
    | integer value =>
      by_cases fits : 0 ≤ value ∧ value < (JsonNumber.integerEnd : Int) <;>
        simp [Json.view, View.map, IsNatural, fits]
    | float negative magnitude => simp [Json.view, View.map, IsNatural]
  | _ => simp [Json.view, View.map, IsNatural]

theorem moment_demands : moment.Demands wrap IsMoment := by
  intro json _
  rw [moment, text, mirrors.view]
  cases json with
  | string written =>
    cases read : Instant.read written <;>
      simp [Json.view, View.map, IsMoment, bind, Except.bind, read]
  | _ => simp [Json.view, View.map, IsMoment, bind, Except.bind]

theorem Demands.option (demands : decoder.Demands wrap shape) :
    (option decoder).Demands wrap (IsNullOr shape) := by
  intro json ordered
  rw [Decoder.option, mirrors.view]
  cases json <;>
    simp [Json.view, View.map, IsNullOr, exists_map_ok_iff, ← demands _ ordered]

theorem option_ok (decoder : Decoder α β) {json : Json} (present : json ≠ .null) {value? : Option β}
    (decoded : Decoder.option decoder (wrap json) = .ok value?) : ∃ value, value? = some value := by
  rw [Decoder.option, mirrors.view] at decoded
  cases json with
  | null => exact absurd rfl present
  | _ =>
    obtain ⟨value, -, made⟩ := map_ok_iff.mp decoded
    exact ⟨value, made.symm⟩

theorem Demands.list (demands : decoder.Demands wrap shape) :
    (list decoder).Demands wrap (IsListOf shape) := by
  intro json ordered
  rw [Decoder.list, mirrors.view]
  cases json with
  | array items => exact demands.each_iff items fun item => ordered.item
  | _ => simp [Json.view, View.map, IsListOf]

omit mirrors [Readable α] in
theorem choose_ok_iff (table : List (String × β)) (name : String) :
    (∃ value, choose table name = .ok value) ↔ name ∈ table.map Prod.fst := by
  rw [choose]
  cases found : table.lookup name with
  | none =>
    refine iff_of_false (by simp) ?_
    intro listed
    obtain ⟨entry, member, rfl⟩ := List.mem_map.mp listed
    simpa using List.lookup_eq_none_iff.mp found entry member
  | some value =>
    obtain ⟨before, after, rfl, -⟩ := List.lookup_eq_some_iff.mp found
    simp

theorem nothing_demands : nothing.Demands wrap (· = .null) := by
  intro json _
  rw [nothing, mirrors.view]
  cases json <;> simp [Json.view, View.map]

theorem variant_demands (table : List (String × β)) :
    (variant table).Demands wrap (IsNameOf (table.map Prod.fst)) := by
  intro json ordered
  rw [variant, mirrors.view]
  cases json with
  | string name => exact choose_ok_iff table name
  | object members =>
    match members with
    | [(name, value)] =>
      have null := nothing_demands mirrors value (ordered.member List.mem_cons_self)
      simp only [Json.view, View.map, List.map_cons, List.map_nil, IsNameOf, bind_ok_iff,
        ← choose_ok_iff, ← null]
      constructor
      · rintro ⟨_, chosen, first, done, null, -⟩
        exact ⟨⟨chosen, first⟩, done, null⟩
      · rintro ⟨⟨chosen, first⟩, done, null⟩
        exact ⟨chosen, chosen, first, done, null, rfl⟩
    | [] => simp [Json.view, View.map, IsNameOf]
    | _ :: _ :: _ => simp [Json.view, View.map, IsNameOf]
  | _ => simp [Json.view, View.map, IsNameOf]

end Decoder

end FileSearch
