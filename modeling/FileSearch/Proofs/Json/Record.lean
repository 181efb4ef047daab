import FileSearch.Json.Record
import FileSearch.Proofs.Json.Shape
import Mathlib.Data.List.Nodup

set_option autoImplicit false

namespace FileSearch

-- The field takes the values of this shape and no others, whatever was read before.
def Field.Demands {α σ : Type} (field : Field α σ) (wrap : Json → α) (shape : Json → Prop) : Prop :=
  ∀ json, json.IsOrdered → ∀ record,
    (∃ next, field.set (wrap json) record = .ok next) ↔ shape json

theorem Decoder.Demands.field {α β σ : Type} {decoder : Decoder α β} {wrap : Json → α}
    {shape : Json → Prop} (demands : decoder.Demands wrap shape) (field : Field α σ)
    (put : β → σ → σ)
    (sets : field.set = fun source record =>
      decoder source >>= fun value => .ok (put value record)) :
    field.Demands wrap shape := by
  intro json ordered record
  rw [sets, Outcome.exists_bind_ok_iff]
  exact demands json ordered

namespace RecordShape

open Outcome

variable {α σ : Type}

def named (wrap : Json → α) (members : List (String × Json)) : List (Option String × α) :=
  members.map fun member => (some member.1, wrap member.2)

def fieldOf? (fields : List (Field α σ)) (name : String) : Option (Field α σ) :=
  fields.find? (Field.answersTo name)

-- The names of the fields that members give, as the fields are declared.
def fieldNames (fields : List (Field α σ)) (members : List (String × Json)) : List String :=
  members.filterMap fun member => (fieldOf? fields member.1).map Field.name

-- The member belongs to no field, or it has a value of the shape for the name of its field.
def Suits (fields : List (Field α σ)) (shapes : String → Json → Prop) (member : String × Json) :
    Prop :=
  ∀ field ∈ fieldOf? fields member.1, shapes field.name member.2

-- The values from which a record can be read if the shapes are those of its fields.
def IsRecord (fields : List (Field α σ)) (shapes : String → Json → Prop) : Json → Prop
  | .object members =>
    (∀ member ∈ members, Suits fields shapes member) ∧ (fieldNames fields members).Nodup
  | .array items =>
    items.length ≤ fields.length ∧ ∀ pair ∈ fields.zip items, shapes pair.1.name pair.2
  | _ => False

section Fields

variable {fields : List (Field α σ)} {shapes : String → Json → Prop} {wrap : Json → α}

theorem fieldOf?_mem {name : String} {field : Field α σ}
    (found : fieldOf? fields name = some field) : field ∈ fields :=
  List.mem_of_find?_eq_some found

theorem suits_iff (member : String × Json) :
    Suits fields shapes member ↔
      ∀ name ∈ (fieldOf? fields member.1).map Field.name, shapes name member.2 := by
  rw [Suits]
  cases fieldOf? fields member.1 <;> simp

section Plain

variable (plain : ∀ field ∈ fields, field.alias? = none)

include plain

theorem fieldOf?_name {name : String} {field : Field α σ}
    (found : fieldOf? fields name = some field) : field.name = name := by
  have answers := List.find?_some found
  simpa [Field.answersTo, plain field (fieldOf?_mem found)] using answers

theorem suits_iff_of_plain (member : String × Json) :
    Suits fields shapes member ↔ (member.1 ∈ fields.map Field.name → shapes member.1 member.2) := by
  rw [Suits]
  cases found : fieldOf? fields member.1 with
  | none =>
    have none' : ∀ field ∈ fields, ¬ Field.answersTo member.1 field = true :=
      List.find?_eq_none.mp found
    refine iff_of_true (by simp) fun listed => ?_
    obtain ⟨field, member, same⟩ := List.mem_map.mp listed
    exact absurd (by simp [Field.answersTo, same]) (none' field member)
  | some field =>
    have same := fieldOf?_name plain found
    have listed : member.1 ∈ fields.map Field.name :=
      List.mem_map.mpr ⟨field, fieldOf?_mem found, same⟩
    simp [same, listed]

theorem fieldNames_nodup {members : List (String × Json)} (ascending : Json.Ascending members) :
    (fieldNames fields members).Nodup := by
  refine List.pairwise_filterMap.mpr (ascending.imp ?_)
  intro first second less name given other alike same
  simp only [Option.map_eq_some_iff] at given alike
  obtain ⟨field, found, named⟩ := given
  obtain ⟨field', found', named'⟩ := alike
  have first := fieldOf?_name plain found
  have second := fieldOf?_name plain found'
  rw [← first, ← second, named, named', same] at less
  exact lt_irrefl _ less

end Plain

theorem fieldNames_cons (name : String) (value : Json) (rest : List (String × Json)) :
    fieldNames fields ((name, value) :: rest) =
      ((fieldOf? fields name).map Field.name).toList ++ fieldNames fields rest := by
  cases found : fieldOf? fields name <;> simp [fieldNames, found]

theorem checkRequired_of_optional (optional : ∀ field ∈ fields, field.presence = .optional)
    (seen : List String) : checkRequired seen fields = .ok () := by
  induction fields with
  | nil => rfl
  | cons field rest ih =>
    obtain ⟨first, others⟩ := List.forall_mem_cons.mp optional
    simp [checkRequired, first, ih others]

variable [Readable α]

theorem readMembers_of_readObject {members : List (Option String × α)} {start record : σ}
    (reads : readObject fields members start = .ok record) :
    ∃ seen, readMembers fields members [] start = .ok (seen, record) := by
  rw [readObject, bind_ok_iff] at reads
  obtain ⟨⟨seen, last⟩, members, rest⟩ := reads
  obtain ⟨_, -, made⟩ := bind_ok_iff.mp rest
  cases made
  exact ⟨seen, members⟩

theorem readItems_ok_iff (demands : ∀ field ∈ fields, field.Demands wrap (shapes field.name))
    (optional : ∀ field ∈ fields, field.presence = .optional) (items : List Json)
    (ordered : ∀ item ∈ items, item.IsOrdered) (size : String) (taken : Nat) (record : σ) :
    (∃ result, readItems size fields (items.map wrap) taken record = .ok result) ↔
      items.length ≤ fields.length ∧ ∀ pair ∈ fields.zip items, shapes pair.1.name pair.2 := by
  induction fields generalizing items taken record with
  | nil => cases items <;> simp [readItems]
  | cons field rest ih =>
    obtain ⟨demand, demands⟩ := List.forall_mem_cons.mp demands
    obtain ⟨first, others⟩ := List.forall_mem_cons.mp optional
    cases items with
    | nil =>
      have rests := ih demands others [] (by simp) (taken + 1) record
      simpa [readItems, first] using rests
    | cons item items =>
      obtain ⟨order, orders⟩ := List.forall_mem_cons.mp ordered
      simp only [List.map_cons, readItems, bind_ok_iff, List.length_cons, Nat.add_le_add_iff_right,
        List.zip_cons_cons, List.forall_mem_cons, ← demand item order record]
      constructor
      · rintro ⟨result, next, set, rests⟩
        obtain ⟨few, each⟩ := (ih demands others items orders (taken + 1) next).mp ⟨result, rests⟩
        exact ⟨few, ⟨next, set⟩, each⟩
      · rintro ⟨few, ⟨next, set⟩, each⟩
        obtain ⟨result, rests⟩ := (ih demands others items orders (taken + 1) next).mpr ⟨few, each⟩
        exact ⟨result, next, set, rests⟩

variable (mirrors : Mirrors wrap)

include mirrors

theorem readMembers_cons (name : String) (value : Json) (rest : List (String × Json))
    (seen : List String) (record : σ) :
    readMembers fields (named wrap ((name, value) :: rest)) seen record =
      match fieldOf? fields name with
      | some field =>
        if field.name ∈ seen then .error (.duplicateField field.name)
        else field.set (wrap value) record >>= fun next =>
          readMembers fields (named wrap rest) (field.name :: seen) next
      | none => readMembers fields (named wrap rest) seen record := by
  have finds : fields.find? (Field.answersTo name) = fieldOf? fields name := rfl
  rw [named, List.map_cons, readMembers, finds]
  cases fieldOf? fields name <;> simp [named, mirrors.passable]

theorem readMembers_ok_iff (demands : ∀ field ∈ fields, field.Demands wrap (shapes field.name))
    (members : List (String × Json)) (ordered : ∀ member ∈ members, member.2.IsOrdered)
    (seen : List String) (record : σ) :
    (∃ result, readMembers fields (named wrap members) seen record = .ok result) ↔
      (∀ member ∈ members, Suits fields shapes member) ∧ (fieldNames fields members).Nodup ∧
        (fieldNames fields members).Disjoint seen := by
  induction members generalizing seen record with
  | nil => simp [named, readMembers, fieldNames]
  | cons member rest ih =>
    obtain ⟨name, value⟩ := member
    obtain ⟨order, orders⟩ := List.forall_mem_cons.mp ordered
    rw [readMembers_cons mirrors, fieldNames_cons, List.forall_mem_cons, Suits]
    cases found : fieldOf? fields name with
    | none => simp [ih orders]
    | some field =>
      have demand := demands field (fieldOf?_mem found) value order record
      by_cases known : field.name ∈ seen
      · simp [known, List.disjoint_cons_left]
      · have reads (next : σ) := ih orders (field.name :: seen) next
        simp only [List.disjoint_cons_right] at reads
        simp only [known, if_false, bind_ok_iff, Option.mem_some_iff, forall_eq', ← demand,
          Option.map_some, Option.toList_some, List.singleton_append, List.nodup_cons,
          List.disjoint_cons_left, not_false_eq_true, true_and]
        constructor
        · rintro ⟨result, next, set, rests⟩
          obtain ⟨suits, nodup, new, disjoint⟩ := (reads next).mp ⟨result, rests⟩
          exact ⟨⟨⟨next, set⟩, suits⟩, ⟨new, nodup⟩, disjoint⟩
        · rintro ⟨⟨⟨next, set⟩, suits⟩, ⟨new, nodup⟩, disjoint⟩
          obtain ⟨result, rests⟩ := (reads next).mpr ⟨suits, nodup, new, disjoint⟩
          exact ⟨result, next, set, rests⟩

theorem readObject_ok_iff (demands : ∀ field ∈ fields, field.Demands wrap (shapes field.name))
    (optional : ∀ field ∈ fields, field.presence = .optional) (members : List (String × Json))
    (ordered : ∀ member ∈ members, member.2.IsOrdered) (start : σ) :
    (∃ record, readObject fields (named wrap members) start = .ok record) ↔
      (∀ member ∈ members, Suits fields shapes member) ∧ (fieldNames fields members).Nodup := by
  have reads := readMembers_ok_iff mirrors demands members ordered [] start
  simp only [List.disjoint_nil_right, and_true] at reads
  rw [← reads]
  constructor
  · rintro ⟨record, reads⟩
    obtain ⟨seen, reads⟩ := readMembers_of_readObject reads
    exact ⟨_, reads⟩
  · rintro ⟨⟨seen, record⟩, reads⟩
    refine ⟨record, ?_⟩
    rw [readObject, reads]
    simp [bind, Except.bind, checkRequired_of_optional optional]

theorem readObject_plain_ok_iff
    (demands : ∀ field ∈ fields, field.Demands wrap (shapes field.name))
    (optional : ∀ field ∈ fields, field.presence = .optional)
    (plain : ∀ field ∈ fields, field.alias? = none) {members : List (String × Json)}
    (ordered : (Json.object members).IsOrdered) (start : σ) :
    (∃ record, readObject fields (named wrap members) start = .ok record) ↔
      ∀ member ∈ members, member.1 ∈ fields.map Field.name → shapes member.1 member.2 := by
  rw [readObject_ok_iff mirrors demands optional members (fun _ => ordered.member) start]
  simp only [fieldNames_nodup plain ordered.ascending, suits_iff_of_plain plain, and_true]

theorem read_demands (name : String)
    (demands : ∀ field ∈ fields, field.Demands wrap (shapes field.name))
    (optional : ∀ field ∈ fields, field.presence = .optional) (start : σ) :
    Decoder.Demands (read ⟨name, fields⟩ start) wrap (IsRecord fields shapes) := by
  intro json ordered
  rw [read, mirrors.view]
  cases json with
  | object members =>
    have ordered : ∀ member ∈ members, member.2.IsOrdered := fun _ => ordered.member
    have reads := readObject_ok_iff mirrors demands optional members ordered start
    simpa [Json.view, View.map, named, Function.comp_def, IsRecord] using reads
  | array items =>
    exact readItems_ok_iff demands optional items (fun _ => ordered.item) _ 0 start
  | _ => simp [Json.view, View.map, IsRecord]

theorem readMembers_filter (kind : String → Bool)
    (kinds : ∀ name, kind name = false → fieldOf? fields name = none)
    (members : List (String × Json)) (seen : List String) (record : σ) :
    readMembers fields (named wrap (members.filter fun member => kind member.1)) seen record =
      readMembers fields (named wrap members) seen record := by
  induction members generalizing seen record with
  | nil => rfl
  | cons member rest ih =>
    obtain ⟨name, value⟩ := member
    cases kept : kind name with
    | true => simp [readMembers_cons mirrors, kept, ih]
    | false => simp [readMembers_cons mirrors, kept, kinds name kept, ih]

theorem readMembers_append (before after : List (String × Json)) (seen : List String) (record : σ) :
    readMembers fields (named wrap (before ++ after)) seen record =
      readMembers fields (named wrap before) seen record >>= fun read =>
        readMembers fields (named wrap after) read.1 read.2 := by
  induction before generalizing seen record with
  | nil => rfl
  | cons member rest ih =>
    obtain ⟨name, value⟩ := member
    rw [List.cons_append, readMembers_cons mirrors, readMembers_cons mirrors]
    cases fieldOf? fields name with
    | none => exact ih seen record
    | some field =>
      by_cases known : field.name ∈ seen
      · simp only [known, if_true]
        rfl
      · simp [known, ih]

theorem readMembers_keeps (kept : σ → Prop) (members : List (String × Json))
    (keeps : ∀ member ∈ members, ∀ field ∈ fieldOf? fields member.1, ∀ record next,
      field.set (wrap member.2) record = .ok next → kept record → kept next)
    (seen : List String) (record : σ) (holds : kept record) (result : List String × σ)
    (reads : readMembers fields (named wrap members) seen record = .ok result) :
    kept result.2 := by
  induction members generalizing seen record with
  | nil =>
    cases reads
    exact holds
  | cons member rest ih =>
    obtain ⟨name, value⟩ := member
    obtain ⟨keep, keeps⟩ := List.forall_mem_cons.mp keeps
    rw [readMembers_cons mirrors] at reads
    cases found : fieldOf? fields name with
    | none =>
      rw [found] at reads
      exact ih keeps seen record holds reads
    | some field =>
      by_cases known : field.name ∈ seen
      · simp [found, known] at reads
      · simp only [found, known, if_false, bind_ok_iff] at reads
        obtain ⟨next, set, reads⟩ := reads
        exact ih keeps _ next (keep field found record next set holds) reads

theorem readMembers_puts (kept : σ → Prop) (name : String) (field : Field α σ)
    (found : fieldOf? fields name = some field) (value : Json)
    (puts : ∀ record next, field.set (wrap value) record = .ok next → kept next)
    (before after : List (String × Json))
    (keeps : ∀ member ∈ after, ∀ field ∈ fieldOf? fields member.1, ∀ record next,
      field.set (wrap member.2) record = .ok next → kept record → kept next)
    (seen : List String) (record : σ) (result : List String × σ)
    (reads : readMembers fields (named wrap (before ++ (name, value) :: after)) seen record =
      .ok result) : kept result.2 := by
  rw [readMembers_append mirrors] at reads
  obtain ⟨⟨seen, start⟩, -, reads⟩ := bind_ok_iff.mp reads
  rw [readMembers_cons mirrors, found] at reads
  by_cases known : field.name ∈ seen
  · simp [known] at reads
  · simp only [known, if_false, bind_ok_iff] at reads
    obtain ⟨next, set, reads⟩ := reads
    exact readMembers_keeps mirrors kept after keeps _ next (puts start next set) result reads

end Fields

end RecordShape

end FileSearch
