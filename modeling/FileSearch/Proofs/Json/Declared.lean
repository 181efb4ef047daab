import FileSearch.Json.Record

set_option autoImplicit false

namespace FileSearch

namespace RecordShape

variable {α σ : Type}

-- No field answers to the name of one behind it.
def Apart (fields : List (Field α σ)) : Prop :=
  fields.Pairwise fun early late => early.answersTo late.name = false

def declared (fields : List (Field α σ)) (values : List α) : List (Option String × α) :=
  fields.zipWith (fun field value => (some field.name, value)) values

theorem checkRequired_of_seen {fields : List (Field α σ)} {seen : List String}
    (all : ∀ field ∈ fields, field.name ∈ seen) : checkRequired seen fields = .ok () := by
  induction fields with
  | nil => rfl
  | cons field rest ih =>
    obtain ⟨first, others⟩ := List.forall_mem_cons.mp all
    simp [checkRequired, first, ih others]

variable [Readable α]

theorem readMembers_declared (size : String) (before rest : List (Field α σ)) (values : List α)
    (apart : Apart (before ++ rest)) (same : values.length = rest.length) (taken : Nat) (record : σ) :
    readMembers (before ++ rest) (declared rest values) (before.map Field.name).reverse record =
      (readItems size rest values taken record).map fun made =>
        (((before ++ rest).map Field.name).reverse, made) := by
  induction rest generalizing before values taken record with
  | nil =>
    obtain rfl : values = [] := List.eq_nil_of_length_eq_zero same
    simp [declared, readMembers, readItems, Except.map]
  | cons field rest ih =>
    obtain ⟨value, values, rfl⟩ := List.exists_cons_of_length_eq_add_one same
    -- The fields that were read stand in front, and none of them answers to this name.
    have others : ∀ early ∈ before, early.answersTo field.name = false := fun early member =>
      (List.pairwise_append.mp apart).2.2 early member field List.mem_cons_self
    have found : (before ++ field :: rest).find? (Field.answersTo field.name) = some field := by
      rw [List.find?_append, List.find?_eq_none.mpr (by simpa using others)]
      simp [Field.answersTo]
    have unseen : (before.map Field.name).reverse.contains field.name = false := by
      simp only [List.contains_eq_mem, List.mem_reverse, List.mem_map, decide_eq_false_iff_not]
      rintro ⟨early, member, same⟩
      simpa [Field.answersTo, same] using others early member
    have moved : before ++ field :: rest = (before ++ [field]) ++ rest := by simp
    rw [declared, List.zipWith_cons_cons, readMembers, found, readItems]
    simp only [unseen, Bool.false_eq_true, if_false]
    cases field.set value record with
    | error cause => rfl
    | ok next =>
      have later := ih (before ++ [field]) values (moved ▸ apart) (by simpa using same) (taken + 1) next
      rw [← moved, List.map_append, List.reverse_append] at later
      exact later

theorem readObject_declared (size : String) (fields : List (Field α σ)) (values : List α)
    (apart : Apart fields) (same : values.length = fields.length) (start : σ) :
    readObject fields (declared fields values) start = readItems size fields values 0 start := by
  have read := readMembers_declared size [] fields values apart same 0 start
  rw [List.nil_append, List.map_nil, List.reverse_nil] at read
  rw [readObject, read]
  cases readItems size fields values 0 start with
  | error cause => rfl
  | ok made =>
    have required : checkRequired (fields.map Field.name).reverse fields = .ok () :=
      checkRequired_of_seen fun field member => by
        simpa using ⟨field, member, rfl⟩
    simp only [Except.map, bind, Except.bind, required]

theorem read_declared (shape : RecordShape α σ) (source : α) (values : List α) (start : σ)
    (view : Readable.view source = .object (declared shape.fields values))
    (apart : Apart shape.fields) (same : values.length = shape.fields.length) :
    shape.read start source = readItems shape.sizeText shape.fields values 0 start := by
  rw [read, view]
  exact readObject_declared shape.sizeText shape.fields values apart same start

end RecordShape

end FileSearch
