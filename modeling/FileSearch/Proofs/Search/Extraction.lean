import FileSearch.Search.Extract

set_option autoImplicit false

namespace FileSearch.Backend

variable {ℓ W : Type}

-- Reading a query gives these slots and leaves the index as it is.
structure Reads (backend : Backend ℓ W) (handle now : Nat) (world : W)
    (slots : List (Option RawRecord)) : Prop where
  count : backend.resultCount handle now world = (slots.length, world)
  slot : ∀ index, backend.resultAt handle index now world = (slots[index]?.join, world)

variable {backend : Backend ℓ W} {handle now : Nat} {world : W} {slots : List (Option RawRecord)}

theorem filterMap_range {α : Type} (items : List α) :
    ((List.range items.length).filterMap fun index => items[index]?) = items := by
  have slots : ((List.range items.length).map fun index => items[index]?) = items.map some := by
    apply List.ext_getElem <;> simp
  have whole := congrArg (List.filterMap id) slots
  simpa [List.filterMap_map, Function.comp_def] using whole

theorem readResults_along {clock : Nat → Nat} {shown : Nat → List (Option RawRecord)}
    (reads : ∀ index, backend.Reads handle (clock index) world (shown index))
    (index left limit : Nat) :
    backend.readResults handle clock index left limit world =
      (((List.range' index left).filterMap fun position =>
        (shown position)[position]?.join.bind RawRecord.result?).take limit, world) := by
  induction left generalizing index limit with
  | zero => simp [Backend.readResults]
  | succ left ih =>
    cases limit with
    | zero => simp [Backend.readResults]
    | succ limit =>
      rw [Backend.readResults, (reads index).slot, List.range'_succ]
      cases held : (shown index)[index]?.join.bind RawRecord.result? with
      | none => simp [held, ih]
      | some result => simp [held, ih]

theorem extractAlong_eq {clock : Nat → Nat} {shown : Nat → List (Option RawRecord)}
    (reads : ∀ index, backend.Reads handle (clock index) world (shown index)) (limit : Nat) :
    backend.extractAlong handle limit clock world =
      (((List.range (shown 0).length).filterMap fun position =>
        (shown (position + 1))[position]?.join.bind RawRecord.result?).take limit, world) := by
  rw [Backend.extractAlong, (reads 0).count, List.range_eq_range']
  exact readResults_along (fun index => reads (index + 1)) 0 _ limit

theorem Reads.extract (reads : backend.Reads handle now world slots) (limit : Nat) :
    backend.extract handle limit now world =
      ((slots.filterMap (·.bind RawRecord.result?)).take limit, world) := by
  have same : ((List.range slots.length).filterMap fun position =>
      slots[position]?.join.bind RawRecord.result?) =
        slots.filterMap (·.bind RawRecord.result?) := by
    have read := congrArg (List.filterMap (·.bind RawRecord.result?)) (filterMap_range slots)
    rw [List.filterMap_filterMap] at read
    rw [← read]
    congr 1
    funext position
    cases slots[position]? <;> rfl
  rw [Backend.extract, extractAlong_eq fun _ => reads, same]

end FileSearch.Backend
