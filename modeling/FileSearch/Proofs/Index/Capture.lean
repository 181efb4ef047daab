import FileSearch.Proofs.Index.Memory
import FileSearch.Proofs.Predicate.Tested

set_option autoImplicit false

namespace FileSearch

-- The size reads as a number, the dates as moments and all else as texts, and a text is looked for
-- in what is read. Only the text content may be searched in another way.
structure Attributes.IsTyped (file : Attributes) : Prop where
  text : ∀ attr ∈ [Attribute.size, .createdAt, .modifiedAt], file.text attr = none
  bytes : ∀ attr, attr ≠ .size → file.bytes attr = none
  time : ∀ attr, attr ∉ [Attribute.createdAt, .modifiedAt] → file.time attr = none
  searched : ∀ attr, attr ≠ .textContent → ∀ needle,
    file.containsText attr needle =
      match file.text attr with
      | some value => Text.contains (Text.lowercase value) needle
      | none => false

theorem MemoryEntry.attributes_isTyped (entry : MemoryEntry) : entry.attributes.IsTyped where
  text attr listed := by
    simp only [List.mem_cons, List.not_mem_nil, or_false] at listed
    rcases listed with rfl | rfl | rfl <;> rfl
  bytes attr other := by
    cases attr with
    | size => exact absurd rfl other
    | _ => rfl
  time attr other := by
    cases attr with
    | createdAt | modifiedAt => simp at other
    | _ => rfl
  searched _ _ _ := rfl

namespace RawRecord

section

variable {record : RawRecord} {attr : Attribute}

theorem reads_text {value? : Option String} (held : record.get? attr = value?.map .text) :
    record.text attr = value? ∧ record.bytes attr = none ∧ record.time attr = none := by
  cases value? <;> simp [text, bytes, time, held]

theorem reads_bytes {value? : Option UInt64} (held : record.get? attr = value?.map .bytes) :
    record.text attr = none ∧ record.bytes attr = value? ∧ record.time attr = none := by
  cases value? <;> simp [text, bytes, time, held]

theorem reads_time {value? : Option Instant} (held : record.get? attr = value?.map .time) :
    record.text attr = none ∧ record.bytes attr = none ∧ record.time attr = value? := by
  cases value? <;> simp [text, bytes, time, held]

end

theorem capture_reads {file : Attributes} (typed : file.IsTyped) (attr : Attribute)
    (kept : attr ≠ .textContent) :
    (capture file).text attr = file.text attr ∧ (capture file).bytes attr = file.bytes attr ∧
      (capture file).time attr = file.time attr := by
  have text := typed.text attr
  have bytes := typed.bytes attr
  have time := typed.time attr
  cases attr with
  | textContent => exact absurd rfl kept
  | size =>
    rw [text (by decide), time (by decide)]
    exact reads_bytes rfl
  | createdAt | modifiedAt =>
    rw [text (by decide), bytes (by decide)]
    exact reads_time rfl
  | _ =>
    rw [bytes (by decide), time (by decide)]
    exact reads_text rfl

theorem capture_agrees {file : Attributes} (typed : file.IsTyped) :
    (capture file).attributes.AgreeBeside .textContent file where
  text attr kept := (capture_reads typed attr kept).1
  bytes attr kept := (capture_reads typed attr kept).2.1
  time attr kept := (capture_reads typed attr kept).2.2
  containsText attr kept needle := by
    rw [typed.searched attr kept needle, ← (capture_reads typed attr kept).1]
    rfl

end RawRecord

namespace Order

variable {order : Order} {attr : Attribute} {left left' right right' : Attributes}

theorem compareKeys_congr (early : left.AgreeBeside attr left')
    (late : right.AgreeBeside attr right') (beside : order.attr ≠ attr) :
    order.compareKeys left right = order.compareKeys left' right' := by
  obtain ⟨first, ascending⟩ := order
  change first ≠ attr at beside
  cases first with
  | size => simp only [compareKeys, early.bytes _ beside, late.bytes _ beside]
  | createdAt | modifiedAt => simp only [compareKeys, early.time _ beside, late.time _ beside]
  | _ => simp only [compareKeys, early.text _ beside, late.text _ beside]

theorem compare_congr (early : left.AgreeBeside attr left')
    (late : right.AgreeBeside attr right') (beside : order.attr ≠ attr) (apart : .path ≠ attr) :
    order.compare left right = order.compare left' right' := by
  rw [compare, compare, compareKeys_congr early late beside, early.text .path apart,
    late.text .path apart]

end Order

namespace MemoryEntry

open RawRecord (capture)

/-- Orders and conditions that do not ask for the text content take the copy of an entry for the
entry, and the copy always becomes a result, with all that the entry says of its file. -/
theorem capture_serves_searches :
    (∀ order : Order, order.attr ≠ .textContent → ∀ left right : MemoryEntry,
      order.compare (capture left.attributes).attributes (capture right.attributes).attributes =
        order.compare left.attributes right.attributes) ∧
      (∀ predicate : Predicate, predicate.Avoids .textContent → ∀ entry : MemoryEntry,
        predicate.holds (capture entry.attributes).attributes =
          predicate.holds entry.attributes) ∧
      ∀ entry : MemoryEntry, (capture entry.attributes).result? =
        some
          { path := entry.path
            name := entry.path.fileName?.getD ""
            kind? := entry.kind?
            size? := entry.size?
            createdAt? := entry.createdAt?
            modifiedAt? := entry.modifiedAt? } := by
  have agrees (entry : MemoryEntry) := RawRecord.capture_agrees entry.attributes_isTyped
  refine ⟨?_, ?_, capture_result⟩
  · intro order beside left right
    exact Order.compare_congr (agrees left) (agrees right) beside (by decide)
  · intro predicate avoids entry
    exact Predicate.holds_congr (agrees entry) predicate avoids

theorem copy_of_sized_entry_serves :
    let large : MemoryEntry := { path := ⟨"/d/B"⟩, size? := some 5, content? := some "x" }
    let unknown : MemoryEntry := { path := ⟨"/d/a"⟩, content? := some "y" }
    let order : Order := ⟨.size, false⟩
    let predicate : Predicate := .or [.endsWith .path ".txt", .and [.atLeast .size (.bytes 3)]]
    order.compare (capture large.attributes).attributes (capture unknown.attributes).attributes =
        order.compare large.attributes unknown.attributes ∧
      predicate.holds (capture large.attributes).attributes = predicate.holds large.attributes := by
  intro large unknown order predicate
  have ending : Predicate.Avoids (.endsWith .path ".txt") .textContent :=
    Predicate.avoids_test rfl (by decide)
  have size : Predicate.Avoids (.atLeast .size (.bytes 3)) .textContent :=
    Predicate.avoids_test rfl (by decide)
  have avoids : predicate.Avoids .textContent :=
    Predicate.avoids_or (by simpa using ⟨ending, Predicate.avoids_and (by simpa using size)⟩)
  obtain ⟨orders, conditions, -⟩ := capture_serves_searches
  exact ⟨orders order (by decide) large unknown, conditions predicate avoids large⟩

end MemoryEntry

end FileSearch
