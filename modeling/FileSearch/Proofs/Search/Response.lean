import FileSearch.Proofs.Json.Declared
import FileSearch.Proofs.Json.Rendering
import FileSearch.Proofs.Outcome
import FileSearch.Proofs.Time.Reading
import FileSearch.Results

set_option autoImplicit false

namespace FileSearch

namespace Decoder

theorem each_map {α β γ : Type} {decoder : Decoder α γ} {write : β → α} {means : β → γ}
    (back : ∀ value, decoder (write value) = .ok (means value)) (values : List β) :
    each decoder (values.map write) = .ok (values.map means) := by
  induction values with
  | nil => rfl
  | cons value rest ih => simp [each, back, ih, bind, Except.bind]

theorem natural_word (width : String) (n : UInt64) :
    natural width (Draft.number (.integer n.toNat)) = .ok n.toNat := by
  have fits : (0 : Int) ≤ n.toNat ∧ (n.toNat : Int) < JsonNumber.integerEnd :=
    ⟨Int.natCast_nonneg _, Int.ofNat_lt.mpr n.toNat_lt⟩
  simp [natural, Readable.view, fits]

theorem moment_string {text : String} {moment : Instant} (read : Instant.read text = .ok moment) :
    Decoder.moment (Draft.string text) = .ok moment := by
  rw [Decoder.moment, Decoder.text]
  simp only [Readable.view, bind, Except.bind, read]

end Decoder

namespace ResultRecord

theorem option_optional {β γ : Type} (decoder : Decoder Draft γ) (write : β → Draft) (means : β → γ)
    (present : ∀ value, Readable.view (write value) ≠ .null)
    (back : ∀ value, decoder (write value) = .ok (means value)) (value? : Option β) :
    Decoder.option decoder (optional write value?) = .ok (value?.map means) := by
  cases value? with
  | none => rfl
  | some value =>
    -- A value that is there must not be written as null, or it would be read as absent.
    rw [Decoder.option, optional]
    split
    next null => exact absurd null (present value)
    next =>
      rw [back]
      rfl

theorem optional_isPlain {β : Type} {write : β → Draft} (plain : ∀ value, (write value).IsPlain)
    (value? : Option β) : (optional write value?).IsPlain := by
  cases value? with
  | none => exact .null
  | some value => exact plain value

-- A record with the moments that its text names.
def shown (record : ResultRecord) : ResultRecord :=
  { record with
    createdAt? := record.createdAt?.map Instant.shown
    modifiedAt? := record.modifiedAt?.map Instant.shown }

-- The leap seconds in a record end minutes.
def LeapsEndMinutes (record : ResultRecord) : Prop :=
  ∀ moment, record.createdAt? = some moment ∨ record.modifiedAt? = some moment → moment.EndsMinute

theorem map_shown_eq_iff (moment? : Option Instant) :
    moment?.map Instant.shown = moment? ↔ ∀ moment, moment? = some moment → moment.EndsMinute := by
  cases moment? <;> simp [Instant.shown_eq_iff]

theorem shown_eq_iff (record : ResultRecord) : record.shown = record ↔ record.LeapsEndMinutes := by
  have created := map_shown_eq_iff record.createdAt?
  have modified := map_shown_eq_iff record.modifiedAt?
  have parts : record.shown = record ↔
      record.createdAt?.map Instant.shown = record.createdAt? ∧
        record.modifiedAt?.map Instant.shown = record.modifiedAt? := by
    cases record
    simp [shown]
  rw [parts, created, modified, LeapsEndMinutes]
  simp only [or_imp, forall_and]

theorem decode_draft (record : ResultRecord) : decode record.draft = .ok record.shown := by
  let values : List Draft :=
    [.string record.path.text, .string record.name, optional .string record.kind?,
      optional (fun n => .number (.integer n.toNat)) record.size?,
      optional (fun moment => .string moment.text) record.createdAt?,
      optional (fun moment => .string moment.text) record.modifiedAt?]
  have view : Readable.view record.draft = .object (RecordShape.declared shape.fields values) := by
    simp only [draft, Readable.view, RecordShape.declared, shape, values, List.zipWith_cons_cons,
      List.zipWith_nil_left]
  have apart : RecordShape.Apart (shape (α := Draft)).fields := by
    simp [RecordShape.Apart, shape, Field.answersTo]
  have path : Path.decode (Draft.string record.path.text) = .ok record.path := rfl
  have name : Decoder.string (Draft.string record.name) = .ok record.name := rfl
  have kind := option_optional Decoder.string Draft.string id (by simp [Readable.view])
    (fun _ => rfl) record.kind?
  have size := option_optional (Decoder.natural "u64")
    (fun n : UInt64 => Draft.number (.integer n.toNat)) UInt64.toNat (by simp [Readable.view])
    (Decoder.natural_word "u64") record.size?
  have moment := option_optional Decoder.moment (fun moment : Instant => Draft.string moment.text)
    Instant.shown (by simp [Readable.view]) fun moment => Decoder.moment_string moment.read_text
  rw [decode, RecordShape.read_declared shape record.draft values _ view apart rfl]
  simp [values, shape, RecordShape.readItems, path, name, kind, size, moment, bind, Except.bind,
    Function.comp_def, shown]

theorem draft_isPlain (record : ResultRecord) : record.draft.IsPlain := by
  have size (n : UInt64) : (Draft.number (.integer n.toNat)).IsPlain := by
    have small := n.toNat_lt
    have last : JsonNumber.integerEnd = 18446744073709551616 := rfl
    exact .integer _ ⟨by omega, by omega⟩
  refine .object _ (by simp) ?_
  simp only [List.forall_mem_cons]
  exact ⟨.string _, .string _, optional_isPlain .string _, optional_isPlain size _,
    optional_isPlain (fun _ => .string _) _, optional_isPlain (fun _ => .string _) _, by simp⟩

end ResultRecord

namespace SearchResults

def shown (results : SearchResults) : SearchResults :=
  { results with records := results.records.map ResultRecord.shown }

theorem shown_eq_iff (results : SearchResults) :
    results.shown = results ↔ ∀ record ∈ results.records, record.LeapsEndMinutes := by
  have parts : results.shown = results ↔
      results.records.map ResultRecord.shown = results.records.map id := by
    cases results
    simp [shown]
  rw [parts, List.map_inj_left]
  exact forall₂_congr fun record _ => record.shown_eq_iff

theorem decode_draft (results : SearchResults) : decode results.draft = .ok results.shown := by
  let values : List Draft := [.array (results.records.map ResultRecord.draft), .bool results.isPartial]
  have view : Readable.view results.draft = .object (RecordShape.declared shape.fields values) := by
    simp only [draft, Readable.view, RecordShape.declared, shape, values, List.zipWith_cons_cons,
      List.zipWith_nil_left]
  have apart : RecordShape.Apart (shape (α := Draft)).fields := by
    simp [RecordShape.Apart, shape, Field.answersTo]
  have records : Decoder.list ResultRecord.decode
      (Draft.array (results.records.map ResultRecord.draft)) = .ok results.shown.records :=
    Decoder.each_map ResultRecord.decode_draft results.records
  have isPartial : Decoder.bool (Draft.bool results.isPartial) = .ok results.isPartial := rfl
  rw [decode, RecordShape.read_declared shape results.draft values _ view apart rfl]
  simp [values, shape, RecordShape.readItems, records, isPartial, bind, Except.bind, shown]

theorem draft_isPlain (results : SearchResults) : results.draft.IsPlain := by
  refine .object _ (by simp) ?_
  simp only [List.forall_mem_cons]
  refine ⟨.array _ ?_, .bool _, by simp⟩
  intro draft member
  obtain ⟨record, -, rfl⟩ := List.mem_map.mp member
  exact record.draft_isPlain

theorem ofText_render_shown (results : SearchResults) :
    ofText results.render = .ok results.shown := by
  rw [ofText, render, Draft.decodeWhole_render decode _ results.draft_isPlain, results.decode_draft,
    Outcome.mapError_ok]

/-- The text of the results of a search is read as the same results, but that it does not tell a
leap second within a minute from the second behind it. -/
theorem ofText_render (results : SearchResults) :
    ofText results.render = .ok results.shown ∧
      (ofText results.render = .ok results ↔
        ∀ record ∈ results.records, record.LeapsEndMinutes) := by
  refine ⟨results.ofText_render_shown, ?_⟩
  rw [ofText_render_shown, Except.ok.injEq, shown_eq_iff]

theorem leap_within_minute_not_read_back :
    let moment : Instant := ⟨0, 1500000000, by decide⟩
    let later : Instant := ⟨1, 500000000, by decide⟩
    let found (moment : Instant) : SearchResults :=
      ⟨[{ path := ⟨"/d/a"⟩, name := "a", modifiedAt? := some moment }], false⟩
    moment.text = "1970-01-01T00:00:01.500Z" ∧
      ofText (found moment).render = .ok (found later) ∧
      ofText (found moment).render ≠ .ok (found moment) := by
  intro moment later found
  have shown : (found moment).shown = found later := by decide
  have other : found later ≠ found moment := by decide
  have read := (found moment).ofText_render_shown
  rw [shown] at read
  exact ⟨by decide, read, by simpa [read] using other⟩

end SearchResults

end FileSearch
