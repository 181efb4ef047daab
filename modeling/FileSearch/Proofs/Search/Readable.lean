import FileSearch.Index.Rehearsal
import FileSearch.Search.Extract
import Mathlib.Data.List.Forall2
import Mathlib.Data.List.ReduceOption

set_option autoImplicit false

namespace FileSearch

-- Whether a value is of the type that results show of an attribute.
def Attribute.takes : Attribute → AttributeValue → Bool
  | .path, .text _ | .fileName, .text _ | .kind, .text _ => true
  | .size, .bytes _ => true
  | .createdAt, .time _ | .modifiedAt, .time _ => true
  | _, _ => false

-- What a result shows in place of an attribute that its record lacks.
def Attribute.substitute? (path : Path) : Attribute → Option AttributeValue
  | .fileName => some (.text (path.fileName?.getD ""))
  | _ => none

def ResultRecord.value? (result : ResultRecord) : Attribute → Option AttributeValue
  | .path => some (.text result.path.text)
  | .fileName => some (.text result.name)
  | .kind => result.kind?.map .text
  | .size => result.size?.map .bytes
  | .createdAt => result.createdAt?.map .time
  | .modifiedAt => result.modifiedAt?.map .time
  | .displayName | .textContent => none

theorem ResultRecord.eq_of_value? {left right : ResultRecord}
    (same : ∀ attr, left.value? attr = right.value? attr) : left = right := by
  have path := same .path
  have name := same .fileName
  have kind := same .kind
  have size := same .size
  have created := same .createdAt
  have modified := same .modifiedAt
  obtain ⟨⟨path₁⟩, name₁, kind₁, size₁, created₁, modified₁⟩ := left
  obtain ⟨⟨path₂⟩, name₂, kind₂, size₂, created₂, modified₂⟩ := right
  have texts : Function.Injective AttributeValue.text := fun _ _ => AttributeValue.text.inj
  have bytes : Function.Injective AttributeValue.bytes := fun _ _ => AttributeValue.bytes.inj
  have times : Function.Injective AttributeValue.time := fun _ _ => AttributeValue.time.inj
  simp only [value?, Option.some.injEq, AttributeValue.text.injEq] at path name
  simp only [value?] at kind size created modified
  rw [path, name, Option.map_injective texts kind, Option.map_injective bytes size,
    Option.map_injective times created, Option.map_injective times modified]

namespace RawRecord

def hasPath (record : RawRecord) : Bool :=
  (record.get? .path).any (Attribute.takes .path)

-- The result shows what the record has of each attribute in the right type, and the name of the
-- path in place of one of its own.
structure StandsFor (record : RawRecord) (result : ResultRecord) : Prop where
  located : record.get? .path = some (.text result.path.text)
  shows : ∀ attr, result.value? attr =
    ((record.get? attr).filter attr.takes).or (attr.substitute? result.path)

section

variable {record other : RawRecord} {result : ResultRecord}

theorem text_eq {attr : Attribute} (typed : attr ∈ [Attribute.path, .fileName, .kind]) :
    (record.text attr).map .text = (record.get? attr).filter attr.takes := by
  simp only [List.mem_cons, List.not_mem_nil, or_false] at typed
  rcases held : record.get? attr with _ | (value | value | value) <;>
    rcases typed with rfl | rfl | rfl <;> simp [text, held, Option.filter, Attribute.takes]

theorem bytes_eq :
    (record.bytes .size).map .bytes = (record.get? .size).filter (Attribute.takes .size) := by
  rcases held : record.get? .size with _ | (value | value | value) <;>
    simp [bytes, held, Option.filter, Attribute.takes]

theorem time_eq {attr : Attribute} (typed : attr ∈ [Attribute.createdAt, .modifiedAt]) :
    (record.time attr).map .time = (record.get? attr).filter attr.takes := by
  simp only [List.mem_cons, List.not_mem_nil, or_false] at typed
  rcases held : record.get? attr with _ | (value | value | value) <;>
    rcases typed with rfl | rfl <;> simp [time, held, Option.filter, Attribute.takes]

theorem text_path_iff {path : String} :
    record.text .path = some path ↔ record.get? .path = some (.text path) := by
  rcases held : record.get? .path with _ | (value | value | value) <;> simp [text, held]

theorem standsFor_of_result? (made : record.result? = some result) : record.StandsFor result := by
  obtain ⟨path, located, rfl⟩ := Option.map_eq_some_iff.mp made
  refine ⟨text_path_iff.mp located, fun attr => ?_⟩
  cases attr with
  | path =>
    rw [← text_eq (by simp), located]
    rfl
  | fileName =>
    rw [← text_eq (by simp)]
    cases record.text .fileName <;> simp [ResultRecord.value?, Attribute.substitute?]
  | kind => simp [ResultRecord.value?, Attribute.substitute?, text_eq]
  | size => simp [ResultRecord.value?, Attribute.substitute?, bytes_eq]
  | createdAt | modifiedAt => simp [ResultRecord.value?, Attribute.substitute?, time_eq]
  | displayName | textContent =>
    rcases record.get? _ with _ | (value | value | value) <;> rfl

theorem StandsFor.path_eq {result' : ResultRecord} (stands : record.StandsFor result)
    (stands' : other.StandsFor result') (path : other.get? .path = record.get? .path) :
    result'.path = result.path := by
  have texts := stands'.located.symm.trans (path.trans stands.located)
  exact congrArg Path.mk (by simpa using texts)

theorem standsFor_unique : Relator.RightUnique StandsFor := by
  intro record made result stands stands'
  -- Both have the path of the record, so they show the same name where it has none of its own.
  have path : result.path = made.path := stands.path_eq stands' rfl
  refine ResultRecord.eq_of_value? fun attr => ?_
  rw [stands.shows, stands'.shows, path]

theorem isSome_result? (record : RawRecord) : record.result?.isSome = record.hasPath := by
  rcases held : record.get? .path with _ | (value | value | value) <;>
    simp [result?, text, hasPath, held, Attribute.takes]

theorem exists_result?_of_path (made : record.result? = some result)
    (path : other.get? .path = record.get? .path) :
    ∃ result', other.result? = some result' ∧
      ∀ attr : Attribute,
        (other.get? attr).filter attr.takes = (record.get? attr).filter attr.takes →
          result'.value? attr = result.value? attr := by
  have stands := standsFor_of_result? made
  have kept : other.result?.isSome := by
    rw [isSome_result?, hasPath, path, ← hasPath, ← isSome_result?, made]
    rfl
  obtain ⟨result', made'⟩ := Option.isSome_iff_exists.mp kept
  have stands' := standsFor_of_result? made'
  have paths : result'.path = result.path := stands.path_eq stands' path
  refine ⟨result', made', fun attr same => ?_⟩
  rw [stands.shows, stands'.shows, same, paths]

theorem forall₂_standsFor (records : List RawRecord) :
    List.Forall₂ StandsFor (records.filter hasPath) (records.filterMap result?) := by
  induction records with
  | nil => exact .nil
  | cons record rest ih =>
    have kept := isSome_result? record
    cases made : record.result? with
    | none => simpa [made, show record.hasPath = false by rw [← kept, made]; rfl] using ih
    | some result =>
      rw [List.filter_cons_of_pos (by rw [← kept, made]; rfl), List.filterMap_cons_some made]
      exact .cons (standsFor_of_result? made) ih

end

end RawRecord

namespace Backend

variable {ℓ W : Type} (backend : Backend ℓ W) (handle : Nat)

-- What the slots of a query show that are read one after the other, each when the clock has come to
-- its index.
def slotsFrom (clock : Nat → Nat) : (index left : Nat) → W → List (Option RawRecord)
  | _, 0, _ => []
  | index, left + 1, world =>
    let (record?, world) := backend.resultAt handle index (clock index) world
    record? :: slotsFrom clock (index + 1) left world

-- All slots of a query, as they show while time goes on.
def slotsAlong (clock : Nat → Nat) (world : W) : List (Option RawRecord) :=
  let (count, world) := backend.resultCount handle (clock 0) world
  backend.slotsFrom handle (fun index => clock (index + 1)) 0 count world

theorem readResults_slots (clock : Nat → Nat) (index left limit : Nat) (world : W) :
    (backend.readResults handle clock index left limit world).1 =
      ((backend.slotsFrom handle clock index left world).reduceOption.filterMap
        RawRecord.result?).take limit := by
  induction left generalizing index limit world with
  | zero => simp [readResults, slotsFrom]
  | succ left ih =>
    cases limit with
    | zero => simp [readResults]
    | succ limit =>
      rcases read : backend.resultAt handle index (clock index) world with ⟨slot, next⟩
      rw [readResults, slotsFrom, read]
      cases slot with
      | none => simp [ih]
      | some record => cases made : record.result? <;> simp [made, ih]

-- The slots behind the last result are not read, which makes no difference to what is capped.
theorem extractAlong_slots (limit : Nat) (clock : Nat → Nat) (world : W) :
    (backend.extractAlong handle limit clock world).1 =
      cap ((backend.slotsAlong handle clock world).reduceOption.filterMap RawRecord.result?) limit :=
  backend.readResults_slots handle _ 0 _ limit _

variable {backend handle}

/-- The results are those of the first records that have a path, as many as the limit allows. Fewer
of them begin more of them, and nothing but a path decides whether a record becomes a result. -/
theorem extraction_caps_readable {clock : Nat → Nat} {world : W} {slots : List (Option RawRecord)}
    (reported : backend.slotsAlong handle clock world = slots) :
    (∀ limit results, (backend.extractAlong handle limit clock world).1 = results ↔
        List.Forall₂ RawRecord.StandsFor
          ((slots.reduceOption.filter RawRecord.hasPath).take limit) results) ∧
      (∀ fewer limit, fewer ≤ limit →
        (backend.extractAlong handle fewer clock world).1 <+:
          (backend.extractAlong handle limit clock world).1) ∧
      ∀ (record other : RawRecord) (result : ResultRecord), record.result? = some result →
        other.get? .path = record.get? .path →
        ∃ result', other.result? = some result' ∧
          ∀ attr : Attribute,
            (other.get? attr).filter attr.takes = (record.get? attr).filter attr.takes →
              result'.value? attr = result.value? attr := by
  refine ⟨fun limit results => ?_, fun fewer limit less => ?_, ?_⟩
  · have stands := List.forall₂_take limit (RawRecord.forall₂_standsFor slots.reduceOption)
    rw [backend.extractAlong_slots, reported, cap]
    constructor
    · rintro rfl
      exact stands
    · exact List.right_unique_forall₂' RawRecord.standsFor_unique stands
  · rw [backend.extractAlong_slots, backend.extractAlong_slots]
    exact List.take_prefix_take_left less
  · intro record other result made path
    exact RawRecord.exists_result?_of_path made path

end Backend

namespace Rehearsal

variable {ℓ : Type} (handle : Nat) (clock : Nat → Nat)

theorem slotsFrom_eq (index left : Nat) (world : Rehearsal ℓ) :
    (backend ℓ).slotsFrom handle clock index left world =
      (List.range' index left).map fun position => world.records[position]?.join := by
  induction left generalizing index world with
  | zero => rfl
  | succ left ih =>
    have next := ih (index + 1) (world.note (.resultAt index))
    rw [List.range'_succ, List.map_cons]
    exact congrArg (world.records[index]?.join :: ·) next

theorem slotsAlong_eq (world : Rehearsal ℓ) (whole : world.count = world.records.length) :
    (backend ℓ).slotsAlong handle clock world = world.records := by
  have read : (backend ℓ).slotsAlong handle clock world = _ :=
    slotsFrom_eq handle (fun index => clock (index + 1)) 0 world.count (world.note .resultCount)
  rw [read]
  apply List.ext_getElem
  · simp [whole]
  · intro place inside inside'
    simp [note, inside']

end Rehearsal

-- A record of a file without a path is passed over, and one whose size is a text is not.
theorem orphan_passed_over :
    let orphan := RawRecord.empty.set .fileName (.text "orphan")
    let sized := (RawRecord.empty.set .path (.text "/d/a")).set .size (.text "large")
    let slots := [none, some orphan, some sized, none, some (sized.set .path (.text "/d/b"))]
    let index : Rehearsal Nat := { script := .never, records := slots, count := 5 }
    let results := fun limit => ((Rehearsal.backend Nat).extractAlong 0 limit (fun _ => 0) index).1
    (Rehearsal.backend Nat).slotsAlong 0 (fun _ => 0) index = slots ∧
      List.Forall₂ RawRecord.StandsFor [sized] (results 1) ∧ results 1 <+: results 2 := by
  intro orphan sized slots index results
  have reported : (Rehearsal.backend Nat).slotsAlong 0 (fun _ => 0) index = slots :=
    Rehearsal.slotsAlong_eq 0 (fun _ => 0) index rfl
  obtain ⟨firsts, longer, -⟩ := Backend.extraction_caps_readable reported
  exact ⟨reported, (firsts 1 _).mp rfl, longer 1 2 (by decide)⟩

end FileSearch
