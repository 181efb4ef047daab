import FileSearch.FlatSearch
import FileSearch.Proofs.Path.Distinct
import FileSearch.Proofs.Query.Extensions

set_option autoImplicit false

namespace FileSearch.FlatSearch

-- The kinds that the text of a search is taken for. The wish for file names only goes before the
-- kind that is named.
inductive Takes (search : FlatSearch) : TextKind → Prop where
  | namesOnly (only : search.filenameOnly? = some true) : Takes search .filename
  | named (kind : TextKind) (free : search.filenameOnly? ≠ some true)
      (given : search.kind? = some kind) : Takes search kind
  | unnamed (free : search.filenameOnly? ≠ some true) (none : search.kind? = none) :
      Takes search .all

-- The texts that extensions are taken from: those in the list, and the text of the search if
-- nothing is left of any of those.
def Gives (search : FlatSearch) (value : String) : Prop :=
  value ∈ search.extensions ∨
    value = search.query ∧ ∀ listed ∈ search.extensions, Filter.StripsTo listed ""

def Asks (search : FlatSearch) (extension : String) : Prop :=
  ∃ value, search.Gives value ∧ Filter.ComesTo value extension ∧ extension ≠ ""

def MeetsText (search : FlatSearch) (file : Attributes) : TextKind → Prop
  | .extension =>
    (¬ ∃ extension, search.Asks extension) ∨
      ∃ extension, search.Asks extension ∧ ∃ name ∈ file.text .fileName,
        (Text.lowercase ("." ++ extension)).toList <:+ (Text.lowercase name).toList
  | .contents =>
    search.query = "" ∨ file.containsText .textContent (Text.lowercase search.query) = true
  | .filename =>
    search.query = "" ∨ file.containsText .fileName (Text.lowercase search.query) = true
  | .all =>
    search.query = "" ∨ file.containsText .fileName (Text.lowercase search.query) = true ∨
      file.containsText .textContent (Text.lowercase search.query) = true

def MeetsDates (search : FlatSearch) (file : Attributes) : Prop :=
  ∀ range ∈ search.dateFilter?, range.earliest?.isSome ∨ range.latest?.isSome →
    Within range.earliest? range.latest? (file.time .modifiedAt)

variable (search : FlatSearch) (file : Attributes)

theorem takes_iff (kind : TextKind) : search.Takes kind ↔ search.effectiveKind = kind := by
  constructor
  · rintro (only | ⟨_, free, given⟩ | ⟨free, none⟩)
    · simp [effectiveKind, only]
    · simp [effectiveKind, free, given]
    · simp [effectiveKind, free, none]
  · rintro rfl
    by_cases only : search.filenameOnly? = some true
    · simpa [effectiveKind, only] using Takes.namesOnly only
    · cases named : search.kind? with
      | none => simpa [effectiveKind, only, named] using Takes.unnamed only named
      | some kind => simpa [effectiveKind, only, named] using Takes.named kind only named

theorem unlessEmpty_met_iff (text : String) (filter : Filter)
    (active : text ≠ "" → filter.IsActive) :
    (∀ part ∈ unlessEmpty text filter, part.IsActive → part.IsMet file) ↔
      text = "" ∨ filter.IsMet file := by
  by_cases empty : text = ""
  · simp [unlessEmpty, empty]
  · simp [unlessEmpty, empty, active empty]

theorem stored_eq_nil_iff (raw : List String) :
    Filter.stored raw = [] ↔ ∀ value ∈ raw, Filter.StripsTo value "" := by
  simp only [Filter.stripsTo_iff]
  constructor
  · intro none value given
    by_contra some
    obtain ⟨first, kept, -⟩ := Filter.exists_stored given some
    simp [none] at kept
  · intro gone
    refine List.eq_nil_iff_forall_not_mem.mpr fun extension kept => ?_
    obtain ⟨value, given, same, some⟩ := Filter.exists_value kept
    exact some (same ▸ gone value given)

theorem extensions_meet_iff (raw : List String)
    (given : ∀ value extension, Filter.ComesTo value extension → extension ≠ "" →
      (search.Gives value ↔ value ∈ raw)) :
    ((Filter.extensionsOf raw).IsActive → (Filter.extensionsOf raw).IsMet file) ↔
      search.MeetsText file .extension := by
  have asked (extension : String) : search.Asks extension ↔
      ∃ value ∈ raw, Filter.ComesTo value extension ∧ extension ≠ "" :=
    exists_congr fun value => and_congr_left fun comes => given value extension comes.1 comes.2
  have active := Filter.exists_listed_iff raw (fun _ => True) fun _ _ _ => id
  have met := Filter.exists_listed_iff raw (Filter.EndsIn file) fun _ _ =>
    Filter.endsIn_of_same file
  have active' : (Filter.extensionsOf raw).IsActive ↔ ∃ extension, search.Asks extension := by
    simp only [and_true] at active
    refine Iff.trans active ⟨?_, ?_⟩
    · rintro ⟨value, member, extension, comes, some⟩
      exact ⟨extension, (asked extension).mpr ⟨value, member, comes, some⟩⟩
    · rintro ⟨extension, asks⟩
      obtain ⟨value, member, comes, some⟩ := (asked extension).mp asks
      exact ⟨value, member, extension, comes, some⟩
  have met' : (Filter.extensionsOf raw).IsMet file ↔
      ∃ extension, search.Asks extension ∧ Filter.EndsIn file extension := by
    refine Iff.trans met ⟨?_, ?_⟩
    · rintro ⟨value, member, extension, comes, some, ends⟩
      exact ⟨extension, (asked extension).mpr ⟨value, member, comes, some⟩, ends⟩
    · rintro ⟨extension, asks, ends⟩
      obtain ⟨value, member, comes, some⟩ := (asked extension).mp asks
      exact ⟨value, member, extension, comes, some, ends⟩
  rw [active', met']
  exact imp_iff_not_or

theorem extensions_met_iff :
    (∀ filter ∈ (match Filter.addExtensions [] search.extensions with
        | [] => unlessEmpty search.query (.extensionsOf [search.query])
        | extensions => [.extensions extensions]), filter.IsActive → filter.IsMet file) ↔
      search.MeetsText file .extension := by
  have none_iff := stored_eq_nil_iff search.extensions
  rw [Filter.stored] at none_iff
  cases kept : Filter.addExtensions [] search.extensions with
  | nil =>
    -- Nothing in the list comes to an extension, so that the text alone gives one.
    have gone := none_iff.mp kept
    have given : ∀ value extension, Filter.ComesTo value extension → extension ≠ "" →
        (search.Gives value ↔ value ∈ [search.query]) := by
      intro value extension comes some
      have unlisted : value ∉ search.extensions := by
        intro listed
        rw [Filter.comesTo_iff, (Filter.stripsTo_iff _ _).mp (gone value listed)] at comes
        exact some (comes ▸ by decide)
      rw [Gives, or_iff_right unlisted, and_iff_left gone, List.mem_singleton]
    rw [← search.extensions_meet_iff file [search.query] given]
    by_cases empty : search.query = ""
    · have inert : ¬ (Filter.extensionsOf [""]).IsActive := by
        rw [← Filter.condition_isSome_iff]
        decide
      simp [unlessEmpty, empty, inert]
    · simp [unlessEmpty, empty]
  | cons first rest =>
    have some : ¬ ∀ value ∈ search.extensions, Filter.StripsTo value "" := by
      rw [← none_iff, kept]
      exact List.cons_ne_nil _ _
    have made : Filter.extensionsOf search.extensions = .extensions (first :: rest) :=
      congrArg Filter.extensions kept
    rw [← search.extensions_meet_iff file search.extensions fun value _ _ _ => by simp [Gives, some],
      made]
    simp

theorem text_met_iff :
    (∀ filter ∈ search.textFilters, filter.IsActive → filter.IsMet file) ↔
      search.MeetsText file search.effectiveKind := by
  rw [textFilters]
  cases search.effectiveKind with
  | extension => exact search.extensions_met_iff file
  | contents => exact unlessEmpty_met_iff file search.query (.content search.query) id
  | filename => exact unlessEmpty_met_iff file search.query (.fileName search.query) id
  | all => exact unlessEmpty_met_iff file search.query (.nameOrContent search.query) id

theorem dates_met_iff :
    (∀ filter ∈ (search.dateFilter?.map Filter.dateModified).toList,
        filter.IsActive → filter.IsMet file) ↔ search.MeetsDates file := by
  cases given : search.dateFilter? <;>
    simp [MeetsDates, given, Filter.IsActive, Filter.IsMet]

theorem met_iff :
    search.toQuery.IsMet file ↔
      search.MeetsText file search.effectiveKind ∧ search.MeetsDates file := by
  have places : ∀ filter ∈ (if search.onlyIn.isEmpty then [] else [Filter.paths search.onlyIn]),
      filter.IsActive → filter.IsMet file := by
    split <;> simp [Filter.IsActive]
  rw [← search.text_met_iff file, ← search.dates_met_iff file]
  simp only [Query.IsMet, toQuery, FilterGroup.IsMet, List.mem_singleton, exists_eq_left,
    List.cons_ne_nil, false_or, List.forall_mem_append]
  exact and_iff_left places

theorem unlessEmpty_namedPaths (text : String) (filter : Filter) (none : filter.namedPaths = []) :
    (unlessEmpty text filter).flatMap Filter.namedPaths = [] := by
  rw [unlessEmpty]
  split <;> simp [none]

theorem textFilters_namedPaths : search.textFilters.flatMap Filter.namedPaths = [] := by
  rw [textFilters]
  cases search.effectiveKind with
  | extension =>
    cases Filter.addExtensions [] search.extensions with
    | nil => exact unlessEmpty_namedPaths _ _ rfl
    | cons first rest => rfl
  | contents => exact unlessEmpty_namedPaths _ _ rfl
  | filename => exact unlessEmpty_namedPaths _ _ rfl
  | all => exact unlessEmpty_namedPaths _ _ rfl

theorem toQuery_namedPaths : search.toQuery.namedPaths = Path.distinct search.onlyIn := by
  have dates : (search.dateFilter?.map Filter.dateModified).toList.flatMap Filter.namedPaths = [] := by
    cases search.dateFilter? <;> rfl
  have places : (if search.onlyIn.isEmpty then [] else [Filter.paths search.onlyIn]).flatMap
      Filter.namedPaths = search.onlyIn := by
    cases search.onlyIn <;> simp [Filter.namedPaths]
  -- Repeats are dropped in the group, and none are left to be dropped in the query.
  simp only [Query.namedPaths, toQuery, FilterGroup.namedPaths, List.flatMap_singleton,
    List.flatMap_append, textFilters_namedPaths, dates, places, List.nil_append,
    Path.distinct_distinct]

/-- The condition that a flat search comes down to holds of exactly the files that meet its text and
its dates. The places to look in are those that it names, each where it is named first. -/
theorem flat_search_means :
    (search.toQuery.compile.predicate.holds file = true ↔
      (∃ kind, search.Takes kind ∧ search.MeetsText file kind) ∧ search.MeetsDates file) ∧
      search.toQuery.compile.scopes =
        if search.onlyIn = [] then [.indexedVolume]
        else (search.onlyIn.eraseDupsBy Path.sameAs).map .directory := by
  constructor
  · rw [Query.predicate_holds_iff, met_iff]
    simp [takes_iff]
  · rw [Query.compile, toQuery_namedPaths, ← Path.distinct_eq]
    have named := Path.distinct_eq_nil_iff search.onlyIn
    cases distinct : Path.distinct search.onlyIn with
    | nil => simp [named.mp distinct]
    | cons first rest =>
      have some : search.onlyIn ≠ [] := by
        rw [ne_eq, ← named, distinct]
        exact List.cons_ne_nil _ _
      simp [some]

theorem listed_extension_found :
    let search : FlatSearch :=
      { query := "doc", kind? := some .extension, extensions := [" ", " .Pdf "]
        onlyIn := [⟨"/a/b"⟩, ⟨"/a/./b"⟩, ⟨"/c"⟩] }
    search.toQuery.compile.predicate.holds (Attributes.ofText "Report.PDF") = true ∧
      search.toQuery.compile.predicate.holds (Attributes.ofText "Report.doc") = false ∧
      search.toQuery.compile.scopes = [.directory ⟨"/a/b"⟩, .directory ⟨"/c"⟩] := by
  intro search
  have pdf : Filter.StripsTo " .Pdf " "Pdf" := (Filter.stripsTo_iff _ _).mpr (by decide +kernel)
  have same : Filter.StripsTo "Pdf" "Pdf" := (Filter.stripsTo_iff _ _).mpr (by decide +kernel)
  have takes : search.Takes .extension := .named .extension (by decide) rfl
  have asks : search.Asks "Pdf" :=
    ⟨" .Pdf ", .inl (by simp [search]), ⟨"Pdf", pdf, same⟩, by decide⟩
  have dates (file : Attributes) : search.MeetsDates file := by
    simp [MeetsDates, search]
  refine ⟨?_, ?_, ?_⟩
  · refine (flat_search_means search _).1.mpr ⟨⟨_, takes, .inr ⟨"Pdf", asks, _, rfl, ?_⟩⟩, dates _⟩
    decide +kernel
  · refine Bool.eq_false_iff.mpr fun holds => ?_
    obtain ⟨⟨kind, taken, meets⟩, -⟩ := (flat_search_means search _).1.mp holds
    obtain rfl : kind = .extension := ((takes_iff search kind).mp taken).symm
    rcases meets with none | ⟨extension, ⟨value, given, comes, some⟩, name, read, ends⟩
    · exact none ⟨_, asks⟩
    · obtain rfl : "Report.doc" = name := Option.mem_some.mp read
      rw [Filter.comesTo_iff] at comes
      have pdf' := (Filter.stripsTo_iff _ _).mp pdf
      rcases given with listed | ⟨-, gone⟩
      · rcases List.mem_pair.mp listed with rfl | rfl
        · exact some (comes ▸ by decide +kernel)
        · rw [pdf', (Filter.stripsTo_iff _ _).mp same] at comes
          subst comes
          revert ends
          decide +kernel
      · have none := (Filter.stripsTo_iff _ _).mp (gone " .Pdf " (by simp [search]))
        exact absurd (pdf'.symm.trans none) (by decide)
  · rw [(flat_search_means search (Attributes.ofText "")).2]
    decide +kernel

end FileSearch.FlatSearch
