import FileSearch.Proofs.Index.Memory
import FileSearch.Proofs.Path.Spelling

set_option autoImplicit false

namespace FileSearch.Query

open FileSearch.Path

-- All directories that the filters of a query name, in order and with repeats.
def mentioned (query : Query) : List Path :=
  query.groups.flatMap fun group => group.filters.flatMap fun filter => match filter with
    | .paths values => values
    | _ => []

-- A candidate lies in a directory that the query names, unless it names none.
def Covers (query : Query) (candidate : Path) : Prop :=
  query.mentioned = [] ∨ ∃ path ∈ query.mentioned, candidate.isWithin path = true

-- A directory is kept in the first of its spellings.
def Keeps (query : Query) (path : Path) : Prop :=
  path.IsFirst query.mentioned

variable (query : Query)

theorem mentioned_eq :
    query.mentioned = query.groups.flatMap fun group => group.filters.flatMap Filter.namedPaths := by
  have same : (fun filter : Filter => match filter with
      | .paths values => values
      | _ => []) = Filter.namedPaths := by
    funext filter
    cases filter <;> rfl
  rw [mentioned, same]

theorem mem_mentioned_iff (path : Path) :
    path ∈ query.mentioned ↔
      ∃ group ∈ query.groups, ∃ values, .paths values ∈ group.filters ∧ path ∈ values := by
  simp only [mentioned, List.mem_flatMap]
  refine exists_congr fun group => and_congr_right fun _ => ⟨?_, ?_⟩
  · rintro ⟨filter, member, named⟩
    cases filter with
    | paths values => exact ⟨values, member, named⟩
    | _ => cases named
  · rintro ⟨values, member, named⟩
    exact ⟨.paths values, member, named⟩

theorem namedPaths_eq : query.namedPaths = distinct query.mentioned := by
  rw [mentioned_eq]
  exact distinct_flatMap_distinct query.groups fun group => group.filters.flatMap Filter.namedPaths

theorem mem_namedPaths_iff (path : Path) : path ∈ query.namedPaths ↔ query.Keeps path := by
  rw [namedPaths_eq, mem_distinct_iff, Keeps]

theorem keeps_mentioned {path : Path} (kept : query.Keeps path) : path ∈ query.mentioned :=
  mem_of_mem_distinct ((mem_distinct_iff path _).mpr kept)

theorem keeps_same {path : Path} (mentions : path ∈ query.mentioned) :
    ∃ first, query.Keeps first ∧ path.sameAs first = true := by
  have among : path.isAmong (distinct query.mentioned) = true := by
    rw [distinct, isAmong_addNew]
    exact List.any_eq_true.mpr ⟨path, mentions, by simp [sameAs]⟩
  obtain ⟨first, kept, same⟩ := List.any_eq_true.mp among
  exact ⟨first, (mem_distinct_iff first _).mp kept, same⟩

theorem scopes_hold_iff (candidate : Path) :
    Scope.anyHolds query.compile.scopes candidate = true ↔
      query.mentioned = [] ∨ ∃ first, query.Keeps first ∧ candidate.isWithin first = true := by
  have none_iff : query.namedPaths = [] ↔ query.mentioned = [] := by
    rw [namedPaths_eq, distinct_eq_nil_iff]
  simp only [← none_iff, ← mem_namedPaths_iff, compile]
  cases query.namedPaths with
  | nil => simp [Scope.anyHolds]
  | cons first rest =>
    change Scope.anyHolds ((first :: rest).map .directory) candidate = true ↔ _
    rw [SearchConfig.anyHolds_directories]
    simp

theorem scopes_exact_iff :
    (∀ candidate, Scope.anyHolds query.compile.scopes candidate = true ↔ query.Covers candidate) ↔
      ∀ path ∈ query.mentioned, ∃ first, query.Keeps first ∧ path.isWithin first = true := by
  simp only [scopes_hold_iff, Covers]
  constructor
  · intro exact path mentions
    have some : query.mentioned ≠ [] := List.ne_nil_of_mem mentions
    have reached := (exact path).mpr (.inr ⟨path, mentions, isWithin_self path⟩)
    exact reached.resolve_left some
  · intro reached candidate
    refine or_congr_right ⟨?_, ?_⟩
    · rintro ⟨first, kept, within⟩
      exact ⟨first, query.keeps_mentioned kept, within⟩
    · rintro ⟨path, mentions, within⟩
      obtain ⟨first, kept, outer⟩ := reached path mentions
      exact ⟨first, kept, isWithin_trans candidate path first within outer⟩

theorem scopes_exact_of_plain (plain : ∀ path ∈ query.mentioned, path.IsPlain) (candidate : Path) :
    Scope.anyHolds query.compile.scopes candidate = true ↔ query.Covers candidate := by
  refine query.scopes_exact_iff.mpr ?_ candidate
  intro path mentions
  obtain ⟨first, kept, same⟩ := query.keeps_same mentions
  have text := normalChars_eq_of_sameAs (plain path mentions)
    (plain first (query.keeps_mentioned kept)) same
  exact ⟨first, kept, (isWithin_iff path first).mpr (.inr (.inl text))⟩

/-- A candidate is in scope if it lies in a directory that is kept. It comes to the same whether
repeats are dropped exactly if each directory lies in one that is kept, which is so if all of them
are spelled plainly. -/
theorem scopes_of_first_spellings :
    (∀ candidate, Scope.anyHolds query.compile.scopes candidate = true ↔
        query.mentioned = [] ∨ ∃ first, query.Keeps first ∧ candidate.isWithin first = true) ∧
      ((∀ candidate,
          Scope.anyHolds query.compile.scopes candidate = true ↔ query.Covers candidate) ↔
        ∀ path ∈ query.mentioned, ∃ first, query.Keeps first ∧ path.isWithin first = true) ∧
      ((∀ path ∈ query.mentioned, path.IsPlain) → ∀ candidate,
        Scope.anyHolds query.compile.scopes candidate = true ↔ query.Covers candidate) :=
  ⟨query.scopes_hold_iff, query.scopes_exact_iff, query.scopes_exact_of_plain⟩

def naming (paths : List Path) : Query :=
  ⟨[{ filters := [.paths paths] }]⟩

-- A slash at the end of the first spelling does no harm, a dot within it does.
theorem second_spelling_not_searched :
    (∀ candidate, Scope.anyHolds (naming [⟨"/a/b/"⟩, ⟨"/a/b"⟩]).compile.scopes candidate = true ↔
        (naming [⟨"/a/b/"⟩, ⟨"/a/b"⟩]).Covers candidate) ∧
      (naming [⟨"/a/./b"⟩, ⟨"/a/b"⟩]).Covers ⟨"/a/b/x"⟩ ∧
      Scope.anyHolds (naming [⟨"/a/./b"⟩, ⟨"/a/b"⟩]).compile.scopes ⟨"/a/b/x"⟩ = false := by
  refine ⟨(scopes_of_first_spellings _).2.2 ?_, .inr ⟨⟨"/a/b"⟩, ?_, rfl⟩, rfl⟩
  · have plain : Path.IsPlain ⟨"/a/b/"⟩ := ⟨rfl, by decide⟩
    have plain' : Path.IsPlain ⟨"/a/b"⟩ := ⟨rfl, by decide⟩
    simp [naming, mentioned, plain, plain']
  · simp [naming, mentioned]

section Canonical

-- Of the directories that a query mentions, the first spelling of each.
def firsts : List Path :=
  query.mentioned.eraseDupsBy sameAs

theorem firsts_eq : query.firsts = distinct query.mentioned :=
  (distinct_eq query.mentioned).symm

theorem scopes_eq :
    query.compile.scopes =
      if query.mentioned = [] then [.indexedVolume] else query.firsts.map .directory := by
  have none_iff := distinct_eq_nil_iff query.mentioned
  rw [firsts_eq, compile, namedPaths_eq]
  cases kept : distinct query.mentioned with
  | nil => simp [none_iff.mp kept]
  | cons first rest =>
    have some : query.mentioned ≠ [] := by
      intro none
      simp [none_iff.mpr none] at kept
    simp [some]

theorem usesDefaultScope_iff : query.compile.usesDefaultScope = true ↔ query.mentioned = [] := by
  rw [CompiledQuery.usesDefaultScope, decide_eq_true_eq, scopes_eq]
  by_cases none : query.mentioned = []
  next => simp [none]
  next =>
    -- However many directories are kept, none of them is the whole index.
    simp only [none, if_false, iff_false]
    cases query.firsts <;> simp

/-- A query looks everywhere if it names no directory, and otherwise in the directories that it
names, group by group and filter by filter, each in its first spelling only. -/
theorem scopes_canonical :
    (∀ path, path ∈ query.mentioned ↔
        ∃ group ∈ query.groups, ∃ values, .paths values ∈ group.filters ∧ path ∈ values) ∧
      query.compile.scopes =
        (if query.mentioned = [] then [.indexedVolume] else query.firsts.map .directory) ∧
      query.firsts.Sublist query.mentioned ∧
      (∀ path, path ∈ query.firsts ↔ query.Keeps path) ∧
      Apart query.firsts ∧
      (∀ path ∈ query.mentioned, ∃ first ∈ query.firsts, path.sameAs first = true) ∧
      (query.compile.usesDefaultScope = true ↔ query.mentioned = []) := by
  have kept (path : Path) : path ∈ query.firsts ↔ query.Keeps path := by
    rw [firsts_eq, mem_distinct_iff, Keeps]
  refine ⟨query.mem_mentioned_iff, query.scopes_eq, ?_, kept, ?_, ?_, query.usesDefaultScope_iff⟩
  · rw [firsts_eq]
    exact distinct_sublist query.mentioned
  · rw [firsts_eq]
    exact distinct_apart query.mentioned
  · intro path mentions
    obtain ⟨first, keeps, same⟩ := query.keeps_same mentions
    exact ⟨first, (kept first).mpr keeps, same⟩

theorem respelled_directory_kept_once :
    let first : FilterGroup := { filters := [.fileName "x", .paths [⟨"/a/b"⟩, ⟨"/c"⟩]] }
    let second : FilterGroup := { filters := [.paths [⟨"/a/./b/"⟩], .paths [⟨"/d"⟩, ⟨"/c/"⟩]] }
    let query : Query := ⟨[first, second]⟩
    query.compile.scopes = [.directory ⟨"/a/b"⟩, .directory ⟨"/c"⟩, .directory ⟨"/d"⟩] ∧
      query.compile.usesDefaultScope = false ∧
      (⟨[{ filters := [.fileName "x"] }]⟩ : Query).compile.scopes = [.indexedVolume] := by
  intro first second query
  obtain ⟨named, scopes, -, -, -, -, default⟩ := scopes_canonical query
  have some : query.mentioned ≠ [] :=
    List.ne_nil_of_mem ((named ⟨"/d"⟩).mpr ⟨second, by simp [query], _, .tail _ (.head _), .head _⟩)
  refine ⟨?_, by rw [Bool.eq_false_iff, ne_eq, default]; exact some, ?_⟩
  · rw [scopes, if_neg some]
    decide +kernel
  · obtain ⟨-, scopes, -⟩ := scopes_canonical ⟨[{ filters := [.fileName "x"] }]⟩
    rw [scopes]
    exact if_pos rfl

end Canonical

end FileSearch.Query
