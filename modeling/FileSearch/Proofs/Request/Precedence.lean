import FileSearch.Proofs.Request.Shape

set_option autoImplicit false

namespace FileSearch.SearchRequest

open Json RecordShape Outcome

variable {members others : List (String × Json)}

theorem groups_kept {field : Field Json RequestDraft} (declared : field ∈ RequestDraft.fields)
    (other : field.name ≠ "filterGroups") (value : Json) (record next : RequestDraft)
    (set : field.set value record = .ok next) : next.groups? = record.groups? := by
  simp only [RequestDraft.fields, List.mem_cons, List.not_mem_nil, or_false] at declared
  rcases declared with rfl | rfl | rfl | rfl | rfl
  · exact absurd rfl other
  all_goals
    obtain ⟨decoded, -, made⟩ := bind_ok_iff.mp set
    cases made
    rfl

theorem groups_given (ascending : Ascending members) {value : Json}
    (given : ("filterGroups", value) ∈ members) (present : value ≠ .null) {request : RequestDraft}
    (reads : readObject RequestDraft.fields (named id members) {} = .ok request) :
    ∃ groups, request.groups? = some groups := by
  obtain ⟨before, after, rfl⟩ := List.append_of_mem given
  obtain ⟨-, behind, -⟩ := List.pairwise_append.mp ascending
  obtain ⟨later, -⟩ := List.pairwise_cons.mp behind
  obtain ⟨seen, reads⟩ := readMembers_of_readObject reads
  refine readMembers_puts Json.mirrors (fun request => ∃ groups, request.groups? = some groups)
    "filterGroups" (RequestDraft.fields.head (by simp [RequestDraft.fields])) rfl value ?_ before
    after ?_ [] {} (seen, request) reads
  · intro record next set
    obtain ⟨groups?, decoded, made⟩ := bind_ok_iff.mp set
    cases made
    exact Decoder.option_ok Json.mirrors _ present decoded
  · rintro member listed field found record next set ⟨groups, held⟩
    have plain : ∀ field ∈ RequestDraft.fields, field.alias? = none := by simp [RequestDraft.fields]
    have other : field.name ≠ "filterGroups" := by
      rw [fieldOf?_name plain found]
      exact (ne_of_lt (later member listed)).symm
    exact ⟨groups, (groups_kept (fieldOf?_mem found) other _ _ _ set).trans held⟩

-- The name of no member of a flat search.
def isOwn (name : String) : Bool :=
  name ∉ FlatSearch.memberNames

theorem fieldOf?_flat (name : String) (flat : isOwn name = false) :
    fieldOf? RequestDraft.fields name = none := by
  have flat : name ∈ FlatSearch.memberNames := by simpa [isOwn] using flat
  simp only [FlatSearch.memberNames, List.mem_cons, List.not_mem_nil, or_false] at flat
  rcases flat with rfl | rfl | rfl | rfl | rfl | rfl <;> rfl

theorem readObject_agree (ascending : Ascending members) (ascends : Ascending others)
    (agree : ∀ name, name ∉ FlatSearch.memberNames → member? name members = member? name others) :
    readObject RequestDraft.fields (named id members) {} =
      readObject RequestDraft.fields (named id others) {} := by
  have same : members.filter (fun member => isOwn member.1) =
      others.filter fun member => isOwn member.1 :=
    ascending.filter_eq ascends isOwn fun name own => agree name (by simpa [isOwn] using own)
  rw [readObject, readObject, ← readMembers_filter Json.mirrors isOwn fieldOf?_flat members,
    same, readMembers_filter Json.mirrors isOwn fieldOf?_flat others]

/-- Two requests with filter groups that differ only in the members of flat searches, all of the
right shape, have the same answer. -/
theorem groups_go_before_flat_search (home : Option String) (members others : List (String × Json))
    (ordered : (object members).IsOrdered) (ordered' : (object others).IsOrdered)
    (agree : ∀ name, name ∉ FlatSearch.memberNames → member? name members = member? name others)
    (grouped : ∃ groups, member? "filterGroups" members = some groups ∧ groups ≠ .null)
    (shaped : ∀ member ∈ members, FlatSearch.Admits member.1 member.2)
    (shaped' : ∀ member ∈ others, FlatSearch.Admits member.1 member.2) :
    ofJson home (object members) = ofJson home (object others) := by
  obtain ⟨groups, given, present⟩ := grouped
  have given := (member?_eq_some_iff ordered.ascending _ _).mp given
  have same := readObject_agree ordered.ascending ordered'.ascending agree
  obtain ⟨search, flat⟩ := (FlatSearch.readObject_ok_iff ordered).mpr shaped
  obtain ⟨search', flat'⟩ := (FlatSearch.readObject_ok_iff ordered').mpr shaped'
  rw [ofJson, ofJson, decodeParts_eq, decodeParts_eq, ← same, flat, flat']
  cases reads : readObject RequestDraft.fields (named id members) {} with
  | error fault => rfl
  | ok request =>
    obtain ⟨drafts, made⟩ := groups_given ordered.ascending given present reads
    simp [bind, Except.bind, criteria?, made]

def reportGroups : Json :=
  .array [.object [("filters", .array
    [.object [("text", .string "report"), ("type", .string "filename")]])]]

-- The paths could not be searched, and the range of dates is open.
theorem relative_paths_beside_groups_ignored :
    let members := [("filterGroups", reportGroups), ("limit", .number (.integer 3)),
      ("onlyIn", .array [.string "docs", .string ""])]
    let others := [("dateFilter", .object [("from", .null)]), ("filterGroups", reportGroups),
      ("limit", .number (.integer 3)), ("query", .string "notes")]
    ofJson none (object members) = ofJson none (object others) ∧
      ofJson none (object members) = .ok
        { criteria := .query ⟨[{ filters := [.fileName "report"] }]⟩, sort := ⟨.name, .ascending⟩,
          limit? := some 3 } := by
  intro members others
  have ordered : (object members).IsOrdered := by
    simp [members, reportGroups, Ascending, -String.lt_iff_ltb]
  have ordered' : (object others).IsOrdered := by
    simp [others, reportGroups, Ascending, -String.lt_iff_ltb]
  have agree : ∀ name, name ∉ FlatSearch.memberNames →
      member? name members = member? name others := by
    intro name other
    simp only [FlatSearch.memberNames, List.mem_cons, List.not_mem_nil, or_false, not_or] at other
    simp [members, others, member?, other, eq_comm]
  refine ⟨groups_go_before_flat_search none members others ordered ordered' agree ?_ ?_ ?_, ?_⟩
  · exact ⟨reportGroups, rfl, by simp [reportGroups]⟩
  · simp [members, FlatSearch.Admits, IsListOf, IsText]
  · simp [others, FlatSearch.Admits, IsNullOr, DateRange.IsShaped, IsText]
  · rfl

end FileSearch.SearchRequest
