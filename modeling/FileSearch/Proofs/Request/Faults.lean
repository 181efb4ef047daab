import FileSearch.Proofs.Request.Shape

set_option autoImplicit false

namespace FileSearch.SearchRequest

open Json

variable (home : Option String)

theorem ofJson_of_parts {json : Json} {parts : RequestDraft × FlatSearch}
    (decoded : decodeParts json = .ok parts) (error : SearchError)
    (fails : ofJson home json = .error error) : ∃ cause, error = .invalidFilter cause := by
  rw [ofJson, decoded] at fails
  cases made : criteria? home parts.1.groups? parts.2 with
  | ok criteria => simp [made, bind, Except.bind] at fails
  | error cause =>
    refine ⟨cause, ?_⟩
    simpa [made, bind, Except.bind, eq_comm] using fails

theorem ofJson_of_fault {json : Json} {fault : Fault} (decoded : decodeParts json = .error fault) :
    ofJson home json = .error (.serialization fault) := by
  rw [ofJson, decoded]
  rfl

theorem ofJson_serialization_iff {members : List (String × Json)}
    (ordered : (object members).IsOrdered) :
    (∃ fault, ofJson home (object members) = .error (.serialization fault)) ↔
      ∃ member ∈ members, ¬ Admits member.1 member.2 := by
  have admitted := decodeParts_ok_iff ordered
  cases decoded : decodeParts (object members) with
  | ok parts =>
    have admits := admitted.mp ⟨parts, decoded⟩
    refine iff_of_false ?_ ?_
    · rintro ⟨fault, fails⟩
      obtain ⟨cause, other⟩ := ofJson_of_parts home decoded _ fails
      cases other
    · rintro ⟨member, listed, refused⟩
      exact refused (admits member listed)
  | error fault =>
    refine iff_of_true ⟨fault, ofJson_of_fault home decoded⟩ ?_
    by_contra none'
    push Not at none'
    obtain ⟨parts, other⟩ := admitted.mpr none'
    rw [decoded] at other
    cases other

/-- Where all members but the filter groups are what they have to be, a request is refused for a
fault of the text exactly if some group has the wrong shape; if all groups have the right one, it
can only be refused for a filter. -/
theorem faults_told_apart (members : List (String × Json)) (ordered : (object members).IsOrdered)
    (groups : List Json) (given : member? "filterGroups" members = some (.array groups))
    (others : ∀ member ∈ members, member.1 ≠ "filterGroups" → Admits member.1 member.2) :
    ((∃ fault, ofJson home (object members) = .error (.serialization fault)) ↔
        ∃ group ∈ groups, ¬ GroupDraft.IsShaped group) ∧
      ∀ error, ofJson home (object members) = .error error →
        (∃ fault, error = .serialization fault) ∨ ∃ cause, error = .invalidFilter cause := by
  have found_iff (value : Json) := member?_eq_some_iff ordered.ascending "filterGroups" value
  have admits_iff : Admits "filterGroups" (.array groups) ↔
      ∀ group ∈ groups, GroupDraft.IsShaped group := by
    simp [Admits, IsNullOr, IsListOf]
  constructor
  · rw [ofJson_serialization_iff home ordered]
    constructor
    · rintro ⟨⟨name, value⟩, listed, refused⟩
      have named : name = "filterGroups" := by
        by_contra other
        exact refused (others _ listed other)
      subst named
      have same : value = .array groups :=
        Option.some.inj (((found_iff value).mpr listed).symm.trans given)
      rw [same, admits_iff] at refused
      push Not at refused
      exact refused
    · rintro ⟨group, listed, misshapen⟩
      exact ⟨_, (found_iff _).mp given, fun admits => misshapen (admits_iff.mp admits group listed)⟩
  · intro error fails
    cases decoded : decodeParts (object members) with
    | ok parts => exact .inr (ofJson_of_parts home decoded error fails)
    | error fault =>
      rw [ofJson_of_fault home decoded] at fails
      cases fails
      exact .inl ⟨fault, rfl⟩

-- A filter with an unknown type stands in front of the number that is given for a group.
def misshapenGroups : List Json :=
  [.object [("filters", .array [.object [("type", .string "color")]])], .number (.integer 5)]

theorem misshapen_group_is_told_as_text :
    let members := [("filterGroups", Json.array misshapenGroups), ("limit", .number (.integer 3)),
      ("query", .string "report")]
    (object members).IsOrdered ∧
      (∀ member ∈ members, member.1 ≠ "filterGroups" → Admits member.1 member.2) ∧
      (∃ fault, ofJson none (object members) = .error (.serialization fault)) ∧
      ∀ cause, ofJson none (object members) ≠ .error (.invalidFilter cause) := by
  intro members
  have ordered : (object members).IsOrdered := by
    simp [members, misshapenGroups, Ascending, -String.lt_iff_ltb]
  have others : ∀ member ∈ members, member.1 ≠ "filterGroups" → Admits member.1 member.2 := by
    simp [members, Admits, FlatSearch.Admits, IsNullOr, IsNatural, IsText]
    decide
  obtain ⟨told, -⟩ := faults_told_apart none members ordered misshapenGroups rfl others
  have misshapen : ∃ group ∈ misshapenGroups, ¬ GroupDraft.IsShaped group :=
    ⟨.number (.integer 5), by simp [misshapenGroups], id⟩
  obtain ⟨fault, fails⟩ := told.mpr misshapen
  refine ⟨ordered, others, ⟨fault, fails⟩, ?_⟩
  intro cause other
  rw [fails] at other
  cases other

end FileSearch.SearchRequest
