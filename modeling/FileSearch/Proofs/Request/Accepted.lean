import FileSearch.Proofs.Path.Normal
import FileSearch.Request.Basic

set_option autoImplicit false

namespace FileSearch

open Outcome

def Filter.IsSettled : Filter → Prop
  | .nameOrContent _ => False
  | .paths values => Path.AreSettled values
  | _ => True

def Criteria.IsSettled : Criteria → Prop
  | .query asked =>
    ∀ group ∈ asked.groups, group.filters ≠ [] ∧ ∀ filter ∈ group.filters, filter.IsSettled
  | .flat search => Path.AreSettled search.onlyIn

namespace Filter

theorem decoded_of_kind (kind : FilterKind)
    (read : {σ : Type} → RecordShape Held σ → σ → Except Fault σ) {filter : Filter}
    (decoded : kind.decode read = .ok filter) (text : String) : filter ≠ .nameOrContent text := by
  cases kind <;>
    obtain ⟨value, -, rfl⟩ := map_ok_iff.mp decoded <;>
    simp [extensionsOf]

theorem decode_ne_nameOrContent {held : Held} {filter : Filter}
    (decoded : decode held = .ok filter) (text : String) : filter ≠ .nameOrContent text := by
  rw [decode] at decoded
  split at decoded
  · rw [decodeMembers] at decoded
    split at decoded
    · cases decoded
    · obtain ⟨kind, -, decoded⟩ := bind_ok_iff.mp decoded
      exact decoded_of_kind kind _ decoded text
  next items _ =>
    cases items with
    | nil => cases decoded
    | cons tag items =>
      obtain ⟨kind, -, decoded⟩ := bind_ok_iff.mp decoded
      exact decoded_of_kind kind _ decoded text
  · cases decoded

theorem withNormalPaths_isSettled (home : Option String) {filter settled : Filter}
    (plain : ∀ text, filter ≠ .nameOrContent text)
    (normal : filter.withNormalPaths home = .ok settled) : settled.IsSettled := by
  cases filter with
  | nameOrContent text => exact absurd rfl (plain text)
  | paths values =>
    obtain ⟨paths, accepted, rfl⟩ := map_ok_iff.mp normal
    exact Path.ofScopeTexts_areSettled home accepted
  | _ =>
    cases normal
    trivial

end Filter

namespace GroupDraft

variable (home : Option String)

theorem settleFilter_isSettled {group : Nat} {source : Json} {filter : Filter}
    (settled : settleFilter home group source = .ok filter) : filter.IsSettled := by
  obtain ⟨decoded, read, settled⟩ := bind_ok_iff.mp settled
  exact Filter.withNormalPaths_isSettled home
    (Filter.decode_ne_nameOrContent (mapError_ok_iff.mp read)) (mapError_ok_iff.mp settled)

theorem settleFilters_isSettled {group : Nat} {sources : List Json} {filters : List Filter}
    (settled : settleFilters home group sources = .ok filters) :
    filters.length = sources.length ∧ ∀ filter ∈ filters, filter.IsSettled := by
  induction sources generalizing filters with
  | nil =>
    cases settled
    simp
  | cons source rest ih =>
    simp only [settleFilters, bind_ok_iff] at settled
    obtain ⟨filter, head, others, tail, made⟩ := settled
    cases made
    obtain ⟨length, each⟩ := ih tail
    exact ⟨by simp [length], List.forall_mem_cons.mpr ⟨settleFilter_isSettled home head, each⟩⟩

theorem settle_isSettled {index : Nat} {draft : GroupDraft} {group : FilterGroup}
    (settled : draft.settle home index = .ok group) :
    group.filters ≠ [] ∧ ∀ filter ∈ group.filters, filter.IsSettled := by
  rw [settle] at settled
  split at settled
  · cases settled
  next some =>
    obtain ⟨filters, read, made⟩ := bind_ok_iff.mp settled
    cases made
    obtain ⟨length, each⟩ := settleFilters_isSettled home read
    refine ⟨?_, each⟩
    rintro rfl
    exact some (List.isEmpty_iff_length_eq_zero.mpr length.symm)

theorem settleAll_isSettled {index : Nat} {drafts : List GroupDraft} {groups : List FilterGroup}
    (settled : settleAll home index drafts = .ok groups) :
    ∀ group ∈ groups, group.filters ≠ [] ∧ ∀ filter ∈ group.filters, filter.IsSettled := by
  induction drafts generalizing index groups with
  | nil =>
    cases settled
    simp
  | cons draft rest ih =>
    simp only [settleAll, bind_ok_iff] at settled
    obtain ⟨group, head, others, tail, made⟩ := settled
    cases made
    exact List.forall_mem_cons.mpr ⟨settle_isSettled home head, ih tail⟩

end GroupDraft

namespace SearchRequest

variable (home : Option String)

theorem criteria?_isSettled {groups? : Option (List GroupDraft)} {search : FlatSearch}
    {criteria : Criteria} (settled : criteria? home groups? search = .ok criteria) :
    criteria.IsSettled := by
  cases groups? with
  | some drafts =>
    obtain ⟨groups, each, made⟩ := bind_ok_iff.mp settled
    cases made
    exact GroupDraft.settleAll_isSettled home each
  | none =>
    obtain ⟨normal, flat, made⟩ := bind_ok_iff.mp settled
    cases made
    obtain ⟨paths, accepted, made⟩ := bind_ok_iff.mp (mapError_ok_iff.mp flat)
    cases made
    exact Path.ofScopeTexts_areSettled home accepted

/-- Every request that is accepted is settled, whatever its text and the home directory. -/
theorem accepted_request_settled (text : String) (request : SearchRequest)
    (accepted : ofText home text = .ok request) : request.criteria.IsSettled := by
  rw [ofText] at accepted
  split at accepted
  · obtain ⟨parts, -, accepted⟩ := bind_ok_iff.mp accepted
    obtain ⟨criteria, settled, made⟩ := bind_ok_iff.mp accepted
    cases made
    exact criteria?_isSettled home (mapError_ok_iff.mp settled)
  · cases accepted

-- The second directory is the first one again, as the home directory makes it.
def tildeText : String :=
  "\x7b\"filterGroups\": [\x7b\"filters\": [[\"paths\", " ++
    "[\"~/docs/\", \"/home/me/./docs\", \"/a\\\\b/\"]]]\x7d]\x7d"

theorem tilde_request_accepted :
    ∃ request, ofText (some "/home/me") tildeText = .ok request ∧
      request.criteria = .query ⟨[{ filters := [.paths [⟨"/home/me/docs"⟩, ⟨"/a/b"⟩]] }]⟩ ∧
      request.criteria.IsSettled := by
  have accepted : ofText (some "/home/me") tildeText = .ok
      { criteria := .query ⟨[{ filters := [.paths [⟨"/home/me/docs"⟩, ⟨"/a/b"⟩]] }]⟩,
        sort := ⟨.name, .ascending⟩ } := by
    decide +kernel
  exact ⟨_, accepted, rfl, accepted_request_settled _ _ _ accepted⟩

end SearchRequest

end FileSearch
