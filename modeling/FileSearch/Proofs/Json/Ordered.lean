import FileSearch.Json.Reader
import Mathlib.Data.List.Sort
import Mathlib.Data.String.Basic

set_option autoImplicit false

namespace FileSearch

namespace Json

def Ascending (members : List (String × Json)) : Prop :=
  members.Pairwise fun first second => first.1 < second.1

instance (members : List (String × Json)) : Decidable (Ascending members) :=
  inferInstanceAs (Decidable (List.Pairwise _ members))

-- In every object within a value the names ascend.
inductive IsOrdered : Json → Prop where
  | null : IsOrdered .null
  | bool (value : Bool) : IsOrdered (.bool value)
  | number (value : JsonNumber) : IsOrdered (.number value)
  | string (value : String) : IsOrdered (.string value)
  | array (items : List Json) (each : ∀ item ∈ items, IsOrdered item) : IsOrdered (.array items)
  | object (members : List (String × Json)) (ascending : Ascending members)
      (each : ∀ member ∈ members, IsOrdered member.2) : IsOrdered (.object members)

attribute [simp] IsOrdered.null IsOrdered.bool IsOrdered.number IsOrdered.string

@[simp] theorem isOrdered_array_iff (items : List Json) :
    (Json.array items).IsOrdered ↔ ∀ item ∈ items, item.IsOrdered := by
  constructor
  · rintro (_ | _ | _ | _ | ⟨_, each⟩ | _)
    exact each
  · exact .array items

@[simp] theorem isOrdered_object_iff (members : List (String × Json)) :
    (Json.object members).IsOrdered ↔
      Ascending members ∧ ∀ member ∈ members, member.2.IsOrdered := by
  constructor
  · rintro (_ | _ | _ | _ | _ | ⟨_, ascending, each⟩)
    exact ⟨ascending, each⟩
  · rintro ⟨ascending, each⟩
    exact .object members ascending each

theorem IsOrdered.item {items : List Json} (ordered : (Json.array items).IsOrdered) {item : Json}
    (member : item ∈ items) : item.IsOrdered :=
  (isOrdered_array_iff items).mp ordered item member

theorem IsOrdered.ascending {members : List (String × Json)}
    (ordered : (Json.object members).IsOrdered) : Ascending members :=
  ((isOrdered_object_iff members).mp ordered).1

theorem IsOrdered.member {members : List (String × Json)}
    (ordered : (Json.object members).IsOrdered) {member : String × Json}
    (listed : member ∈ members) : member.2.IsOrdered :=
  ((isOrdered_object_iff members).mp ordered).2 member listed

section Names

variable {members others : List (String × Json)}

theorem Ascending.nodup (ascending : Ascending members) : (members.map Prod.fst).Nodup :=
  List.pairwise_map.mpr (ascending.imp fun less => ne_of_lt less)

theorem Ascending.filter (ascending : Ascending members) (keep : String × Json → Bool) :
    Ascending (members.filter keep) :=
  List.Pairwise.filter keep ascending

theorem member?_eq_some_iff (ascending : Ascending members) (name : String) (value : Json) :
    member? name members = some value ↔ (name, value) ∈ members := by
  induction members with
  | nil => simp [member?]
  | cons first rest ih =>
    obtain ⟨other, held⟩ := first
    obtain ⟨least, ascending⟩ := List.pairwise_cons.mp ascending
    rw [member?]
    split
    next same =>
      subst same
      have later : (other, value) ∉ rest :=
        fun later => lt_irrefl other (least (other, value) later)
      simp [later, eq_comm]
    next different =>
      simp [ih ascending, Ne.symm different]

theorem Ascending.ext (ascending : Ascending members) (ascends : Ascending others)
    (same : ∀ member, member ∈ members ↔ member ∈ others) : members = others := by
  have distinct {list : List (String × Json)} (ascending : Ascending list) : list.Nodup :=
    List.Nodup.of_map Prod.fst ascending.nodup
  have perm := (List.perm_ext_iff_of_nodup (distinct ascending) (distinct ascends)).mpr same
  refine perm.eq_of_pairwise ?_ ascending ascends
  intro first second _ _ before behind
  exact absurd (before.trans behind) (lt_irrefl _)

theorem Ascending.filter_eq (ascending : Ascending members) (ascends : Ascending others)
    (kind : String → Bool)
    (agree : ∀ name, kind name = true → member? name members = member? name others) :
    members.filter (fun member => kind member.1) = others.filter (fun member => kind member.1) := by
  refine (ascending.filter _).ext (ascends.filter _) ?_
  rintro ⟨name, value⟩
  simp only [List.mem_filter]
  refine and_congr_left fun kept => ?_
  rw [← member?_eq_some_iff ascending, ← member?_eq_some_iff ascends, agree name kept]

theorem mem_insertMember {name : String} {value : Json} {member : String × Json}
    (listed : member ∈ insertMember name value members) :
    member = (name, value) ∨ member ∈ members := by
  induction members with
  | nil => simpa [insertMember] using listed
  | cons first rest ih =>
    rw [insertMember] at listed
    split at listed
    · simp only [List.mem_cons] at listed ⊢
      tauto
    · split at listed
      · simpa using listed
      · simp only [List.mem_cons] at listed ⊢
        tauto

theorem Ascending.insertMember (ascending : Ascending members) (name : String) (value : Json) :
    Ascending (insertMember name value members) := by
  induction members with
  | nil => exact List.pairwise_singleton _ _
  | cons first rest ih =>
    obtain ⟨other, old⟩ := first
    obtain ⟨least, ascends⟩ := List.pairwise_cons.mp ascending
    rw [Json.insertMember]
    split
    next same =>
      subst same
      exact List.pairwise_cons.mpr ⟨least, ascends⟩
    next different =>
      split
      next before =>
        refine List.pairwise_cons.mpr ⟨?_, ascending⟩
        intro member listed
        rcases List.mem_cons.mp listed with rfl | later
        · exact before
        · exact before.trans (least member later)
      next notBefore =>
        have behind : other < name := lt_of_le_of_ne (not_lt.mp notBefore) (Ne.symm different)
        refine List.pairwise_cons.mpr ⟨?_, ih ascends⟩
        rintro ⟨next, held⟩ listed
        rcases mem_insertMember listed with same | later
        · cases same
          exact behind
        · exact least _ later

end Names

end Json

namespace Draft

open Json (Ascending IsOrdered)

mutual

theorem settle_isOrdered (draft : Draft) (depth : Nat) (json : Json)
    (settled : draft.settle depth = some json) : json.IsOrdered := by
  cases draft with
  | null => cases settled; exact .null
  | bool value => cases settled; exact .bool value
  | number value => cases settled; exact .number value
  | string value => cases settled; exact .string value
  | array items =>
    rw [settle] at settled
    split at settled
    · cases settled
    · obtain ⟨values, made, rfl⟩ := Option.map_eq_some_iff.mp settled
      exact .array values (settleItems_isOrdered items _ values made)
  | object members =>
    rw [settle] at settled
    split at settled
    · cases settled
    · obtain ⟨values, made, rfl⟩ := Option.map_eq_some_iff.mp settled
      have kept := settleMembers_isOrdered members _ [] values List.Pairwise.nil (by simp) made
      exact .object values kept.1 kept.2
  | unreadable => cases settled
  | broken => cases settled

theorem settleItems_isOrdered (drafts : List Draft) (depth : Nat) (items : List Json)
    (settled : settleItems depth drafts = some items) : ∀ item ∈ items, item.IsOrdered := by
  cases drafts with
  | nil =>
    cases settled
    simp
  | cons draft rest =>
    simp only [settleItems, Option.bind_eq_bind, Option.bind_eq_some_iff] at settled
    obtain ⟨item, first, others, later, made⟩ := settled
    cases made
    intro value member
    rcases List.mem_cons.mp member with rfl | member
    · exact settle_isOrdered draft depth _ first
    · exact settleItems_isOrdered rest depth others later value member

theorem settleMembers_isOrdered (drafts : List (Option String × Draft)) (depth : Nat)
    (before after : List (String × Json)) (ascending : Ascending before)
    (each : ∀ member ∈ before, member.2.IsOrdered)
    (settled : settleMembers depth drafts before = some after) :
    Ascending after ∧ ∀ member ∈ after, member.2.IsOrdered := by
  cases drafts with
  | nil =>
    cases settled
    exact ⟨ascending, each⟩
  | cons draft rest =>
    obtain ⟨name?, draft⟩ := draft
    simp only [settleMembers, Option.bind_eq_bind, Option.bind_eq_some_iff] at settled
    obtain ⟨name, -, value, first, later⟩ := settled
    have ordered := settle_isOrdered draft depth value first
    refine settleMembers_isOrdered rest depth _ after (ascending.insertMember name value) ?_ later
    intro member listed
    rcases Json.mem_insertMember listed with rfl | listed
    · exact ordered
    · exact each member listed

end

end Draft

theorem Json.read?_isOrdered (text : String) (json : Json) (reads : Json.read? text = some json) :
    json.IsOrdered := by
  rw [Json.read?] at reads
  split at reads
  · exact Draft.settle_isOrdered _ _ json reads
  · cases reads

end FileSearch
