import FileSearch.Index.Walk
import FileSearch.Proofs.Index.Tree

set_option autoImplicit false

namespace FileSearch

namespace Visit

-- What is seen of a file that is met under a path.
def seen? (path : Path) (node : Node) : Option Node :=
  if path.isTooLong then none else some node

-- The names lead from a folder to one within, along which a walk goes.
structure GoesAlong (hidden : Bool) (path : Path) (entries : Entries) (names : List String)
    (inside : Entries) : Prop where
  opens : entries.inner? names = some inside
  wanted : ∀ name ∈ names, isSkipped hidden name = false
  fits : (path.below names).isTooLong = false

theorem mem_among_cons (hidden : Bool) (path met : Path) (name : String) (node : Node)
    (rest : Entries) (node? : Option Node) :
    .entry met node? ∈ among hidden path ((name, node) :: rest) ↔
      (isSkipped hidden name = false ∧
        (met = path.join ⟨name⟩ ∧ node? = seen? met node ∨
          (path.join ⟨name⟩).isTooLong = false ∧
            .entry met node? ∈ below hidden (path.join ⟨name⟩) node)) ∨
        .entry met node? ∈ among hidden path rest := by
  rw [among]
  cases skipped : isSkipped hidden name with
  | true => simp
  | false =>
    cases long : (path.join ⟨name⟩).isTooLong with
    | true =>
      have failed : .entry met node? ∉ if node.isFolder then [Visit.failed] else [] := by
        split <;> simp
      have seen : seen? (path.join ⟨name⟩) node = none := if_pos long
      simp only [Bool.false_eq_true, if_false, long, if_true, List.mem_append, List.mem_cons,
        failed, or_false, Visit.entry.injEq, true_and, Bool.true_eq_false, false_and]
      exact or_congr_left (and_congr_right fun same => by rw [same, seen])
    | false =>
      have seen : seen? (path.join ⟨name⟩) node = some node := if_neg (by simp [long])
      simp only [Bool.false_eq_true, if_false, long, List.mem_append, List.mem_cons,
        Visit.entry.injEq, true_and]
      exact or_congr_left (or_congr_left (and_congr_right fun same => by rw [same, seen]))

theorem mem_among_iff_step (hidden : Bool) (path met : Path) (entries : Entries)
    (node? : Option Node) :
    .entry met node? ∈ among hidden path entries ↔
      ∃ name node, (name, node) ∈ entries ∧ isSkipped hidden name = false ∧
        (met = path.join ⟨name⟩ ∧ node? = seen? met node ∨
          (path.join ⟨name⟩).isTooLong = false ∧
            .entry met node? ∈ below hidden (path.join ⟨name⟩) node) := by
  induction entries with
  | nil => simp [among]
  | cons first rest ih =>
    obtain ⟨name, node⟩ := first
    rw [mem_among_cons, ih]
    constructor
    · rintro (here | ⟨other, node', member, wanted, met⟩)
      · exact ⟨name, node, List.mem_cons_self, here⟩
      · exact ⟨other, node', List.mem_cons_of_mem _ member, wanted, met⟩
    · rintro ⟨other, node', member, wanted, met⟩
      cases member with
      | head => exact .inl ⟨wanted, met⟩
      | tail _ member => exact .inr ⟨other, node', member, wanted, met⟩

variable {hidden : Bool} {path met : Path} {entries : Entries} {node? : Option Node}

theorem goesAlong_of_mem (proper : entries.AreProper) (fits : path.isTooLong = false)
    (meets : .entry met node? ∈ among hidden path entries) :
    ∃ names inside name node, GoesAlong hidden path entries names inside ∧
      isSkipped hidden name = false ∧ (name, node) ∈ inside ∧
      met = (path.below names).join ⟨name⟩ ∧ node? = seen? met node := by
  induction proper generalizing path with
  | @intro entries named apart within ih =>
    have proper : entries.AreProper := .intro named apart within
    obtain ⟨name, node, member, wanted, ⟨rfl, seen⟩ | ⟨fits', meets⟩⟩ :=
      (mem_among_iff_step _ _ _ _ _).mp meets
    · exact ⟨[], entries, name, node, ⟨rfl, by simp, fits⟩, wanted, member, rfl, seen⟩
    · cases node with
      | folder times inner =>
        obtain ⟨names, inside, last, node, along, rest⟩ := ih name times inner member fits' meets
        refine ⟨name :: names, inside, last, node, ⟨?_, ?_, along.fits⟩, rest⟩
        · rw [Entries.inner?, (proper.lookup_iff name _).mpr member]
          exact along.opens
        · exact List.forall_mem_cons.mpr ⟨wanted, along.wanted⟩
      | _ => simp [below] at meets

theorem GoesAlong.meets {inside : Entries} {names : List String} {name : String} {node : Node}
    (along : GoesAlong hidden path entries names inside) (proper : entries.AreProper)
    (absolute : path.isAbsolute = true) (wanted : isSkipped hidden name = false)
    (member : (name, node) ∈ inside) :
    .entry ((path.below names).join ⟨name⟩) (seen? ((path.below names).join ⟨name⟩) node) ∈
      among hidden path entries := by
  obtain ⟨opens, wanted', fits⟩ := along
  induction names generalizing path entries with
  | nil =>
    cases opens
    exact (mem_among_iff_step _ _ _ _ _).mpr ⟨name, node, member, wanted, .inl ⟨rfl, rfl⟩⟩
  | cons first rest ih =>
    rw [Entries.inner?] at opens
    split at opens
    next times inner found =>
      obtain ⟨firstWanted, restWanted⟩ := List.forall_mem_cons.mp wanted'
      have member' := (proper.lookup_iff first _).mp found
      have named := proper.named member'
      obtain ⟨-, restNamed⟩ := (proper.within member').inner opens
      have absolute' := Path.join_absolute absolute named
      have short := Path.fits_of_below absolute' restNamed fits
      exact (mem_among_iff_step _ _ _ _ _).mpr ⟨first, _, member', firstWanted,
        .inr ⟨short, ih (proper.within member') absolute' opens restWanted fits⟩⟩
    next => cases opens

-- Where something is met.
def place? : Visit → Option (List Component)
  | .entry path _ => some path.components
  | _ => none

theorem mem_places_iff (visits : List Visit) (place : List Component) :
    place ∈ visits.filterMap place? ↔
      ∃ met node?, .entry met node? ∈ visits ∧ met.components = place := by
  rw [List.mem_filterMap]
  constructor
  · rintro ⟨visit, member, placed⟩
    cases visit with
    | entry met node? => exact ⟨met, node?, member, Option.some.inj placed⟩
    | _ => cases placed
  · rintro ⟨met, node?, member, rfl⟩
    exact ⟨.entry met node?, member, rfl⟩

theorem places_among_cons (hidden : Bool) (path : Path) (name : String) (node : Node)
    (rest : Entries) :
    ∃ places, places.Sublist ((path.join ⟨name⟩).components ::
        (below hidden (path.join ⟨name⟩) node).filterMap place?) ∧
      (among hidden path ((name, node) :: rest)).filterMap place? =
        places ++ (among hidden path rest).filterMap place? := by
  rw [among]
  dsimp only
  split
  next => exact ⟨[], List.nil_sublist _, rfl⟩
  next =>
    split
    next =>
      refine ⟨[(path.join ⟨name⟩).components], (List.nil_sublist _).cons_cons _, ?_⟩
      cases node.isFolder <;> rfl
    next => exact ⟨_, List.Sublist.refl _, by simp [place?]⟩

section Places

variable {name : String} {node : Node} {place : List Component}

theorem place_in_folder (proper : entries.AreProper) (absolute : path.isAbsolute = true)
    (meets : place ∈ (among hidden path entries).filterMap place?) :
    ∃ name ∈ entries.map Prod.fst, ∃ more, place = path.components ++ .named name :: more := by
  obtain ⟨met, node?, visited, rfl⟩ := (mem_places_iff _ _).mp meets
  clear meets
  induction proper generalizing path with
  | @intro entries named apart within ih =>
    obtain ⟨name, node, member, -, met⟩ := (mem_among_iff_step _ _ _ _ _).mp visited
    have first := Path.join_components absolute (named _ member)
    refine ⟨name, List.mem_map.mpr ⟨(name, node), member, rfl⟩, ?_⟩
    rcases met with ⟨rfl, -⟩ | ⟨-, meets⟩
    · exact ⟨[], first⟩
    · cases node with
      | folder times inner =>
        have absolute' := Path.join_absolute absolute (named _ member)
        obtain ⟨other, -, more, split⟩ := ih name times inner member absolute' meets
        exact ⟨.named other :: more, by simp [split, first]⟩
      | _ => simp [below] at meets

theorem place_below (proper : entries.AreProper) (absolute : path.isAbsolute = true)
    (member : (name, node) ∈ entries)
    (meets : place ∈ (below hidden (path.join ⟨name⟩) node).filterMap place?) :
    ∃ other more, place = path.components ++ .named name :: .named other :: more := by
  have named := proper.named member
  cases node with
  | folder times inner =>
    obtain ⟨other, -, more, rfl⟩ :=
      place_in_folder (proper.within member) (Path.join_absolute absolute named) meets
    exact ⟨other, more, by simp [Path.join_components absolute named]⟩
  | _ => simp [below] at meets

end Places

theorem among_places_nodup (proper : entries.AreProper) (absolute : path.isAbsolute = true) :
    ((among hidden path entries).filterMap place?).Nodup := by
  -- The outer induction is on the folders within, the inner one on the files of one folder.
  induction proper generalizing path with
  | @intro entries named apart within ih =>
    have proper : entries.AreProper := .intro named apart within
    clear named apart within
    induction entries with
    | nil => simp [among]
    | cons entry rest others =>
      obtain ⟨name, node⟩ := entry
      have restProper := proper.sublist (List.sublist_cons_self _ _)
      have named := proper.named List.mem_cons_self
      have first := Path.join_components absolute named
      have belowNodup : ((below hidden (path.join ⟨name⟩) node).filterMap place?).Nodup := by
        cases node with
        | folder times inner =>
          exact ih name times inner List.mem_cons_self (Path.join_absolute absolute named)
        | _ => simp [below]
      have restNodup := others (fun other times inner member =>
        ih other times inner (List.mem_cons_of_mem _ member)) restProper
      have beside (more : List Component) :
          path.components ++ .named name :: more ∉ (among hidden path rest).filterMap place? := by
        intro met
        obtain ⟨other, member, more', split⟩ := place_in_folder restProper absolute met
        have same : name = other := by simpa using congrArg (·[path.components.length]?) split
        exact (List.nodup_cons.mp proper.apart).1 (same ▸ member)
      have deeper {place : List Component}
          (met : place ∈ (below hidden (path.join ⟨name⟩) node).filterMap place?) :
          ∃ other more, place = path.components ++ .named name :: .named other :: more :=
        place_below proper absolute List.mem_cons_self met
      obtain ⟨places, part, split⟩ := places_among_cons hidden path name node rest
      rw [split, List.nodup_append]
      -- A file is not below itself, and what is met behind it has another name at its level.
      refine ⟨part.nodup (List.nodup_cons.mpr ⟨fun met => ?_, belowNodup⟩), restNodup, ?_⟩
      · obtain ⟨other, more, longer⟩ := deeper met
        simp [first] at longer
      · rintro place met _ met' rfl
        cases part.subset met with
        | head => exact beside [] (first ▸ met')
        | tail _ met =>
          obtain ⟨other, more, rfl⟩ := deeper met
          exact beside _ met'

end Visit

end FileSearch
