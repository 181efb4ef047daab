import FileSearch.Path.Basic
import FileSearch.Proofs.Path.Keeping

set_option autoImplicit false

namespace FileSearch.Path

theorem sameAs_comm (left right : Path) : left.sameAs right = right.sameAs left := by
  simp [sameAs, eq_comm]

theorem sameAs_self (path : Path) : path.sameAs path = true := by
  simp [sameAs]

theorem sameAs_trans (first middle last : Path) (early : first.sameAs middle = true)
    (late : middle.sameAs last = true) : first.sameAs last = true := by
  simp_all [sameAs]

theorem addNew_eq (kept paths : List Path) :
    addNew kept paths =
      kept ++ (paths.filter fun path => !path.isAmong kept).eraseDupsBy sameAs := by
  induction paths generalizing kept with
  | nil => simp [addNew]
  | cons path rest ih =>
    cases known : path.isAmong kept with
    | true => simp [addNew, known, ih]
    | false =>
      -- What is among the kept paths by now was dropped before, or it is the same as this path.
      have drops : (rest.filter fun other => !other.isAmong (kept ++ [path])) =
          (rest.filter fun other => !other.isAmong kept).filter fun other =>
            other.sameAs path = false := by
        rw [List.filter_filter]
        congr 1
        funext other
        cases same : other.sameAs path <;> simp [isAmong, same]
      rw [addNew, known, ih, List.filter_cons_of_pos (by simp [known]), List.eraseDupsBy_cons]
      simp [drops]

theorem distinct_eq (paths : List Path) : distinct paths = paths.eraseDupsBy sameAs := by
  simp [distinct, addNew_eq, isAmong]

def Apart (paths : List Path) : Prop :=
  paths.Pairwise fun left right => left.sameAs right = false

theorem addNew_eq_keepBy (kept paths : List Path) : addNew kept paths = keepBy sameAs kept paths := by
  induction paths generalizing kept with
  | nil => rfl
  | cons path rest ih => exact ih _

theorem apart_iff (paths : List Path) : Apart paths ↔ ApartBy sameAs paths := by
  have swap : (fun left right => left.sameAs right = false) =
      fun earlier later => sameAs later earlier = false := by
    funext left right
    rw [sameAs_comm]
  rw [Apart, ApartBy, swap]

theorem distinct_apart (paths : List Path) : Apart (distinct paths) := by
  rw [distinct, addNew_eq_keepBy, apart_iff]
  exact keepBy_apart sameAs [] paths List.Pairwise.nil

theorem distinct_distinct (paths : List Path) : distinct (distinct paths) = distinct paths := by
  have apart := (apart_iff _).mp (distinct_apart paths)
  rw [distinct, addNew_eq_keepBy]
  exact keepBy_of_apart sameAs [] (distinct paths) apart

theorem distinct_eq_nil_iff (paths : List Path) : distinct paths = [] ↔ paths = [] := by
  cases paths with
  | nil => simp [distinct, addNew]
  | cons path rest => simp [distinct_eq, List.eraseDupsBy_cons]

theorem isAmong_addNew (path : Path) (kept paths : List Path) :
    path.isAmong (addNew kept paths) = (path.isAmong kept || path.isAmong paths) := by
  induction paths generalizing kept with
  | nil => simp [addNew, isAmong]
  | cons first rest ih =>
    rw [addNew, ih]
    split
    next known =>
      cases same : path.sameAs first with
      | true => simp [isAmong, any_of_rel sameAs_trans same known]
      | false => simp [isAmong, same]
    next => simp [isAmong, Bool.or_assoc]

theorem addNew_append (kept first second : List Path) :
    addNew kept (first ++ second) = addNew (addNew kept first) second := by
  induction first generalizing kept with
  | nil => rfl
  | cons path rest ih => simp [addNew, ih]

theorem addNew_addNew (kept first second : List Path) :
    addNew kept (addNew first second) = addNew (addNew kept first) second := by
  induction second generalizing first with
  | nil => rfl
  | cons path rest ih =>
    rw [addNew, addNew, ih]
    cases known : path.isAmong first with
    | true => simp [isAmong_addNew, known]
    | false => simp [addNew_append, addNew]

theorem distinct_flatMap_distinct {α : Type} (lists : List α) (paths : α → List Path) :
    distinct (lists.flatMap fun list => distinct (paths list)) =
      distinct (lists.flatMap paths) := by
  have each (kept : List Path) :
      addNew kept (lists.flatMap fun list => distinct (paths list)) =
        addNew kept (lists.flatMap paths) := by
    induction lists generalizing kept with
    | nil => rfl
    | cons list rest ih =>
      rw [List.flatMap_cons, List.flatMap_cons, addNew_append, addNew_append, ih, distinct,
        addNew_addNew]
      rfl
  exact each []

-- The path is in the list, and no other spelling of it stands before it.
def IsFirst (path : Path) (paths : List Path) : Prop :=
  ∃ before after, paths = before ++ path :: after ∧ path.isAmong before = false

theorem mem_distinct_iff (path : Path) (paths : List Path) :
    path ∈ distinct paths ↔ path.IsFirst paths := by
  rw [distinct, addNew_eq_keepBy, mem_keepBy_iff sameAs_trans]
  simp [IsFirst, IsFirstBy, isAmong]

theorem distinct_sublist (paths : List Path) : (distinct paths).Sublist paths := by
  obtain ⟨more, within, split⟩ := keepBy_sublist sameAs [] paths
  rwa [distinct, addNew_eq_keepBy, split]

theorem mem_of_mem_distinct {path : Path} {paths : List Path} (member : path ∈ distinct paths) :
    path ∈ paths :=
  (distinct_sublist paths).subset member

end FileSearch.Path
