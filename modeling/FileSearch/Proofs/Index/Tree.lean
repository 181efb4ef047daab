import FileSearch.Proofs.Path.Joining

set_option autoImplicit false

namespace FileSearch

namespace Entries

-- The folder that a chain of names leads to through folders, not through links.
def inner? : Entries → List String → Option Entries
  | here, [] => some here
  | here, name :: rest =>
    match here.lookup name with
    | some (.folder _ entries) => inner? entries rest
    | _ => none

-- The files in a folder and in all folders within have names of files, each its own.
inductive AreProper : Entries → Prop
  | intro {entries : Entries} (named : ∀ entry ∈ entries, IsFileName entry.1)
      (apart : (entries.map Prod.fst).Nodup)
      (within : ∀ name times inner, (name, Node.folder times inner) ∈ entries → AreProper inner) :
      AreProper entries

-- There are no links in a folder and in all folders within.
inductive AreLinkless : Entries → Prop
  | intro {entries : Entries} (none : ∀ name times target, (name, Node.link times target) ∉ entries)
      (within : ∀ name times inner, (name, Node.folder times inner) ∈ entries →
        AreLinkless inner) :
      AreLinkless entries

theorem areLinkless_singleton {name : String} {node : Node}
    (notLink : ∀ times target, node ≠ .link times target)
    (inside : ∀ times (inner : Entries), node = .folder times inner → inner.AreLinkless) :
    AreLinkless [(name, node)] := by
  refine .intro (fun other times target member => ?_) fun other times inner member => ?_
  · exact notLink times target (Prod.mk.inj (List.mem_singleton.mp member)).2.symm
  · exact inside times inner (Prod.mk.inj (List.mem_singleton.mp member)).2.symm

theorem mem_of_lookup {entries : Entries} {name : String} {node : Node}
    (found : entries.lookup name = some node) : (name, node) ∈ entries := by
  obtain ⟨before, after, rfl, -⟩ := List.lookup_eq_some_iff.mp found
  simp

theorem mem_iff_lookup {entries : Entries} (apart : (entries.map Prod.fst).Nodup) (name : String)
    (node : Node) : (name, node) ∈ entries ↔ entries.lookup name = some node := by
  refine ⟨fun member => ?_, mem_of_lookup⟩
  obtain ⟨before, after, rfl⟩ := List.append_of_mem member
  refine List.lookup_eq_some_iff.mpr ⟨before, after, rfl, fun earlier listed => ?_⟩
  rw [List.map_append, List.nodup_append] at apart
  have differ := apart.2.2 earlier.1 (List.mem_map_of_mem listed) name (by simp)
  simpa using differ.symm

theorem inner?_append (here : Entries) (names more : List String) :
    inner? here (names ++ more) = (inner? here names).bind (inner? · more) := by
  induction names generalizing here with
  | nil => rfl
  | cons name rest ih =>
    rw [List.cons_append, inner?, inner?]
    split
    next times entries found => exact ih entries
    next => rfl

theorem inner?_one {here inside : Entries} {name : String} :
    inner? here [name] = some inside ↔ ∃ times, here.lookup name = some (.folder times inside) := by
  rw [inner?]
  split
  next times entries found => simp [inner?, found]
  next other =>
    simp only [false_iff, reduceCtorEq]
    rintro ⟨times, found⟩
    exact other times inside found

theorem areProper_nil : AreProper [] :=
  .intro (by simp) List.nodup_nil (by simp)

namespace AreProper

variable {entries inside : Entries} (proper : entries.AreProper)
include proper

theorem named {entry : String × Node} (member : entry ∈ entries) : IsFileName entry.1 := by
  obtain ⟨named, -, -⟩ := proper
  exact named entry member

theorem apart : (entries.map Prod.fst).Nodup := by
  obtain ⟨-, apart, -⟩ := proper
  exact apart

theorem within {name : String} {times : Times} {inner : Entries}
    (member : (name, Node.folder times inner) ∈ entries) : inner.AreProper := by
  obtain ⟨-, -, within⟩ := proper
  exact within name times inner member

theorem sublist {part : Entries} (among : part.Sublist entries) : part.AreProper :=
  .intro (fun _ member => proper.named (among.subset member))
    (proper.apart.sublist (among.map Prod.fst))
    (fun _ _ _ member => proper.within (among.subset member))

theorem lookup_iff (name : String) (node : Node) :
    entries.lookup name = some node ↔ (name, node) ∈ entries :=
  (mem_iff_lookup proper.apart name node).symm

theorem inner {names : List String} (open' : inner? entries names = some inside) :
    inside.AreProper ∧ ∀ name ∈ names, IsFileName name := by
  induction names generalizing entries with
  | nil =>
    cases open'
    exact ⟨proper, by simp⟩
  | cons name rest ih =>
    rw [inner?] at open'
    split at open'
    next times inner found =>
      have member := (proper.lookup_iff name _).mp found
      obtain ⟨good, named⟩ := ih (proper.within member) open'
      exact ⟨good, List.forall_mem_cons.mpr ⟨proper.named member, named⟩⟩
    next => cases open'

end AreProper

section Insert

theorem mem_put {entries : Entries} {name : String} {node : Node} {entry : String × Node}
    (member : entry ∈ put name node entries) : entry = (name, node) ∨ entry ∈ entries := by
  induction entries with
  | nil => exact .inl (List.mem_singleton.mp member)
  | cons first rest ih =>
    obtain ⟨other, old⟩ := first
    rw [put] at member
    split at member
    next => exact (List.mem_cons.mp member).imp_right (List.mem_cons_of_mem _)
    next =>
      cases member with
      | head => exact .inr List.mem_cons_self
      | tail _ member => exact (ih member).imp_right (List.mem_cons_of_mem _)

theorem nodup_put {entries : Entries} (apart : (entries.map Prod.fst).Nodup) (name : String)
    (node : Node) : ((put name node entries).map Prod.fst).Nodup := by
  induction entries with
  | nil => exact List.nodup_cons.mpr ⟨List.not_mem_nil, List.nodup_nil⟩
  | cons first rest ih =>
    obtain ⟨other, old⟩ := first
    obtain ⟨new, others⟩ := List.nodup_cons.mp apart
    rw [put]
    split
    next same => exact same ▸ apart
    next differ =>
      refine List.nodup_cons.mpr ⟨fun known => ?_, ih others⟩
      obtain ⟨entry, member, same⟩ := List.mem_map.mp known
      rcases mem_put member with rfl | member
      · exact differ same.symm
      · exact new (List.mem_map.mpr ⟨entry, member, same⟩)

theorem merge_eq (old? : Option Node) (new : Node) :
    merge old? new = new ∨
      ∃ old times entries, old? = some (.folder old entries) ∧
        merge old? new = .folder times entries := by
  rw [merge.eq_def]
  split
  next old entries times => exact .inr ⟨old, times, entries, rfl, rfl⟩
  next => exact .inl rfl

theorem AreProper.put {entries : Entries} (proper : entries.AreProper) {name : String}
    (named : IsFileName name) {node : Node}
    (inside : ∀ times (inner : Entries), node = .folder times inner → inner.AreProper) :
    (put name node entries).AreProper := by
  refine .intro (fun entry member => ?_) (nodup_put proper.apart name node)
    fun other times inner member => ?_
  · rcases mem_put member with rfl | member
    · exact named
    · exact proper.named member
  · rcases mem_put member with same | member
    · exact inside times inner (Prod.mk.inj same).2.symm
    · exact proper.within member

theorem AreProper.insert {node : Node}
    (inside : ∀ times (inner : Entries), node = .folder times inner → inner.AreProper)
    {names : List String} (named : ∀ name ∈ names, IsFileName name) {entries : Entries}
    (proper : entries.AreProper) : (insert node names entries).AreProper := by
  fun_induction Entries.insert node names entries with
  | case1 entries => exact proper
  | case2 name entries =>
    -- A folder that is added in place of a folder keeps what is in that one.
    refine proper.put (named name List.mem_cons_self) fun times inner same => ?_
    rcases merge_eq (entries.lookup name) node with new | ⟨old, times', kept, found, merged⟩
    · exact inside times inner (new.symm.trans same)
    · cases merged.symm.trans same
      exact proper.within (mem_of_lookup found)
  | case3 name rest entries some times inner found ih =>
    obtain ⟨first, others⟩ := List.forall_mem_cons.mp named
    refine proper.put first fun times' inner' same => ?_
    cases same
    exact ih others (proper.within (mem_of_lookup found))
  | case4 name rest entries some other ih =>
    obtain ⟨first, others⟩ := List.forall_mem_cons.mp named
    refine proper.put first fun times' inner' same => ?_
    cases same
    exact ih others areProper_nil

end Insert

end Entries

namespace Tree

variable (top : Entries) (links : Nat) (here : Entries) (outer : List Entries)

theorem follow_append (steps : List Component) :
    (∃ links' inside outer', follow top links here outer steps = some (.folder inside) ∧
        ∀ more, follow top links here outer (steps ++ more) =
          follow top links' inside outer' more) ∨
      (∀ inside, follow top links here outer steps ≠ some (.folder inside)) ∧
        ∀ more, more ≠ [] → follow top links here outer (steps ++ more) = none := by
  -- The induction is on the steps as they are taken, so that those of a link come in between.
  fun_induction follow top links here outer steps with
  | case1 links here outer => exact .inl ⟨links, here, outer, rfl, fun more => rfl⟩
  | case2 links here outer rest ih => simpa only [List.cons_append, follow] using ih
  | case3 links here outer rest ih => simpa only [List.cons_append, follow] using ih
  | case4 links here rest ih => simpa only [List.cons_append, follow] using ih
  | case5 links here rest above outer ih => simpa only [List.cons_append, follow] using ih
  | case6 links here outer name rest missing =>
    exact .inr ⟨by simp, fun more some => by simp [follow, missing]⟩
  | case7 links here outer name rest times entries found ih =>
    simpa only [List.cons_append, follow, found] using ih
  | case8 here outer name rest times target found =>
    exact .inr ⟨by simp, fun more some => by simp [follow, found]⟩
  | case9 here outer name rest times target found links ih =>
    simpa only [List.cons_append, follow, found, List.append_assoc] using ih
  | case10 links here outer name rest node notFolder notLink found last =>
    refine .inr ⟨by simp, fun more some => ?_⟩
    rw [List.cons_append, follow, found]
    simp [some]
  | case11 links here outer name rest node notFolder notLink found between =>
    refine .inr ⟨by simp, fun more some => ?_⟩
    rw [List.cons_append, follow, found]
    simp [some]

variable {top here}

theorem follow_current {inside : Entries} (steps : List Component) :
    follow top links here outer (steps ++ [.current]) = some (.folder inside) ↔
      follow top links here outer steps = some (.folder inside) := by
  rcases follow_append top links here outer steps with
    ⟨links', entries, outer', leads, further⟩ | ⟨nowhere, blocked⟩
  · rw [further, leads, follow, follow]
  · simp [blocked, nowhere inside]

theorem follow_named {inside : Entries} {names : List String}
    (open' : here.inner? names = some inside) :
    follow top links here outer (names.map .named) = some (.folder inside) := by
  induction names generalizing here outer with
  | nil =>
    cases open'
    rw [List.map_nil, follow]
  | cons name rest ih =>
    rw [Entries.inner?] at open'
    split at open'
    next times entries found =>
      rw [List.map_cons, follow, found]
      exact ih _ open'
    next => cases open'

theorem inner?_of_follow {inside : Entries} {names : List String} (linkless : here.AreLinkless)
    (leads : follow top links here outer (names.map .named) = some (.folder inside)) :
    here.inner? names = some inside := by
  induction names generalizing here outer with
  | nil =>
    rw [List.map_nil, follow] at leads
    cases leads
    rfl
  | cons name rest ih =>
    obtain ⟨none, within⟩ := linkless
    rw [List.map_cons, follow] at leads
    rw [Entries.inner?]
    split at leads
    next => cases leads
    next times entries found =>
      rw [found]
      exact ih _ (within name times entries (Entries.mem_of_lookup found)) leads
    next times target found => exact absurd (Entries.mem_of_lookup found) (none name times target)
    next => split at leads <;> cases leads

theorem follow_areProper {inside : Entries} {steps : List Component} (proper : top.AreProper)
    (proper' : here.AreProper) (around : ∀ entries ∈ outer, entries.AreProper)
    (leads : follow top links here outer steps = some (.folder inside)) : inside.AreProper := by
  -- The folders on the way down are carried along, since a step up comes back to them.
  fun_induction follow top links here outer steps with
  | case1 links here outer =>
    cases leads
    exact proper'
  | case2 links here outer rest ih => exact ih proper (by simp) leads
  | case3 links here outer rest ih => exact ih proper' around leads
  | case4 links here rest ih => exact ih proper' around leads
  | case5 links here rest above outer ih =>
    obtain ⟨first, others⟩ := List.forall_mem_cons.mp around
    exact ih first others leads
  | case7 links here outer name rest times entries found ih =>
    have inner := proper'.within ((proper'.lookup_iff name _).mp found)
    exact ih inner (List.forall_mem_cons.mpr ⟨proper', around⟩) leads
  | case9 here outer name rest times target found links ih => exact ih proper' around leads
  | _ => cases leads

end Tree

theorem Path.steps_eq (path : Path) :
    path.steps = path.components ∨ path.steps = path.components ++ [.current] := by
  rw [steps]
  split <;> simp

namespace Tree

def IsProper (tree : Tree) : Prop := tree.top.AreProper

variable {tree : Tree} {path : Path} {entries inside : Entries}

theorem folder?_iff :
    tree.folder? path = some entries ↔
      path.isTooLong = false ∧ path.isAbsolute = true ∧
        follow tree.top maxLinks tree.top [] path.components = some (.folder entries) := by
  have steps : follow tree.top maxLinks tree.top [] path.steps = some (.folder entries) ↔
      follow tree.top maxLinks tree.top [] path.components = some (.folder entries) := by
    rcases path.steps_eq with same | more
    · rw [same]
    · rw [more, follow_current]
  rw [← steps, folder?, find?]
  by_cases refused : (path.isTooLong || !path.isAbsolute) = true
  · rw [if_pos refused]
    cases long : path.isTooLong <;> cases absolute : path.isAbsolute <;> simp_all
  · obtain ⟨fits, absolute⟩ : path.isTooLong = false ∧ path.isAbsolute = true := by
      simpa using refused
    rw [if_neg refused, and_iff_right fits, and_iff_right absolute]
    cases follow tree.top maxLinks tree.top [] path.steps with
    | none => simp
    | some place => cases place <;> simp

theorem find?_join {name : String} (absolute : path.isAbsolute = true) (named : IsFileName name)
    (fits : (path.join ⟨name⟩).isTooLong = false) :
    tree.find? (path.join ⟨name⟩) =
      follow tree.top maxLinks tree.top [] (path.join ⟨name⟩).components := by
  rw [find?, fits, Path.join_absolute absolute named, Path.join_steps absolute named]
  rfl

theorem folder?_areProper (proper : tree.IsProper) (leads : tree.folder? path = some entries) :
    entries.AreProper :=
  follow_areProper maxLinks [] proper proper (by simp) (folder?_iff.mp leads).2.2

theorem folder?_of_inner? (names : List String) (fits : path.isTooLong = false)
    (absolute : path.isAbsolute = true) (split : path.components = .root :: names.map .named)
    (opens : tree.top.inner? names = some entries) : tree.folder? path = some entries := by
  refine folder?_iff.mpr ⟨fits, absolute, ?_⟩
  rw [split, follow]
  exact follow_named _ _ opens

theorem inner?_of_folder? {names : List String} (linkless : tree.top.AreLinkless)
    (leads : tree.folder? path = some entries) (split : path.components = .root :: names.map .named) :
    tree.top.inner? names = some entries := by
  obtain ⟨-, -, leads⟩ := folder?_iff.mp leads
  rw [split, follow] at leads
  exact inner?_of_follow _ _ linkless leads

theorem folder?_of_components {outer inner : Path} {names : List String}
    (leads : tree.folder? outer = some entries) (open' : entries.inner? names = some inside)
    (longer : inner.components = outer.components ++ names.map .named)
    (fits : inner.isTooLong = false) (absolute : inner.isAbsolute = true) :
    tree.folder? inner = some inside := by
  refine folder?_iff.mpr ⟨fits, absolute, ?_⟩
  have leads := (folder?_iff.mp leads).2.2
  rw [longer]
  rcases follow_append tree.top maxLinks tree.top [] outer.components with
    ⟨links', entries', outer', leads', further⟩ | ⟨nowhere, -⟩
  · cases leads.symm.trans leads'
    rw [further, follow_named _ _ open']
  · exact absurd leads (nowhere entries)

end Tree

end FileSearch
