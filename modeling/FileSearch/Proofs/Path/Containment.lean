import FileSearch.Proofs.Path.Joining

set_option autoImplicit false

namespace FileSearch.Path

theorem normalChars_eq_self {chars : List Char} (some : chars ≠ []) (slashes : '\\' ∉ chars)
    (unclosed : chars.getLast? ≠ Option.some '/') : normalChars chars = chars := by
  rw [normalChars_eq, slashed_eq_self chars slashes, stem_of_unclosed unclosed, if_neg some]

theorem normalChars_normalChars (chars : List Char) :
    normalChars (normalChars chars) = normalChars chars := by
  by_cases closed : (normalChars chars).getLast? = some '/'
  · rw [normalChars_unclosed chars closed]
    rfl
  · exact normalChars_eq_self (normalChars_ne_nil chars) (backslash_notMem_normalChars chars) closed

theorem normalText_normalText (text : String) : normalText (normalText text) = normalText text := by
  rw [normalText, normalText_toList, normalChars_normalChars, normalText]

variable {path other : Path}

theorem normalText_eq_iff :
    normalText path.text = normalText other.text ↔
      normalChars path.text.toList = normalChars other.text.toList :=
  String.ofList_inj

theorem isWithin_normalText (path outer : Path) :
    isWithin ⟨normalText path.text⟩ ⟨normalText outer.text⟩ = path.isWithin outer := by
  simp only [isWithin, normalText_toList, normalChars_normalChars]

theorem length_lt_of_isWithin (within : path.isWithin other = true)
    (apart : normalChars path.text.toList ≠ normalChars other.text.toList)
    (proper : normalChars other.text.toList ≠ ['/']) :
    (normalChars other.text.toList).length < (normalChars path.text.toList).length := by
  have below := (((isWithin_iff path other).mp within).resolve_left proper).resolve_left apart
  have long := below.length_le
  rw [List.length_append, List.length_singleton] at long
  omega

theorem normalChars_eq_of_isWithin (inner : path.isWithin other = true)
    (outer : other.isWithin path = true) :
    normalChars path.text.toList = normalChars other.text.toList := by
  by_contra apart
  -- The two are not both the root, and each of them lies in the other.
  wlog proper : normalChars other.text.toList ≠ ['/'] generalizing path other
  · refine this outer inner (Ne.symm apart) fun root => ?_
    exact apart (root.trans (not_not.mp proper).symm)
  have longer := length_lt_of_isWithin inner apart proper
  have some := List.length_pos_of_ne_nil (normalChars_ne_nil other.text.toList)
  by_cases root : normalChars path.text.toList = ['/']
  · rw [root, List.length_singleton] at longer
    omega
  · exact Nat.lt_asymm longer (length_lt_of_isWithin outer (Ne.symm apart) root)

theorem isWithin_both_iff :
    path.isWithin other = true ∧ other.isWithin path = true ↔
      normalText path.text = normalText other.text := by
  rw [normalText_eq_iff]
  constructor
  · rintro ⟨inner, outer⟩
    exact normalChars_eq_of_isWithin inner outer
  · intro same
    exact ⟨(isWithin_iff path other).mpr (.inr (.inl same)),
      (isWithin_iff other path).mpr (.inr (.inl same.symm))⟩

/-- Lying in a directory is a partial order on normal texts, and nothing else counts for it. -/
theorem containment_partial_order (path other outer : Path) :
    path.isWithin path = true ∧
      (path.isWithin other = true → other.isWithin outer = true → path.isWithin outer = true) ∧
      (path.isWithin other = true ∧ other.isWithin path = true ↔
        normalText path.text = normalText other.text) ∧
      path.isWithin other = isWithin ⟨normalText path.text⟩ ⟨normalText other.text⟩ ∧
      normalText (normalText path.text) = normalText path.text :=
  ⟨isWithin_self path, isWithin_trans path other outer, isWithin_both_iff,
    (isWithin_normalText path other).symm, normalText_normalText path.text⟩

-- Three spellings with slashes of both kinds, one directory below the other.
theorem nested_directories_contain :
    isWithin ⟨"/tmp\\docs/a.pdf"⟩ ⟨"/tmp/docs//"⟩ = true ∧
      isWithin ⟨"/tmp/docs//"⟩ ⟨"\\tmp\\"⟩ = true ∧
      isWithin ⟨"/tmp\\docs/a.pdf"⟩ ⟨"\\tmp\\"⟩ = true := by
  have inner : isWithin ⟨"/tmp\\docs/a.pdf"⟩ ⟨"/tmp/docs//"⟩ = true := by decide
  have within : isWithin ⟨"/tmp/docs//"⟩ ⟨"\\tmp\\"⟩ = true := by decide
  exact ⟨inner, within, (containment_partial_order _ _ _).2.1 inner within⟩

end FileSearch.Path
