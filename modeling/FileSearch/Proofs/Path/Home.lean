import FileSearch.Proofs.Path.Joining
import FileSearch.Proofs.Text.Trimming

set_option autoImplicit false

namespace FileSearch.Path

section Normal

variable (chars : List Char)

theorem slashed_append (more : List Char) : slashed (chars ++ more) = slashed chars ++ slashed more :=
  List.map_append

theorem closed_slashes (slashes : '\\' ∉ chars) : '\\' ∉ closed chars := by
  rw [closed]
  split <;> simp [slashes]

theorem named_parts_normalChars :
    (parts (normalChars chars)).filterMap Component.ofPart? =
      (parts (slashed chars)).filterMap Component.ofPart? := by
  rw [← named_parts_stem (slashed chars), normalChars_eq]
  split
  next none => simp [none, parts, Component.ofPart?]
  next => rfl

theorem components_from_root {path : Path} (absolute : path.isAbsolute = true) :
    path.components = .root :: (parts path.text.toList).filterMap Component.ofPart? := by
  simp [components, absolute]

theorem components_normalText {path : Path} (absolute : path.isAbsolute = true) :
    components ⟨normalText path.text⟩ =
      .root :: (parts (slashed path.text.toList)).filterMap Component.ofPart? := by
  have settled := (normalText_isSettled path absolute).absolute
  rw [components_from_root settled, normalText, String.toList_ofList, named_parts_normalChars]

end Normal

-- The components of a path go on from those of another.
def StaysUnder (path outer : Path) : Prop :=
  outer.components <+: path.components

theorem staysUnder_join {outer inner : Path} (absolute : outer.isAbsolute = true)
    (slashes : '\\' ∉ outer.text.toList) (relative : inner.isAbsolute = false) :
    StaysUnder ⟨normalText (outer.join inner).text⟩ outer := by
  have joined := named_parts_closed outer.text.toList (slashed inner.text.toList)
  have whole : slashed (outer.join inner).text.toList =
      closed outer.text.toList ++ slashed inner.text.toList := by
    rw [chars_join absolute relative, slashed_append,
      slashed_eq_self _ (closed_slashes _ slashes)]
  rw [StaysUnder, components_normalText (isAbsolute_join absolute relative), whole, joined,
    components_from_root absolute]
  exact ⟨_, rfl⟩

section Reading

-- What stands behind the tilde and the slash, without white space at the end.
def trimmedRest (rest : String) : Path :=
  ⟨String.ofList (Text.trimRight rest.toList)⟩

theorem isAbsolute_trimmedRest (rest : String) :
    (trimmedRest rest).isAbsolute = true ↔ rest.toList.head? = some '/' := by
  simp only [trimmedRest, isAbsolute, String.toList_ofList, decide_eq_true_eq]
  constructor
  · intro slash
    obtain ⟨blanks, split⟩ := List.rdropWhile_prefix Text.isBlank rest.toList
    rw [← split, ← Text.trimRight_eq, List.head?_append, slash]
    rfl
  · intro slash
    obtain ⟨more, split⟩ := List.head?_eq_some_iff.mp slash
    rw [split, Text.trimRight_cons '/' more (by decide)]
    rfl

theorem trimmed_tilde (rest : String) :
    Text.trimmed ("~/" ++ rest) = "~/" ++ (trimmedRest rest).text := by
  have slash := Text.trimRight_cons '/' rest.toList (by decide)
  have tilde := Text.trim_cons '~' ('/' :: rest.toList) (by decide)
  rw [slash] at tilde
  apply String.toList_injective
  simpa [Text.trimmed, trimmedRest] using tilde

theorem trimmed_slash {rest : String} (slash : rest.toList.head? = some '/') :
    Text.trimmed rest = (trimmedRest rest).text := by
  obtain ⟨more, split⟩ := List.head?_eq_some_iff.mp slash
  rw [Text.trimmed, trimmedRest, split, Text.trim_cons '/' more (by decide),
    Text.trimRight_cons '/' more (by decide)]

theorem expand_tilde (home rest : String) :
    expand (some home) ("~/" ++ rest) = .ok (join ⟨home⟩ ⟨rest⟩) := by
  have chars : ("~/" ++ rest).toList = '~' :: '/' :: rest.toList := by simp
  simp [expand, chars]

theorem expand_absolute (home : Option String) {path : Path} (absolute : path.isAbsolute = true) :
    expand home path.text = .ok path := by
  have slash : path.text.toList.head? = some '/' := by simpa [isAbsolute] using absolute
  obtain ⟨more, split⟩ := List.head?_eq_some_iff.mp slash
  simp [expand, split]

theorem ofScopeText_of_expand {home : Option String} {raw : String} {path : Path}
    (some : Text.trimmed raw ≠ "") (expands : expand home (Text.trimmed raw) = .ok path)
    (absolute : path.isAbsolute = true) : ofScopeText home raw = .ok ⟨normalText path.text⟩ := by
  have full : (Text.trimmed raw).isEmpty = false := by simpa using some
  simp [ofScopeText, full, expands, absolute, bind, Except.bind]

theorem ofScopeText_slash (home : Option String) {rest : String}
    (slash : rest.toList.head? = some '/') :
    ofScopeText home rest = .ok ⟨normalText (trimmedRest rest).text⟩ := by
  have absolute := (isAbsolute_trimmedRest rest).mpr slash
  have text := trimmed_slash slash
  refine ofScopeText_of_expand ?_ (by rw [text, expand_absolute home absolute]) absolute
  rw [text]
  intro none
  simp [isAbsolute, none] at absolute

theorem ofScopeText_tilde {home rest : String}
    (absolute : (join ⟨home⟩ (trimmedRest rest)).isAbsolute = true) :
    ofScopeText (some home) ("~/" ++ rest) =
      .ok ⟨normalText (join ⟨home⟩ (trimmedRest rest)).text⟩ := by
  have text := trimmed_tilde rest
  refine ofScopeText_of_expand ?_ (by rw [text]; exact expand_tilde home _) absolute
  rw [text]
  intro none
  simpa using congrArg String.toList none

end Reading

theorem tilde_relative (home rest : String) (absolute : isAbsolute ⟨home⟩ = true)
    (slashes : '\\' ∉ home.toList) (single : rest.toList.head? ≠ some '/') :
    ∃ path, ofScopeText (some home) ("~/" ++ rest) = .ok path ∧ path.StaysUnder ⟨home⟩ := by
  have relative : (trimmedRest rest).isAbsolute = false := by
    rwa [Bool.eq_false_iff, ne_eq, isAbsolute_trimmedRest]
  exact ⟨_, ofScopeText_tilde (isAbsolute_join absolute relative),
    staysUnder_join absolute slashes relative⟩

theorem tilde_absolute (home rest : String) (double : rest.toList.head? = some '/') :
    ofScopeText (some home) ("~/" ++ rest) = ofScopeText none rest := by
  have absolute := (isAbsolute_trimmedRest rest).mpr double
  have replaced : join ⟨home⟩ (trimmedRest rest) = trimmedRest rest := by
    simp [join, absolute]
  rw [ofScopeText_slash none double, ofScopeText_tilde (by rw [replaced, absolute]), replaced]

/-- What stands behind a tilde and a slash leads to a path below the home directory, unless it starts
with a second slash: then it is read as it would be without the tilde. So all such paths stay below
the home directory only if that is the root. -/
theorem tilde_stays_home_iff (home : String) (absolute : isAbsolute ⟨home⟩ = true)
    (slashes : '\\' ∉ home.toList) :
    (∀ rest : String, rest.toList.head? ≠ some '/' →
        ∃ path, ofScopeText (some home) ("~/" ++ rest) = .ok path ∧ path.StaysUnder ⟨home⟩) ∧
      (∀ rest : String, rest.toList.head? = some '/' →
        ofScopeText (some home) ("~/" ++ rest) = ofScopeText none rest) ∧
      ((∀ rest path, ofScopeText (some home) ("~/" ++ rest) = .ok path → path.StaysUnder ⟨home⟩) ↔
        components ⟨home⟩ = [.root]) := by
  refine ⟨fun rest => tilde_relative home rest absolute slashes, tilde_absolute home, ?_⟩
  constructor
  · intro stays
    have root : ofScopeText none "/" = .ok ⟨"/"⟩ := by decide +kernel
    have below := stays "/" ⟨"/"⟩ (by rw [tilde_absolute home "/" rfl, root])
    have start := components_from_root absolute
    have only : components ⟨"/"⟩ = [.root] := by decide +kernel
    rw [StaysUnder, only, start, List.cons_prefix_cons, List.prefix_nil] at below
    rw [start, below.2]
  · intro root rest path read
    have whole := components_from_root (ofScopeText_isSettled (some home) read).absolute
    rw [StaysUnder, root, whole]
    exact ⟨_, rfl⟩

theorem second_slash_leaves_home :
    isAbsolute ⟨"/home/tester"⟩ = true ∧ '\\' ∉ "/home/tester".toList ∧
      ofScopeText (some "/home/tester") "~//etc" = .ok ⟨"/etc"⟩ ∧
      ¬ StaysUnder ⟨"/etc"⟩ ⟨"/home/tester"⟩ ∧
      StaysUnder ⟨"/home/tester/etc"⟩ ⟨"/home/tester"⟩ := by
  have absolute : isAbsolute ⟨"/home/tester"⟩ = true := by decide +kernel
  have slashes : '\\' ∉ "/home/tester".toList := by decide +kernel
  obtain ⟨relative, double, -⟩ := tilde_stays_home_iff "/home/tester" absolute slashes
  have etc : ofScopeText none "/etc" = .ok ⟨"/etc"⟩ := by decide +kernel
  refine ⟨absolute, slashes, (double "/etc" rfl).trans etc, ?_, ?_⟩
  · rw [StaysUnder]
    decide +kernel
  · obtain ⟨path, read, below⟩ := relative "etc" (by decide)
    have made : ofScopeText (some "/home/tester") ("~/" ++ "etc") = .ok ⟨"/home/tester/etc"⟩ := by
      decide +kernel
    rw [made] at read
    cases read
    exact below

end FileSearch.Path
