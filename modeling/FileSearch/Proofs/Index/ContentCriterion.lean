import FileSearch.Index.Memory
import FileSearch.Index.Walk
import FileSearch.Proofs.Content.InPlace

set_option autoImplicit false

namespace FileSearch

open Content Text

theorem walk_holds (tree : Tree) (path : Path) (node? : Option Node) (bytes : ByteArray)
    (needle : String) (stored : tree.content path = .file bytes) (small : bytes.size ≤ maxFileSize)
    (full : needle ≠ "") :
    Predicate.holds (Visit.attributes tree false path node?) (.contains .textContent needle) =
      scanFrom (.ofText needle) bytes [] 0 := by
  have lowered : lowercase needle ≠ "" := by
    intro empty
    have chars := lower_ne_nil needle.toList (fun none => full (String.toList_eq_nil_iff.mp none))
    rw [← lowercase_toList, empty] at chars
    exact chars rfl
  -- The condition lowers the needle, and the scan lowers it once more.
  have twice : Needle.ofText (lowercase needle) = Needle.ofText needle := by
    rw [Needle.ofText, Needle.ofText, lowercase_toList, lower_lower]
  rw [Predicate.holds]
  change decide (contains? (tree.content path) (lowercase needle) false = some true) = _
  rw [stored, contains_file bytes _ small lowered, twice]
  simp

theorem memory_holds (entry : MemoryEntry) (text needle : String)
    (kept : entry.content? = some text) :
    Predicate.holds entry.attributes (.contains .textContent needle) =
      hasSlice (lower needle.toList) (lower text.toList) := by
  rw [Predicate.holds, ← lowercase_toList, ← lowercase_toList]
  simp only [MemoryEntry.attributes, kept]
  rfl

-- What is enough for windows to show a text alone as they do in their places: no sigma is in the
-- text, or none in the needle, or the text fits into one window, or no sigma is at the end of a
-- window.
def Settled (needle : Needle) (file : ByteArray) (text : List Char) : Prop :=
  'Σ' ∉ text ∨ 'σ' ∉ needle.chars ∧ 'ς' ∉ needle.chars ∨ file.size ≤ needle.capacity ∨
    ∀ window ∈ windowsFrom needle file [] 0, Enclosed (decodeLossy window.bytes)

theorem alone_iff_inPlace (needle : Needle) (window : Window) (file : ByteArray)
    (text : List Char) (stored : file.data.toList = encode text)
    (looked : window ∈ windowsFrom needle file [] 0) (some : needle.chars ≠ [])
    (settled : Settled needle file text) :
    needle.chars <:+: window.alone ↔ needle.chars <:+: window.inPlace file := by
  obtain ⟨before, chars, after, within⟩ := windowsFrom_text needle file text stored [] [] 0
    (carries_start needle file) window looked List.nil_prefix
  have plainly (enclosed : Enclosed chars) :
      needle.chars <:+: window.alone ↔ needle.chars <:+: window.inPlace file := by
    rw [within.alone, within.inPlace file stored,
      lowerBetween_enclosed before.reverse after _ enclosed]
  rcases settled with absent | free | small | enclosed
  · apply plainly
    apply enclosed_of_plain
    intro member
    apply absent
    simp [within.split, member]
  · -- A sigma of the window cannot be part of what is found, so the neighbours do not matter.
    rw [within.alone, within.inPlace file stored, lower_eq,
      infix_lowerBetween_plain [] [] chars _ some (.inr free),
      infix_lowerBetween_plain before.reverse after chars _ some (.inr free)]
  · rw [windowsFrom_small needle file text stored small window looked]
    have whole : Window.Within ⟨0, encode text⟩ text [] text [] :=
      ⟨(List.append_nil text).symm, rfl, rfl⟩
    rw [whole.alone, whole.inPlace file stored, lower_eq]
    rfl
  · apply plainly
    have around := enclosed window looked
    rwa [within.bytes, decodeLossy_encode] at around

/-- A walk and an index in memory agree on a content criterion exactly when the windows show the
text alone as they do in their places. -/
theorem content_criterion_agrees_iff (tree : Tree) (path : Path) (node? : Option Node)
    (entry : MemoryEntry) (text needle : String) (stored : tree.content path = .file text.toUTF8)
    (kept : entry.content? = some text) (small : text.utf8ByteSize ≤ maxFileSize)
    (full : needle ≠ "") :
    (Predicate.holds (Visit.attributes tree false path node?) (.contains .textContent needle) =
        Predicate.holds entry.attributes (.contains .textContent needle) ↔
      ((∃ window ∈ windowsFrom (.ofText needle) text.toUTF8 [] 0,
          lower needle.toList <:+: window.alone) ↔
        ∃ window ∈ windowsFrom (.ofText needle) text.toUTF8 [] 0,
          lower needle.toList <:+: window.inPlace text.toUTF8)) ∧
      (Settled (.ofText needle) text.toUTF8 text.toList →
        Predicate.holds (Visit.attributes tree false path node?) (.contains .textContent needle) =
          Predicate.holds entry.attributes (.contains .textContent needle)) := by
  have some := ofText_some needle full
  have chars : (Needle.ofText needle).chars = lower needle.toList := rfl
  have bytes := toUTF8_toList text
  have exactly : Predicate.holds (Visit.attributes tree false path node?)
        (.contains .textContent needle) =
        Predicate.holds entry.attributes (.contains .textContent needle) ↔
      ((∃ window ∈ windowsFrom (.ofText needle) text.toUTF8 [] 0,
          lower needle.toList <:+: window.alone) ↔
        ∃ window ∈ windowsFrom (.ofText needle) text.toUTF8 [] 0,
          lower needle.toList <:+: window.inPlace text.toUTF8) := by
    rw [walk_holds tree path node? _ needle stored small full, memory_holds entry text needle kept,
      Bool.eq_iff_iff, scanFrom_iff_alone, hasSlice_iff, ← chars,
      infix_lower_iff _ text.toUTF8 text.toList bytes some]
  refine ⟨exactly, fun settled => exactly.mpr ?_⟩
  refine exists_congr fun window => and_congr_right fun looked => ?_
  exact alone_iff_inPlace _ window _ text.toList bytes looked some settled

theorem content_of_single (bytes : ByteArray) :
    (Tree.mk [("f", .file {} bytes)]).content ⟨"/f"⟩ = .file bytes := by
  have steps : Path.steps ⟨"/f"⟩ = [.root, .named "f"] := by decide +kernel
  have usable : (Path.isTooLong ⟨"/f"⟩ || !Path.isAbsolute ⟨"/f"⟩) = false := by decide +kernel
  rw [Tree.content, Tree.find?, usable, steps]
  simp [Tree.follow]

-- A word that ends with an accent, which does not count for case, and a capital sigma.
def wordText (letters : Nat) : String :=
  String.ofList (List.replicate letters 'a' ++ ['\u0301', 'Σ'])

theorem wordText_stored (letters : Nat) :
    (wordText letters).toUTF8.data.toList =
      encode (List.replicate letters 'a' ++ ['\u0301', 'Σ']) := by
  rw [toUTF8_toList, wordText, String.toList_ofList]

theorem wordText_size (letters : Nat) : (wordText letters).toUTF8.size = letters + 4 := by
  have total := congrArg List.length (wordText_stored letters)
  rw [encode_append, List.length_append, letters_length] at total
  exact total

theorem wordText_windows (letters : Nat)
    (filled : letters + 2 = (Needle.ofText "\u0301ς").capacity) :
    windowsFrom (.ofText "\u0301ς") (wordText letters).toUTF8 [] 0 =
      [⟨0, encode (List.replicate letters 'a' ++ ['\u0301'])⟩,
        ⟨letters, encode ['\u0301', 'Σ']⟩] := by
  have overlap : (Needle.ofText "\u0301ς").overlap = 1 := by decide +kernel
  have large : 4 < (Needle.ofText "\u0301ς").capacity := by decide +kernel
  have stored := wordText_stored letters
  have size := wordText_size letters
  have length := letters_length letters
  have accent : (encode ['\u0301']).length = 2 := by decide
  have sigma : (encode ['Σ']).length = 2 := by decide
  have some : List.replicate letters 'a' ++ ['\u0301'] ≠ [] := by simp
  have begins : (encode (List.replicate letters 'a' ++ ['\u0301'])).length = letters + 2 := by
    rw [encode_append, List.length_append, length, accent]
  have ends : (encode (List.replicate letters 'a' ++ ['\u0301'] ++ ['Σ'])).length =
      (wordText letters).toUTF8.size := by
    rw [encode_append, List.length_append, begins, sigma, size]
  have first := windowsFrom_first (.ofText "\u0301ς") (wordText letters).toUTF8 [] []
    (List.replicate letters 'a' ++ ['\u0301']) ['Σ'] (by simpa using stored) some (by
      rw [begins, List.append_nil, encode_nil, List.length_nil]
      omega)
  have second := windowsFrom_first (.ofText "\u0301ς") (wordText letters).toUTF8
    (List.replicate letters 'a') ['\u0301'] ['Σ'] [] (by simpa using stored) (by simp) (by
      rw [begins, sigma, accent]
      omega)
  have kept : (List.replicate letters 'a' ++ ['\u0301']).drop
      ((List.replicate letters 'a' ++ ['\u0301']).length - 1) = ['\u0301'] := by simp
  rw [ends, windowsFrom_end, length, List.singleton_append] at second
  simp only [List.nil_append, List.append_nil, encode_nil, List.length_nil, overlap, kept,
    second] at first
  exact first

theorem wordText_small (letters : Nat) (few : letters + 4 ≤ maxFileSize) :
    (wordText letters).utf8ByteSize ≤ maxFileSize := by
  have size : (wordText letters).utf8ByteSize = letters + 4 := wordText_size letters
  rwa [size]

theorem wordText_unsettled (letters : Nat)
    (filled : letters + 2 = (Needle.ofText "\u0301ς").capacity) :
    ¬ ((∃ window ∈ windowsFrom (.ofText "\u0301ς") (wordText letters).toUTF8 [] 0,
        lower "\u0301ς".toList <:+: window.alone) ↔
      ∃ window ∈ windowsFrom (.ofText "\u0301ς") (wordText letters).toUTF8 [] 0,
        lower "\u0301ς".toList <:+: window.inPlace (wordText letters).toUTF8) := by
  have final : lower "\u0301ς".toList = ['\u0301', 'ς'] := by decide +kernel
  have stored := wordText_stored letters
  have first : Window.Within ⟨0, encode (List.replicate letters 'a' ++ ['\u0301'])⟩
      (List.replicate letters 'a' ++ ['\u0301', 'Σ']) [] (List.replicate letters 'a' ++ ['\u0301'])
      ['Σ'] :=
    ⟨by simp, rfl, rfl⟩
  have second : Window.Within ⟨letters, encode ['\u0301', 'Σ']⟩
      (List.replicate letters 'a' ++ ['\u0301', 'Σ']) (List.replicate letters 'a')
      ['\u0301', 'Σ'] [] :=
    ⟨(List.append_nil _).symm, (letters_length letters).symm, rfl⟩
  have ignored : isCaseIgnorable '\u0301' = true := by decide +kernel
  rw [wordText_windows letters filled, final]
  intro same
  -- In its place the sigma follows the letters, and it is found as the final one.
  have shown : ['\u0301', 'ς'] <:+:
      lowerBetween (List.replicate letters 'a').reverse [] ['\u0301', 'Σ'] := by
    have some : letters ≠ 0 := by
      have large : 2 < (Needle.ofText "\u0301ς").capacity := by decide +kernel
      omega
    obtain ⟨more, rfl⟩ := Nat.exists_eq_succ_of_ne_zero some
    have word : meetsCased ('\u0301' :: 'a' :: List.replicate more 'a') = true := by
      have counted : isCaseIgnorable 'a' = false := by decide +kernel
      have cased : isCased 'a' = true := by decide +kernel
      simp [meetsCased, ignored, counted, cased]
    have ends : endsWord ('\u0301' :: 'a' :: List.replicate more 'a') [] = true := by
      rw [endsWord, word]
      rfl
    have accent (before after : List Char) : lowerOne before after '\u0301' = ['\u0301'] := by
      rw [lowerOne_plain before after _ (by decide)]
      decide +kernel
    have sigma : lowerOne ('\u0301' :: 'a' :: List.replicate more 'a') [] 'Σ' = ['ς'] := by
      simp [lowerOne, pushLower, ends]
    rw [List.reverse_replicate, List.replicate_succ, lowerBetween, lowerings, lowerings, lowerings,
      accent, List.nil_append, sigma]
    exact List.infix_rfl
  obtain ⟨window, looked, found⟩ := same.mpr ⟨_, List.mem_cons_of_mem _ List.mem_cons_self, by
    rwa [second.inPlace _ stored]⟩
  -- Alone, the first window has no sigma, and the second one no letter in front of its sigma.
  rcases List.mem_cons.mp looked with rfl | looked
  · have member : 'ς' ∈ lower (List.replicate letters 'a' ++ ['\u0301']) := by
      rw [first.alone] at found
      exact found.subset (by simp)
    rw [lower_eq, lowerBetween_plain _ _ _ (by simp), List.mem_flatMap] at member
    obtain ⟨c, listed, lowered⟩ := member
    rcases List.mem_append.mp listed with letter | accent
    · rw [List.eq_of_mem_replicate letter] at lowered
      exact absurd lowered (by decide +kernel)
    · rw [List.mem_singleton.mp accent] at lowered
      exact absurd lowered (by decide +kernel)
  · rw [List.mem_singleton.mp looked, second.alone] at found
    exact absurd found (by decide +kernel)

theorem content_criterion_differs :
    Predicate.holds
        (Visit.attributes ⟨[("f", .file {} (wordText 65541).toUTF8)]⟩ false ⟨"/f"⟩ none)
        (.contains .textContent "\u0301ς") ≠
      Predicate.holds (MemoryEntry.attributes { path := ⟨"/f"⟩, content? := some (wordText 65541) })
        (.contains .textContent "\u0301ς") := by
  have small := wordText_small 65541 (by decide)
  have exactly := (content_criterion_agrees_iff _ ⟨"/f"⟩ none
    { path := ⟨"/f"⟩, content? := some (wordText 65541) } (wordText 65541) "\u0301ς"
    (content_of_single _) rfl small (by decide)).1
  intro same
  exact wordText_unsettled 65541 (by decide +kernel) (exactly.mp same)

end FileSearch
