import FileSearch.Index.Memory
import FileSearch.Proofs.Query.Meaning
import FileSearch.Proofs.Text.Context

set_option autoImplicit false

namespace FileSearch

-- An attribute of a file is a text, and it is searched in lower case.
structure Attributes.Shows (file : Attributes) (attr : Attribute) (value : String) : Prop where
  reads : file.text attr = some value
  searched : ∀ needle, file.containsText attr needle = Text.contains (Text.lowercase value) needle

def Filter.Accepts (filter : Filter) (file : Attributes) : Prop :=
  ∃ part, filter.condition = some part ∧ part.holds file = true

-- An extension that cleaning leaves as it is.
structure IsCleanExtension (extension : String) : Prop where
  nonempty : extension ≠ ""
  trim : Text.trimmed extension = extension
  dotless : extension.toList.head? ≠ some '.'

namespace Filter

theorem accepts_iff (filter : Filter) (file : Attributes) :
    filter.Accepts file ↔ filter.IsActive ∧ filter.IsMet file := by
  rw [isActive_iff]
  constructor
  · rintro ⟨part, made, holds⟩
    exact ⟨⟨part, made⟩, (filter.condition_holds_iff file part made).mp holds⟩
  · rintro ⟨⟨part, made⟩, met⟩
    exact ⟨part, made, (filter.condition_holds_iff file part made).mpr met⟩

theorem cleanExtension_clean (extension : String) (clean : IsCleanExtension extension) :
    cleanExtension extension = extension := by
  have trim : Text.trim extension.toList = extension.toList := by
    have same := congrArg String.toList clean.trim
    rwa [Text.trimmed, String.toList_ofList] at same
  have stripped : extension.toList.dropWhile (· = '.') = extension.toList := by
    cases listed : extension.toList with
    | nil => rfl
    | cons c rest =>
      have other : c ≠ '.' := by simpa [listed] using clean.dotless
      simp [other]
  rw [cleanExtension, trim, stripped, String.ofList_toList]

end Filter

theorem Attributes.Shows.contains_iff (file : Attributes) (attr : Attribute) (value text : String)
    (shows : file.Shows attr value) :
    file.containsText attr (Text.lowercase text) = true ↔
      Text.lower text.toList <:+: Text.lower value.toList := by
  rw [shows.searched, Text.contains, Text.hasSlice_iff, Text.lowercase_toList,
    Text.lowercase_toList]

theorem MemoryEntry.shows_content (entry : MemoryEntry) (content : String)
    (kept : entry.content? = some content) : entry.attributes.Shows .textContent content where
  reads := kept
  searched needle := by simp [MemoryEntry.attributes, kept]

-- A file that reads as one text throughout.
def Attributes.ofText (value : String) : Attributes where
  text _ := some value
  bytes _ := none
  time _ := none

theorem Attributes.ofText_shows (attr : Attribute) (value : String) :
    (ofText value).Shows attr value :=
  ⟨rfl, fun _ => rfl⟩

namespace Filter

section

variable (file : Attributes) (text value : String)

theorem fileName_accepts_iff (nonempty : text ≠ "") (shows : file.Shows .fileName value) :
    (fileName text).Accepts file ↔ Text.lower text.toList <:+: Text.lower value.toList := by
  rw [accepts_iff, ← shows.contains_iff file .fileName value text]
  exact and_iff_right nonempty

theorem content_accepts_iff (nonempty : text ≠ "") (shows : file.Shows .textContent value) :
    (content text).Accepts file ↔ Text.lower text.toList <:+: Text.lower value.toList := by
  rw [accepts_iff, ← shows.contains_iff file .textContent value text]
  exact and_iff_right nonempty

theorem extension_accepts_iff (clean : IsCleanExtension text)
    (reads : file.text .fileName = some value) :
    (extensions [text]).Accepts file ↔
      Text.lower ('.' :: text.toList) <:+ Text.lower value.toList := by
  have listed (extension : String) : Lists [text] extension ↔ extension = text := by
    rw [lists_iff, List.map_singleton, List.mem_singleton, cleanExtension_clean text clean]
    exact and_iff_left_of_imp fun same => same ▸ clean.nonempty
  rw [accepts_iff]
  simp [IsActive, IsMet, listed, reads, Text.lowercase_toList]

end

theorem fileName_finds_iff_stable (text : String) (nonempty : text ≠ "") :
    (∀ before after file, Attributes.Shows file .fileName (before ++ text ++ after) →
      (fileName text).Accepts file) ↔ Text.Stable text.toList := by
  rw [← Text.lower_infix_iff_stable]
  constructor
  · intro finds before after
    have found := finds (String.ofList before) (String.ofList after) _
      (Attributes.ofText_shows .fileName _)
    rw [fileName_accepts_iff _ text _ nonempty (Attributes.ofText_shows .fileName _)] at found
    simpa using found
  · intro found before after file shows
    rw [fileName_accepts_iff file text _ nonempty shows]
    simpa using found before.toList after.toList

theorem content_finds_iff_stable (text : String) (nonempty : text ≠ "") :
    (∀ before after (entry : MemoryEntry), entry.content? = some (before ++ text ++ after) →
      (content text).Accepts entry.attributes) ↔ Text.Stable text.toList := by
  rw [← Text.lower_infix_iff_stable]
  constructor
  · intro finds before after
    let content := String.ofList before ++ text ++ String.ofList after
    let entry : MemoryEntry := { path := ⟨"/"⟩, content? := some content }
    have found := finds (String.ofList before) (String.ofList after) entry rfl
    rw [content_accepts_iff _ text content nonempty (entry.shows_content content rfl)] at found
    simpa [content] using found
  · intro found before after entry kept
    rw [content_accepts_iff _ text _ nonempty (entry.shows_content _ kept)]
    simpa using found before.toList after.toList

theorem extensions_find_iff_stable (extension : String) (clean : IsCleanExtension extension) :
    (∀ before file, Attributes.Shows file .fileName (before ++ "." ++ extension) →
      (extensions [extension]).Accepts file) ↔ Text.StableAtEnd ('.' :: extension.toList) := by
  rw [← Text.lower_suffix_iff_stableAtEnd]
  constructor
  · intro finds before
    have found := finds (String.ofList before) _ (Attributes.ofText_shows .fileName _)
    rw [extension_accepts_iff _ extension _ clean rfl] at found
    simpa using found
  · intro found before file shows
    rw [extension_accepts_iff file extension _ clean shows.reads]
    simpa using found before.toList

end Filter

/-- A text filter finds a literal occurrence of its text if the sigmas in it end a word there as they
do in the text alone. So it finds every occurrence exactly if the text is stable. The same goes for
an extension at the end of a name. -/
theorem literal_occurrences_found_iff_stable (text extension : String) (nonempty : text ≠ "")
    (clean : IsCleanExtension extension) :
    (∀ before after, Text.KeepsSigmas before.toList after.toList text.toList →
      (∀ file, Attributes.Shows file .fileName (before ++ text ++ after) →
        (Filter.fileName text).Accepts file) ∧
      ∀ entry : MemoryEntry, entry.content? = some (before ++ text ++ after) →
        (Filter.content text).Accepts entry.attributes) ∧
    (∀ before, Text.KeepsSigmas before.toList [] ('.' :: extension.toList) →
      ∀ file, Attributes.Shows file .fileName (before ++ "." ++ extension) →
        (Filter.extensions [extension]).Accepts file) ∧
    ((∀ before after file, Attributes.Shows file .fileName (before ++ text ++ after) →
        (Filter.fileName text).Accepts file) ↔ Text.Stable text.toList) ∧
    ((∀ before after (entry : MemoryEntry), entry.content? = some (before ++ text ++ after) →
        (Filter.content text).Accepts entry.attributes) ↔ Text.Stable text.toList) ∧
    ((∀ before file, Attributes.Shows file .fileName (before ++ "." ++ extension) →
        (Filter.extensions [extension]).Accepts file) ↔
      Text.StableAtEnd ('.' :: extension.toList)) := by
  refine ⟨?_, ?_, Filter.fileName_finds_iff_stable text nonempty,
    Filter.content_finds_iff_stable text nonempty,
    Filter.extensions_find_iff_stable extension clean⟩
  · intro before after keeps
    have found := Text.infix_of_keepsSigmas before.toList after.toList text.toList keeps
    constructor
    · intro file shows
      rw [Filter.fileName_accepts_iff file text _ nonempty shows]
      simpa using found
    · intro entry kept
      rw [Filter.content_accepts_iff _ text _ nonempty (entry.shows_content _ kept)]
      simpa using found
  · intro before keeps file shows
    have found := Text.suffix_of_keepsSigmas before.toList ('.' :: extension.toList) keeps
    rw [Filter.extension_accepts_iff file extension _ clean shows.reads]
    simpa using found

-- A capital sigma is not found where it ends a word, neither as a text nor as an extension.
theorem sigma_not_found_at_end_of_word :
    ("Σ" ≠ "" ∧ IsCleanExtension "Σ") ∧
      ¬ (∀ before after file, Attributes.Shows file .fileName (before ++ "Σ" ++ after) →
        (Filter.fileName "Σ").Accepts file) ∧
      ¬ (∀ before file, Attributes.Shows file .fileName (before ++ "." ++ "Σ") →
        (Filter.extensions ["Σ"]).Accepts file) ∧
      ¬ (Filter.fileName "Σ").Accepts (Attributes.ofText "AΣ") ∧
      ¬ (Filter.content "Σ").Accepts (Attributes.ofText "AΣ") ∧
      ¬ (Filter.extensions ["Σ"]).Accepts (Attributes.ofText "A.Σ") := by
  have clean : IsCleanExtension "Σ" := ⟨by decide, by decide +kernel, by decide⟩
  have found := literal_occurrences_found_iff_stable "Σ" "Σ" (by decide) clean
  have alone : ¬ Text.lower "Σ".toList <:+: Text.lower "AΣ".toList := by decide +kernel
  have ending : ¬ Text.lower ('.' :: "Σ".toList) <:+ Text.lower "A.Σ".toList := by decide +kernel
  have unstable : ¬ Text.Stable "Σ".toList := by
    intro stable
    have decided := stable [] [] rfl
    simp [Text.Counts, Text.meetsCased] at decided
  have unstableAtEnd : ¬ Text.StableAtEnd ('.' :: "Σ".toList) := by
    intro stable
    have dot : Text.isCaseIgnorable '.' = true := by decide +kernel
    have decided := stable ['.'] [] rfl
    simp [Text.Counts, Text.meetsCased, dot] at decided
  refine ⟨⟨by decide, clean⟩, fun every => unstable (found.2.2.1.mp every),
    fun every => unstableAtEnd (found.2.2.2.2.mp every), ?_, ?_, ?_⟩
  · rwa [Filter.fileName_accepts_iff _ "Σ" "AΣ" (by decide) (Attributes.ofText_shows _ _)]
  · rwa [Filter.content_accepts_iff _ "Σ" "AΣ" (by decide) (Attributes.ofText_shows _ _)]
  · rwa [Filter.extension_accepts_iff _ "Σ" "A.Σ" clean rfl]

end FileSearch
