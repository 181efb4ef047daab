import FileSearch.Proofs.Text.Lowercase
import FileSearch.Text.Blank

set_option autoImplicit false

namespace FileSearch.Text

theorem toLower_large (c : Char) (large : 0x80 ≤ c.toNat) : c.toLower = c := by
  have beyond : ¬ (c.val ≥ 'A'.val ∧ c.val ≤ 'Z'.val) := by
    rintro ⟨-, most⟩
    have small : c.toNat ≤ 0x5a := most
    omega
  exact dif_neg beyond

theorem toLower_invariant {α : Type} (f : Char → α)
    (ascii : ∀ code : Fin 128, f (Char.ofNat code).toLower = f (Char.ofNat code)) (c : Char) :
    f c.toLower = f c := by
  by_cases small : c.toNat < 0x80
  next => simpa [Char.ofNat_toNat] using ascii ⟨c.toNat, small⟩
  next => rw [toLower_large c (by omega)]

theorem isBlank_toLower (c : Char) : isBlank c.toLower = isBlank c :=
  toLower_invariant isBlank (by decide +kernel) c

theorem isCased_toLower (c : Char) : isCased c.toLower = isCased c :=
  toLower_invariant isCased (by decide +kernel) c

theorem isCaseIgnorable_toLower (c : Char) : isCaseIgnorable c.toLower = isCaseIgnorable c :=
  toLower_invariant isCaseIgnorable (by decide +kernel) c

theorem lowerPlain_toLower (c : Char) : lowerPlain c.toLower = lowerPlain c :=
  toLower_invariant lowerPlain (by decide +kernel) c

theorem isDot_toLower (c : Char) : decide (c.toLower = '.') = decide (c = '.') :=
  toLower_invariant (fun c => decide (c = '.')) (by decide +kernel) c

theorem isSigma_toLower (c : Char) : decide (c.toLower = 'Σ') = decide (c = 'Σ') :=
  toLower_invariant (fun c => decide (c = 'Σ')) (by decide +kernel) c

theorem dropWhile_toLower (p : Char → Bool) (invariant : ∀ c, p c.toLower = p c) (text : List Char) :
    (text.map Char.toLower).dropWhile p = (text.dropWhile p).map Char.toLower := by
  have same : p ∘ Char.toLower = p := funext invariant
  rw [List.dropWhile_map, same]

theorem trim_toLower (text : List Char) :
    trim (text.map Char.toLower) = (trim text).map Char.toLower := by
  have left (text : List Char) := dropWhile_toLower isBlank isBlank_toLower text
  simp only [trim, trimRight, trimLeft, left, ← List.map_reverse]

theorem meetsCased_toLower (text : List Char) :
    meetsCased (text.map Char.toLower) = meetsCased text := by
  rw [meetsCased, meetsCased, dropWhile_toLower isCaseIgnorable isCaseIgnorable_toLower]
  cases text.dropWhile isCaseIgnorable with
  | nil => rfl
  | cons c rest => exact isCased_toLower c

theorem endsWord_toLower (before after : List Char) :
    endsWord (before.map Char.toLower) (after.map Char.toLower) = endsWord before after := by
  simp only [endsWord, meetsCased_toLower]

theorem lowerOne_toLower (before after : List Char) (c : Char) :
    lowerOne (before.map Char.toLower) (after.map Char.toLower) c.toLower =
      lowerOne before after c := by
  have sigma : c.toLower = 'Σ' ↔ c = 'Σ' := by simpa using isSigma_toLower c
  by_cases final : c = 'Σ'
  next =>
    rw [sigma.mpr final, final]
    simp only [lowerOne_sigma_eq, endsWord_toLower]
  next =>
    have other : c.toLower ≠ 'Σ' := fun same => final (sigma.mp same)
    simp only [lowerOne_plain _ _ _ other, lowerOne_plain _ _ _ final, lowerPlain_toLower]

theorem lowerings_toLower (before after text : List Char) :
    lowerings (before.map Char.toLower) (after.map Char.toLower) (text.map Char.toLower) =
      lowerings before after text := by
  induction text generalizing before with
  | nil => rfl
  | cons c rest ih =>
    have head := lowerOne_toLower before (rest ++ after) c
    have tail := ih (c :: before)
    simp only [List.map_append, List.map_cons] at head tail
    simp only [List.map_cons, lowerings, head, tail]

theorem lower_toLower (text : List Char) : lower (text.map Char.toLower) = lower text := by
  have each := lowerings_toLower [] [] text
  simpa [lower_eq, lowerBetween] using congrArg List.flatten each

theorem lowercase_asciiLowercase (text : String) :
    lowercase (asciiLowercase text) = lowercase text := by
  simp only [lowercase, asciiLowercase, String.toList_ofList, lower_toLower]

theorem sameIgnoringAsciiCase_iff (left right : String) :
    sameIgnoringAsciiCase left right = true ↔ asciiLowercase left = asciiLowercase right := by
  simp [sameIgnoringAsciiCase]

theorem sameIgnoringAsciiCase_self (text : String) : sameIgnoringAsciiCase text text = true := by
  simp [sameIgnoringAsciiCase_iff]

theorem asciiLowercase_append (front back : String) :
    asciiLowercase (front ++ back) = asciiLowercase front ++ asciiLowercase back := by
  simp [asciiLowercase]

theorem lowercase_append_eq (front : String) {left right : String}
    (same : sameIgnoringAsciiCase left right = true) :
    lowercase (front ++ left) = lowercase (front ++ right) := by
  have lowered := (sameIgnoringAsciiCase_iff left right).mp same
  rw [← lowercase_asciiLowercase, ← lowercase_asciiLowercase (front ++ right)]
  simp only [asciiLowercase_append, lowered]

end FileSearch.Text
