import FileSearch.Proofs.Text.Lowercase
import Mathlib.Data.List.TakeWhile

set_option autoImplicit false

namespace FileSearch.Text

def Counts (text : List Char) : Prop :=
  ∃ c ∈ text, isCaseIgnorable c = false

-- Between two others, each capital sigma of a text ends a word exactly if it does in the text
-- alone.
def KeepsSigmas (before after text : List Char) : Prop :=
  ∀ left right, text = left ++ 'Σ' :: right →
    endsWord (left.reverse ++ before.reverse) (right ++ after) = endsWord left.reverse right

-- Texts in which each capital sigma is decided, whatever stands around them: by a character that
-- has no case in front of it, by a letter behind it, or by a letter in front of it together with
-- another character that counts behind it.
def Stable (text : List Char) : Prop :=
  ∀ left right, text = left ++ 'Σ' :: right →
    Counts left ∧ (meetsCased left.reverse = false ∨ Counts right) ∨ meetsCased right = true

-- Texts in which each capital sigma is decided, whatever stands in front of them, if nothing stands
-- behind them.
def StableAtEnd (text : List Char) : Prop :=
  ∀ left right, text = left ++ 'Σ' :: right → Counts left ∨ meetsCased right = true

theorem counts_of_meetsCased (text : List Char) (cased : meetsCased text = true) : Counts text := by
  by_contra none
  have skipped : text.dropWhile isCaseIgnorable = [] := by
    simpa [Counts, List.dropWhile_eq_nil_iff] using none
  simp [meetsCased, skipped] at cased

theorem meetsCased_eq_false (text : List Char) (none : ¬ Counts text) : meetsCased text = false :=
  Bool.eq_false_iff.mpr fun cased => none (counts_of_meetsCased text cased)

theorem counts_reverse (text : List Char) : Counts text.reverse ↔ Counts text := by
  simp [Counts]

theorem meetsCased_skip (text rest : List Char) (none : ¬ Counts text) :
    meetsCased (text ++ rest) = meetsCased rest := by
  have ignored : ∀ c ∈ text, isCaseIgnorable c = true := by
    intro c member
    by_contra counted
    exact none ⟨c, member, by simpa using counted⟩
  rw [meetsCased, meetsCased, List.dropWhile_append_of_pos ignored]

theorem meetsCased_more (text rest : List Char) (cased : meetsCased text = true) :
    meetsCased (text ++ rest) = true := by
  rw [meetsCased_append text rest (counts_of_meetsCased text cased), cased]

theorem keepsSigmas_of_stable (before after text : List Char) (stable : Stable text) :
    KeepsSigmas before after text := by
  rintro left right rfl
  rcases stable left right rfl with ⟨counted, noCase | behind⟩ | letter
  · have front := meetsCased_append left.reverse before.reverse ((counts_reverse left).mpr counted)
    rw [endsWord, endsWord, front, noCase, Bool.false_and, Bool.false_and]
  · have front := meetsCased_append left.reverse before.reverse ((counts_reverse left).mpr counted)
    rw [endsWord, endsWord, front, meetsCased_append right after behind]
  · rw [endsWord, endsWord, meetsCased_more right after letter, letter, Bool.not_true, Bool.and_false,
      Bool.and_false]

theorem keepsSigmas_of_stableAtEnd (before text : List Char) (stable : StableAtEnd text) :
    KeepsSigmas before [] text := by
  rintro left right rfl
  rw [List.append_nil]
  rcases stable left right rfl with counted | letter
  · have front := meetsCased_append left.reverse before.reverse ((counts_reverse left).mpr counted)
    rw [endsWord, endsWord, front]
  · rw [endsWord, endsWord, letter, Bool.not_true, Bool.and_false, Bool.and_false]

theorem lowerBetween_of_keepsSigmas (before after text : List Char)
    (keeps : KeepsSigmas before after text) :
    lowerBetween before.reverse after text = lower text := by
  rw [lower_eq]
  apply lowerBetween_congr
  rintro left right rfl
  rw [keeps left right rfl, List.append_nil, List.append_nil]

theorem infix_of_keepsSigmas (before after text : List Char) (keeps : KeepsSigmas before after text) :
    lower text <:+: lower (before ++ text ++ after) := by
  have part := lowerBetween_part [] [] before text after
  rwa [List.append_nil, List.append_nil, lowerBetween_of_keepsSigmas before after text keeps,
    ← lower_eq] at part

theorem suffix_of_keepsSigmas (before text : List Char) (keeps : KeepsSigmas before [] text) :
    lower text <:+ lower (before ++ text) := by
  have whole := lowerBetween_append [] [] before text
  rw [List.append_nil, List.append_nil, lowerBetween_of_keepsSigmas before [] text keeps,
    ← lower_eq] at whole
  rw [whole]
  exact List.suffix_append _ _

section Counting

variable (before before' after after' : List Char)

theorem count_sigma (more : endsWord before after = true → endsWord before' after' = true) :
    (lowerOne before after 'Σ').count 'ς' ≤ (lowerOne before' after' 'Σ').count 'ς' ∧
      (lowerOne before' after' 'Σ').count 'σ' ≤ (lowerOne before after 'Σ').count 'σ' := by
  rw [lowerOne_sigma_eq, lowerOne_sigma_eq]
  cases first : endsWord before after with
  | false => cases endsWord before' after' <;> decide
  | true => simp [more first]

theorem count_sigmas (text : List Char)
    (more : ∀ left right, text = left ++ 'Σ' :: right →
      endsWord (left.reverse ++ before) (right ++ after) = true →
        endsWord (left.reverse ++ before') (right ++ after') = true) :
    (lowerBetween before after text).count 'ς' ≤ (lowerBetween before' after' text).count 'ς' ∧
      (lowerBetween before' after' text).count 'σ' ≤
        (lowerBetween before after text).count 'σ' := by
  induction text generalizing before before' with
  | nil => exact ⟨Nat.le_refl _, Nat.le_refl _⟩
  | cons c rest ih =>
    have tail := ih (c :: before) (c :: before') (by
      rintro left right rfl
      simpa using more (c :: left) right rfl)
    have head : (lowerOne before (rest ++ after) c).count 'ς' ≤
          (lowerOne before' (rest ++ after') c).count 'ς' ∧
        (lowerOne before' (rest ++ after') c).count 'σ' ≤
          (lowerOne before (rest ++ after) c).count 'σ' := by
      by_cases sigma : c = 'Σ'
      · subst sigma
        exact count_sigma before before' _ _ (more [] rest rfl)
      · rw [lowerOne_plain _ _ _ sigma, lowerOne_plain _ _ _ sigma]
        exact ⟨Nat.le_refl _, Nat.le_refl _⟩
    simp only [lowerBetween] at tail ⊢
    simp only [lowerings, List.flatten_cons, List.count_append]
    omega

theorem count_sigmas_lt (left right : List Char)
    (more : ∀ front back, left ++ 'Σ' :: right = front ++ 'Σ' :: back →
      endsWord (front.reverse ++ before) (back ++ after) = true →
        endsWord (front.reverse ++ before') (back ++ after') = true)
    (inside : endsWord (left.reverse ++ before) (right ++ after) = false)
    (final : endsWord (left.reverse ++ before') (right ++ after') = true) :
    (lowerBetween before after (left ++ 'Σ' :: right)).count 'ς' <
        (lowerBetween before' after' (left ++ 'Σ' :: right)).count 'ς' ∧
      (lowerBetween before' after' (left ++ 'Σ' :: right)).count 'σ' <
        (lowerBetween before after (left ++ 'Σ' :: right)).count 'σ' := by
  have inFront := count_sigmas before before' ('Σ' :: (right ++ after)) ('Σ' :: (right ++ after'))
    left (by
      rintro front back rfl
      simpa using more front (back ++ 'Σ' :: right) (by simp))
  have behind := count_sigmas ('Σ' :: (left.reverse ++ before)) ('Σ' :: (left.reverse ++ before'))
    after after' right (by
      rintro front back rfl
      simpa using more (left ++ 'Σ' :: front) back (by simp))
  have split (before after : List Char) : lowerBetween before after (left ++ 'Σ' :: right) =
      lowerBetween before ('Σ' :: (right ++ after)) left ++
        ([if endsWord (left.reverse ++ before) (right ++ after) then 'ς' else 'σ'] ++
          lowerBetween ('Σ' :: (left.reverse ++ before)) after right) := by
    rw [lowerBetween_append, ← lowerOne_sigma_eq]
    rfl
  simp only [split, inside, final, List.count_append]
  simp
  omega

end Counting

theorem lowerOne_letter (before after : List Char) : lowerOne before after 'A' = ['a'] := by
  rw [lowerOne_plain _ _ _ (by decide)]
  decide +kernel

theorem changes_behind_letter (left right : List Char) (undecided : ¬ Counts left)
    (noLetter : meetsCased right = false) :
    (lower ('A' :: (left ++ 'Σ' :: right))).count 'σ' < (lower (left ++ 'Σ' :: right)).count 'σ' := by
  have skip (rest : List Char) : meetsCased (left.reverse ++ rest) = meetsCased rest :=
    meetsCased_skip _ _ (by rwa [counts_reverse])
  have letter : meetsCased ['A'] = true := by decide +kernel
  have alone : meetsCased left.reverse = false :=
    meetsCased_eq_false _ (by rwa [counts_reverse])
  have fewer := (count_sigmas_lt [] ['A'] [] [] left right (by
    intro front back _ final
    rw [endsWord, List.append_nil, Bool.and_eq_true] at final
    rw [endsWord, meetsCased_more _ _ final.1, final.2, Bool.and_self])
    (by simp [endsWord, alone]) (by simp [endsWord, skip, letter, noLetter])).2
  have whole : lower ('A' :: (left ++ 'Σ' :: right)) =
      'a' :: lowerBetween ['A'] [] (left ++ 'Σ' :: right) := by
    rw [lower_eq, lowerBetween, lowerings, lowerOne_letter]
    rfl
  rwa [whole, lower_eq, List.count_cons_of_ne (by decide)]

theorem changes_before_letter (left right : List Char) (final : meetsCased left.reverse = true)
    (undecided : ¬ Counts right) :
    (lower (left ++ 'Σ' :: right ++ ['A'])).count 'ς' < (lower (left ++ 'Σ' :: right)).count 'ς' := by
  have skip (rest : List Char) : meetsCased (right ++ rest) = meetsCased rest :=
    meetsCased_skip _ _ undecided
  have letter : meetsCased ['A'] = true := by decide +kernel
  have alone : meetsCased right = false := meetsCased_eq_false right undecided
  have fewer := (count_sigmas_lt [] [] ['A'] [] left right (by
    intro front back _ final
    rw [endsWord, Bool.and_eq_true, Bool.not_eq_true'] at final
    have none : meetsCased back = false := by
      by_contra cased
      rw [Bool.not_eq_false] at cased
      exact absurd (meetsCased_more back ['A'] cased) (by simp [final.2])
    rw [endsWord, final.1, List.append_nil, none]
    rfl)
    (by simp [endsWord, skip, letter]) (by simp [endsWord, alone, final])).1
  have whole : lower (left ++ 'Σ' :: right ++ ['A']) =
      lowerBetween [] ['A'] (left ++ 'Σ' :: right) ++ ['a'] := by
    rw [lower_eq, lowerBetween_append, lowerBetween, lowerBetween, lowerings, lowerOne_letter]
    rfl
  rw [whole, List.count_append, lower_eq]
  simpa using fewer

theorem lower_infix_iff_stable (text : List Char) :
    (∀ before after, lower text <:+: lower (before ++ text ++ after)) ↔ Stable text := by
  constructor
  · rintro found left right rfl
    by_contra undecided
    simp only [not_or, not_and, Bool.not_eq_true, Bool.not_eq_false] at undecided
    obtain ⟨open', noLetter⟩ := undecided
    by_cases counted : Counts left
    · obtain ⟨letter, behind⟩ := open' counted
      have fewer := changes_before_letter left right letter behind
      have many := (found [] ['A']).sublist.count_le 'ς'
      exact absurd fewer (Nat.not_lt.mpr many)
    · have fewer := changes_behind_letter left right counted noLetter
      have many := (found ['A'] []).sublist.count_le 'σ'
      rw [List.append_nil] at many
      exact absurd fewer (Nat.not_lt.mpr many)
  · intro stable before after
    exact infix_of_keepsSigmas before after text (keepsSigmas_of_stable before after text stable)

theorem lower_suffix_iff_stableAtEnd (text : List Char) :
    (∀ before, lower text <:+ lower (before ++ text)) ↔ StableAtEnd text := by
  constructor
  · rintro found left right rfl
    by_contra undecided
    rw [not_or, Bool.not_eq_true] at undecided
    have fewer := changes_behind_letter left right undecided.1 undecided.2
    have many := (found ['A']).sublist.count_le 'σ'
    exact absurd fewer (Nat.not_lt.mpr many)
  · intro stable before
    exact suffix_of_keepsSigmas before text (keepsSigmas_of_stableAtEnd before text stable)

end FileSearch.Text
