import FileSearch.Proofs.Text.CaseTable
import FileSearch.Proofs.Text.Substring

set_option autoImplicit false

namespace FileSearch.Text

-- The lower case of a character that stands between two texts, the first from right to left.
def lowerOne (before after : List Char) (c : Char) : List Char :=
  (pushLower before after c []).reverse

-- The lower cases of the characters of a text that stands between two others.
def lowerings (before after : List Char) : List Char → List (List Char)
  | [] => []
  | c :: rest => lowerOne before (rest ++ after) c :: lowerings (c :: before) after rest

-- The lower case of a text that stands between two others.
def lowerBetween (before after text : List Char) : List Char :=
  (lowerings before after text).flatten

theorem pushLower_eq (before after : List Char) (c : Char) (lowered : List Char) :
    pushLower before after c lowered = (lowerOne before after c).reverse ++ lowered := by
  simp only [lowerOne, pushLower, List.reverse_reverse]
  split_ifs <;> rfl

theorem lowerFrom_eq (before text lowered : List Char) :
    lowerFrom before text lowered = lowered.reverse ++ lowerBetween before [] text := by
  induction text generalizing before lowered with
  | nil => simp [lowerFrom, lowerBetween, lowerings]
  | cons c rest ih =>
    rw [lowerFrom, ih, pushLower_eq]
    simp [lowerBetween, lowerings]

theorem lowercase_toList (text : String) : (lowercase text).toList = lower text.toList := by
  rw [lowercase, String.toList_ofList]

theorem lower_eq (text : List Char) : lower text = lowerBetween [] [] text := by
  rw [lower, lowerFrom_eq]
  rfl

@[simp] theorem length_lowerings (before after text : List Char) :
    (lowerings before after text).length = text.length := by
  induction text generalizing before with
  | nil => rfl
  | cons c rest ih => simp [lowerings, ih]

theorem lowerings_append (before after front back : List Char) :
    lowerings before after (front ++ back) =
      lowerings before (back ++ after) front ++ lowerings (front.reverse ++ before) after back := by
  induction front generalizing before with
  | nil => rfl
  | cons c rest ih => simp [lowerings, ih]

theorem lowerBetween_append (before after front back : List Char) :
    lowerBetween before after (front ++ back) =
      lowerBetween before (back ++ after) front ++
        lowerBetween (front.reverse ++ before) after back := by
  rw [lowerBetween, lowerings_append, List.flatten_append]
  rfl

theorem lowerBetween_part (before after front text back : List Char) :
    lowerBetween (front.reverse ++ before) (back ++ after) text <:+:
      lowerBetween before after (front ++ text ++ back) := by
  rw [lowerBetween_append, lowerBetween_append]
  exact ⟨_, _, rfl⟩

theorem lowerOne_ne_nil (before after : List Char) (c : Char) : lowerOne before after c ≠ [] := by
  simp only [lowerOne, pushLower]
  split_ifs <;> simp

theorem exists_lowerOne (before after text : List Char) (list : List Char)
    (member : list ∈ lowerings before after text) :
    ∃ c ∈ text, ∃ earlier later, list = lowerOne earlier later c := by
  induction text generalizing before with
  | nil => exact absurd member List.not_mem_nil
  | cons c rest ih =>
    rcases List.mem_cons.mp member with rfl | member
    · exact ⟨c, List.mem_cons_self, _, _, rfl⟩
    · obtain ⟨d, inside, found⟩ := ih (c :: before) member
      exact ⟨d, List.mem_cons_of_mem _ inside, found⟩

theorem lowerOne_mem (before after text : List Char) (c : Char) (member : c ∈ text) :
    ∃ earlier later, lowerOne earlier later c ∈ lowerings before after text := by
  induction text generalizing before with
  | nil => exact absurd member List.not_mem_nil
  | cons d rest ih =>
    rcases List.mem_cons.mp member with rfl | member
    · exact ⟨_, _, List.mem_cons_self⟩
    · obtain ⟨earlier, later, found⟩ := ih (d :: before) member
      exact ⟨earlier, later, List.mem_cons_of_mem _ found⟩

theorem infix_lowerBetween (before after text needle : List Char) (some : needle ≠ [])
    (found : needle <:+: lowerBetween before after text) :
    ∃ front block back, text = front ++ block ++ back ∧
      needle <:+: lowerBetween (front.reverse ++ before) (back ++ after) block ∧
      block.length ≤ needle.length ∧
      ∀ c ∈ block, ∃ earlier later, ∃ x ∈ lowerOne earlier later c, x ∈ needle := by
  have full : ∀ list ∈ lowerings before after text, list ≠ [] := by
    intro list member
    obtain ⟨c, -, earlier, later, rfl⟩ := exists_lowerOne before after text list member
    exact lowerOne_ne_nil earlier later c
  obtain ⟨lead, lists, trail, split, inside, short, share⟩ :=
    infix_flatten (lowerings before after text) needle some full found
  have total : lead.length + lists.length + trail.length = text.length := by
    simpa [Nat.add_assoc] using (congrArg List.length split).symm
  obtain ⟨front, block, back, rfl, lengths⟩ : ∃ front block back, text = front ++ block ++ back ∧
      front.length = lead.length ∧ block.length = lists.length := by
    refine ⟨text.take lead.length, (text.drop lead.length).take lists.length,
      (text.drop lead.length).drop lists.length, by simp, ?_, ?_⟩ <;> simp <;> omega
  -- Lists and characters correspond one to one, so the lists are the lower cases of the block.
  rw [lowerings_append, lowerings_append] at split
  obtain ⟨fronts, -⟩ := List.append_inj split (by simp [lengths])
  obtain ⟨-, rfl⟩ := List.append_inj fronts (by simp [lengths])
  refine ⟨front, block, back, rfl, inside, by simpa using short, ?_⟩
  intro c member
  obtain ⟨earlier, later, listed⟩ :=
    lowerOne_mem (front.reverse ++ before) (back ++ after) block c member
  exact ⟨earlier, later, share _ listed⟩

def lowerPlain (c : Char) : List Char :=
  if c = 'İ' then ['i', '\u0307'] else [lowerChar c]

theorem lowerOne_plain (before after : List Char) (c : Char) (plain : c ≠ 'Σ') :
    lowerOne before after c = lowerPlain c := by
  simp only [lowerOne, pushLower, plain, if_false, lowerPlain]
  split_ifs <;> rfl

theorem lowerOne_sigma (before after : List Char) :
    lowerOne before after 'Σ' = ['ς'] ∨ lowerOne before after 'Σ' = ['σ'] := by
  simp only [lowerOne, pushLower, if_true]
  split_ifs
  · exact .inl rfl
  · exact .inr rfl

theorem lowerOne_replacement (before after : List Char) :
    lowerOne before after replacement = [replacement] := by
  rw [lowerOne_plain before after replacement (by decide)]
  decide +kernel

theorem lowerBetween_plain (before after text : List Char) (plain : 'Σ' ∉ text) :
    lowerBetween before after text = text.flatMap lowerPlain := by
  induction text generalizing before with
  | nil => rfl
  | cons c rest ih =>
    simp only [List.mem_cons, not_or] at plain
    have tail := ih (c :: before) plain.2
    rw [lowerBetween] at tail ⊢
    rw [lowerings, List.flatten_cons, tail, lowerOne_plain _ _ _ (Ne.symm plain.1),
      List.flatMap_cons]

theorem infix_lowerBetween_plain (before after text needle : List Char) (some : needle ≠ [])
    (safe : 'Σ' ∉ text ∨ 'σ' ∉ needle ∧ 'ς' ∉ needle) :
    needle <:+: lowerBetween before after text ↔
      ∃ block, block <:+: text ∧ 'Σ' ∉ block ∧ (replacement ∉ needle → replacement ∉ block) ∧
        block.length ≤ needle.length ∧ needle <:+: block.flatMap lowerPlain := by
  constructor
  · intro found
    obtain ⟨front, block, back, rfl, inside, short, share⟩ :=
      infix_lowerBetween before after text needle some found
    -- Each character of the block shares a character with the needle, which a sigma would share.
    have plain : 'Σ' ∉ block := by
      intro member
      rcases safe with absent | ⟨small, final⟩
      · exact absent (by simp [member])
      · obtain ⟨earlier, later, x, lowered, shared⟩ := share 'Σ' member
        rcases lowerOne_sigma earlier later with sigma | sigma <;>
          rw [sigma, List.mem_singleton] at lowered <;> subst lowered
        · exact final shared
        · exact small shared
    rw [lowerBetween_plain _ _ _ plain] at inside
    refine ⟨block, ⟨front, back, rfl⟩, plain, ?_, short, inside⟩
    intro absent member
    obtain ⟨earlier, later, x, lowered, shared⟩ := share replacement member
    rw [lowerOne_replacement, List.mem_singleton] at lowered
    exact absent (lowered ▸ shared)
  · rintro ⟨block, ⟨front, back, rfl⟩, plain, -, -, inside⟩
    rw [← lowerBetween_plain (front.reverse ++ before) (back ++ after) block plain] at inside
    exact inside.trans (lowerBetween_part before after front block back)

-- A text in which each capital sigma has characters on both sides that count for case, so that it
-- is lowered in the same way wherever the text stands.
def Enclosed (text : List Char) : Prop :=
  ∀ left right, text = left ++ 'Σ' :: right →
    (∃ c ∈ left, isCaseIgnorable c = false) ∧ ∃ c ∈ right, isCaseIgnorable c = false

-- The search for a letter ends at the first character that counts for case.
theorem meetsCased_append (text rest : List Char) (counts : ∃ c ∈ text, isCaseIgnorable c = false) :
    meetsCased (text ++ rest) = meetsCased text := by
  induction text with
  | nil => simp at counts
  | cons c text ih =>
    rw [meetsCased, meetsCased, List.cons_append]
    cases ignored : isCaseIgnorable c with
    | false => simp [ignored]
    | true =>
      have later : ∃ d ∈ text, isCaseIgnorable d = false := by
        obtain ⟨d, member, counted⟩ := counts
        rcases List.mem_cons.mp member with rfl | member
        · exact absurd ignored (by simp [counted])
        · exact ⟨d, member, counted⟩
      have same := ih later
      rw [meetsCased, meetsCased] at same
      simpa [ignored] using same

theorem lowerOne_sigma_eq (before after : List Char) :
    lowerOne before after 'Σ' = [if endsWord before after then 'ς' else 'σ'] := by
  simp [lowerOne, pushLower]

theorem lowerBetween_congr (before before' after after' text : List Char)
    (same : ∀ left right, text = left ++ 'Σ' :: right →
      endsWord (left.reverse ++ before) (right ++ after) =
        endsWord (left.reverse ++ before') (right ++ after')) :
    lowerBetween before after text = lowerBetween before' after' text := by
  induction text generalizing before before' with
  | nil => rfl
  | cons c rest ih =>
    have tail := ih (c :: before) (c :: before') (by
      rintro left right rfl
      simpa using same (c :: left) right rfl)
    have head : lowerOne before (rest ++ after) c = lowerOne before' (rest ++ after') c := by
      by_cases sigma : c = 'Σ'
      · subst sigma
        have here : endsWord before (rest ++ after) = endsWord before' (rest ++ after') :=
          same [] rest rfl
        rw [lowerOne_sigma_eq, lowerOne_sigma_eq, here]
      · rw [lowerOne_plain _ _ _ sigma, lowerOne_plain _ _ _ sigma]
    rw [lowerBetween, lowerBetween] at tail ⊢
    rw [lowerings, lowerings, List.flatten_cons, List.flatten_cons, head, tail]

theorem lowerBetween_enclosed (before after text : List Char) (enclosed : Enclosed text) :
    lowerBetween before after text = lower text := by
  rw [lower_eq]
  apply lowerBetween_congr
  rintro left right rfl
  obtain ⟨earlier, later⟩ := enclosed left right rfl
  have front := meetsCased_append left.reverse before (by simpa using earlier)
  rw [endsWord, endsWord, front, meetsCased_append right after later, List.append_nil,
    List.append_nil]

theorem enclosed_of_plain (text : List Char) (plain : 'Σ' ∉ text) : Enclosed text := by
  rintro left right rfl
  simp at plain

theorem lowerOne_isLow (before after : List Char) (c x : Char) (member : x ∈ lowerOne before after c) :
    IsLow x := by
  by_cases sigma : c = 'Σ'
  · subst sigma
    rcases lowerOne_sigma before after with lowered | lowered <;>
      rw [lowered, List.mem_singleton] at member <;> subst member <;> decide +kernel
  · rw [lowerOne_plain _ _ _ sigma, lowerPlain] at member
    split_ifs at member with dotted
    · simp only [List.mem_cons, List.not_mem_nil, or_false] at member
      rcases member with rfl | rfl <;> decide +kernel
    · rw [List.mem_singleton.mp member]
      exact lowerChar_isLow c sigma dotted

-- No other character is lowered to this one, wherever it stands.
def Lone (x : Char) : Prop :=
  ∀ before after c, x ∈ lowerOne before after c → c = x

theorem lone_of_lowerChar (x : Char) (kept : ∀ c, c ≠ x → lowerChar c ≠ x)
    (apart : x ∉ ['σ', 'ς', 'i', '\u0307']) : Lone x := by
  intro before after c member
  by_contra other
  by_cases sigma : c = 'Σ'
  · subst sigma
    rcases lowerOne_sigma before after with lowered | lowered <;>
      rw [lowered, List.mem_singleton] at member <;> exact apart (by simp [member])
  · rw [lowerOne_plain _ _ _ sigma, lowerPlain] at member
    split_ifs at member
    · simp only [List.mem_cons, List.not_mem_nil, or_false] at member
      rcases member with dotless | accent
      · exact apart (by simp [dotless])
      · exact apart (by simp [accent])
    · exact kept c other (List.mem_singleton.mp member).symm

theorem lone_replacement : Lone replacement :=
  lone_of_lowerChar replacement lowerChar_ne_replacement (by decide)

theorem lone_dot : Lone '.' :=
  lone_of_lowerChar '.' lowerChar_ne_dot (by decide)

theorem lower_isLow (text : List Char) : ∀ c ∈ lower text, IsLow c := by
  intro c member
  rw [lower_eq, lowerBetween, List.mem_flatten] at member
  obtain ⟨list, listed, inside⟩ := member
  obtain ⟨d, -, earlier, later, rfl⟩ := exists_lowerOne _ _ text list listed
  exact lowerOne_isLow earlier later d c inside

theorem lower_of_plain (text : List Char) (plain : 'Σ' ∉ text) :
    lower text = text.flatMap lowerPlain := by
  rw [lower_eq, lowerBetween_plain [] [] text plain]

theorem lower_of_isLow (text : List Char) (low : ∀ c ∈ text, IsLow c) : lower text = text := by
  have plain : 'Σ' ∉ text := fun member => (low 'Σ' member).2.1 rfl
  have each : ∀ c ∈ text, lowerPlain c = [c] := by
    intro c member
    rw [lowerPlain, if_neg (low c member).2.2, (low c member).1]
  rw [lower_of_plain text plain, List.flatMap_congr each]
  exact List.flatMap_singleton' text

theorem lower_lower (text : List Char) : lower (lower text) = lower text :=
  lower_of_isLow _ (lower_isLow text)

theorem Lone.notMem_lower {x : Char} (lone : Lone x) {text : List Char} (absent : x ∉ text) :
    x ∉ lower text := by
  intro member
  rw [lower_eq, lowerBetween, List.mem_flatten] at member
  obtain ⟨list, listed, inside⟩ := member
  obtain ⟨c, original, earlier, later, rfl⟩ := exists_lowerOne _ _ text list listed
  exact absent (lone earlier later c inside ▸ original)

theorem replacement_notMem_lower (text : List Char) (plain : replacement ∉ text) :
    replacement ∉ lower text :=
  lone_replacement.notMem_lower plain

theorem lower_ne_nil (text : List Char) (some : text ≠ []) : lower text ≠ [] := by
  obtain ⟨c, rest, rfl⟩ := List.exists_cons_of_ne_nil some
  simp [lower_eq, lowerBetween, lowerings, lowerOne_ne_nil]

end FileSearch.Text
