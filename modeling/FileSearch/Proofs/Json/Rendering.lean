import FileSearch.Json.Decoder
import FileSearch.Proofs.Json.Literals

set_option autoImplicit false

namespace FileSearch

namespace Draft

open Reader

-- All of the draft is a value, each member with a name, and the numbers are integers of 64 bits.
inductive IsPlain : Draft → Prop where
  | null : IsPlain .null
  | bool (value : Bool) : IsPlain (.bool value)
  | integer (value : Int) (fits : FitsWord value) : IsPlain (.number (.integer value))
  | string (value : String) : IsPlain (.string value)
  | array (items : List Draft) (each : ∀ item ∈ items, IsPlain item) : IsPlain (.array items)
  | object (members : List (Option String × Draft)) (named : ∀ member ∈ members, member.1.isSome)
      (each : ∀ member ∈ members, IsPlain member.2) : IsPlain (.object members)

theorem skipBlank_cons (c : Char) (rest : List Char)
    (shown : (c = ' ' || c = '\n' || c = '\t' || c = '\r') = false) :
    skipBlank (c :: rest) = c :: rest :=
  List.dropWhile_cons_of_neg (by rw [shown]; decide)

theorem endsInteger_cons (c : Char) (rest : List Char) (mark : c = ',' ∨ c = ']' ∨ c = '\x7d') :
    EndsInteger (c :: rest) := by
  rintro first ⟨⟩
  rcases mark with rfl | rfl | rfl <;> decide

theorem integerText_cons (value : Int) : ∃ c run, JsonNumber.integerText value = c :: run ∧
    ∀ other : Char, other ≠ '-' → other.isDigit = false → c ≠ other := by
  rw [JsonNumber.integerText]
  split
  · exact ⟨'-', _, rfl, fun other unsigned _ => Ne.symm unsigned⟩
  · obtain ⟨c, run, shown, digit⟩ := toDigits_cons value.natAbs
    refine ⟨c, run, shown, fun other _ plain same => ?_⟩
    rw [same, plain] at digit
    cases digit

theorem IsPlain.text_cons {draft : Draft} (plain : draft.IsPlain) :
    ∃ c run, draft.text = c :: run ∧ c ≠ ']' ∧ ∀ rest, skipBlank (c :: rest) = c :: rest := by
  cases plain with
  | null => exact ⟨'n', _, rfl, by decide, fun _ => rfl⟩
  | bool value => cases value with
    | false => exact ⟨'f', _, rfl, by decide, fun _ => rfl⟩
    | true => exact ⟨'t', _, rfl, by decide, fun _ => rfl⟩
  | integer value fits =>
    obtain ⟨c, run, shown, start⟩ := integerText_cons value
    refine ⟨c, run, shown, start ']' (by decide) rfl, fun rest => ?_⟩
    simp [skipBlank, start]
  | string value => exact ⟨'"', _, rfl, by decide, fun _ => rfl⟩
  | array items each => cases items with
    | nil => exact ⟨'[', _, rfl, by decide, fun _ => rfl⟩
    | cons item rest => exact ⟨'[', _, rfl, by decide, fun _ => rfl⟩
  | object members named each => cases members with
    | nil => exact ⟨'\x7b', _, rfl, by decide, fun _ => rfl⟩
    | cons member rest => exact ⟨'\x7b', _, rfl, by decide, fun _ => rfl⟩

theorem value_integer (fuel : Nat) (value : Int) (fits : FitsWord value) (rest : List Char)
    (ends : EndsInteger rest) :
    Reader.value (fuel + 1) (JsonNumber.integerText value ++ rest) =
      (.number (.integer value), some rest) := by
  have literal := literal?_integerText value rest ends
  have number := number?_integerLiteral value fits
  obtain ⟨c, run, shown, start⟩ := integerText_cons value
  have stays : skipBlank (c :: run ++ rest) = c :: run ++ rest := by
    simp [skipBlank, start]
  rw [shown] at literal ⊢
  rw [Reader.value, stays]
  split
  case h_7 =>
    simp only [literal, number]
  all_goals
    next same => exact absurd (List.head_eq_of_cons_eq same) (start _ (by decide) (by decide))

-- The induction is on the fuel. The reader spends one unit of it on each value, item and member, and
-- each of these has at least a character of the text, a comma or a bracket counted in.
mutual

theorem value_text (fuel : Nat) (draft : Draft) (plain : draft.IsPlain) (rest : List Char)
    (enough : draft.text.length < fuel) (ends : EndsInteger rest) :
    Reader.value fuel (draft.text ++ rest) = (draft, some rest) := by
  cases fuel with
  | zero => exact absurd enough (Nat.not_lt_zero _)
  | succ fuel =>
    cases plain with
    | null => rfl
    | bool value => cases value <;> rfl
    | integer value fits => exact value_integer fuel value fits rest ends
    | string value =>
      have opened : stringText value ++ rest = '"' :: ((stringText value).tail ++ rest) := rfl
      rw [text, opened, Reader.value, skipBlank_cons '"' _ rfl]
      simp only [string?_stringText]
    | array items each => cases items with
      | nil => rfl
      | cons item items =>
        obtain ⟨c, run, shown, first, stays⟩ := (each item List.mem_cons_self).text_cons
        have opened : text (.array (item :: items)) ++ rest =
            '[' :: (item.text ++ itemsText items ++ ']' :: rest) := by
          simp [text]
        simp only [text, List.length_append, List.length_cons] at enough
        have read := items_text fuel item items each [] rest (by omega)
        rw [shown] at read
        rw [opened, shown, Reader.value, skipBlank_cons '[' _ rfl]
        simp only [List.cons_append, stays]
        split
        next same => exact absurd (List.head_eq_of_cons_eq same) first
        next => exact read
    | object members named each => cases members with
      | nil => rfl
      | cons member members =>
        obtain ⟨name?, value⟩ := member
        obtain ⟨name, rfl⟩ := Option.isSome_iff_exists.mp (named _ List.mem_cons_self)
        have opened : text (.object ((some name, value) :: members)) ++ rest =
            '\x7b' :: (stringText name ++ ':' :: value.text ++ membersText members ++
              '\x7d' :: rest) := by
          simp [text]
        simp only [text, Option.getD_some, List.length_append, List.length_cons] at enough
        have read := members_text fuel name value members named each [] rest (by omega)
        rw [opened, Reader.value, skipBlank_cons '\x7b' _ rfl]
        exact read

theorem items_text (fuel : Nat) (item : Draft) (items : List Draft)
    (each : ∀ draft ∈ item :: items, draft.IsPlain) (done : List Draft) (rest : List Char)
    (enough : item.text.length + (itemsText items).length + 2 ≤ fuel) :
    Reader.items fuel (item.text ++ itemsText items ++ ']' :: rest) done =
      (.array (done.reverse ++ item :: items), some rest) := by
  cases fuel with
  | zero => omega
  | succ fuel =>
    have plain := each item List.mem_cons_self
    cases items with
    | nil =>
      have read := value_text fuel item plain (']' :: rest) (by omega)
        (endsInteger_cons ']' rest (by decide))
      rw [itemsText, List.append_nil, Reader.items, read]
      simp only [skipBlank_cons ']' rest rfl, List.reverse_cons]
    | cons next items =>
      have opened : item.text ++ itemsText (next :: items) ++ ']' :: rest =
          item.text ++ ',' :: (next.text ++ itemsText items ++ ']' :: rest) := by
        simp [itemsText]
      simp only [itemsText, List.cons_append, List.length_cons, List.length_append] at enough
      have read := value_text fuel item plain
        (',' :: (next.text ++ itemsText items ++ ']' :: rest)) (by omega)
        (endsInteger_cons ',' _ (by decide))
      have later := items_text fuel next items (fun draft member => each draft (.tail _ member))
        (item :: done) rest (by omega)
      rw [opened, Reader.items, read]
      simp only [skipBlank_cons ',' _ rfl, later]
      simp

theorem members_text (fuel : Nat) (name : String) (value : Draft)
    (members : List (Option String × Draft))
    (named : ∀ member ∈ (some name, value) :: members, member.1.isSome)
    (each : ∀ member ∈ (some name, value) :: members, member.2.IsPlain)
    (done : List (Option String × Draft)) (rest : List Char)
    (enough : (stringText name).length + value.text.length + (membersText members).length + 3 ≤ fuel) :
    Reader.members fuel
        (stringText name ++ ':' :: value.text ++ membersText members ++ '\x7d' :: rest) done =
      (.object (done.reverse ++ (some name, value) :: members), some rest) := by
  cases fuel with
  | zero => omega
  | succ fuel =>
    have plain := each _ List.mem_cons_self
    have opened (behind : List Char) : stringText name ++ behind =
      '"' :: ((stringText name).tail ++ behind) := rfl
    cases members with
    | nil =>
      have read := value_text fuel value plain ('\x7d' :: rest) (by omega)
        (endsInteger_cons '\x7d' rest (by decide))
      rw [membersText, List.append_nil, List.append_assoc, opened, Reader.members,
        skipBlank_cons '"' _ rfl]
      simp only [string?_stringText, List.cons_append, skipBlank_cons ':' _ rfl, read,
        skipBlank_cons '\x7d' _ rfl, List.reverse_cons]
    | cons member members =>
      obtain ⟨next?, other⟩ := member
      obtain ⟨next, rfl⟩ := Option.isSome_iff_exists.mp (named _ (.tail _ List.mem_cons_self))
      simp only [membersText, Option.getD_some, List.cons_append, List.length_cons,
        List.length_append] at enough
      have read := value_text fuel value plain
        (',' :: (stringText next ++ ':' :: other.text ++ membersText members ++ '\x7d' :: rest))
        (by omega) (endsInteger_cons ',' _ (by decide))
      have later := members_text fuel next other members
        (fun member listed => named member (.tail _ listed))
        (fun member listed => each member (.tail _ listed)) ((some name, value) :: done) rest (by omega)
      have split : stringText name ++ ':' :: value.text ++
          membersText ((some next, other) :: members) ++ '\x7d' :: rest = '"' ::
            ((stringText name).tail ++ ':' :: (value.text ++ ',' :: (stringText next ++
              ':' :: other.text ++ membersText members ++ '\x7d' :: rest))) := by
        rw [← opened]
        simp [membersText]
      rw [split, Reader.members, skipBlank_cons '"' _ rfl]
      simp only [string?_stringText, skipBlank_cons ':' _ rfl, read, skipBlank_cons ',' _ rfl, later]
      simp

end

theorem read_render (draft : Draft) (plain : draft.IsPlain) :
    Draft.read draft.render = (draft, true) := by
  have ends : EndsInteger [] := by simp [EndsInteger]
  have read := value_text (2 * draft.text.length + 2) draft plain [] (by omega) ends
  rw [List.append_nil] at read
  rw [Draft.read, render, String.length_ofList, String.toList_ofList, read]
  rfl

theorem decodeWhole_render {β : Type} (decoder : Decoder Draft β) (draft : Draft)
    (plain : draft.IsPlain) : decodeWhole decoder draft.render = decoder draft := by
  rw [decodeWhole, read_render draft plain]
  exact bind_pure (decoder draft)

end Draft

end FileSearch
