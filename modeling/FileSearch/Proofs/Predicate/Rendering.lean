import FileSearch.Proofs.Predicate.Widening

set_option autoImplicit false

namespace FileSearch

theorem takeWhile_run (inside : Char → Bool) {run rest : List Char}
    (all : ∀ c ∈ run, inside c = true) (stop : ∀ c ∈ rest.head?, inside c = false) :
    (run ++ rest).takeWhile inside = run := by
  rw [List.takeWhile_append_of_pos all]
  cases rest with
  | nil => simp
  | cons c rest => simp [stop c rfl]

theorem run_cancel (inside : Char → Bool) {left right rest other : List Char}
    (all : ∀ c ∈ left, inside c = true) (all' : ∀ c ∈ right, inside c = true)
    (stop : ∀ c ∈ rest.head?, inside c = false) (stop' : ∀ c ∈ other.head?, inside c = false)
    (same : left ++ rest = right ++ other) : left = right ∧ rest = other := by
  obtain rfl : left = right := by
    rw [← takeWhile_run inside all stop, same, takeWhile_run inside all' stop']
  exact ⟨rfl, List.append_cancel_left same⟩

theorem Attribute.key_injective : Function.Injective Attribute.key := by
  intro left right same
  revert same
  cases left <;> cases right <;> simp [key]

theorem Attribute.key_shown (attr : Attribute) : ∀ c ∈ attr.key.toList, (c != ' ') = true := by
  cases attr <;> simp [key]

theorem Attribute.key_cancel {attr attr' : Attribute} {rest other : List Char}
    (same : attr.key.toList ++ ' ' :: rest = attr'.key.toList ++ ' ' :: other) :
    attr = attr' ∧ rest = other := by
  obtain ⟨key, tail⟩ := run_cancel (· != ' ') attr.key_shown attr'.key_shown (by simp) (by simp) same
  exact ⟨key_injective (String.toList_inj.mp key), List.tail_eq_of_cons_eq tail⟩

-- Texts that can follow the text of a condition.
def Stops (rest : List Char) : Prop :=
  ∀ c ∈ rest.head?, c = ' ' ∨ c = ')'

namespace Scalar

variable (up : Bool)

theorem chars_bytes (value : UInt64) : (Scalar.bytes value).chars up = Nat.toDigits 10 value.toNat :=
  rfl

theorem chars_time (moment : Instant) :
    (Scalar.time moment).chars up =
      "$time.iso(".toList ++ (moment.widened up).wholeText.toList ++ [')'] := rfl

theorem chars_printed (bound : Scalar) : (bound.printed up).chars up = bound.chars up := by
  cases bound with
  | bytes value => rfl
  | time moment =>
    -- The text is that of the start of its second.
    have text (moment : Instant) :
        (moment.widened up).wholeText = (moment.printed up).wholeText :=
      (Instant.wholeText_wholeSecond _).symm
    simp only [printed, chars_time, text, Instant.printed_printed]

theorem toDigits_isDigit (n : Nat) : ∀ c ∈ Nat.toDigits 10 n, c.isDigit = true := by
  intro c member
  exact Nat.isDigit_of_mem_toDigits (by decide) (by decide) member

theorem bytes_ne_time (value : UInt64) (moment : Instant) (rest other : List Char) :
    (Scalar.bytes value).chars up ++ rest ≠ (Scalar.time moment).chars up ++ other := by
  obtain ⟨c, run, split⟩ := List.exists_cons_of_ne_nil (Nat.toDigits_ne_nil (n := value.toNat) (b := 10))
  have digit : c.isDigit = true := toDigits_isDigit value.toNat c (by simp [split])
  have start : "$time.iso(".toList = '$' :: "time.iso(".toList := rfl
  intro same
  rw [chars_bytes, chars_time, split, start] at same
  simp only [List.cons_append, List.cons.injEq] at same
  rw [same.1] at digit
  exact absurd digit (by decide)

theorem chars_cancel {left right : Scalar} {rest other : List Char} (stops : Stops rest)
    (stops' : Stops other) (same : left.chars up ++ rest = right.chars up ++ other) :
    left.printed up = right.printed up ∧ rest = other := by
  cases left with
  | bytes value =>
    cases right with
    | time moment => exact absurd same (bytes_ne_time up value moment rest other)
    | bytes value' =>
      have ends {tail : List Char} (stops : Stops tail) : ∀ c ∈ tail.head?, c.isDigit = false := by
        intro c member
        rcases stops c member with rfl | rfl <;> rfl
      obtain ⟨digits, tail⟩ := run_cancel Char.isDigit (toDigits_isDigit _) (toDigits_isDigit _)
        (ends stops) (ends stops') same
      have number := congrArg (Nat.ofDigitChars 10 · 0) digits
      simp only [Nat.ofDigitChars_ten_toDigits] at number
      rw [UInt64.toNat_inj.mp number]
      exact ⟨rfl, tail⟩
  | time moment =>
    cases right with
    | bytes value => exact absurd same.symm (bytes_ne_time up value moment other rest)
    | time moment' =>
      simp only [chars_time, List.append_assoc, List.append_cancel_left_eq, List.cons_append,
        List.nil_append] at same
      have unclosed (moment : Instant) (c : Char) (member : c ∈ moment.wholeText.toList) :
          (c != ')') = true := bne_iff_ne.mpr (moment.wholeText_unclosed c member)
      obtain ⟨text, tail⟩ := run_cancel (· != ')') (unclosed _) (unclosed _) (by simp) (by simp) same
      have read := congrArg Instant.read (String.toList_inj.mp text)
      rw [Instant.read_wholeText _ (moment.widened_endsMinute up),
        Instant.read_wholeText _ (moment'.widened_endsMinute up), Except.ok.injEq] at read
      exact ⟨congrArg Scalar.time read, List.tail_eq_of_cons_eq tail⟩

end Scalar

namespace Predicate

-- What can stand behind an escaped text: the end of the literal or a star that is none of its text.
def Closes (mark : Char) : Prop :=
  mark = '"' ∨ mark = '*'

theorem escapeChar_cases (c : Char) :
    (¬ Closes c ∧ c ≠ '\\' ∧ escapeChar c = [c]) ∨ escapeChar c = ['\\', c] := by
  rw [escapeChar]
  split
  next => exact .inr rfl
  next plain => exact .inl ⟨by rw [Closes]; tauto, by tauto, rfl⟩

theorem escapeChar_cancel {c d : Char} {rest other : List Char}
    (same : escapeChar c ++ rest = escapeChar d ++ other) : c = d ∧ rest = other := by
  rcases escapeChar_cases c with ⟨-, plain, left⟩ | left <;>
    rcases escapeChar_cases d with ⟨-, plain', right⟩ | right <;>
    simp only [left, right, List.cons_append, List.nil_append, List.cons.injEq] at same
  · exact same
  · exact absurd same.1 plain
  · exact absurd same.1.symm plain'
  · exact same.2

theorem closes_ne_escapeChar {mark c : Char} {rest other : List Char} (closes : Closes mark) :
    mark :: rest ≠ escapeChar c ++ other := by
  intro same
  rcases escapeChar_cases c with ⟨open', -, left⟩ | left
  · obtain ⟨rfl, -⟩ : mark = c ∧ _ := by simpa [left] using same
    exact open' closes
  · obtain ⟨rfl, -⟩ : mark = '\\' ∧ _ := by simpa [left] using same
    exact absurd closes (by simp [Closes])

theorem escaped_cancel {left right : List Char} {mark mark' : Char} {rest other : List Char}
    (closes : Closes mark) (closes' : Closes mark')
    (same : left.flatMap escapeChar ++ mark :: rest = right.flatMap escapeChar ++ mark' :: other) :
    left = right ∧ mark = mark' ∧ rest = other := by
  induction left generalizing right with
  | nil =>
    cases right with
    | nil => simpa using same
    | cons d right =>
      rw [List.flatMap_cons, List.append_assoc] at same
      exact absurd same (closes_ne_escapeChar closes)
  | cons c left ih =>
    cases right with
    | nil =>
      rw [List.flatMap_cons, List.append_assoc] at same
      exact absurd same.symm (closes_ne_escapeChar closes')
    | cons d right =>
      simp only [List.flatMap_cons, List.append_assoc] at same
      obtain ⟨rfl, rest'⟩ := escapeChar_cancel same
      obtain ⟨rfl, tail⟩ := ih rest'
      exact ⟨rfl, tail⟩

-- The text of a test of an attribute; `operator` tells the kinds of tests apart.
def testChars (attr : Attribute) (operator : Char) (rest : List Char) : List Char :=
  attr.key.toList ++ ' ' :: operator :: '=' :: ' ' :: rest

theorem testChars_cancel {attr attr' : Attribute} {operator operator' : Char}
    {rest other : List Char} (same : testChars attr operator rest = testChars attr' operator' other) :
    attr = attr' ∧ operator = operator' ∧ rest = other := by
  obtain ⟨key, tail⟩ := Attribute.key_cancel same
  simpa [key] using tail

-- The text of a test for a text, which is given with what stands behind it.
def textChars (attr : Attribute) (text : String) (ending : List Char) : List Char :=
  testChars attr '=' ('"' :: '*' :: escape text ++ ending)

theorem textChars_cancel {attr attr' : Attribute} {text text' : String} {mark mark' : Char}
    {rest other : List Char} (closes : Closes mark) (closes' : Closes mark')
    (same : textChars attr text (mark :: rest) = textChars attr' text' (mark' :: other)) :
    attr = attr' ∧ text = text' ∧ mark = mark' ∧ rest = other := by
  obtain ⟨key, -, tail⟩ := testChars_cancel same
  simp only [List.cons_append, List.cons.injEq, true_and] at tail
  obtain ⟨text, mark, tail⟩ := escaped_cancel closes closes' tail
  exact ⟨key, String.toList_inj.mp text, mark, tail⟩

def bounded : Bool → Attribute → Scalar → Predicate
  | false => .atLeast
  | true => .atMost

def joined : Combinator → List Predicate → Predicate
  | .and, parts => .and parts
  | .or, parts => .or parts

-- What stands between the parts of a group, but for the blank in front.
def operatorChars : Combinator → List Char
  | .and => ['&', '&', ' ']
  | .or => ['|', '|', ' ']

def kind : Predicate → Char
  | .always | .contains _ _ | .endsWith _ _ => '='
  | .atLeast _ _ => '>'
  | .atMost _ _ => '<'
  | .and _ | .or _ => '('

section Forms

variable (attr : Attribute) (text : String) (bound : Scalar) (rest : List Char)

theorem always_chars : always.chars ++ rest = textChars .fileName "" ('"' :: rest) := by
  simp [chars, alwaysChars, textChars, testChars, escape]

theorem contains_chars :
    (contains attr text).chars ++ rest = textChars attr text ('*' :: '"' :: 'c' :: 'd' :: rest) := by
  simp [chars, textChars, testChars]

theorem endsWith_chars :
    (endsWith attr text).chars ++ rest = textChars attr text ('"' :: 'c' :: 'd' :: rest) := by
  simp [chars, textChars, testChars]

theorem bounded_chars (up : Bool) :
    (bounded up attr bound).chars ++ rest =
      testChars attr (bounded up attr bound).kind (bound.chars up ++ rest) := by
  cases up <;> simp [bounded, kind, chars, testChars]

theorem joined_chars (combinator : Combinator) (part : Predicate) (parts : List Predicate) :
    (joined combinator (part :: parts)).chars ++ rest =
      '(' :: (part.chars ++ (joinedChars (' ' :: operatorChars combinator) parts ++ ')' :: rest)) := by
  cases combinator <;> simp [joined, operatorChars, chars]

end Forms

-- The conditions that have texts of their own: groups of one part would look alike.
inductive IsProper : Predicate → Prop
  | always : IsProper .always
  | contains (attr : Attribute) (needle : String) : IsProper (.contains attr needle)
  | endsWith (attr : Attribute) (suffix : String) : IsProper (.endsWith attr suffix)
  | atLeast (attr : Attribute) (bound : Scalar) : IsProper (.atLeast attr bound)
  | atMost (attr : Attribute) (bound : Scalar) : IsProper (.atMost attr bound)
  | and {first second : Predicate} {parts : List Predicate}
      (each : ∀ part ∈ first :: second :: parts, IsProper part) :
      IsProper (.and (first :: second :: parts))
  | or {first second : Predicate} {parts : List Predicate}
      (each : ∀ part ∈ first :: second :: parts, IsProper part) :
      IsProper (.or (first :: second :: parts))

-- The kind of a condition as its text shows it.
def kindIn (text : List Char) : Option Char :=
  if text.head? = some '(' then some '(' else (text.dropWhile (· != ' '))[1]?

theorem kindIn_testChars (attr : Attribute) (operator : Char) (rest : List Char) :
    kindIn (testChars attr operator rest) = some operator := by
  have open' : (testChars attr operator rest).head? ≠ some '(' := by
    cases attr <;> simp [testChars, Attribute.key]
  rw [kindIn, if_neg open', testChars, List.dropWhile_append_of_pos attr.key_shown]
  simp

theorem kindIn_bounded (up : Bool) (attr : Attribute) (bound : Scalar) (rest : List Char) :
    kindIn ((bounded up attr bound).chars ++ rest) = some (bounded up attr bound).kind := by
  rw [bounded_chars, kindIn_testChars]

theorem IsProper.kindIn_chars {predicate : Predicate} (proper : predicate.IsProper)
    (rest : List Char) : kindIn (predicate.chars ++ rest) = some predicate.kind := by
  cases proper with
  | always => rw [always_chars, textChars, kindIn_testChars, kind]
  | contains attr needle => rw [contains_chars, textChars, kindIn_testChars, kind]
  | endsWith attr suffix => rw [endsWith_chars, textChars, kindIn_testChars, kind]
  | atLeast attr bound => exact kindIn_bounded false attr bound rest
  | atMost attr bound => exact kindIn_bounded true attr bound rest
  | and each => simp [chars, kindIn, kind]
  | or each => simp [chars, kindIn, kind]

theorem bounded_isProper (up : Bool) (attr : Attribute) (bound : Scalar) :
    (bounded up attr bound).IsProper := by
  cases up with
  | false => exact .atLeast attr bound
  | true => exact .atMost attr bound

theorem printed_bounded (up : Bool) (attr : Attribute) (bound : Scalar) :
    (bounded up attr bound).printed = bounded up attr (bound.printed up) := by
  cases up <;> simp [bounded, printed]

theorem IsProper.bounded_of_kind {predicate : Predicate} (proper : predicate.IsProper) {up : Bool}
    {attr : Attribute} {bound : Scalar} (test : predicate.kind = (bounded up attr bound).kind) :
    ∃ attr' bound', predicate = bounded up attr' bound' := by
  cases up <;> cases proper <;> simp [bounded, kind] at test ⊢

theorem IsProper.joined_of_kind {predicate : Predicate} (proper : predicate.IsProper)
    (group : predicate.kind = '(') :
    ∃ combinator first second parts, predicate = joined combinator (first :: second :: parts) ∧
      ∀ part ∈ first :: second :: parts, part.IsProper := by
  cases proper with
  | and each => exact ⟨.and, _, _, _, rfl, each⟩
  | or each => exact ⟨.or, _, _, _, rfl, each⟩
  | _ => simp [kind] at group

-- In front of any texts that can follow, the text of a condition is told from those of others.
def IsRecognized (left : Predicate) : Prop :=
  ∀ (right : Predicate) (rest other : List Char), right.IsProper → Stops rest → Stops other →
    left.chars ++ rest = right.chars ++ other → left.printed = right.printed ∧ rest = other

theorem kind_eq {left right : Predicate} {rest other : List Char} (proper : left.IsProper)
    (proper' : right.IsProper) (same : left.chars ++ rest = right.chars ++ other) :
    right.kind = left.kind := by
  have shown := proper.kindIn_chars rest
  rw [same, proper'.kindIn_chars] at shown
  exact Option.some.inj shown

theorem not_stops_letter (rest : List Char) : ¬ Stops ('c' :: rest) := by
  simp [Stops]

theorem always_recognized : IsRecognized .always := by
  intro right rest other proper stops stops' same
  have kinds := kind_eq .always proper same
  rw [always_chars] at same
  cases proper with
  | always =>
    rw [always_chars] at same
    exact ⟨rfl, (textChars_cancel (.inl rfl) (.inl rfl) same).2.2.2⟩
  | contains attr needle =>
    rw [contains_chars] at same
    exact absurd (textChars_cancel (.inl rfl) (.inr rfl) same).2.2.1 (by decide)
  | endsWith attr suffix =>
    rw [endsWith_chars] at same
    -- Letters follow the literal of an ending.
    obtain ⟨-, -, -, rfl⟩ := textChars_cancel (.inl rfl) (.inl rfl) same
    exact absurd stops (not_stops_letter _)
  | _ => simp [kind] at kinds

theorem contains_recognized (attr : Attribute) (needle : String) :
    IsRecognized (.contains attr needle) := by
  intro right rest other proper stops stops' same
  have kinds := kind_eq (.contains attr needle) proper same
  rw [contains_chars] at same
  cases proper with
  | always =>
    rw [always_chars] at same
    exact absurd (textChars_cancel (.inr rfl) (.inl rfl) same).2.2.1 (by decide)
  | contains attr' needle' =>
    rw [contains_chars] at same
    obtain ⟨rfl, rfl, -, tail⟩ := textChars_cancel (.inr rfl) (.inr rfl) same
    exact ⟨rfl, by simpa using tail⟩
  | endsWith attr' suffix =>
    rw [endsWith_chars] at same
    exact absurd (textChars_cancel (.inr rfl) (.inl rfl) same).2.2.1 (by decide)
  | _ => simp [kind] at kinds

theorem endsWith_recognized (attr : Attribute) (suffix : String) :
    IsRecognized (.endsWith attr suffix) := by
  intro right rest other proper stops stops' same
  have kinds := kind_eq (.endsWith attr suffix) proper same
  rw [endsWith_chars] at same
  cases proper with
  | always =>
    rw [always_chars] at same
    obtain ⟨-, -, -, rfl⟩ := textChars_cancel (.inl rfl) (.inl rfl) same
    exact absurd stops' (not_stops_letter _)
  | contains attr' needle =>
    rw [contains_chars] at same
    exact absurd (textChars_cancel (.inl rfl) (.inr rfl) same).2.2.1 (by decide)
  | endsWith attr' suffix' =>
    rw [endsWith_chars] at same
    obtain ⟨rfl, rfl, -, tail⟩ := textChars_cancel (.inl rfl) (.inl rfl) same
    exact ⟨rfl, by simpa using tail⟩
  | _ => simp [kind] at kinds

theorem bounded_recognized (up : Bool) (attr : Attribute) (bound : Scalar) :
    IsRecognized (bounded up attr bound) := by
  intro right rest other proper stops stops' same
  have kinds := kind_eq (bounded_isProper up attr bound) proper same
  obtain ⟨attr', bound', rfl⟩ := proper.bounded_of_kind kinds
  rw [bounded_chars, bounded_chars] at same
  obtain ⟨rfl, -, operand⟩ := testChars_cancel same
  obtain ⟨bounds, tail⟩ := Scalar.chars_cancel up stops stops' operand
  exact ⟨by rw [printed_bounded, printed_bounded, bounds], tail⟩

theorem stops_joinedChars (operator : List Char) (parts : List Predicate) (rest : List Char) :
    Stops (joinedChars (' ' :: operator) parts ++ ')' :: rest) := by
  cases parts <;> simp [joinedChars, Stops]

theorem joinedChars_cancel {operator : List Char} {left right : List Predicate}
    {rest other : List Char} (known : ∀ part ∈ left, part.IsRecognized)
    (proper : ∀ part ∈ right, part.IsProper)
    (same : joinedChars (' ' :: operator) left ++ ')' :: rest =
      joinedChars (' ' :: operator) right ++ ')' :: other) :
    left.map printed = right.map printed ∧ rest = other := by
  induction left generalizing right with
  | nil =>
    cases right with
    | nil => simpa [joinedChars] using same
    | cons part right => simp [joinedChars] at same
  | cons part left ih =>
    cases right with
    | nil => simp [joinedChars] at same
    | cons part' right =>
      simp only [joinedChars, List.append_assoc, List.append_cancel_left_eq] at same
      rw [List.forall_mem_cons] at known proper
      obtain ⟨first, more⟩ := known.1 part' _ _ proper.1 (stops_joinedChars _ _ _)
        (stops_joinedChars _ _ _) same
      obtain ⟨parts, tail⟩ := ih known.2 proper.2 more
      exact ⟨by rw [List.map_cons, List.map_cons, first, parts], tail⟩

theorem printed_joined (combinator : Combinator) (parts : List Predicate) :
    (joined combinator parts).printed = joined combinator (parts.map printed) := by
  cases combinator <;> rw [joined, joined, printed, allPrinted_eq_map]

theorem joined_recognized (combinator : Combinator) {first second : Predicate}
    {parts : List Predicate} (proper : (joined combinator (first :: second :: parts)).IsProper)
    (known : ∀ part ∈ first :: second :: parts, part.IsRecognized) :
    IsRecognized (joined combinator (first :: second :: parts)) := by
  intro right rest other proper' stops stops' same
  have kinds : right.kind = '(' := by
    rw [kind_eq proper proper' same]
    cases combinator <;> rfl
  obtain ⟨combinator', first', second', parts', rfl, each⟩ := proper'.joined_of_kind kinds
  rw [joined_chars, joined_chars, List.cons_inj_right] at same
  obtain ⟨knownFirst, knownRest⟩ := List.forall_mem_cons.mp known
  obtain ⟨properFirst, properRest⟩ := List.forall_mem_cons.mp each
  obtain ⟨firsts, more⟩ := knownFirst first' _ _ properFirst (stops_joinedChars _ _ _)
    (stops_joinedChars _ _ _) same
  -- The second part is there to show the operator.
  obtain rfl : combinator = combinator' := by
    cases combinator <;> cases combinator' <;> simp [joinedChars, operatorChars] at more ⊢
  obtain ⟨rests, tail⟩ := joinedChars_cancel knownRest properRest more
  have maps : (first :: second :: parts).map printed = (first' :: second' :: parts').map printed :=
    congrArg₂ List.cons firsts rests
  exact ⟨by rw [printed_joined, printed_joined, maps], tail⟩

theorem IsProper.recognized {predicate : Predicate} (proper : predicate.IsProper) :
    predicate.IsRecognized := by
  induction proper with
  | always => exact always_recognized
  | contains attr needle => exact contains_recognized attr needle
  | endsWith attr suffix => exact endsWith_recognized attr suffix
  | atLeast attr bound => exact bounded_recognized false attr bound
  | atMost attr bound => exact bounded_recognized true attr bound
  | and each known => exact joined_recognized .and (.and each) known
  | or each known => exact joined_recognized .or (.or each) known

theorem joinedChars_map_printed (operator : List Char) (parts : List Predicate)
    (same : ∀ part ∈ parts, part.printed.chars = part.chars) :
    joinedChars operator (parts.map printed) = joinedChars operator parts := by
  induction parts with
  | nil => rfl
  | cons part parts ih =>
    obtain ⟨first, rest⟩ := List.forall_mem_cons.mp same
    rw [List.map_cons, joinedChars, joinedChars, first, ih rest]

theorem joined_chars_printed (combinator : Combinator) (parts : List Predicate)
    (same : ∀ part ∈ parts, part.printed.chars = part.chars) :
    (joined combinator (parts.map printed)).chars = (joined combinator parts).chars := by
  cases parts with
  | nil => rfl
  | cons part parts =>
    obtain ⟨first, rest⟩ := List.forall_mem_cons.mp same
    cases combinator <;> simp [joined, chars, first, joinedChars_map_printed _ _ rest]

theorem chars_printed (predicate : Predicate) : predicate.printed.chars = predicate.chars := by
  induction predicate with
  | always => rw [printed]
  | contains attr needle => rw [printed]
  | endsWith attr suffix => rw [printed]
  | atLeast attr bound => rw [printed, chars, chars, Scalar.chars_printed]
  | atMost attr bound => rw [printed, chars, chars, Scalar.chars_printed]
  | and parts ih =>
    rw [printed, allPrinted_eq_map]
    exact joined_chars_printed .and parts ih
  | or parts ih =>
    rw [printed, allPrinted_eq_map]
    exact joined_chars_printed .or parts ih

theorem render_eq_iff {left right : Predicate} (proper : left.IsProper) (proper' : right.IsProper) :
    left.render = right.render ↔ left.printed = right.printed := by
  rw [render, render, String.ofList_inj]
  constructor
  · intro same
    have nothing : Stops [] := by simp [Stops]
    exact (proper.recognized right [] [] proper' nothing nothing (by rw [same])).1
  · intro same
    rw [← left.chars_printed, same, right.chars_printed]

end Predicate

end FileSearch
