import FileSearch.Path.Raw
import FileSearch.Proofs.Path.Containment
import FileSearch.Proofs.Text.Decoding
import Mathlib.Data.String.Basic

set_option autoImplicit false

namespace FileSearch

section Splitting

variable {α β : Type} [BEq α] [LawfulBEq α] [BEq β] [LawfulBEq β]

theorem splitOn_induction (separator : α) {motive : List α → Prop}
    (single : ∀ part, separator ∉ part → motive part)
    (more : ∀ part rest, separator ∉ part → motive rest → motive (part ++ separator :: rest))
    (items : List α) : motive items := by
  by_cases member : separator ∈ items
  · obtain ⟨part, rest, split, first⟩ := List.eq_append_cons_of_mem member
    have shorter : rest.length < items.length := by
      simp only [split, List.length_append, List.length_cons]
      omega
    rw [split]
    exact more part rest first (splitOn_induction separator single more rest)
  · exact single items member
termination_by items.length

theorem splitOn_map (f : List α → List β) (a : α) (b : β)
    (joined : ∀ front back, f (front ++ a :: back) = f front ++ b :: f back)
    (free : ∀ part, a ∉ part → b ∉ f part) (items : List α) :
    (f items).splitOn b = (items.splitOn a).map f := by
  induction items using splitOn_induction a with
  | single part alone =>
    rw [List.splitOn_eq_singleton alone, List.splitOn_eq_singleton (free part alone)]
    rfl
  | more part rest alone ih =>
    rw [joined, List.splitOn_append_cons_self, List.splitOn_append_cons_self, ih,
      List.splitOn_eq_singleton alone, List.splitOn_eq_singleton (free part alone)]
    rfl

end Splitting

namespace Text

theorem encode_slash (front back : List Char) :
    encode (front ++ '/' :: back) = encode front ++ 0x2f :: encode back :=
  encode_append front ('/' :: back)

theorem decodeFrom_slash (front back : List UInt8) (state : Utf8State) (read : List Char)
    (proper : state.Proper) :
    decodeFrom (front ++ 0x2f :: back) state read =
      decodeFrom front state read ++ '/' :: decodeLossy back := by
  induction front generalizing state read with
  | nil =>
    have slash := decodeFrom_encodeChar '/' back state read proper
    rw [decodeFrom_idle] at slash
    refine slash.trans ?_
    cases state <;> simp [decodeFrom, Utf8State.flush]
  | cons byte rest ih => exact ih _ _ (proper_step state byte read proper)

theorem decodeLossy_slash (front back : List UInt8) :
    decodeLossy (front ++ 0x2f :: back) = decodeLossy front ++ '/' :: decodeLossy back :=
  decodeFrom_slash front back .idle [] trivial

theorem mem_decodeLossy_iff (bytes : List UInt8) (c : Char) (byte : UInt8)
    (encoded : encode [c] = [byte]) (plain : c ≠ replacement) :
    c ∈ decodeLossy bytes ↔ byte ∈ bytes := by
  rw [← List.singleton_infix_iff, ← List.singleton_infix_iff, ← encoded]
  exact infix_decodeLossy bytes [c] (by simpa using plain.symm)

theorem slash_mem_decodeLossy (bytes : List UInt8) : '/' ∈ decodeLossy bytes ↔ 0x2f ∈ bytes :=
  mem_decodeLossy_iff bytes '/' 0x2f rfl (by decide)

theorem slash_mem_encode (text : List Char) : 0x2f ∈ encode text ↔ '/' ∈ text := by
  rw [← slash_mem_decodeLossy, decodeLossy_encode]

theorem splitOn_encode (text : List Char) :
    (encode text).splitOn 0x2f = (text.splitOn '/').map encode :=
  splitOn_map encode '/' 0x2f encode_slash
    (fun part free member => free ((slash_mem_encode part).mp member)) text

theorem exists_encode_of_splitOn (bytes : List UInt8)
    (parts : ∀ part ∈ bytes.splitOn 0x2f, ∃ text, part = encode text) :
    ∃ text, bytes = encode text := by
  induction bytes using splitOn_induction (0x2f : UInt8) with
  | single part alone => exact parts part (by simp [List.splitOn_eq_singleton alone])
  | more part rest alone ih =>
    rw [List.splitOn_append_cons_self, List.splitOn_eq_singleton alone] at parts
    obtain ⟨front, split⟩ := parts part (by simp)
    obtain ⟨back, split'⟩ := ih fun part member => parts part (by simp [member])
    exact ⟨front ++ '/' :: back, by rw [encode_slash, split, split']⟩

theorem splitOn_decodeLossy (bytes : List UInt8) :
    (decodeLossy bytes).splitOn '/' = (bytes.splitOn 0x2f).map decodeLossy :=
  splitOn_map decodeLossy 0x2f '/' decodeLossy_slash
    (fun part free member => free ((slash_mem_decodeLossy part).mp member)) bytes

theorem encode_injective : Function.Injective encode :=
  Function.LeftInverse.injective decodeLossy_encode

theorem decodeLossy_eq_nil {bytes : List UInt8} (none : decodeLossy bytes = []) : bytes = [] := by
  cases bytes with
  | nil => rfl
  | cons byte rest =>
    rcases readsOne_cons byte rest with ⟨c, after, -, reads⟩ | ⟨junk, after, -, reads⟩ <;>
      simp [none] at reads

theorem decodeLossy_eq_iff (bytes : List UInt8) (text : List Char) (plain : replacement ∉ text) :
    decodeLossy bytes = text ↔ bytes = encode text := by
  constructor
  · intro reads
    obtain ⟨rest, rfl⟩ := decodeLossy_take bytes text [] (by rw [reads, List.append_nil]) plain
    rw [decodeLossy_encode_append, List.append_right_eq_self] at reads
    rw [decodeLossy_eq_nil reads, List.append_nil]
  · rintro rfl
    exact decodeLossy_encode text

theorem compare_cons_of_lt {a b : UInt8} (less : a.toNat < b.toNat) (left right : List UInt8) :
    Ord.compare (a :: left) (b :: right) = .lt := by
  rw [List.compare_cons_cons, Std.compare_eq_lt.mpr (UInt8.lt_iff_toNat_lt.mpr less)]
  rfl

theorem compare_cons_of_le {a b : UInt8} {left right : List UInt8} (early : a.toNat ≤ b.toNat)
    (less : a.toNat = b.toNat → Ord.compare left right = .lt) :
    Ord.compare (a :: left) (b :: right) = .lt := by
  rcases Nat.lt_or_eq_of_le early with first | same
  · exact compare_cons_of_lt first left right
  · rw [List.compare_cons_cons, UInt8.toNat_inj.mp same, Std.ReflOrd.compare_self]
    exact less same

theorem compare_encodeChar_append {c d : Char} (less : c.toNat < d.toNat) (left right : List UInt8) :
    Ord.compare (String.utf8EncodeChar c ++ left) (String.utf8EncodeChar d ++ right) = .lt := by
  -- Longer characters begin with greater bytes, and of those of one length the first byte that
  -- differs decides.
  rcases encodeChar_cases c with ⟨a, h, _, ha⟩ | ⟨a, b, h, _, _, ha, hb⟩ |
    ⟨a, b, e, h, _, _, ha, hb, he⟩ | ⟨a, b, e, f, h, _, ha, hb, he, hf⟩ <;>
  rcases encodeChar_cases d with ⟨a', h', _, ha'⟩ | ⟨a', b', h', _, _, ha', hb'⟩ |
    ⟨a', b', e', h', _, _, ha', hb', he'⟩ | ⟨a', b', e', f', h', _, ha', hb', he', hf'⟩ <;>
  rw [h, h'] <;> try exact compare_cons_of_lt (by omega) _ _
  · exact compare_cons_of_le (by omega) fun _ => compare_cons_of_lt (by omega) _ _
  · exact compare_cons_of_le (by omega) fun _ => compare_cons_of_le (by omega) fun _ =>
      compare_cons_of_lt (by omega) _ _
  · exact compare_cons_of_le (by omega) fun _ => compare_cons_of_le (by omega) fun _ =>
      compare_cons_of_le (by omega) fun _ => compare_cons_of_lt (by omega) _ _

theorem compare_append_left (front left right : List UInt8) :
    Ord.compare (front ++ left) (front ++ right) = Ord.compare left right := by
  induction front with
  | nil => rfl
  | cons byte front ih =>
    rw [List.cons_append, List.cons_append, List.compare_cons_cons, Std.ReflOrd.compare_self]
    exact ih

theorem compare_encode_of_lt {left right : List Char} (less : left < right) :
    Ord.compare (encode left) (encode right) = .lt := by
  induction less with
  | @nil c rest =>
    obtain ⟨lead, tail, shape, -⟩ := encodeChar_shape c
    rw [encode_nil, encode_cons, shape]
    rfl
  | cons _ ih => rw [encode_cons, encode_cons, compare_append_left, ih]
  | rel less => exact compare_encodeChar_append less _ _

theorem compare_encode (left right : String) :
    Ord.compare (encode left.toList) (encode right.toList) = Ord.compare left right := by
  have texts : Ord.compare left right = compareOfLessAndEq left right := rfl
  rw [texts, compareOfLessAndEq]
  rcases lt_trichotomy left right with less | rfl | less
  · rw [compare_encode_of_lt (String.lt_iff_toList_lt.mp less), if_pos less]
  · rw [Std.ReflOrd.compare_self, if_neg (lt_irrefl left), if_pos rfl]
  · rw [Std.OrientedOrd.eq_swap, compare_encode_of_lt (String.lt_iff_toList_lt.mp less),
      if_neg less.asymm, if_neg less.ne']
    rfl

end Text

namespace RawComponent

open Text

def ofComponent : Component → RawComponent
  | .root => .root
  | .current => .current
  | .parent => .parent
  | .named name => .named (encode name.toList)

theorem ofComponent_injective : Function.Injective ofComponent := by
  intro left right same
  cases left <;> cases right <;> simp_all [ofComponent, encode_injective.eq_iff, String.toList_inj]

theorem compare_ofComponent (left right : Component) :
    (ofComponent left).compare (ofComponent right) = left.compare right := by
  cases left <;> cases right <;> first | rfl | exact compare_encode _ _

theorem ofPart?_encode (part : List Char) :
    ofPart? (encode part) = (Component.ofPart? part).map ofComponent := by
  have none : encode part = [] ↔ part = [] := encode_injective.eq_iff (b := [])
  have dot : encode part = [0x2e] ↔ part = ['.'] := encode_injective.eq_iff (b := ['.'])
  have dots : encode part = [0x2e, 0x2e] ↔ part = ['.', '.'] :=
    encode_injective.eq_iff (b := ['.', '.'])
  simp only [ofPart?, Component.ofPart?, none, dot, dots]
  split_ifs <;> simp [ofComponent]

theorem exists_encode_of_ofPart? {part : List UInt8}
    (known : ∀ component ∈ ofPart? part, ∃ source, ofComponent source = component) :
    ∃ text, part = encode text := by
  rw [ofPart?] at known
  split_ifs at known with empty dots
  · exact empty.elim (fun none => ⟨[], none⟩) fun dot => ⟨['.'], dot⟩
  · exact ⟨['.', '.'], dots⟩
  · obtain ⟨source, same⟩ := known _ rfl
    cases source <;> cases same
    exact ⟨_, rfl⟩

theorem isSome_ofPart?_decodeLossy (part : List UInt8) :
    (Component.ofPart? (decodeLossy part)).isSome = (ofPart? part).isSome := by
  have none : decodeLossy part = [] ↔ part = [] := decodeLossy_eq_iff part [] (by decide)
  have dot : decodeLossy part = ['.'] ↔ part = [0x2e] := decodeLossy_eq_iff part ['.'] (by decide)
  simp only [ofPart?, Component.ofPart?, none, dot]
  split_ifs <;> rfl

end RawComponent

namespace RawPath

open Text

theorem bytes_ofPath (path : Path) : (ofPath path).bytes = encode path.text.toList :=
  toUTF8_toList path.text

theorem lossy_ofPath (path : Path) : (ofPath path).lossy = path := by
  simp [lossy, bytes_ofPath]

theorem lossy_chars (path : RawPath) : path.lossy.text.toList = decodeLossy path.bytes :=
  String.toList_ofList

theorem isAbsolute_lossy (path : RawPath) : path.lossy.isAbsolute = path.isAbsolute := by
  rw [Bool.eq_iff_iff]
  simp only [Path.isAbsolute, isAbsolute, decide_eq_true_eq, lossy_chars, List.head?_eq_some_iff]
  constructor
  · rintro ⟨rest, reads⟩
    obtain ⟨after, split⟩ := decodeLossy_take path.bytes ['/'] rest reads (by decide)
    exact ⟨after, split⟩
  · rintro ⟨rest, split⟩
    exact ⟨decodeLossy rest, split ▸ decodeLossy_encode_append ['/'] rest⟩

theorem isAbsolute_ofPath (path : Path) : (ofPath path).isAbsolute = path.isAbsolute := by
  rw [← isAbsolute_lossy, lossy_ofPath]

theorem components_ofPath (path : Path) :
    (ofPath path).components = path.components.map RawComponent.ofComponent := by
  have dot (parts : List (List Char)) :
      (parts.map encode).head? = some [0x2e] ↔ parts.head? = some ['.'] := by
    cases parts with
    | nil => simp
    | cons part rest =>
      rw [List.map_cons, List.head?_cons, List.head?_cons, Option.some.injEq, Option.some.injEq]
      exact encode_injective.eq_iff (b := ['.'])
  have named (parts : List (List Char)) : (parts.map encode).filterMap RawComponent.ofPart? =
      (parts.filterMap Component.ofPart?).map RawComponent.ofComponent := by
    simp [List.filterMap_map, List.map_filterMap, RawComponent.ofPart?_encode]
  simp only [components, Path.components, isAbsolute_ofPath, bytes_ofPath, splitOn_encode,
    Path.parts_eq, named, dot]
  split_ifs <;> rfl

theorem sameAs_ofPath (left right : Path) :
    (ofPath left).sameAs (ofPath right) = left.sameAs right := by
  simp only [sameAs, Path.sameAs, components_ofPath,
    RawComponent.ofComponent_injective.list_map.eq_iff]

theorem compareComponents_map (left right : List Component) :
    compareComponents (left.map RawComponent.ofComponent) (right.map RawComponent.ofComponent) =
      Path.compareComponents left right := by
  induction left generalizing right with
  | nil => cases right <;> rfl
  | cons a left ih =>
    cases right with
    | nil => rfl
    | cons b right =>
      rw [List.map_cons, List.map_cons, compareComponents, Path.compareComponents,
        RawComponent.compare_ofComponent, ih]

theorem compare_ofPath (left right : Path) :
    (ofPath left).compare (ofPath right) = left.compare right := by
  rw [compare, components_ofPath, components_ofPath, compareComponents_map, Path.compare]

theorem isWithin_ofPath (left right : Path) :
    (ofPath left).isWithin (ofPath right) = left.isWithin right := by
  rw [isWithin, lossy_ofPath, lossy_ofPath]

def IsText (path : RawPath) : Prop :=
  ∃ text : Path, path = ofPath text

theorem isText_of_bytes {path : RawPath} {text : List Char} (split : path.bytes = encode text) :
    path.IsText := by
  have same := bytes_ofPath ⟨String.ofList text⟩
  rw [String.toList_ofList, ← split] at same
  exact ⟨⟨String.ofList text⟩, congrArg RawPath.mk same.symm⟩

theorem parts_of_components (path : RawPath) :
    (path.bytes.splitOn 0x2f).filterMap RawComponent.ofPart? ⊆ path.components := by
  intro component member
  simp only [components]
  split_ifs
  · exact List.mem_cons_of_mem _ member
  · exact List.mem_cons_of_mem _ member
  · exact member

theorem isText_of_components {path : RawPath} {components : List Component}
    (same : path.components = components.map RawComponent.ofComponent) : path.IsText := by
  have parts : ∀ part ∈ path.bytes.splitOn 0x2f, ∃ text, part = encode text := by
    intro part member
    refine RawComponent.exists_encode_of_ofPart? fun component made => ?_
    have known := parts_of_components path (List.mem_filterMap.mpr ⟨part, member, made⟩)
    rw [same] at known
    obtain ⟨source, -, converted⟩ := List.mem_map.mp known
    exact ⟨source, converted⟩
  obtain ⟨text, split⟩ := exists_encode_of_splitOn path.bytes parts
  exact isText_of_bytes split

theorem length_components_lossy {path : RawPath} (absolute : path.isAbsolute = true) :
    path.lossy.components.length = path.components.length := by
  have absolute' := (isAbsolute_lossy path).trans absolute
  simp only [components, Path.components, absolute, absolute', if_true, List.length_cons,
    Path.parts_eq, lossy_chars, splitOn_decodeLossy, List.length_filterMap_eq_countP,
    List.countP_map, Function.comp_def, RawComponent.isSome_ofPart?_decodeLossy]

end RawPath

end FileSearch
