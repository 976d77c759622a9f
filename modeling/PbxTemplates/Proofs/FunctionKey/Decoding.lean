import Mathlib.Data.List.Induction
import PbxTemplates.Proofs.FirstPlaces
import PbxTemplates.Proofs.FunctionKey.Position

/-!
# Keys read from texts

A text may denote a position with a plus sign and leading zeros, so several texts may denote one
position. Texts are read in code point order. The first that denotes no position ends it; of those
that denote one position the last one counts (`ofTexts_last_text_counts`).
-/

namespace PbxTemplates

variable {text : String} {position position' : UInt32}

/-! ### Numerals -/

namespace Decimal

/-- The number that digits denote, each of them counted at its place. -/
def ofPlaces : List Char → Nat
  | [] => 0
  | c :: cs => digitValue c * Nat.pow 10 cs.length + ofPlaces cs

theorem ofPlaces_append_singleton (cs : List Char) (c : Char) :
    ofPlaces (cs ++ [c]) = 10 * ofPlaces cs + digitValue c := by
  induction cs with
  | nil => simp [ofPlaces]
  | cons d cs ih =>
    have power : Nat.pow 10 (cs.length + 1) = Nat.pow 10 cs.length * 10 := rfl
    rw [List.cons_append, ofPlaces, ofPlaces, ih, List.length_append, List.length_singleton, power,
      ← Nat.mul_assoc]
    omega

theorem value_eq_ofPlaces (cs : List Char) : value cs = ofPlaces cs := by
  induction cs using List.reverseRecOn with
  | nil => rfl
  | append_singleton cs c ih => rw [value_append_singleton, ofPlaces_append_singleton, ih]

end Decimal

theorem isDigit_iff {c : Char} : c.isDigit ↔ '0' ≤ c ∧ c ≤ '9' := by
  simp [Char.isDigit, Char.le_def]

theorem Decimal.read?_eq_some_iff {cs : List Char} {n : Nat} :
    read? cs = some n ↔ cs ≠ [] ∧ (∀ c ∈ cs, '0' ≤ c ∧ c ≤ '9') ∧ ofPlaces cs = n := by
  have digits : cs.all Char.isDigit ↔ ∀ c ∈ cs, '0' ≤ c ∧ c ≤ '9' := by
    simp only [List.all_eq_true, isDigit_iff]
  rw [read?, value_eq_ofPlaces, Option.ite_none_right_eq_some, digits, Option.some.injEq, and_assoc]

/-! ### Texts of positions -/

/-- The text denotes the position: an optional plus sign, and digits whose number it is. -/
def Denotes (text : String) (position : UInt32) : Prop :=
  ∃ sign digits, text.toList = sign ++ digits ∧ (sign = [] ∨ sign = ['+']) ∧ digits ≠ [] ∧
    (∀ c ∈ digits, '0' ≤ c ∧ c ≤ '9') ∧ Decimal.ofPlaces digits = position.toNat

/-- Characters without a plus sign at their start. -/
def unsigned : List Char → List Char
  | '+' :: rest => rest
  | cs => cs

theorem unsigned_eq_iff {cs digits : List Char} (h : ∀ c ∈ digits, '0' ≤ c ∧ c ≤ '9') :
    unsigned cs = digits ↔ ∃ sign, cs = sign ++ digits ∧ (sign = [] ∨ sign = ['+']) := by
  constructor
  · rintro rfl
    unfold unsigned
    split
    · exact ⟨['+'], rfl, .inr rfl⟩
    · exact ⟨[], rfl, .inl rfl⟩
  · rintro ⟨sign, rfl, rfl | rfl⟩
    · -- a run of digits does not start with a plus sign
      rw [List.nil_append, unsigned.eq_2]
      rintro rest rfl
      exact absurd (h '+' List.mem_cons_self) (by decide)
    · rfl

theorem position?_eq_some_iff_read? :
    position? text = some position ↔
      Decimal.read? (unsigned text.toList) = some position.toNat := by
  have bound {n : Nat} : (if n < UInt32.size then some (UInt32.ofNat n) else none) = some position
      ↔ n = position.toNat := by
    rw [Option.ite_none_right_eq_some, Option.some.injEq]
    constructor
    · rintro ⟨small, rfl⟩
      exact (UInt32.toNat_ofNat_of_lt' small).symm
    · rintro rfl
      exact ⟨position.toNat_lt_size, UInt32.ofNat_toNat⟩
  rw [position?]
  split
  · rename_i n read
    have read : Decimal.read? (unsigned text.toList) = some n := read
    rw [read, bound, Option.some.injEq]
  · rename_i read
    have read : Decimal.read? (unsigned text.toList) = none := read
    simp [read]

theorem position?_eq_some_iff : position? text = some position ↔ Denotes text position := by
  rw [position?_eq_some_iff_read?, Decimal.read?_eq_some_iff]
  constructor
  · rintro ⟨some, digits, number⟩
    obtain ⟨sign, parts, plus⟩ := (unsigned_eq_iff digits).mp rfl
    exact ⟨sign, _, parts, plus, some, digits, number⟩
  · rintro ⟨sign, ds, parts, plus, some, digits, number⟩
    have rest : unsigned text.toList = ds := (unsigned_eq_iff digits).mpr ⟨sign, parts, plus⟩
    rw [rest]
    exact ⟨some, digits, number⟩

theorem Denotes.unique (h : Denotes text position) (h' : Denotes text position') :
    position = position' :=
  Option.some.inj ((position?_eq_some_iff.mpr h).symm.trans (position?_eq_some_iff.mpr h'))

def IsPosition (text : String) : Prop := ∃ position, Denotes text position

namespace KeyMap

variable {keys : KeyMap} {l : List (String × FunctionKey)} {e : String × FunctionKey}

/-! ### One text after the other -/

theorem insertText_of_denotes (h : Denotes e.1 position) :
    keys.insertText e = .ok (keys.insert position e.2) := by
  rw [insertText, position?_eq_some_iff.mpr h]

theorem insertText_of_not_isPosition (h : ¬ IsPosition e.1) :
    keys.insertText e = .error ⟨e.1⟩ := by
  have none : position? e.1 = none := Option.eq_none_iff_forall_ne_some.mpr fun position some =>
    h ⟨position, position?_eq_some_iff.mp some⟩
  rw [insertText, none]

/-- The keys that are read from texts: each position that is denoted has one, and it is that of the
greatest text. -/
structure ReadFrom (l : List (String × FunctionKey)) (keys : KeyMap) : Prop where
  held : ∀ e ∈ l, ∀ position, Denotes e.1 position → ∃ key, keys.get? position = some key
  greatest : ∀ position key, keys.get? position = some key → ∃ text, (text, key) ∈ l ∧
    Denotes text position ∧ ∀ other ∈ l, Denotes other.1 position → other.1 ≤ text

theorem ReadFrom.snoc (read : ReadFrom l keys) (above : ∀ other ∈ l, other.1 < e.1)
    (denotes : Denotes e.1 position) : ReadFrom (l ++ [e]) (keys.insert position e.2) where
  held := by
    intro other hother position' h
    by_cases here : position' = position
    · exact ⟨e.2, here ▸ SortedMap.get?_insert_self keys position e.2⟩
    · rw [SortedMap.get?_insert_of_ne keys here]
      rcases List.mem_append.mp hother with earlier | last
      · exact read.held other earlier position' h
      · rw [List.mem_singleton.mp last] at h
        exact absurd (h.unique denotes) here
  greatest := by
    intro position' key found
    by_cases here : position' = position
    · -- the new text is above all before it
      rw [here, SortedMap.get?_insert_self, Option.some.injEq] at found
      refine ⟨e.1, by simp [← found], here ▸ denotes, fun other hother _ => ?_⟩
      rcases List.mem_append.mp hother with earlier | last
      · exact Std.le_of_lt (above other earlier)
      · exact List.mem_singleton.mp last ▸ Std.le_refl e.1
    · rw [SortedMap.get?_insert_of_ne keys here] at found
      obtain ⟨text, hmem, h, most⟩ := read.greatest position' key found
      refine ⟨text, List.mem_append_left _ hmem, h, fun other hother hdenotes => ?_⟩
      rcases List.mem_append.mp hother with earlier | last
      · exact most other earlier hdenotes
      · rw [List.mem_singleton.mp last] at hdenotes
        exact absurd (hdenotes.unique denotes) here

theorem exists_readFrom (increasing : l.Pairwise fun a b => a.1 < b.1)
    (all : ∀ e ∈ l, IsPosition e.1) :
    ∃ keys, l.foldlM insertText ∅ = .ok keys ∧ ReadFrom l keys := by
  induction l using List.reverseRecOn with
  | nil => exact ⟨∅, rfl, nofun, nofun⟩
  | append_singleton l e ih =>
    obtain ⟨increasing, -, above⟩ := List.pairwise_append.mp increasing
    obtain ⟨keys, ok, read⟩ := ih increasing fun e he => all e (List.mem_append_left _ he)
    obtain ⟨position, denotes⟩ := all e (by simp)
    refine ⟨keys.insert position e.2, ?_, read.snoc (fun e he => above e he _ (by simp)) denotes⟩
    rw [List.foldlM_append, ok]
    show [e].foldlM insertText keys = _
    rw [List.foldlM_cons, insertText_of_denotes denotes]
    rfl

theorem foldlM_insertText_of_isFirst (increasing : l.Pairwise fun a b => a.1 < b.1)
    (first : IsFirst (fun e => ¬ IsPosition e.1) l e) :
    l.foldlM insertText ∅ = .error ⟨e.1⟩ := by
  obtain ⟨none, before, after, rfl, all⟩ := first
  obtain ⟨increasing, -, -⟩ := List.pairwise_append.mp increasing
  obtain ⟨keys, ok, -⟩ := exists_readFrom increasing fun e he => not_not.mp (all e he)
  rw [List.foldlM_append, ok]
  show (e :: after).foldlM insertText keys = _
  rw [List.foldlM_cons, insertText_of_not_isPosition none]
  rfl

/-! ### All texts -/

variable {texts : SortedMap String FunctionKey}

theorem increasing_texts (texts : SortedMap String FunctionKey) :
    texts.toList.Pairwise fun a b => a.1 < b.1 :=
  texts.sorted.imp compareOfLessAndEq_eq_lt.mp

theorem ofTexts_of_isPosition (all : ∀ text ∈ texts.keys, IsPosition text) :
    ∃ keys, ofTexts texts = .ok keys ∧ ReadFrom texts.toList keys :=
  exists_readFrom (increasing_texts texts) fun _ he => all _ (List.mem_map_of_mem he)

theorem ReadFrom.mem_keys_iff (read : ReadFrom texts.toList keys) :
    position ∈ keys.keys ↔ ∃ text ∈ texts.keys, Denotes text position := by
  rw [SortedMap.mem_keys_iff]
  constructor
  · rintro ⟨key, found⟩
    obtain ⟨text, held, denotes, -⟩ := read.greatest position key found
    exact ⟨text, List.mem_map_of_mem held, denotes⟩
  · rintro ⟨text, held, denotes⟩
    obtain ⟨e, he, rfl⟩ := List.mem_map.mp held
    exact read.held e he position denotes

theorem ReadFrom.get?_eq_some_iff (read : ReadFrom texts.toList keys) {key : FunctionKey} :
    keys.get? position = some key ↔
      ∃ text, texts.get? text = some key ∧ Denotes text position ∧
        ∀ other ∈ texts.keys, Denotes other position → other ≤ text := by
  have greatest {key} (found : keys.get? position = some key) :
      ∃ text, texts.get? text = some key ∧ Denotes text position ∧
        ∀ other ∈ texts.keys, Denotes other position → other ≤ text := by
    obtain ⟨text, held, denotes, most⟩ := read.greatest position key found
    refine ⟨text, SortedMap.mem_toList_iff.mp held, denotes, fun other hother => ?_⟩
    obtain ⟨e, he, rfl⟩ := List.mem_map.mp hother
    exact most e he
  refine ⟨greatest, fun ⟨text, held, denotes, most⟩ => ?_⟩
  -- some key is there, and the text that it comes from is the same
  obtain ⟨key', found⟩ := read.held _ (SortedMap.mem_toList_iff.mpr held) position denotes
  obtain ⟨text', held', denotes', most'⟩ := greatest found
  have same : text' = text := Std.le_antisymm
    (most text' (SortedMap.mem_keys_iff.mpr ⟨_, held'⟩) denotes')
    (most' text (SortedMap.mem_keys_iff.mpr ⟨_, held⟩) denotes)
  rw [found, ← held', same, held]

/-- The error is the least text that denotes no position. -/
theorem ofTexts_of_not_isPosition (some : ∃ text ∈ texts.keys, ¬ IsPosition text) :
    ∃ text ∈ texts.keys, ofTexts texts = .error ⟨text⟩ ∧ ¬ IsPosition text ∧
      ∀ other ∈ texts.keys, ¬ IsPosition other → text ≤ other := by
  have entry : ∃ e ∈ texts.toList, ¬ IsPosition e.1 := by
    obtain ⟨text, held, not⟩ := some
    obtain ⟨e, he, rfl⟩ := List.mem_map.mp held
    exact ⟨e, he, not⟩
  obtain ⟨e, first⟩ := exists_isFirst entry
  have fails := foldlM_insertText_of_isFirst (increasing_texts texts) first
  obtain ⟨not, before, after, parts, all⟩ := first
  have increasing := increasing_texts texts
  rw [parts, List.pairwise_append, List.pairwise_cons] at increasing
  obtain ⟨-, ⟨above, -⟩, -⟩ := increasing
  refine ⟨e.1, List.mem_map_of_mem (by simp [parts]), fails, not, fun other held hother => ?_⟩
  obtain ⟨e', he', rfl⟩ := List.mem_map.mp held
  rw [parts, List.mem_append, List.mem_cons] at he'
  rcases he' with earlier | rfl | later
  · exact absurd hother (all e' earlier)
  · exact Std.le_refl _
  · exact Std.le_of_lt (above e' later)

theorem toTexts_injective : Function.Injective toTexts := by
  intro keys keys' same
  have read : ofTexts keys.toTexts = ofTexts keys'.toTexts := congrArg ofTexts same
  rw [ofTexts_toTexts, ofTexts_toTexts] at read
  exact Except.ok.inj read

/-- Keys by text are refused if one of the texts denotes no position, and then for the least such
text. Otherwise the positions are those that are denoted, and each has the key of the greatest text
that denotes it. Positions are written as different texts, maps of keys are therefore written as
different maps, and every map of keys is read back. -/
theorem ofTexts_last_text_counts :
    (∀ texts : SortedMap String FunctionKey,
      ((∃ err, ofTexts texts = .error err) ↔ ∃ text ∈ texts.keys, ¬ IsPosition text) ∧
      (∀ err, ofTexts texts = .error err →
        err.text ∈ texts.keys ∧ ¬ IsPosition err.text ∧
          ∀ other ∈ texts.keys, ¬ IsPosition other → err.text ≤ other) ∧
      ∀ keys, ofTexts texts = .ok keys →
        (∀ position, position ∈ keys.keys ↔ ∃ text ∈ texts.keys, Denotes text position) ∧
        ∀ position key, keys.get? position = some key ↔
          ∃ text, texts.get? text = some key ∧ Denotes text position ∧
            ∀ other ∈ texts.keys, Denotes other position → other ≤ text) ∧
    Function.Injective positionText ∧ Function.Injective toTexts ∧
      ∀ keys, ofTexts (toTexts keys) = .ok keys := by
  refine ⟨fun texts => ?_, positionText_injective, toTexts_injective, ofTexts_toTexts⟩
  by_cases all : ∀ text ∈ texts.keys, IsPosition text
  · obtain ⟨keys, ok, read⟩ := ofTexts_of_isPosition all
    rw [ok]
    refine ⟨⟨nofun, fun ⟨text, held, not⟩ => absurd (all text held) not⟩, nofun, ?_⟩
    rintro _ ⟨⟩
    exact ⟨fun _ => read.mem_keys_iff, fun _ _ => read.get?_eq_some_iff⟩
  · have some : ∃ text ∈ texts.keys, ¬ IsPosition text := by simpa using all
    obtain ⟨text, held, fails, not, least⟩ := ofTexts_of_not_isPosition some
    rw [fails]
    refine ⟨⟨fun _ => some, fun _ => ⟨_, rfl⟩⟩, ?_, nofun⟩
    rintro _ ⟨⟩
    exact ⟨held, not, least⟩

example (a b c : FunctionKey) :
    ofTexts (.ofList [("1", a), ("01", b), ("+1", c)]) = .ok (.ofList [(1, a)]) := by cbv

end KeyMap

end PbxTemplates
