/-
# Strings in JSON

A text is read back from the string that is written of it
(`Json.readString_string`): every code point is written by itself or as an
escape that stands for it (`Json.stringBody_stringChar`). Only halves of a pair
that follow each other are not, because their escapes are read as those of one
character. No string that is read from a text with an encoding has such halves
(`Json.unpaired_of_readString`), so what was read there can be written and read
again.

Key definitions: `CodePoint.joins`, `Text.Unpaired`.
Key theorems: `Json.readString_string`, `Json.unpaired_of_readString`.
-/
import Mathlib.Data.List.Chain
import Mathlib.Tactic.IntervalCases
import TwinQuery.Json.Reader
import TwinQuery.Json.Writer
import TwinQuery.Proofs.SessionRuns

namespace TwinQuery

/-- Whether two code points are the halves of a pair. -/
def CodePoint.joins (c d : CodePoint) : Bool :=
  Json.isHighUnit c.toNat && Json.isLowUnit d.toNat

/-- A text in which no half is followed by the other half of a pair. -/
def Text.Unpaired (t : Text) : Prop := t.IsChain fun c d => c.joins d = false

namespace Json

theorem isHighUnit_iff (n : Nat) : isHighUnit n ↔ 0xD800 ≤ n ∧ n ≤ 0xDBFF := by
  simp [isHighUnit]

theorem isLowUnit_iff (n : Nat) : isLowUnit n ↔ 0xDC00 ≤ n ∧ n ≤ 0xDFFF := by
  simp [isLowUnit]

end Json

theorem Text.isHalf_of_isEncodable {t : Text} (h : t.isEncodable) {c : CodePoint} (hc : c ∈ t) :
    c.isHalf = false := by
  simpa using List.all_eq_true.mp h c hc

theorem Text.isEncodable_of_subset {t u : Text} (h : t.isEncodable) (hu : u ⊆ t) :
    u.isEncodable :=
  List.all_eq_true.mpr fun c hc => List.all_eq_true.mp h c (hu hc)

theorem CodePoint.joins_of_not_half {c d : CodePoint} (h : d.isHalf = false) :
    c.joins d = false := by
  rw [← Bool.not_eq_true, CodePoint.isHalf_iff] at h
  rw [← Bool.not_eq_true, joins, Bool.and_eq_true, Json.isLowUnit_iff]
  omega

/-- A text without halves has none that follow each other. -/
theorem Text.unpaired_of_isEncodable {t : Text} (h : t.isEncodable) : t.Unpaired := by
  unfold Text.Unpaired
  induction t with
  | nil => exact .nil
  | cons c t ih =>
    have ht : Text.isEncodable t := isEncodable_of_subset h (List.subset_cons_self c t)
    refine List.isChain_cons.mpr ⟨fun d hd => ?_, ih ht⟩
    exact CodePoint.joins_of_not_half (isHalf_of_isEncodable ht (List.mem_of_head? hd))

namespace Json

/-! ### Escapes -/

theorem hexValue?_digitChar {n : Nat} (h : n < 16) :
    hexValue? (.char (Nat.digitChar n)) = some n := by
  interval_cases n <;> rfl

/-- A hexadecimal numeral ends with its last digit. -/
theorem hex_succ {width : Nat} (hwidth : 0 < width) (n : Nat) :
    Text.hex (width + 1) n = Text.hex width (n / 16) ++ [.char (Nat.digitChar (n % 16))] := by
  unfold Text.hex Text.padLeft
  by_cases hn : n < 16
  · have hdiv : n / 16 = 0 := by omega
    have hmod : n % 16 = n := by omega
    have hzero : Nat.toDigits 16 0 = ['0'] := rfl
    have hlength : width + 1 - 1 = width - 1 + 1 := by omega
    rw [Nat.toDigits_of_lt_base hn, hdiv, hmod, hzero, List.map_singleton, List.map_singleton,
      ← List.replicate_succ', List.length_singleton, List.length_singleton, hlength]
  · rw [Nat.toDigits_of_base_le (by decide) (by omega), List.map_append, List.map_singleton,
      List.length_append, List.length_singleton, Nat.add_sub_add_right, List.append_assoc]

theorem hex_four {n : Nat} (h : n < 65536) :
    Text.hex 4 n = [.char (Nat.digitChar (n / 4096)), .char (Nat.digitChar (n / 256 % 16)),
      .char (Nat.digitChar (n / 16 % 16)), .char (Nat.digitChar (n % 16))] := by
  have hsecond : n / 16 / 16 = n / 256 := by omega
  have hfirst : n / 256 / 16 = n / 4096 := by omega
  have hone : Text.hex 1 (n / 4096) = [.char (Nat.digitChar (n / 4096))] := by
    unfold Text.hex Text.padLeft
    rw [Nat.toDigits_of_lt_base (by omega)]
    rfl
  rw [hex_succ (by decide), hex_succ (by decide), hex_succ (by decide), hsecond, hfirst, hone]
  rfl

theorem hex4?_hex {n : Nat} (h : n < 65536) : hex4? (Text.hex 4 n) = some n := by
  have hsum : ((n / 4096 * 16 + n / 256 % 16) * 16 + n / 16 % 16) * 16 + n % 16 = n := by omega
  rw [hex_four h]
  simp only [hex4?]
  rw [hexValue?_digitChar (by omega), hexValue?_digitChar (by omega),
    hexValue?_digitChar (by omega), hexValue?_digitChar (by omega)]
  exact congrArg some hsum

theorem length_hex {n : Nat} (h : n < 65536) : (Text.hex 4 n).length = 4 := by
  rw [hex_four h]
  rfl

theorem unitEscape_append (n : Nat) (t : Text) :
    unitEscape n ++ t = .char '\\' :: .char 'u' :: (Text.hex 4 n ++ t) := rfl

section Units

variable {n : Nat} (h : n < 65536) (c : CodePoint) (rest : Text)

include h

theorem take_hex : (Text.hex 4 n ++ c :: rest).take 4 = Text.hex 4 n :=
  List.take_left' (length_hex h)

theorem drop_hex : (Text.hex 4 n ++ c :: rest).drop 4 = c :: rest :=
  List.drop_left' (length_hex h)

theorem length_take_hex : ¬ ((Text.hex 4 n ++ c :: rest).take 5).length < 5 := by
  rw [List.length_take, List.length_append, length_hex h, List.length_cons]
  omega

/-- What is written for a unit goes on with a pair only if the unit is a second
half. -/
theorem lowUnit?_unitEscape :
    lowUnit? (unitEscape n ++ c :: rest) =
      if isLowUnit n then some (.ok (n, c :: rest)) else none := by
  rw [unitEscape_append]
  simp only [lowUnit?]
  rw [if_neg (length_take_hex h c rest), take_hex h, hex4?_hex h, drop_hex h]

/-- The escape of a unit that is not joined with what follows. -/
theorem unitEscape?_hex (hnext : isHighUnit n → lowUnit? (c :: rest) = none) :
    unitEscape? (Text.hex 4 n ++ c :: rest) = .ok (CodePoint.ofNat n, c :: rest) := by
  rw [unitEscape?, if_neg (length_take_hex h c rest), take_hex h, hex4?_hex h, drop_hex h]
  by_cases hhigh : isHighUnit n
  · simp only [hhigh, if_true, hnext hhigh]
  · simp only [hhigh, if_false, Bool.false_eq_true]

end Units

/-- The escapes of a pair of units. -/
theorem unitEscape?_pair {high low : Nat} (hhigh : isHighUnit high) (hlow : isLowUnit low)
    (c : CodePoint) (rest : Text) :
    unitEscape? (Text.hex 4 high ++ (unitEscape low ++ c :: rest)) =
      .ok (CodePoint.ofNat (0x10000 + (high - 0xD800) * 0x400 + (low - 0xDC00)), c :: rest) := by
  have hhigh' : high < 65536 := by
    rw [isHighUnit_iff] at hhigh
    omega
  have hlow' : low < 65536 := by
    rw [isLowUnit_iff] at hlow
    omega
  have hnext := lowUnit?_unitEscape hlow' c rest
  rw [if_pos hlow] at hnext
  rw [unitEscape_append] at hnext ⊢
  rw [unitEscape?, if_neg (length_take_hex hhigh' _ _), take_hex hhigh', hex4?_hex hhigh',
    drop_hex hhigh']
  simp only [hhigh, if_true, hnext]

/-! ### Strings that are written -/

/-- **How a code point is written in a string**: as an escape of one letter, by its
code, or as it is. -/
theorem stringChar_cases (ascii : Bool) (c : CodePoint) :
    (∃ e : Char, stringChar ascii c = [.char '\\', .char e] ∧ shortEscape? (.char e) = some c) ∨
      stringChar ascii c = charEscape c.toNat ∨
      (stringChar ascii c = [c] ∧ c ≠ '"' ∧ c ≠ '\\' ∧ 32 ≤ c.toNat ∧ (ascii → c.toNat ≤ 126)) := by
  unfold stringChar
  split
  · exact Or.inl ⟨'"', rfl, by rw [‹c = _›]; rfl⟩
  split
  · exact Or.inl ⟨'\\', rfl, by rw [‹c = _›]; rfl⟩
  split
  · exact Or.inl ⟨'n', rfl, by rw [‹c = _›]; rfl⟩
  split
  · exact Or.inl ⟨'r', rfl, by rw [‹c = _›]; rfl⟩
  split
  · exact Or.inl ⟨'t', rfl, by rw [‹c = _›]; rfl⟩
  split
  · exact Or.inl ⟨'b', rfl, by rw [← c.ofNat_toNat, ‹c.toNat = 8›]; rfl⟩
  split
  · exact Or.inl ⟨'f', rfl, by rw [← c.ofNat_toNat, ‹c.toNat = 12›]; rfl⟩
  split
  · exact Or.inr (Or.inl (by rw [charEscape, if_pos (by omega)]))
  split
  · exact Or.inr (Or.inl rfl)
  · rename_i hquote hslash _ _ _ _ _ hcontrol hascii
    simp only [Bool.and_eq_true, decide_eq_true_eq, not_and, not_lt] at hascii
    exact Or.inr (Or.inr ⟨rfl, hquote, hslash, by omega, hascii⟩)

theorem ne_of_shortEscape? {e : Char} {c : CodePoint} (h : shortEscape? (.char e) = some c) :
    e ≠ 'u' ∧ e ≠ '\r' := by
  constructor
  · rintro rfl
    cases h
  · rintro rfl
    cases h

section Characters

variable (start acc : Text) (fuel : Nat) (c next : CodePoint) (rest : Text)
  (hnext : isHighUnit c.toNat → lowUnit? (next :: rest) = none)

theorem stringBody_escape {d : CodePoint} {t after : Text} (h : unitEscape? t = .ok (d, after)) :
    stringBody start (fuel + 1) acc (.char '\\' :: .char 'u' :: t) =
      stringBody start fuel (d :: acc) after := by
  rw [stringBody]
  simp [h, bind, Except.bind]

include hnext

/-- The escape of one unit gives its code point. -/
theorem stringBody_unitEscape (h : c.toNat < 65536) :
    stringBody start (fuel + 1) acc (unitEscape c.toNat ++ next :: rest) =
      stringBody start fuel (c :: acc) (next :: rest) := by
  have hescape := unitEscape?_hex h next rest hnext
  rw [CodePoint.ofNat_toNat] at hescape
  rw [unitEscape_append]
  exact stringBody_escape start acc fuel hescape

/-- A character beyond those of one unit is the character of its pair. -/
theorem stringBody_charEscape :
    stringBody start (fuel + 1) acc (charEscape c.toNat ++ next :: rest) =
      stringBody start fuel (c :: acc) (next :: rest) := by
  by_cases hunit : c.toNat < 65536
  · rw [charEscape, if_pos hunit]
    exact stringBody_unitEscape start acc fuel c next rest hnext hunit
  · have hbound := c.toNat_lt
    have hhigh : isHighUnit (0xD800 + (c.toNat - 0x10000) / 0x400) := by
      rw [isHighUnit_iff]
      omega
    have hlow : isLowUnit (0xDC00 + (c.toNat - 0x10000) % 0x400) := by
      rw [isLowUnit_iff]
      omega
    have hpair := unitEscape?_pair hhigh hlow next rest
    have hvalue : 0x10000 + (0xD800 + (c.toNat - 0x10000) / 0x400 - 0xD800) * 0x400 +
        (0xDC00 + (c.toNat - 0x10000) % 0x400 - 0xDC00) = c.toNat := by omega
    rw [hvalue, CodePoint.ofNat_toNat] at hpair
    rw [charEscape, if_neg hunit, List.append_assoc, unitEscape_append]
    exact stringBody_escape start acc fuel hpair

/-- **What stands for a code point in a string is read as that code point**, unless
it is a half that goes on with the other one. -/
theorem stringBody_stringChar (ascii : Bool) :
    stringBody start (fuel + 1) acc (stringChar ascii c ++ next :: rest) =
      stringBody start fuel (c :: acc) (next :: rest) := by
  rcases stringChar_cases ascii c with ⟨e, hform, he⟩ | hform | ⟨hform, hquote, hslash, hcontrol, -⟩
  · rw [hform, stringBody.eq_def]
    simp [he, (ne_of_shortEscape? he).1]
  · rw [hform]
    exact stringBody_charEscape start acc fuel c next rest hnext
  · rw [hform, List.singleton_append, stringBody.eq_def]
    simp only [hquote, hslash, Nat.not_lt.mpr hcontrol, if_false]

end Characters

/-- What stands for anything but a second half does not go on with a pair. -/
theorem lowUnit?_stringChar (ascii : Bool) {c : CodePoint} (h : isLowUnit c.toNat = false)
    (next : CodePoint) (rest : Text) : lowUnit? (stringChar ascii c ++ next :: rest) = none := by
  rcases stringChar_cases ascii c with ⟨e, hform, he⟩ | hform | ⟨hform, -, hslash, -, -⟩
  · rw [hform]
    simp [lowUnit?, (ne_of_shortEscape? he).1]
  · rw [hform, charEscape]
    split
    · rw [lowUnit?_unitEscape ‹_›, h]
      rfl
    · have hbound := c.toNat_lt
      have hhigh : isLowUnit (0xD800 + (c.toNat - 0x10000) / 0x400) = false := by
        rw [← Bool.not_eq_true, isLowUnit_iff]
        omega
      rw [List.append_assoc, unitEscape_append (0xDC00 + _), lowUnit?_unitEscape (by omega), hhigh]
      rfl
  · rw [hform, List.singleton_append]
    simp [lowUnit?, hslash]

theorem charEscape_ne_nil (n : Nat) : charEscape n ≠ [] := by
  unfold charEscape
  split <;> exact List.cons_ne_nil _ _

theorem stringChar_ne_nil (ascii : Bool) (c : CodePoint) : stringChar ascii c ≠ [] := by
  rcases stringChar_cases ascii c with ⟨e, hform, -⟩ | hform | ⟨hform, -⟩
  · simp [hform]
  · rw [hform]
    exact charEscape_ne_nil _
  · simp [hform]

theorem length_le_flatMap_stringChar (ascii : Bool) (t : Text) :
    t.length ≤ (t.flatMap (stringChar ascii)).length := by
  induction t with
  | nil => simp
  | cons c t ih =>
    have hpos : 0 < (stringChar ascii c).length :=
      List.length_pos_iff.mpr (stringChar_ne_nil ascii c)
    rw [List.flatMap_cons, List.length_append, List.length_cons]
    omega

/-- A first half in a text without pairs is not joined with what is written after
it. -/
theorem lowUnit?_flatMap (ascii : Bool) {c : CodePoint} {t : Text} (h : Text.Unpaired (c :: t))
    (hc : isHighUnit c.toNat) (rest : Text) :
    lowUnit? (t.flatMap (stringChar ascii) ++ .char '"' :: rest) = none := by
  cases t with
  | nil => rfl
  | cons d t =>
    have hjoins := (List.isChain_cons_cons.mp h).1
    rw [CodePoint.joins, hc, Bool.true_and] at hjoins
    obtain ⟨next, tail, htail⟩ : ∃ next tail,
        t.flatMap (stringChar ascii) ++ CodePoint.char '"' :: rest = next :: tail :=
      List.exists_cons_of_ne_nil (by simp)
    rw [List.flatMap_cons, List.append_assoc, htail]
    exact lowUnit?_stringChar ascii hjoins next tail

/-- The code points of a string are read one after the other, up to the closing
quote. -/
theorem stringBody_flatMap (ascii : Bool) (start rest : Text) : ∀ (t acc : Text) (fuel : Nat),
    t.Unpaired → t.length < fuel →
      stringBody start fuel acc (t.flatMap (stringChar ascii) ++ .char '"' :: rest) =
        .ok (acc.reverse ++ t, rest)
  | [], acc, fuel + 1, _, _ => by simp [stringBody]
  | c :: t, acc, fuel + 1, ht, hfuel => by
    have ih := stringBody_flatMap ascii start rest t (c :: acc) fuel
      (List.isChain_cons.mp ht).2 (by simpa using hfuel)
    have hlow := fun hc => lowUnit?_flatMap ascii ht hc rest
    obtain ⟨next, tail, htail⟩ : ∃ next tail,
        t.flatMap (stringChar ascii) ++ CodePoint.char '"' :: rest = next :: tail :=
      List.exists_cons_of_ne_nil (by simp)
    rw [List.flatMap_cons, List.append_assoc]
    rw [htail] at ih hlow ⊢
    rw [stringBody_stringChar start acc fuel c next tail hlow, ih, List.reverse_cons,
      List.append_assoc, List.singleton_append]

theorem string_eq (ascii : Bool) (t : Text) :
    string ascii t = .char '"' :: (t.flatMap (stringChar ascii) ++ [.char '"']) := rfl

/-- **A text is read back from its string.** -/
theorem readString_string (ascii : Bool) {t : Text} (ht : t.Unpaired) (rest : Text) :
    readString (string ascii t ++ rest) = .ok (t, rest) := by
  have hlength := length_le_flatMap_stringChar ascii t
  have hbody : string ascii t ++ rest =
      .char '"' :: (t.flatMap (stringChar ascii) ++ .char '"' :: rest) := by
    simp [string_eq]
  rw [readString, hbody, List.drop_one, List.tail_cons, stringBody_flatMap ascii _ rest t [] _ ht
    (by rw [List.length_cons, List.length_append]; omega), List.reverse_nil, List.nil_append]

/-- A code point that a file keeps as it is: no carriage return and, where all is
to be ASCII, no half. -/
def isPlain (ascii : Bool) (c : CodePoint) : Bool := c != '\r' && !(ascii && c.isHalf)

theorem isPlain_char (ascii : Bool) {c : Char} (h : c ≠ '\r') : isPlain ascii (.char c) := by
  simp [isPlain, CodePoint.isHalf, h]

theorem isPlain_of_toNat {c : CodePoint} (hreturn : c ≠ '\r') (h : c.toNat < 0xD800)
    (ascii : Bool) : isPlain ascii c := by
  have hhalf : c.isHalf = false := by
    rw [← Bool.not_eq_true, CodePoint.isHalf_iff]
    omega
  simp [isPlain, hreturn, hhalf]

theorem isPlain_digitChar (ascii : Bool) {n : Nat} (h : n < 16) :
    isPlain ascii (.char (Nat.digitChar n)) := by
  refine isPlain_char ascii ?_
  interval_cases n <;> decide

theorem isPlain_unitEscape (ascii : Bool) {n : Nat} (h : n < 65536) :
    ∀ c ∈ unitEscape n, isPlain ascii c := by
  have hescape : unitEscape n = .char '\\' :: .char 'u' :: Text.hex 4 n := rfl
  rw [hescape, hex_four h]
  simp only [List.forall_mem_cons]
  exact ⟨isPlain_char ascii (by decide), isPlain_char ascii (by decide),
    isPlain_digitChar ascii (by omega), isPlain_digitChar ascii (by omega),
    isPlain_digitChar ascii (by omega), isPlain_digitChar ascii (by omega), by simp⟩

theorem isPlain_charEscape (ascii : Bool) (c : CodePoint) :
    ∀ d ∈ charEscape c.toNat, isPlain ascii d := by
  have hbound := c.toNat_lt
  unfold charEscape
  split
  · exact isPlain_unitEscape ascii ‹_›
  · rw [List.forall_mem_append]
    exact ⟨isPlain_unitEscape ascii (by omega), isPlain_unitEscape ascii (by omega)⟩

theorem isPlain_stringChar (ascii : Bool) (c : CodePoint) :
    ∀ d ∈ stringChar ascii c, isPlain ascii d := by
  rcases stringChar_cases ascii c with ⟨e, hform, he⟩ | hform | ⟨hform, -, -, hcontrol, hascii⟩
  · rw [hform, List.forall_mem_cons, List.forall_mem_singleton]
    exact ⟨isPlain_char ascii (by decide), isPlain_char ascii (ne_of_shortEscape? he).2⟩
  · rw [hform]
    exact isPlain_charEscape ascii c
  · have hreturn : c ≠ '\r' := by
      rintro rfl
      exact absurd hcontrol (by decide)
    rw [hform, List.forall_mem_singleton]
    cases ascii with
    | false => simpa [isPlain] using hreturn
    | true =>
      have hbound := hascii rfl
      exact isPlain_of_toNat hreturn (by omega) true

theorem isPlain_string (ascii : Bool) (t : Text) : ∀ c ∈ string ascii t, isPlain ascii c := by
  rw [string_eq, List.forall_mem_cons, List.forall_mem_append, List.forall_mem_singleton]
  refine ⟨isPlain_char ascii (by decide), fun c hc => ?_, isPlain_char ascii (by decide)⟩
  obtain ⟨d, -, hd⟩ := List.mem_flatMap.mp hc
  exact isPlain_stringChar ascii d c hd

/-! ### Strings that are read -/

theorem hexValue?_lt {c : CodePoint} {n : Nat} (h : hexValue? c = some n) : n < 16 := by
  have hle : ∀ {a b : CodePoint}, a ≤ b ↔ a.toNat ≤ b.toNat := Iff.rfl
  unfold hexValue? at h
  simp only [Bool.and_eq_true, decide_eq_true_eq, hle] at h
  split at h
  · cases h
    have hnine : (CodePoint.char '9').toNat = 57 := rfl
    omega
  split at h
  · cases h
    have hf : (CodePoint.char 'f').toNat = 102 := rfl
    omega
  split at h
  · cases h
    have hf : (CodePoint.char 'F').toNat = 70 := rfl
    omega
  · cases h

theorem hex4?_lt {t : Text} {n : Nat} (h : hex4? t = some n) : n < 65536 := by
  unfold hex4? at h
  split at h
  · simp only [Option.bind_eq_bind, Option.bind_eq_some_iff] at h
    obtain ⟨a, ha, b, hb, c, hc, d, hd, h⟩ := h
    cases h
    have hdigits := And.intro (hexValue?_lt ha) (And.intro (hexValue?_lt hb)
      (And.intro (hexValue?_lt hc) (hexValue?_lt hd)))
    omega
  · cases h

theorem lowUnit?_spec {t rest : Text} {n : Nat} (h : lowUnit? t = some (.ok (n, rest))) :
    rest <:+ t ∧ isLowUnit n := by
  unfold lowUnit? at h
  split at h
  · rename_i after
    split at h
    · cases h
    split at h
    · cases h
    split at h
    · cases h
      refine ⟨(List.drop_suffix 4 after).trans ?_, ‹_›⟩
      exact (List.suffix_cons _ _).trans (List.suffix_cons _ _)
    · cases h
  · cases h

/-- What an escape by its code gives: a first half only where no second one
follows, and a second half only where the escape could be joined with another
before it. -/
theorem unitEscape?_spec {t rest : Text} {d : CodePoint} (h : unitEscape? t = .ok (d, rest)) :
    rest <:+ t ∧ (isHighUnit d.toNat → lowUnit? rest = none) ∧
      (lowUnit? (.char '\\' :: .char 'u' :: t) = none → isLowUnit d.toNat = false) := by
  unfold unitEscape? at h
  split at h
  · cases h
  rename_i hlength
  split at h
  · cases h
  rename_i n hn
  have hbound := hex4?_lt hn
  have hnat : (CodePoint.ofNat n).toNat = n := CodePoint.toNat_ofNat (by omega)
  split at h
  · rename_i hhigh
    rw [isHighUnit_iff] at hhigh
    split at h
    · cases h
    · rename_i low after hlow
      obtain ⟨rfl, rfl⟩ := Prod.mk.inj (Except.ok.inj h)
      obtain ⟨hafter, hlow⟩ := lowUnit?_spec hlow
      rw [isLowUnit_iff] at hlow
      rw [CodePoint.toNat_ofNat (by omega), isHighUnit_iff, ← Bool.not_eq_true, isLowUnit_iff]
      exact ⟨hafter.trans (List.drop_suffix 4 t), by omega, by omega⟩
    · cases h
      rw [hnat, ← Bool.not_eq_true, isLowUnit_iff]
      exact ⟨List.drop_suffix 4 t, fun _ => ‹_›, by omega⟩
  · cases h
    rw [hnat]
    refine ⟨List.drop_suffix 4 t, fun hhigh => absurd hhigh ‹_›, fun hnone => ?_⟩
    simp only [lowUnit?] at hnone
    rw [if_neg hlength, hn] at hnone
    simpa using hnone

theorem isHalf_of_shortEscape? {e d : CodePoint} (h : shortEscape? e = some d)
    (he : e.isHalf = false) : d.isHalf = false := by
  unfold shortEscape? at h
  split at h
  · cases h
    exact he
  split at h
  · cases h; rfl
  split at h
  · cases h; rfl
  split at h
  · cases h; rfl
  split at h
  · cases h; rfl
  split at h
  · cases h; rfl
  · cases h

/-- What was read of a string, in reverse, when `t` is left: it has no pairs, and a
first half at its end is not joined with what follows. -/
structure UnpairedSoFar (acc t : Text) : Prop where
  unpaired : Text.Unpaired acc.reverse
  apart : ∀ c ∈ acc.head?, isHighUnit c.toNat → lowUnit? t = none

theorem UnpairedSoFar.cons {acc t rest : Text} {d : CodePoint} (h : UnpairedSoFar acc t)
    (hjoin : lowUnit? t = none → isLowUnit d.toNat = false)
    (hnext : isHighUnit d.toNat → lowUnit? rest = none) : UnpairedSoFar (d :: acc) rest := by
  refine ⟨?_, fun c hc => ?_⟩
  · have hacc := List.isChain_reverse.mp h.unpaired
    refine List.isChain_reverse.mpr (List.isChain_cons.mpr ⟨fun c hc => ?_, hacc⟩)
    cases hhigh : isHighUnit c.toNat with
    | false => rw [CodePoint.joins, hhigh, Bool.false_and]
    | true => rw [CodePoint.joins, hjoin (h.apart c hc hhigh), Bool.and_false]
  · obtain rfl : d = c := by simpa using hc
    exact hnext

/-- A code point that is no half is joined with nothing. -/
theorem UnpairedSoFar.cons_of_not_half {acc t rest : Text} {d : CodePoint}
    (h : UnpairedSoFar acc t) (hd : d.isHalf = false) : UnpairedSoFar (d :: acc) rest := by
  rw [← Bool.not_eq_true, CodePoint.isHalf_iff] at hd
  refine h.cons (fun _ => ?_) fun hhigh => ?_
  · rw [← Bool.not_eq_true, isLowUnit_iff]
    omega
  · rw [isHighUnit_iff] at hhigh
    omega

/-- One step of the reader after another, each of which keeps `UnpairedSoFar`. -/
theorem stringBody_spec (start : Text) : ∀ {fuel : Nat} {acc t s rest : Text},
    stringBody start fuel acc t = .ok (s, rest) →
      rest <:+ t ∧ (t.isEncodable → UnpairedSoFar acc t → s.Unpaired)
  | 0, acc, t, s, rest, h => by cases h
  | fuel + 1, acc, [], s, rest, h => by cases h
  | fuel + 1, acc, c :: t, s, rest, h => by
    rw [stringBody.eq_def] at h
    simp only at h
    split at h
    · cases h
      exact ⟨List.suffix_cons c t, fun _ hacc => hacc.unpaired⟩
    split at h
    · rename_i hslash
      subst hslash
      split at h
      · cases h
      · rename_i after
        obtain ⟨⟨d, next⟩, hescape, h⟩ := exists_of_bind_eq_ok h
        obtain ⟨hnext, hhigh, hlow⟩ := unitEscape?_spec hescape
        obtain ⟨hrest, hread⟩ := stringBody_spec start h
        have hafter : next <:+ .char '\\' :: .char 'u' :: after :=
          hnext.trans ((List.suffix_cons _ _).trans (List.suffix_cons _ _))
        exact ⟨hrest.trans hafter, fun ht hacc =>
          hread (Text.isEncodable_of_subset ht hafter.subset) (hacc.cons hlow hhigh)⟩
      · rename_i e after _
        split at h
        · rename_i d hshort
          obtain ⟨hrest, hread⟩ := stringBody_spec start h
          have hafter : after <:+ .char '\\' :: e :: after :=
            (List.suffix_cons _ _).trans (List.suffix_cons _ _)
          refine ⟨hrest.trans hafter, fun ht hacc => ?_⟩
          have he : e.isHalf = false := Text.isHalf_of_isEncodable ht (by simp)
          exact hread (Text.isEncodable_of_subset ht hafter.subset)
            (hacc.cons_of_not_half (isHalf_of_shortEscape? hshort he))
        · cases h
    split at h
    · cases h
    · obtain ⟨hrest, hread⟩ := stringBody_spec start h
      refine ⟨hrest.trans (List.suffix_cons c t), fun ht hacc => ?_⟩
      have hc : c.isHalf = false := Text.isHalf_of_isEncodable ht (by simp)
      exact hread (Text.isEncodable_of_subset ht (List.subset_cons_self c t))
        (hacc.cons_of_not_half hc)

theorem suffix_readString {t s rest : Text} (h : readString t = .ok (s, rest)) : rest <:+ t :=
  (stringBody_spec t h).1.trans (List.drop_suffix 1 t)

/-- **No pair is left in a string that is read from a text with an encoding.** -/
theorem unpaired_of_readString {t s rest : Text} (ht : t.isEncodable)
    (h : readString t = .ok (s, rest)) : s.Unpaired :=
  (stringBody_spec t h).2 (Text.isEncodable_of_subset ht (List.drop_suffix 1 t).subset)
    ⟨.nil, nofun⟩

end Json

end TwinQuery
