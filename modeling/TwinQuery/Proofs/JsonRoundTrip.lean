/-
# What is written is read back

A document with a JSON notation is read back from what is written of it, in
either layout (`Json.read_write`), if its texts are read back from their
strings. The numbers are read back from their numerals, and between the parts
of lists and objects stands nothing but marks and white space
(`ReadsParts.joinWith`). The keys of an object are distinct, so no field is
read over another.

What is written has no carriage return, and in ASCII no half either, so a file
that holds it is read as it was written (`Json.isPlain_write_indented`).

Key definitions: `Json.ReadsBack`, `Json.ReadsParts`.
Key theorems: `Json.ReadsParts.joinWith`, `Json.readsBack_writeAt`,
`Json.read_write`.
-/
import Mathlib.Data.List.Forall2
import TwinQuery.Proofs.JsonReading
import TwinQuery.Proofs.Numerals

namespace TwinQuery

namespace Json

/-! ### Values -/

/-- The text is read as the document, whatever follows that does not go on with
a number. It begins like a value, and a file keeps it as it is. -/
structure ReadsBack (ascii : Bool) (depth : Nat) (t : Text) (d : Doc) : Prop where
  head : ∃ c tail, t = c :: tail ∧ isSpace c = false ∧ c ≠ ']'
  plain : ∀ c ∈ t, isPlain ascii c
  read : ∀ (fuel : Nat) (rest : Text), rest.EndsNumber → 2 * t.length ≤ fuel →
    readValue fuel depth (t ++ rest) = .ok (d, rest)

theorem readsBack_string (ascii : Bool) (depth : Nat) {t : Text} (ht : t.Unpaired) :
    ReadsBack ascii depth (string ascii t) (Doc.text t) := by
  refine ⟨⟨'"', _, string_eq ascii t, rfl, by decide⟩, isPlain_string ascii t,
    fun fuel rest _ hfuel => ?_⟩
  have hstring := readString_string ascii ht rest
  rw [string_eq] at hfuel hstring ⊢
  obtain ⟨fuel, rfl⟩ : ∃ k, fuel = k + 1 := ⟨fuel - 1, by simp at hfuel; omega⟩
  rw [List.cons_append] at hstring ⊢
  rw [readValue.eq_def]
  simp only [if_true, hstring]
  rfl

/-- What is neither a string nor a list nor an object is read as a word or as a
number. -/
theorem readsBack_scalar {ascii : Bool} {depth : Nat} {t : Text} {s : Scalar}
    (hhead : ∃ c tail, t = c :: tail ∧ isSpace c = false ∧ c ≠ ']' ∧ c ≠ '"' ∧ c ≠ '\x7b' ∧ c ≠ '[')
    (hplain : ∀ c ∈ t, isPlain ascii c)
    (hread : ∀ rest : Text, rest.EndsNumber →
      ((readWord (t ++ rest)).orElse fun _ => readNumber (t ++ rest)) = some (s, rest))
    (hint : ∀ i, s = .int i → i.natAbs < Nat.pow 10 longestInteger) :
    ReadsBack ascii depth t (.atom s) := by
  obtain ⟨c, tail, rfl, hspace, hbracket, hquote, hbrace, hopen⟩ := hhead
  refine ⟨⟨c, tail, rfl, hspace, hbracket⟩, hplain, fun fuel rest hrest hfuel => ?_⟩
  obtain ⟨fuel, rfl⟩ : ∃ k, fuel = k + 1 := ⟨fuel - 1, by simp at hfuel; omega⟩
  have hscalar := hread rest hrest
  rw [List.cons_append] at hscalar ⊢
  rw [readValue.eq_def]
  simp only [hquote, hbrace, hopen, if_false, hscalar]
  split
  · rename_i heq
    cases heq
    rw [if_pos (hint _ rfl)]
  · rename_i heq
    cases heq
    rfl
  · rename_i heq
    cases heq

/-- A numeral begins with a digit, or with a minus sign and a digit. -/
theorem IsNumeral.head {t : Text} {number : Scalar} (h : IsNumeral t number) :
    ∃ c tail, c.isDigit ∧ (t = c :: tail ∨ t = .char '-' :: c :: tail) := by
  obtain ⟨n, hn, rfl, -⟩ := h
  obtain ⟨c, digits, hwhole⟩ := List.exists_cons_of_ne_nil hn.whole.1
  refine ⟨c, digits ++ (n.fractionText ++ n.exponentText), hn.whole.2 c (by simp [hwhole]), ?_⟩
  cases hnegative : n.negative <;> simp [Numeral.text, hnegative, hwhole]

theorem ne_of_isDigit {c other : CodePoint} (hc : c.isDigit) (hother : other.isDigit = false) :
    c ≠ other := by
  rintro rfl
  simp [hc] at hother

/-- No numeral begins with a word. -/
theorem IsNumeral.readWord {t : Text} {number : Scalar} (h : IsNumeral t number) (rest : Text) :
    readWord (t ++ rest) = none := by
  obtain ⟨c, tail, hdigit, ht⟩ := h.head
  have hletters : 'n' ≠ c ∧ 't' ≠ c ∧ 'f' ≠ c ∧ 'N' ≠ c ∧ 'I' ≠ c ∧ '-' ≠ c := by
    refine ⟨?_, ?_, ?_, ?_, ?_, ?_⟩ <;> exact (ne_of_isDigit hdigit (by decide)).symm
  rcases ht with rfl | rfl <;>
    simp [Json.readWord, wordValues, Text.ofString, Text.dropStart?, hletters]

theorem isPlain_of_isDigit (ascii : Bool) {c : CodePoint} (h : c.isDigit) : isPlain ascii c :=
  isPlain_of_toNat (ne_of_isDigit h (by decide)) (by have := CodePoint.toNat_of_isDigit h; omega)
    ascii

theorem IsNumeral.isPlain {t : Text} {number : Scalar} (h : IsNumeral t number) (ascii : Bool) :
    ∀ c ∈ t, isPlain ascii c := by
  obtain ⟨⟨negative, whole, fraction, exponent⟩, hn, rfl, -⟩ := h
  have hdigits : ∀ {digits : Text}, digits.IsDigits → ∀ c ∈ digits, Json.isPlain ascii c :=
    fun hdigits c hc => isPlain_of_isDigit ascii (hdigits.2 c hc)
  have hsign : ∀ {c : Char}, c ≠ '\r' → Json.isPlain ascii (.char c) := isPlain_char ascii
  simp only [Numeral.text, List.forall_mem_append]
  refine ⟨⟨⟨?_, hdigits hn.whole⟩, ?_⟩, ?_⟩
  · cases negative
    · simp
    · simpa using hsign (by decide)
  · cases fraction with
    | none => simp [Numeral.fractionText]
    | some digits =>
      exact List.forall_mem_cons.mpr ⟨hsign (by decide), hdigits (hn.fraction digits rfl)⟩
  · cases exponent with
    | none => simp [Numeral.exponentText]
    | some part =>
      obtain ⟨sign, digits⟩ := part
      have hpart := hdigits (hn.exponent sign digits rfl)
      refine List.forall_mem_cons.mpr ⟨hsign (by decide), List.forall_mem_cons.mpr ⟨?_, hpart⟩⟩
      cases sign <;> exact hsign (by decide)

theorem readsBack_numeral {ascii : Bool} {depth : Nat} {t : Text} {number : Scalar}
    (h : IsNumeral t number)
    (hint : ∀ i, number = .int i → i.natAbs < Nat.pow 10 longestInteger) :
    ReadsBack ascii depth t (.atom number) := by
  obtain ⟨c, tail, hdigit, ht⟩ := h.head
  refine readsBack_scalar ?_ (h.isPlain ascii) (fun rest hrest => ?_) hint
  · rcases ht with rfl | rfl
    · refine ⟨c, tail, rfl, ?_, ?_, ?_, ?_, ?_⟩
      · simp only [isSpace, Bool.or_eq_false_iff, beq_eq_false_iff_ne]
        refine ⟨⟨⟨?_, ?_⟩, ?_⟩, ?_⟩ <;> exact ne_of_isDigit hdigit (by decide)
      all_goals exact ne_of_isDigit hdigit (by decide)
    · exact ⟨'-', c :: tail, rfl, by decide⟩
  · rw [h.readWord, h.readNumber hrest]
    rfl

theorem readsBack_word (ascii : Bool) (depth : Nat) (word : Text) {value : Scalar}
    (h : (word, value) ∈ wordValues) : ReadsBack ascii depth word (.atom value) := by
  have hplain : ∀ c ∈ word, isPlain ascii c := by
    simp only [wordValues, List.mem_cons, Prod.mk.injEq, List.not_mem_nil, or_false] at h
    rcases h with ⟨rfl, -⟩ | ⟨rfl, -⟩ | ⟨rfl, -⟩ | ⟨rfl, -⟩ | ⟨rfl, -⟩ | ⟨rfl, -⟩ <;>
      cases ascii <;> decide
  simp only [wordValues, List.mem_cons, Prod.mk.injEq, List.not_mem_nil, or_false] at h
  rcases h with ⟨rfl, rfl⟩ | ⟨rfl, rfl⟩ | ⟨rfl, rfl⟩ | ⟨rfl, rfl⟩ | ⟨rfl, rfl⟩ | ⟨rfl, rfl⟩ <;>
    exact readsBack_scalar ⟨_, _, rfl, by decide⟩ hplain (fun rest _ => rfl) (by simp)

theorem readsBack_float (ascii : Bool) (depth : Nat) (x : Binary64) :
    ReadsBack ascii depth (x.displayWith "NaN" "Infinity") (.atom (.float x)) := by
  cases x with
  | nan => exact readsBack_word ascii depth "NaN" (by simp [wordValues])
  | number negative rank =>
    by_cases hrank : rank.val < infinityRank
    · exact readsBack_numeral (isNumeral_displayWith negative hrank _ _) (by simp)
    · have hinfinity : Binary64.number negative rank = Binary64.infinity negative :=
        congrArg _ (Fin.ext (by show rank.val = infinityRank; omega))
      rw [hinfinity]
      cases negative
      · exact readsBack_word ascii depth "Infinity" (by simp [wordValues])
      · exact readsBack_word ascii depth "-Infinity" (by simp [wordValues])

/-! ### Lists and objects -/

theorem skipSpace_append {gap : Text} (hgap : ∀ c ∈ gap, isSpace c) (t : Text) :
    skipSpace (gap ++ t) = skipSpace t :=
  List.dropWhile_append_of_pos hgap

theorem skipSpace_cons {c : CodePoint} (hc : isSpace c = false) (t : Text) :
    skipSpace (c :: t) = c :: t := by
  simp [skipSpace, hc]

theorem endsNumber_cons {mark : CodePoint} (hmark : mark = ',' ∨ mark = ']' ∨ mark = '\x7d')
    (rest : Text) : Text.EndsNumber (mark :: rest) := by
  intro c hc
  obtain rfl : mark = c := by simpa using hc
  rcases hmark with rfl | rfl | rfl <;> decide

/-- White space and the marks between values do not go on with a number. -/
theorem endsNumber_append {gap t : Text} (hgap : ∀ c ∈ gap, isSpace c) (ht : t.EndsNumber) :
    Text.EndsNumber (gap ++ t) := by
  cases gap with
  | nil => exact ht
  | cons g gap =>
    intro c hc
    obtain rfl : g = c := by simpa using hc
    have hspace := hgap g (by simp)
    simp only [isSpace, Bool.or_eq_true, beq_iff_eq] at hspace
    rcases hspace with ((rfl | rfl) | rfl) | rfl <;> decide

/-- How a reader goes through the parts before a closing mark: the last part ends
it, and after any other one it goes on. `reads` says which texts stand for a
part, `add` puts a part to those already read, and `finish` gives the result. -/
structure ReadsParts {α β γ : Type} (ascii : Bool) (closing : CodePoint)
    (reads : Text → β → Prop) (add : α → β → α) (finish : α → γ)
    (reader : Nat → α → Text → Except Mistake (γ × Text)) : Prop where
  mark : closing = ']' ∨ closing = '\x7d'
  head : ∀ {t part}, reads t part → ∃ c tail, t = c :: tail ∧ isSpace c = false ∧ c ≠ closing
  plain : ∀ {t part}, reads t part → ∀ c ∈ t, isPlain ascii c
  last : ∀ {t part after rest fuel}, reads t part → 2 * t.length ≤ fuel → Text.EndsNumber after →
    skipSpace after = closing :: rest →
      ∀ acc, reader (fuel + 1) acc (t ++ after) = .ok (finish (add acc part), rest)
  more : ∀ {t part after rest fuel}, reads t part → 2 * t.length ≤ fuel → Text.EndsNumber after →
    skipSpace after = .char ',' :: rest →
      ∀ acc, reader (fuel + 1) acc (t ++ after) = reader fuel (add acc part) (skipSpace rest)

theorem readsParts_items (ascii : Bool) (depth : Nat) :
    ReadsParts ascii ']' (ReadsBack ascii depth) (fun acc item => item :: acc) List.reverse
      fun fuel => readItems fuel depth where
  mark := Or.inl rfl
  head := fun hitem => hitem.head
  plain := fun hitem => hitem.plain
  last := by
    intro t item after rest fuel hitem hfuel hends hafter acc
    rw [readItems, hitem.read fuel after hends hfuel]
    simp [bind, Except.bind, hafter]
  more := by
    intro t item after rest fuel hitem hfuel hends hafter acc
    rw [readItems, hitem.read fuel after hends hfuel]
    simp [bind, Except.bind, hafter]

/-- The text is read as a field of an object. -/
def ReadsBackField (ascii : Bool) (depth : Nat) (t : Text) (field : Scalar × Doc) : Prop :=
  ∃ name value : Text, field.1 = .text name ∧ name.Unpaired ∧
    t = string ascii name ++ ": " ++ value ∧ ReadsBack ascii depth value field.2

section Fields

variable {ascii : Bool} {fuel depth : Nat} {t after : Text} {field : Scalar × Doc}
  (h : ReadsBackField ascii depth t field) (acc : List (Scalar × Doc)) (hfuel : 2 * t.length ≤ fuel)
  (hends : after.EndsNumber)

include h

theorem ReadsBackField.head : ∃ tail, t = .char '"' :: tail := by
  obtain ⟨name, value, -, -, rfl, -⟩ := h
  exact ⟨_, rfl⟩

theorem ReadsBackField.plain : ∀ c ∈ t, isPlain ascii c := by
  obtain ⟨name, value, -, -, rfl, hvalue⟩ := h
  simp only [List.forall_mem_append]
  refine ⟨⟨isPlain_string ascii name, ?_⟩, hvalue.plain⟩
  cases ascii <;> decide

include hfuel hends

/-- A field is read up to the mark after it. -/
theorem readFields_field :
    (∀ rest, skipSpace after = .char '\x7d' :: rest →
      readFields (fuel + 1) depth acc (t ++ after) =
        .ok (Fields.put field.1 field.2 acc, rest)) ∧
    ∀ rest, skipSpace after = .char ',' :: rest →
      readFields (fuel + 1) depth acc (t ++ after) =
        readFields fuel depth (Fields.put field.1 field.2 acc) (skipSpace rest) := by
  obtain ⟨name, value, hname, hunpaired, rfl, hvalue⟩ := h
  have hstring := readString_string ascii hunpaired (": " ++ value ++ after)
  have hread := hvalue.read fuel after hends (by simp at hfuel; omega)
  obtain ⟨c, tail, rfl, hspace, -⟩ := hvalue.head
  obtain ⟨inner, hinner⟩ : ∃ inner,
      string ascii name ++ (Text.ofString ": " ++ c :: tail ++ after) = .char '"' :: inner :=
    ⟨_, rfl⟩
  rw [List.append_assoc, List.append_assoc, ← List.append_assoc (Text.ofString _), hinner,
    readFields.eq_def]
  rw [hinner] at hstring
  have hcolon : skipSpace (": " ++ c :: tail ++ after) =
      .char ':' :: .char ' ' :: (c :: tail ++ after) := rfl
  have hblank : skipSpace (.char ' ' :: (c :: tail ++ after)) = c :: tail ++ after :=
    skipSpace_cons hspace _
  constructor <;> intro rest hafter <;>
    simp only [hstring, hname, bind, Except.bind, hcolon, hblank, hread, hafter]

end Fields

theorem readsParts_fields (ascii : Bool) (depth : Nat) :
    ReadsParts ascii '\x7d' (ReadsBackField ascii depth)
      (fun acc field => Fields.put field.1 field.2 acc) id
      fun fuel => readFields fuel depth where
  mark := Or.inr rfl
  head := by
    intro t field hfield
    obtain ⟨tail, htail⟩ := hfield.head
    exact ⟨'"', tail, htail, by decide⟩
  plain := fun hfield => hfield.plain
  last := fun hfield hfuel hends hafter acc => (readFields_field hfield acc hfuel hends).1 _ hafter
  more := fun hfield hfuel hends hafter acc => (readFields_field hfield acc hfuel hends).2 _ hafter

/-- What is joined begins like the first part. -/
theorem exists_joinWith_cons (c : CodePoint) (t separator : Text) (texts : List Text) :
    ∃ tail, Text.joinWith separator ((c :: t) :: texts) = c :: tail := by
  cases texts with
  | nil => exact ⟨t, rfl⟩
  | cons u texts => exact ⟨_, rfl⟩

/-- The white space before an item at the given depth. -/
def breakAt (layout : Layout) (depth : Nat) : Text := if layout.indent then newline depth else []

/-- The white space after a comma at the given depth. -/
def gapAt (layout : Layout) (depth : Nat) : Text := if layout.indent then newline depth else [' ']

theorem isSpace_newline (depth : Nat) : ∀ c ∈ newline depth, isSpace c := by
  intro c hc
  rcases List.mem_cons.mp hc with rfl | hc
  · rfl
  · rw [List.eq_of_mem_replicate hc]
    rfl

theorem isSpace_breakAt (layout : Layout) (depth : Nat) : ∀ c ∈ breakAt layout depth, isSpace c := by
  unfold breakAt
  split
  · exact isSpace_newline depth
  · simp

theorem isSpace_gapAt (layout : Layout) (depth : Nat) : ∀ c ∈ gapAt layout depth, isSpace c := by
  unfold gapAt
  split
  · exact isSpace_newline depth
  · simp [isSpace]

theorem separator_eq (layout : Layout) (depth : Nat) :
    separator layout depth = .char ',' :: gapAt layout depth := by
  unfold separator gapAt
  split <;> rfl

theorem enclose_eq (layout : Layout) (depth : Nat) (opening closing : CodePoint) {texts : List Text}
    (h : texts ≠ []) :
    enclose layout depth [opening] [closing] texts =
      opening :: (breakAt layout (depth + 1) ++
        (Text.joinWith (',' :: gapAt layout (depth + 1)) texts ++
          (breakAt layout depth ++ [closing]))) := by
  cases texts with
  | nil => exact absurd rfl h
  | cons t texts =>
    simp only [enclose, separator_eq, breakAt]
    split <;> simp

theorem enclose_head (layout : Layout) (level : Nat) (opening closing : CodePoint)
    (texts : List Text) :
    ∃ tail, enclose layout level [opening] [closing] texts = opening :: tail := by
  by_cases h : texts = []
  · rw [h]
    exact ⟨[closing], rfl⟩
  · exact ⟨_, enclose_eq layout level opening closing h⟩

theorem isPlain_of_isSpace {t : Text} (hspace : ∀ c ∈ t, isSpace c) (hreturn : .char '\r' ∉ t)
    (ascii : Bool) : ∀ c ∈ t, isPlain ascii c := by
  intro c hc
  have hc' := hspace c hc
  simp only [isSpace, Bool.or_eq_true, beq_iff_eq] at hc'
  rcases hc' with ((rfl | rfl) | rfl) | rfl
  · exact isPlain_char ascii (by decide)
  · exact isPlain_char ascii (by decide)
  · exact isPlain_char ascii (by decide)
  · exact absurd hc hreturn

theorem isPlain_enclose {ascii : Bool} (layout : Layout) (level : Nat) {opening closing : CodePoint}
    (hopening : isPlain ascii opening) (hclosing : isPlain ascii closing) {texts : List Text}
    (h : ∀ t ∈ texts, ∀ c ∈ t, isPlain ascii c) :
    ∀ c ∈ enclose layout level [opening] [closing] texts, isPlain ascii c := by
  by_cases htexts : texts = []
  · simpa [htexts, enclose] using And.intro hopening hclosing
  · have hbreak : ∀ k, ∀ c ∈ breakAt layout k, isPlain ascii c := by
      refine fun k => isPlain_of_isSpace (isSpace_breakAt layout k) ?_ ascii
      unfold breakAt
      split <;> simp [newline]
    have hgap : ∀ k, ∀ c ∈ gapAt layout k, isPlain ascii c := by
      refine fun k => isPlain_of_isSpace (isSpace_gapAt layout k) ?_ ascii
      unfold gapAt
      split <;> simp [newline]
    have hjoin : ∀ c ∈ Text.joinWith (.char ',' :: gapAt layout (level + 1)) texts,
        isPlain ascii c := by
      intro c hc
      rcases List.mem_append.mp (Text.joinWith_subset _ _ hc) with hc | hc
      · rcases List.mem_cons.mp hc with rfl | hc
        · exact isPlain_char ascii (by decide)
        · exact hgap _ c hc
      · obtain ⟨t, ht, hc⟩ := List.mem_flatten.mp hc
        exact h t ht c hc
    rw [enclose_eq layout level opening closing htexts]
    rw [List.forall_mem_cons, List.forall_mem_append, List.forall_mem_append,
      List.forall_mem_append, List.forall_mem_singleton]
    exact ⟨hopening, hbreak _, hjoin, hbreak _, hclosing⟩

section Parts

variable {α β γ : Type} {ascii : Bool} {closing : CodePoint} {reads : Text → β → Prop}
  {add : α → β → α} {finish : α → γ} {reader : Nat → α → Text → Except Mistake (γ × Text)}
  (h : ReadsParts ascii closing reads add finish reader)

include h

/-- The parts are read one after the other. -/
theorem ReadsParts.joinWith {gap close : Text} (hgap : ∀ c ∈ gap, isSpace c)
    (hclose : ∀ c ∈ close, isSpace c) (rest : Text) {texts : List Text} {parts : List β}
    (hparts : List.Forall₂ reads texts parts) : texts ≠ [] → ∀ (acc : α) (fuel : Nat),
    2 * (Text.joinWith (',' :: gap) texts).length < fuel →
      reader fuel acc (Text.joinWith (',' :: gap) texts ++ (close ++ closing :: rest)) =
        .ok (finish (parts.foldl add acc), rest) := by
  have hmark : isSpace closing = false ∧ Text.EndsNumber (closing :: rest) := by
    rcases h.mark with rfl | rfl <;> exact ⟨by decide, endsNumber_cons (by decide) rest⟩
  induction hparts with
  | nil => exact fun hne => absurd rfl hne
  | @cons t part texts parts hpart hparts ih =>
    intro _ acc fuel hfuel
    obtain ⟨fuel, rfl⟩ : ∃ k, fuel = k + 1 := ⟨fuel - 1, by omega⟩
    cases hparts with
    | nil =>
      rw [Text.joinWith] at hfuel ⊢
      have hend : skipSpace (close ++ closing :: rest) = closing :: rest := by
        rw [skipSpace_append hclose, skipSpace_cons hmark.1]
      exact h.last hpart (by omega) (endsNumber_append hclose hmark.2) hend acc
    | @cons u other texts parts hother hparts =>
      rw [Text.joinWith, List.length_append, List.length_append, List.length_cons] at hfuel
      have ih := ih (by simp) (add acc part) fuel (by omega)
      have hlength : 2 * t.length ≤ fuel := by omega
      obtain ⟨c, v, rfl, hspace, -⟩ := h.head hother
      obtain ⟨tail, htail⟩ := exists_joinWith_cons c v (',' :: gap) texts
      rw [htail, List.cons_append] at ih
      have hcomma : isSpace (.char ',') = false := by decide
      have hread := h.more hpart hlength (endsNumber_cons (Or.inl rfl) _)
        (skipSpace_cons hcomma (gap ++ c :: (tail ++ (close ++ closing :: rest)))) acc
      rw [Text.joinWith, htail, List.append_assoc, List.append_assoc, List.cons_append,
        List.cons_append, hread, skipSpace_append hgap, skipSpace_cons hspace, ih]
      rfl

/-- The parts between two marks are read from the opening mark on. -/
theorem ReadsParts.enclose (layout : Layout) (level : Nat) (opening : CodePoint) {texts : List Text}
    {parts : List β} (hparts : List.Forall₂ reads texts parts) (hne : texts ≠ []) {fuel : Nat}
    (hfuel : 2 * (enclose layout level [opening] [closing] texts).length ≤ fuel + 1) (acc : α)
    (rest : Text) :
    ∃ inner c more, enclose layout level [opening] [closing] texts ++ rest = opening :: inner ∧
      skipSpace inner = c :: more ∧ c ≠ closing ∧
      reader fuel acc (c :: more) = .ok (finish (parts.foldl add acc), rest) := by
  rw [enclose_eq layout level opening closing hne] at hfuel ⊢
  simp only [List.length_cons, List.length_append] at hfuel
  have hread := h.joinWith (isSpace_gapAt layout (level + 1)) (isSpace_breakAt layout level) rest
    hparts hne acc fuel (by omega)
  cases hparts with
  | nil => exact absurd rfl hne
  | cons hpart hparts =>
    obtain ⟨c, v, rfl, hspace, hc⟩ := h.head hpart
    obtain ⟨tail, htail⟩ := exists_joinWith_cons c v (',' :: gapAt layout (level + 1)) _
    rw [htail, List.cons_append] at hread
    rw [htail]
    refine ⟨_, c, _, List.cons_append, ?_, hc, hread⟩
    rw [List.append_assoc, List.append_assoc, skipSpace_append (isSpace_breakAt layout (level + 1)),
      List.cons_append, skipSpace_cons hspace, List.append_assoc, List.singleton_append]

theorem ReadsParts.isPlain_enclose (layout : Layout) (level : Nat) {opening : CodePoint}
    (hopening : isPlain ascii opening) {texts : List Text} {parts : List β}
    (hparts : List.Forall₂ reads texts parts) :
    ∀ c ∈ Json.enclose layout level [opening] [closing] texts, isPlain ascii c := by
  refine Json.isPlain_enclose layout level hopening ?_ ?_
  · rcases h.mark with rfl | rfl <;> exact isPlain_char ascii (by decide)
  · exact ((List.forall₂_and_left _ _).mp (hparts.imp fun _ _ hpart => ⟨h.plain hpart, hpart⟩)).1

end Parts

section Enclosed

variable {fuel depth : Nat} {inner more rest : Text} {c : CodePoint}
  (hinner : skipSpace inner = c :: more)

include hinner

theorem readValue_list {items : List Doc} (hc : c ≠ ']')
    (hitems : readItems fuel depth [] (c :: more) = .ok (items, rest)) :
    readValue (fuel + 1) (depth + 1) ('[' :: inner) = .ok (.list items, rest) := by
  rw [readValue.eq_def]
  simp [hinner, hc, hitems, bind, Except.bind]

theorem readValue_object {fields : List (Scalar × Doc)} (hc : c ≠ '\x7d')
    (hfields : readFields fuel depth [] (c :: more) = .ok (fields, rest)) :
    readValue (fuel + 1) (depth + 1) ('\x7b' :: inner) = .ok (.object fields, rest) := by
  rw [readValue.eq_def]
  simp [hinner, hc, hfields, bind, Except.bind]

end Enclosed

/-- Items between brackets are read as a list. -/
theorem readsBack_list (layout : Layout) {depth : Nat} (level : Nat) {texts : List Text}
    {items : List Doc} (h : List.Forall₂ (ReadsBack layout.ascii depth) texts items) :
    ReadsBack layout.ascii (depth + 1) (enclose layout level ['['] [']'] texts) (.list items) := by
  obtain ⟨tail, htail⟩ := enclose_head layout level '[' ']' texts
  refine ⟨⟨'[', tail, htail, by decide⟩,
    (readsParts_items layout.ascii depth).isPlain_enclose layout level
      (isPlain_char _ (by decide)) h,
    fun fuel rest _ hfuel => ?_⟩
  obtain ⟨fuel, rfl⟩ : ∃ k, fuel = k + 1 := ⟨fuel - 1, by simp [htail] at hfuel; omega⟩
  by_cases hne : texts = []
  · subst hne
    cases h
    rw [readValue.eq_def]
    simp [enclose, skipSpace, isSpace]
  · obtain ⟨inner, c, more, henclose, hinner, hc, hread⟩ :=
      (readsParts_items layout.ascii depth).enclose layout level '[' h hne hfuel [] rest
    have hitems : (items.foldl (fun acc item => item :: acc) []).reverse = items := by simp
    rw [henclose, readValue_list hinner hc hread, hitems]

/-- Fields between braces are read as an object, no field over another. -/
theorem readsBack_object (layout : Layout) {depth : Nat} (level : Nat) {texts : List Text}
    {fields : List (Scalar × Doc)} (distinct : Fields.Distinct fields)
    (h : List.Forall₂ (ReadsBackField layout.ascii depth) texts fields) :
    ReadsBack layout.ascii (depth + 1) (enclose layout level ['\x7b'] ['\x7d'] texts)
      (.object fields) := by
  obtain ⟨tail, htail⟩ := enclose_head layout level '\x7b' '\x7d' texts
  refine ⟨⟨'\x7b', tail, htail, by decide⟩,
    (readsParts_fields layout.ascii depth).isPlain_enclose layout level
      (isPlain_char _ (by decide)) h,
    fun fuel rest _ hfuel => ?_⟩
  obtain ⟨fuel, rfl⟩ : ∃ k, fuel = k + 1 := ⟨fuel - 1, by simp [htail] at hfuel; omega⟩
  by_cases hne : texts = []
  · subst hne
    cases h
    rw [readValue.eq_def]
    simp [enclose, skipSpace, isSpace]
  · obtain ⟨inner, c, more, henclose, hinner, hc, hread⟩ :=
      (readsParts_fields layout.ascii depth).enclose layout level '\x7b' h hne hfuel [] rest
    have hfields : fields.foldl (fun acc field => Fields.put field.1 field.2 acc) [] = fields :=
      Fields.putAll_of_distinct distinct
    rw [henclose, readValue_object hinner hc hread, hfields]
    rfl

theorem writeItems_eq_map (layout : Layout) (depth : Nat) : ∀ items : List Doc,
    writeItems layout depth items = items.map (writeAt layout depth)
  | [] => rfl
  | item :: items => by rw [writeItems, writeItems_eq_map layout depth items, List.map_cons]

theorem writeFields_eq_map (layout : Layout) (depth : Nat) : ∀ fields : List (Scalar × Doc),
    writeFields layout depth fields =
      fields.map fun field => key layout.ascii field.1 ++ ": " ++ writeAt layout depth field.2
  | [] => rfl
  | (k, value) :: fields => by rw [writeFields, writeFields_eq_map layout depth fields, List.map_cons]

/-- **What is written of a document is read as that document.** -/
theorem readsBack_writeAt (layout : Layout) {depth : Nat} {d : Doc}
    (h : d.IsJson Text.Unpaired depth) :
    ∀ level : Nat, ReadsBack layout.ascii depth (writeAt layout level d) d := by
  induction h with
  | null => exact fun _ => readsBack_word _ _ "null" (by simp [wordValues])
  | bool b =>
    intro level
    cases b
    · exact readsBack_word _ _ "false" (by simp [wordValues])
    · exact readsBack_word _ _ "true" (by simp [wordValues])
  | @int _ i hint =>
    intro level
    refine readsBack_numeral (isNumeral_ofInt i) ?_
    rintro _ ⟨⟩
    exact hint
  | float x => exact fun _ => readsBack_float _ _ x
  | text ht => exact fun _ => readsBack_string layout.ascii _ ht
  | @list depth items _ ih =>
    intro level
    have hparts : List.Forall₂ (ReadsBack layout.ascii depth) (writeItems layout (level + 1) items)
        items := by
      rw [writeItems_eq_map, List.forall₂_map_left_iff, List.forall₂_same]
      exact fun item hitem => ih item hitem (level + 1)
    exact readsBack_list layout level hparts
  | @object depth fields keys distinct _ ih =>
    intro level
    have hparts : List.Forall₂ (ReadsBackField layout.ascii depth)
        (writeFields layout (level + 1) fields) fields := by
      rw [writeFields_eq_map, List.forall₂_map_left_iff, List.forall₂_same]
      intro field hfield
      obtain ⟨name, hname, hunpaired⟩ := keys field hfield
      exact ⟨name, _, hname, hunpaired, by rw [hname]; rfl, ih field hfield (level + 1)⟩
    exact readsBack_object layout level distinct hparts

/-- **A document is read back from what is written of it**, in either layout. -/
theorem read_write (layout : Layout) {d : Doc} (h : d.IsJson Text.Unpaired deepestLevel) :
    read (write layout d) = .ok d := by
  have hwrite := readsBack_writeAt layout h 0
  obtain ⟨c, tail, heq, hspace, -⟩ := hwrite.head
  have hread := hwrite.read (2 * (writeAt layout 0 d).length + 2) [] (by simp [Text.EndsNumber])
    (by omega)
  rw [List.append_nil] at hread
  have hskip : skipSpace (writeAt layout 0 d) = writeAt layout 0 d := by
    rw [heq, skipSpace_cons hspace]
  unfold read write
  rw [hskip, hread]
  rfl

/-- A file keeps what is written in ASCII. -/
theorem isPlain_write_indented {d : Doc} (h : d.IsJson Text.Unpaired deepestLevel) :
    (write indented d).isEncodable ∧ .char '\r' ∉ write indented d := by
  have hplain : ∀ c ∈ write indented d, isPlain true c := (readsBack_writeAt indented h 0).plain
  have hboth : ∀ c ∈ write indented d, c ≠ '\r' ∧ c.isHalf = false := by
    intro c hc
    simpa [isPlain] using hplain c hc
  exact ⟨List.all_eq_true.mpr fun c hc => by simp [(hboth c hc).2],
    fun hreturn => (hboth _ hreturn).1 rfl⟩

end Json

end TwinQuery
