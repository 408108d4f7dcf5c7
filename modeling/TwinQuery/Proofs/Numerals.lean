/-
# Numbers that are written and read

A number of JSON is written in four parts: a sign, the digits before the point,
those after it, and an exponent. The reader takes a numeral apart again
(`Numeral.readNumber_text`). Integers and finite floating-point numbers are
written as numerals, and their values are those of the numerals
(`isNumeral_ofInt`, `isNumeral_displayWith`), so they are read back.

Key definitions: `Json.Numeral`, `Json.IsNumeral`, `Text.EndsNumber`.
Key theorems: `Json.Numeral.readNumber_text`, `Json.isNumeral_ofInt`,
`Json.isNumeral_displayWith`.
-/
import TwinQuery.Json.Reader
import TwinQuery.Json.Writer
import TwinQuery.Proofs.Rounding

namespace TwinQuery

/-- The text does not go on with a number: it is empty or begins with no digit,
point or exponent. -/
def Text.EndsNumber (t : Text) : Prop :=
  ∀ c ∈ t.head?, c.isDigit = false ∧ c ≠ '.' ∧ c ≠ 'e' ∧ c ≠ 'E'

/-- The text consists of digits, of one at least. -/
def Text.IsDigits (t : Text) : Prop := t ≠ [] ∧ ∀ c ∈ t, c.isDigit

namespace Json

/-! ### Digits -/

theorem foldl_digits (digits : Text) (n : Nat) :
    digits.foldl (fun n c => n * 10 + (c.toNat - 48)) n =
      n * 10 ^ digits.length + digitsValue digits := by
  induction digits generalizing n with
  | nil => simp [digitsValue]
  | cons c digits ih =>
    have hvalue : digitsValue (c :: digits) =
        (0 * 10 + (c.toNat - 48)) * 10 ^ digits.length + digitsValue digits := ih _
    rw [List.foldl_cons, ih, hvalue, List.length_cons, Nat.pow_succ, Nat.add_mul]
    simp only [Nat.zero_mul, Nat.zero_add]
    rw [Nat.mul_assoc, Nat.mul_comm 10, Nat.add_assoc]

theorem digitsValue_append (a b : Text) :
    digitsValue (a ++ b) = digitsValue a * 10 ^ b.length + digitsValue b := by
  rw [digitsValue, List.foldl_append, foldl_digits]
  rfl

theorem digitsValue_replicate_append (k : Nat) (t : Text) :
    digitsValue (List.replicate k (.char '0') ++ t) = digitsValue t := by
  induction k with
  | zero => rfl
  | succ k ih => exact ih

theorem digitsValue_replicate (k : Nat) : digitsValue (List.replicate k (.char '0')) = 0 := by
  have hzeros := digitsValue_replicate_append k []
  rwa [List.append_nil] at hzeros

theorem digitsValue_ofNat (n : Nat) : digitsValue (Text.ofNat n) = n := by
  have hvalue : digitsValue (Text.ofNat n) = Nat.ofDigitChars 10 (Nat.toDigits 10 n) 0 := by
    rw [Nat.ofDigitChars_eq_foldl, digitsValue, Text.ofNat, List.foldl_map]
    congr 1
    funext n c
    rw [Nat.mul_comm]
    rfl
  rw [hvalue]
  exact Nat.ofDigitChars_ten_toDigits

theorem isDigits_ofNat (n : Nat) : (Text.ofNat n).IsDigits :=
  ⟨Text.ofNat_ne_nil n, fun _ => Text.isDigit_of_mem_ofNat⟩

theorem isDigit_replicate {k : Nat} {c : CodePoint} (h : c ∈ List.replicate k (.char '0')) :
    c.isDigit := by
  rw [List.eq_of_mem_replicate h]
  rfl

/-- Zeros before digits are digits. -/
theorem isDigits_replicate_append {t : Text} (h : t.IsDigits) (k : Nat) :
    Text.IsDigits (List.replicate k (.char '0') ++ t) :=
  ⟨by simp [h.1], fun c hc => (List.mem_append.mp hc).elim isDigit_replicate (h.2 c)⟩

/-- A positive number does not begin with a zero. -/
theorem head?_ofNat {n : Nat} (hn : 0 < n) : (Text.ofNat n).head? ≠ some (.char '0') := by
  have hhead : (Nat.toDigits 10 n).head? ≠ some '0' := by
    induction n using Nat.strongRecOn with
    | ind n ih =>
      by_cases hlt : n < 10
      · rw [Nat.toDigits_of_lt_base hlt]
        simpa [Nat.digitChar_eq_zero] using Nat.ne_of_gt hn
      · have hdiv : 0 < n / 10 := by omega
        have hhead := ih (n / 10) (by omega) hdiv
        rw [Nat.toDigits_of_base_le (by decide) (by omega), List.head?_append]
        have hne := Nat.toDigits_ne_nil (n := n / 10) (b := 10)
        cases hdigits : Nat.toDigits 10 (n / 10) with
        | nil => exact absurd hdigits hne
        | cons c rest => rw [hdigits] at hhead; exact hhead
  simpa [Text.ofNat, List.head?_map] using hhead

theorem digitRun_append {digits rest : Text} (hdigits : ∀ c ∈ digits, c.isDigit)
    (hrest : ∀ c ∈ rest.head?, c.isDigit = false) : digitRun (digits ++ rest) = (digits, rest) := by
  have htake : rest.takeWhile CodePoint.isDigit = [] := by
    cases rest with
    | nil => rfl
    | cons c rest => simp [hrest c (by simp)]
  have hdrop : rest.dropWhile CodePoint.isDigit = rest := by
    cases rest with
    | nil => rfl
    | cons c rest => simp [hrest c (by simp)]
  rw [digitRun, List.takeWhile_append_of_pos hdigits, List.dropWhile_append_of_pos hdigits, htake,
    hdrop, List.append_nil]

/-! ### Numerals -/

/-- A number as it is written: whether it is negative, the digits before the
point, those after it, and whether the exponent is negative, with its digits. -/
structure Numeral where
  negative : Bool
  whole : Text
  fraction : Option Text := none
  exponent : Option (Bool × Text) := none

namespace Numeral

/-- The point and the digits after it. -/
def fractionText (n : Numeral) : Text := (n.fraction.map (.char '.' :: ·)).getD []

/-- The exponent with its sign. -/
def exponentText (n : Numeral) : Text :=
  (n.exponent.map fun (negative, digits) =>
    'e' :: (if negative then '-' else '+') :: digits).getD []

/-- The text of a number. -/
def text (n : Numeral) : Text :=
  (if n.negative then [.char '-'] else []) ++ n.whole ++ n.fractionText ++ n.exponentText

/-- A numeral whose parts are digits, with no zero before others. -/
structure IsProper (n : Numeral) : Prop where
  whole : n.whole.IsDigits
  whole_head : n.whole.head? = some (.char '0') → n.whole = [.char '0']
  fraction : ∀ digits, n.fraction = some digits → digits.IsDigits
  exponent : ∀ negative digits, n.exponent = some (negative, digits) → digits.IsDigits

/-- The exponent of ten that an exponent states. -/
def exponentValue (part : Bool × Text) : Int :=
  if part.1 then -(digitsValue part.2 : Int) else digitsValue part.2

/-- The value of a numeral. -/
def value (n : Numeral) : Scalar :=
  numberOf n.negative n.whole n.fraction (n.exponent.map exponentValue)

/-! ### Reading numerals -/

theorem fractionPart_text {n : Numeral} (h : n.IsProper) {rest : Text}
    (hrest : ∀ c ∈ rest.head?, c.isDigit = false ∧ c ≠ '.') :
    fractionPart (n.fractionText ++ rest) = n.fraction.map (·, rest) := by
  cases hfraction : n.fraction with
  | none =>
    simp only [fractionText, hfraction, Option.map_none, Option.getD_none, List.nil_append]
    unfold fractionPart
    split
    · exact absurd rfl (hrest '.' (by simp)).2
    · rfl
  | some digits =>
    obtain ⟨hne, hdigits⟩ := h.fraction digits hfraction
    have hrun := digitRun_append hdigits fun c hc => (hrest c hc).1
    cases digits with
    | nil => exact absurd rfl hne
    | cons d digits =>
      rw [List.cons_append] at hrun
      simp [fractionText, hfraction, fractionPart, hrun]

theorem exponentPart_text {n : Numeral} (h : n.IsProper) {rest : Text} (hrest : rest.EndsNumber) :
    exponentPart (n.exponentText ++ rest) =
      n.exponent.map fun part => (exponentValue part, rest) := by
  cases hexponent : n.exponent with
  | none =>
    simp only [exponentText, hexponent, Option.map_none, Option.getD_none, List.nil_append]
    cases rest with
    | nil => rfl
    | cons c rest =>
      obtain ⟨-, -, he, hE⟩ := hrest c (by simp)
      simp [exponentPart, he, hE]
  | some part =>
    obtain ⟨negative, digits⟩ := part
    obtain ⟨hne, hdigits⟩ := h.exponent negative digits hexponent
    have hrun := digitRun_append hdigits fun c hc => (hrest c hc).1
    cases digits with
    | nil => exact absurd rfl hne
    | cons d digits =>
      rw [List.cons_append] at hrun
      cases negative <;> simp [exponentText, hexponent, exponentPart, exponentValue, hrun]

/-- What follows the digits before the point goes on with no digit. -/
theorem head?_exponentText (n : Numeral) {rest : Text} (hrest : rest.EndsNumber) :
    ∀ c ∈ (n.exponentText ++ rest).head?, c.isDigit = false ∧ c ≠ '.' := by
  intro c hc
  cases hexponent : n.exponent with
  | none =>
    simp only [exponentText, hexponent, Option.map_none, Option.getD_none, List.nil_append] at hc
    exact ⟨(hrest c hc).1, (hrest c hc).2.1⟩
  | some part =>
    simp only [exponentText, hexponent, Option.map_some, Option.getD_some, List.cons_append,
      List.head?_cons, Option.mem_def, Option.some.injEq] at hc
    subst hc
    decide

theorem head?_fractionText (n : Numeral) {rest : Text} (hrest : rest.EndsNumber) :
    ∀ c ∈ (n.fractionText ++ (n.exponentText ++ rest)).head?, c.isDigit = false := by
  intro c hc
  cases hfraction : n.fraction with
  | none =>
    simp only [fractionText, hfraction, Option.map_none, Option.getD_none, List.nil_append] at hc
    exact (head?_exponentText n hrest c hc).1
  | some digits =>
    simp only [fractionText, hfraction, Option.map_some, Option.getD_some, List.cons_append,
      List.head?_cons, Option.mem_def, Option.some.injEq] at hc
    subst hc
    decide

theorem signPart_text {n : Numeral} (h : n.IsProper) (rest : Text) :
    signPart (n.text ++ rest) =
      (n.negative, n.whole ++ (n.fractionText ++ (n.exponentText ++ rest))) := by
  cases hwhole : n.whole with
  | nil => exact absurd hwhole h.whole.1
  | cons c digits =>
    have hc : c ≠ '-' := by
      rintro rfl
      exact absurd (h.whole.2 '-' (by simp [hwhole])) (by decide)
    cases hnegative : n.negative <;> simp [signPart, text, hnegative, hwhole, hc]

theorem wholePart_text {n : Numeral} (h : n.IsProper) {rest : Text}
    (hrest : ∀ c ∈ rest.head?, c.isDigit = false) :
    wholePart (n.whole ++ rest) = (n.whole, rest) := by
  have hrun := digitRun_append h.whole.2 hrest
  have hhead := h.whole_head
  cases hwhole : n.whole with
  | nil => exact absurd hwhole h.whole.1
  | cons c digits =>
    rw [hwhole] at hrun hhead
    by_cases hc : c = '0'
    · subst hc
      cases hhead rfl
      rfl
    · simpa [wholePart, hc] using hrun

/-- **A numeral is read as its value.** -/
theorem readNumber_text {n : Numeral} (h : n.IsProper) {rest : Text} (hrest : rest.EndsNumber) :
    readNumber (n.text ++ rest) = some (n.value, rest) := by
  have hwhole := wholePart_text h (head?_fractionText n hrest)
  have hfraction := fractionPart_text h (head?_exponentText n hrest)
  have hexponent := exponentPart_text h hrest
  have hpoint : n.fraction = none → n.fractionText = [] := fun hf => by rw [fractionText, hf]; rfl
  have hmark : n.exponent = none → n.exponentText = [] := fun he => by rw [exponentText, he]; rfl
  unfold readNumber value
  rw [signPart_text h, hwhole]
  split
  · rename_i heq
    exact absurd (congrArg Prod.fst heq) h.whole.1
  · rename_i heq
    cases heq
    -- a part that is not there leaves nothing in the text
    cases hf : n.fraction <;> cases he : n.exponent <;> simp_all

end Numeral

/-! ### Numbers as numerals -/

/-- The text is a proper numeral with the given value. -/
def IsNumeral (t : Text) (number : Scalar) : Prop :=
  ∃ n : Numeral, n.IsProper ∧ n.text = t ∧ n.value = number

theorem IsNumeral.readNumber {t rest : Text} {number : Scalar} (h : IsNumeral t number)
    (hrest : rest.EndsNumber) : readNumber (t ++ rest) = some (number, rest) := by
  obtain ⟨n, hn, rfl, rfl⟩ := h
  exact Numeral.readNumber_text hn hrest

/-- The digits of a number may stand before the point. -/
theorem head?_ofNat_zero {n : Nat} (h : (Text.ofNat n).head? = some (.char '0')) :
    Text.ofNat n = [.char '0'] := by
  rcases Nat.eq_zero_or_pos n with rfl | hn
  · rfl
  · exact absurd h (head?_ofNat hn)

/-- **An integer is written as a numeral.** -/
theorem isNumeral_ofInt (i : Int) : IsNumeral (Text.ofInt i) (.int i) := by
  refine ⟨⟨i < 0, Text.ofNat i.natAbs, none, none⟩, ?_, ?_, ?_⟩
  · exact ⟨isDigits_ofNat _, head?_ofNat_zero, by simp, by simp⟩
  · cases i with
    | ofNat n => simp [Numeral.text, Numeral.fractionText, Numeral.exponentText, Text.ofInt]
    | negSucc n => simp [Numeral.text, Numeral.fractionText, Numeral.exponentText, Text.ofInt]
  · have hvalue : (digitsValue (Text.ofNat i.natAbs) : Int) = i.natAbs :=
      congrArg Nat.cast (digitsValue_ofNat _)
    simp only [Numeral.value, numberOf, Option.map_none, hvalue, decide_eq_true_eq]
    congr 1
    split <;> omega

/-- Digits with a point among them are a numeral. -/
theorem isNumeral_point {whole fraction : Text} (hwhole : whole.IsDigits)
    (hhead : whole.head? = some (.char '0') → whole = [.char '0']) (hfraction : fraction.IsDigits)
    (negative : Bool) :
    IsNumeral ((if negative then [.char '-'] else []) ++ (whole ++ .char '.' :: fraction))
      (.float (.ofDecimal negative (digitsValue (whole ++ fraction)) (-fraction.length))) := by
  refine ⟨⟨negative, whole, some fraction, none⟩, ⟨hwhole, hhead, ?_, by simp⟩, ?_, ?_⟩
  · rintro digits ⟨⟩
    exact hfraction
  · simp [Numeral.text, Numeral.fractionText, Numeral.exponentText]
  · simp [Numeral.value, numberOf]

/-- Digits with an exponent are a numeral; the point is left out when nothing
follows it. -/
theorem isNumeral_power {whole tail : Text} (hwhole : whole.IsDigits)
    (hhead : whole.head? ≠ some (.char '0')) (htail : ∀ c ∈ tail, c.isDigit) (negative : Bool)
    (power : Int) :
    IsNumeral
      ((if negative then [CodePoint.char '-'] else []) ++
        (whole ++ (if tail.isEmpty then [] else .char '.' :: tail) ++ "e" ++
          (if power < 0 then [CodePoint.char '-'] else [CodePoint.char '+']) ++
            Text.padLeft '0' 2 (Text.ofNat power.natAbs)))
      (.float (.ofDecimal negative (digitsValue (whole ++ tail)) (power - tail.length))) := by
  have hpower : Text.IsDigits (Text.padLeft '0' 2 (Text.ofNat power.natAbs)) :=
    isDigits_replicate_append (isDigits_ofNat _) _
  have hvalue : Numeral.exponentValue (power < 0, Text.padLeft '0' 2 (Text.ofNat power.natAbs)) =
      power := by
    unfold Numeral.exponentValue Text.padLeft
    simp only [digitsValue_replicate_append, digitsValue_ofNat, decide_eq_true_eq]
    split <;> omega
  refine ⟨⟨negative, whole, if tail.isEmpty then none else some tail,
    some (power < 0, Text.padLeft '0' 2 (Text.ofNat power.natAbs))⟩,
    ⟨hwhole, fun h => absurd h hhead, ?_, ?_⟩, ?_, ?_⟩
  · intro digits h
    cases tail with
    | nil => cases h
    | cons c tail =>
      cases h
      exact ⟨by simp, htail⟩
  · rintro sign digits ⟨⟩
    exact hpower
  · cases tail <;> by_cases hneg : power < 0 <;>
      simp [Numeral.text, Numeral.fractionText, Numeral.exponentText, Text.ofString, hneg]
  · cases tail <;> simp [Numeral.value, numberOf, hvalue]

section Decimals

variable {m : Nat} (hm : 0 < m) (negative : Bool) (k : Nat)

theorem isNumeral_leadingZeros :
    IsNumeral
      ((if negative then [CodePoint.char '-'] else []) ++
        ("0." ++ List.replicate k (CodePoint.char '0') ++ Text.ofNat m))
      (.float (.ofDecimal negative m (-(k + (Text.ofNat m).length : Nat)))) := by
  have hvalue :
      digitsValue (Text.ofNat 0 ++ (List.replicate k (CodePoint.char '0') ++ Text.ofNat m)) = m :=
    (digitsValue_replicate_append (k + 1) _).trans (digitsValue_ofNat m)
  have hpoint := isNumeral_point (isDigits_ofNat 0) (fun _ => rfl)
    (isDigits_replicate_append (isDigits_ofNat m) k) negative
  rw [hvalue, List.length_append, List.length_replicate] at hpoint
  exact hpoint

include hm

theorem isNumeral_trailingZeros :
    IsNumeral
      ((if negative then [CodePoint.char '-'] else []) ++
        (Text.ofNat m ++ List.replicate k (CodePoint.char '0') ++ ".0"))
      (.float (.ofDecimal negative m k)) := by
  obtain ⟨hne, hdigits⟩ := isDigits_ofNat m
  have hwhole : Text.IsDigits (Text.ofNat m ++ List.replicate k (CodePoint.char '0')) :=
    ⟨by simp [hne], fun c hc => (List.mem_append.mp hc).elim (hdigits c) isDigit_replicate⟩
  have hhead :
      (Text.ofNat m ++ List.replicate k (CodePoint.char '0')).head? ≠ some (.char '0') := by
    rw [List.head?_append_of_ne_nil _ hne]
    exact head?_ofNat hm
  have hpoint := isNumeral_point hwhole (fun h => absurd h hhead) (isDigits_ofNat 0) negative
  have hvalue :
      digitsValue (Text.ofNat m ++ List.replicate k (CodePoint.char '0') ++ Text.ofNat 0) =
      m * 10 ^ (k + 1) := by
    show digitsValue (Text.ofNat m ++ List.replicate k (CodePoint.char '0') ++ [.char '0']) = _
    rw [List.append_assoc, ← List.replicate_succ', digitsValue_append, digitsValue_replicate,
      digitsValue_ofNat, List.length_replicate, Nat.add_zero]
  have hexponent : -((Text.ofNat 0).length : Int) + (k + 1 : Nat) = k := by
    show -(1 : Int) + (k + 1 : Nat) = k
    omega
  rw [hvalue, Binary64.ofDecimal_mul_pow hm, hexponent] at hpoint
  exact hpoint

theorem isNumeral_divided (hpos : 0 < k) (hlt : k < (Text.ofNat m).length) :
    IsNumeral
      ((if negative then [CodePoint.char '-'] else []) ++
        ((Text.ofNat m).take k ++ "." ++ (Text.ofNat m).drop k))
      (.float (.ofDecimal negative m (-((Text.ofNat m).length - k : Nat)))) := by
  obtain ⟨hne, hdigits⟩ := isDigits_ofNat m
  have hwhole : Text.IsDigits ((Text.ofNat m).take k) :=
    ⟨by simp [hne, Nat.ne_of_gt hpos], fun c hc => hdigits c (List.mem_of_mem_take hc)⟩
  have hfraction : Text.IsDigits ((Text.ofNat m).drop k) :=
    ⟨by simpa using hlt, fun c hc => hdigits c (List.mem_of_mem_drop hc)⟩
  have hhead : ((Text.ofNat m).take k).head? ≠ some (.char '0') := by
    rw [List.head?_take, if_neg (Nat.ne_of_gt hpos)]
    exact head?_ofNat hm
  have hpoint := isNumeral_point hwhole (fun h => absurd h hhead) hfraction negative
  rw [List.take_append_drop, digitsValue_ofNat, List.length_drop] at hpoint
  simpa [Text.ofString] using hpoint

/-- In positional notation a decimal is a numeral. -/
theorem isNumeral_positional (e : Int) :
    IsNumeral
      ((if negative then [.char '-'] else []) ++
        Binary64.positional (Text.ofNat m) ((Text.ofNat m).length + e))
      (.float (.ofDecimal negative m e)) := by
  have hlength : 0 < (Text.ofNat m).length := List.length_pos_iff.mpr (isDigits_ofNat m).1
  by_cases hfirst : ((Text.ofNat m).length + e : Int) ≤ 0
  · have hzeros :=
      isNumeral_leadingZeros (m := m) negative (-((Text.ofNat m).length + e : Int)).toNat
    rw [Binary64.positional, if_pos hfirst]
    convert hzeros using 3
    omega
  · by_cases hlast : ((Text.ofNat m).length : Int) ≤ (Text.ofNat m).length + e
    · have hzeros := isNumeral_trailingZeros hm negative
        (((Text.ofNat m).length + e : Int).toNat - (Text.ofNat m).length)
      rw [Binary64.positional, if_neg hfirst, if_pos hlast]
      convert hzeros using 3
      omega
    · have hpoint := isNumeral_divided hm negative ((Text.ofNat m).length + e : Int).toNat
        (by omega) (by omega)
      rw [Binary64.positional, if_neg hfirst, if_neg hlast]
      convert hpoint using 3
      omega

/-- In exponential notation a decimal is a numeral. -/
theorem isNumeral_exponential (e : Int) :
    IsNumeral
      ((if negative then [.char '-'] else []) ++
        Binary64.exponential (Text.ofNat m) ((Text.ofNat m).length + e - 1))
      (.float (.ofDecimal negative m e)) := by
  obtain ⟨hne, hdigits⟩ := isDigits_ofNat m
  have hlength : 0 < (Text.ofNat m).length := List.length_pos_iff.mpr hne
  have hwhole : Text.IsDigits ((Text.ofNat m).take 1) :=
    ⟨by simp [hne], fun c hc => hdigits c (List.mem_of_mem_take hc)⟩
  have hhead : ((Text.ofNat m).take 1).head? ≠ some (.char '0') := by
    rw [List.head?_take, if_neg (by decide)]
    exact head?_ofNat hm
  have htail : ∀ c ∈ (Text.ofNat m).drop 1, c.isDigit :=
    fun c hc => hdigits c (List.mem_of_mem_drop hc)
  have hpower := isNumeral_power hwhole hhead htail negative ((Text.ofNat m).length + e - 1)
  have hexponent : ((Text.ofNat m).length + e - 1 - ((Text.ofNat m).drop 1).length : Int) = e := by
    rw [List.length_drop]
    omega
  rw [List.take_append_drop, digitsValue_ofNat, hexponent] at hpower
  exact hpower

end Decimals

/-- **A finite floating-point number is written as a numeral.** -/
theorem isNumeral_displayWith (negative : Bool) {rank : Fin (infinityRank + 1)}
    (hrank : rank.val < infinityRank) (nanText infinityText : Text) :
    IsNumeral (Binary64.displayWith nanText infinityText (.number negative rank))
      (.float (.number negative rank)) := by
  rw [Binary64.displayWith, if_pos hrank, Binary64.displayMagnitude]
  by_cases hzero : rank.val = 0
  · have hpoint := isNumeral_point (isDigits_ofNat 0) (fun _ => rfl) (isDigits_ofNat 0) negative
    have hnumber : Binary64.number negative rank = Binary64.zero negative :=
      congrArg _ (Fin.ext hzero)
    rw [if_pos hzero, hnumber]
    exact hpoint
  · have hpos : 0 < rank.val := Nat.pos_of_ne_zero hzero
    have hdigits := Binary64.digits_shortest_pos hpos hrank
    have hnumber := Binary64.ofDecimal_shortest hpos hrank negative
    rw [if_neg hzero, ← hnumber]
    generalize Binary64.shortest rank.val = d at *
    by_cases hpoint : (decide (-4 < (Text.ofNat d.digits).length + d.e) &&
        decide ((Text.ofNat d.digits).length + d.e ≤ 16)) = true
    · simp only [if_pos hpoint]
      exact isNumeral_positional hdigits negative d.e
    · simp only [if_neg hpoint]
      exact isNumeral_exponential hdigits negative d.e

end Json

end TwinQuery
