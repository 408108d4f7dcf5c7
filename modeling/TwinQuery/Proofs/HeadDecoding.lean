/-
# The predicates of a head can be read back

The values of a search head are pasted into one text: the table, and after it
the predicates with `and` between them. A value may hold anything but what its
rule takes out, so it may look like a predicate itself. Still, two heads have
the same KQL text only when they have the same table and the same values
(`headToKql_text_eq_iff`): no value can pass for another predicate.

The text is read back from left to right. A table has no blanks in it, and
ends at the line break. A value between quotes has no quotes in it, and ends at
the next quote (`rest_injective`). The span of time stands between parentheses
and may hold blanks, parentheses and the word `and`, but it has no quotes
either: what stands before the first quote is the span and one of three fixed
endings, none of which is the end of another (`span_injective`); and without a
quote the span is all that is there.

Key definitions: `Subject`, `clause`, `SearchHead.quoted`.
Key theorems: `rest_injective`, `span_injective`, `clause_injective`,
`SearchHead.toKql_text_eq_clause`, `headToKql_text_eq_iff`.
-/
import TwinQuery.Proofs.PipelineToKql

namespace TwinQuery

open Text

/-! ### Predicates with a quoted value -/

/-- What a predicate with a quoted value is about. -/
inductive Subject where
  | sourcetype
  | source
  | term
deriving DecidableEq

namespace Subject

/-- What stands before the quoted value. -/
def opening : Subject → Text
  | .sourcetype => "SourceType == "
  | .source => "Source == "
  | .term => "* contains "

theorem not_mem_opening (s : Subject) : .char '"' ∉ s.opening := by cases s <;> decide

theorem opening_injective {s t : Subject} (h : s.opening = t.opening) : s = t := by
  revert h
  cases s <;> cases t <;> decide

end Subject

/-- A predicate with a quoted value, as it is written. -/
def quotedText (p : Subject × Text) : Text := p.1.opening ++ .char '"' :: (p.2 ++ [.char '"'])

/-- Predicates with quoted values after another predicate. -/
def restText (ps : List (Subject × Text)) : Text := ps.flatMap fun p => " and " ++ quotedText p

theorem restText_cons (s : Subject) (v : Text) (ps : List (Subject × Text)) :
    restText ((s, v) :: ps) =
      (" and " ++ s.opening) ++ .char '"' :: (v ++ .char '"' :: restText ps) := by
  simp [restText, quotedText]

/-- The values have no quotes in them. -/
def QuoteFree (ps : List (Subject × Text)) : Prop := ∀ p ∈ ps, .char '"' ∉ p.2

theorem QuoteFree.of_cons {s : Subject} {v : Text} {ps : List (Subject × Text)}
    (h : QuoteFree ((s, v) :: ps)) : .char '"' ∉ v ∧ QuoteFree ps :=
  List.forall_mem_cons.mp h

/-- A quoted value ends at the next quote. -/
theorem quoted_step {a b v w r s : Text} (ha : .char '"' ∉ a) (hb : .char '"' ∉ b)
    (hv : .char '"' ∉ v) (hw : .char '"' ∉ w)
    (h : a ++ .char '"' :: (v ++ .char '"' :: r) = b ++ .char '"' :: (w ++ .char '"' :: s)) :
    a = b ∧ v = w ∧ r = s := by
  obtain ⟨hab, hrest⟩ := eq_of_append_mark_eq ha hb h
  exact ⟨hab, eq_of_append_mark_eq hv hw hrest⟩

/-- **Predicates with quoted values can be read back.** -/
theorem rest_injective : ∀ {ps qs : List (Subject × Text)}, QuoteFree ps → QuoteFree qs →
    restText ps = restText qs → ps = qs
  | [], [], _, _, _ => rfl
  | [], (t, w) :: qs, _, _, h => by
    rw [restText_cons] at h
    simp [restText] at h
  | (s, v) :: ps, [], _, _, h => by
    rw [restText_cons] at h
    simp [restText] at h
  | (s, v) :: ps, (t, w) :: qs, hps, hqs, h => by
    obtain ⟨hv, hps'⟩ := hps.of_cons
    obtain ⟨hw, hqs'⟩ := hqs.of_cons
    have hopening : ∀ u : Subject, .char '"' ∉ " and " ++ u.opening := by
      intro u
      rw [List.mem_append, not_or]
      exact ⟨by decide, u.not_mem_opening⟩
    rw [restText_cons, restText_cons] at h
    obtain ⟨hst, hvw, hrest⟩ := quoted_step (hopening s) (hopening t) hv hw h
    rw [Subject.opening_injective (List.append_cancel_left hst), hvw,
      rest_injective hps' hqs' hrest]

/-! ### The span of time -/

/-- What stands between the span of time and the first quote. -/
def Subject.ending (s : Subject) : Text := ") and " ++ s.opening

/-- None of the endings is the end of another. -/
theorem Subject.ending_injective {s t : Subject} {x y : Text}
    (h : x ++ s.ending = y ++ t.ending) : s = t ∧ x = y := by
  have hst : s = t := by
    have hreverse := congrArg List.reverse h
    rw [List.reverse_append, List.reverse_append] at hreverse
    cases s <;> cases t <;> simp [ending, opening, ofString] at hreverse ⊢
  subst hst
  exact ⟨rfl, List.append_cancel_right h⟩

/-- **The span of time and the predicates after it can be read back,**
whatever the span is, as long as it has no quotes. -/
theorem span_injective {x y : Text} {ps qs : List (Subject × Text)} (hx : .char '"' ∉ x)
    (hy : .char '"' ∉ y)
    (hps : QuoteFree ps) (hqs : QuoteFree qs)
    (h : x ++ .char ')' :: restText ps = y ++ .char ')' :: restText qs) : x = y ∧ ps = qs := by
  have hnil : ∀ {a b : Text} (s : Subject) (v : Text) (rs : List (Subject × Text)), .char '"' ∉ a →
      a ++ .char ')' :: restText [] ≠ b ++ .char ')' :: restText ((s, v) :: rs) := by
    intro a b s v rs ha heq
    have hquote : .char '"' ∈ a ++ .char ')' :: restText [] := by
      rw [heq, restText_cons]
      simp
    simp [restText, ha] at hquote
  have hcons : ∀ (a : Text) (s : Subject) (v : Text) (rs : List (Subject × Text)),
      a ++ .char ')' :: restText ((s, v) :: rs) =
        (a ++ s.ending) ++ .char '"' :: (v ++ .char '"' :: restText rs) := by
    intro a s v rs
    rw [restText_cons, Subject.ending]
    simp [ofString]
  have hending : ∀ {a : Text} (s : Subject), .char '"' ∉ a → .char '"' ∉ a ++ s.ending := by
    intro a s ha hmem
    rcases List.mem_append.mp hmem with hmem | hmem
    · exact ha hmem
    · exact (by cases s <;> decide : .char '"' ∉ s.ending) hmem
  cases ps with
  | nil =>
    cases qs with
    | nil => exact ⟨List.append_cancel_right h, rfl⟩
    | cons q qs => exact absurd h (hnil q.1 q.2 qs hx)
  | cons p ps =>
    cases qs with
    | nil => exact absurd h.symm (hnil p.1 p.2 ps hy)
    | cons q qs =>
      obtain ⟨s, v⟩ := p
      obtain ⟨t, w⟩ := q
      obtain ⟨hv, hps'⟩ := hps.of_cons
      obtain ⟨hw, hqs'⟩ := hqs.of_cons
      rw [hcons, hcons] at h
      obtain ⟨hlead, hvw, hrest⟩ := quoted_step (hending s hx) (hending t hy) hv hw h
      obtain ⟨hst, hxy⟩ := Subject.ending_injective hlead
      exact ⟨hxy, by rw [hst, hvw, rest_injective hps' hqs' hrest]⟩

/-! ### The stage of a head -/

/-- What stands after the table: the stage with the span of time, when there
is one, and the predicates with quoted values. -/
def clause : (span : Option Text) → (ps : List (Subject × Text)) → Text
  | none, [] => []
  | none, p :: ps => "\n| where " ++ (quotedText p ++ restText ps)
  | some span, ps => "\n| where " ++ ("TimeGenerated >= ago(" ++ (span ++ .char ')' :: restText ps))

/-- What stands after the table begins with a line break. -/
theorem exists_clause_append (span : Option Text) (ps : List (Subject × Text)) :
    ∃ rest, clause span ps ++ [.char '\n'] = .char '\n' :: rest := by
  cases span with
  | some span => exact ⟨_, rfl⟩
  | none =>
    cases ps with
    | nil => exact ⟨_, rfl⟩
    | cons p ps => exact ⟨_, rfl⟩

/-- A table ends where what stands after it begins. -/
theorem append_clause_injective {a b : Text} {x y : Option Text} {ps qs : List (Subject × Text)}
    (ha : ∀ c ∈ a, isInk c) (hb : ∀ c ∈ b, isInk c) (h : a ++ clause x ps = b ++ clause y qs) :
    a = b ∧ clause x ps = clause y qs := by
  have hbreak : ∀ {t : Text}, (∀ c ∈ t, isInk c) → .char '\n' ∉ t :=
    fun ht hmem => nomatch ht _ hmem
  obtain ⟨r, hr⟩ := exists_clause_append x ps
  obtain ⟨s, hs⟩ := exists_clause_append y qs
  have hmark : a ++ .char '\n' :: r = b ++ .char '\n' :: s := by
    rw [← hr, ← hs, ← List.append_assoc, h, List.append_assoc]
  obtain ⟨rfl, -⟩ := eq_of_append_mark_eq (hbreak ha) (hbreak hb) hmark
  exact ⟨rfl, List.append_cancel_left h⟩

/-- A stage opens with the time exactly when there is one. -/
theorem clause_some_ne_none (span : Text) (ps qs : List (Subject × Text)) :
    clause (some span) ps ≠ clause none qs := by
  intro h
  cases qs with
  | nil => cases h
  | cons q qs =>
    have hopening := List.append_cancel_left h
    obtain ⟨s, v⟩ := q
    cases s <;> cases hopening

/-- **What stands after the table can be read back.** -/
theorem clause_injective {x y : Option Text} {ps qs : List (Subject × Text)}
    (hx : ∀ span ∈ x, .char '"' ∉ span) (hy : ∀ span ∈ y, .char '"' ∉ span) (hps : QuoteFree ps)
    (hqs : QuoteFree qs) (h : clause x ps = clause y qs) : x = y ∧ ps = qs := by
  cases x with
  | some x =>
    cases y with
    | some y =>
      have hspan := List.append_cancel_left (List.append_cancel_left h)
      obtain ⟨rfl, rfl⟩ := span_injective (hx x rfl) (hy y rfl) hps hqs hspan
      exact ⟨rfl, rfl⟩
    | none => exact absurd h (clause_some_ne_none x ps qs)
  | none =>
    cases y with
    | some y => exact absurd h.symm (clause_some_ne_none y qs ps)
    | none =>
      refine ⟨rfl, ?_⟩
      cases ps with
      | nil =>
        cases qs with
        | nil => rfl
        | cons q qs => cases h
      | cons p ps =>
        cases qs with
        | nil => cases h
        | cons q qs =>
          refine rest_injective hps hqs ?_
          have hfirst := List.append_cancel_left h
          simp only [restText, List.flatMap_cons, List.append_assoc] at hfirst ⊢
          rw [hfirst]

namespace SearchHead

/-- The predicates of a head with quoted values. -/
def quoted (h : SearchHead) : List (Subject × Text) :=
  ((h.sourcetype.map unquote).map (Subject.sourcetype, ·)).toList ++
    ((h.source.map unquote).map (Subject.source, ·)).toList ++
    (h.terms.map unquote).map (Subject.term, ·)

theorem not_mem_unquote (t : Text) : .char '"' ∉ unquote t := by simp [unquote]

theorem quoteFree_quoted (h : SearchHead) : QuoteFree h.quoted := by
  intro p hp
  simp only [quoted, Option.map_map, List.map_map, List.mem_append, Option.mem_toList,
    Option.map_eq_some_iff, List.mem_map, Function.comp_apply] at hp
  rcases hp with (⟨v, -, rfl⟩ | ⟨v, -, rfl⟩) | ⟨v, -, rfl⟩
  · exact not_mem_unquote v
  · exact not_mem_unquote v
  · exact not_mem_unquote v

theorem not_mem_timespan (t : Text) : .char '"' ∉ timespanOfEarliest t :=
  fun h => not_mem_unquote t (List.erase_subset h)

theorem predicates_eq (h : SearchHead) :
    h.predicates = (h.earliest.map timePredicate).toList ++ h.quoted.map quotedText := by
  have hsourcetype : sourcetypePredicate = fun v => quotedText (.sourcetype, unquote v) := by
    funext v
    simp [sourcetypePredicate, quotedText, Subject.opening, ofString]
  have hsource : sourcePredicate = fun v => quotedText (.source, unquote v) := by
    funext v
    simp [sourcePredicate, quotedText, Subject.opening, ofString]
  have hterm : termPredicate = fun v => quotedText (.term, unquote v) := by
    funext v
    simp [termPredicate, quotedText, Subject.opening, ofString]
  rw [predicates, hsourcetype, hsource, hterm, quoted]
  cases h.sourcetype <;> cases h.source <;> simp

/-- The KQL of a head is its table and what stands after it. -/
theorem toKql_text_eq_clause (h : SearchHead) :
    h.toKql.text = h.table ++ clause (h.earliest.map timespanOfEarliest) h.quoted := by
  have hrest : ∀ (p : Text) (ps : List (Subject × Text)),
      joinWith " and " (p :: ps.map quotedText) = p ++ restText ps := by
    intro p ps
    rw [joinWith_eq_flatMap, List.flatMap_map]
    rfl
  unfold toKql
  rw [predicates_eq]
  cases h.earliest with
  | some time =>
    simp only [Option.map_some, Option.toList_some, List.cons_append, List.nil_append, hrest,
      timePredicate, clause, List.append_assoc]
    rfl
  | none =>
    cases h.quoted with
    | nil => rfl
    | cons p ps => simp [hrest, clause]

/-- The values of the predicates on one subject. -/
def valuesOf (s : Subject) (ps : List (Subject × Text)) : List Text :=
  ps.filterMap fun p => if p.1 = s then some p.2 else none

theorem valuesOf_quoted (h : SearchHead) :
    (valuesOf .sourcetype h.quoted).head? = h.sourcetype.map unquote ∧
      (valuesOf .source h.quoted).head? = h.source.map unquote ∧
      valuesOf .term h.quoted = h.terms.map unquote := by
  unfold valuesOf quoted
  cases h.sourcetype <;> cases h.source <;> simp [Function.comp_def]

/-- The predicates with quoted values determine the values. -/
theorem quoted_injective {h k : SearchHead} (hquoted : h.quoted = k.quoted) :
    h.sourcetype.map unquote = k.sourcetype.map unquote ∧
      h.source.map unquote = k.source.map unquote ∧
      h.terms.map unquote = k.terms.map unquote := by
  obtain ⟨hsourcetype, hsource, hterms⟩ := h.valuesOf_quoted
  obtain ⟨hsourcetype', hsource', hterms'⟩ := k.valuesOf_quoted
  rw [hquoted] at hsourcetype hsource hterms
  exact ⟨hsourcetype.symm.trans hsourcetype', hsource.symm.trans hsource', hterms.symm.trans hterms'⟩

end SearchHead

/-- **The KQL of a head determines its table and its values,** and nothing
else in a head shows in it. -/
theorem headToKql_text_eq_iff (head₁ head₂ : Text) :
    (headToKql head₁).text = (headToKql head₂).text ↔
      (SearchHead.ofText head₁).table = (SearchHead.ofText head₂).table ∧
        (SearchHead.ofText head₁).earliest.map timespanOfEarliest =
          (SearchHead.ofText head₂).earliest.map timespanOfEarliest ∧
        (SearchHead.ofText head₁).sourcetype.map unquote =
          (SearchHead.ofText head₂).sourcetype.map unquote ∧
        (SearchHead.ofText head₁).source.map unquote =
          (SearchHead.ofText head₂).source.map unquote ∧
        (SearchHead.ofText head₁).terms.map unquote =
          (SearchHead.ofText head₂).terms.map unquote := by
  unfold headToKql
  rw [SearchHead.toKql_text_eq_clause, SearchHead.toKql_text_eq_clause]
  constructor
  · intro h
    obtain ⟨htable, hclause⟩ :=
      append_clause_injective (SearchHead.ink_table head₁) (SearchHead.ink_table head₂) h
    have hspan : ∀ {time : Option Text},
        ∀ span ∈ time.map timespanOfEarliest, .char '"' ∉ span := by
      intro time span hmem
      obtain ⟨t, -, rfl⟩ := Option.map_eq_some_iff.mp hmem
      exact SearchHead.not_mem_timespan t
    obtain ⟨htime, hquoted⟩ := clause_injective hspan hspan (SearchHead.quoteFree_quoted _)
      (SearchHead.quoteFree_quoted _) hclause
    exact ⟨htable, htime, SearchHead.quoted_injective hquoted⟩
  · rintro ⟨htable, htime, hsourcetype, hsource, hterms⟩
    rw [htable, htime, SearchHead.quoted, hsourcetype, hsource, hterms, ← SearchHead.quoted]

-- a time that looks like the end of its predicate; its words are looked for as well
example : (headToKql "earliest=\"1h) and y\"").text =
    ofString "TableName\n| where TimeGenerated >= ago(1h) and y)" ++
      " and * contains \"and\" and * contains \"y\"" := by
  decide +kernel

end TwinQuery
