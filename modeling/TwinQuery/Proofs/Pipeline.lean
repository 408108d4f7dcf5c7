/-
# Reading a pipeline back

Stages that are written after a query, each after a pipe with a blank or a
line break before it and a blank behind it, are read as the last stages of the
query (`Pipeline.ofQuery_append`): when none of them holds a pipe or a line
break and each holds more than blanks, nothing is lost, added or merged. So a
pipeline that is written stage by stage is read back stage by stage
(`Pipeline.ofQuery_of_isStage`).

The lists that queries are read as are therefore known
(`Pipeline.IsCanonicalList`), and each of them is the reading of its own stages
with pipes between them, on one line or on several
(`Pipeline.stages_canonical_form`).

Key definitions: `Text.IsPiece`, `Text.IsStage`, `Pipeline.IsCanonical`,
`Pipeline.IsCanonicalList`.
Key theorems: `Pipeline.ofQuery_append`, `Pipeline.ofQuery_of_isStage`,
`Pipeline.isCanonical_ofQuery`, `Pipeline.toList_ofQuery_joinWith`,
`Pipeline.stages_canonical_form`.
-/
import TwinQuery.Proofs.Layout

namespace TwinQuery

open Text

/-- A text that can stand between two pipes: it holds no pipe, and no line
break. -/
def Text.IsPiece (t : Text) : Prop := ∀ c ∈ t, c ≠ pipe ∧ isLineBreak c = false

instance (t : Text) : Decidable t.IsPiece := List.decidableBAll _ t

theorem Text.IsPiece.not_mem {t : Text} (h : t.IsPiece) : pipe ∉ t := fun hm => (h pipe hm).1 rfl

theorem Text.IsPiece.oneLine {t : Text} (h : t.IsPiece) : OneLine t := fun c hc => (h c hc).2

theorem Text.IsPiece.of_subset {s t : Text} (h : t.IsPiece) (hs : s ⊆ t) : s.IsPiece :=
  fun c hc => h c (hs hc)

theorem Text.IsPiece.append {s t : Text} (hs : s.IsPiece) (ht : t.IsPiece) : (s ++ t).IsPiece := by
  intro c hc
  rcases List.mem_append.mp hc with hc | hc
  · exact hs c hc
  · exact ht c hc

theorem Text.isPiece_joinWith {s : Text} (hs : s.IsPiece) : ∀ {ts : List Text},
    (∀ t ∈ ts, t.IsPiece) → (joinWith s ts).IsPiece
  | [], _ => by simp [joinWith, IsPiece]
  | [t], h => h t List.mem_cons_self
  | t :: u :: ts, h => by
    have ih := isPiece_joinWith hs fun v hv => h v (List.mem_cons_of_mem _ hv)
    exact ((h t List.mem_cons_self).append hs).append ih

theorem Text.isPiece_flatMap {α : Type} {f : α → Text} {xs : List α}
    (h : ∀ x ∈ xs, (f x).IsPiece) : IsPiece (xs.flatMap f) := by
  intro c hc
  obtain ⟨x, hx, hc⟩ := List.mem_flatMap.mp hc
  exact h x hx c hc

theorem isPiece_stageArguments {stage : Text} (hstage : stage.IsPiece) (verb : Text) :
    (stageArguments stage verb).IsPiece := by
  refine hstage.of_subset (List.Subset.trans (strip_subset _) ?_)
  exact List.Subset.trans (List.drop_subset _ _) (strip_subset stage)

/-- A piece that holds more than blanks. -/
def Text.IsStage (t : Text) : Prop := t.IsPiece ∧ strip t ≠ []

instance (t : Text) : Decidable t.IsStage := inferInstanceAs (Decidable (_ ∧ _))

theorem Text.IsStage.append_right {s t : Text} (hs : s.IsStage) (ht : t.IsPiece) :
    (s ++ t).IsStage := by
  refine ⟨hs.1.append ht, fun h => hs.2 ?_⟩
  rw [strip_eq_nil_iff] at h ⊢
  exact fun c hc => h c (List.mem_append_left _ hc)

theorem Text.IsStage.append_left {s t : Text} (hs : s.IsPiece) (ht : t.IsStage) :
    (s ++ t).IsStage := by
  refine ⟨hs.append ht.1, fun h => ht.2 ?_⟩
  rw [strip_eq_nil_iff] at h ⊢
  exact fun c hc => h c (List.mem_append_right _ hc)

namespace Pipeline

/-- The pipeline of a query, read from the pieces between its pipes. -/
theorem ofQuery_of_cutAt {query piece : Text} {pieces : List Text}
    (h : cutAt pipe query = piece :: pieces) :
    ofQuery query =
      ⟨joinLines piece, (pieces.map joinLines).filter fun stage => !stage.isEmpty⟩ := by
  have hmap := map_strip_cutAt_joinLines query
  obtain ⟨first, rest, hcut⟩ := List.exists_cons_of_ne_nil (cutAt_ne_nil pipe (joinLines query))
  rw [h, hcut, List.map_cons, List.map_cons, List.cons.injEq] at hmap
  rw [ofQuery, hcut, ofPieces, hmap.1, hmap.2]

theorem ofQuery_of_not_mem {query : Text} (h : pipe ∉ query) : ofQuery query = ⟨joinLines query, []⟩ :=
  ofQuery_of_cutAt (cutAt_of_not_mem h)

theorem pipe_mem_of_stages_ne_nil {query : Text} (h : (ofQuery query).stages ≠ []) :
    pipe ∈ query := by
  refine Decidable.byContradiction fun hfree => h ?_
  rw [ofQuery_of_not_mem hfree]

section

variable {α : Type} {f : Text → α} {b : CodePoint} (hb : isBlank b) (hend : ∀ t, f (t ++ [b]) = f t)
  (hstart : ∀ t, f (' ' :: t) = f t)

include hb hend

theorem map_cutAt_append_blank (x : Text) :
    (cutAt pipe (x ++ [b])).map f = (cutAt pipe x).map f := by
  induction x using cutInduction (· == pipe) with
  | whole x hx =>
    have hfree : pipe ∉ x := fun hm => by simpa using hx pipe hm
    have hbne : pipe ≠ b := by rintro rfl; cases hb
    rw [cutAt_of_not_mem hfree, cutAt_of_not_mem (by simp [hfree, hbne]), List.map_singleton, hend,
      List.map_singleton]
  | cut a c x ha hc ih =>
    obtain rfl := eq_of_beq hc
    rw [List.append_assoc, List.cons_append, cutAt_append_mark, cutAt_append_mark, List.map_append,
      List.map_append, ih]

include hstart

/-- Pieces written after a query, each after a pipe with blanks around it, are
cut apart again, for everything that the blanks around a piece do not
change. -/
theorem map_cutAt_flatMap : ∀ (ys : List Text) (x : Text), (∀ y ∈ ys, pipe ∉ y) →
    (cutAt pipe (x ++ ys.flatMap fun y => b :: pipe :: ' ' :: y)).map f =
      (cutAt pipe x).map f ++ ys.map f
  | [], x, _ => by simp
  | y :: ys, x, hys => by
    have hy : pipe ∉ .char ' ' :: y := by
      have := hys y List.mem_cons_self
      simpa [pipe] using this
    have ih := map_cutAt_flatMap ys (' ' :: y) fun z hz => hys z (List.mem_cons_of_mem _ hz)
    have hsplit : x ++ (y :: ys).flatMap (fun y => b :: pipe :: ' ' :: y) =
        (x ++ [b]) ++ pipe ::
          ((.char ' ' :: y) ++ ys.flatMap fun y => b :: pipe :: .char ' ' :: y) := by
      simp
    rw [hsplit, cutAt_append_mark, List.map_append, map_cutAt_append_blank hb hend, ih,
      cutAt_of_not_mem hy, List.map_singleton, hstart, List.singleton_append, List.map_cons]

end

/-- **Stages written after a query are read as its last stages.** None of
them is lost or merged, whatever the query is. -/
theorem ofQuery_append {b : CodePoint} (hb : isBlank b) (x : Text) {ys : List Text}
    (hys : ∀ y ∈ ys, y.IsStage) :
    ofQuery (x ++ ys.flatMap fun y => b :: pipe :: ' ' :: y) =
      ⟨(ofQuery x).head, (ofQuery x).stages ++ ys.map strip⟩ := by
  have hmap := map_cutAt_flatMap hb (joinLines_append_blank hb) (joinLines_cons_blank rfl) ys x
    fun y hy => (hys y hy).1.not_mem
  have hjoin : ys.map joinLines = ys.map strip :=
    List.map_congr_left fun y hy => joinLines_of_oneLine (hys y hy).1.oneLine
  have hkeep : (ys.map strip).filter (fun stage => !stage.isEmpty) = ys.map strip := by
    rw [List.filter_eq_self]
    intro stage hs
    obtain ⟨y, hy, rfl⟩ := List.mem_map.mp hs
    simpa using (hys y hy).2
  generalize x ++ ys.flatMap (fun y => b :: pipe :: ' ' :: y) = query at *
  obtain ⟨piece, pieces, hcut⟩ := List.exists_cons_of_ne_nil (cutAt_ne_nil pipe query)
  obtain ⟨first, rest, hx⟩ := List.exists_cons_of_ne_nil (cutAt_ne_nil pipe x)
  rw [hcut, hx, List.map_cons, List.map_cons, List.cons_append, List.cons.injEq] at hmap
  rw [ofQuery_of_cutAt hcut, ofQuery_of_cutAt hx, hmap.1, hmap.2, hjoin, List.filter_append, hkeep]

/-- Nothing is lost, added or merged when a pipeline is written stage by
stage. -/
theorem ofQuery_of_isStage {b : CodePoint} (hb : isBlank b) {x : Text} {ys : List Text}
    (hx : x.IsPiece) (hys : ∀ y ∈ ys, y.IsStage) :
    ofQuery (x ++ ys.flatMap fun y => b :: pipe :: ' ' :: y) = ⟨strip x, ys.map strip⟩ := by
  rw [ofQuery_append hb x hys, ofQuery_of_not_mem hx.not_mem, joinLines_of_oneLine hx.oneLine,
    List.nil_append]

theorem isPiece_joinLines {t : Text} (ht : pipe ∉ t) : (joinLines t).IsPiece := by
  intro c hc
  refine ⟨?_, oneLine_joinLines t c hc⟩
  rintro rfl
  rcases List.mem_cons.mp (joinLines_subset t hc) with h | h
  · cases h
  · exact ht h

/-- What is read from a query: the head and the stages are stripped pieces,
and no stage is empty. -/
structure IsCanonical (p : Pipeline) : Prop where
  isPiece_head : p.head.IsPiece
  strip_head : strip p.head = p.head
  isPiece_stage : ∀ stage ∈ p.stages, stage.IsPiece
  strip_stage : ∀ stage ∈ p.stages, strip stage = stage
  stage_ne_nil : ∀ stage ∈ p.stages, stage ≠ []

theorem isCanonical_ofQuery (query : Text) : (ofQuery query).IsCanonical := by
  have hfree := fun piece hp => (mem_cutAt (m := pipe) query piece hp).1
  obtain ⟨piece, pieces, hcut⟩ := List.exists_cons_of_ne_nil (cutAt_ne_nil pipe query)
  rw [hcut] at hfree
  rw [ofQuery_of_cutAt hcut]
  have hstage : ∀ stage ∈ (pieces.map joinLines).filter (fun stage => !stage.isEmpty),
      stage ≠ [] ∧ ∃ t, pipe ∉ t ∧ stage = joinLines t := by
    intro stage hs
    obtain ⟨hs, hne⟩ := List.mem_filter.mp hs
    obtain ⟨t, ht, rfl⟩ := List.mem_map.mp hs
    exact ⟨by simpa using hne, t, hfree t (List.mem_cons_of_mem _ ht), rfl⟩
  refine ⟨isPiece_joinLines (hfree piece List.mem_cons_self), strip_joinLines piece, ?_, ?_, ?_⟩
  · intro stage hs
    obtain ⟨-, t, ht, rfl⟩ := hstage stage hs
    exact isPiece_joinLines ht
  · intro stage hs
    obtain ⟨-, t, -, rfl⟩ := hstage stage hs
    exact strip_joinLines t
  · exact fun stage hs => (hstage stage hs).1

/-! ### The canonical form -/

/-- A list of stages as a query is read: there is a first one, which may be
empty; none holds a pipe or a line break, or has blanks at its ends; and none
after the first is empty. -/
structure IsCanonicalList (stages : List Text) : Prop where
  ne_nil : stages ≠ []
  isPiece : ∀ stage ∈ stages, stage.IsPiece
  stripped : ∀ stage ∈ stages, strip stage = stage
  tail_ne_nil : ∀ stage ∈ stages.tail, stage ≠ []

theorem IsCanonical.isCanonicalList {p : Pipeline} (h : p.IsCanonical) :
    IsCanonicalList p.toList where
  ne_nil := List.cons_ne_nil _ _
  isPiece := List.forall_mem_cons.mpr ⟨h.isPiece_head, h.isPiece_stage⟩
  stripped := List.forall_mem_cons.mpr ⟨h.strip_head, h.strip_stage⟩
  tail_ne_nil := h.stage_ne_nil

/-- **A canonical list is read back,** whichever blank stands before each
pipe. -/
theorem toList_ofQuery_joinWith {b : CodePoint} (hb : isBlank b) {stages : List Text}
    (h : IsCanonicalList stages) : (ofQuery (joinWith [b, pipe, ' '] stages)).toList = stages := by
  obtain ⟨head, rest, rfl⟩ := List.exists_cons_of_ne_nil h.ne_nil
  obtain ⟨hhead, hrest⟩ := List.forall_mem_cons.mp h.isPiece
  obtain ⟨hstrip, hstripped⟩ := List.forall_mem_cons.mp h.stripped
  -- what is stripped already is no blank stage unless it is empty
  have hstage : ∀ stage ∈ rest, stage.IsStage := fun stage hs =>
    ⟨hrest stage hs, by rw [hstripped stage hs]; exact h.tail_ne_nil stage hs⟩
  have hsame : rest.map strip = rest := (List.map_congr_left hstripped).trans (List.map_id' rest)
  have hjoin : joinWith [b, pipe, ' '] (head :: rest) =
      head ++ rest.flatMap fun stage => b :: pipe :: ' ' :: stage :=
    joinWith_eq_flatMap [b, pipe, ' '] head rest
  rw [hjoin, ofQuery_of_isStage hb hhead hstage, hstrip, hsame, toList]

/-- **The canonical form of a query.** A query is read as a list that is never
empty, whose elements hold no pipe and no line break and are stripped, and
whose elements after the first are not empty. Every such list is the reading of
its elements with pipes between them, on one line or each on its own. So what
was read from a query, written on one line, is read alike. -/
theorem stages_canonical_form :
    (∀ query, IsCanonicalList (ofQuery query).toList) ∧
    (∀ stages, IsCanonicalList stages →
      (ofQuery (joinWith " | " stages)).toList = stages ∧
      (ofQuery (joinWith "\n| " stages)).toList = stages) ∧
    ∀ query, (ofQuery (joinWith " | " (ofQuery query).toList)).toList = (ofQuery query).toList := by
  have hcanonical : ∀ query, IsCanonicalList (ofQuery query).toList :=
    fun query => (isCanonical_ofQuery query).isCanonicalList
  refine ⟨hcanonical, fun stages h => ⟨?_, ?_⟩, fun query => ?_⟩
  · exact toList_ofQuery_joinWith (b := ' ') rfl h
  · exact toList_ofQuery_joinWith (b := '\n') rfl h
  · exact toList_ofQuery_joinWith (b := ' ') rfl (hcanonical query)

/-- An empty head and stages with blanks of other scripts inside them are read
back from one line and from three. -/
theorem stages_canonical_form_empty_head :
    IsCanonicalList [[], "where a \u3000 b", "take\t5"] ∧
      ofQuery " | where a \u3000 b | take\t5" = ⟨[], ["where a \u3000 b", "take\t5"]⟩ ∧
      ofQuery "\n| where a \u3000 b\n| take\t5" = ⟨[], ["where a \u3000 b", "take\t5"]⟩ := by
  have hlist : IsCanonicalList [[], "where a \u3000 b", "take\t5"] :=
    ⟨by decide, by decide, by decide, by decide⟩
  have htoList : Function.Injective toList := by
    rintro ⟨head, stages⟩ ⟨head', stages'⟩ heq
    obtain ⟨rfl, rfl⟩ := List.cons.inj heq
    rfl
  obtain ⟨hline, hlines⟩ := stages_canonical_form.2.1 _ hlist
  exact ⟨hlist, htoList hline, htoList hlines⟩

end Pipeline

end TwinQuery
