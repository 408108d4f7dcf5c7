/-
# Runs of a session

What a session is after any list of events. An event changes the session in
two ways only, and one equation says both (`Session.session_step_action`): an
accepted update is merged into the mapping, and an action that needs the
vocabulary loads it when it is unset. Everything else here is that equation
carried through a run.

The mapping is the first one with the accepted updates merged in order
(`Session.foldlM_merge_run`). The vocabulary is that of the first load that
succeeds (`Session.vocabulary_run`), and its time is that of the workspace in
which the load was made. What the session answers depends on the vocabulary
it works with, and on the mapping only for the actions that read it
(`Session.answer_congr`); so a run without its updates, from any other mapping,
answers all other actions alike (`Session.run_withoutUpdates`).

Key definitions: `Session.acceptedUpdates`, `Session.Action.needsVocabulary`,
`Session.firstLoad`, `Session.known`, `Session.Action.readsMapping`,
`Session.RunInvariant`.
Key theorem: `Session.run_invariant`.
-/
import TwinQuery.Session

namespace TwinQuery

/-- What succeeds in two parts succeeds in each. -/
theorem exists_of_bind_eq_ok {ε α β : Type} {x : Except ε α} {f : α → Except ε β} {b : β}
    (h : x >>= f = .ok b) : ∃ a, x = .ok a ∧ f a = .ok b := by
  cases x with
  | error fault => cases h
  | ok a => exact ⟨a, rfl, h⟩

namespace Session

/-! ### What happens in a run -/

/-- What the session answers to an action. -/
def answer (w : Workspace) (s : Session) (a : Action) : Except Fault Answer :=
  (s.perform w a).map Prod.fst

/-- The document of an event that is an update. -/
def Event.update? : Event → Option Doc
  | .action (.setMapping entries) => some entries
  | _ => none

/-- The documents of the updates that are accepted in a run, in order. -/
def acceptedUpdates (w : Workspace) (s : Session) : List Event → List Doc
  | [] => []
  | event :: events =>
    (event.update?.filter fun entries => (s.answer w (.setMapping entries)).isOk).toList ++
      acceptedUpdates (s.step w event).1 (s.step w event).2.1 events

/-- What an action makes of the vocabulary and the mapping, if it is one that
asks for the vocabulary; the fault when its query or its languages are refused
before that. -/
def Action.request? : Action → Option (Except Fault (Vocabulary → TableMapping → Answer))
  | .convert query source target => some do
    let language ← sourceLanguage source target
    let t ← queryText query
    return fun v m => .conversion (TwinQuery.convertFrom v m language t)
  | .convertFrom source query => some do
    let t ← queryText query
    return fun v m => .conversion (TwinQuery.convertFrom v m source t)
  | .explain query language => some do
    let t ← queryText query
    let language ← Language.ofDoc language
    return fun v _ => .explanation (TwinQuery.explain v language t)
  | .vocabulary => some (.ok fun v _ => .vocabulary v)
  | _ => none

/-- Whether an action needs the vocabulary. -/
def Action.needsVocabulary (a : Action) : Bool := a.request?.any Except.isOk

/-- The workspaces in which a run needs the vocabulary. -/
def needed (w : Workspace) : List Event → List Workspace
  | [] => []
  | .change c :: events => needed (w.apply c) events
  | .action a :: events => if a.needsVocabulary then w :: needed w events else needed w events

/-- What a load of the vocabulary gives. -/
def load (w : Workspace) (referenceDir : Doc) : Except Fault Vocabulary := do
  Vocabulary.load w (← Path.ofDoc? referenceDir)

/-- The first load of a run that succeeds: the workspace in which it is made,
and the vocabulary. -/
def firstLoad (referenceDir : Doc) (w : Workspace) (events : List Event) :
    Option (Workspace × Vocabulary) :=
  (needed w events).findSome? fun w => (load w referenceDir).toOption.map (w, ·)

/-- The vocabulary that the session works with: the one it has, else what a
load gives. -/
def known (w : Workspace) (s : Session) : Except Fault Vocabulary :=
  match s.vocabulary with
  | some v => .ok v
  | none => load w s.referenceDir

/-! ### One event -/

theorem toOption_known (w : Workspace) (s : Session) :
    (s.known w).toOption = s.vocabulary.or (load w s.referenceDir).toOption := by
  unfold known
  cases s.vocabulary <;> rfl

/-- Loading gives the known vocabulary and keeps it. -/
theorem loadVocabulary_eq (w : Workspace) (s : Session) :
    s.loadVocabulary w = (s.known w).map fun v => (v, { s with vocabulary := some v }) := by
  obtain ⟨m, referenceDir, interval, vocabulary⟩ := s
  unfold loadVocabulary known load
  cases vocabulary with
  | some v => rfl
  | none =>
    cases Path.ofDoc? referenceDir with
    | error fault => rfl
    | ok directory =>
      simp only [bind, Except.bind]
      cases Vocabulary.load w directory <;> rfl

theorem convertFrom_eq (w : Workspace) (s : Session) (source : Language) (query : Doc) :
    s.convertFrom w source query = (queryText query).bind fun t => (s.known w).map fun v =>
      (TwinQuery.convertFrom v s.mapping source t, { s with vocabulary := some v }) := by
  unfold convertFrom
  rw [loadVocabulary_eq]
  cases queryText query with
  | error fault => rfl
  | ok t => cases s.known w <;> rfl

/-- **An action that asks for the vocabulary** is refused before, or gets the
known one, answers from it and keeps it. -/
theorem perform_of_request (w : Workspace) (s : Session) {a : Action}
    {request : Except Fault (Vocabulary → TableMapping → Answer)} (h : a.request? = some request) :
    s.perform w a = request.bind fun make => (s.known w).map fun v =>
      (make v s.mapping, { s with vocabulary := some v }) := by
  cases a with
  | convert query source target =>
    cases h
    simp only [perform, convert, convertFrom_eq]
    cases sourceLanguage source target with
    | error fault => rfl
    | ok language =>
      cases queryText query with
      | error fault => rfl
      | ok t => cases s.known w <;> rfl
  | convertFrom source query =>
    cases h
    simp only [perform, convertFrom_eq]
    cases queryText query with
    | error fault => rfl
    | ok t => cases s.known w <;> rfl
  | explain query language =>
    cases h
    simp only [perform, explain, loadVocabulary_eq]
    cases queryText query with
    | error fault => rfl
    | ok t =>
      cases Language.ofDoc language with
      | error fault => rfl
      | ok language => cases s.known w <;> rfl
  | vocabulary =>
    cases h
    simp only [perform, loadVocabulary_eq]
    cases s.known w <;> rfl
  | _ => cases h

/-- The session after an action is the one it gives, or as it was. -/
theorem session_step (w : Workspace) (s : Session) (a : Action) :
    (s.step w (.action a)).2.1 = ((s.perform w a).toOption.map Prod.snd).getD s := by
  rw [step]
  cases s.perform w a <;> rfl

theorem answer_step (w : Workspace) (s : Session) (a : Action) :
    (s.step w (.action a)).2.2 = some (s.answer w a) := by
  rw [step, answer]
  cases s.perform w a <;> rfl

theorem eq_setMapping_of_update? {a : Action} {d : Doc} (h : (Event.action a).update? = some d) :
    a = .setMapping d := by
  cases a with
  | setMapping entries => cases h; rfl
  | _ => cases h

theorem perform_setMapping (w : Workspace) (s : Session) (d : Doc) :
    s.perform w (.setMapping d) =
      (s.mapping.merge d).map fun m => (.mapping m, { s with mapping := m }) := by
  rw [perform, setMapping]
  cases s.mapping.merge d <;> rfl

/-- An action that is no update and does not ask for the vocabulary gives the
session that it was asked of. -/
theorem snd_perform_of_no_request (w : Workspace) (s : Session) {a : Action}
    (hrequest : a.request? = none) (hupdate : (Event.action a).update? = none)
    {r : Answer × Session} (h : s.perform w a = .ok r) : r.2 = s := by
  cases a with
  | mapping => cases h; rfl
  | resolve table =>
    obtain ⟨entry, -, h⟩ := exists_of_bind_eq_ok h
    cases h
    rfl
  | discover table =>
    obtain ⟨queries, -, h⟩ := exists_of_bind_eq_ok h
    cases h
    rfl
  | needsUpdate now =>
    obtain ⟨flag, -, h⟩ := exists_of_bind_eq_ok h
    cases h
    rfl
  | setMapping entries => cases hupdate
  | _ => cases hrequest

/-- **What an action does to the session.** An update that is accepted is
merged into the mapping, and an action that needs the vocabulary loads it when
it is unset. -/
theorem session_step_action (w : Workspace) (s : Session) (a : Action) :
    (s.step w (.action a)).2.1 =
      { s with
        mapping :=
          ((Event.action a).update?.bind fun d => (s.mapping.merge d).toOption).getD s.mapping
        vocabulary := s.vocabulary.or
          (if a.needsVocabulary then (load w s.referenceDir).toOption else none) } := by
  rw [session_step]
  cases hrequest : a.request? with
  | some request =>
    have hupdate : (Event.action a).update? = none := by
      cases a with
      | setMapping entries => cases hrequest
      | _ => rfl
    rw [perform_of_request w s hrequest, hupdate]
    cases request with
    | error fault =>
      simp [Action.needsVocabulary, hrequest, Except.isOk, Except.toBool, Except.bind,
        Except.toOption]
    | ok make =>
      have hknown := toOption_known w s
      simp only [Action.needsVocabulary, hrequest, Option.any_some, Except.isOk, Except.toBool,
        if_true, ← hknown]
      cases hv : s.known w with
      | ok v => rfl
      | error fault =>
        -- a load fails only when there is no vocabulary
        rw [hv] at hknown
        have hnone : s.vocabulary = (Except.error fault : Except Fault Vocabulary).toOption :=
          (Option.or_eq_none_iff.mp hknown.symm).1
        rw [← hnone]
        rfl
  | none =>
    have hneeds : a.needsVocabulary = false := by simp [Action.needsVocabulary, hrequest]
    cases hupdate : (Event.action a).update? with
    | none =>
      have hsame : ((s.perform w a).toOption.map Prod.snd).getD s = s := by
        cases hperform : s.perform w a with
        | error fault => rfl
        | ok r => exact snd_perform_of_no_request w s hrequest hupdate hperform
      simp [hsame, hneeds]
    | some d =>
      obtain rfl := eq_setMapping_of_update? hupdate
      rw [perform_setMapping]
      cases hmerge : s.mapping.merge d <;> simp [hneeds, hmerge, Except.toOption, Except.map]

theorem workspace_step_action (w : Workspace) (s : Session) (a : Action) :
    (s.step w (.action a)).1 = w := by
  rw [step]
  cases s.perform w a <;> rfl

theorem run_cons (w : Workspace) (s : Session) (event : Event) (events : List Event) :
    s.run w (event :: events) = (s.step w event).2.1.run (s.step w event).1 events := rfl

/-! ### The mapping after a run -/

theorem isOk_answer_setMapping (w : Workspace) (s : Session) (d : Doc) :
    (s.answer w (.setMapping d)).isOk = (s.mapping.merge d).isOk := by
  rw [answer, perform_setMapping]
  cases s.mapping.merge d <;> rfl

theorem foldlM_merge_step (w : Workspace) (s : Session) (event : Event) :
    (event.update?.filter fun d => (s.answer w (.setMapping d)).isOk).toList.foldlM
      TableMapping.merge s.mapping = .ok (s.step w event).2.1.mapping := by
  cases event with
  | change c => rfl
  | action a =>
    rw [session_step_action]
    cases (Event.action a).update? with
    | none => rfl
    | some d =>
      rw [Option.filter_some, isOk_answer_setMapping, Option.bind_some]
      cases hmerge : s.mapping.merge d with
      | error fault => rfl
      | ok m =>
        have hone : [d].foldlM TableMapping.merge s.mapping = s.mapping.merge d := by simp
        exact hone.trans hmerge

/-- **The mapping after a run** is the first one with the accepted updates
merged in order. -/
theorem foldlM_merge_run (w : Workspace) (s : Session) (events : List Event) :
    (s.acceptedUpdates w events).foldlM TableMapping.merge s.mapping =
      .ok (s.run w events).2.mapping := by
  induction events generalizing w s with
  | nil => rfl
  | cons event events ih =>
    rw [acceptedUpdates, List.foldlM_append, foldlM_merge_step, run_cons, ← ih]
    rfl

theorem version_merge {m merged : TableMapping} {d : Doc} (h : m.merge d = .ok merged) :
    merged.version = m.version + 1 := by
  obtain ⟨entries, -, h⟩ := exists_of_bind_eq_ok h
  cases h
  rfl

theorem version_foldlM_merge {m merged : TableMapping} {docs : List Doc}
    (h : docs.foldlM TableMapping.merge m = .ok merged) :
    merged.version = m.version + docs.length := by
  induction docs generalizing m with
  | nil => cases h; simp
  | cons d docs ih =>
    rw [List.foldlM_cons] at h
    obtain ⟨next, hnext, hrest⟩ := exists_of_bind_eq_ok h
    rw [ih hrest, version_merge hnext, List.length_cons]
    omega

/-! ### The vocabulary after a run -/

theorem firstLoad_action (referenceDir : Doc) (w : Workspace) (a : Action) (events : List Event) :
    firstLoad referenceDir w (.action a :: events) =
      (if a.needsVocabulary then (load w referenceDir).toOption.map (w, ·) else none).or
        (firstLoad referenceDir w events) := by
  unfold firstLoad
  rw [needed]
  cases a.needsVocabulary with
  | true =>
    rw [if_pos rfl, if_pos rfl, List.findSome?_cons]
    cases (load w referenceDir).toOption <;> rfl
  | false => rfl

/-- **The vocabulary after a run** is the one that was there, else that of the
first load that succeeds. -/
theorem vocabulary_run (w : Workspace) (s : Session) (events : List Event) :
    (s.run w events).2.vocabulary =
      s.vocabulary.or ((firstLoad s.referenceDir w events).map Prod.snd) := by
  induction events generalizing w s with
  | nil => simp [run, firstLoad, needed]
  | cons event events ih =>
    rw [run_cons, ih]
    cases event with
    | change c => rfl
    | action a =>
      rw [workspace_step_action, session_step_action, firstLoad_action, Option.map_or,
        Option.or_assoc]
      cases a.needsVocabulary with
      | true => simp [Function.comp_def]
      | false => rfl

theorem interval_run (w : Workspace) (s : Session) (events : List Event) :
    (s.run w events).2.interval = s.interval := by
  induction events generalizing w s with
  | nil => rfl
  | cons event events ih =>
    rw [run_cons, ih]
    cases event with
    | change c => rfl
    | action a => rw [session_step_action]

/-- A vocabulary has the time of the workspace in which it was loaded. -/
theorem loadedAt_load {w : Workspace} {referenceDir : Doc} {v : Vocabulary}
    (h : load w referenceDir = .ok v) : v.loadedAt = w.clock := by
  obtain ⟨directory, -, h⟩ := exists_of_bind_eq_ok h
  cases directory with
  | none => cases h; rfl
  | some directory =>
    obtain ⟨spl, -, h⟩ := exists_of_bind_eq_ok h
    obtain ⟨kql, -, h⟩ := exists_of_bind_eq_ok h
    cases h
    rfl

theorem loadedAt_firstLoad {referenceDir : Doc} {w origin : Workspace} {v : Vocabulary}
    {events : List Event} (h : firstLoad referenceDir w events = some (origin, v)) :
    v.loadedAt = origin.clock := by
  obtain ⟨other, -, hload⟩ := List.exists_of_findSome?_eq_some h
  obtain ⟨loaded, hloaded, heq⟩ := Option.map_eq_some_iff.mp hload
  cases heq
  cases hresult : load origin referenceDir with
  | error fault => rw [hresult] at hloaded; cases hloaded
  | ok loaded =>
    rw [hresult] at hloaded
    cases hloaded
    exact loadedAt_load hresult

/-! ### What the answers depend on -/

/-- Whether an action reads the mapping. -/
def Action.readsMapping : Action → Bool
  | .convert _ source target => (sourceLanguage source target).toOption == some .kql
  | .convertFrom source _ => source == .kql
  | .setMapping _ | .mapping | .resolve _ => true
  | _ => false

theorem request_congr {a : Action} {make : Vocabulary → TableMapping → Answer}
    (h : a.request? = some (.ok make)) {m₁ m₂ : TableMapping} (hm : a.readsMapping → m₁ = m₂)
    (v : Vocabulary) : make v m₁ = make v m₂ := by
  cases a with
  | convert query source target =>
    obtain ⟨language, hlanguage, h⟩ := exists_of_bind_eq_ok (Option.some.inj h)
    obtain ⟨t, -, h⟩ := exists_of_bind_eq_ok h
    cases h
    cases language with
    | spl => rfl
    | kql => rw [hm (by simp [Action.readsMapping, hlanguage, Except.toOption])]
  | convertFrom source query =>
    obtain ⟨t, -, h⟩ := exists_of_bind_eq_ok (Option.some.inj h)
    cases h
    cases source with
    | spl => rfl
    | kql => rw [hm rfl]
  | explain query language =>
    obtain ⟨t, -, h⟩ := exists_of_bind_eq_ok (Option.some.inj h)
    obtain ⟨language, -, h⟩ := exists_of_bind_eq_ok h
    cases h
    rfl
  | vocabulary => cases h; rfl
  | _ => cases h

/-- **What an answer depends on**: the vocabulary that the session works with,
and the mapping if the action reads it. -/
theorem answer_congr {w₁ w₂ : Workspace} {s₁ s₂ : Session} {a : Action}
    (hknown : s₁.known w₁ = s₂.known w₂) (hm : a.readsMapping → s₁.mapping = s₂.mapping)
    (hnow : ∀ now, a ≠ .needsUpdate now) : s₁.answer w₁ a = s₂.answer w₂ a := by
  unfold answer
  cases hrequest : a.request? with
  | some request =>
    rw [perform_of_request w₁ s₁ hrequest, perform_of_request w₂ s₂ hrequest, hknown]
    cases request with
    | error fault => rfl
    | ok make =>
      cases s₂.known w₂ with
      | error fault => rfl
      | ok v => exact congrArg Except.ok (request_congr hrequest hm v)
  | none =>
    cases a with
    | setMapping entries =>
      rw [perform_setMapping, perform_setMapping, hm rfl]
      cases s₂.mapping.merge entries <;> rfl
    | mapping =>
      rw [perform, perform, hm rfl]
      rfl
    | resolve table =>
      rw [perform, perform, hm rfl]
      cases s₂.mapping.resolveDoc table <;> rfl
    | discover table =>
      rw [perform, perform]
      cases discoveryQueries table <;> rfl
    | needsUpdate now => exact absurd rfl (hnow now)
    | _ => cases hrequest

/-- The answer to a request that is not refused. -/
theorem answer_of_request {w : Workspace} {s : Session} {a : Action}
    {make : Vocabulary → TableMapping → Answer} (h : a.request? = some (.ok make)) {v : Vocabulary}
    (hv : s.known w = .ok v) : s.answer w a = .ok (make v s.mapping) := by
  rw [answer, perform_of_request w s h, hv]
  rfl

theorem answer_convertFrom {w : Workspace} {s : Session} {v : Vocabulary} (hv : s.known w = .ok v)
    (source : Language) (query : Text) : s.answer w (.convertFrom source (.text query)) =
      .ok (.conversion (TwinQuery.convertFrom v s.mapping source query)) :=
  answer_of_request (a := .convertFrom source (.text query)) rfl hv

theorem answer_explain {w : Workspace} {s : Session} {v : Vocabulary} (hv : s.known w = .ok v)
    (query : Text) {d : Doc} {language : Language} (hd : Language.ofDoc d = .ok language) :
    s.answer w (.explain (.text query) d) =
      .ok (.explanation (TwinQuery.explain v language query)) := by
  have hrequest : (Action.explain (.text query) d).request? =
      some (.ok fun v _ => .explanation (TwinQuery.explain v language query)) := by
    rw [Action.request?, hd]
    rfl
  exact answer_of_request hrequest hv

/-- An action that does not read the mapping is answered alike with another. -/
theorem answer_withMapping (w : Workspace) (s : Session) (m : TableMapping) {a : Action}
    (h : a.readsMapping = false) : { s with mapping := m }.answer w a = s.answer w a := by
  by_cases hnow : ∃ now, a = .needsUpdate now
  · obtain ⟨now, rfl⟩ := hnow
    have hflag (t : Stamp) : { s with mapping := m }.needsUpdate t = s.needsUpdate t := rfl
    rw [answer, answer, perform, perform, hflag]
    cases s.needsUpdate (now.getD w.clock) <;> rfl
  · exact answer_congr rfl (fun hreads => by rw [h] at hreads; cases hreads)
      fun now heq => hnow ⟨now, heq⟩

/-- **A run without its updates**, from any mapping, differs in the mapping
only. -/
theorem run_withoutUpdates (w : Workspace) (s : Session) (m : TableMapping) (events : List Event) :
    { s with mapping := m }.run w (events.filter fun event => event.update?.isNone) =
      ((s.run w events).1, { (s.run w events).2 with mapping := m }) := by
  induction events generalizing w s with
  | nil => rfl
  | cons event events ih =>
    rw [run_cons, ← ih]
    cases event with
    | change c => rfl
    | action a =>
      rw [workspace_step_action, session_step_action]
      cases hupdate : (Event.action a).update? with
      | none =>
        rw [List.filter_cons_of_pos (by rw [hupdate]; rfl), run_cons, workspace_step_action,
          session_step_action, hupdate]
        rfl
      | some d =>
        -- an update needs no vocabulary, so it changes nothing but the mapping
        have hneeds : a.needsVocabulary = false := by rw [eq_setMapping_of_update? hupdate]; rfl
        rw [List.filter_cons_of_neg (by simp [hupdate]), hneeds]
        simp

/-! ### Any run -/

/-- What holds after a run of events from the workspace `w` and the session
`s`, which lead to `w'` and `s'`. -/
structure RunInvariant (w : Workspace) (s : Session) (events : List Event) (w' : Workspace)
    (s' : Session) : Prop where
  /-- The mapping is the first one with the accepted updates merged in order. -/
  mapping : (s.acceptedUpdates w events).foldlM TableMapping.merge s.mapping = .ok s'.mapping
  /-- The version counts the accepted updates. -/
  version : s'.mapping.version = s.mapping.version + (s.acceptedUpdates w events).length
  /-- The mapping has a default. -/
  hasDefault : s'.mapping.contains (.text defaultName) = .ok true
  /-- Whatever fails leaves the session as it is. -/
  failed : ∀ a fault, (s'.step w' (.action a)).2.2 = some (.error fault) →
    (s'.step w' (.action a)).2.1 = s'
  /-- The vocabulary is that of the first load that succeeds. -/
  vocabulary : s'.vocabulary = (firstLoad s.referenceDir w events).map Prod.snd
  /-- Once it is there the vocabulary stays, whatever becomes of the workspace. -/
  kept : ∀ v, s'.vocabulary = some v → ∀ w₂ more, (s'.run w₂ more).2.vocabulary = some v
  /-- An update is needed when there is no vocabulary, or when more time than
  the interval has passed since it was loaded. -/
  needsUpdate : ∀ now : Stamp, now.offset.isSome → ∃ flag, s'.needsUpdate now = .ok flag ∧
    (flag = true ↔ s'.vocabulary = none ∨ ∃ origin v,
      firstLoad s.referenceDir w events = some (origin, v) ∧
        s.interval < now.instant - origin.clock.instant)
  /-- A query in SPL is converted from the vocabulary alone, one in KQL from the
  vocabulary and the mapping, and a query is explained from the vocabulary
  alone. -/
  results : ∀ v, s'.known w' = .ok v → ∀ query : Text,
    s'.answer w' (.convertFrom .spl (.text query)) = .ok (.conversion (convertSpl v query)) ∧
    s'.answer w' (.convertFrom .kql (.text query)) =
      .ok (.conversion (convertKql v s'.mapping query)) ∧
    ∀ d language, Language.ofDoc d = .ok language →
      s'.answer w' (.explain (.text query) d) =
        .ok (.explanation (TwinQuery.explain v language query))
  /-- Any two sessions that work with the same vocabulary answer alike, if they
  have the same mapping or the action does not read it. -/
  answers : ∀ (w₂ : Workspace) (s₂ : Session), s₂.known w₂ = s'.known w' →
    ∀ a, (a.readsMapping → s₂.mapping = s'.mapping) →
    (∀ now, a ≠ .needsUpdate now) → s₂.answer w₂ a = s'.answer w' a
  /-- What does not read the mapping is answered as after the run without its
  updates, from any other mapping. -/
  withoutUpdates : ∀ m a, a.readsMapping = false →
    let other := { s with mapping := m }.run w (events.filter fun event => event.update?.isNone)
    other.2.answer other.1 a = s'.answer w' a

theorem session_step_of_error {w : Workspace} {s : Session} {a : Action} {fault : Fault}
    (h : (s.step w (.action a)).2.2 = some (.error fault)) : (s.step w (.action a)).2.1 = s := by
  rw [answer_step, Option.some.injEq, answer] at h
  rw [session_step]
  cases hperform : s.perform w a with
  | error other => rfl
  | ok r => rw [hperform] at h; cases h

theorem needsUpdate_run (w : Workspace) (s : Session) (hunset : s.vocabulary = none)
    (events : List Event) (now : Stamp) (hnow : now.offset.isSome) :
    (s.run w events).2.needsUpdate now = .ok ((firstLoad s.referenceDir w events).elim true
      fun first => decide (s.interval < now.instant - first.1.clock.instant)) := by
  have hvocabulary := vocabulary_run w s events
  rw [hunset, Option.none_or] at hvocabulary
  unfold needsUpdate
  rw [hvocabulary, interval_run]
  cases hfirst : firstLoad s.referenceDir w events with
  | none => rfl
  | some first =>
    have htime : first.2.loadedAt = first.1.clock := loadedAt_firstLoad hfirst
    simp [htime, Option.ne_none_iff_isSome.mpr hnow]

/-- **What holds after any run** of a session that starts without a
vocabulary, whatever its actions are asked and however its workspace is
changed. -/
theorem run_invariant (w : Workspace) (s : Session) (hunset : s.vocabulary = none)
    (events : List Event) :
    RunInvariant w s events (s.run w events).1 (s.run w events).2 where
  mapping := foldlM_merge_run w s events
  version := version_foldlM_merge (foldlM_merge_run w s events)
  hasDefault := congrArg Except.ok (s.run w events).2.mapping.hasDefault
  failed _ _ h := session_step_of_error h
  vocabulary := by rw [vocabulary_run, hunset, Option.none_or]
  kept v hv w₂ more := by rw [vocabulary_run, hv, Option.some_or]
  needsUpdate now hnow := by
    refine ⟨_, needsUpdate_run w s hunset events now hnow, ?_⟩
    rw [vocabulary_run, hunset, Option.none_or]
    cases firstLoad s.referenceDir w events with
    | none => simp
    | some first =>
      obtain ⟨origin, v⟩ := first
      simp
  results _ hv query := ⟨answer_convertFrom hv .spl query, answer_convertFrom hv .kql query,
    fun _ _ hd => answer_explain hv query hd⟩
  answers _ _ hknown _ hm hnow := answer_congr hknown hm hnow
  withoutUpdates m a ha := by
    rw [run_withoutUpdates]
    exact answer_withMapping _ _ m ha

/-- A session with the bundled vocabulary, which is stale after a second. -/
def sampleSession : Session := ⟨.defaults, .null, 1000000, none⟩

/-- A query that is refused before the vocabulary is loaded, an update that is
refused, a change of the clock, the load, another change and an update. -/
def sampleEvents : List Event :=
  [.action (.explain .null (.text "spl")), .action (.setMapping (.text "Logins")),
    .change (.setClock ⟨5000000, some 0⟩), .action .vocabulary,
    .change (.setClock ⟨7000000, some 0⟩),
    .action (.setMapping (.record [("Logins", .record [("index", .text "auth")])]))]

/-- The second update is in the mapping, and the vocabulary has the time of the
first change. -/
theorem run_invariant_sample :
    let after := sampleSession.run ⟨[], ⟨0, some 0⟩⟩ sampleEvents
    sampleSession.vocabulary = none ∧ after.2.mapping.version = 2 ∧
      after.2.vocabulary = some (.bundled ⟨5000000, some 0⟩) ∧
      ∃ flag, after.2.needsUpdate ⟨6500000, some 0⟩ = .ok flag ∧ flag = true := by
  have h := run_invariant ⟨[], ⟨0, some 0⟩⟩ sampleSession rfl sampleEvents
  obtain ⟨flag, hflag, hiff⟩ := h.needsUpdate ⟨6500000, some 0⟩ rfl
  refine ⟨rfl, h.version.trans rfl, h.vocabulary.trans rfl, flag, hflag, hiff.mpr (Or.inr ?_)⟩
  exact ⟨⟨[], ⟨5000000, some 0⟩⟩, .bundled ⟨5000000, some 0⟩, rfl, by decide⟩

end Session

end TwinQuery
