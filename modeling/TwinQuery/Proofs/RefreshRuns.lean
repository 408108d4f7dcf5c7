/-
# Runs of a tracker

A tracker that can write its state file, and whose file nobody else writes,
records refreshes and loses nothing (`Tracker.loadState_run`): the state that
is loaded after a run is the state before it with the time of each refresh put
in (`Tracker.follows_run`).

Every state that a tracker loads is the default state with something put into
it (`Tracker.IsState`). Such a state has a JSON notation and is read back from
it, and putting it into the default state again changes nothing; so a state
that was saved is loaded (`Tracker.exists_save`). One step of a run either
leaves the state alone or saves it with its refreshes put in
(`Tracker.follows_step`).

Key definitions: `Tracker.CanSave`, `Tracker.IsState`, `Tracker.refreshes`,
`Tracker.Follows`.
Key theorems: `Tracker.exists_save`, `Tracker.exists_record`,
`Tracker.follows_step`, `Tracker.follows_run`, `Tracker.loadState_run`.
-/
import TwinQuery.Proofs.JsonRoundTrip
import TwinQuery.Proofs.Storage
import TwinQuery.Refresh

namespace TwinQuery

/-! ### The texts of times -/

@[simp] theorem Text.isEncodable_padLeft_ofNat (width n : Nat) :
    (Text.padLeft '0' width (Text.ofNat n)).isEncodable = true := by
  simp [Text.padLeft, Text.ofNat, Text.isEncodable, CodePoint.isHalf]

theorem Stamp.isEncodable_display (s : Stamp) : s.display.isEncodable := by
  have htwo : ∀ n, (twoDigits n).isEncodable := Text.isEncodable_padLeft_ofNat 2
  have hfraction : ∀ micros, (fraction micros).isEncodable := by
    intro micros
    unfold fraction
    split <;> simp
  have hdate : s.date.display.isEncodable := by simp [Date.display]
  have hoffset : ∀ offset, (displayOffset offset).isEncodable := by
    intro offset
    simp only [displayOffset, Text.isEncodable_append, Text.isEncodable_ofString, htwo,
      Bool.and_true]
    split <;> split <;> simp [htwo, hfraction]
  cases hoff : s.offset with
  | none => simp [display, displayWith, hdate, htwo, hfraction, hoff]
  | some offset => simp [display, displayWith, hdate, htwo, hfraction, hoff, hoffset]

namespace Tracker

open Workspace

/-! ### States -/

/-- A state that a tracker can load: the default state with something put into
it, all of it with a JSON notation. -/
structure IsState (state : RefreshState) : Prop where
  overlay : ∃ updates, state = Fields.putAll updates defaultState
  isJson : Doc.IsJson Text.Unpaired Json.deepestLevel (.object state)

theorem distinct_defaultState : Fields.Distinct defaultState := by
  unfold Fields.Distinct
  decide +kernel

theorem isJson_sources (depth : Nat) (reference : Language) :
    Doc.IsJson Text.Unpaired (depth + 1) (.texts reference.sources) := by
  have hsources : ∀ t ∈ reference.sources, t.isEncodable := by
    cases reference <;> decide
  refine .list fun item hitem => ?_
  obtain ⟨t, ht, rfl⟩ := List.mem_map.mp hitem
  exact .text (Text.unpaired_of_isEncodable (hsources t ht))

theorem isJson_defaultState :
    Doc.IsJson Text.Unpaired Json.deepestLevel (.object defaultState) := by
  have hvalues : ∀ field ∈ defaultState, Doc.IsJson Text.Unpaired 984 field.2 := by
    simp only [defaultState, List.forall_mem_cons]
    exact ⟨.null, .null, isJson_sources 983 .spl, isJson_sources 983 .kql, .bool true, by simp⟩
  have hkeys : ∀ field ∈ defaultState, ∃ name, field.1 = .text name ∧ name.Unpaired := by
    simp only [defaultState, List.forall_mem_cons]
    exact ⟨⟨_, rfl, Text.unpaired_of_isEncodable rfl⟩, ⟨_, rfl, Text.unpaired_of_isEncodable rfl⟩,
      ⟨_, rfl, Text.unpaired_of_isEncodable rfl⟩, ⟨_, rfl, Text.unpaired_of_isEncodable rfl⟩,
      ⟨_, rfl, Text.unpaired_of_isEncodable rfl⟩, by simp⟩
  exact .object hkeys distinct_defaultState hvalues

/-- A state is laid over the default state to no effect. -/
theorem IsState.putAll_default {state : RefreshState} (h : IsState state) :
    Fields.putAll state defaultState = state := by
  obtain ⟨updates, rfl⟩ := h.overlay
  rw [Fields.putAll_putAll updates distinct_defaultState, Fields.putAll_self distinct_defaultState]

theorem isJson_putAll {depth : Nat} {updates fields : List (Scalar × Doc)}
    (hupdates : Doc.IsJson Text.Unpaired depth (.object updates))
    (hfields : Doc.IsJson Text.Unpaired depth (.object fields)) :
    Doc.IsJson Text.Unpaired depth (.object (Fields.putAll updates fields)) := by
  cases hupdates with
  | object keys _ values =>
    cases hfields with
    | object keys' distinct' values' =>
      have hkeys : ∀ field ∈ Fields.putAll updates fields,
          ∃ name, field.1 = .text name ∧ name.Unpaired :=
        Fields.forall_key_putAll (P := fun key => ∃ t, key = .text t ∧ t.Unpaired) keys keys'
      exact .object hkeys (Fields.distinct_putAll updates distinct')
        (Fields.forall_mem_putAll values values')

theorem IsState.putAll {updates state : RefreshState} (h : IsState state)
    (hupdates : Doc.IsJson Text.Unpaired Json.deepestLevel (.object updates)) :
    IsState (Fields.putAll updates state) := by
  obtain ⟨before, hbefore⟩ := h.overlay
  refine ⟨⟨before ++ updates, ?_⟩, isJson_putAll hupdates h.isJson⟩
  rw [Fields.putAll_append, ← hbefore]

theorem isState_defaultState : IsState defaultState := ⟨⟨[], rfl⟩, isJson_defaultState⟩

theorem isJson_storedState {w : Workspace} {p : Path} {stored : RefreshState}
    (h : storedState w p = .ok stored) :
    Doc.IsJson Text.Unpaired Json.deepestLevel (.object stored) := by
  have hnone : Doc.IsJson Text.Unpaired Json.deepestLevel (.object []) := (Json.isJson_nil _ 984).2
  unfold storedState at h
  split at h
  · rename_i d hread
    cases h
    cases d with
    | object fields => exact isJson_readJson hread
    | _ => exact hnone
  · split at h
    · cases h
      exact hnone
    · cases h

theorem isState_of_loadState {w : Workspace} {r : Tracker} {state : RefreshState}
    (h : r.loadState w = .ok state) : IsState state := by
  obtain ⟨found, -, h⟩ := exists_of_bind_eq_ok h
  split at h
  · obtain ⟨stored, hstored, h⟩ := exists_of_bind_eq_ok h
    cases h
    exact isState_defaultState.putAll (isJson_storedState hstored)
  · cases h
    exact isState_defaultState

/-- The state is loaded from a file that holds it. -/
theorem loadState_put {w : Workspace} {r : Tracker} {place : List Text} {state : RefreshState}
    (hholds : w.HoldsFile r.statePath place) (hstate : IsState state) :
    r.loadState
      (w.put place (.file (.text (Json.write Json.indented (.object state))))) = .ok state := by
  obtain ⟨hencodable, hplain⟩ := Json.isPlain_write_indented hstate.isJson
  have hjson : (w.put place (.file (.text (Json.write Json.indented (.object state))))).readJson
      r.statePath = .ok (.object state) := by
    rw [readJson, hholds.readText_put_of_plain hencodable hplain]
    show (Json.read (Json.write Json.indented (.object state))).mapError _ = _
    rw [Json.read_write Json.indented hstate.isJson]
    rfl
  have hstored : storedState
      (w.put place (.file (.text (Json.write Json.indented (.object state))))) r.statePath =
        .ok state := by
    rw [storedState, hjson]
    rfl
  rw [loadState, hholds.pathExists_put]
  show (do return Fields.putAll (← storedState _ _) defaultState) = _
  rw [hstored]
  exact congrArg Except.ok hstate.putAll_default

/-! ### Saving -/

/-- The state file can be written. -/
def CanSave (w : Workspace) (r : Tracker) : Prop := ∃ w', r.saveState w defaultState = .ok w'

theorem saveState_eq_ok_iff {w w' : Workspace} {r : Tracker} {state : RefreshState} :
    r.saveState w state = .ok w' ↔
      ∃ made place, w.makeDirectories r.statePath.parent = .ok made ∧
        made.HoldsFile r.statePath place ∧
        w' = made.put place (.file (.text (Json.write Json.indented (.object state)))) := by
  constructor
  · intro h
    obtain ⟨made, hmade, h⟩ := exists_of_bind_eq_ok h
    obtain ⟨place, hholds, rfl⟩ := writeText_eq_ok_iff.mp h
    exact ⟨made, place, hmade, hholds, rfl⟩
  · rintro ⟨made, place, hmade, hholds, rfl⟩
    rw [saveState, hmade]
    exact writeText_eq_ok_iff.mpr ⟨place, hholds, rfl⟩

theorem canSave_iff {w : Workspace} {r : Tracker} :
    r.CanSave w ↔ ∃ made place, w.makeDirectories r.statePath.parent = .ok made ∧
      made.HoldsFile r.statePath place := by
  constructor
  · rintro ⟨w', h⟩
    obtain ⟨made, place, hmade, hholds, -⟩ := saveState_eq_ok_iff.mp h
    exact ⟨made, place, hmade, hholds⟩
  · rintro ⟨made, place, hmade, hholds⟩
    exact ⟨_, saveState_eq_ok_iff.mpr ⟨made, place, hmade, hholds, rfl⟩⟩

theorem CanSave.withClock {w : Workspace} {r : Tracker} (h : r.CanSave w) (now : Stamp) :
    r.CanSave (w.withClock now) := by
  obtain ⟨made, place, hmade, hholds⟩ := canSave_iff.mp h
  refine canSave_iff.mpr ⟨made.withClock now, place, ?_, hholds.withClock now⟩
  rw [makeDirectories_withClock, hmade]
  rfl

/-- **A state that is saved is loaded**, and can be saved again. -/
theorem exists_save {w : Workspace} {r : Tracker} {state : RefreshState} (h : r.CanSave w)
    (hstate : IsState state) :
    ∃ w', r.saveState w state = .ok w' ∧ r.CanSave w' ∧ r.loadState w' = .ok state := by
  obtain ⟨made, place, hmade, hholds⟩ := canSave_iff.mp h
  have hafter := hholds.put (.text (Json.write Json.indented (.object state)))
  refine ⟨_, saveState_eq_ok_iff.mpr ⟨made, place, hmade, hholds, rfl⟩, ?_, ?_⟩
  · exact canSave_iff.mpr ⟨_, place, hafter.makeDirectories_eq, hafter⟩
  · exact loadState_put hholds hstate

/-- What a refresh puts into the state. -/
def refreshRow (refresh : Language × Stamp) : Scalar × Doc :=
  (.text refresh.1.refreshKey, .text refresh.2.display)

theorem isJson_refreshRow (refresh : Language × Stamp) :
    Doc.IsJson Text.Unpaired Json.deepestLevel (.object [refreshRow refresh]) := by
  obtain ⟨reference, now⟩ := refresh
  have hkey : Text.Unpaired reference.refreshKey :=
    Text.unpaired_of_isEncodable (by cases reference <;> rfl)
  have hvalue : Doc.IsJson Text.Unpaired 984 (.text now.display) :=
    .text (Text.unpaired_of_isEncodable now.isEncodable_display)
  refine .object ?_ (List.pairwise_singleton _ _) ?_
  · rw [List.forall_mem_singleton]
    exact ⟨_, rfl, hkey⟩
  · rw [List.forall_mem_singleton]
    exact hvalue

/-- **A refresh is recorded**: the state that is loaded afterwards has the time
of the refresh, and is otherwise the one that was loaded before. -/
theorem exists_record {w : Workspace} {r : Tracker} {state : RefreshState} (h : r.CanSave w)
    (hload : r.loadState w = .ok state) (reference : Language) :
    ∃ w', r.record w reference = .ok w' ∧ r.CanSave w' ∧
      r.loadState w' = .ok (Fields.putAll [refreshRow (reference, w.clock)] state) := by
  have hstate := (isState_of_loadState hload).putAll (isJson_refreshRow (reference, w.clock))
  obtain ⟨w', hsave, hafter⟩ := exists_save h hstate
  refine ⟨w', ?_, hafter⟩
  rw [record, hload]
  exact hsave

/-! ### Time -/

section Clock

variable {w w' : Workspace} {r : Tracker}

theorem clock_saveState {state : RefreshState} (h : r.saveState w state = .ok w') :
    w'.clock = w.clock := by
  obtain ⟨made, place, hmade, -, rfl⟩ := saveState_eq_ok_iff.mp h
  show made.clock = w.clock
  exact clock_makeDirectories hmade

theorem clock_record {reference : Language} (h : r.record w reference = .ok w') :
    w'.clock = w.clock := by
  obtain ⟨state, -, h⟩ := exists_of_bind_eq_ok h
  exact clock_saveState h

theorem clock_refresh {reference : Language} {d : Doc} (h : r.refresh w reference = .ok (d, w')) :
    w'.clock = w.clock := by
  obtain ⟨after, hrecord, h⟩ := exists_of_bind_eq_ok h
  cases h
  exact clock_record hrecord

/-- No action changes the time. -/
theorem clock_perform {a : Action} {answer : Answer} (h : r.perform w a = .ok (answer, w')) :
    w'.clock = w.clock := by
  cases a with
  | loadState =>
    obtain ⟨state, -, h⟩ := exists_of_bind_eq_ok h
    cases h
    rfl
  | saveState state =>
    obtain ⟨after, hsave, h⟩ := exists_of_bind_eq_ok h
    cases h
    exact clock_saveState hsave
  | needsRefresh last now =>
    obtain ⟨flag, -, h⟩ := exists_of_bind_eq_ok h
    cases h
    rfl
  | refresh reference =>
    obtain ⟨⟨d, after⟩, hrefresh, h⟩ := exists_of_bind_eq_ok h
    cases h
    exact clock_refresh hrefresh
  | refreshAll =>
    obtain ⟨⟨d, after⟩, hall, h⟩ := exists_of_bind_eq_ok h
    cases h
    obtain ⟨⟨kql, first⟩, hkql, hall⟩ := exists_of_bind_eq_ok hall
    obtain ⟨⟨splunk, second⟩, hsplunk, hall⟩ := exists_of_bind_eq_ok hall
    cases hall
    exact (clock_refresh hsplunk).trans (clock_refresh hkql)
  | status =>
    obtain ⟨d, -, h⟩ := exists_of_bind_eq_ok h
    cases h
    rfl

end Clock

/-! ### Events -/

/-- The references that an event refreshes, in order. -/
def Event.refreshed : Event → List Language
  | .action (.refresh reference) => [reference]
  | .action .refreshAll => [.kql, .spl]
  | _ => []

/-- The time after an event. -/
def Event.clockAfter (clock : Stamp) : Event → Stamp
  | .change (.setClock now) => now
  | _ => clock

/-- Whether an event leaves the files to the refreshes: nothing else writes the
state or changes the workspace, apart from its time. -/
def Event.isTracked : Event → Bool
  | .action (.saveState _) => false
  | .change (.put _ _) => false
  | .change (.remove _) => false
  | _ => true

/-- The refreshes of a run that starts at the given time, in order, each with
its time. -/
def refreshes : (clock : Stamp) → List Event → List (Language × Stamp)
  | _, [] => []
  | clock, event :: events =>
    event.refreshed.map (·, clock) ++ refreshes (event.clockAfter clock) events

/-- One workspace follows another by refreshes: the state can be saved in it, and
what is loaded is what was loaded before with the refreshes put in. -/
structure Follows (w : Workspace) (r : Tracker) (w' : Workspace)
    (done : List (Language × Stamp)) : Prop where
  canSave : r.CanSave w'
  loadState : r.loadState w' = (r.loadState w).map (Fields.putAll (done.map refreshRow))

theorem clock_step (w : Workspace) (r : Tracker) {event : Event} (hevent : event.isTracked) :
    (r.step w event).1.clock = event.clockAfter w.clock := by
  cases event with
  | change c =>
    cases c with
    | setClock now => rfl
    | _ => cases hevent
  | action a =>
    rw [step]
    split
    · rename_i hperform
      exact clock_perform hperform
    · rfl

/-- Whether an action only reads. -/
def Action.isReading : Action → Bool
  | .loadState => true
  | .needsRefresh _ _ => true
  | .status => true
  | _ => false

theorem step_of_isReading (w : Workspace) (r : Tracker) {a : Action} (h : a.isReading) :
    (r.step w (.action a)).1 = w := by
  rw [step]
  cases a with
  | loadState =>
    rw [perform]
    cases r.loadState w <;> rfl
  | needsRefresh last now =>
    rw [perform]
    cases r.needsRefresh last (now.getD w.clock) <;> rfl
  | status =>
    rw [perform]
    cases r.status w <;> rfl
  | _ => cases h

section Follows

variable {w w' w'' : Workspace} {r : Tracker} {done more : List (Language × Stamp)}

theorem follows_refl (h : r.CanSave w) : r.Follows w w [] := by
  refine ⟨h, ?_⟩
  cases r.loadState w <;> rfl

theorem Follows.trans (h : r.Follows w w' done) (h' : r.Follows w' w'' more) :
    r.Follows w w'' (done ++ more) := by
  refine ⟨h'.canSave, ?_⟩
  rw [h'.loadState, h.loadState, List.map_append]
  cases r.loadState w with
  | error fault => rfl
  | ok state => exact congrArg Except.ok (Fields.putAll_append _ _ state).symm

/-- What cannot be loaded stays so. -/
theorem follows_of_error (h : r.CanSave w) {fault : Fault} (hload : r.loadState w = .error fault)
    (done : List (Language × Stamp)) : r.Follows w w done := by
  refine ⟨h, ?_⟩
  rw [hload]
  rfl

theorem loadState_withClock (w : Workspace) (r : Tracker) (now : Stamp) :
    r.loadState (w.withClock now) = r.loadState w := by
  unfold loadState storedState
  rw [pathExists_withClock, readJson_withClock]

theorem follows_withClock (h : r.CanSave w) (now : Stamp) : r.Follows w (w.withClock now) [] := by
  refine ⟨h.withClock now, ?_⟩
  rw [loadState_withClock]
  exact (follows_refl h).loadState

theorem record_of_error {fault : Fault} (hload : r.loadState w = .error fault)
    (reference : Language) : r.record w reference = .error fault := by
  rw [record, hload]
  rfl

theorem follows_refresh (h : r.CanSave w) (reference : Language) :
    r.Follows w (r.step w (.action (.refresh reference))).1 [(reference, w.clock)] := by
  cases hload : r.loadState w with
  | error fault =>
    have hstep : (r.step w (.action (.refresh reference))).1 = w := by
      rw [step, perform, refresh, record_of_error hload]
      rfl
    rw [hstep]
    exact follows_of_error h hload _
  | ok state =>
    obtain ⟨w', hrecord, hsave, hafter⟩ := exists_record h hload reference
    have hstep : (r.step w (.action (.refresh reference))).1 = w' := by
      rw [step, perform, refresh, hrecord]
      rfl
    rw [hstep]
    refine ⟨hsave, ?_⟩
    rw [hafter, hload]
    rfl

/-- Both references are refreshed, the one after the other. -/
theorem follows_refreshAll (h : r.CanSave w) :
    r.Follows w (r.step w (.action .refreshAll)).1 [(.kql, w.clock), (.spl, w.clock)] := by
  cases hload : r.loadState w with
  | error fault =>
    have hstep : (r.step w (.action .refreshAll)).1 = w := by
      rw [step, perform, refreshAll, refresh, record_of_error hload]
      rfl
    rw [hstep]
    exact follows_of_error h hload _
  | ok state =>
    obtain ⟨first, hfirst, hsave, hafter⟩ := exists_record h hload .kql
    obtain ⟨second, hsecond, hsave, hafter⟩ := exists_record hsave hafter .spl
    have hstep : (r.step w (.action .refreshAll)).1 = second := by
      have hall : r.refreshAll w = (r.refresh first .spl).bind fun result =>
          .ok (Doc.record [("kql", refreshAnswer w .kql), ("splunk", result.1),
            ("timestamp", .text result.2.clock.display)], result.2) := by
        rw [refreshAll, refresh, hfirst]
        rfl
      rw [step, perform, hall, refresh, hsecond]
      rfl
    rw [hstep]
    refine ⟨hsave, ?_⟩
    rw [hafter, hload, clock_record hfirst]
    rfl

/-- **A step of a run puts in what it refreshes.** -/
theorem follows_step (h : r.CanSave w) {event : Event} (hevent : event.isTracked) :
    r.Follows w (r.step w event).1 (event.refreshed.map (·, w.clock)) := by
  have hsame : (r.step w event).1 = w → r.Follows w (r.step w event).1 [] :=
    fun heq => heq.symm ▸ follows_refl h
  cases event with
  | change c =>
    cases c with
    | setClock now => exact follows_withClock h now
    | _ => cases hevent
  | action a =>
    cases a with
    | refresh reference => exact follows_refresh h reference
    | refreshAll => exact follows_refreshAll h
    | saveState => cases hevent
    | loadState => exact hsame (step_of_isReading w r rfl)
    | needsRefresh last now => exact hsame (step_of_isReading w r rfl)
    | status => exact hsame (step_of_isReading w r rfl)

/-- **A run puts in its refreshes**, one after the other. -/
theorem follows_run {events : List Event} (h : r.CanSave w)
    (hevents : ∀ event ∈ events, event.isTracked) :
    r.Follows w (r.run w events) (refreshes w.clock events) := by
  induction events generalizing w with
  | nil => exact follows_refl h
  | cons event events ih =>
    obtain ⟨hevent, hevents⟩ := List.forall_mem_cons.mp hevents
    have hstep := follows_step h hevent
    have hrest := ih hstep.canSave hevents
    rw [clock_step w r hevent] at hrest
    exact hstep.trans hrest

end Follows

/-! ### What a run leaves -/

/-- Where the state can be saved, it is what the file holds, laid over the
default state: a file that is not there counts as one that holds nothing. -/
theorem loadState_eq_map {w : Workspace} {r : Tracker} (h : r.CanSave w) :
    r.loadState w = (storedState w r.statePath).map (Fields.putAll · defaultState) := by
  obtain ⟨made, place, -, hholds⟩ := canSave_iff.mp h
  have hlong := hholds.locate_ne_nameTooLong w
  cases hlocate : w.locate r.statePath with
  | ok found =>
    have hexists : w.pathExists r.statePath = .ok true := by
      simp [pathExists, hholds.possible, hlocate]
    rw [loadState, hexists]
    cases storedState w r.statePath <;> rfl
  | error problem =>
    have hexists : w.pathExists r.statePath = .ok false := by
      cases problem <;> simp_all [pathExists, hholds.possible]
    have hstored : storedState w r.statePath = .ok [] := by
      simp [storedState, readJson, readText, hlocate, bind, Except.bind, Fault.isUnreadable]
    rw [loadState, hexists, hstored]
    rfl

/-- What a file holds is known when the file is absent, unreadable, or a document
that is no object, and when it is an object. -/
theorem exists_storedState {w : Workspace} {p : Path}
    (h : ∀ fault, w.readJson p = .error fault → fault.isUnreadable) :
    ∃ stored, storedState w p = .ok stored := by
  unfold storedState
  split
  · exact ⟨_, rfl⟩
  · rename_i fault hread
    rw [if_pos (h fault hread)]
    exact ⟨[], rfl⟩

/-- The time of the latest refresh of a reference. -/
def latest? (reference : Language) (done : List (Language × Stamp)) : Option Stamp :=
  done.reverse.lookup reference

theorem latest?_cons (reference other : Language) (time : Stamp) (done : List (Language × Stamp)) :
    latest? reference ((other, time) :: done) =
      (latest? reference done).or (if other = reference then some time else none) := by
  have hlast : [(other, time)].lookup reference = if other = reference then some time else none := by
    by_cases heq : other = reference
    · subst heq
      simp
    · have hne : (reference == other) = false := beq_eq_false_iff_ne.mpr (Ne.symm heq)
      simp [List.lookup_cons, hne, heq]
  rw [latest?, List.reverse_cons, List.lookup_append, hlast]
  rfl

theorem refreshKey_inj {a b : Language} : a.refreshKey = b.refreshKey ↔ a = b := by
  cases a <;> cases b <;> decide

/-- After refreshes the key of a reference has the time of its latest one. -/
theorem get?_refreshKey (reference : Language) : ∀ (done : List (Language × Stamp))
    (state : RefreshState),
    Fields.get? (.text reference.refreshKey) (Fields.putAll (done.map refreshRow) state) =
      ((latest? reference done).map fun time => Doc.text time.display).or
        (Fields.get? (.text reference.refreshKey) state)
  | [], state => rfl
  | (other, time) :: done, state => by
    have ih := get?_refreshKey reference done
      (Fields.put (.text other.refreshKey) (.text time.display) state)
    rw [latest?_cons, List.map_cons, refreshRow, Fields.putAll_cons, ih, Fields.get?_put]
    simp only [refreshKey_inj]
    cases latest? reference done with
    | some later => rfl
    | none =>
      by_cases heq : other = reference
      · simp [heq]
      · simp [heq]

theorem IsState.isSome_refreshKey {state : RefreshState} (h : IsState state) (reference : Language) :
    (Fields.get? (.text reference.refreshKey) state).isSome := by
  obtain ⟨updates, rfl⟩ := h.overlay
  refine Fields.isSome_get?_putAll updates ?_
  cases reference <;> rfl

/-- Other keys have the values that they had. -/
theorem get?_of_ne_refreshKey {key : Scalar}
    (hkey : ∀ reference, key ≠ .text (Language.refreshKey reference))
    (done : List (Language × Stamp)) (state : RefreshState) :
    Fields.get? key (Fields.putAll (done.map refreshRow) state) = Fields.get? key state := by
  refine Fields.get?_putAll_of_absent (fun row hrow => ?_) state
  obtain ⟨⟨reference, time⟩, -, rfl⟩ := List.mem_map.mp hrow
  intro hsame
  exact hkey reference ((Scalar.sameKey_text_iff _ _).mp (Scalar.sameKey_symm hsame))

/-- Refreshes add no key. -/
theorem keys_refreshed {state : RefreshState} (h : IsState state) (done : List (Language × Stamp)) :
    (Fields.putAll (done.map refreshRow) state).map Prod.fst = state.map Prod.fst := by
  refine Fields.keys_putAll_of_isSome fun row hrow => ?_
  obtain ⟨⟨reference, time⟩, -, rfl⟩ := List.mem_map.mp hrow
  exact h.isSome_refreshKey reference

/-- The keys of the state file, none when it is unreadable or not an object. -/
def storedKeys (w : Workspace) (r : Tracker) : List Scalar :=
  ((storedState w r.statePath).toOption.getD []).map Prod.fst

/-- **The state after a run.** For a file that cannot be read for its size, every
load fails as the first one does. For any other file, a reference that was
refreshed has the time of its latest refresh, whatever happened to the other
one; every other key has the value it had; and the default keys stand first,
then those that the file had beside them, in their order. -/
theorem loadState_run (r : Tracker) (w : Workspace) (events : List Event) (hsave : r.CanSave w)
    (hevents : ∀ event ∈ events, event.isTracked) :
    (∀ fault, w.readJson r.statePath = .error fault → fault.isUnreadable = false →
      r.loadState w = .error fault ∧ r.loadState (r.run w events) = .error fault) ∧
    ((∀ fault, w.readJson r.statePath = .error fault → fault.isUnreadable) →
      ∃ initial final, r.loadState w = .ok initial ∧ r.loadState (r.run w events) = .ok final ∧
        (∀ reference, Fields.get? (.text reference.refreshKey) final =
          ((latest? reference (refreshes w.clock events)).map fun time => Doc.text time.display).or
            (Fields.get? (.text reference.refreshKey) initial)) ∧
        (∀ key, (∀ reference, key ≠ .text (Language.refreshKey reference)) →
          Fields.get? key final = Fields.get? key initial) ∧
        final.map Prod.fst = defaultState.map Prod.fst ++
          (r.storedKeys w).filter fun key => (Fields.get? key defaultState).isNone) := by
  have hrun := (follows_run hsave hevents).loadState
  have hload := loadState_eq_map hsave
  constructor
  · intro fault hread hfault
    have hstored : storedState w r.statePath = .error fault := by
      simp [storedState, hread, hfault]
    rw [hstored] at hload
    rw [hload] at hrun
    exact ⟨hload, hrun⟩
  · intro hreadable
    obtain ⟨stored, hstored⟩ := exists_storedState hreadable
    rw [hstored] at hload
    rw [hload] at hrun
    have hstate := isState_of_loadState hload
    refine ⟨_, _, hload, hrun, fun reference => get?_refreshKey reference _ _,
      fun key hkey => get?_of_ne_refreshKey hkey _ _, ?_⟩
    cases isJson_storedState hstored with
    | object _ distinct _ =>
      rw [keys_refreshed hstate, Fields.keys_putAll distinct, storedKeys, hstored]
      rfl

/-- A tracker with its file in a directory. -/
def noteTracker : Tracker := ⟨⟨[], ["data", "state.json"]⟩, .int 7, 7 * dayMicros⟩

/-- A workspace with the file of that tracker. -/
def workspaceOfState (t : Text) : Workspace :=
  ⟨[(["data"], .directory), (["data", "state.json"], .file (.text t))],
    ⟨63903168000000000, some 0⟩⟩

/-- A file with a note and an old refresh of one reference. -/
def noteState : Text := "\x7b\"note\": [1.5, \"\\u00e9\"], \"last_kql_update\": \"old\"\x7d"

/-- A file with an integer of 4301 digits. -/
def longState : Text := "\x7b\"x\": " ++ List.replicate 4301 (CodePoint.char '1') ++ "\x7d"

/-- Both references are refreshed, on different days. -/
def noteEvents : List Event :=
  [.action (.refresh .spl), .change (.setClock ⟨63905500800000000, some 0⟩), .action .status,
    .action (.refresh .kql), .action .loadState]

/-- Whether a file can be read, or counts as one that holds nothing. -/
def isPassedOver (w : Workspace) (p : Path) : Bool :=
  match w.readJson p with
  | .ok _ => true
  | .error fault => fault.isUnreadable

set_option maxRecDepth 100000 in
theorem isPassedOver_longState :
    isPassedOver (workspaceOfState longState) noteTracker.statePath = false := by
  decide +kernel

/-- The refreshes are found after the run, and the note is kept. The integer
that is too long is not passed over: no load succeeds, before and after. -/
theorem loadState_run_note :
    noteTracker.CanSave (workspaceOfState noteState) ∧
      (∀ event ∈ noteEvents, event.isTracked) ∧
      (∃ initial final, noteTracker.loadState (workspaceOfState noteState) = .ok initial ∧
        noteTracker.loadState (noteTracker.run (workspaceOfState noteState) noteEvents) =
          .ok final ∧
        Fields.get? (.text "last_splunk_update") final =
          some (Doc.text "2026-01-05T00:00:00+00:00") ∧
        Fields.get? (.text "last_kql_update") final = some (Doc.text "2026-02-01T00:00:00+00:00") ∧
        Fields.get? (.text "note") final = Fields.get? (.text "note") initial ∧
        final.map Prod.fst = defaultState.map Prod.fst ++ [.text "note"]) ∧
      noteTracker.CanSave (workspaceOfState longState) ∧
      ∃ fault, noteTracker.loadState (workspaceOfState longState) = .error fault ∧
        noteTracker.loadState (noteTracker.run (workspaceOfState longState) noteEvents) =
          .error fault := by
  have hsave : noteTracker.CanSave (workspaceOfState noteState) := ⟨_, rfl⟩
  have hlong : noteTracker.CanSave (workspaceOfState longState) := ⟨_, rfl⟩
  have hevents : ∀ event ∈ noteEvents, event.isTracked := by decide
  have hread : ((workspaceOfState noteState).readJson noteTracker.statePath).isOk := by
    decide +kernel
  have hreadable : ∀ fault, (workspaceOfState noteState).readJson noteTracker.statePath =
      .error fault → fault.isUnreadable := by
    intro fault hfault
    rw [hfault] at hread
    cases hread
  have hkeys : noteTracker.storedKeys (workspaceOfState noteState) =
      [.text "note", .text "last_kql_update"] := by decide +kernel
  obtain ⟨initial, final, hinitial, hfinal, hrefreshed, hkept, horder⟩ :=
    (loadState_run noteTracker (workspaceOfState noteState) noteEvents hsave hevents).2 hreadable
  refine ⟨hsave, hevents, ⟨initial, final, hinitial, hfinal, ?_, ?_, ?_, ?_⟩, hlong, ?_⟩
  · exact (hrefreshed .spl).trans (congrArg (fun t => some (Doc.text t)) (by decide +kernel))
  · exact (hrefreshed .kql).trans (congrArg (fun t => some (Doc.text t)) (by decide +kernel))
  · exact hkept _ (fun reference => by cases reference <;> decide)
  · rw [horder, hkeys]
    decide +kernel
  · have htooLong := isPassedOver_longState
    unfold isPassedOver at htooLong
    cases hfault : (workspaceOfState longState).readJson noteTracker.statePath with
    | ok d =>
      rw [hfault] at htooLong
      cases htooLong
    | error fault =>
      rw [hfault] at htooLong
      exact ⟨fault, (loadState_run noteTracker _ noteEvents hlong hevents).1 fault hfault htooLong⟩

end Tracker

end TwinQuery
