/-
# The status of the references

The status reads the time of the last refresh twice: once to add the interval
to it, and once to take it from the present time. The two agree
(`Tracker.needsRefresh_eq`): a reference is stale when the time at which it is
due has passed, both counted in universal time. The sum may leave the calendar
where the difference does not, and then there is no status
(`Tracker.nextRefresh_eq_error_iff`).

As time goes on, what is stale stays so (`Tracker.isStale_of_le`). A run that
does not refresh a reference does not change the time of its last refresh, and
that holds of every state file: one that can be written has the other
refreshes put in (`Tracker.follows_run`), one that cannot be written stays as
it is (`Tracker.step_eq_withClock`).

Key definitions: `Tracker.States`, `Tracker.due`, `Tracker.isStale`,
`Tracker.lastRefresh`, `Tracker.ReportsStale`.
Key theorems: `Tracker.needsRefresh_eq`, `Tracker.nextRefresh_eq_error_iff`,
`Tracker.step_eq_withClock`, `Tracker.lastRefresh_run`,
`Tracker.status_consistent`.
-/
import TwinQuery.Proofs.RefreshRuns

namespace TwinQuery

/-- The key under which the status says whether a reference is stale. -/
def Language.staleKey : Language → Text
  | .spl => "splunk_needs_refresh"
  | .kql => "kql_needs_refresh"

namespace Tracker

/-! ### Stated times -/

/-- A document states a time: it is a text in the international format. -/
def States (d : Doc) (t : Stamp) : Prop := ∃ text, d = .text text ∧ Stamp.ofText? text = some t

theorem stampOf?_eq_some_iff {d : Doc} {t : Stamp} : stampOf? d = some t ↔ States d t := by
  constructor
  · intro h
    unfold stampOf? at h
    split at h
    · obtain ⟨text, htext, ht⟩ := Option.bind_eq_some_iff.mp h
      refine ⟨text, ?_, ht⟩
      unfold Doc.text? at htext
      split at htext
      · cases htext
        rfl
      · cases htext
    · cases h
  · rintro ⟨text, rfl, ht⟩
    cases text with
    | nil => cases ht
    | cons c text => exact ht

theorem stampOf?_eq_none_iff {d : Doc} : stampOf? d = none ↔ ∀ t, ¬ States d t := by
  rw [Option.eq_none_iff_forall_ne_some]
  exact forall_congr' fun t => not_congr stampOf?_eq_some_iff

variable (r : Tracker)

/-- When a reference is due that was refreshed at the given time. -/
def due (t : Stamp) : Stamp := ⟨t.micros + r.interval, t.offset⟩

theorem instant_due (t : Stamp) : (r.due t).instant = t.instant + r.interval := by
  unfold due Stamp.instant
  dsimp only
  omega

/-- Whether a reference is stale: it was never refreshed, as far as its last
refresh states a time, or it was due before now. -/
def isStale (last : Doc) (now : Stamp) : Bool :=
  (stampOf? last).all fun t => (r.due t).instant < now.instant

/-- **What was long enough ago is due**, whatever the offsets. -/
theorem needsRefresh_eq (last : Doc) {now : Stamp} (hnow : now.offset.isSome) :
    r.needsRefresh last now = .ok (r.isStale last now) := by
  unfold needsRefresh isStale
  cases stampOf? last with
  | none => rfl
  | some t =>
    have hzone : now.offset.isNone = false := by
      rw [← Option.not_isSome, hnow]
      rfl
    have hiff : r.interval < now.instant - t.instant ↔ (r.due t).instant < now.instant := by
      rw [instant_due]
      omega
    simp [hzone, hiff]

theorem isStale_iff {last : Doc} {now : Stamp} :
    r.isStale last now ↔ ∀ t, States last t → (r.due t).instant < now.instant := by
  simp [isStale, Option.all_eq_true, stampOf?_eq_some_iff]

/-- **What is stale stays so.** -/
theorem isStale_of_le {last : Doc} {now later : Stamp} (hle : now.instant ≤ later.instant)
    (h : r.isStale last now) : r.isStale last later :=
  r.isStale_iff.mpr fun t ht => (r.isStale_iff.mp h t ht).trans_le hle

/-! ### The next refresh -/

theorem nextRefresh_of_forall_not {last : Doc} (h : ∀ t, ¬ States last t) :
    r.nextRefresh last = .ok "Not scheduled" := by
  rw [nextRefresh, stampOf?_eq_none_iff.mpr h]

theorem nextRefresh_of_states {last : Doc} {t : Stamp} (h : States last t) :
    r.nextRefresh last =
      if (r.due t).inRange then .ok (r.due t).display else .error .dateOutOfRange := by
  rw [nextRefresh, stampOf?_eq_some_iff.mpr h]
  dsimp only [Stamp.shift?]
  rw [show (⟨t.micros + r.interval, t.offset⟩ : Stamp) = r.due t from rfl]
  cases (r.due t).inRange <;> rfl

/-- There is no next refresh exactly when it would leave the calendar. -/
theorem nextRefresh_eq_error_iff {last : Doc} {fault : Fault} :
    r.nextRefresh last = .error fault ↔
      fault = .dateOutOfRange ∧ ∃ t, States last t ∧ (r.due t).inRange = false := by
  cases hlast : stampOf? last with
  | none =>
    have hnone := stampOf?_eq_none_iff.mp hlast
    rw [r.nextRefresh_of_forall_not hnone]
    exact iff_of_false nofun fun ⟨_, t, ht, _⟩ => hnone t ht
  | some t =>
    have ht := stampOf?_eq_some_iff.mp hlast
    have hunique : ∀ u, States last u → u = t := by
      intro u hu
      rw [stampOf?_eq_some_iff.mpr hu] at hlast
      exact Option.some.inj hlast
    rw [r.nextRefresh_of_states ht]
    split
    · rename_i hrange
      refine iff_of_false nofun ?_
      rintro ⟨-, u, hu, hout⟩
      rw [hunique u hu, hrange] at hout
      cases hout
    · rename_i hrange
      constructor
      · rintro ⟨⟩
        exact ⟨rfl, t, ht, Bool.eq_false_iff.mpr hrange⟩
      · rintro ⟨rfl, -⟩
        rfl

/-! ### The status -/

/-- What a state says of the last refresh of a reference. -/
def lastRefresh (state : RefreshState) (reference : Language) : Doc :=
  valueOf state reference.refreshKey Doc.null

section Status

variable {r} {w : Workspace} {state : RefreshState} (hload : r.loadState w = .ok state)

include hload

theorem status_eq : r.status w = r.statusOf state w.clock := by
  rw [status, hload]
  rfl

theorem status_of_error {fault : Fault}
    (hnext : r.nextRefresh (lastRefresh state .kql) = .error fault) :
    r.status w = .error fault := by
  unfold lastRefresh at hnext
  simp only [status_eq hload, statusOf, hnext]
  rfl

theorem exists_status {next : Text} (hclock : w.clock.offset.isSome)
    (hnext : r.nextRefresh (lastRefresh state .kql) = .ok next) :
    ∃ d, r.status w = .ok d ∧ d.field? "next_scheduled_refresh" = some (.text next) ∧
      ∀ reference, d.field? (Language.staleKey reference) =
        some (.bool (r.isStale (lastRefresh state reference) w.clock)) := by
  unfold lastRefresh at *
  simp only [status_eq hload, statusOf, hnext, r.needsRefresh_eq _ hclock]
  refine ⟨_, rfl, rfl, fun reference => ?_⟩
  cases reference <;> rfl

/-- The only fault of a status is a date that leaves the calendar. -/
theorem status_eq_error_iff (hclock : w.clock.offset.isSome) {fault : Fault} :
    r.status w = .error fault ↔ fault = .dateOutOfRange ∧
      ∃ t, States (lastRefresh state .kql) t ∧ (r.due t).inRange = false := by
  rw [← nextRefresh_eq_error_iff]
  cases hnext : r.nextRefresh (lastRefresh state .kql) with
  | error problem => simp [status_of_error hload hnext]
  | ok next =>
    obtain ⟨d, hstatus, -⟩ := exists_status hload hclock hnext
    rw [hstatus]
    exact iff_of_false nofun nofun

end Status

/-- The status is given, and says that a reference is stale. -/
def ReportsStale (w : Workspace) (reference : Language) : Prop :=
  ∃ d, r.status w = .ok d ∧ d.field? reference.staleKey = some (.bool true)

section

variable {r} {w : Workspace} {state : RefreshState} {reference : Language}

/-- A status says of each reference whether it is stale. -/
theorem field?_of_status {d : Doc} (hload : r.loadState w = .ok state)
    (hclock : w.clock.offset.isSome) (hstatus : r.status w = .ok d) :
    d.field? reference.staleKey =
      some (.bool (r.isStale (lastRefresh state reference) w.clock)) := by
  cases hnext : r.nextRefresh (lastRefresh state .kql) with
  | error problem =>
    rw [status_of_error hload hnext] at hstatus
    cases hstatus
  | ok next =>
    obtain ⟨d', hstatus', -, hstale⟩ := exists_status hload hclock hnext
    rw [hstatus] at hstatus'
    cases hstatus'
    exact hstale reference

theorem isStale_of_reportsStale (hload : r.loadState w = .ok state)
    (hclock : w.clock.offset.isSome) (h : r.ReportsStale w reference) :
    r.isStale (lastRefresh state reference) w.clock := by
  obtain ⟨d, hstatus, hfield⟩ := h
  rw [field?_of_status hload hclock hstatus] at hfield
  simpa [Doc.bool] using hfield

/-! ### Runs without a refresh -/

theorem canSave_of_withClock {now : Stamp} (h : r.CanSave (w.withClock now)) : r.CanSave w :=
  h.withClock w.clock

theorem exists_error_saveState (h : ¬ r.CanSave w) (state : RefreshState) :
    ∃ fault, r.saveState w state = .error fault := by
  cases hsave : r.saveState w state with
  | error fault => exact ⟨fault, rfl⟩
  | ok w' =>
    obtain ⟨made, place, hmade, hholds, -⟩ := saveState_eq_ok_iff.mp hsave
    exact absurd (canSave_iff.mpr ⟨made, place, hmade, hholds⟩) h

theorem exists_error_record (h : ¬ r.CanSave w) (reference : Language) :
    ∃ fault, r.record w reference = .error fault := by
  cases hload : r.loadState w with
  | error fault => exact ⟨fault, record_of_error hload reference⟩
  | ok state =>
    rw [record, hload]
    exact exists_error_saveState h _

/-- Where the state cannot be saved, an event changes nothing but the time. -/
theorem step_eq_withClock (h : ¬ r.CanSave w) {event : Event} (hevent : event.isTracked) :
    (r.step w event).1 = w.withClock (event.clockAfter w.clock) := by
  cases event with
  | change c =>
    cases c with
    | setClock now => rfl
    | _ => cases hevent
  | action a =>
    show _ = w
    cases a with
    | saveState => cases hevent
    | refresh reference =>
      obtain ⟨fault, hrecord⟩ := exists_error_record h reference
      rw [step, perform, refresh, hrecord]
      rfl
    | refreshAll =>
      obtain ⟨fault, hrecord⟩ := exists_error_record h .kql
      rw [step, perform, refreshAll, refresh, hrecord]
      rfl
    | loadState => exact step_of_isReading w r rfl
    | needsRefresh last now => exact step_of_isReading w r rfl
    | status => exact step_of_isReading w r rfl

theorem loadState_run_of_not_canSave {events : List Event} (h : ¬ r.CanSave w)
    (hevents : ∀ event ∈ events, event.isTracked) :
    r.loadState (r.run w events) = r.loadState w := by
  induction events generalizing w with
  | nil => rfl
  | cons event events ih =>
    obtain ⟨hevent, hevents⟩ := List.forall_mem_cons.mp hevents
    rw [run, step_eq_withClock h hevent, ih (fun hsave => h (canSave_of_withClock hsave)) hevents,
      loadState_withClock]

theorem latest?_refreshes_eq_none {events : List Event}
    (hevents : ∀ event ∈ events, reference ∉ event.refreshed) (clock : Stamp) :
    latest? reference (refreshes clock events) = none := by
  have habsent : ∀ refresh ∈ refreshes clock events, refresh.1 ≠ reference := by
    induction events generalizing clock with
    | nil => nofun
    | cons event events ih =>
      obtain ⟨hevent, hevents⟩ := List.forall_mem_cons.mp hevents
      rw [refreshes, List.forall_mem_append]
      refine ⟨?_, ih hevents _⟩
      rintro refresh hmem rfl
      obtain ⟨other, hother, rfl⟩ := List.mem_map.mp hmem
      exact hevent hother
  rw [latest?, List.lookup_eq_none_iff]
  intro refresh hmem
  simpa using (habsent refresh (List.mem_reverse.mp hmem)).symm

/-- **A run that does not refresh a reference keeps its last refresh.** -/
theorem lastRefresh_run {events : List Event} (hload : r.loadState w = .ok state)
    (hevents : ∀ event ∈ events, event.isTracked) :
    ∃ final, r.loadState (r.run w events) = .ok final ∧
      ∀ reference, (∀ event ∈ events, reference ∉ event.refreshed) →
        lastRefresh final reference = lastRefresh state reference := by
  by_cases hsave : r.CanSave w
  · refine ⟨Fields.putAll ((refreshes w.clock events).map refreshRow) state, ?_, ?_⟩
    · rw [(follows_run hsave hevents).loadState, hload]
      rfl
    · intro reference hkept
      rw [lastRefresh, valueOf, get?_refreshKey, latest?_refreshes_eq_none hkept]
      rfl
  · exact ⟨state, (loadState_run_of_not_canSave hsave hevents).trans hload, fun _ _ => rfl⟩

end

/-- **The status is consistent.** Without a stated time of the last refresh there
is no next one, and the reference is stale. With a stated time the next refresh
is due an interval later, and the reference is stale from just after that
instant; when the calendar ends before, there is no status, and that is the
only fault. So a reference that is stale at one time is stale at every later
one, until it is refreshed. -/
theorem status_consistent (w : Workspace) (state : RefreshState) (hload : r.loadState w = .ok state)
    (hclock : w.clock.offset.isSome) :
    ((∀ t, ¬ States (lastRefresh state .kql) t) →
      ∃ d, r.status w = .ok d ∧
        d.field? "next_scheduled_refresh" = some (.text "Not scheduled") ∧
        d.field? "kql_needs_refresh" = some (.bool true)) ∧
    (∀ t, States (lastRefresh state .kql) t → (r.due t).inRange →
      ∃ d stale, r.status w = .ok d ∧
        d.field? "next_scheduled_refresh" = some (.text (r.due t).display) ∧
        d.field? "kql_needs_refresh" = some (.bool stale) ∧
        (stale ↔ (r.due t).instant < w.clock.instant)) ∧
    (∀ fault, r.status w = .error fault ↔ fault = .dateOutOfRange ∧
      ∃ t, States (lastRefresh state .kql) t ∧ (r.due t).inRange = false) ∧
    (∀ reference events, (∀ event ∈ events, event.isTracked ∧ reference ∉ event.refreshed) →
      (r.run w events).clock.offset.isSome → w.clock.instant ≤ (r.run w events).clock.instant →
      r.ReportsStale w reference →
        (∀ d, r.status (r.run w events) = .ok d →
          d.field? reference.staleKey = some (.bool true)) ∧
        ((∀ event ∈ events, .kql ∉ event.refreshed) →
          r.ReportsStale (r.run w events) reference)) := by
  refine ⟨?_, ?_, fun fault => status_eq_error_iff hload hclock, ?_⟩
  · intro hnone
    obtain ⟨d, hstatus, hnext, hstale⟩ :=
      exists_status hload hclock (r.nextRefresh_of_forall_not hnone)
    refine ⟨d, hstatus, hnext, (hstale .kql).trans ?_⟩
    rw [r.isStale_iff.mpr fun t ht => absurd ht (hnone t)]
  · intro t ht hrange
    have hnext := r.nextRefresh_of_states ht
    rw [if_pos hrange] at hnext
    obtain ⟨d, hstatus, hnext, hstale⟩ := exists_status hload hclock hnext
    refine ⟨d, _, hstatus, hnext, hstale .kql, ?_⟩
    rw [isStale, stampOf?_eq_some_iff.mpr ht, Option.all_some, decide_eq_true_eq]
  · intro reference events hevents hlater hle hreported
    have htracked : ∀ event ∈ events, event.isTracked := fun event hmem => (hevents event hmem).1
    obtain ⟨final, hfinal, hkept⟩ := lastRefresh_run hload htracked
    have hstale : r.isStale (lastRefresh final reference) (r.run w events).clock := by
      rw [hkept reference fun event hmem => (hevents event hmem).2]
      exact r.isStale_of_le hle (isStale_of_reportsStale hload hclock hreported)
    have hflag : ∀ d, r.status (r.run w events) = .ok d →
        d.field? reference.staleKey = some (.bool true) := by
      intro d hstatus
      rw [field?_of_status hfinal hlater hstatus, hstale]
    refine ⟨hflag, fun hkql => ?_⟩
    -- the status before the run did not fail, and the run did not change what it depends on
    cases hstatus : r.status (r.run w events) with
    | ok d => exact ⟨d, hstatus, hflag d hstatus⟩
    | error fault =>
      obtain ⟨d, hbefore, -⟩ := hreported
      have hfault := (status_eq_error_iff hfinal hlater).mp hstatus
      rw [hkept .kql hkql, ← status_eq_error_iff hload hclock, hbefore] at hfault
      cases hfault

/-- A last refresh without offset, a week and a microsecond ago by a clock with
one, and one on the last day of the calendar. -/
theorem status_consistent_naive_stamp :
    let r : Tracker := ⟨⟨[], ["state.json"]⟩, .int 7, 7 * dayMicros⟩
    let w (last : Text) : Workspace :=
      ⟨[(["state.json"], .file (.text ("\x7b\"last_kql_update\": \"" ++ last ++ "\"\x7d")))],
        ⟨63903776400000001, some 3600000000⟩⟩
    let events : List Event :=
      [.action (.refresh .spl), .change (.setClock ⟨63905500800000000, some 0⟩), .action .status]
    (∃ d, r.status (w "2026-01-05T00:00:00") = .ok d ∧
      d.field? "next_scheduled_refresh" = some (.text "2026-01-12T00:00:00") ∧
      d.field? "kql_needs_refresh" = some (.bool true)) ∧
    r.ReportsStale (r.run (w "2026-01-05T00:00:00") events) .kql ∧
    r.status (w "9999-12-31") = .error .dateOutOfRange := by
  intro r w events
  have hstated : ∀ {last : Text} {t : Stamp},
      ((r.loadState (w last)).toOption.bind fun state => stampOf? (lastRefresh state .kql)) =
        some t →
      ∃ state, r.loadState (w last) = .ok state ∧ States (lastRefresh state .kql) t := by
    intro last t h
    cases hload : r.loadState (w last) with
    | error fault =>
      rw [hload] at h
      cases h
    | ok state =>
      rw [hload] at h
      exact ⟨state, rfl, stampOf?_eq_some_iff.mp h⟩
  obtain ⟨state, hload, hlast⟩ :=
    @hstated "2026-01-05T00:00:00" ⟨63903168000000000, none⟩ (by decide +kernel)
  obtain ⟨-, hdue, -, hrun⟩ := status_consistent r (w "2026-01-05T00:00:00") state hload rfl
  obtain ⟨d, stale, hstatus, hnext, hkql, hstale⟩ := hdue _ hlast (by decide)
  rw [hstale.mpr (by decide)] at hkql
  have hdisplay : (r.due ⟨63903168000000000, none⟩).display = "2026-01-12T00:00:00" := by
    decide +kernel
  rw [hdisplay] at hnext
  obtain ⟨final, hfinal, hend⟩ :=
    @hstated "9999-12-31" ⟨315537811200000000, none⟩ (by decide +kernel)
  refine ⟨⟨d, hstatus, hnext, hkql⟩, ?_, ?_⟩
  · have hclock : (r.run (w "2026-01-05T00:00:00") events).clock = ⟨63905500800000000, some 0⟩ := by
      decide +kernel
    refine (hrun .kql events (by decide) ?_ ?_ ⟨d, hstatus, hkql⟩).2 (by decide)
    · rw [hclock]
      rfl
    · rw [hclock]
      decide
  · exact ((status_consistent r (w "9999-12-31") final hfinal rfl).2.2.1 _).mpr
      ⟨rfl, _, hend, by decide⟩

end Tracker

end TwinQuery
