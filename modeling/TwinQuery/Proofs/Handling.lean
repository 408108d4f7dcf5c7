/-
# The handling of a request

What one request does to the service. A request that asks the session something
(`Request.call?`) is answered what its session answers
(`Service.handle_of_call`), as far as that can be sent (`Reply.ofAnswer`); its
session is the one it keeps or, when it keeps none, the one that its settings
give, which in turn are those it keeps or those that a load gives. Any other
request leaves the session alone (`Service.follows_handle_of_no_call`). So the
session and the settings after a request are known from those before it
(`Service.follows_handle`).

Key definitions: `Reply.ofAnswer`, `Reply.status`, `TableMapping.isEncodable`,
`Service.knownSettings`, `Service.knownSession`, `Service.Settled`.
Key theorems: `Service.handle_of_call`, `Service.follows_handle`.
-/
import TwinQuery.Proofs.Calls

namespace TwinQuery

/-! ### The texts of a mapping -/

/-- Whether the texts of an entry have an encoding. -/
def Entry.isEncodable (e : Entry) : Bool :=
  e.index.isEncodable && e.sourcetype.all Text.isEncodable && e.note.isEncodable

/-- Whether the texts of a mapping have an encoding. -/
def TableMapping.isEncodable (m : TableMapping) : Bool :=
  m.entries.all fun row => row.1.isSendable && row.2.isEncodable

/-- The document that tells a mapping and its version. -/
def TableMapping.told (m : TableMapping) : Doc :=
  Doc.record [("mapping", m.toDoc), ("version", .int m.version)]

theorem Entry.isSendable_toDoc (e : Entry) : e.toDoc.isSendable = e.isEncodable := by
  obtain ⟨index, sourcetype, note⟩ := e
  cases sourcetype <;>
    simp [toDoc, sourcetypeDoc, Doc.record, Doc.isSendable, Doc.haveSendable, Doc.text, Doc.null,
      Scalar.isSendable, isEncodable, Bool.and_assoc]

theorem Doc.haveSendable_map_toDoc : ∀ rows : List (Scalar × Entry),
    Doc.haveSendable (rows.map (Prod.map id Entry.toDoc)) =
      rows.all fun row => row.1.isSendable && row.2.isEncodable
  | [] => rfl
  | (name, entry) :: rows => by
    simp [haveSendable, Entry.isSendable_toDoc, haveSendable_map_toDoc rows]

/-- **A mapping can be told if its texts have an encoding.** -/
theorem TableMapping.isSendable_told (m : TableMapping) : m.told.isSendable = m.isEncodable := by
  have hrows : m.toDoc.isSendable = m.isEncodable := Doc.haveSendable_map_toDoc m.entries
  simp [told, Doc.record, Doc.isSendable, Doc.haveSendable, hrows, Doc.int, Scalar.isSendable]

/-! ### Answers -/

/-- The answer to a request, from what the session answers. -/
def Reply.ofAnswer : Except Fault Session.Answer → Reply
  | .error f => .ofFault f
  | .ok (.conversion c) => .ok c.toDoc
  | .ok (.explanation t) => .ok (Doc.record [("explanation", .text t)])
  | .ok (.mapping m) => if m.isEncodable then .answer 200 m.told else .failure
  | .ok (.queries queries) =>
    .ok (Doc.record
      [("queries", Doc.record (queries.map fun (name, query) => (name, .text query)))])
  | .ok _ => .failure

/-- The answer when there is no session to ask. -/
def Session.Action.replyWithout (a : Session.Action) (f : Fault) : Reply :=
  match a with
  | .explain _ _ => .ofFault f
  | .setMapping _ => .ofFault f
  | _ => .failure

/-- The status of an answer. -/
def Reply.status : Reply → Nat
  | .answer status _ => status
  | .bare status => status
  | .invalid _ => 422
  | .failure => 500

theorem Reply.status_send (status : Nat) (body : Doc) :
    (Reply.send status body).status = status ∨ (Reply.send status body).status = 500 := by
  unfold Reply.send
  split
  · exact Or.inl rfl
  · exact Or.inr rfl

theorem Reply.status_ofFault (f : Fault) :
    (Reply.ofFault f).status = 400 ∨ (Reply.ofFault f).status = 500 := by
  unfold Reply.ofFault
  split
  · exact Or.inr ((status_send _ _).elim id id)
  · split
    · exact status_send 400 _
    · exact Or.inr rfl

theorem Session.Action.status_replyWithout (a : Session.Action) (f : Fault) :
    (a.replyWithout f).status = 400 ∨ (a.replyWithout f).status = 500 := by
  unfold replyWithout
  split
  · exact Reply.status_ofFault f
  · exact Reply.status_ofFault f
  · exact Or.inr rfl

/-! ### The names in a mapping -/

theorem TableMapping.HasTextKeys.merge {m merged : TableMapping} {d : Doc} (hm : m.HasTextKeys)
    (hd : Fields.AllText d.updates) (h : m.merge d = .ok merged) : merged.HasTextKeys := by
  obtain ⟨rows, hrows, rfl⟩ := (merge_eq_ok_iff m d merged).mp h
  have hkeys : Fields.AllText rows := by
    rw [allText_iff_keys, ← keys_entriesOfDoc hrows]
    exact (allText_iff_keys _).mp hd
  exact Fields.allText_putAll hkeys hm

/-- A value that is the whole object keeps its name. -/
theorem Fields.keys_unrolled (fields : List (Scalar × Doc)) :
    (Fields.unrolled fields).map Prod.fst = fields.map Prod.fst := by
  rw [Fields.unrolled, List.map_map]
  refine List.map_congr_left fun field _ => ?_
  obtain ⟨name, value⟩ := field
  cases value <;> rfl

/-- A mapping file whose tables are named by texts gives a mapping of this
kind. -/
theorem TableMapping.hasTextKeys_withFields {found : Option (List (Scalar × Doc))}
    (h : ∀ fields, found = some fields → Fields.AllText fields) :
    (TableMapping.withFields found).HasTextKeys := by
  unfold TableMapping.withFields
  split
  · exact hasTextKeys_defaults
  · exact hasTextKeys_defaults
  · rename_i fields _
    split
    · rename_i m hmerge
      have hupdates : Fields.AllText (Doc.object fields).updates := h fields rfl
      exact hasTextKeys_defaults.merge hupdates hmerge
    · exact hasTextKeys_defaults

theorem Session.mapping_ofSettings {w : Workspace} {c : Settings} {s : Session}
    (h : Session.ofSettings w c = .ok s) :
    ∃ found, readMappingFile w c.mappingPath = .ok found ∧ s.mapping = .withFields found := by
  obtain ⟨m, hm, h⟩ := exists_of_bind_eq_ok h
  obtain ⟨found, hfound, hm⟩ := exists_of_bind_eq_ok hm
  obtain ⟨interval, -, h⟩ := exists_of_bind_eq_ok h
  cases hm
  cases h
  exact ⟨found, hfound, rfl⟩

/-! ### The parts that a request finds -/

namespace Service

/-- The settings that a request works with: those that are kept, else what a
load gives. -/
def knownSettings (w : Workspace) (service : Service) : Except Fault Settings :=
  match service.settings with
  | some c => .ok c
  | none => Settings.load w service.settingsPath

/-- The session that a request works with: the one that is kept, else what the
settings give. -/
def knownSession (w : Workspace) (service : Service) : Except Fault Session :=
  match service.session with
  | some s => .ok s
  | none => (service.knownSettings w).bind (Session.ofSettings w)

/-- A service that keeps a session or a tracker keeps the settings as well. -/
def Settled (service : Service) : Prop :=
  service.session.isSome ∨ service.tracker.isSome → service.settings.isSome

/-- The service with the settings that a request works with. -/
def settle (w : Workspace) (service : Service) : Service :=
  { service with settings := (service.knownSettings w).toOption }

theorem toOption_knownSettings (w : Workspace) (service : Service) :
    (service.knownSettings w).toOption =
      service.settings.or (Settings.load w service.settingsPath).toOption := by
  unfold knownSettings
  cases service.settings <;> rfl

theorem settle_of_settings {service : Service} (h : service.settings.isSome) (w : Workspace) :
    service.settle w = service := by
  obtain ⟨c, hc⟩ := Option.isSome_iff_exists.mp h
  obtain ⟨path, settings, session, tracker⟩ := service
  cases hc
  rfl

theorem knownSettings_settle (w : Workspace) (service : Service) :
    (service.settle w).knownSettings w = service.knownSettings w := by
  obtain ⟨path, settings, session, tracker⟩ := service
  unfold settle knownSettings
  cases settings with
  | some c => rfl
  | none =>
    simp only
    cases Settings.load w path <;> rfl

theorem loadSettings_eq (w : Workspace) (service : Service) :
    service.loadSettings w = (service.knownSettings w).map fun c => (c, service.settle w) := by
  obtain ⟨path, settings, session, tracker⟩ := service
  unfold loadSettings
  cases settings with
  | some c => rfl
  | none =>
    simp only [settle, knownSettings]
    cases Settings.load w path <;> rfl

/-- Without settings nothing can be settled. -/
theorem settle_of_error {w : Workspace} {service : Service} {f : Fault}
    (h : service.knownSettings w = .error f) : service.settle w = service := by
  have hnone := toOption_knownSettings w service
  rw [h] at hnone
  have hsettings : service.settings = none := (Option.or_eq_none_iff.mp hnone.symm).1
  obtain ⟨path, settings, session, tracker⟩ := service
  cases hsettings
  rw [settle, h]
  rfl

/-- Starting gives the known session and keeps it, and the settings. -/
theorem startSession_eq {service : Service} (h : service.Settled) (w : Workspace) :
    service.startSession w =
      (service.knownSession w,
        { service.settle w with session := (service.knownSession w).toOption }) := by
  obtain ⟨path, settings, session, tracker⟩ := service
  cases session with
  | some s => rw [settle_of_settings (h (Or.inl rfl))]; rfl
  | none =>
    simp only [startSession, knownSession, loadSettings_eq]
    cases hc : knownSettings w ⟨path, settings, none, tracker⟩ with
    | error f => rw [settle_of_error hc]; rfl
    | ok c =>
      simp only [Except.map, Except.bind]
      cases Session.ofSettings w c <;> rfl

/-- Making the tracker keeps the session, and the settings are kept. -/
theorem startTracker_eq {service : Service} (h : service.Settled) (w : Workspace) :
    ∃ made : Option Tracker,
      (service.startTracker w).2 = { service.settle w with tracker := made } ∧
      (made.isSome → (service.settle w).settings.isSome) := by
  obtain ⟨path, settings, session, tracker⟩ := service
  cases tracker with
  | some r =>
    have hsettings : settings.isSome := h (Or.inr rfl)
    rw [settle_of_settings hsettings]
    exact ⟨some r, rfl, fun _ => hsettings⟩
  | none =>
    simp only [startTracker, loadSettings_eq]
    cases hc : knownSettings w ⟨path, settings, session, none⟩ with
    | error f =>
      rw [settle_of_error hc]
      exact ⟨none, rfl, nofun⟩
    | ok c =>
      have hsettings : (settle w ⟨path, settings, session, none⟩).settings.isSome := by
        simp [settle, hc, Except.toOption]
      simp only [Except.map]
      cases Tracker.make c.statePath c.refreshDays with
      | error f => exact ⟨none, rfl, nofun⟩
      | ok r => exact ⟨some r, rfl, fun _ => hsettings⟩

/-! ### Answers -/

theorem withBody_of_body? {α : Type} {r : Request} {read : Doc → Except (List Issue) α} {body : α}
    (h : r.body? read = some body) (service : Service) (go : α → Reply × Service) :
    service.withBody r read go = go body := by
  unfold Request.body? at h
  unfold withBody
  cases hbody : r.document.bind fun d => (read d).mapError Refusal.issues with
  | error refusal => rw [hbody] at h; cases h
  | ok found => rw [hbody] at h; cases h; rfl

theorem withBody_of_no_body {α : Type} {r : Request} {read : Doc → Except (List Issue) α}
    (h : r.body? read = none) (service : Service) (go : α → Reply × Service) :
    ∃ refusal, service.withBody r read go = (.ofRefusal refusal, service) := by
  unfold Request.body? at h
  unfold withBody
  cases hbody : r.document.bind fun d => (read d).mapError Refusal.issues with
  | error refusal => exact ⟨refusal, rfl⟩
  | ok found => rw [hbody] at h; cases h

/-- The service after the session was asked something: it keeps what it worked
with, and the session as it is then. -/
def afterCall (w : Workspace) (service : Service) (a : Session.Action) : Service :=
  { service.settle w with
    session := (service.knownSession w).toOption.map fun s => (s.step w (.action a)).2.1 }

/-- The answer of the session to an action, or the answer without one. -/
def replyTo (w : Workspace) (service : Service) (a : Session.Action) : Reply :=
  match service.knownSession w with
  | .ok s => .ofAnswer (s.answer w a)
  | .error f => a.replyWithout f

/-- **Asking the session.** What is asked and told need only agree with an
action of the session and its answers. -/
theorem withSession_eq {α : Type} {service : Service} (h : service.Settled) {w : Workspace}
    {a : Session.Action} {onFault : Fault → Reply} {ask : Session → Except Fault (α × Session)}
    {tell : α → Reply} (make : α → Session.Answer)
    (hfault : ∀ f, onFault f = a.replyWithout f)
    (hask : ∀ s, s.perform w a = (ask s).map (Prod.map make id))
    (htell : ∀ s x, service.knownSession w = .ok s → ask s = .ok x →
      tell x.1 = .ofAnswer (.ok (make x.1))) :
    service.withSession w onFault ask tell = (service.replyTo w a, service.afterCall w a) := by
  unfold withSession replyTo afterCall
  rw [startSession_eq h]
  cases hs : service.knownSession w with
  | error f => simp [hfault, Except.toOption]
  | ok s =>
    simp only [Except.toOption, Option.map_some, Session.session_step, Session.answer, hask]
    cases hx : ask s with
    | error f => rfl
    | ok x =>
      simp only [htell s x hs hx]
      rfl

/-- The names in the mapping that a request finds are texts. -/
def FindsTextKeys (w : Workspace) (service : Service) : Prop :=
  ∀ s, service.knownSession w = .ok s → s.mapping.HasTextKeys

theorem mappingReply_of_hasTextKeys {m : TableMapping} (h : m.HasTextKeys) :
    mappingReply m = .ofAnswer (.ok (.mapping m)) := by
  have hall : (m.entries.all fun entry => entry.1.text?.isSome) = true := by
    rw [List.all_eq_true]
    intro entry hentry
    obtain ⟨name, hname⟩ := h entry hentry
    rw [hname]
    rfl
  rw [mappingReply, if_pos hall, Reply.ofAnswer, ← m.isSendable_told]
  rfl

theorem handle_of_route {r : Request} {route : Route} (h : r.route? = some route)
    (hroute : route ≠ .refresh) (w : Workspace) (service : Service) :
    service.handle w r = ((service.answer w r route).1, (service.answer w r route).2, w) := by
  unfold Request.route? at h
  unfold handle
  split
  · rename_i hnil
    rw [hnil] at h
    cases h
  · rw [h]
    cases route with
    | refresh => exact absurd rfl hroute
    | _ => rfl

theorem handle_of_no_route {r : Request} (h : r.route? = none) (w : Workspace) (service : Service) :
    (service.handle w r).2 = (service, w) := by
  unfold Request.route? at h
  unfold handle
  split
  · rfl
  · rw [h]

theorem handle_of_refresh {r : Request} (h : r.route? = some .refresh) (w : Workspace)
    (service : Service) : service.handle w r = service.refresh w := by
  unfold Request.route? at h
  unfold handle
  split
  · rename_i hnil
    rw [hnil] at h
    cases h
  · rw [h]

/-- What a route answers when it asks the session something. -/
theorem answer_of_call {service : Service} (h : service.Settled) {w : Workspace} {r : Request}
    {route : Route} {a : Session.Action} (hkeys : service.FindsTextKeys w)
    (hroute : r.route? = some route) (hcall : r.call? = some a) :
    service.answer w r route = (service.replyTo w a, service.afterCall w a) := by
  have hread : r.callRead? = some a := by rw [← Request.call?_eq_callRead?, hcall]
  rw [Request.callRead?, hroute] at hread
  cases route with
  | convert =>
    obtain ⟨body, hbody, rfl⟩ := Option.map_eq_some_iff.mp hread
    rw [answer, withBody_of_body? hbody]
    refine withSession_eq h .conversion (fun _ => rfl) (fun s => ?_) (fun _ _ _ _ => rfl)
    rw [Session.perform]
    cases s.convert w (.text body.query) (.text body.source) (.text body.target) <;> rfl
  | convertFrom source =>
    obtain ⟨body, hbody, rfl⟩ := Option.map_eq_some_iff.mp hread
    rw [answer, withBody_of_body? hbody]
    refine withSession_eq h .conversion (fun _ => rfl) (fun s => ?_) (fun _ _ _ _ => rfl)
    rw [Session.perform]
    cases s.convertFrom w source (.text body.query) <;> rfl
  | explain =>
    obtain ⟨body, hbody, rfl⟩ := Option.map_eq_some_iff.mp hread
    rw [answer, withBody_of_body? hbody]
    refine withSession_eq h .explanation (fun _ => rfl) (fun s => ?_) (fun _ _ _ _ => rfl)
    rw [Session.perform]
    cases s.explain w (.text body.query) (.text body.language) <;> rfl
  | mapping =>
    cases hread
    rw [answer]
    refine withSession_eq h .mapping (fun _ => rfl) (fun s => rfl) fun s x hs hx => ?_
    cases hx
    exact mappingReply_of_hasTextKeys (hkeys s hs)
  | updateMapping =>
    obtain ⟨body, hbody, rfl⟩ := Option.map_eq_some_iff.mp hread
    obtain ⟨-, tables, -, htables, hdoc⟩ := Request.call?_setMapping hcall
    have hd : Fields.AllText body.toDoc.updates := hdoc ▸ allText_updates_tablesDoc htables
    rw [answer, withBody_of_body? hbody]
    refine withSession_eq h .mapping (fun _ => rfl) (fun s => ?_) fun s x hs hx => ?_
    · rw [Session.perform_setMapping, Session.setMapping]
      cases s.mapping.merge body.toDoc <;> rfl
    · rw [Session.setMapping] at hx
      cases hm : s.mapping.merge body.toDoc with
      | error f => rw [hm] at hx; cases hx
      | ok m =>
        rw [hm] at hx
        cases hx
        exact mappingReply_of_hasTextKeys ((hkeys s hs).merge hd hm)
  | discovery =>
    obtain ⟨body, hbody, rfl⟩ := Option.map_eq_some_iff.mp hread
    rw [answer, withBody_of_body? hbody]
    refine withSession_eq h .queries (fun _ => rfl) (fun s => ?_) (fun _ _ _ _ => rfl)
    rw [Session.perform]
    cases discoveryQueries ((body.table.map Doc.text).getD Doc.null) <;> rfl
  | _ => cases hread

/-- **A request that asks the session something** is answered by the session
that the service keeps or can start. -/
theorem handle_of_call {service : Service} (h : service.Settled) {w : Workspace} {r : Request}
    {a : Session.Action} (hkeys : service.FindsTextKeys w) (hcall : r.call? = some a) :
    service.handle w r = (service.replyTo w a, service.afterCall w a, w) := by
  cases hroute : r.route? with
  | none => simp [Request.call?, hroute] at hcall
  | some route =>
    have hne : route ≠ .refresh := by
      rintro rfl
      simp [Request.call?, hroute] at hcall
    rw [handle_of_route hroute hne, answer_of_call h hkeys hroute hcall]

/-- What is kept after a request: the settings if they were needed, and the
session as it is after what it was asked. -/
structure Follows (w : Workspace) (service : Service) (r : Request) (next : Service) : Prop where
  settingsPath : next.settingsPath = service.settingsPath
  settings : next.settings =
    if r.readsSettings then (service.knownSettings w).toOption else service.settings
  session : next.session =
    match r.call? with
    | some a => (service.knownSession w).toOption.map fun s => (s.step w (.action a)).2.1
    | none => service.session
  settled : next.Settled

/-- The settings that were worked with are worked with again. -/
theorem Follows.knownSettings {w : Workspace} {service next : Service} {r : Request}
    (h : service.Follows w r next) : next.knownSettings w = service.knownSettings w := by
  by_cases hr : r.readsSettings
  · have hsettings : next.settings = (service.settle w).settings := by
      rw [h.settings, if_pos hr]
      rfl
    rw [← knownSettings_settle w service, Service.knownSettings, hsettings, h.settingsPath]
    rfl
  · rw [Service.knownSettings, h.settings, if_neg hr, h.settingsPath]
    rfl

theorem isSome_settings_of_knownSession {w : Workspace} {service : Service} (h : service.Settled)
    (hs : (service.knownSession w).toOption.isSome) : (service.settle w).settings.isSome := by
  by_cases hkept : service.session.isSome
  · have hsettings := h (Or.inl hkept)
    rw [settle_of_settings hsettings]
    exact hsettings
  · cases hc : service.knownSettings w with
    | ok c => simp [settle, hc, Except.toOption]
    | error f =>
      simp only [Bool.not_eq_true, Option.isSome_eq_false_iff, Option.isNone_iff_eq_none] at hkept
      simp [knownSession, hkept, hc, Except.bind, Except.toOption] at hs

theorem follows_afterCall {w : Workspace} {service : Service} (h : service.Settled) {r : Request}
    {a : Session.Action} (hcall : r.call? = some a) : service.Follows w r (service.afterCall w a) where
  settingsPath := rfl
  settings := by simp [Request.readsSettings, hcall, afterCall, settle]
  session := by rw [hcall]; rfl
  settled := by
    rintro (hs | hr)
    · exact isSome_settings_of_knownSession h (by simpa [afterCall] using hs)
    · have hsettings := h (Or.inr hr)
      show (service.settle w).settings.isSome
      rw [settle_of_settings hsettings]
      exact hsettings

theorem follows_self {w : Workspace} {service : Service} (h : service.Settled) {r : Request}
    (hcall : r.call? = none) (htracker : r.isForTracker = false) : service.Follows w r service where
  settingsPath := rfl
  settings := by simp [Request.readsSettings, hcall, htracker]
  session := by rw [hcall]
  settled := h

theorem follows_startTracker {w : Workspace} {service : Service} (h : service.Settled) {r : Request}
    (hcall : r.call? = none) (htracker : r.isForTracker) :
    service.Follows w r (service.startTracker w).2 := by
  obtain ⟨made, heq, hmade⟩ := startTracker_eq h w
  rw [heq]
  refine ⟨rfl, by simp [Request.readsSettings, htracker, settle], by rw [hcall]; rfl, ?_⟩
  rintro (hs | hr)
  · have hsettings := h (Or.inl hs)
    show (service.settle w).settings.isSome
    rw [settle_of_settings hsettings]
    exact hsettings
  · exact hmade hr

theorem service_refreshStatus (w : Workspace) (service : Service) :
    (service.refreshStatus w).2 = (service.startTracker w).2 := by
  unfold refreshStatus
  obtain ⟨found, next⟩ := service.startTracker w
  cases found with
  | error f => rfl
  | ok r =>
    simp only
    cases r.status w <;> rfl

theorem service_refresh (w : Workspace) (service : Service) :
    (service.refresh w).2.1 = (service.startTracker w).2 := by
  unfold refresh
  obtain ⟨found, next⟩ := service.startTracker w
  cases found with
  | error f => rfl
  | ok r =>
    simp only
    cases r.refreshAll w <;> rfl

/-- **A request that asks the session nothing** leaves the session alone; it
keeps the settings only for the tracker. -/
theorem follows_handle_of_no_call {service : Service} (h : service.Settled) (w : Workspace)
    {r : Request} (hcall : r.call? = none) : service.Follows w r (service.handle w r).2.1 := by
  cases hroute : r.route? with
  | none =>
    rw [handle_of_no_route hroute]
    exact follows_self h hcall (by simp [Request.isForTracker, hroute])
  | some route =>
    cases route with
    | refresh =>
      rw [handle_of_refresh hroute, service_refresh]
      exact follows_startTracker h hcall (by simp [Request.isForTracker, hroute])
    | refreshStatus =>
      rw [handle_of_route hroute (by simp), answer, service_refreshStatus]
      exact follows_startTracker h hcall (by simp [Request.isForTracker, hroute])
    | mapping => simp [Request.call?, hroute] at hcall
    | health =>
      rw [handle_of_route hroute (by simp), answer]
      exact follows_self h hcall (by simp [Request.isForTracker, hroute])
    | _ =>
      -- the routes with a body that is not taken
      have htracker : r.isForTracker = false := by simp [Request.isForTracker, hroute]
      have hbody : r.callRead? = none := by rw [← Request.call?_eq_callRead?, hcall]
      simp only [Request.callRead?, hroute, Option.map_eq_none_iff] at hbody
      rw [handle_of_route hroute (by simp), answer]
      obtain ⟨refusal, hrefused⟩ := withBody_of_no_body hbody service _
      rw [hrefused]
      exact follows_self h hcall htracker

/-- **What is kept after any request.** -/
theorem follows_handle {service : Service} (h : service.Settled) {w : Workspace} {r : Request}
    (hkeys : r.call?.isSome → service.FindsTextKeys w) :
    service.Follows w r (service.handle w r).2.1 := by
  cases hcall : r.call? with
  | none => exact follows_handle_of_no_call h w hcall
  | some a =>
    rw [handle_of_call h (hkeys (by rw [hcall]; rfl)) hcall]
    exact follows_afterCall h hcall

/-- A call that finds a session is answered by it and changes it. -/
theorem handle_of_knownSession {service : Service} (h : service.Settled) {w : Workspace}
    {r : Request} {a : Session.Action} {s : Session} (hkeys : service.FindsTextKeys w)
    (hcall : r.call? = some a) (hs : service.knownSession w = .ok s) :
    (service.handle w r).1 = .ofAnswer (s.answer w a) ∧
      (service.handle w r).2.1.session = some (s.step w (.action a)).2.1 := by
  rw [handle_of_call h hkeys hcall, replyTo, afterCall, hs]
  exact ⟨rfl, rfl⟩

/-- A call that finds no session fails and makes none. -/
theorem handle_of_no_session {service : Service} (h : service.Settled) {w : Workspace}
    {r : Request} {a : Session.Action} {f : Fault} (hkeys : service.FindsTextKeys w)
    (hcall : r.call? = some a) (hs : service.knownSession w = .error f) :
    ((service.handle w r).1.status = 400 ∨ (service.handle w r).1.status = 500) ∧
      (service.handle w r).2.1.session = none := by
  rw [handle_of_call h hkeys hcall, replyTo, afterCall, hs]
  exact ⟨a.status_replyWithout f, rfl⟩

end Service

end TwinQuery
