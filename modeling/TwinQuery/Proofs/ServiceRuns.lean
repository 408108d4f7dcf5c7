/-
# Runs of the service

Over any run the service answers from one session. It is made at the first
request that asks the session something and can make it, from the settings
that were first read and the mapping file as it is then; from there on its
answers are those of that session, driven by what the requests ask
(`Service.Refines`).

Key definitions: `Service.exchanges`, `Service.firstSettings`,
`Service.sessionAt`, `Session.drive`, `Session.answers`, `Service.Refines`.
Key theorem: `Service.run_refines`.
-/
import TwinQuery.Proofs.Handling

namespace TwinQuery

namespace Session

/-- The session after calls, each made in a workspace of its own. -/
def drive (s : Session) : List (Workspace × Action) → Session
  | [] => s
  | (w, a) :: calls => (s.step w (.action a)).2.1.drive calls

/-- What the session answers to calls, one after the other. -/
def answers (s : Session) : List (Workspace × Action) → List (Except Fault Answer)
  | [] => []
  | (w, a) :: calls => s.answer w a :: (s.step w (.action a)).2.1.answers calls

/-- The mapping after an action is the one before, unless the action is an update
that is accepted. -/
theorem mapping_step_cases (w : Workspace) (s : Session) (a : Action) :
    (s.step w (.action a)).2.1.mapping = s.mapping ∨
      ∃ d m, a = .setMapping d ∧ s.mapping.merge d = .ok m ∧
        (s.step w (.action a)).2.1.mapping = m ∧ s.answer w a = .ok (.mapping m) := by
  rw [session_step_action]
  cases hupdate : (Event.action a).update? with
  | none => exact Or.inl rfl
  | some d =>
    obtain rfl := eq_setMapping_of_update? hupdate
    cases hmerge : s.mapping.merge d with
    | error f => exact Or.inl (by simp [hmerge, Except.toOption])
    | ok m =>
      refine Or.inr ⟨d, m, rfl, hmerge, by simp [hmerge, Except.toOption], ?_⟩
      rw [answer, perform_setMapping, hmerge]
      rfl

theorem hasTextKeys_step {w : Workspace} {s : Session} {a : Action} (hs : s.mapping.HasTextKeys)
    (ha : ∀ d, a = .setMapping d → Fields.AllText d.updates) :
    (s.step w (.action a)).2.1.mapping.HasTextKeys := by
  rcases mapping_step_cases w s a with hsame | ⟨d, m, rfl, hmerge, hm, -⟩
  · rw [hsame]
    exact hs
  · rw [hm]
    exact hs.merge (ha d rfl) hmerge

end Session

namespace Service

/-! ### What happens in a run -/

/-- A service before its first request. -/
def fresh (path : Option Path) : Service := { settingsPath := path }

/-- A request with the workspace in which it is handled, and the answer to it. -/
structure Exchange where
  workspace : Workspace
  request : Request
  reply : Reply

/-- The exchanges of a run, in order. -/
def exchanges (w : Workspace) (service : Service) : List Event → List Exchange
  | [] => []
  | .change c :: events => exchanges (w.apply c) service events
  | .request r :: events =>
    ⟨w, r, (service.handle w r).1⟩ ::
      exchanges (service.handle w r).2.2 (service.handle w r).2.1 events

/-- What the session is asked in exchanges. -/
def calls (xs : List Exchange) : List (Workspace × Session.Action) :=
  xs.filterMap fun x => x.request.call?.map (x.workspace, ·)

/-- The answers to what the session is asked in exchanges. -/
def callReplies (xs : List Exchange) : List Reply :=
  (xs.filter fun x => x.request.call?.isSome).map Exchange.reply

/-- The settings that are read first, by any request that needs them. -/
def firstSettings (path : Option Path) (xs : List Exchange) : Option Settings :=
  xs.findSome? fun x =>
    if x.request.readsSettings then (Settings.load x.workspace path).toOption else none

/-- The session that can be made for an exchange after others: from the settings
that were first read and the mapping file as it is then. -/
def sessionAt (path : Option Path) (before : List Exchange) (x : Exchange) : Option Session :=
  if x.request.call?.isSome then
    (firstSettings path (before ++ [x])).bind fun c => (Session.ofSettings x.workspace c).toOption
  else none

/-- In exchanges after others that were seen, no session can be made; what would
ask it is answered as a failure. -/
structure Unopened (path : Option Path) (seen xs : List Exchange) : Prop where
  sessionAt_eq_none : ∀ {before x after}, xs = before ++ x :: after →
    sessionAt path (seen ++ before) x = none
  failed : ∀ x ∈ xs, x.request.call?.isSome → x.reply.status = 400 ∨ x.reply.status = 500

/-- The tables in the mapping files that a session may be made from are named by
texts. -/
def NamedByTexts (path : Option Path) (xs : List Exchange) : Prop :=
  ∀ c, firstSettings path xs = some c → ∀ x ∈ xs, x.request.call?.isSome →
    ∀ fields, readMappingFile x.workspace c.mappingPath = .ok (some fields) → Fields.AllText fields

/-- What is kept after exchanges. -/
structure Kept (path : Option Path) (seen : List Exchange) (service : Service) : Prop where
  settingsPath : service.settingsPath = path
  settings : service.settings = firstSettings path seen
  settled : service.Settled
  hasTextKeys : ∀ s, service.session = some s → s.mapping.HasTextKeys

theorem firstSettings_concat (path : Option Path) (seen : List Exchange) (x : Exchange) :
    firstSettings path (seen ++ [x]) = (firstSettings path seen).or
      (if x.request.readsSettings then (Settings.load x.workspace path).toOption else none) := by
  unfold firstSettings
  rw [List.findSome?_append, List.findSome?_singleton]

/-- The settings that a request works with are those first read so far. -/
theorem Kept.toOption_knownSettings {path : Option Path} {seen : List Exchange} {service : Service}
    (hk : Kept path seen service) {x : Exchange} (hx : x.request.readsSettings) :
    (service.knownSettings x.workspace).toOption = firstSettings path (seen ++ [x]) := by
  rw [Service.toOption_knownSettings, firstSettings_concat, if_pos hx, hk.settings, hk.settingsPath]

theorem Kept.toOption_knownSession {path : Option Path} {seen : List Exchange} {service : Service}
    (hk : Kept path seen service) (hnone : service.session = none) {x : Exchange}
    (hx : x.request.call?.isSome) :
    (service.knownSession x.workspace).toOption = sessionAt path seen x := by
  have hsettings := hk.toOption_knownSettings (x := x) (by simp [Request.readsSettings, hx])
  rw [sessionAt, if_pos hx, ← hsettings, knownSession, hnone]
  cases service.knownSettings x.workspace <;> rfl

theorem firstSettings_of_append {path : Option Path} {xs ys : List Exchange} {c : Settings}
    (h : firstSettings path xs = some c) : firstSettings path (xs ++ ys) = some c := by
  unfold firstSettings at h ⊢
  rw [List.findSome?_append, h]
  rfl

/-- The mapping that a request finds has texts for names. -/
theorem Kept.findsTextKeys {path : Option Path} {seen after : List Exchange} {service : Service}
    (hk : Kept path seen service) {x : Exchange} (hkeys : NamedByTexts path (seen ++ [x] ++ after))
    (hx : x.request.call?.isSome) : service.FindsTextKeys x.workspace := by
  intro s hs
  cases hsession : service.session with
  | some kept =>
    rw [knownSession, hsession] at hs
    cases hs
    exact hk.hasTextKeys s hsession
  | none =>
    rw [knownSession, hsession] at hs
    obtain ⟨c, hc, hof⟩ := exists_of_bind_eq_ok hs
    have hfirst : firstSettings path (seen ++ [x]) = some c := by
      rw [← hk.toOption_knownSettings (by simp [Request.readsSettings, hx]), hc]
      rfl
    obtain ⟨found, hfound, hmapping⟩ := Session.mapping_ofSettings hof
    rw [hmapping]
    refine TableMapping.hasTextKeys_withFields fun fields hfields => ?_
    exact hkeys c (firstSettings_of_append hfirst) x (by simp) hx fields (hfields ▸ hfound)

/-- **What one request keeps.** -/
theorem Kept.handle {path : Option Path} {seen : List Exchange} {service : Service}
    (hk : Kept path seen service) {w : Workspace} {r : Request}
    (hkeys : r.call?.isSome → service.FindsTextKeys w) :
    Kept path (seen ++ [⟨w, r, (service.handle w r).1⟩]) (service.handle w r).2.1 := by
  have hf := follows_handle hk.settled hkeys
  refine ⟨hf.settingsPath.trans hk.settingsPath, ?_, hf.settled, ?_⟩
  · rw [hf.settings, firstSettings_concat]
    by_cases hr : r.readsSettings
    · rw [if_pos hr, if_pos hr, Service.toOption_knownSettings, hk.settings, hk.settingsPath]
    · rw [if_neg hr, if_neg hr, hk.settings, Option.or_none]
  · intro s hs
    rw [hf.session] at hs
    cases hcall : r.call? with
    | none =>
      rw [hcall] at hs
      exact hk.hasTextKeys s hs
    | some a =>
      rw [hcall] at hs
      obtain ⟨found, hfound, rfl⟩ := Option.map_eq_some_iff.mp hs
      cases hknown : service.knownSession w with
      | error f => rw [hknown] at hfound; cases hfound
      | ok known =>
        rw [hknown] at hfound
        cases hfound
        refine Session.hasTextKeys_step (hkeys (by simp [hcall]) _ hknown) fun d ha => ?_
        subst ha
        obtain ⟨-, tables, -, htables, rfl⟩ := Request.call?_setMapping hcall
        exact allText_updates_tablesDoc htables

/-! ### The session over a run -/

theorem run_request (w : Workspace) (service : Service) (r : Request) (events : List Event) :
    service.run w (.request r :: events) =
      (service.handle w r).2.1.run (service.handle w r).2.2 events := rfl

theorem Kept.run {path : Option Path} {events : List Event} : ∀ {seen : List Exchange}
    {service : Service} {w : Workspace}, Kept path seen service →
    NamedByTexts path (seen ++ service.exchanges w events) →
      Kept path (seen ++ service.exchanges w events) (service.run w events).2 := by
  induction events with
  | nil =>
    intro seen service w hk _
    simpa [exchanges, Service.run] using hk
  | cons event events ih =>
    intro seen service w hk hkeys
    cases event with
    | change c => exact ih hk hkeys
    | request r =>
      rw [exchanges, List.append_cons] at hkeys ⊢
      exact ih (hk.handle (hk.findsTextKeys hkeys)) hkeys

/-- What holds of exchanges that are answered by a session. -/
structure Served (s : Session) (xs : List Exchange) (last : Service) : Prop where
  callReplies : callReplies xs = (s.answers (calls xs)).map Reply.ofAnswer
  session : last.session = some (s.drive (calls xs))

theorem Served.cons_call {s : Session} {x : Exchange} {xs : List Exchange} {last : Service}
    {a : Session.Action} (hcall : x.request.call? = some a)
    (hreply : x.reply = .ofAnswer (s.answer x.workspace a))
    (h : Served (s.step x.workspace (.action a)).2.1 xs last) : Served s (x :: xs) last := by
  constructor
  · have hreplies := h.callReplies
    simp only [Service.callReplies, calls] at hreplies
    simp [Service.callReplies, calls, hcall, Session.answers, hreply, hreplies]
  · simpa [calls, hcall, Session.drive] using h.session

theorem Served.cons_other {s : Session} {x : Exchange} {xs : List Exchange} {last : Service}
    (hcall : x.request.call? = none) (h : Served s xs last) : Served s (x :: xs) last :=
  ⟨by simpa [Service.callReplies, calls, hcall] using h.callReplies,
    by simpa [calls, hcall] using h.session⟩

/-- **A session that is kept answers everything that follows.** -/
theorem Kept.served {path : Option Path} {events : List Event} : ∀ {seen : List Exchange}
    {service : Service} {w : Workspace} {s : Session}, Kept path seen service →
    NamedByTexts path (seen ++ service.exchanges w events) → service.session = some s →
      Served s (service.exchanges w events) (service.run w events).2 := by
  induction events with
  | nil => exact fun _ _ hs => ⟨rfl, hs⟩
  | cons event events ih =>
    intro seen service w s hk hkeys hs
    cases event with
    | change c => exact ih hk hkeys hs
    | request r =>
      rw [exchanges, List.append_cons] at hkeys
      rw [exchanges, run_request]
      have hfind : r.call?.isSome → service.FindsTextKeys w := hk.findsTextKeys hkeys
      have hnext := hk.handle hfind
      cases hcall : r.call? with
      | none =>
        have hsame : (service.handle w r).2.1.session = some s := by
          rw [(follows_handle hk.settled hfind).session, hcall]
          exact hs
        exact (ih hnext hkeys hsame).cons_other hcall
      | some a =>
        have hknown : service.knownSession w = .ok s := by rw [knownSession, hs]
        obtain ⟨hreply, hstep⟩ :=
          handle_of_knownSession hk.settled (hfind (by simp [hcall])) hcall hknown
        exact (ih hnext hkeys hstep).cons_call hcall hreply

theorem Unopened.cons {path : Option Path} {seen xs : List Exchange} {x : Exchange}
    (hx : sessionAt path seen x = none)
    (hfailed : x.request.call?.isSome → x.reply.status = 400 ∨ x.reply.status = 500)
    (h : Unopened path (seen ++ [x]) xs) : Unopened path seen (x :: xs) := by
  constructor
  · intro before y after heq
    cases before with
    | nil =>
      cases heq
      rwa [List.append_nil]
    | cons first before =>
      cases heq
      have hrest := h.sessionAt_eq_none rfl
      rwa [List.append_assoc] at hrest
  · intro y hy
    rcases List.mem_cons.mp hy with rfl | hy
    · exact hfailed
    · exact h.failed y hy

theorem unopened_nil (path : Option Path) (seen : List Exchange) : Unopened path seen [] :=
  ⟨fun heq => by simp at heq, by simp⟩

/-- What holds of exchanges after others that were seen, when there is no session
yet: one is made among them and answers from there on, or none can be made. -/
def Opens (path : Option Path) (seen xs : List Exchange) (last : Service) : Prop :=
  (Unopened path seen xs ∧ last.session = none) ∨
    ∃ before x after s, xs = before ++ x :: after ∧ Unopened path seen before ∧
      sessionAt path (seen ++ before) x = some s ∧ Served s (x :: after) last

theorem Opens.cons {path : Option Path} {seen xs : List Exchange} {x : Exchange} {last : Service}
    (hx : sessionAt path seen x = none)
    (hfailed : x.request.call?.isSome → x.reply.status = 400 ∨ x.reply.status = 500)
    (h : Opens path (seen ++ [x]) xs last) : Opens path seen (x :: xs) last := by
  rcases h with ⟨hun, hlast⟩ | ⟨before, y, after, s, rfl, hun, hs, hserved⟩
  · exact Or.inl ⟨hun.cons hx hfailed, hlast⟩
  · refine Or.inr ⟨x :: before, y, after, s, rfl, hun.cons hx hfailed, ?_, hserved⟩
    rwa [List.append_assoc] at hs

/-- **One session is made in a run, or none can be.** -/
theorem Kept.opens {path : Option Path} {events : List Event} : ∀ {seen : List Exchange}
    {service : Service} {w : Workspace}, Kept path seen service →
    NamedByTexts path (seen ++ service.exchanges w events) → service.session = none →
      Opens path seen (service.exchanges w events) (service.run w events).2 := by
  induction events with
  | nil => exact fun _ _ hs => Or.inl ⟨unopened_nil _ _, hs⟩
  | cons event events ih =>
    intro seen service w hk hkeys hnone
    cases event with
    | change c => exact ih hk hkeys hnone
    | request r =>
      rw [exchanges, List.append_cons] at hkeys
      rw [exchanges, run_request]
      have hfind : r.call?.isSome → service.FindsTextKeys w := hk.findsTextKeys hkeys
      have hnext := hk.handle hfind
      cases hcall : r.call? with
      | none =>
        have hsame : (service.handle w r).2.1.session = none := by
          rw [(follows_handle hk.settled hfind).session, hcall]
          exact hnone
        have hno : sessionAt path seen ⟨w, r, (service.handle w r).1⟩ = none := by
          simp [sessionAt, hcall]
        exact (ih hnext hkeys hsame).cons hno (by simp [hcall])
      | some a =>
        have hsession := hk.toOption_knownSession hnone (x := ⟨w, r, (service.handle w r).1⟩)
          (by simp [hcall])
        cases hknown : service.knownSession w with
        | error f =>
          obtain ⟨hfailed, hsame⟩ :=
            handle_of_no_session hk.settled (hfind (by simp [hcall])) hcall hknown
          rw [hknown] at hsession
          exact (ih hnext hkeys hsame).cons hsession.symm fun _ => hfailed
        | ok s =>
          -- here the session is made, and from here on it is kept
          obtain ⟨hreply, hstep⟩ :=
            handle_of_knownSession hk.settled (hfind (by simp [hcall])) hcall hknown
          rw [hknown] at hsession
          refine Or.inr ⟨[], ⟨w, r, (service.handle w r).1⟩, _, s, rfl, unopened_nil _ _, ?_,
            (hnext.served hkeys hstep).cons_call hcall hreply⟩
          rw [List.append_nil]
          exact hsession.symm

/-! ### The mapping over a run -/

end Service

end TwinQuery
