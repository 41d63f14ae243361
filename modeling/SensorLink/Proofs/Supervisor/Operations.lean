/-
# What the operations of the supervisor do

The callbacks of the supervisor are made of a few operations.  Each is described
here by the fields it sets, up to the loop, of which only what steers matters:
leaving records changes nothing else, dropping the state ends a generation,
tearing down gives up all that belongs to a connection, and becoming ready
creates an armed ingestion for it.
-/

import SensorLink.Proofs.Ingestion.Work
import SensorLink.Supervisor.Step

namespace SensorLink

open Link (Loop Notice Settings Surroundings TaskId TimerId)

namespace Connection.Machine

variable {σ : Type}

/-- The machine after the state was left for disconnected, unless it was there already. -/
def dropped (m : Machine σ) : Machine σ :=
  if m.state = .disconnected then m else m.enter .disconnected none

@[simp]
theorem dropped_state (m : Machine σ) : m.dropped.state = .disconnected := by
  rw [dropped]
  split
  · assumption
  · rfl

theorem generation_le_dropped (m : Machine σ) : m.generation ≤ m.dropped.generation := by
  rw [dropped]
  split
  · exact Nat.le_refl _
  · exact Nat.le_succ m.generation

/-- Leaving a state for disconnected ends its generation. -/
theorem generation_lt_dropped {m : Machine σ} (connected : m.state ≠ .disconnected) :
    m.generation < m.dropped.generation := by
  rw [dropped, if_neg connected]
  exact Nat.lt_succ_self m.generation

theorem dropped_session {m : Machine σ} (idle : m.state = .disconnected → m.session = none) :
    m.dropped.session = none := by
  rw [dropped]
  split
  · exact idle ‹_›
  · rfl

/-- Every state but disconnected may be left for it. -/
theorem transition_disconnected {m : Machine σ} (connected : m.state ≠ .disconnected) :
    (m.transition .disconnected none).1 = m.dropped := by
  rw [dropped, if_neg connected, transition]
  cases known : m.state with
  | disconnected => exact absurd known connected
  | connecting => rfl
  | discovering => rfl
  | ready => rfl

end Connection.Machine

namespace Supervisor

variable {δ : Type}

/-- Nothing but the loop changed, on which the same things steer, and no listener was called. -/
def Journals (s s' : Supervisor δ) : Prop :=
  ∃ loop, s.loop.Keeps [] loop ∧ s' = { s with loop }

namespace Journals

theorem refl (s : Supervisor δ) : s.Journals s :=
  ⟨s.loop, .refl _, rfl⟩

theorem trans {s s' s'' : Supervisor δ} (first : s.Journals s') (second : s'.Journals s'') :
    s.Journals s'' := by
  obtain ⟨loop, keeps, rfl⟩ := first
  obtain ⟨loop', keeps', rfl⟩ := second
  exact ⟨loop', keeps.trans keeps', rfl⟩

theorem record (s : Supervisor δ) (cfg : Settings δ) (r : Journal.Record) :
    s.Journals (s.onLink (·.record cfg r)) := by
  unfold onLink Link.record
  split
  · exact ⟨_, .journal s.loop r, rfl⟩
  · exact refl s

theorem say (s : Supervisor δ) (cfg : Settings δ) (level : Journal.Level) (text : String) :
    s.Journals (s.say cfg level text) :=
  record s cfg _

theorem complain (s : Supervisor δ) (cfg : Settings δ) (text : String) (f : Failure) :
    s.Journals (s.complain cfg text f) :=
  record s cfg _

/-- An effect that neither cancels a task nor calls a listener. -/
theorem tell (s : Supervisor δ) (e : Link.Effect δ) (quiet : e.notice? = none)
    (harmless : ∀ task, e ≠ .cancel task) : s.Journals (s.tell e) :=
  ⟨_, .silent s.loop e quiet harmless, rfl⟩

/-- Reading the state of a link leaves at most a record. -/
theorem checkLink (s : Supervisor δ) (cfg : Settings δ) (env : Surroundings) (session : Nat) :
    s.Journals (s.checkLink cfg env session).1 := by
  rw [Supervisor.checkLink]
  split
  · exact refl s
  · split
    · exact refl s
    · exact record s cfg _

/-- A failure that leaves a callback is none of the listeners' business. -/
theorem report {s s' : Supervisor δ} {failure : Option Failure} (journals : s.Journals s') :
    s.Journals (report (s', failure)) := by
  rw [Supervisor.report]
  cases failure with
  | none => exact journals
  | some f => exact journals.trans ⟨_, .silent s'.loop (.escaped f) rfl nofun, rfl⟩

theorem listTree {s s' : Supervisor δ} {cfg : Settings δ} {tree : Gatt.Tree}
    (listed : s.listTree cfg tree = .ok s') : s.Journals s' := by
  unfold Supervisor.listTree at listed
  split at listed
  · cases text : tree.listing with
    | error f => simp [text, Except.map] at listed
    | ok text =>
      simp only [‹tree.listing = _›, Except.map, Except.ok.injEq] at listed
      rw [← listed]
      exact say s cfg _ _
  · cases listed
    exact refl s

theorem showHandles (s : Supervisor δ) (cfg : Settings δ) (handles : Gatt.HandleMap) :
    s.Journals (s.showHandles cfg handles) := by
  unfold Supervisor.showHandles
  split
  · exact say s cfg _ _
  · exact refl s

/-- Leaving a list of records. -/
theorem records (s : Supervisor δ) (cfg : Settings δ) (rs : List Journal.Record) :
    s.Journals (s.onLink fun l => rs.foldl (fun l r => l.record cfg r) l) := by
  induction rs generalizing s with
  | nil => exact refl s
  | cons r rest ih => exact (record s cfg r).trans (ih (s.onLink (·.record cfg r)))

end Journals

/-- A link that is up belongs to a session that holds its client. -/
theorem isReleased_of_checkLink {s : Supervisor δ} {cfg : Settings δ} {env : Surroundings}
    {session : Nat} (up : (s.checkLink cfg env session).2 = true) :
    s.isReleased session = false := by
  unfold checkLink at up
  split at up
  · cases up
  · simpa using ‹¬s.isReleased session = true›

/-- A session has no client any more, or the link of its client is not up. -/
def Dead (s : Supervisor δ) (env : Surroundings) (session : Nat) : Prop :=
  s.isReleased session = true ∨ env.link session ≠ .reported true

/-- A link that is not up, as far as one can tell, is down or belongs to no client. -/
theorem dead_of_checkLink {s : Supervisor δ} {cfg : Settings δ} {env : Surroundings}
    {session : Nat} (down : (s.checkLink cfg env session).2 = false) : s.Dead env session := by
  unfold checkLink at down
  split at down
  · exact .inl ‹_›
  · split at down
    · rename_i reading
      exact .inr (by simpa [reading] using down)
    · rename_i reading
      exact .inr (by simp [reading])

theorem reported_of_checkLink {s : Supervisor δ} {cfg : Settings δ} {env : Surroundings}
    {session : Nat} (up : (s.checkLink cfg env session).2 = true) :
    env.link session = .reported true := by
  unfold checkLink at up
  split at up
  · cases up
  · split at up
    · rename_i reading
      rw [reading]
      exact congrArg _ up
    · cases up

theorem transition_eq (s : Supervisor δ) (cfg : Settings δ) (target : Connection.State)
    (session : Option Nat) :
    ∃ loop, s.loop.Keeps [] loop ∧ s.onLink (·.transition cfg target session) =
      { s with machine := (s.machine.transition target session).1, loop } := by
  obtain ⟨loop, keeps, same⟩ := Journals.record s cfg (s.machine.transitionRecord target)
  refine ⟨loop, keeps, ?_⟩
  have link : s.toLink.record cfg (s.machine.transitionRecord target) = { s.toLink with loop } :=
    congrArg Supervisor.toLink same
  simp only [onLink, Link.transition, link]

theorem dropState_eq (s : Supervisor δ) (cfg : Settings δ) :
    ∃ loop, s.loop.Keeps [] loop ∧
      s.dropState cfg = { s with machine := s.machine.dropped, loop } := by
  rw [dropState]
  split
  · refine ⟨s.loop, .refl _, ?_⟩
    rw [Connection.Machine.dropped, if_pos ‹_›]
  · rw [← Connection.Machine.transition_disconnected ‹_›]
    exact transition_eq s cfg .disconnected none

/-- A timer that is only live if it is the one taken back is not live afterwards. -/
theorem not_mem_elim_unschedule {l : Loop δ} {old : Option TimerId} {timer : TimerId}
    (known : timer ∈ l.timers → old = some timer) :
    timer ∉ (old.elim l l.unschedule).timers := by
  intro live
  cases old with
  | none => exact nomatch known live
  | some gone =>
    obtain ⟨before, other⟩ := (Loop.mem_timers_unschedule _ _ _).mp live
    exact other (Option.some.inj (known before)).symm

/-- The loop after the discovery timer was taken back. -/
def untimedLoop (s : Supervisor δ) : Loop δ :=
  s.discoveryTimer.elim s.loop s.loop.unschedule

theorem cancelDiscoveryTimer_eq (s : Supervisor δ) :
    s.cancelDiscoveryTimer = { s with discoveryTimer := none, loop := s.untimedLoop } := by
  unfold cancelDiscoveryTimer untimedLoop
  split
  · rw [‹s.discoveryTimer = some _›]
    rfl
  · have absent : s.discoveryTimer = none := ‹_›
    rw [absent, Option.elim_none, ← absent]

/-- The discovery timer was taken back. -/
theorem not_mem_untimedLoop (s : Supervisor δ) {timer : TimerId}
    (known : timer ∈ s.loop.timers → s.discoveryTimer = some timer) :
    timer ∉ s.untimedLoop.timers :=
  not_mem_elim_unschedule known

theorem wanes_untimedLoop (s : Supervisor δ) : s.loop.Wanes [] s.untimedLoop := by
  rw [untimedLoop]
  cases s.discoveryTimer with
  | none => exact .refl _
  | some timer => exact .unschedule _ _

theorem tellLost_eq (s : Supervisor δ) (cfg : Settings δ) (env : Surroundings) :
    ∃ loop, s.loop.Keeps [.lost] loop ∧ s.tellLost cfg env = { s with loop } := by
  have told := Loop.Keeps.emit s.loop .lost nofun
  rw [tellLost]
  split
  · obtain ⟨loop, keeps, same⟩ := Journals.record (s.tell .lost) cfg
      (Journal.caught "on_lost failed" ‹_›)
    exact ⟨loop, told.after keeps, same⟩
  · exact ⟨_, told, rfl⟩

theorem tellReady_eq (s : Supervisor δ) (cfg : Settings δ) (env : Surroundings) :
    ∃ loop, s.loop.Keeps [.ready] loop ∧ s.tellReady cfg env = { s with loop } := by
  have told := Loop.Keeps.emit s.loop .ready nofun
  rw [tellReady]
  split
  · obtain ⟨loop, keeps, same⟩ := Journals.record (s.tell .ready) cfg
      (Journal.caught "on_ready failed" ‹_›)
    exact ⟨loop, told.after keeps, same⟩
  · exact ⟨_, told, rfl⟩

/-- Stop the ingestion in charge, and forget it. -/
def dropIngestion (s : Supervisor δ) : Supervisor δ :=
  match s.ingestion with
  | some i => { s.onLink (·.disarm i) with ingestion := none }
  | none => s

/-- Release the session in charge, and forget it. -/
def dropSession (s : Supervisor δ) : Supervisor δ :=
  match s.session with
  | some session => { s.onLink (·.release session) with session := none }
  | none => s

theorem dropIngestion_eq (s : Supervisor δ) :
    ∃ loop, s.loop.Wanes [] loop ∧
      s.dropIngestion = { s with
        ingestions := s.ingestion.elim s.ingestions fun i =>
          s.ingestions.modify i Link.Ingestion.disarmed
        ingestion := none
        loop } := by
  rw [dropIngestion]
  split
  · obtain ⟨loop, wanes, disarmed⟩ := s.toLink.disarm_eq ‹_›
    refine ⟨loop, wanes, ?_⟩
    simp [onLink, disarmed, ‹s.ingestion = some _›]
  · refine ⟨s.loop, .refl _, ?_⟩
    have absent : s.ingestion = none := ‹_›
    rw [absent, Option.elim_none, ← absent]

theorem dropSession_eq (s : Supervisor δ) :
    s.dropSession = { s with
      sessions := s.session.elim s.sessions fun x =>
        s.sessions.modify x fun session => { session with released := true }
      session := none } := by
  rw [dropSession]
  split
  · simp [onLink, Link.release, ‹s.session = some _›]
  · have absent : s.session = none := ‹_›
    rw [absent, Option.elim_none, ← absent]

/-- The supervisor after a teardown, but for its loop. -/
def torn (s : Supervisor δ) : Supervisor δ :=
  { s with
    machine := s.machine.dropped
    store := s.store.setConnected false
    sessions := s.session.elim s.sessions fun x =>
      s.sessions.modify x fun session => { session with released := true }
    ingestions := s.ingestion.elim s.ingestions fun i =>
      s.ingestions.modify i Link.Ingestion.disarmed
    session := none
    handleMap := none
    ingestion := none
    discoveryTimer := none }

/-- The listeners hear of a teardown if the connection was ready. -/
def partingNotices (s : Supervisor δ) : List Notice :=
  if s.machine.isReady then [.lost] else []

/-- The parts of a teardown, one after another. -/
theorem teardown_parts (s : Supervisor δ) (cfg : Settings δ) (env : Surroundings) :
    s.teardown cfg env =
      let t := { s.cancelDiscoveryTimer.dropIngestion with handleMap := none }.dropSession.dropState
        cfg
      let t := t.onLink fun l => { l with store := l.store.setConnected false }
      if s.machine.isReady then t.tellLost cfg env else t :=
  rfl

/-- A teardown takes the discovery timer back and stops the ingestion before anything else. -/
theorem teardown_dropped (s : Supervisor δ) (cfg : Settings δ) (env : Surroundings) :
    ∃ loop, s.cancelDiscoveryTimer.dropIngestion.loop.Keeps s.partingNotices loop ∧
      s.teardown cfg env = { s.torn with loop } := by
  have cancelled := s.cancelDiscoveryTimer_eq
  obtain ⟨loop₂, -, stopped⟩ := s.cancelDiscoveryTimer.dropIngestion_eq
  have released := { s.cancelDiscoveryTimer.dropIngestion with handleMap := none }.dropSession_eq
  obtain ⟨loop₃, keeps₃, left⟩ :=
    { s.cancelDiscoveryTimer.dropIngestion with handleMap := none }.dropSession.dropState_eq cfg
  rw [released] at left keeps₃
  rw [teardown_parts, released, left, stopped, cancelled]
  rw [stopped, cancelled] at keeps₃
  rw [partingNotices]
  by_cases ready : s.machine.isReady = true
  · rw [if_pos ready]
    simp only [ready, if_true]
    obtain ⟨loop₄, keeps₄, told⟩ := tellLost_eq { s.torn with loop := loop₃ } cfg env
    exact ⟨loop₄, keeps₃.trans keeps₄, told⟩
  · rw [if_neg ready]
    simp only [ready, if_false, Bool.false_eq_true]
    exact ⟨loop₃, keeps₃, rfl⟩

/-- What is stopped with the ingestion was waited for once the discovery timer was taken back. -/
theorem teardown_untimed (s : Supervisor δ) (cfg : Settings δ) (env : Surroundings) :
    ∃ loop, s.untimedLoop.Wanes s.partingNotices loop ∧
      s.teardown cfg env = { s.torn with loop } := by
  obtain ⟨loop, keeps, torn⟩ := s.teardown_dropped cfg env
  obtain ⟨loop', wanes, dropped⟩ := s.cancelDiscoveryTimer.dropIngestion_eq
  rw [dropped] at keeps
  rw [s.cancelDiscoveryTimer_eq] at wanes
  exact ⟨loop, wanes.trans keeps.wanes, torn⟩

theorem teardown_eq (s : Supervisor δ) (cfg : Settings δ) (env : Surroundings) :
    ∃ loop, s.loop.Wanes s.partingNotices loop ∧ s.teardown cfg env = { s.torn with loop } := by
  obtain ⟨loop, wanes, torn⟩ := s.teardown_untimed cfg env
  exact ⟨loop, wanes.before s.wanes_untimedLoop, torn⟩

/-- A session that gives its client up holds it no longer, and no other session is touched. -/
theorem isReleased_release (s : Supervisor δ) (x y : Nat) :
    (s.onLink (·.release x)).isReleased y = (decide (x = y) || s.isReleased y) := by
  rw [Link.isReleased, onLink, Link.release, List.getElem?_modify, Link.isReleased]
  by_cases same : x = y
  · cases s.sessions[y]? <;> simp [same]
  · cases s.sessions[y]? <;> simp [same]

/-- A session that gives its client up is forgotten, if it is the one in charge. -/
theorem release_forget_eq (s : Supervisor δ) (x : Nat) :
    (s.onLink (·.release x)).forget x = { s with
      sessions := s.sessions.modify x fun session => { session with released := true }
      session := if s.session = some x then none else s.session } := by
  unfold forget onLink Link.release
  by_cases own : s.session = some x
  · simp only [own, if_true]
  · simp only [own, if_false]

theorem scheduleConnect_eq {s : Supervisor δ} (running : s.stopped = false) (delay : δ) :
    s.scheduleConnect delay = { s with
      retryTimer := some (.retry s.retries)
      retries := s.retries + 1
      loop := s.loop.replace s.retryTimer (.retry s.retries) (.delay delay) } := by
  have runs : ¬s.stopped = true := by simp [running]
  rw [scheduleConnect, if_neg runs, Loop.replace]
  cases s.retryTimer <;> rfl

/-- Nothing is scheduled once the supervisor is stopped. -/
theorem scheduleConnect_of_stopped {s : Supervisor δ} (stopped : s.stopped = true) (delay : δ) :
    s.scheduleConnect delay = s := by
  rw [scheduleConnect, if_pos stopped]

/-- Scheduling a retry counts a failure if there is a delay to wait, and sets the retry timer
unless the supervisor is stopped.  No task moves, and no other timer is touched. -/
theorem scheduleRetry_eq (s : Supervisor δ) (cfg : Settings δ) :
    ∃ failures retryTimer retries loop,
      (s.scheduleRetry cfg).1 = { s with failures, retryTimer, retries, loop } ∧
      (∀ delay, cfg.retryDelay s.failures = .ok delay → failures = s.failures + 1) ∧
      (s.stopped = true → retryTimer = s.retryTimer) ∧
      (∀ task, s.loop.Moves task loop) ∧
      ∀ n g, .discovery n g ∈ loop.timers → .discovery n g ∈ s.loop.timers := by
  rw [scheduleRetry]
  cases cfg.retryDelay s.failures with
  | error f =>
    exact ⟨_, _, _, _, rfl, nofun, fun _ => rfl, .ofKeeps (.refl _), fun _ _ live => live⟩
  | ok delay =>
    obtain ⟨loop, keeps, said⟩ := Journals.say { s with failures := s.failures + 1 } cfg .info
      ("Reconnecting to " ++ cfg.address ++ " in " ++ cfg.showDelay delay ++ "s")
    have same (n g : Nat) : .discovery n g ∈ loop.timers → .discovery n g ∈ s.loop.timers :=
      (keeps.timers _ rfl).mp
    simp only [said]
    by_cases stopped : s.stopped = true
    · rw [scheduleConnect_of_stopped (by exact stopped)]
      exact ⟨_, _, _, _, rfl, fun _ _ => rfl, fun _ => rfl, .ofKeeps keeps, same⟩
    · rw [scheduleConnect_eq (by simpa using stopped)]
      refine ⟨_, _, _, _, rfl, fun _ _ => rfl, fun halted => absurd halted stopped,
        fun task => (Loop.Moves.ofKeeps keeps task).trans (.replace _ task _ _ _),
        fun n g live => ?_⟩
      rcases (Loop.mem_timers_replace _ _ _ _ _).mp live with retry | ⟨live, -⟩
      · cases retry
      · exact same n g live

/-- What bars an attempt from being created. -/
theorem not_barred_iff (s : Supervisor δ) : ¬(s.stopped || !s.machine.canConnect) = true ↔
    s.stopped = false ∧ s.machine.state = .disconnected := by
  simp [Connection.Machine.canConnect]

/-- When the timer of the next attempt goes off, the attempt is created if it may start. -/
theorem expire_beginAttempt_eq (s : Supervisor δ) (timer : TimerId) :
    (s.onLink (·.onLoop (·.expire timer))).beginAttempt =
      if s.stopped || !s.machine.canConnect then
        { s with retryTimer := none, loop := s.loop.expire timer }
      else { s with
        retryTimer := none
        attempt := some s.attempts
        attempts := s.attempts + 1
        loop := (s.loop.expire timer).spawn (.attempt s.attempts) .attemptStart } :=
  rfl

/-- The loop after the retry timer was taken back and the latest attempt was cancelled. -/
def stoppedLoop (s : Supervisor δ) : Loop δ :=
  let loop := s.retryTimer.elim s.loop s.loop.unschedule
  s.attempt.elim loop fun n => loop.cancel (.attempt n)

theorem stopAttempts_eq (s : Supervisor δ) :
    s.stopAttempts = { s with
      stopped := true
      retryTimer := none
      attempt := none
      loop := s.stoppedLoop } := by
  unfold stopAttempts stoppedLoop
  cases s.retryTimer <;> cases s.attempt <;> rfl

theorem wanes_stoppedLoop (s : Supervisor δ) : s.loop.Wanes [] s.stoppedLoop := by
  have unscheduled : s.loop.Wanes [] (s.retryTimer.elim s.loop s.loop.unschedule) := by
    cases s.retryTimer with
    | none => exact .refl _
    | some timer => exact .unschedule _ _
  rw [stoppedLoop]
  cases s.attempt with
  | none => exact unscheduled
  | some n => exact unscheduled.after (.cancel _ _)

/-- The latest attempt is either cancelled where it waits, or before its first step. -/
theorem cancelled_stoppedLoop (s : Supervisor δ) {n : Nat} {point : Link.Point}
    (latest : s.attempt = some n) (here : s.stoppedLoop.point? (.attempt n) = some point) :
    point.isStart = false ∧ s.stoppedLoop.Cancelled (.attempt n) := by
  unfold stoppedLoop at here ⊢
  rw [latest, Option.elim_some] at here ⊢
  rw [Loop.point?_cancel, if_pos rfl] at here
  obtain ⟨earlier, before, kept⟩ := Option.map_eq_some_iff.mp here
  refine ⟨?_, (Loop.cancelled_cancel _ _ _).mpr (.inr ⟨rfl, ?_⟩)⟩
  · by_cases start : earlier.isStart = true
    · rw [← kept, if_pos start]
      rfl
    · rw [← kept, if_neg start]
      simpa using start
  · rw [Loop.isLive, before]
    rfl

/-- The retry timer was taken back. -/
theorem not_mem_stoppedLoop (s : Supervisor δ) {timer : TimerId}
    (known : timer ∈ s.loop.timers → s.retryTimer = some timer) :
    timer ∉ s.stoppedLoop.timers := by
  have unscheduled := not_mem_elim_unschedule known
  rw [stoppedLoop]
  cases s.attempt with
  | none => exact unscheduled
  | some n =>
    rw [Option.elim_some, Loop.timers_cancel]
    exact unscheduled

/-- Arming an ingestion at the end of the list. -/
theorem modify_last {α : Type} (as : List α) (a : α) (f : α → α) :
    (as ++ [a]).modify as.length f = as ++ [f a] := by
  induction as with
  | nil => rfl
  | cons first rest ih => rw [List.cons_append, List.length_cons, List.modify_succ_cons, ih]; rfl

theorem becomeReady_eq {s : Supervisor δ} (cfg : Settings δ) (env : Surroundings) (session : Nat)
    (mode : Link.Mode δ) (handles : Gatt.HandleMap)
    (discovering : s.machine.state = .discovering) :
    ∃ ingestions loop, s.loop.Keeps [.ready] loop ∧
      ingestions.map Link.Ingestion.duty = s.duties ++ [⟨session, s.machine.generation, true⟩] ∧
      s.becomeReady cfg env session mode handles = { s with
        ingestions
        ingestion := some s.ingestions.length
        machine := s.machine.enter .ready none
        store := s.store.setConnected true
        failures := 0
        loop } := by
  let i := s.ingestions.length
  let g := Link.Ingestion.create mode session s.machine.generation handles
  let created : Supervisor δ :=
    { s.onLink fun l => { l with ingestions := l.ingestions ++ [g] } with ingestion := some i }
  have arms := created.toLink.arm_arms cfg i
  let armed := created.onLink (·.arm cfg i)
  obtain ⟨loop₁, keeps₁, entered⟩ := armed.transition_eq cfg .ready none
  have machine : (armed.machine.transition .ready none).1 = s.machine.enter .ready none := by
    have same : armed.machine = s.machine := arms.machine
    rw [same, Connection.Machine.transition, discovering]
    rfl
  let online : Supervisor δ := { armed with
    machine := s.machine.enter .ready none
    store := armed.store.setConnected true
    failures := 0
    loop := loop₁ }
  obtain ⟨loop₂, keeps₂, said⟩ := Journals.say online cfg .info ("Session ready (" ++
    cfg.modeName ++ " ingestion, " ++ toString handles.size ++ " sensor characteristics)")
  obtain ⟨loop₃, keeps₃, told⟩ := tellReady_eq { online with loop := loop₂ } cfg env
  have parts : s.becomeReady cfg env session mode handles =
      ({ (armed.onLink (·.transition cfg .ready none)).onLink fun l =>
          { l with store := l.store.setConnected true } with failures := 0 }.say cfg .info
        ("Session ready (" ++ cfg.modeName ++ " ingestion, " ++ toString handles.size ++
          " sensor characteristics)")).tellReady cfg env := rfl
  refine ⟨armed.ingestions, loop₃, ?_, ?_, ?_⟩
  · exact ((arms.loop.after keeps₁).after keeps₂).trans keeps₃
  · have duties : created.duties = s.duties ++ [⟨session, s.machine.generation, false⟩] := by
      simp [Link.duties, created, onLink, g, Link.Ingestion.duty, Link.Ingestion.create]
    have length : i = s.duties.length := by simp [Link.duties, i]
    have armedDuties : armed.duties = _ := arms.duties
    rw [duties, length, modify_last] at armedDuties
    exact armedDuties
  · have store : armed.store = s.store := arms.store
    have sessions : armed.sessions = s.sessions := arms.sessions
    rw [parts, entered, machine]
    refine (congrArg (tellReady · cfg env) said).trans (told.trans ?_)
    simp only [online, store, sessions]
    rfl

end Supervisor

end SensorLink
