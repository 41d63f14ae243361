/-
# Relations that the supervisor keeps

Supervisors that are the same over links that a congruence relates stay so whatever
happens to them, as long as the work of the ingestions, which the supervisor only
passes on, keeps the relation too.  The two sides may differ in the threshold of
their journals and in the failures of their listeners, with one exception: a
journal that keeps the least grave records makes the set-up list the discovered
tree first, and the set-up must make the same of the tree on both sides.
-/

import SensorLink.Proofs.Ingestion.Congruence
import SensorLink.Proofs.Supervisor.Likeness

namespace SensorLink

open Gatt (Ending HandleMap)
open Link (Point Settings Surroundings TaskId TimerId)
open Sensor (Kind)

/-- Whether an event brings something to an ingestion: a notification, or the beginning or the end
of a task that works for it. -/
def Event.isInner : Event → Bool
  | .begins task | .resumed task _ => !task.steers
  | .notified .. => true
  | _ => false

namespace Supervisor

variable {δ : Type}

/-- Open a session for a generation, and let an attempt wait for it to connect. -/
def openSession (s : Supervisor δ) (n generation : Nat) : Supervisor δ :=
  let session := s.sessions.length
  let s := s.onLink fun l => { l with sessions := l.sessions ++ [⟨generation, false⟩] }
  let s := { s.tell (.opened session) with session := some session }
  s.await (.attempt n) session .connect (.connecting generation session)

/-- Two supervisors that are the same over related links. -/
def Over (R : Link δ → Link δ → Prop) (s s' : Supervisor δ) : Prop :=
  ∃ l, R s.toLink l ∧ s' = { s with toLink := l }

namespace Over

open Link (Congruence)

variable {R : Link δ → Link δ → Prop} [Congruence R] {s s' : Supervisor δ}
  {env env' : Surroundings}

omit [Congruence R] in
theorem link (linked : Over R s s') : R s.toLink s'.toLink := by
  obtain ⟨l, related, rfl⟩ := linked
  exact related

theorem machine (linked : Over R s s') : s'.machine = s.machine :=
  Congruence.machine linked.link

theorem isReleased (linked : Over R s s') (session : Nat) :
    s'.isReleased session = s.isReleased session :=
  Congruence.isReleased linked.link session

omit [Congruence R] in
/-- Something that happens to the link. -/
theorem onLink (linked : Over R s s') {f f' : Link δ → Link δ}
    (keeps : ∀ {l l'}, R l l' → R (f l) (f' l')) : Over R (s.onLink f) (s'.onLink f') := by
  obtain ⟨l, related, rfl⟩ := linked
  exact ⟨f' l, keeps related, rfl⟩

omit [Congruence R] in
/-- Something that neither asks for the link nor changes it. -/
theorem change (linked : Over R s s') {f : Supervisor δ → Supervisor δ}
    (blind : ∀ s l, f { s with toLink := l } = { f s with toLink := l }) :
    Over R (f s) (f s') := by
  obtain ⟨l, related, rfl⟩ := linked
  have kept : (f s).toLink = s.toLink := congrArg (·.toLink) (blind s s.toLink)
  exact ⟨l, kept ▸ related, blind s l⟩

/-- Reports on either side. -/
theorem reported {t t' : Supervisor δ} (linked : Over R s s') (here : s.Alike t)
    (there : s'.Alike t') : Over R t t' := by
  obtain ⟨l, related, rfl⟩ := linked
  obtain ⟨loop, alike, rfl⟩ := here
  obtain ⟨loop', alike', rfl⟩ := there
  exact ⟨_, Congruence.reported related ⟨loop, alike, rfl⟩ ⟨loop', alike', rfl⟩, rfl⟩

theorem record (linked : Over R s s') (cfg cfg' : Settings δ) (r r' : Journal.Record) :
    Over R (s.onLink (·.record cfg r)) (s'.onLink (·.record cfg' r')) :=
  linked.reported (.recorded s cfg r) (.recorded s' cfg' r')

theorem say (linked : Over R s s') (cfg cfg' : Settings δ) (level : Journal.Level)
    (text : String) : Over R (s.say cfg level text) (s'.say cfg' level text) :=
  linked.record cfg cfg' _ _

theorem complain (linked : Over R s s') (cfg cfg' : Settings δ) (text : String) (f : Failure) :
    Over R (s.complain cfg text f) (s'.complain cfg' text f) :=
  linked.record cfg cfg' _ _

theorem tell (linked : Over R s s') (e : Link.Effect δ) : Over R (s.tell e) (s'.tell e) :=
  linked.onLink (Congruence.emit e)

theorem transition (linked : Over R s s') (cfg cfg' : Settings δ) (target : Connection.State)
    (session : Option Nat) :
    Over R (s.onLink (·.transition cfg target session))
      (s'.onLink (·.transition cfg' target session)) :=
  linked.onLink (Congruence.transition · cfg cfg' target session)

theorem finish {task : TaskId} (linked : Over R s s') (how : Link.Finish)
    (steers : task.steers = true) : Over R (s.finish task how) (s'.finish task how) :=
  linked.onLink (Congruence.finish how · steers)

theorem await {task : TaskId} (linked : Over R s s') (session : Nat) (call : Gatt.Call)
    (point : Point) (steers : task.steers = true) :
    Over R (s.await task session call point) (s'.await task session call point) :=
  linked.onLink (Congruence.request · session call point steers)

theorem release (linked : Over R s s') (session : Nat) :
    Over R (s.onLink (·.release session)) (s'.onLink (·.release session)) :=
  linked.onLink (Congruence.release · session)

/-- A task ends with the same failure, or with none. -/
theorem finishWith {outcome outcome' : Supervisor δ × Option Failure} {task : TaskId}
    (linked : Over R outcome.1 outcome'.1 ∧ outcome'.2 = outcome.2) (steers : task.steers = true) :
    Over R (finishWith task outcome) (finishWith task outcome') := by
  unfold Supervisor.finishWith
  rw [linked.2]
  exact linked.1.finish _ steers

/-- Whatever failure leaves a callback, and whether one does. -/
theorem report {outcome outcome' : Supervisor δ × Option Failure}
    (linked : Over R outcome.1 outcome'.1) : Over R (report outcome) (report outcome') :=
  linked.reported (.reported outcome) (.reported outcome')

theorem dropState (linked : Over R s s') (cfg cfg' : Settings δ) :
    Over R (s.dropState cfg) (s'.dropState cfg') := by
  unfold Supervisor.dropState
  rw [linked.machine]
  split
  · exact linked
  · exact linked.transition cfg cfg' _ _

omit [Congruence R] in
theorem forget (linked : Over R s s') (session : Nat) :
    Over R (s.forget session) (s'.forget session) := by
  obtain ⟨l, related, rfl⟩ := linked
  unfold Supervisor.forget
  dsimp only
  split
  · exact ⟨l, related, rfl⟩
  · exact ⟨l, related, rfl⟩

/-- The same answer is read off the link. -/
theorem checkLink (linked : Over R s s') (agrees : env.Agrees env') (cfg cfg' : Settings δ)
    (session : Nat) : ∃ t t' up, Over R t t' ∧ s.checkLink cfg env session = (t, up) ∧
      s'.checkLink cfg' env' session = (t', up) := by
  unfold Supervisor.checkLink
  rw [linked.isReleased, agrees.link]
  split
  · exact ⟨s, s', false, linked, rfl, rfl⟩
  · split
    · exact ⟨s, s', _, linked, rfl, rfl⟩
    · exact ⟨_, _, false, linked.record cfg cfg' _ _, rfl, rfl⟩

theorem scheduleConnect (linked : Over R s s') (delay : δ) :
    Over R (s.scheduleConnect delay) (s'.scheduleConnect delay) := by
  obtain ⟨l, related, rfl⟩ := linked
  unfold Supervisor.scheduleConnect
  dsimp only
  split
  · exact ⟨l, related, rfl⟩
  · cases s.retryTimer with
    | none => exact ⟨_, Congruence.schedule _ _ related, rfl⟩
    | some timer =>
      exact ⟨_, Congruence.schedule _ _ (Congruence.unschedule timer related), rfl⟩

theorem scheduleRetry (linked : Over R s s') (cfg : Settings δ) (threshold : Journal.Level) :
    Over R (s.scheduleRetry cfg).1 (s'.scheduleRetry (cfg.keeping threshold)).1 ∧
      (s'.scheduleRetry (cfg.keeping threshold)).2 = (s.scheduleRetry cfg).2 := by
  obtain ⟨l, related, rfl⟩ := linked
  unfold Supervisor.scheduleRetry
  dsimp only [Settings.keeping]
  split
  · exact ⟨⟨l, related, rfl⟩, rfl⟩
  · refine ⟨?_, rfl⟩
    apply scheduleConnect
    apply say
    exact ⟨l, related, rfl⟩

theorem cancelDiscoveryTimer (linked : Over R s s') :
    Over R s.cancelDiscoveryTimer s'.cancelDiscoveryTimer := by
  obtain ⟨l, related, rfl⟩ := linked
  unfold Supervisor.cancelDiscoveryTimer
  dsimp only
  split
  · exact ⟨_, Congruence.unschedule _ related, rfl⟩
  · exact ⟨l, related, rfl⟩

section

variable (cfg : Settings δ) (threshold : Journal.Level)

/-- Once the listener was called, nothing is left but to leave a record. -/
theorem tellLost (linked : Over R s s') :
    Over R (s.tellLost cfg env) (s'.tellLost (cfg.keeping threshold) env') := by
  have alone (s : Supervisor δ) (cfg : Settings δ) (env : Surroundings) :
      (s.tell .lost).Alike (s.tellLost cfg env) := by
    unfold Supervisor.tellLost
    split
    · exact .recorded _ cfg _
    · exact .refl _
  exact (linked.tell .lost).reported (alone s cfg env) (alone s' _ env')

theorem dropIngestion (linked : Over R s s') : Over R s.dropIngestion s'.dropIngestion := by
  obtain ⟨l, related, rfl⟩ := linked
  unfold Supervisor.dropIngestion
  dsimp only
  split
  · exact ⟨_, Congruence.disarm _ related, rfl⟩
  · exact ⟨l, related, rfl⟩

theorem dropSession (linked : Over R s s') : Over R s.dropSession s'.dropSession := by
  obtain ⟨l, related, rfl⟩ := linked
  unfold Supervisor.dropSession
  dsimp only
  split
  · exact ⟨_, Congruence.release related _, rfl⟩
  · exact ⟨l, related, rfl⟩

theorem teardown (linked : Over R s s') :
    Over R (s.teardown cfg env) (s'.teardown (cfg.keeping threshold) env') := by
  have dropped : Over R { s.cancelDiscoveryTimer.dropIngestion with handleMap := none }
      { s'.cancelDiscoveryTimer.dropIngestion with handleMap := none } :=
    linked.cancelDiscoveryTimer.dropIngestion.change
      (f := fun s => { s with handleMap := none }) fun _ _ => rfl
  have offline := (dropped.dropSession.dropState cfg (cfg.keeping threshold)).onLink
    (Congruence.setConnected false)
  rw [teardown_parts, teardown_parts, linked.machine]
  dsimp only
  split
  · exact offline.tellLost cfg threshold
  · exact offline

theorem connectionLost (linked : Over R s s') (generation : Int) :
    Over R (s.connectionLost cfg env generation).1
        (s'.connectionLost (cfg.keeping threshold) env' generation).1 ∧
      (s'.connectionLost (cfg.keeping threshold) env' generation).2 =
        (s.connectionLost cfg env generation).2 := by
  unfold Supervisor.connectionLost
  rw [linked.machine]
  split
  · split
    · exact ⟨linked.say cfg _ .debug _, rfl⟩
    · exact ⟨linked, rfl⟩
    all_goals
      apply scheduleRetry
      apply teardown
      exact linked.say cfg _ .warning _
  · exact ⟨linked.say cfg _ .debug _, rfl⟩

theorem beginAttempt (linked : Over R s s') : Over R s.beginAttempt s'.beginAttempt := by
  have machine := linked.machine
  obtain ⟨l, related, rfl⟩ := linked
  unfold Supervisor.beginAttempt
  dsimp only at machine ⊢
  rw [machine]
  split
  · exact ⟨l, related, rfl⟩
  · exact ⟨_, Congruence.spawn related _ rfl, rfl⟩

theorem failAttempt (linked : Over R s s') (session : Option Nat) :
    Over R (s.failAttempt cfg session).1 (s'.failAttempt (cfg.keeping threshold) session).1 ∧
      (s'.failAttempt (cfg.keeping threshold) session).2 = (s.failAttempt cfg session).2 := by
  apply scheduleRetry
  apply dropState
  cases session with
  | none => exact linked
  | some x => exact (linked.release x).forget x

theorem openSession (linked : Over R s s') (n : Nat) {generation generation' : Nat}
    (same : generation' = generation) :
    Over R (s.openSession n generation) (s'.openSession n generation') := by
  obtain ⟨l, related, rfl⟩ := linked
  subst same
  have sessions := Congruence.sessions related
  unfold Supervisor.openSession
  dsimp only
  rw [sessions]
  refine ⟨_, Congruence.request (Congruence.emit _ (Congruence.setSessions _ related)) _ _ _ rfl,
    ?_⟩
  simp only [Supervisor.onLink, Supervisor.tell, Supervisor.await, sessions]

theorem startAttempt (linked : Over R s s') (agrees : env.Agrees env') (n : Nat) :
    Over R (s.startAttempt cfg env n) (s'.startAttempt (cfg.keeping threshold) env' n) := by
  have begun := linked.transition cfg (cfg.keeping threshold) .connecting none
  unfold Supervisor.startAttempt
  rw [agrees.openClient]
  cases env.openClient with
  | error f =>
    refine finishWith ?_ rfl
    apply failAttempt
    apply complain
    apply tell
    exact begun.record cfg _ _ _
  | ok _ =>
    exact (begun.record cfg _ _ _).openSession n (congrArg (·.generation) begun.machine)

theorem connectFailed (linked : Over R s s') (n session : Nat) (f : Failure) :
    Over R (s.connectFailed cfg n session f)
      (s'.connectFailed (cfg.keeping threshold) n session f) := by
  refine finishWith ?_ rfl
  apply failAttempt
  split
  · exact linked.say cfg _ .warning _
  · exact linked.complain cfg _ _ f

theorem finishDiscard (linked : Over R s s') (n session : Nat) :
    Over R (s.finishDiscard n session) (s'.finishDiscard n session) :=
  ((linked.release session).forget session).finish _ rfl

theorem discard (linked : Over R s s') (agrees : env.Agrees env') (n session : Nat) :
    Over R (s.discard cfg env n session)
      (s'.discard (cfg.keeping threshold) env' n session) := by
  obtain ⟨t, t', up, checked, here, there⟩ := (linked.say cfg (cfg.keeping threshold) .debug
    ("Dropping superseded connection to " ++ cfg.address)).checkLink agrees cfg
    (cfg.keeping threshold) session
  unfold Supervisor.discard
  simp only [here, Settings.keeping] at there ⊢
  simp only [there]
  split
  · exact checked.await _ _ _ rfl
  · exact checked.finishDiscard n session

theorem startDiscovery (linked : Over R s s') (n generation session : Nat) :
    Over R (s.startDiscovery cfg n generation session)
      (s'.startDiscovery (cfg.keeping threshold) n generation session) := by
  obtain ⟨l, related, rfl⟩ := linked
  unfold Supervisor.startDiscovery
  dsimp only [Settings.keeping]
  split
  · exact ⟨_, Congruence.emit (.requestTree (.attempt n) session)
      (Congruence.suspend _ (Congruence.schedule _ _ related) rfl), rfl⟩
  · exact ⟨_, Congruence.emit (.requestTree (.attempt n) session)
      (Congruence.suspend _ related rfl), rfl⟩

theorem linkUp (linked : Over R s s') (agrees : env.Agrees env') (n generation session : Nat) :
    Over R (s.linkUp cfg env n generation session)
      (s'.linkUp (cfg.keeping threshold) env' n generation session) := by
  unfold Supervisor.linkUp
  rw [linked.machine]
  split
  · obtain ⟨t, t', up, checked, here, there⟩ :=
      linked.checkLink agrees cfg (cfg.keeping threshold) session
    simp only [here, there]
    split
    · apply startDiscovery
      apply transition
      exact checked.say cfg _ .info _
    · refine finishWith ?_ rfl
      apply failAttempt
      exact checked.say cfg _ .warning _
  · exact linked.discard cfg threshold agrees n session

theorem transportUp (linked : Over R s s') (agrees : env.Agrees env')
    (n generation session : Nat) :
    Over R (s.transportUp cfg env n generation session)
      (s'.transportUp (cfg.keeping threshold) env' n generation session) := by
  unfold Supervisor.transportUp
  have same : (cfg.keeping threshold).security = cfg.security := rfl
  rw [same]
  split
  · exact linked.linkUp cfg threshold agrees n generation session
  · exact (linked.say cfg _ .debug _).await _ _ _ rfl

theorem resumeConnecting (linked : Over R s s') (agrees : env.Agrees env')
    (n generation session : Nat) (ending : Ending) :
    Over R (s.resumeConnecting cfg env n generation session ending)
      (s'.resumeConnecting (cfg.keeping threshold) env' n generation session ending) := by
  unfold Supervisor.resumeConnecting
  dsimp only [Settings.limitText, Settings.keeping]
  split
  · exact linked.finish _ rfl
  · exact linked.transportUp cfg threshold agrees n generation session
  · exact linked.connectFailed cfg threshold n session _

theorem resumePairing (linked : Over R s s') (agrees : env.Agrees env')
    (n generation session : Nat) (ending : Ending) :
    Over R (s.resumePairing cfg env n generation session ending)
      (s'.resumePairing (cfg.keeping threshold) env' n generation session ending) := by
  unfold Supervisor.resumePairing
  dsimp only [Settings.limitText, Settings.keeping]
  split
  · exact linked.finish _ rfl
  · exact linked.linkUp cfg threshold agrees n generation session
  · exact linked.connectFailed cfg threshold n session _

theorem resumeDiscarding (linked : Over R s s') (n session : Nat) (ending : Ending) :
    Over R (s.resumeDiscarding cfg n session ending)
      (s'.resumeDiscarding (cfg.keeping threshold) n session ending) := by
  unfold Supervisor.resumeDiscarding
  dsimp only [Settings.limitText, Settings.keeping]
  split
  · exact linked.finish _ rfl
  · exact linked.finishDiscard n session
  · split
    · apply finishDiscard
      exact linked.say cfg _ .debug _
    · exact linked.finish _ rfl

/-- Once the listener was called, nothing is left but to leave a record. -/
theorem tellReady (linked : Over R s s') :
    Over R (s.tellReady cfg env) (s'.tellReady (cfg.keeping threshold) env') := by
  have alone (s : Supervisor δ) (cfg : Settings δ) (env : Surroundings) :
      (s.tell .ready).Alike (s.tellReady cfg env) := by
    unfold Supervisor.tellReady
    split
    · exact .recorded _ cfg _
    · exact .refl _
  exact (linked.tell .ready).reported (alone s cfg env) (alone s' _ env')

theorem becomeReady (linked : Over R s s') (session : Nat) (mode : Link.Mode δ)
    (handles : HandleMap) :
    Over R (s.becomeReady cfg env session mode handles)
      (s'.becomeReady (cfg.keeping threshold) env' session mode handles) := by
  have length := Congruence.length linked.link
  have created : Over R ({ s.onLink fun l => { l with ingestions := l.ingestions ++
        [.create mode session s.machine.generation handles] } with
        ingestion := some s.ingestions.length } : Supervisor δ)
      { s'.onLink fun l => { l with ingestions := l.ingestions ++
        [.create mode session s'.machine.generation handles] } with
        ingestion := some s'.ingestions.length } := by
    rw [length, linked.machine]
    exact (linked.onLink (Congruence.create mode session _ handles)).change
      (f := fun t => { t with ingestion := some s.ingestions.length }) fun _ _ => rfl
  unfold Supervisor.becomeReady
  apply tellReady
  apply say
  apply change (f := fun s => { s with failures := 0 })
  · refine onLink (f := fun l => { l with store := l.store.setConnected true }) ?_
      (Congruence.setConnected true)
    apply transition
    rw [length] at created ⊢
    exact created.onLink (Congruence.arm cfg threshold _)
  · exact fun _ _ => rfl

theorem finishSetUp (linked : Over R s s') (session : Nat) (found : Except Failure HandleMap) :
    Over R (s.finishSetUp cfg env session found).1
        (s'.finishSetUp (cfg.keeping threshold) env' session found).1 ∧
      (s'.finishSetUp (cfg.keeping threshold) env' session found).2 =
        (s.finishSetUp cfg env session found).2 := by
  have mapped (handles : HandleMap) :
      Over R { s with handleMap := some handles } { s' with handleMap := some handles } :=
    linked.change (f := fun s => { s with handleMap := some handles }) fun _ _ => rfl
  unfold Supervisor.finishSetUp
  dsimp only [Settings.keeping]
  split
  · exact ⟨linked, rfl⟩
  · exact ⟨mapped _, rfl⟩
  · exact ⟨(mapped _).becomeReady cfg threshold session _ _, rfl⟩

/-- The set-up ends alike if the tree reads alike. -/
theorem setUp (linked : Over R s s') (session : Nat) {tree : Gatt.Tree}
    (reads : (cfg.keeping threshold).reads tree = cfg.reads tree) :
    Over R (s.setUp cfg env session tree).1
        (s'.setUp (cfg.keeping threshold) env' session tree).1 ∧
      (s'.setUp (cfg.keeping threshold) env' session tree).2 =
        (s.setUp cfg env session tree).2 := by
  obtain ⟨t, untimed, same⟩ := s.setUp_eq cfg env session tree
  obtain ⟨t', untimed', same'⟩ := s'.setUp_eq (cfg.keeping threshold) env' session tree
  rw [same, same', reads]
  exact (linked.cancelDiscoveryTimer.reported untimed untimed').finishSetUp cfg threshold session _

theorem resumeDiscovering (linked : Over R s s') (n generation session : Nat)
    (reading : Except Failure (Option Gatt.Tree))
    (reads : ∀ tree, reading = .ok (some tree) → generation = s.machine.generation →
      (cfg.keeping threshold).reads tree = cfg.reads tree) :
    Over R (s.resumeDiscovering cfg env n generation session reading)
      (s'.resumeDiscovering (cfg.keeping threshold) env' n generation session reading) := by
  unfold Supervisor.resumeDiscovering
  rw [linked.machine]
  cases seen : Gatt.discovered reading with
  | error f =>
    refine finish ?_ _ rfl
    split
    · exact linked.say cfg _ .error _
    · exact linked.complain cfg _ _ f
  | ok tree =>
    dsimp only
    split
    · rename_i current
      refine finishWith ?_ rfl
      apply setUp
      · exact linked
      · exact reads tree (discovered_eq_ok seen) (by simpa using current)
    · exact linked.finish _ rfl

theorem discoveryExpired (linked : Over R s s') (n generation : Nat) :
    Over R (s.discoveryExpired cfg n generation)
      (s'.discoveryExpired (cfg.keeping threshold) n generation) := by
  have spawned {t t' : Supervisor δ} (linked : Over R t t') :
      Over R (t.onLink
          (·.onLoop (·.spawn (.forcedDisconnect n) (.forcedStart t.session generation))))
        (t'.onLink
          (·.onLoop (·.spawn (.forcedDisconnect n) (.forcedStart t'.session generation)))) := by
    obtain ⟨l, related, rfl⟩ := linked
    exact ⟨_, Congruence.spawn related _ rfl, rfl⟩
  have taken : Over R { s with discoveryTimer := none } { s' with discoveryTimer := none } :=
    linked.change (f := fun s => { s with discoveryTimer := none }) fun _ _ => rfl
  unfold Supervisor.discoveryExpired
  dsimp only
  rw [linked.machine]
  split
  · apply spawned
    exact taken.say cfg _ .warning _
  · exact taken

theorem finishForced (linked : Over R s s') (n generation : Nat) :
    Over R (s.finishForced cfg env n generation)
      (s'.finishForced (cfg.keeping threshold) env' n generation) := by
  refine finishWith ?_ rfl
  exact linked.connectionLost cfg threshold generation

theorem forcedFailed (linked : Over R s s') (n generation : Nat) (f : Failure) :
    Over R (s.forcedFailed cfg env n generation f)
      (s'.forcedFailed (cfg.keeping threshold) env' n generation f) := by
  unfold Supervisor.forcedFailed
  split
  · apply finishForced
    exact linked.say cfg _ .debug _
  · exact linked.finish _ rfl

theorem startForced (linked : Over R s s') (n : Nat) (session : Option Nat) (generation : Nat) :
    Over R (s.startForced cfg env n session generation)
      (s'.startForced (cfg.keeping threshold) env' n session generation) := by
  unfold Supervisor.startForced
  split
  · exact linked.finishForced cfg threshold n generation
  · rw [linked.isReleased]
    split
    · exact linked.forcedFailed cfg threshold n generation _
    · exact linked.await _ _ _ rfl

theorem resumeForced (linked : Over R s s') (n generation : Nat) (ending : Ending) :
    Over R (s.resumeForced cfg env n generation ending)
      (s'.resumeForced (cfg.keeping threshold) env' n generation ending) := by
  unfold Supervisor.resumeForced
  dsimp only [Settings.limitText, Settings.keeping]
  split
  · exact linked.finish _ rfl
  · exact linked.finishForced cfg threshold n generation
  · exact linked.forcedFailed cfg threshold n generation _

theorem start (linked : Over R s s') : Over R (s.start cfg) (s'.start (cfg.keeping threshold)) := by
  obtain ⟨l, related, rfl⟩ := linked
  unfold Supervisor.start
  dsimp only [Settings.keeping]
  split
  · apply scheduleConnect
    exact ⟨l, related, rfl⟩
  · exact ⟨l, related, rfl⟩

theorem requestShutdown (linked : Over R s s') : Over R s.requestShutdown s'.requestShutdown := by
  obtain ⟨l, related, rfl⟩ := linked
  exact ⟨_, Congruence.spawn related _ rfl, rfl⟩

theorem finishShutdown (linked : Over R s s') (n : Nat) :
    Over R (s.finishShutdown cfg env n) (s'.finishShutdown (cfg.keeping threshold) env' n) := by
  refine finish ?_ _ rfl
  apply say
  exact linked.teardown cfg threshold

theorem stopAttempts (linked : Over R s s') : Over R s.stopAttempts s'.stopAttempts := by
  obtain ⟨l, related, rfl⟩ := linked
  have untimed : R { s.toLink with loop := s.retryTimer.elim s.loop s.loop.unschedule }
      { l with loop := s.retryTimer.elim l.loop l.loop.unschedule } := by
    cases s.retryTimer with
    | none => exact related
    | some timer => exact Congruence.unschedule timer related
  have stopped : R { s.toLink with loop := s.stoppedLoop }
      { l with loop := ({ s with toLink := l } : Supervisor δ).stoppedLoop } := by
    unfold stoppedLoop
    dsimp only
    cases s.attempt with
    | none => exact untimed
    | some n => exact Congruence.cancel untimed rfl
  rw [stopAttempts_eq, stopAttempts_eq]
  exact ⟨_, stopped, rfl⟩

theorem startShutdown (linked : Over R s s') (agrees : env.Agrees env') (n : Nat) :
    Over R (s.startShutdown cfg env n)
      (s'.startShutdown (cfg.keeping threshold) env' n) := by
  have same : s'.stopAttempts.session = s.stopAttempts.session := by
    obtain ⟨l, -, stopped⟩ := linked.stopAttempts
    rw [stopped]
  unfold Supervisor.startShutdown
  dsimp only
  rw [same]
  split
  · exact linked.stopAttempts.finishShutdown cfg threshold n
  · rename_i session _
    obtain ⟨t, t', up, checked, here, there⟩ :=
      linked.stopAttempts.checkLink agrees cfg (cfg.keeping threshold) session
    simp only [here, there]
    split
    · exact checked.await _ _ _ rfl
    · exact checked.finishShutdown cfg threshold n

theorem resumeShutdown (linked : Over R s s') (n : Nat) (ending : Ending) :
    Over R (s.resumeShutdown cfg env n ending)
      (s'.resumeShutdown (cfg.keeping threshold) env' n ending) := by
  unfold Supervisor.resumeShutdown
  dsimp only [Settings.limitText, Settings.keeping]
  split
  · exact linked.finish _ rfl
  · exact linked.finishShutdown cfg threshold n
  · split
    · apply finishShutdown
      exact linked.say cfg _ .debug _
    · exact linked.finish _ rfl

/-! ## Events -/

theorem handleTimer (linked : Over R s s') (timer : TimerId) :
    Over R (s.handleTimer cfg timer) (s'.handleTimer (cfg.keeping threshold) timer) := by
  cases timer with
  | retry r => exact linked.beginAttempt
  | discovery n generation => exact linked.discoveryExpired cfg threshold n generation
  | tick i number => exact linked.onLink (Congruence.tick cfg threshold i)

theorem handleBegin (linked : Over R s s') (agrees : env.Agrees env') {task : TaskId}
    (steers : task.steers = true) (point : Point) :
    Over R (s.handleBegin cfg env task point)
      (s'.handleBegin (cfg.keeping threshold) env' task point) := by
  unfold Supervisor.handleBegin
  split
  · exact linked.startAttempt cfg threshold agrees _
  · exact linked.startForced cfg threshold _ _ _
  · exact linked.startShutdown cfg threshold agrees _
  · cases steers
  · cases steers
  · exact linked

theorem handleResume (linked : Over R s s') (agrees : env.Agrees env') (ending : Ending)
    {task : TaskId} (steers : task.steers = true) (point : Point) :
    Over R (s.handleResume cfg env ending task point)
      (s'.handleResume (cfg.keeping threshold) env' ending task point) := by
  unfold Supervisor.handleResume
  split
  · exact linked.resumeConnecting cfg threshold agrees _ _ _ ending
  · exact linked.resumePairing cfg threshold agrees _ _ _ ending
  · exact linked.resumeDiscarding cfg threshold _ _ ending
  · exact linked.resumeForced cfg threshold _ _ ending
  · exact linked.resumeShutdown cfg threshold _ ending
  · cases steers
  · cases steers
  · cases steers
  · cases steers
  · exact linked.finish _ steers
  · split
    · exact linked.finish _ steers
    · exact linked
  · exact linked

omit [Congruence R] in
/-- A task that works for a kind takes its first step. -/
theorem begins (linked : Over R s s') {task : TaskId} {kind : Kind} (own : task.kind? = some kind)
    (works : Congruence.Works R cfg threshold env env' kind)
    (same : s'.loop.point? task = s.loop.point? task) :
    Over R (s.step cfg env (.begins task))
      (s'.step (cfg.keeping threshold) env' (.begins task)) := by
  unfold Supervisor.step
  dsimp only
  rw [same]
  split
  · unfold Supervisor.handleBegin
    split
    · cases own
    · cases own
    · cases own
    · cases own
      exact linked.onLink (works.beginSubscription _ _ _ _)
    · cases own
      exact linked.onLink (works.beginRead _ _ _ _)
    · exact linked
  · exact linked

omit [Congruence R] in
/-- A task that works for a kind goes on. -/
theorem resumed (linked : Over R s s') {task : TaskId} {kind : Kind} (own : task.kind? = some kind)
    (works : Congruence.Works R cfg threshold env env' kind) (ending : Ending)
    (same : s'.loop.point? task = s.loop.point? task) :
    Over R (s.step cfg env (.resumed task ending))
      (s'.step (cfg.keeping threshold) env' (.resumed task ending)) := by
  unfold Supervisor.step
  dsimp only
  rw [same]
  split
  · unfold Supervisor.handleResume
    split
    · cases own
    · cases own
    · cases own
    · cases own
    · cases own
    · cases own
      exact linked.onLink (works.resumeSubscription _ _ _ _)
    · cases own
      exact linked.onLink (works.resumeRead _ _ _ _)
    · cases own
      exact linked.onLink (works.resumeSubscription _ _ _ _)
    · cases own
      exact linked.onLink (works.resumeRead _ _ _ _)
    · exact linked.onLink (works.finish _ · own)
    · split
      · exact linked.onLink (works.finish _ · own)
      · exact linked
    · exact linked
  · exact linked

omit [Congruence R] in
/-- Something is brought to an ingestion, on whose tasks both sides agree. -/
theorem inner (linked : Over R s s')
    (works : ∀ kind, Congruence.Works R cfg threshold env env' kind)
    (points : ∀ task, s'.loop.point? task = s.loop.point? task)
    (notified : ∀ i handle payload, Over R (s.step cfg env (.notified i handle payload))
      (s'.step (cfg.keeping threshold) env' (.notified i handle payload)))
    {event : Event} (inner : event.isInner = true) :
    Over R (s.step cfg env event) (s'.step (cfg.keeping threshold) env' event) := by
  cases event with
  | begins task =>
    obtain ⟨kind, own⟩ := TaskId.exists_kind?_of_not_steers (by simpa [Event.isInner] using inner)
    exact linked.begins cfg threshold own (works kind) (points task)
  | resumed task ending =>
    obtain ⟨kind, own⟩ := TaskId.exists_kind?_of_not_steers (by simpa [Event.isInner] using inner)
    exact linked.resumed cfg threshold own (works kind) ending (points task)
  | notified i handle payload => exact notified i handle payload
  | expired | treeRead | linkLost | started | shutdownAsked | transitionAsked => cases inner

/-- Supervisors that meet the same event stay the same over related links, if a tree that is
handed to one of them reads alike, and if an event that brings something to an ingestion keeps the
relation. -/
theorem step (linked : Over R s s') (agrees : env.Agrees env') (event : Event)
    (inner : event.isInner = true →
      Over R (s.step cfg env event) (s'.step (cfg.keeping threshold) env' event))
    (reads : ∀ tree, s.Hands event tree →
      (cfg.keeping threshold).reads tree = cfg.reads tree) :
    Over R (s.step cfg env event) (s'.step (cfg.keeping threshold) env' event) := by
  cases event with
  | expired timer =>
    unfold Supervisor.step
    dsimp only
    rw [Congruence.timers linked.link]
    split
    · apply handleTimer
      exact linked.onLink (Congruence.expire timer)
    · exact linked
  | begins task =>
    cases steers : task.steers with
    | false => exact inner (by rw [Event.isInner, steers]; rfl)
    | true =>
      unfold Supervisor.step
      dsimp only
      rw [Congruence.point? linked.link steers]
      split
      · exact linked.handleBegin cfg threshold agrees steers _
      · exact linked
  | resumed task ending =>
    cases steers : task.steers with
    | false => exact inner (by rw [Event.isInner, steers]; rfl)
    | true =>
      unfold Supervisor.step
      dsimp only
      rw [Congruence.point? linked.link steers]
      split
      · exact linked.handleResume cfg threshold agrees ending steers _
      · exact linked
  | treeRead task reading =>
    cases task with
    | attempt n =>
      unfold Supervisor.step
      dsimp only
      rw [Congruence.point? linked.link rfl]
      split
      · rename_i n generation session same here
        cases same
        apply resumeDiscovering
        · exact linked
        · rintro tree rfl rfl
          exact reads tree ⟨n, session, rfl, here⟩
      · exact linked
    | forcedDisconnect | shutdown | subscription | read => exact linked
  | linkLost generation =>
    apply report
    exact (linked.connectionLost cfg threshold generation).1
  | notified i handle payload => exact inner rfl
  | started => exact linked.start cfg threshold
  | shutdownAsked => exact linked.requestShutdown
  | transitionAsked target => exact linked.transition cfg _ target none

end

end Over

/-! ## Supervisors that differ in their reports -/

namespace Alike

variable {s s' : Supervisor δ} {env env' : Surroundings}

theorem toOver (alike : s.Alike s') : Over Link.Alike s s' := by
  obtain ⟨loop, alike, rfl⟩ := alike
  exact ⟨_, ⟨loop, alike, rfl⟩, rfl⟩

theorem of_over (linked : Over Link.Alike s s') : s.Alike s' := by
  obtain ⟨l, ⟨loop, alike, rfl⟩, rfl⟩ := linked
  exact ⟨loop, alike, rfl⟩

/-- What is brought to an ingestion leaves alike what was alike. -/
theorem inner (alike : s.Alike s') (agrees : env.Agrees env') (cfg : Settings δ)
    (threshold : Journal.Level) {event : Event} (inner : event.isInner = true) :
    Over Link.Alike (s.step cfg env event) (s'.step (cfg.keeping threshold) env' event) :=
  alike.toOver.inner cfg threshold (fun kind => Link.Alike.works cfg threshold kind) alike.point?
    (fun i handle payload =>
      Over.report (alike.toOver.onLink (·.notified agrees cfg threshold i handle payload)))
    inner

/-- Supervisors that meet the same event stay alike, if a tree that is handed to one of them
reads alike. -/
theorem step (alike : s.Alike s') (cfg : Settings δ) (threshold : Journal.Level)
    (agrees : env.Agrees env') (event : Event)
    (reads : ∀ tree, s.Hands event tree →
      (cfg.keeping threshold).reads tree = cfg.reads tree) :
    (s.step cfg env event).Alike (s'.step (cfg.keeping threshold) env' event) :=
  .of_over (alike.toOver.step cfg threshold agrees event (alike.inner agrees cfg threshold) reads)

end Alike

end Supervisor

end SensorLink
