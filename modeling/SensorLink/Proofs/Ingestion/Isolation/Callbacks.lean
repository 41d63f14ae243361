/-
# The work for one kind

Every callback of an ingestion, and all that arms and disarms it, keeps two links
alike but for a kind.  The callbacks of the kind itself do so on one side alone: its
subscriptions and reads may begin on one side and not on the other, end in any way
or never, and bring any payload.
-/

import SensorLink.Proofs.Ingestion.Congruence
import SensorLink.Proofs.Ingestion.Isolation.State
import SensorLink.Proofs.Ingestion.Work

namespace SensorLink

namespace Link

open Gatt (Ending Entry)
open Sensor (Kind)

variable {δ : Type}

namespace AlikeBut

variable {kind : Kind} {l l' : Link δ} {env env' : Surroundings}

/-- A malformed payload of any kind is dropped on one side. -/
theorem dropMalformedOwn (alike : l.AlikeBut kind l') (cfg : Settings δ) (i : Nat) (other : Kind)
    (f : Failure) : l.AlikeBut kind (l'.dropMalformed cfg i other f) := by
  have noted := alike.noteOwn cfg .debug ("Dropping " ++ other.name ++ " value: " ++ f.message)
  unfold Link.dropMalformed
  apply onIngestionOwn
  · split
    · exact noted.noteOwn cfg .warning _
    · exact noted
  · intro g g' same
    exact ⟨same.session, same.generation, same.handles, same.armed, same.strategy⟩

/-- Malformed payloads are forgotten on one side. -/
theorem forgetMalformedOwn (alike : l.AlikeBut kind l') (i : Nat) :
    l.AlikeBut kind (l'.onIngestion i .forgetMalformed) := by
  apply alike.onIngestionOwn
  intro g g' same
  exact ⟨same.session, same.generation, same.handles, same.armed, same.strategy⟩

/-- The store takes a value of any kind on both sides. -/
theorem write (alike : l.AlikeBut kind l') (other : Kind) (value : Float) :
    AlikeBut kind { l with store := (l.store.write other value).1 }
      { l' with store := (l'.store.write other value).1 } := by
  unfold Store.write
  rw [alike.connected]
  split
  · refine { alike with connected := rfl, readings := ?_ }
    intro third different
    unfold Store.read
    dsimp only
    rw [Sensor.PerKind.get_set, Sensor.PerKind.get_set]
    exact congrArg (ite _ _) (alike.readings third different)
  · exact alike

/-- The store takes a value of the kind on one side. -/
theorem writeOwn (alike : l.AlikeBut kind l') (value : Float) :
    l.AlikeBut kind { l' with store := (l'.store.write kind value).1 } := by
  unfold Store.write
  split
  · refine { alike with connected := alike.connected, readings := ?_ }
    intro other different
    unfold Store.read
    dsimp only
    rw [Sensor.PerKind.get_set_of_ne _ _ different]
    exact alike.readings other different
  · exact alike

theorem ingest (alike : l.AlikeBut kind l') (cfg cfg' : Settings δ) (i : Nat) (other : Kind)
    (payload : List UInt8) :
    (l.ingest cfg env i other payload).1.AlikeBut kind
      (l'.ingest cfg' env' i other payload).1 := by
  have answer (s : Store) (value : Float) : (s.write other value).2 = s.connected := by
    unfold Store.write
    split <;> simp [*]
  unfold Link.ingest
  cases other.decode payload with
  | error f =>
    exact alike.both (·.dropMalformedOwn cfg i other f) (·.dropMalformedOwn cfg' i other f)
  | ok value =>
    have forgotten := alike.both (·.forgetMalformedOwn i) (·.forgetMalformedOwn i)
    dsimp only
    rw [answer, answer, forgotten.connected]
    split
    · have stored := forgotten.write other value
      exact (stored.note cfg cfg' .info _).onLoop (·.emit _)
    · exact forgotten.note cfg cfg' .debug _

theorem ingestOwn (alike : l.AlikeBut kind l') (cfg : Settings δ) (i : Nat)
    (payload : List UInt8) : l.AlikeBut kind (l'.ingest cfg env i kind payload).1 := by
  unfold Link.ingest
  cases kind.decode payload with
  | error f => exact alike.dropMalformedOwn cfg i kind f
  | ok value =>
    have forgotten := alike.forgetMalformedOwn i
    dsimp only
    split
    · have noted := (forgotten.writeOwn value).noteOwn cfg .info (kind.showReading value)
      exact noted.onLoopOwn fun loop => .emitOwn loop rfl
    · exact forgotten.noteOwn cfg .debug _

theorem subscribe (alike : l.AlikeBut kind l') (cfg cfg' : Settings δ)
    (i session round : Nat) (e : Entry) :
    (l.subscribe cfg i session round e).AlikeBut kind (l'.subscribe cfg' i session round e) :=
  (alike.noteHandle cfg cfg' .info _ _ _).onLoop (·.spawn _ _)

theorem armSubscriptions (alike : l.AlikeBut kind l') (cfg cfg' : Settings δ) (i : Nat)
    {g g' : Ingestion δ} (same : g.AlikeBut kind g') {s s' : Subscriptions}
    (subscribed : s.AlikeBut kind s') :
    (l.armSubscriptions cfg i g s).AlikeBut kind (l'.armSubscriptions cfg' i g' s') := by
  unfold Link.armSubscriptions
  rw [same.handles, same.session, subscribed.rounds]
  apply foldl
  · intro l l' e alike
    exact alike.subscribe cfg cfg' i g.session s.rounds e
  · apply alike.onIngestion
    intro h h' same
    refine ⟨same.session, same.generation, same.handles, rfl, .notify ⟨?_, rfl⟩⟩
    dsimp only
    rw [List.filter_append, List.filter_append, subscribed.pending]

theorem completeSubscription (alike : l.AlikeBut kind l') (cfg cfg' : Settings δ) (i : Nat)
    (task : TaskId) (other : Kind) (handle : Option Int)
    (result : Option (Except Failure (List UInt8))) :
    (l.completeSubscription cfg i task other handle result).AlikeBut kind
      (l'.completeSubscription cfg' i task other handle result) := by
  have settled := alike.onIngestion i (·.settleSubscription task)
  unfold Link.completeSubscription
  split
  · exact settled
  · exact settled.note cfg cfg' .debug _
  · split
    · exact settled.noteHandle cfg cfg' .warning _ _ _
    · exact settled.record cfg cfg' _ _

theorem completeSubscriptionOwn (alike : l.AlikeBut kind l') (cfg : Settings δ) (i : Nat)
    {task : TaskId} (own : task.kind? = some kind) (handle : Option Int)
    (result : Option (Except Failure (List UInt8))) :
    l.AlikeBut kind (l'.completeSubscription cfg i task kind handle result) := by
  have settled := alike.onIngestionOwn i (·.settleSubscriptionOwn own)
  unfold Link.completeSubscription
  split
  · exact settled
  · exact settled.noteOwn cfg .debug _
  · split
    · exact settled.noteHandleOwn cfg .warning _ _ _
    · exact settled.recordOwn cfg _

theorem beginSubscription (alike : l.AlikeBut kind l') (cfg cfg' : Settings δ) (i : Nat)
    (other : Kind) (round session : Nat) (handle : Option Int) :
    (l.beginSubscription cfg i other round session handle).AlikeBut kind
      (l'.beginSubscription cfg' i other round session handle) := by
  unfold Link.beginSubscription
  rw [alike.isReleased]
  split
  · apply completeSubscription
    exact alike.onLoop (·.finish _ _)
  · exact alike.request _ _ _ _

theorem beginSubscriptionOwn (alike : l.AlikeBut kind l') (cfg : Settings δ) (i round : Nat)
    (session : Nat) (handle : Option Int) :
    l.AlikeBut kind (l'.beginSubscription cfg i kind round session handle) := by
  unfold Link.beginSubscription
  dsimp only
  split
  · apply completeSubscriptionOwn
    · exact alike.onLoopOwn (.finishOwn · _ rfl)
    · rfl
  · exact alike.requestOwn _ _ _ rfl

theorem resumeSubscription (alike : l.AlikeBut kind l') (cfg : Settings δ)
    (threshold : Journal.Level) (i : Nat) (other : Kind) (round : Nat) (handle : Option Int)
    (ending : Ending) :
    (l.resumeSubscription cfg i other round handle ending).AlikeBut kind
      (l'.resumeSubscription (cfg.keeping threshold) i other round handle ending) :=
  (alike.onLoop (·.finish _ _)).completeSubscription cfg (cfg.keeping threshold) i _ other handle _

theorem resumeSubscriptionOwn (alike : l.AlikeBut kind l') (cfg : Settings δ) (i round : Nat)
    (handle : Option Int) (ending : Ending) :
    l.AlikeBut kind (l'.resumeSubscription cfg i kind round handle ending) :=
  (alike.onLoopOwn (.finishOwn · _ rfl)).completeSubscriptionOwn cfg i rfl handle _

theorem setConnected (alike : l.AlikeBut kind l') (connected : Bool) :
    AlikeBut kind { l with store := l.store.setConnected connected }
      { l' with store := l'.store.setConnected connected } := by
  unfold Store.setConnected
  split
  · exact { alike with connected := rfl }
  · refine { alike with connected := rfl, readings := ?_ }
    intro other different
    unfold Store.read
    dsimp only
    rw [Sensor.PerKind.get_map, Sensor.PerKind.get_map]
    exact congrArg (fun r : Sensor.Reading => { r with observed := false })
      (alike.readings other different)

theorem create (alike : l.AlikeBut kind l') (mode : Mode δ) (session generation : Nat)
    (handles : Gatt.HandleMap) :
    AlikeBut kind { l with ingestions := l.ingestions ++ [.create mode session generation handles] }
      { l' with ingestions := l'.ingestions ++ [.create mode session generation handles] } := by
  refine { alike with length := ?_, ingestions := ?_ }
  · rw [List.length_append, List.length_append, alike.length]
  · intro i g g' here there
    dsimp only at here there
    rw [List.getElem?_append] at here there
    rw [alike.length] at there
    split at here
    · exact alike.ingestions i g g' here (by simpa [*] using there)
    · rename_i beyond
      rw [if_neg beyond] at there
      rw [List.getElem?_singleton] at here there
      split at here
      · rename_i last
        rw [if_pos last] at there
        cases here
        cases there
        exact .create kind mode session generation handles
      · cases here

theorem scheduleTick (alike : l.AlikeBut kind l') (i : Nat) (wait : Wait δ) :
    (l.scheduleTick i wait).AlikeBut kind (l'.scheduleTick i wait) := by
  unfold Link.scheduleTick
  obtain ⟨here, there⟩ | ⟨g, g', here, there, same⟩ := alike.ingestion i
  · rw [here, there]
    exact alike
  · rw [here, there]
    obtain ⟨session, generation, handles, armed, malformed, way⟩ := g
    obtain ⟨session', generation', handles', armed', malformed', way'⟩ := g'
    cases same.strategy with
    | notify _ => exact alike
    | @poll p p' polled =>
      dsimp only
      rw [polled.scheduled]
      refine (alike.onIngestion i ?_).onLoop (·.schedule _ _)
      intro h h' same
      refine ⟨same.session, same.generation, same.handles, same.armed, .poll ?_⟩
      exact ⟨polled.interval, rfl, polled.ticks, rfl, polled.others, polled.owns, polled.owns'⟩

theorem armPolling (alike : l.AlikeBut kind l') (i : Nat) :
    (l.armPolling i).AlikeBut kind (l'.armPolling i) := by
  apply scheduleTick
  apply alike.onIngestion
  intro g g' same
  exact ⟨same.session, same.generation, same.handles, rfl, same.strategy⟩

/-- The kind's read is issued, or skipped, on one side. -/
theorem pollEntryOwn (alike : l.AlikeBut kind l') (cfg : Settings δ) (i session tick : Nat)
    (p : Polling δ) {e : Entry} (own : e.kind = kind) :
    l.AlikeBut kind (l'.pollEntry cfg i session tick p e) := by
  subst own
  unfold Link.pollEntry
  split
  · exact alike.noteOwn cfg .debug _
  · apply onIngestionOwn
    · exact alike.onLoopOwn (.spawnOwn · _ rfl)
    · intro g g' same
      apply same.onPollingOwn
      intro p p' polled
      apply polled.setOwn
      rintro task ⟨⟩
      rfl

theorem pollEntry (alike : l.AlikeBut kind l') (cfg cfg' : Settings δ) (i session tick : Nat)
    {p p' : Polling δ} (polled : p.AlikeBut kind p') (e : Entry) :
    (l.pollEntry cfg i session tick p e).AlikeBut kind
      (l'.pollEntry cfg' i session tick p' e) := by
  by_cases own : e.kind = kind
  · exact alike.both (·.pollEntryOwn cfg i session tick p own)
      (·.pollEntryOwn cfg' i session tick p' own)
  · unfold Link.pollEntry
    rw [polled.others e.kind own]
    split
    · exact alike.note cfg cfg' .debug _
    · apply onIngestion
      · exact alike.onLoop (·.spawn _ _)
      · intro g g' same
        exact same.onPolling (·.set own _)

theorem pollOnce (alike : l.AlikeBut kind l') (cfg cfg' : Settings δ) (i : Nat)
    {g g' : Ingestion δ} (same : g.AlikeBut kind g') {p p' : Polling δ}
    (polled : p.AlikeBut kind p') :
    (l.pollOnce cfg i g p).AlikeBut kind (l'.pollOnce cfg' i g' p') := by
  unfold Link.pollOnce
  rw [alike.machine, same.generation, same.handles, same.session, polled.ticks]
  split
  · apply foldl
    · intro l l' e alike
      exact alike.pollEntry cfg cfg' i g.session p.ticks polled e
    · exact alike
  · exact alike.note cfg cfg' .debug _

theorem tick (alike : l.AlikeBut kind l') (cfg cfg' : Settings δ) (i : Nat) :
    (l.tick cfg i).AlikeBut kind (l'.tick cfg' i) := by
  unfold Link.tick
  obtain ⟨here, there⟩ | ⟨g, g', here, there, same⟩ := alike.ingestion i
  · rw [here, there]
    exact alike
  · rw [here, there]
    dsimp only
    obtain ⟨s, s', way, way', -⟩ | ⟨p, p', way, way', polled⟩ := same.strategy.ways
    · rw [way, way']
      exact alike
    · rw [way, way', same.armed]
      have rung := alike.onIngestion i (·.onPolling (·.rung))
      dsimp only
      split
      · have counted := rung.onIngestion i (·.onPolling (·.counted))
        have polledOnce := counted.pollOnce cfg cfg' i same polled.counted
        rw [← polled.interval]
        exact polledOnce.scheduleTick i _
      · exact rung

theorem completeRead (alike : l.AlikeBut kind l') (cfg cfg' : Settings δ) (i : Nat)
    (task : TaskId) {other : Kind} (different : other ≠ kind)
    (result : Option (Except Failure (List UInt8))) :
    (l.completeRead cfg env i task other result).1.AlikeBut kind
      (l'.completeRead cfg' env' i task other result).1 := by
  have settled := alike.onIngestion i (·.settleRead different task)
  unfold Link.completeRead
  cases result with
  | none => exact settled
  | some result =>
    dsimp only
    obtain ⟨here, there⟩ | ⟨g, g', here, there, same⟩ := settled.ingestion i
    · rw [here, there]
      exact settled
    · rw [here, there]
      dsimp only
      rw [settled.isStale same]
      split
      · exact settled.note cfg cfg' .debug _
      · cases result with
        | error f =>
          dsimp only
          split
          · exact settled.note cfg cfg' .debug _
          · exact settled.record cfg cfg' _ _
        | ok payload => exact settled.ingest cfg cfg' i other payload

theorem completeReadOwn (alike : l.AlikeBut kind l') (cfg : Settings δ) (i : Nat)
    (task : TaskId) (result : Option (Except Failure (List UInt8))) :
    l.AlikeBut kind (l'.completeRead cfg env i task kind result).1 := by
  have settled := alike.onIngestionOwn i (·.settleReadOwn task)
  unfold Link.completeRead
  cases result with
  | none => exact settled
  | some result =>
    dsimp only
    split
    · exact settled
    · split
      · exact settled.noteOwn cfg .debug _
      · cases result with
        | error f =>
          dsimp only
          split
          · exact settled.noteOwn cfg .debug _
          · exact settled.recordOwn cfg _
        | ok payload => exact settled.ingestOwn cfg i payload

/-- Whatever failure leaves a callback, and whether one does. -/
theorem report {outcome outcome' : Link δ × Option Failure}
    (alike : outcome.1.AlikeBut kind outcome'.1) :
    (Link.report outcome).AlikeBut kind (Link.report outcome') :=
  alike.reported (.reported outcome) (.reported outcome')

theorem reportOwn {outcome : Link δ × Option Failure} (alike : l.AlikeBut kind outcome.1) :
    l.AlikeBut kind (Link.report outcome) :=
  alike.reported (.refl l) (.reported outcome)

theorem beginRead (alike : l.AlikeBut kind l') (cfg cfg' : Settings δ) (i : Nat) {other : Kind}
    (different : other ≠ kind) (tick session : Nat) (handle : Option Int) :
    (l.beginRead cfg env i other tick session handle).AlikeBut kind
      (l'.beginRead cfg' env' i other tick session handle) := by
  unfold Link.beginRead
  rw [alike.isReleased]
  split
  · apply report
    apply completeRead _ cfg cfg' i _ different
    exact alike.onLoop (·.finish _ _)
  · exact alike.request _ _ _ _

theorem beginReadOwn (alike : l.AlikeBut kind l') (cfg : Settings δ) (i tick session : Nat)
    (handle : Option Int) : l.AlikeBut kind (l'.beginRead cfg env i kind tick session handle) := by
  unfold Link.beginRead
  dsimp only
  split
  · apply reportOwn
    apply completeReadOwn
    exact alike.onLoopOwn (.finishOwn · _ rfl)
  · exact alike.requestOwn _ _ _ rfl

theorem resumeRead (alike : l.AlikeBut kind l') (cfg : Settings δ) (threshold : Journal.Level)
    (i : Nat) {other : Kind} (different : other ≠ kind) (tick : Nat) (handle : Option Int)
    (ending : Ending) :
    (l.resumeRead cfg env i other tick handle ending).AlikeBut kind
      (l'.resumeRead (cfg.keeping threshold) env' i other tick handle ending) := by
  apply report
  apply completeRead _ cfg (cfg.keeping threshold) i _ different
  exact alike.onLoop (·.finish _ _)

theorem resumeReadOwn (alike : l.AlikeBut kind l') (cfg : Settings δ) (i tick : Nat)
    (handle : Option Int) (ending : Ending) :
    l.AlikeBut kind (l'.resumeRead cfg env i kind tick handle ending) := by
  apply reportOwn
  apply completeReadOwn
  exact alike.onLoopOwn (.finishOwn · _ rfl)

theorem arm (alike : l.AlikeBut kind l') (cfg cfg' : Settings δ) (i : Nat) :
    (l.arm cfg i).AlikeBut kind (l'.arm cfg' i) := by
  unfold Link.arm
  obtain ⟨here, there⟩ | ⟨g, g', here, there, same⟩ := alike.ingestion i
  · rw [here, there]
    exact alike
  · rw [here, there]
    dsimp only
    obtain ⟨s, s', way, way', subscribed⟩ | ⟨p, p', way, way', -⟩ := same.strategy.ways
    · rw [way, way']
      exact alike.armSubscriptions cfg cfg' i same subscribed
    · rw [way, way']
      exact alike.armPolling i

/-- Cancelling tasks comes, but for the kind, to cancelling those that are not about it. -/
theorem cancelAll (tasks : List TaskId) (alike : l.AlikeBut kind l') :
    ((tasks.filter (·.kind? != some kind)).foldl (fun l task => l.onLoop (·.cancel task))
      l).AlikeBut kind (tasks.foldl (fun l task => l.onLoop (·.cancel task)) l') := by
  induction tasks generalizing l l' with
  | nil => exact alike
  | cons task rest ih =>
    rw [List.foldl_cons]
    by_cases own : task.kind? = some kind
    · rw [List.filter_cons_of_neg (by simp [own])]
      exact ih (alike.onLoopOwn (.cancelOwn · own))
    · rw [List.filter_cons_of_pos (by simpa using own), List.foldl_cons]
      exact ih (alike.onLoop (·.cancel own))

theorem disarm (alike : l.AlikeBut kind l') (i : Nat) :
    (l.disarm i).AlikeBut kind (l'.disarm i) := by
  unfold Link.disarm
  obtain ⟨here, there⟩ | ⟨g, g', here, there, same⟩ := alike.ingestion i
  · rw [here, there]
    exact alike
  · rw [here, there]
    dsimp only
    apply onIngestion _ i (·.disarmed)
    have cancelled {m m' : Link δ} (untimed : m.AlikeBut kind m') :
        (g.pendingTasks.foldl (fun l task => l.onLoop (·.cancel task)) m).AlikeBut kind
          (g'.pendingTasks.foldl (fun l task => l.onLoop (·.cancel task)) m') := by
      have before := (untimed.trans untimed.symm).cancelAll g.pendingTasks
      have after := untimed.cancelAll g'.pendingTasks
      rw [same.pendingTasks] at after
      exact before.symm.trans after
    apply cancelled
    obtain ⟨s, s', way, way', -⟩ | ⟨p, p', way, way', polled⟩ := same.strategy.ways
    · rw [way, way']
      exact alike
    · obtain ⟨interval, timer, inFlight, ticks, scheduled⟩ := p
      obtain ⟨interval', timer', inFlight', ticks', scheduled'⟩ := p'
      obtain rfl : timer' = timer := polled.timer
      rw [way, way']
      cases timer' with
      | none => exact alike
      | some timer => exact alike.onLoop (·.unschedule timer)

end AlikeBut

instance (kind : Kind) : Congruence (AlikeBut kind : Link δ → Link δ → Prop) where
  machine alike := alike.machine
  sessions alike := alike.sessions
  length alike := alike.length
  timers alike := alike.loop.timers
  point? alike steers := alike.loop.point? (by rw [TaskId.kind?_eq_none steers]; exact nofun)
  reported alike here there := alike.reported here there
  emit e alike := alike.onLoop (·.emit e)
  suspend point alike _ := alike.onLoop (·.suspend _ point)
  finish how alike _ := alike.onLoop (·.finish _ how)
  cancel alike steers :=
    alike.onLoop (·.cancel (by rw [TaskId.kind?_eq_none steers]; exact nofun))
  schedule timer wait alike := alike.onLoop (·.schedule timer wait)
  unschedule timer alike := alike.onLoop (·.unschedule timer)
  expire timer alike := alike.onLoop (·.expire timer)
  setMachine machine alike := { alike with machine := rfl }
  setSessions sessions alike := { alike with sessions := rfl }
  setConnected connected alike := alike.setConnected connected
  create mode session generation handles alike := alike.create mode session generation handles
  arm cfg threshold i alike := alike.arm cfg (cfg.keeping threshold) i
  disarm i alike := alike.disarm i
  tick cfg threshold i alike := alike.tick cfg (cfg.keeping threshold) i

namespace AlikeBut

variable {kind : Kind} {l l' : Link δ} {env env' : Surroundings}

theorem works (cfg : Settings δ) (threshold : Journal.Level) {other : Kind}
    (different : other ≠ kind) :
    Congruence.Works (AlikeBut kind) cfg threshold env env' other where
  finish how alike _ := alike.onLoop (·.finish _ how)
  beginSubscription i round session handle alike :=
    alike.beginSubscription cfg (cfg.keeping threshold) i other round session handle
  resumeSubscription i round handle ending alike :=
    alike.resumeSubscription cfg threshold i other round handle ending
  beginRead i tick session handle alike :=
    alike.beginRead cfg (cfg.keeping threshold) i different tick session handle
  resumeRead i tick handle ending alike :=
    alike.resumeRead cfg threshold i different tick handle ending

/-- The same characteristic is found. -/
theorem lookUp (alike : l.AlikeBut kind l') (agrees : env.Agrees env') (cfg cfg' : Settings δ)
    (session : Nat) (handle : Option Int) :
    (l.lookUp cfg env session handle).1.AlikeBut kind (l'.lookUp cfg' env' session handle).1 ∧
      (l'.lookUp cfg' env' session handle).2 = (l.lookUp cfg env session handle).2 := by
  unfold Link.lookUp
  rw [alike.isReleased, agrees.lookup]
  split
  · exact ⟨alike, rfl⟩
  · refine ⟨?_, rfl⟩
    dsimp only
    split
    · exact Congruence.transition alike cfg cfg' .disconnected none
    · exact alike

theorem notified (alike : l.AlikeBut kind l') (agrees : env.Agrees env') (cfg cfg' : Settings δ)
    (i : Nat) (handle : Option Int) (payload : List UInt8) :
    (l.notified cfg env i handle payload).1.AlikeBut kind
      (l'.notified cfg' env' i handle payload).1 := by
  unfold Link.notified
  obtain ⟨here, there⟩ | ⟨g, g', here, there, same⟩ := alike.ingestion i
  · rw [here, there]
    exact alike
  · rw [here, there]
    dsimp only
    rw [alike.isStale same, same.session]
    split
    · exact alike.noteHandle cfg cfg' .debug _ _ _
    · obtain ⟨looked, found⟩ := alike.lookUp agrees cfg cfg' g.session handle
      revert looked found
      generalize l.lookUp cfg env g.session handle = seen
      generalize l'.lookUp cfg' env' g.session handle = seen'
      obtain ⟨l, characteristic⟩ := seen
      obtain ⟨l', characteristic'⟩ := seen'
      rintro looked ⟨⟩
      cases characteristic with
      | none => exact looked.noteHandle cfg cfg' .debug _ _ _
      | some c =>
        dsimp only
        cases Gatt.requireUuid c.uuid with
        | error f => exact looked
        | ok u =>
          dsimp only
          split
          · exact looked
          · exact looked.ingest cfg cfg' i _ payload

/-- A notification of the kind on one side, if reading the tree leaves the state machine alone. -/
theorem notifiedOwn (alike : l.AlikeBut kind l') (cfg : Settings δ) {i : Nat} {g : Ingestion δ}
    (here : l'.ingestions[i]? = some g) {handle : Option Int}
    (calm : (env.lookup g.session handle).supersedes = false)
    (own : l'.kindAt env g.session handle = some kind) (payload : List UInt8) :
    l.AlikeBut kind (l'.notified cfg env i handle payload).1 := by
  unfold Link.notified
  rw [here]
  dsimp only
  split
  · exact alike.noteHandleOwn cfg .debug _ _ _
  · have found : l'.lookUp cfg env g.session handle =
        (l', (l'.lookUp cfg env g.session handle).2) :=
      Prod.ext (lookUp_fst cfg calm) rfl
    rw [l'.kindAt_eq cfg env g.session handle] at own
    rw [found]
    cases seen : (l'.lookUp cfg env g.session handle).2 with
    | none => simp [seen] at own
    | some c =>
      dsimp only
      cases named : c.uuid with
      | none => simp [seen, named] at own
      | some u =>
        rw [seen, Option.bind_some, named, Option.bind_some] at own
        simp only [Gatt.requireUuid, own]
        exact alike.ingestOwn cfg i payload

end AlikeBut

end Link

end SensorLink
