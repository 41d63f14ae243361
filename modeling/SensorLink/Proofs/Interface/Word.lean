/-
# The messages of an interface

An interface starts and stops its supervisor, and may take the store offline or
cancel what is left on the loop.  None of this disturbs what the listeners of the
supervisor hear: connections one after another, each with its readings between
its beginning and its end.  The messages of the interface are made of exactly
these notices, so they follow the same pattern.

`Interface.Reaches` allows more than an interface does, since it leaves the order
of the parts of a stop open and lets callbacks run between them.  It keeps the
callbacks that the loop has processed, for the pattern is broken by a cancelled
attempt that fails after its successor was created.
-/

import SensorLink.Interface
import SensorLink.Proofs.Supervisor.Preservation

namespace SensorLink

open Link (Effect Loop Notice Settings Surroundings Taken)
open Supervisor (Moment moments)

variable {δ : Type}

namespace Interface

/-- What starting and stopping an interface is made of. -/
inductive Step (cfg : Settings δ) (i : Interface δ) : Interface δ → Prop where
  | start : Step cfg i (i.start cfg)
  | stopIdle : i.running = false → Step cfg i i.stopIdle
  | beginStop : i.running = true → Step cfg i i.beginStop
  | judge (limit : String) (verdict : Verdict) : i.running = true →
    Step cfg i (i.judge cfg limit verdict)
  | cancelTasks : i.running = true → Step cfg i i.cancelTasks
  | close : i.running = true → Step cfg i i.close

/-- The interfaces that come from one that was never started, through starts, stops and the
callbacks of the loop while it is running, which are their past. -/
inductive Reaches (cfg : Settings δ) : List (Moment δ) → Interface δ → Prop where
  | fresh : Reaches cfg [] .fresh
  | callback {past : List (Moment δ)} {i : Interface δ} (env : Surroundings) (event : Event) :
    Reaches cfg past i → i.running = true → Supervisor.Lawful env event →
      Reaches cfg (past ++ [⟨i.supervisor, env, event⟩])
        { i with supervisor := i.supervisor.step cfg env event }
  | step {past : List (Moment δ)} {i i' : Interface δ} :
    Reaches cfg past i → Step cfg i i' → Reaches cfg past i'

/-- The interface after callbacks that all meet the same surroundings. -/
def play (i : Interface δ) (cfg : Settings δ) (env : Surroundings) (events : List Event) :
    Interface δ :=
  { i with supervisor := i.supervisor.play cfg env events }

/-- The messages so far. -/
def messages (i : Interface δ) : List Message :=
  i.supervisor.loop.tape.flatMap messagesOf

/-- The messages that a notice becomes. -/
def messagesOfNotice : Notice → List Message
  | .ready => readyMessages
  | .lost => lostMessages
  | .reading kind value => [.reading kind value]

/-- The messages about a connection while it lasts. -/
def opening (readings : List Taken) : List Message :=
  [.established, .status true] ++ readings.map fun r => .reading r.1 r.2

/-- The messages about a connection from its beginning to its end. -/
def cycle (readings : List Taken) : List Message :=
  opening readings ++ [.lost, .status false]

/-- The messages are those of the notices. -/
theorem messages_eq (i : Interface δ) :
    i.messages = i.supervisor.loop.notices.flatMap messagesOfNotice := by
  unfold messages Loop.notices
  induction i.supervisor.loop.tape with
  | nil => rfl
  | cons e rest ih =>
    rw [List.flatMap_cons, ih]
    cases e <;> rfl

theorem messagesOfNotice_opening (readings : List Taken) :
    (Notice.opening readings).flatMap messagesOfNotice = opening readings := by
  have told : (readings.map Taken.notice).flatMap messagesOfNotice =
      readings.map fun r => Message.reading r.1 r.2 := by
    induction readings with
    | nil => rfl
    | cons r rest ih => rw [List.map_cons, List.flatMap_cons, ih]; rfl
  rw [Notice.opening, List.flatMap_cons, told]
  rfl

theorem messagesOfNotice_cycle (readings : List Taken) :
    (Notice.cycle readings).flatMap messagesOfNotice = cycle readings := by
  rw [Notice.cycle, List.flatMap_append, messagesOfNotice_opening]
  rfl

end Interface

namespace Supervisor

variable {cfg : Settings δ} {s : Supervisor δ} {vouch : Nat → Nat → Sensor.Kind → Float → Prop}
  {running : Option Nat}

/-- Somebody else takes the store offline. -/
theorem Inv.goOffline (inv : Inv cfg False vouch running s) :
    Inv cfg False vouch running
      (s.onLink fun l => { l with store := l.store.setConnected false }) :=
  { inv with
    offline := nofun
    online := False.elim
    vouched := by
      intro kind value shown
      simp [onLink, Store.setConnected, Store.read] at shown }

/-- Somebody else cancels tasks. -/
theorem Inv.cancelAll (inv : Inv cfg False vouch running s) (tasks : List Link.TaskId) :
    Inv cfg False vouch running
      (tasks.foldl (fun s task => s.onLink (·.onLoop (·.cancel task))) s) := by
  induction tasks generalizing s with
  | nil => exact inv
  | cons task rest ih => exact ih (inv.fade (.cancel s.loop task))

/-- Closing the loop takes all of its timers away. -/
theorem Inv.closeLoop (inv : Inv cfg False vouch running s) :
    Inv cfg False vouch running (s.onLink (·.onLoop fun loop => { loop with timers := [] })) :=
  { inv with retry := nofun }

end Supervisor

namespace Interface

variable {cfg : Settings δ} {i i' : Interface δ} {past : List (Moment δ)}

/-- Starting and stopping an interface preserves what its supervisor preserves. -/
theorem Step.inv (step : Step cfg i i')
    (inv : Supervisor.Inv cfg False (fun _ _ _ _ => True) none i.supervisor) :
    Supervisor.Inv cfg False (fun _ _ _ _ => True) none i'.supervisor := by
  cases step with
  | start =>
    rw [Interface.start]
    split
    · exact inv
    · exact (inv.journals (.say i.supervisor cfg _ _)).start
  | stopIdle _ => exact inv.goOffline
  | beginStop _ => exact inv.requestShutdown
  | judge limit verdict _ =>
    unfold Interface.judge
    split
    · exact inv
    · exact inv.journals (.complain i.supervisor cfg _ _)
    · exact inv.journals (.complain i.supervisor cfg _ _)
    · exact (inv.fade (.cancel i.supervisor.loop i.lastShutdown)).journals (.say _ cfg _ _)
  | cancelTasks _ => exact inv.cancelAll _
  | close _ => exact inv.closeLoop.goOffline

theorem Reaches.inv (reaches : Reaches cfg past i) (obedient : ∀ m ∈ past, m.Obedient) :
    Supervisor.Inv cfg False (fun _ _ _ _ => True) none i.supervisor := by
  induction reaches with
  | fresh => exact .fresh
  | callback env event _ _ lawful ih =>
    rw [List.forall_mem_append, List.forall_mem_singleton] at obedient
    exact ((ih obedient.1).step lawful obedient.2).weaken fun _ _ _ _ _ => trivial
  | step _ step ih => exact step.inv (ih obedient)

/-- Tame callbacks in calm surroundings lead a running interface on. -/
theorem Reaches.play {env : Surroundings} {events : List Event} (reaches : Reaches cfg past i)
    (runs : i.running = true)
    (calm : ∀ session handle, (env.lookup session handle).supersedes = false)
    (tame : events.all Event.isTame = true) :
    Reaches cfg (past ++ moments cfg env i.supervisor events) (i.play cfg env events) := by
  induction events generalizing past i with
  | nil => rwa [moments, List.append_nil]
  | cons event rest ih =>
    rw [List.all_cons, Bool.and_eq_true] at tame
    have continued := ih (reaches.callback env event runs (.of_tame calm tame.1)) runs tame.2
    rwa [List.append_assoc] at continued

end Interface

open Interface (Reaches)
open Supervisor (Run lateFailure lateWorld obedient_moments plainSettings plainWorld run_play
  secondConnection)

/-- **The word of a session.** As long as no cancelled attempt fails after its successor was
created, the listeners of a supervisor have heard between two callbacks of connections one after
another, each ready, with its readings, and lost, and of one more that is ready, with its
readings, exactly if the connection is ready now; so readiness was told once more often than loss
if it is, and equally often otherwise.  The messages of an interface follow the same pattern, each
status right after its establishment or loss. -/
theorem listeners_word (cfg : Settings δ) (past : List (Moment δ))
    (obedient : ∀ m ∈ past, m.Obedient) :
    (∀ s : Supervisor δ, Run cfg past s →
      (∃ (closed : List (List Taken)) (readings : List Taken),
        s.loop.notices = closed.flatMap Notice.cycle ++
          if s.machine.state = .ready then Notice.opening readings else []) ∧
      s.loop.notices.countP Notice.isReady =
        s.loop.notices.countP Notice.isLost + if s.machine.state = .ready then 1 else 0) ∧
    ∀ i : Interface δ, Reaches cfg past i →
      ∃ (closed : List (List Taken)) (readings : List Taken),
        i.messages = closed.flatMap Interface.cycle ++
          if i.supervisor.machine.state = .ready then Interface.opening readings else [] := by
  constructor
  · intro s run
    have word := (run.inv obedient).word
    refine ⟨?_, ?_⟩
    · obtain ⟨closed, readings, told⟩ := word.cycles
      exact ⟨closed, readings, by simpa [Connection.Machine.isReady] using told⟩
    · simpa [Connection.Machine.isReady] using word.count
  · intro i reaches
    obtain ⟨closed, readings, told⟩ := (reaches.inv obedient).word.cycles
    refine ⟨closed, readings, ?_⟩
    rw [Interface.messages_eq, told, List.flatMap_append, List.flatMap_assoc]
    congr 1
    · exact List.flatMap_congr fun rs _ => Interface.messagesOfNotice_cycle rs
    · by_cases ready : i.supervisor.machine.state = .ready
      · simp [Connection.Machine.isReady, ready, Interface.messagesOfNotice_opening]
      · simp [Connection.Machine.isReady, ready]

/-- During a second connection the listeners of a supervisor have heard of one more beginning than
ends, and the messages of an interface that came this far end with what the connection brought. -/
theorem listeners_word_secondConnection :
    let s := Supervisor.play plainSettings plainWorld .fresh secondConnection
    let i := (Interface.fresh.start plainSettings).play plainSettings plainWorld
      secondConnection.tail
    (∃ (closed : List (List Taken)) (readings : List Taken),
      s.loop.notices = closed.flatMap Notice.cycle ++ Notice.opening readings) ∧
    s.loop.notices.countP Notice.isReady = s.loop.notices.countP Notice.isLost + 1 ∧
    ∃ (closed : List (List Taken)) (readings : List Taken),
      i.messages = closed.flatMap Interface.cycle ++ Interface.opening readings := by
  intro s i
  have run : Run plainSettings (moments plainSettings plainWorld .fresh secondConnection) s :=
    run_play (fun _ _ => rfl) rfl
  have reaches : Reaches plainSettings ([] ++ moments plainSettings plainWorld
      (Interface.fresh.start plainSettings).supervisor secondConnection.tail) i :=
    (Reaches.fresh.step .start).play rfl (fun _ _ => rfl) rfl
  have ready : s.machine.state = .ready := by decide +kernel
  have readyThere : i.supervisor.machine.state = .ready := by decide +kernel
  obtain ⟨cycles, count⟩ := (listeners_word plainSettings _ (obedient_moments rfl)).1 s run
  have published := (listeners_word plainSettings _ (obedient_moments rfl)).2 i reaches
  simp only [if_pos ready] at cycles count
  simp only [if_pos readyThere] at published
  exact ⟨cycles, count, published⟩

/-- After a late failure the listeners hear of the next connection that it is ready, without having
heard that the one before was lost. -/
theorem ready_twice_lateFailure :
    let again := lateFailure ++ [.expired (.retry 2), .begins (.attempt 2),
      .resumed (.attempt 2) (.returned []), .treeRead (.attempt 2) (.ok (some []))]
    let s := Supervisor.play plainSettings lateWorld .fresh again
    (∃ past, Run plainSettings past s) ∧ s.machine.state = .ready ∧
      s.loop.notices.countP Notice.isReady = 2 ∧ s.loop.notices.countP Notice.isLost = 0 :=
  ⟨⟨_, run_play (fun _ _ => rfl) rfl⟩, by decide +kernel, by decide +kernel, by decide +kernel⟩

end SensorLink
