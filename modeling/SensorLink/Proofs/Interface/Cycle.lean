/-
# Stopping and starting again

An interface is started, serves, is stopped, and rests until it is started again.
A `Life` follows it through these stages, with any callbacks of the loop in
between; a stop is over once the loop is closed, whatever the shutdown made of
it, and the stage keeps whether the shutdown came to its end.  The callbacks are
kept too, since what is shown here asks of the attempts that they obey their
cancellation.

At rest nothing runs and the store is offline, in every case.  Whether the
listeners were told of the end of the connection, and whether the next start
begins an attempt, depends on what the supervisor was left with: it goes on as
if it had never been started exactly if it is stopped and disconnected.  A
shutdown that came to its end leaves it so.
-/

import SensorLink.Proofs.Interface.Word
import SensorLink.Proofs.Supervisor.Settling

namespace SensorLink

open Gatt (Ending)
open Link (Loop Settings Surroundings Taken)
open Supervisor (Inv Lawful Moment Obedient Settled Tidy firstConnection moments
  obedient_moments plainSettings plainWorld)

variable {δ : Type}

/-- Whether an event is a callback of the loop, not something that is asked for from outside. -/
def Event.isCallback : Event → Bool
  | .started | .shutdownAsked | .transitionAsked _ => false
  | _ => true

/-- The store is offline, and nothing counts as observed. -/
structure Store.IsOffline (store : Store) : Prop where
  disconnected : store.connected = false
  unobserved : ∀ kind, (store.read kind).observed = false

theorem Store.isOffline_fresh : Store.fresh.IsOffline where
  disconnected := rfl
  unobserved kind := by cases kind <;> rfl

theorem Store.isOffline_setConnected (store : Store) : (store.setConnected false).IsOffline where
  disconnected := rfl
  unobserved kind := by simp [setConnected, read]

namespace Supervisor

variable {cfg : Settings δ} {s : Supervisor δ} {env : Surroundings} {n : Nat} {event : Event}
  {watched : Nat → Prop}

/-- A shutdown comes to its end with an event. -/
inductive Concludes (s : Supervisor δ) (cfg : Settings δ) (env : Surroundings) (n : Nat) :
    Event → Prop where
  /-- It ends in its first step. -/
  | atOnce : s.loop.point? (.shutdown n) = some .shutdownStart →
    (s.step cfg env (.begins (.shutdown n))).loop.isLive (.shutdown n) = false →
      Concludes s cfg env n (.begins (.shutdown n))
  /-- It goes on once the session is closed. -/
  | later (ending : Ending) : s.loop.point? (.shutdown n) = some .shutdownClosing →
    ¬ending.Escapes .disconnect (cfg.limitText .disconnect) →
      Concludes s cfg env n (.resumed (.shutdown n) ending)

/-- A shutdown that is watched settles the supervisor when it comes to its end. -/
theorem Tidy.settled_of_concludes (tidy : Tidy watched s) (watch : watched n)
    (concludes : s.Concludes cfg env n event) : (s.step cfg env event).Settled := by
  cases concludes with
  | atOnce here ended =>
    have began : s.step cfg env (.begins (.shutdown n)) = s.startShutdown cfg env n :=
      step_begins here cfg env
    rw [began] at ended ⊢
    obtain ⟨loop, -, ⟨-, finished⟩ | ⟨x, -, waits⟩⟩ := s.startShutdown_cases cfg env n
    · rw [finished]
      refine settled_finishShutdown ?_ cfg env n
      rw [stopAttempts_eq]
    · rw [waits, Loop.isLive, point?_await] at ended
      cases ended
  | later ending here returns =>
    have resumed : s.step cfg env (.resumed (.shutdown n) ending) =
        s.resumeShutdown cfg env n ending := step_resumed here cfg env ending
    obtain ⟨loop, -, ⟨-, finished⟩ | ⟨escapes, -⟩⟩ := s.resumeShutdown_cases cfg env n ending
    · rw [resumed, finished]
      have stopped : s.stopped = true := (tidy.closing n watch here).1
      exact settled_finishShutdown (s := { s with loop }) stopped cfg env n
    · exact absurd escapes returns

end Supervisor

namespace Interface

/-- The parts of a stop. -/
inductive Phase where
  /-- The shutdown is waited for. -/
  | waiting
  /-- The wait is over. -/
  | judged
  /-- The tasks that are left were cancelled. -/
  | unwinding

/-- What an interface is doing.  From the beginning of a stop to the next start it is kept whether
the shutdown of the stop came to its end. -/
inductive Stage where
  | resting (concluded : Bool)
  | serving
  | stopping (phase : Phase) (shutdown : Nat) (concluded : Bool)

namespace Stage

/-- Whether the loop runs. -/
def runs : Stage → Bool
  | resting _ => false
  | _ => true

/-- Whether the end of the program would stop the interface. -/
def hooked : Stage → Bool
  | serving => true
  | _ => false

/-- Whether the shutdown of the latest stop came to its end, if there was a stop. -/
def concluded : Stage → Bool
  | resting concluded | stopping _ _ concluded => concluded
  | serving => false

/-- The shutdown that a stop is about. -/
def watches : Stage → Nat → Prop
  | stopping _ number _, n => n = number
  | _, _ => False

end Stage

/-- An interface comes to a stage, through starts, stops and the callbacks of its loop, which are
its past. -/
inductive Life (cfg : Settings δ) : List (Moment δ) → Stage → Interface δ → Prop where
  | fresh : Life cfg [] (.resting true) .fresh
  | start {past : List (Moment δ)} {i : Interface δ} {concluded : Bool} :
    Life cfg past (.resting concluded) i → Life cfg past .serving (i.start cfg)
  /-- A start while the loop runs. -/
  | startAgain {past : List (Moment δ)} {i : Interface δ} {stage : Stage} :
    Life cfg past stage i → stage.runs = true → Life cfg past stage (i.start cfg)
  | callback {past : List (Moment δ)} {i : Interface δ} {stage : Stage} (env : Surroundings)
    (event : Event) : Life cfg past stage i → stage.runs = true → Lawful env event →
      event.isCallback = true → Life cfg (past ++ [⟨i.supervisor, env, event⟩]) stage
        { i with supervisor := i.supervisor.step cfg env event }
  /-- A callback in which the shutdown of the stop comes to its end. -/
  | conclude {past : List (Moment δ)} {i : Interface δ} {phase : Phase} {n : Nat}
    {concluded : Bool} (env : Surroundings) (event : Event) :
    Life cfg past (.stopping phase n concluded) i → Lawful env event →
      i.supervisor.Concludes cfg env n event →
        Life cfg (past ++ [⟨i.supervisor, env, event⟩]) (.stopping phase n true)
          { i with supervisor := i.supervisor.step cfg env event }
  | stopIdle {past : List (Moment δ)} {i : Interface δ} {concluded : Bool} :
    Life cfg past (.resting concluded) i → Life cfg past (.resting concluded) i.stopIdle
  | beginStop {past : List (Moment δ)} {i : Interface δ} : Life cfg past .serving i →
    Life cfg past (.stopping .waiting i.supervisor.shutdowns false) i.beginStop
  | judge {past : List (Moment δ)} {i : Interface δ} {n : Nat} {concluded : Bool}
    (limit : String) (verdict : Verdict) : Life cfg past (.stopping .waiting n concluded) i →
      Life cfg past (.stopping .judged n concluded) (i.judge cfg limit verdict)
  | cancelTasks {past : List (Moment δ)} {i : Interface δ} {n : Nat} {concluded : Bool} :
    Life cfg past (.stopping .judged n concluded) i →
      Life cfg past (.stopping .unwinding n concluded) i.cancelTasks
  | close {past : List (Moment δ)} {i : Interface δ} {n : Nat} {concluded : Bool} :
    Life cfg past (.stopping .unwinding n concluded) i →
      Life cfg past (.resting concluded) i.close

/-- What holds of an interface at a stage of its life. -/
structure Lives (cfg : Settings δ) (stage : Stage) (i : Interface δ) : Prop where
  inv : Inv cfg False (fun _ _ _ _ => True) none i.supervisor
  running : i.running = stage.runs
  hook : i.exitHook = stage.hooked
  tidy : Tidy stage.watches i.supervisor
  settled : stage.concluded = true → i.supervisor.Settled
  /-- At rest the store is offline, and the timers are gone with the loop. -/
  halted : stage.runs = false → i.supervisor.store.IsOffline ∧ ∀ r, ¬i.supervisor.Due r

variable {cfg : Settings δ} {i : Interface δ} {stage : Stage} {concluded : Bool} {n : Nat}
  {phase : Phase} {env : Surroundings} {event : Event} {past : List (Moment δ)}

/-- What follows the wait for a shutdown changes the loop alone. -/
theorem judge_eq (i : Interface δ) (cfg : Settings δ) (limit : String) (verdict : Verdict) :
    ∃ loop, i.supervisor.loop.Wanes [] loop ∧
      i.judge cfg limit verdict = { i with supervisor := { i.supervisor with loop } } := by
  have complained (f : Failure) : ∃ loop, i.supervisor.loop.Wanes [] loop ∧
      i.complain cfg f = { i with supervisor := { i.supervisor with loop } } := by
    obtain ⟨loop, keeps, said⟩ := Supervisor.Journals.complain i.supervisor cfg
      "Error while shutting down BLE session" f
    exact ⟨loop, keeps.wanes, by rw [Interface.complain, said]⟩
  unfold Interface.judge
  split
  · exact ⟨_, .refl _, rfl⟩
  · exact complained _
  · exact complained _
  · obtain ⟨loop, keeps, said⟩ := Supervisor.Journals.say
      (i.supervisor.onLink (·.onLoop (·.cancel i.lastShutdown))) cfg .warning
      ("BLE shutdown did not finish within " ++ limit ++ "s")
    exact ⟨loop, (Loop.Wanes.cancel i.supervisor.loop i.lastShutdown).after keeps.wanes,
      by simp only [said]; rfl⟩

theorem cancelTasks_eq (i : Interface δ) : ∃ loop, i.supervisor.loop.Wanes [] loop ∧
    i.cancelTasks = { i with supervisor := { i.supervisor with loop } } := by
  have folded (tasks : List Link.TaskId) (s : Supervisor δ) :
      tasks.foldl (fun s task => s.onLink (·.onLoop (·.cancel task))) s =
        { s with loop := tasks.foldl (fun loop task => loop.cancel task) s.loop } := by
    induction tasks generalizing s with
    | nil => rfl
    | cons task rest ih => exact ih _
  refine ⟨_, .cancelAll (i.supervisor.loop.tasks.map Prod.fst) i.supervisor.loop, ?_⟩
  rw [Interface.cancelTasks]
  simp only [folded]

namespace Lives

theorem fresh : Lives cfg (.resting true) .fresh where
  inv := .fresh
  running := rfl
  hook := rfl
  tidy := .fresh
  settled _ := ⟨rfl, rfl⟩
  halted _ := ⟨Store.isOffline_fresh, nofun⟩

theorem start (lives : Lives cfg (.resting concluded) i) : Lives cfg .serving (i.start cfg) := by
  have inv := (Step.start (i := i)).inv lives.inv
  have idle : ¬i.running = true := by simp [lives.running, Stage.runs]
  rw [Interface.start, if_neg idle] at inv ⊢
  exact {
    inv
    running := rfl
    hook := rfl
    tidy := (lives.tidy.journals (.say i.supervisor cfg _ _)).start cfg fun _ => False.elim
    settled := by rintro ⟨⟩
    halted := by rintro ⟨⟩ }

theorem startAgain (lives : Lives cfg stage i) (runs : stage.runs = true) :
    Lives cfg stage (i.start cfg) := by
  rwa [Interface.start, if_pos (lives.running.trans runs)]

theorem callback (lives : Lives cfg stage i) (runs : stage.runs = true)
    (lawful : Lawful env event) (obedient : i.supervisor.Obedient event)
    (inner : event ≠ .started) :
    Lives cfg stage { i with supervisor := i.supervisor.step cfg env event } where
  inv := (lives.inv.step lawful obedient).weaken fun _ _ _ _ _ => trivial
  running := lives.running
  hook := lives.hook
  tidy := lives.tidy.step lives.inv lawful obedient fun _ _ started => absurd started inner
  settled concluded := (lives.settled concluded).step lives.inv lawful inner
  halted idle := nomatch runs.symm.trans idle

/-- The shutdown of a stop settles the supervisor when it comes to its end. -/
theorem conclude (lives : Lives cfg (.stopping phase n concluded) i)
    (lawful : Lawful env event) (obedient : i.supervisor.Obedient event)
    (concludes : i.supervisor.Concludes cfg env n event) :
    Lives cfg (.stopping phase n true)
      { i with supervisor := i.supervisor.step cfg env event } := by
  have inner : event ≠ .started := by
    cases concludes <;> nofun
  exact { lives.callback rfl lawful obedient inner with
    settled := fun _ => lives.tidy.settled_of_concludes rfl concludes }

theorem stopIdle (lives : Lives cfg (.resting concluded) i) :
    Lives cfg (.resting concluded) i.stopIdle where
  inv := lives.inv.goOffline
  running := lives.running
  hook := rfl
  tidy := { lives.tidy with }
  settled concluded := ⟨(lives.settled concluded).stopped, (lives.settled concluded).disconnected⟩
  halted idle := ⟨Store.isOffline_setConnected _, (lives.halted idle).2⟩

/-- The shutdown that a stop asks for has not begun. -/
theorem beginStop (lives : Lives cfg .serving i) :
    Lives cfg (.stopping .waiting i.supervisor.shutdowns false) i.beginStop where
  inv := lives.inv.requestShutdown
  running := lives.running
  hook := rfl
  tidy := by
    refine lives.tidy.requestShutdown.watch ?_
    rintro n rfl
    simp [Supervisor.requestShutdown, Supervisor.onLink, Link.onLoop]
  settled := nofun
  halted := nofun

/-- Part of a stop changes the loop alone, where nothing new steers. -/
theorem fade {phase' : Phase} {loop : Loop δ} (lives : Lives cfg (.stopping phase n concluded) i)
    (wanes : i.supervisor.loop.Wanes [] loop) :
    Lives cfg (.stopping phase' n concluded)
      { i with supervisor := { i.supervisor with loop } } where
  inv := lives.inv.fade wanes
  running := lives.running
  hook := lives.hook
  tidy := lives.tidy.fade wanes
  settled concluded := (lives.settled concluded).onLoop
  halted := nofun

theorem judge (lives : Lives cfg (.stopping phase n concluded) i) (limit : String)
    (verdict : Verdict) :
    Lives cfg (.stopping .judged n concluded) (i.judge cfg limit verdict) := by
  obtain ⟨loop, wanes, judged⟩ := i.judge_eq cfg limit verdict
  rw [judged]
  exact lives.fade wanes

theorem cancelTasks (lives : Lives cfg (.stopping phase n concluded) i) :
    Lives cfg (.stopping .unwinding n concluded) i.cancelTasks := by
  obtain ⟨loop, wanes, cancelled⟩ := i.cancelTasks_eq
  rw [cancelled]
  exact lives.fade wanes

theorem close (lives : Lives cfg (.stopping phase n concluded) i) :
    Lives cfg (.resting concluded) i.close where
  inv := lives.inv.closeLoop.goOffline
  running := rfl
  hook := lives.hook
  tidy := by
    have unwatched : Tidy (Stage.watches (.resting concluded)) i.supervisor :=
      lives.tidy.watch nofun
    exact { unwatched with timed := nofun }
  settled concluded := ⟨(lives.settled concluded).stopped, (lives.settled concluded).disconnected⟩
  halted _ := ⟨Store.isOffline_setConnected _, nofun⟩

end Lives

theorem Life.lives (life : Life cfg past stage i) (obedient : ∀ m ∈ past, m.Obedient) :
    Lives cfg stage i := by
  induction life with
  | fresh => exact .fresh
  | start _ ih => exact (ih obedient).start
  | startAgain _ runs ih => exact (ih obedient).startAgain runs
  | callback env event _ runs lawful inner ih =>
    rw [List.forall_mem_append, List.forall_mem_singleton] at obedient
    refine (ih obedient.1).callback runs lawful obedient.2 ?_
    rintro rfl
    cases inner
  | conclude env event _ lawful concludes ih =>
    rw [List.forall_mem_append, List.forall_mem_singleton] at obedient
    exact (ih obedient.1).conclude lawful obedient.2 concludes
  | stopIdle _ ih => exact (ih obedient).stopIdle
  | beginStop _ ih => exact (ih obedient).beginStop
  | judge limit verdict _ ih => exact (ih obedient).judge limit verdict
  | cancelTasks _ ih => exact (ih obedient).cancelTasks
  | close _ ih => exact (ih obedient).close

/-- Every message that the peripheral is connected is followed by one that it is not. -/
def Answered (messages : List Message) : Prop :=
  ∀ before after, messages = before ++ .status true :: after → .status false ∈ after

/-- Messages that end with the loss of a connection are answered. -/
theorem answered_concat (messages : List Message) : Answered (messages ++ [.status false]) := by
  intro before after same
  rcases List.eq_nil_or_concat after with rfl | ⟨rest, last, rfl⟩
  · have last := List.append_inj_right' same rfl
    simp at last
  · have ends : messages ++ [.status false] = (before ++ .status true :: rest) ++ [last] := by
      simpa using same
    obtain rfl : .status false = last := by
      simpa using List.append_inj_right' ends rfl
    simp

/-- The messages of a report are answered exactly once it is complete. -/
theorem answered_flatMap_iff {isOpen : Bool} {word : List Link.Notice}
    (spoken : Link.Spoken isOpen word) :
    Answered (word.flatMap messagesOfNotice) ↔ isOpen = false := by
  induction spoken with
  | silence => exact iff_of_true (fun before after same => by simp at same) rfl
  | @ready word _ _ =>
    refine iff_of_false (fun answered => ?_) nofun
    have lost := answered (word.flatMap messagesOfNotice ++ [.established]) []
      (by simp [messagesOfNotice, readyMessages])
    cases lost
  | @reading word r _ ih =>
    refine iff_of_false (fun answered => ?_) nofun
    refine nomatch ih.mp fun before after same => ?_
    have lost := answered before (after ++ [.reading r.1 r.2])
      (by simp [same, messagesOfNotice, Taken.notice])
    simpa using lost
  | @lost word _ _ =>
    have ends : (word ++ [Link.Notice.lost]).flatMap messagesOfNotice =
        (word.flatMap messagesOfNotice ++ [Message.lost]) ++ [.status false] := by
      simp [messagesOfNotice, lostMessages]
    rw [ends]
    exact iff_of_true (answered_concat _) rfl

/-- The messages are answered exactly unless the connection is ready. -/
theorem Lives.answered_iff (lives : Lives cfg stage i) :
    Answered i.messages ↔ i.supervisor.machine.state ≠ .ready := by
  rw [messages_eq, answered_flatMap_iff lives.inv.word, Connection.Machine.isReady,
    beq_eq_false_iff_ne]

/-- Nothing of the interface runs, and the store is offline. -/
structure Halted (i : Interface δ) : Prop where
  stopped : i.running = false
  unhooked : i.exitHook = false
  offline : i.supervisor.store.IsOffline

/-- A start of the interface begins an attempt, which opens a session. -/
def Restarts (i : Interface δ) (cfg : Settings δ) : Prop :=
  (i.start cfg).supervisor.Reopens cfg

/-- At rest, the supervisor is all that decides on the next start. -/
theorem Lives.restarts_iff (lives : Lives cfg (.resting concluded) i) :
    i.Restarts cfg ↔ i.supervisor.Settled := by
  have idle : ¬i.running = true := by simp [lives.running, Stage.runs]
  obtain ⟨loop, keeps, said⟩ := Supervisor.Journals.say i.supervisor cfg .debug
    ("BLE connecting to: " ++ cfg.address)
  have inv : Inv cfg False (fun _ _ _ _ => True) none { i.supervisor with loop } :=
    lives.inv.fade keeps.wanes
  have unretried (r : Nat) : ¬({ i.supervisor with loop } : Supervisor δ).Due r :=
    fun due => (lives.halted rfl).2 r ((keeps.timers _ rfl).mp due)
  rw [Restarts, Interface.start, if_neg idle]
  simp only [said]
  rw [inv.reopens_start_iff unretried]
  exact ⟨fun settled => ⟨settled.stopped, settled.disconnected⟩, fun settled => settled.onLoop⟩

/-- **Stops and starts.** At rest an interface does not run, is not stopped by the end of the
program, and its store is offline, however its sessions behaved, as long as no cancelled attempt
failed after its successor was created.

The listeners were told of the end of every connection exactly unless the supervisor was left
ready, and the next start begins an attempt exactly if the supervisor was left stopped and
disconnected.  Both are the case after a stop whose shutdown came to its end. -/
theorem Life.rests (life : Life cfg past (.resting concluded) i)
    (obedient : ∀ m ∈ past, m.Obedient) :
    i.Halted ∧ (Answered i.messages ↔ i.supervisor.machine.state ≠ .ready) ∧
      (i.Restarts cfg ↔ i.supervisor.Settled) ∧
      (concluded = true → Answered i.messages ∧ i.Restarts cfg) := by
  have lives := life.lives obedient
  refine ⟨⟨lives.running, lives.hook, (lives.halted rfl).1⟩, lives.answered_iff,
    lives.restarts_iff, fun orderly => ?_⟩
  have settled := lives.settled orderly
  exact ⟨lives.answered_iff.mpr (by simp [settled.disconnected]), lives.restarts_iff.mpr settled⟩

/-- Tame callbacks in calm surroundings continue a life. -/
theorem Life.play {events : List Event} (life : Life cfg past stage i) (runs : stage.runs = true)
    (calm : ∀ session handle, (env.lookup session handle).supersedes = false)
    (tame : events.all (fun event => event.isTame && event.isCallback) = true) :
    Life cfg (past ++ moments cfg env i.supervisor events) stage (i.play cfg env events) := by
  induction events generalizing past i with
  | nil => rwa [moments, List.append_nil]
  | cons event rest ih =>
    simp only [List.all_cons, Bool.and_eq_true] at tame
    have continued := ih (life.callback env event runs (.of_tame calm tame.1.1) tame.1.2) tame.2
    rwa [List.append_assoc] at continued

/-- An interface is started, and its first connection is ready. -/
def served : Interface Nat :=
  (Interface.fresh.start plainSettings).play plainSettings plainWorld firstConnection.tail

/-- A stop of it waits for the session to close. -/
def leaving : Interface Nat :=
  served.beginStop.play plainSettings plainWorld [.begins (.shutdown 0)]

/-- The call ends, and the stop takes its course. -/
def left (ending : Ending) (verdict : Verdict) : Interface Nat :=
  ((leaving.play plainSettings plainWorld [.resumed (.shutdown 0) ending]).judge plainSettings "5.0"
    verdict).cancelTasks.close

/-- The callbacks of the loop until the session is about to close. -/
def untilLeaving : List (Moment Nat) :=
  moments plainSettings plainWorld (Interface.fresh.start plainSettings).supervisor
      firstConnection.tail ++
    moments plainSettings plainWorld served.beginStop.supervisor [.begins (.shutdown 0)]

theorem leaving_life : Life plainSettings untilLeaving (.stopping .waiting 0 false) leaving := by
  have shutdowns : served.supervisor.shutdowns = 0 := by decide +kernel
  have serving : Life plainSettings _ .serving served :=
    (Life.start .fresh).play rfl (fun _ _ => rfl) rfl
  have stopping := serving.beginStop
  rw [shutdowns] at stopping
  exact stopping.play rfl (fun _ _ => rfl) rfl

theorem leaving_waits :
    leaving.supervisor.loop.point? (.shutdown 0) = some .shutdownClosing := by
  decide +kernel

/-- The callbacks of the loop until the call that closes the session has ended. -/
def untilLeft (ending : Ending) : List (Moment Nat) :=
  untilLeaving ++ [⟨leaving.supervisor, plainWorld, .resumed (.shutdown 0) ending⟩]

/-- No attempt fails before the session is closed, or then. -/
theorem untilLeft_obedient (ending : Ending) : ∀ m ∈ untilLeft ending, m.Obedient := by
  simp only [untilLeft, untilLeaving, List.forall_mem_append, List.forall_mem_singleton]
  exact ⟨⟨obedient_moments rfl, obedient_moments rfl⟩, .of_succumbs rfl leaving.supervisor⟩

theorem left_life (ending : Ending) (verdict : Verdict) :
    Life plainSettings (untilLeft ending) (.resting false) (left ending verdict) := by
  have resumed := leaving_life.callback plainWorld (.resumed (.shutdown 0) ending) rfl
    (.of_tame (fun _ _ => rfl) rfl) rfl
  exact ((resumed.judge "5.0" verdict).cancelTasks).close

/-- A stop whose session closes comes to its end. -/
theorem left_life_of_returned (verdict : Verdict) :
    Life plainSettings (untilLeft (.returned [])) (.resting true)
      (left (.returned []) verdict) := by
  have concluded := leaving_life.conclude plainWorld (.resumed (.shutdown 0) (.returned []))
    (.of_tame (fun _ _ => rfl) rfl)
    (.later (.returned []) leaving_waits (Ending.not_escapes_of_ok rfl))
  exact ((concluded.judge "5.0" verdict).cancelTasks).close

/-- An interface whose session closes tells its listeners so, and can be started again. -/
theorem restarts_left : (left (.returned []) (.ended .done)).Halted ∧
    Answered (left (.returned []) (.ended .done)).messages ∧
    (left (.returned []) (.ended .done)).Restarts plainSettings := by
  obtain ⟨halted, -, -, orderly⟩ := (left_life_of_returned (.ended .done)).rests
    (untilLeft_obedient (.returned []))
  exact ⟨halted, orderly rfl⟩

/-- An interface whose session fails to close for a reason other than the transport never tells
its listeners that the connection is lost, and a start of it begins no attempt. -/
theorem not_restarts_left :
    let f := Failure.reported .runtime "backend exploded"
    let i := left (.raised f) (.ended (.failed f))
    (∃ past, Life plainSettings past (.resting false) i ∧ ∀ m ∈ past, m.Obedient) ∧
      ¬Answered i.messages ∧ ¬i.Restarts plainSettings := by
  intro f i
  have life : Life plainSettings (untilLeft (.raised f)) (.resting false) i :=
    left_life (.raised f) (.ended (.failed f))
  have obedient := untilLeft_obedient (.raised f)
  have lives := life.lives obedient
  have ready : i.supervisor.machine.state = .ready := by decide +kernel
  refine ⟨⟨_, life, obedient⟩, fun answered => lives.answered_iff.mp answered ready,
    fun restarts => ?_⟩
  exact nomatch ready.symm.trans (lives.restarts_iff.mp restarts).disconnected

end Interface

end SensorLink
