/-
# Every callback tends the retry

A connection that is lost and an attempt that is given up leave the supervisor at
rest, with the timer of the next attempt set.  A shutdown leaves it without a
timer, and disconnected if it comes to its end.  What is left are the steps of an
attempt on the way to its connection: each either hands the connection on, or
concerns an attempt that was superseded or cancelled.
-/

import SensorLink.Proofs.Supervisor.Tending

namespace SensorLink

open Gatt (Ending)
open Link (Loop Point Settings Surroundings TaskId TimerId)
open Sensor (Kind)

namespace Supervisor

variable {δ : Type} {cfg : Settings δ} {alone : Prop} {vouch : Nat → Nat → Kind → Float → Prop}
  {count : Nat} {s s' : Supervisor δ} {n generation session : Nat}

/-- A task that waits for a call goes on. -/
theorem moves_await (s : Supervisor δ) (task : TaskId) (session : Nat) (call : Gatt.Call)
    (point : Point) : s.loop.Moves task (s.await task session call point).loop :=
  (Loop.Moves.suspend s.loop task point).trans
    (.ofKeeps (.silent _ (.request task session call) rfl nofun) task)

@[simp]
theorem point?_await (s : Supervisor δ) (task : TaskId) (session : Nat) (call : Gatt.Call)
    (point : Point) : (s.await task session call point).loop.point? task = some point := by
  simp [await, onLink, Link.request, Link.onLoop]

theorem point?_await_of_ne (s : Supervisor δ) {task other : TaskId} (different : other ≠ task)
    (session : Nat) (call : Gatt.Call) (point : Point) :
    (s.await task session call point).loop.point? other = s.loop.point? other := by
  rw [await, onLink, Link.request, Link.onLoop, Loop.point?_emit, Loop.point?_suspend,
    if_neg different]

theorem point?_await_ne_attemptStart (s : Supervisor δ) (task : TaskId) (session : Nat)
    (call : Gatt.Call) {point : Point} (begun : point ≠ .attemptStart) :
    (s.await task session call point).loop.point? task ≠ some .attemptStart := by
  rw [point?_await, Ne, Option.some.injEq]
  exact begun

theorem isLive_finish (s : Supervisor δ) (task : TaskId) (how : Link.Finish) :
    (s.finish task how).loop.isLive task = false := by
  simp [Loop.isLive, finish, onLink, Link.onLoop]

namespace Tended

/-- The loss of the current connection sets the timer of the next attempt. -/
theorem connectionLost (tended : Tended count s) (inv : Inv cfg alone vouch none s)
    (steady : cfg.Steady) (env : Surroundings) (generation : Int) :
    Tended count (s.connectionLost cfg env generation).1 := by
  obtain ⟨loop, keeps, ignored | ⟨-, up, lost⟩⟩ := s.connectionLost_cases cfg env generation
  · rw [ignored]
    exact tended.keeps keeps
  · have upheld := tended.upheld up
    obtain ⟨loop', wanes, torn⟩ := teardown_eq { s with loop } cfg env
    rw [lost, torn]
    have orderly := (tended.toOrderly.keeps keeps).torn (inv.fade keeps.wanes) wanes
      (.inr upheld.connected.1)
    obtain ⟨orderly, resting⟩ := orderly.scheduleRetry steady (s.machine.dropped_state) fun _ =>
      upheld.quiet
    exact orderly.tended_of_resting resting

theorem report {outcome : Supervisor δ × Option Failure} (tended : Tended count outcome.1) :
    Tended count (report outcome) :=
  tended.journals (Journals.report (.refl _))

theorem discoveryExpired (tended : Tended count s) (n generation : Nat) :
    Tended count (s.discoveryExpired cfg n generation) := by
  have dropped : Tended count { s with discoveryTimer := none } := { tended with }
  rw [Supervisor.discoveryExpired]
  simp only
  split
  · exact (dropped.journals (.say _ cfg _ _)).movesForced (.spawn _ _ _) fun _ live => live
  · exact dropped

theorem finishForced (tended : Tended count s) (inv : Inv cfg alone vouch none s)
    (steady : cfg.Steady) (env : Surroundings) (n generation : Nat) :
    Tended count (s.finishForced cfg env n generation) :=
  (tended.connectionLost inv steady env generation).finish (.forced _ n) _

theorem forcedFailed (tended : Tended count s) (inv : Inv cfg alone vouch none s)
    (steady : cfg.Steady) (env : Surroundings) (n generation : Nat) (f : Failure) :
    Tended count (s.forcedFailed cfg env n generation f) := by
  rw [Supervisor.forcedFailed]
  split
  · have said := Journals.say s cfg .debug
      ("Disconnect after discovery timeout failed: " ++ f.message)
    exact (tended.journals said).finishForced (inv.journals said) steady env n generation
  · exact tended.finish (.forced s n) _

theorem startForced (tended : Tended count s) (inv : Inv cfg alone vouch none s)
    (steady : cfg.Steady) (env : Surroundings) (n : Nat) (session : Option Nat)
    (generation : Nat) : Tended count (s.startForced cfg env n session generation) := by
  unfold Supervisor.startForced
  split
  · exact tended.finishForced inv steady env n generation
  · split
    · exact tended.forcedFailed inv steady env n generation _
    · exact tended.movesForced (s.moves_await _ _ _ _) fun _ live => live

theorem resumeForced (tended : Tended count s) (inv : Inv cfg alone vouch none s)
    (steady : cfg.Steady) (env : Surroundings) (n generation : Nat) (ending : Ending) :
    Tended count (s.resumeForced cfg env n generation ending) := by
  rw [Supervisor.resumeForced]
  split
  · exact tended.finish (.forced s n) _
  · exact tended.finishForced inv steady env n generation
  · exact tended.forcedFailed inv steady env n generation _

/-- A start while no shutdown is pending, of a supervisor that is disconnected. -/
theorem start (tended : Tended count s)
    (patient : ∀ n, ¬s.loop.isLive (.shutdown n) = true)
    (sound : s.stopped = true → s.machine.state = .disconnected) :
    Tended count (s.start cfg) := by
  rw [Supervisor.start]
  split
  · rename_i stopped
    have started : Orderly count { s with stopped := false, failures := 0 } :=
      { tended.toOrderly with
        closing := fun n here => absurd (by rw [Loop.isLive, here]; rfl) (patient n) }
    obtain ⟨orderly, resting⟩ := started.scheduleConnect (sound stopped) (by simp) cfg.atOnce
    exact orderly.tended_of_resting resting
  · exact tended

theorem requestShutdown (tended : Tended count s) : Tended count s.requestShutdown := by
  have counted : Tended count { s with shutdowns := s.shutdowns + 1 } :=
    { tended with numbered := fun n live => Nat.lt_succ_of_lt (tended.numbered n live) }
  have moves := Loop.Moves.spawn s.loop (.shutdown s.shutdowns) .shutdownStart
  refine counted.moves moves (fun _ live => live) ?_ nofun nofun ?_
  · refine counted.toOrderly.moves moves nofun ?_
    rintro _ ⟨⟩
    exact ⟨fun _ => Nat.lt_succ_self _, fun closing => by simp at closing⟩
  · rintro _ ⟨⟩ closing
    exact absurd (tended.numbered s.shutdowns (by rw [Loop.isLive, closing]; rfl))
      (Nat.lt_irrefl _)

end Tended

/-- A shutdown that comes to its end leaves the supervisor disconnected. -/
theorem Orderly.finishedShutdown (orderly : Orderly count s) (inv : Inv cfg alone vouch none s)
    (stopped : s.stopped = true) (quiet : s.retryTimer = none) (env : Surroundings) (n : Nat) :
    Tended count (s.finishShutdown cfg env n) := by
  obtain ⟨loop, wanes, torn⟩ := s.teardown_eq cfg env
  obtain ⟨loop', keeps, said⟩ := Journals.say { s.torn with loop } cfg .info
    ("BLE session for " ++ cfg.address ++ " stopped")
  rw [Supervisor.finishShutdown, torn, said]
  have ended := ((orderly.torn inv wanes (.inl stopped)).keeps keeps).finish (.shutdown n) .done
  exact ended.tended_of_stopped stopped quiet (.inl s.machine.dropped_state)

/-- The cancelled attempt does not take its first step. -/
theorem Orderly.stopAttempts (orderly : Orderly count s) (inv : Inv cfg alone vouch none s) :
    Orderly count s.stopAttempts := by
  have wanes := s.wanes_stoppedLoop
  have begun (n : Nat) : s.stoppedLoop.point? (.attempt n) ≠ some .attemptStart := by
    intro ready
    rcases wanes.points _ _ rfl ready with before | ⟨absurdity, -⟩
    · have latest := (inv.eager_of_ready before).2.1
      exact nomatch (s.cancelled_stoppedLoop latest ready).1
    · cases absurdity
  rw [stopAttempts_eq]
  exact { orderly.wanes inv wanes begun with closing := fun _ _ => rfl }

namespace Tended

theorem startShutdown (tended : Tended count s) (inv : Inv cfg alone vouch none s)
    (env : Surroundings) (live : s.loop.isLive (.shutdown n) = true) :
    Tended count (s.startShutdown cfg env n) := by
  have stopped : s.stopAttempts.stopped = true := by rw [stopAttempts_eq]
  have quiet : s.stopAttempts.retryTimer = none := by rw [stopAttempts_eq]
  have numbered : n < s.stopAttempts.shutdowns := by
    rw [stopAttempts_eq]
    exact tended.numbered n live
  obtain ⟨loop, keeps, ⟨-, finished⟩ | ⟨session, -, waits⟩⟩ := s.startShutdown_cases cfg env n
  all_goals have orderly := (tended.toOrderly.stopAttempts inv).keeps keeps
  · rw [finished]
    exact orderly.finishedShutdown (inv.stopAttempts.fade keeps.wanes) stopped quiet env n
  · rw [waits]
    have closing : Orderly count ({ s.stopAttempts with loop }.await (.shutdown n) session
        .disconnect .shutdownClosing) := by
      refine orderly.moves (moves_await _ _ _ _ _) nofun ?_
      rintro _ ⟨⟩
      exact ⟨fun _ => numbered, fun _ => stopped⟩
    exact closing.tended_of_stopped stopped quiet (.inr (.inl ⟨n, point?_await ..⟩))

theorem resumeShutdown (tended : Tended count s) (inv : Inv cfg alone vouch none s)
    (env : Surroundings) (here : s.loop.point? (.shutdown n) = some .shutdownClosing)
    (ending : Ending) : Tended count (s.resumeShutdown cfg env n ending) := by
  have stopped : s.stopped = true := tended.closing n here
  have quiet : s.retryTimer = none := tended.quiet (.inl stopped)
  obtain ⟨loop, keeps, ⟨-, finished⟩ | ⟨-, how, incomplete, aborted⟩⟩ :=
    s.resumeShutdown_cases cfg env n ending
  · rw [finished]
    exact (tended.toOrderly.keeps keeps).finishedShutdown (inv.fade keeps.wanes) stopped quiet
      env n
  · rw [aborted]
    have ended : Link.Effect.ended (.shutdown n) how ∈ (s.finish (.shutdown n) how).loop.tape :=
      List.mem_append_right _ (List.mem_singleton_self _)
    exact (tended.toOrderly.finish _ how).tended_of_stopped stopped quiet
      (.inr (.inr ⟨n, how, ended, incomplete⟩))

/-- The timer of the next attempt goes off: the attempt is created. -/
theorem beginAttempt (tended : Tended count s) (inv : Inv cfg alone vouch none s) {r : Nat}
    (live : .retry r ∈ s.loop.timers) :
    Tended count (s.onLink (·.onLoop (·.expire (.retry r)))).beginAttempt := by
  have known := inv.retry r live
  have goesOn : s.stopped = false := by
    rw [← Bool.not_eq_true]
    exact fun stopped => by simp [tended.quiet (.inl stopped)] at known
  have disconnected : s.machine.state = .disconnected := by
    by_contra up
    simp [tended.quiet (.inr up)] at known
  rw [expire_beginAttempt_eq, if_neg (s.not_barred_iff.mpr ⟨goesOn, disconnected⟩)]
  have moves := (Loop.Moves.expire s.loop (.attempt s.attempts) (.retry r)).trans
    (.spawn _ (.attempt s.attempts) .attemptStart)
  have here : ((s.loop.expire (.retry r)).spawn (.attempt s.attempts) .attemptStart).point?
      (.attempt s.attempts) = some .attemptStart := by simp
  have kept (n : Nat) : ((s.loop.expire (.retry r)).spawn (.attempt s.attempts)
      .attemptStart).point? (.shutdown n) = s.loop.point? (.shutdown n) :=
    moves.points (.shutdown n) rfl (by simp)
  exact {
    unhurt := by
      intro n ready cancelled
      have before := (moves.cancelled (.attempt n) rfl).mp cancelled
      have earlier := tended.past n before
      rw [Ready, moves.points _ rfl (by simp [Nat.ne_of_lt earlier])] at ready
      exact tended.unhurt n ready before
    past := by
      intro n cancelled
      have before := (moves.cancelled (.attempt n) rfl).mp cancelled
      exact Nat.lt_succ_of_lt (tended.past n before)
    numbered := by
      intro n there
      rw [Loop.isLive, kept] at there
      exact tended.numbered n there
    closing := fun n closing => tended.closing n ((kept n).symm.trans closing)
    counted := tended.counted
    quiet := fun _ => rfl
    pending := by simp
    due := fun _ _ _ => ⟨s.attempts, here⟩
    driven := by simp [disconnected]
    halted := by simp [goesOn] }

/-- The first step of an attempt: it is given up, or opens one more session and connects. -/
theorem startAttempt (tended : Tended count s) (inv : Inv cfg alone vouch none s)
    (steady : cfg.Steady) (env : Surroundings) (ready : s.Ready n) :
    s.stopped = false ∧ ∃ later, Tended later (s.startAttempt cfg env n) := by
  obtain ⟨disconnected, -, goesOn, quiet⟩ := inv.eager_of_ready ready
  refine ⟨goesOn, ?_⟩
  obtain ⟨loop, keeps, ⟨-, given⟩ | ⟨-, waits⟩⟩ := startAttempt_cases disconnected cfg env n
  · rw [given]
    have began : Orderly count { s with machine := s.machine.enter .connecting none, loop } :=
      { tended.toOrderly.keeps keeps with }
    exact ⟨count, began.failed steady (fun _ => quiet) n none⟩
  · rw [waits]
    let opened : Supervisor δ := { s with
      machine := s.machine.enter .connecting none
      sessions := s.sessions ++ [⟨s.machine.generation + 1, false⟩]
      session := some s.sessions.length
      loop }
    have orderly : Orderly (count + 1) opened := { tended.toOrderly.keeps keeps with
      counted := by simp [opened, tended.counted] }
    have moves := opened.moves_await (.attempt n) s.sessions.length .connect
      (.connecting (s.machine.generation + 1) s.sessions.length)
    have connects : (opened.await (.attempt n) s.sessions.length .connect
        (.connecting (s.machine.generation + 1) s.sessions.length)).Connects n .connect :=
      ⟨s.sessions.length, point?_await ..⟩
    have whole : ¬(opened.await (.attempt n) s.sessions.length .connect
        (.connecting (s.machine.generation + 1) s.sessions.length)).loop.Cancelled
          (.attempt n) := by
      rw [moves.cancelled _ rfl, keeps.cancelled _ rfl]
      exact tended.unhurt n ready
    have waiting := orderly.movesAttempt moves (point?_await_ne_attemptStart _ _ _ _ nofun)
    exact ⟨count + 1, waiting.tended_of_connecting goesOn rfl quiet connects whole⟩

/-- Connecting or pairing failed. -/
theorem connectFailed (tended : Tended count s) (steady : cfg.Steady) (n session : Nat)
    (f : Failure) : Tended count (s.connectFailed cfg n session f) := by
  obtain ⟨loop, keeps, given⟩ := s.connectFailed_eq cfg n session f
  rw [given]
  exact (tended.toOrderly.keeps keeps).failed steady
    (fun stopped => tended.quiet (.inl stopped)) n (some session)

/-- Dropping the session of a superseded attempt ends the attempt only. -/
theorem finishDiscard (tended : Tended count s) (aside : s.Aside (.attempt n)) (session : Nat) :
    Tended count (s.finishDiscard n session) := by
  have forgot : Tended count ((s.onLink (·.release session)).forget session) := by
    rw [release_forget_eq]
    exact { tended with counted := (List.length_modify ..).trans tended.counted }
  rw [Supervisor.finishDiscard]
  rw [release_forget_eq] at forgot ⊢
  exact forgot.finish ⟨aside.begun, aside.idle, aside.unawaited⟩ .done

/-- A superseded attempt closes its session. -/
theorem discard (tended : Tended count s) (aside : s.Aside (.attempt n)) (env : Surroundings)
    (session : Nat) : Tended count (s.discard cfg env n session) := by
  obtain ⟨loop, keeps, waits | dropped⟩ := s.discard_cases cfg env n session
  · rw [waits]
    have moves := moves_await { s with loop } (.attempt n) session .disconnect
      (.discarding session)
    have orderly := (tended.toOrderly.keeps keeps).movesAttempt moves
      (point?_await_ne_attemptStart _ _ _ _ nofun)
    exact (tended.keeps keeps).movesAside (aside.keeps keeps) moves (fun _ live => live) orderly
  · rw [dropped]
    exact (tended.keeps keeps).finishDiscard (aside.keeps keeps) session

theorem resumeDiscarding (tended : Tended count s) (aside : s.Aside (.attempt n)) (session : Nat)
    (ending : Ending) : Tended count (s.resumeDiscarding cfg n session ending) := by
  obtain ⟨loop, keeps, dropped | ⟨how, ended⟩⟩ := s.resumeDiscarding_cases cfg n session ending
  · rw [dropped]
    exact (tended.keeps keeps).finishDiscard (aside.keeps keeps) session
  · rw [ended]
    exact tended.finish aside how

end Tended

/-- An attempt waits for the connection of a generation. -/
def Places (s : Supervisor δ) (n generation session : Nat) : Prop :=
  s.loop.point? (.attempt n) = some (.connecting generation session) ∨
    s.loop.point? (.attempt n) = some (.pairing generation session)

namespace Places

theorem keeps {loop : Loop δ} {news : List Link.Notice} (places : s.Places n generation session)
    (keeps : s.loop.Keeps news loop) :
    ({ s with loop } : Supervisor δ).Places n generation session :=
  places.imp (keeps.points _ rfl).trans (keeps.points _ rfl).trans

theorem begun (places : s.Places n generation session) : ¬s.Ready n := by
  intro ready
  rcases places with here | here
  · exact nomatch here.symm.trans ready
  · exact nomatch here.symm.trans ready

theorem fits (places : s.Places n generation session) (inv : Inv cfg alone vouch none s) :
    s.Fits n (s.Eager n) (.connecting generation session) := by
  rcases places with here | here
  · have fits := inv.attempts n _ nofun here
    exact fits
  · have fits := inv.attempts n _ nofun here
    exact fits

/-- An attempt drives the connection only in its own generation. -/
theorem current (places : s.Places n generation session) {call : Gatt.Call}
    (connects : s.Connects n call) : generation = s.machine.generation := by
  cases call with
  | connect | pair =>
    obtain ⟨x, there⟩ := connects
    rcases places with here | here <;> simp_all
  | read | subscribe | disconnect => cases connects

theorem aside_of_stale (places : s.Places n generation session)
    (stale : generation ≠ s.machine.generation) : s.Aside (.attempt n) :=
  .attempt places.begun fun _ connects => absurd (places.current connects) stale

theorem aside_of_cancelled (places : s.Places n generation session)
    (cancelled : s.loop.Cancelled (.attempt n)) : s.Aside (.attempt n) :=
  .attempt places.begun fun _ _ => cancelled

end Places

/-- Discovery takes over from the attempt that connects. -/
theorem Orderly.startDiscovery (orderly : Orderly count s) (upheld : s.Upheld) :
    Tended count (s.startDiscovery cfg n generation session) := by
  have asks {s : Supervisor δ} (orderly : Orderly count s) (upheld : s.Upheld) :
      Tended count (s.onLink (·.onLoop fun loop =>
        (loop.suspend (.attempt n) (.discovering generation session)).emit
          (.requestTree (.attempt n) session))) := by
    have moves := (Loop.Moves.suspend s.loop (.attempt n)
      (.discovering generation session)).trans
      (.ofKeeps (.silent _ (.requestTree (.attempt n) session) rfl (by simp)) _)
    exact (orderly.movesAttempt moves (by simp)).tended_of_upheld (upheld.moves moves (by simp))
  rw [Supervisor.startDiscovery]
  split
  · rename_i limit _
    have moves (task : TaskId) :=
      Loop.Moves.schedule s.loop task (.discovery n generation) (.delay limit)
    have limited : Orderly count { s with
        loop := s.loop.schedule (.discovery n generation) (.delay limit)
        discoveryTimer := some (.discovery n generation) } := { orderly.retimes moves with }
    exact asks limited ⟨upheld.up, upheld.quiet, fun stopped =>
      (upheld.halting stopped).moves (moves (.attempt n)) (by simp)⟩
  · exact asks orderly upheld

namespace Tended

/-- The link of an attempt is up: if the attempt is current, the connection is upheld. -/
theorem linkUp (tended : Tended count s) (inv : Inv cfg alone vouch none s) (steady : cfg.Steady)
    (places : s.Places n generation session) (env : Surroundings) :
    Tended count (s.linkUp cfg env n generation session) := by
  by_cases current : generation = s.machine.generation
  · obtain ⟨-, connecting, -⟩ := (places.fits inv).of_current_connecting current
    have connected : s.machine.state ≠ .disconnected := by simp [connecting]
    have quiet : s.retryTimer = none := tended.quiet (.inr connected)
    subst current
    obtain ⟨loop, keeps, ⟨-, up⟩ | ⟨-, given⟩⟩ := linkUp_cases connecting cfg env n session
    · rw [up]
      have entered : Orderly count
          { s with machine := s.machine.enter .discovering (some session), loop } :=
        { tended.toOrderly.keeps keeps with }
      apply entered.startDiscovery
      refine ⟨.inl rfl, quiet, fun stopped => ?_⟩
      exact ((tended.halted stopped).resolve_left connected).keeps keeps
    · rw [given]
      exact (tended.toOrderly.keeps keeps).failed steady (fun _ => quiet) n (some session)
  · rw [linkUp_of_stale current]
    exact tended.discard (places.aside_of_stale current) env session

/-- The transport is connected: the attempt goes on to pair, or the link is up. -/
theorem transportUp (tended : Tended count s) (inv : Inv cfg alone vouch none s)
    (steady : cfg.Steady) (places : s.Places n generation session) (env : Surroundings) :
    Tended count (s.transportUp cfg env n generation session) := by
  obtain ⟨loop, keeps, up | waits⟩ := s.transportUp_cases cfg env n generation session
  · rw [up]
    exact tended.linkUp inv steady places env
  · rw [waits]
    have moves := moves_await { s with loop } (.attempt n) session .pair
      (.pairing generation session)
    have orderly := (tended.toOrderly.keeps keeps).movesAttempt moves
      (point?_await_ne_attemptStart _ _ _ _ nofun)
    refine (tended.keeps keeps).moves moves (fun _ live => live) orderly ?_ ?_ nofun
    · rintro _ ⟨⟩
      exact (places.keeps keeps).begun
    · rintro _ call ⟨⟩ connects -
      obtain rfl : generation = s.machine.generation := (places.keeps keeps).current connects
      exact ⟨.pair, session, point?_await ..⟩

theorem resumeConnecting (tended : Tended count s) (inv : Inv cfg alone vouch none s)
    (steady : cfg.Steady) (places : s.Places n generation session) {ending : Ending}
    (faithful : ending = .cancelled → s.loop.Cancelled (.attempt n)) (env : Surroundings) :
    Tended count (s.resumeConnecting cfg env n generation session ending) := by
  rw [Supervisor.resumeConnecting]
  split
  · exact tended.finish (places.aside_of_cancelled (faithful (Ending.result?_eq_none_iff.mp ‹_›))) _
  · exact tended.transportUp inv steady places env
  · exact tended.connectFailed steady n session _

theorem resumePairing (tended : Tended count s) (inv : Inv cfg alone vouch none s)
    (steady : cfg.Steady) (places : s.Places n generation session) {ending : Ending}
    (faithful : ending = .cancelled → s.loop.Cancelled (.attempt n)) (env : Surroundings) :
    Tended count (s.resumePairing cfg env n generation session ending) := by
  rw [Supervisor.resumePairing]
  split
  · exact tended.finish (places.aside_of_cancelled (faithful (Ending.result?_eq_none_iff.mp ‹_›))) _
  · exact tended.linkUp inv steady places env
  · exact tended.connectFailed steady n session _

/-- Setting the ingestion up leaves the connection up, ready or not. -/
theorem setUp (tended : Tended count s) (discovering : s.machine.state = .discovering)
    (cfg : Settings δ) (env : Surroundings) (session : Nat) (tree : Gatt.Tree) :
    Orderly count (s.setUp cfg env session tree).1 ∧ (s.setUp cfg env session tree).1.Upheld := by
  have moves (task : TaskId) : s.loop.Moves task s.untimedLoop := by
    rw [untimedLoop]
    cases s.discoveryTimer with
    | none => exact .ofKeeps (.refl _) task
    | some timer => exact .unschedule _ task timer
  have untimed : Orderly count { s with loop := s.untimedLoop } := tended.toOrderly.retimes moves
  have upheld : ({ s with loop := s.untimedLoop } : Supervisor δ).Upheld :=
    (tended.upheld (.inl discovering)).moves (moves (.attempt 0)) (by simp)
  obtain ⟨loop, keeps, failed | ⟨handles, ⟨-, failed⟩ | ⟨ingestions, loop', keeps', -, ready⟩⟩⟩ :=
    setUp_cases discovering cfg env session tree
  · rw [failed]
    exact ⟨{ untimed.keeps keeps with }, { upheld.keeps keeps with }⟩
  · rw [failed]
    exact ⟨{ untimed.keeps keeps with }, { upheld.keeps keeps with }⟩
  · rw [ready]
    exact ⟨{ (untimed.keeps keeps).keeps keeps' with },
      { (upheld.keeps keeps).keeps keeps' with up := .inr rfl }⟩

/-- The end of discovery. -/
theorem resumeDiscovering (tended : Tended count s) (inv : Inv cfg alone vouch none s)
    (here : s.loop.point? (.attempt n) = some (.discovering generation session))
    (env : Surroundings) (reading : Except Failure (Option Gatt.Tree)) :
    Tended count (s.resumeDiscovering cfg env n generation session reading) := by
  have aside : s.Aside (.attempt n) := .of_point here nofun nofun (by simp)
  obtain ⟨loop, keeps, ended | ⟨current, tree, settled⟩⟩ :=
    s.resumeDiscovering_cases cfg env n generation session reading
  · rw [ended]
    exact (tended.keeps keeps).finish (aside.keeps keeps) .done
  · obtain ⟨-, discovering, -⟩ := (inv.attempts n _ nofun here).of_current_discovering current
    obtain ⟨orderly, upheld⟩ := tended.setUp discovering cfg env session tree
    rw [settled]
    exact (orderly.finish _ _).tended_of_upheld (upheld.moves (.finish _ _ _) nofun)

end Tended

/-! ## Events -/

/-- Nobody starts the supervisor while a shutdown is pending. -/
def Patient (s : Supervisor δ) (event : Event) : Prop :=
  event = .started → ∀ n, ¬s.loop.isLive (.shutdown n) = true

/-- An await ends with a cancellation only if its task was cancelled. -/
def Faithful (s : Supervisor δ) (event : Event) : Prop :=
  ∀ task, event = .resumed task .cancelled → s.loop.Cancelled task

/-- A supervisor that was stopped is started only once it is disconnected. -/
def Sound (s : Supervisor δ) (event : Event) : Prop :=
  event = .started → s.stopped = true → s.machine.state = .disconnected

namespace Tended

theorem expired (tended : Tended count s) (inv : Inv cfg alone vouch none s)
    (env : Surroundings) (timer : TimerId) :
    Tended count (s.step cfg env (.expired timer)) := by
  simp only [Supervisor.step]
  split
  · rename_i live
    cases timer with
    | retry r => exact tended.beginAttempt inv live
    | discovery n generation =>
      have gone : Tended count { s with loop := s.loop.expire (.discovery n generation) } :=
        tended.movesForced (.expire s.loop (.forcedDisconnect n) _) (by simp)
      exact gone.discoveryExpired n generation
    | tick i number =>
      exact (tended.keeps (.expire s.loop _ rfl)).works (Link.tick_works _ cfg i)
  · exact tended

/-- Only the first step of an attempt opens a session, and no attempt begins while stopped. -/
theorem handleBegin (tended : Tended count s) (inv : Inv cfg alone vouch none s)
    (steady : cfg.Steady) (env : Surroundings) {task : TaskId} {point : Point}
    (here : s.loop.point? task = some point) :
    ∃ later, (s.stopped = true → later = count) ∧
      Tended later (s.handleBegin cfg env task point) := by
  unfold Supervisor.handleBegin
  split
  · obtain ⟨goesOn, later, connects⟩ := tended.startAttempt inv steady env here
    exact ⟨later, fun stopped => absurd (goesOn.symm.trans stopped) nofun, connects⟩
  · exact ⟨count, fun _ => rfl, tended.startForced inv steady env _ _ _⟩
  · rename_i n
    have live : s.loop.isLive (.shutdown n) = true := by rw [Loop.isLive, here]; rfl
    exact ⟨count, fun _ => rfl, tended.startShutdown inv env live⟩
  · exact ⟨count, fun _ => rfl, tended.works (Link.beginSubscription_works _ cfg _ _ _ _ _)⟩
  · exact ⟨count, fun _ => rfl, tended.works (Link.beginRead_works _ cfg env _ _ _ _ _)⟩
  · exact ⟨count, fun _ => rfl, tended⟩

theorem handleResume (tended : Tended count s) (inv : Inv cfg alone vouch none s)
    (steady : cfg.Steady) (env : Surroundings) {task : TaskId} {ending : Ending} {point : Point}
    (faithful : s.Faithful (.resumed task ending)) (here : s.loop.point? task = some point) :
    Tended count (s.handleResume cfg env ending task point) := by
  have cancelled : ending = .cancelled → s.loop.Cancelled task := by
    rintro rfl
    exact faithful task rfl
  unfold Supervisor.handleResume
  split
  · exact tended.resumeConnecting inv steady (.inl here) cancelled env
  · exact tended.resumePairing inv steady (.inr here) cancelled env
  · exact tended.resumeDiscarding (.of_point here nofun nofun (by simp)) _ ending
  · exact tended.resumeForced inv steady env _ _ ending
  · exact tended.resumeShutdown inv env here ending
  · exact tended.works (Link.resumeSubscription_works _ cfg _ _ _ _ ending)
  · exact tended.works (Link.resumeRead_works _ cfg env _ _ _ _ ending)
  · exact tended.works (Link.resumeSubscription_works _ cfg _ _ _ _ .cancelled)
  · exact tended.works (Link.resumeRead_works _ cfg env _ _ _ none .cancelled)
  · exact tended.finish (.of_point here nofun nofun (by simp)) .cancelled
  · split
    · exact tended.finish (.of_point here nofun nofun (by simp)) .cancelled
    · exact tended
  · exact tended

/-- Every callback of a run in which each start finds the machine disconnected tends the retry,
and opens no session while the supervisor is stopped. -/
theorem step (tended : Tended count s) (inv : Inv cfg alone vouch none s) (steady : cfg.Steady)
    {env : Surroundings} {event : Event} (lawful : Lawful env event) (patient : s.Patient event)
    (faithful : s.Faithful event) (sound : s.Sound event) :
    ∃ later, (s.stopped = true → later = count) ∧ Tended later (s.step cfg env event) := by
  have same {s' : Supervisor δ} (tended : Tended count s') :
      ∃ later, (s.stopped = true → later = count) ∧ Tended later s' :=
    ⟨count, fun _ => rfl, tended⟩
  cases event with
  | expired timer => exact same (tended.expired inv env timer)
  | begins task =>
    cases here : s.loop.point? task with
    | none =>
      simp only [Supervisor.step, here]
      exact same tended
    | some point =>
      rw [step_begins here]
      exact tended.handleBegin inv steady env here
  | resumed task ending =>
    cases here : s.loop.point? task with
    | none =>
      simp only [Supervisor.step, here]
      exact same tended
    | some point =>
      rw [step_resumed here]
      exact same (tended.handleResume inv steady env faithful here)
  | treeRead task reading =>
    unfold Supervisor.step
    simp only
    split
    · exact same (tended.resumeDiscovering inv ‹_› env reading)
    · exact same tended
  | linkLost generation => exact same (tended.connectionLost inv steady env generation).report
  | notified i handle payload =>
    exact same (tended.works
      (Link.notified_works s.toLink cfg i handle payload lawful.calm)).report
  | started => exact same (tended.start (patient rfl) (sound rfl))
  | shutdownAsked => exact same tended.requestShutdown
  | transitionAsked target => exact absurd rfl (lawful.unasked target)

/-- Before the supervisor was started, nothing needs tending. -/
theorem fresh : Tended 0 (.fresh : Supervisor δ) where
  unhurt _ ready := nomatch ready
  past _ cancelled := nomatch cancelled
  numbered _ live := nomatch live
  closing _ closing := nomatch closing
  counted := rfl
  quiet _ := rfl
  pending _ known := nomatch known
  due goesOn := nomatch goesOn
  driven goesOn := nomatch goesOn
  halted _ := .inl rfl

end Tended

end Supervisor

end SensorLink
