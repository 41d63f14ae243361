/-
# Tending the retry

A supervisor that is not stopped either has a connection, or works on one, or
waits for the timer of the next attempt.  `Tended` says who sees to that: while
disconnected the retry timer or an attempt that has not begun, while connecting
an attempt of the current generation that nobody cancelled.  `Orderly` is the
part of it that concerns tasks and cancellations only, and outlives the
connection.
-/

import SensorLink.Proofs.Supervisor.Preservation

namespace SensorLink

open Link (Effect Loop Point Settings Surroundings TaskId Works)
open Sensor (Kind)

/-- The policy allows a delay for any number of failures, and connecting is limited in time. -/
structure Link.Settings.Steady {δ : Type} (cfg : Settings δ) : Prop where
  delays : ∀ failures, ∃ delay, cfg.retryDelay failures = .ok delay
  limited : cfg.limits.connection.isSome = true

namespace Supervisor

variable {δ : Type}

/-- The timer of the next attempt is live. -/
def Due (s : Supervisor δ) (r : Nat) : Prop :=
  .retry r ∈ s.loop.timers

/-- An attempt was created and has not taken its first step. -/
def Ready (s : Supervisor δ) (n : Nat) : Prop :=
  s.loop.point? (.attempt n) = some .attemptStart

/-- An attempt of the current generation waits for a call to end. -/
def Connects (s : Supervisor δ) (n : Nat) : Gatt.Call → Prop
  | .connect => ∃ x, s.loop.point? (.attempt n) = some (.connecting s.machine.generation x)
  | .pair => ∃ x, s.loop.point? (.attempt n) = some (.pairing s.machine.generation x)
  | _ => False

/-- A shutdown waits for the session to close, or did not come to its end. -/
def Halting (l : Loop δ) : Prop :=
  (∃ n, l.point? (.shutdown n) = some .shutdownClosing) ∨
    ∃ n how, Effect.ended (.shutdown n) how ∈ l.tape ∧ how ≠ .done

/-- What holds of tasks and cancellations at any time, with `count` sessions opened so far. -/
structure Orderly (count : Nat) (s : Supervisor δ) : Prop where
  unhurt : ∀ n, s.Ready n → ¬s.loop.Cancelled (.attempt n)
  past : ∀ n, s.loop.Cancelled (.attempt n) → n < s.attempts
  numbered : ∀ n, s.loop.isLive (.shutdown n) = true → n < s.shutdowns
  closing : ∀ n, s.loop.point? (.shutdown n) = some .shutdownClosing → s.stopped = true
  counted : s.sessions.length = count

/-- What holds between two callbacks as long as every start finds the machine disconnected. -/
structure Tended (count : Nat) (s : Supervisor δ) : Prop extends Orderly count s where
  /-- No retry is due unless the supervisor goes on and is disconnected. -/
  quiet : s.stopped = true ∨ s.machine.state ≠ .disconnected → s.retryTimer = none
  pending : ∀ timer, s.retryTimer = some timer → ∃ r, timer = .retry r ∧ s.Due r
  /-- Without a retry there is an attempt that has not begun. -/
  due : s.stopped = false → s.machine.state = .disconnected → s.retryTimer = none →
    ∃ n, s.Ready n
  driven : s.stopped = false → s.machine.state = .connecting →
    ∃ n call, s.Connects n call ∧ ¬s.loop.Cancelled (.attempt n)
  halted : s.stopped = true → s.machine.state = .disconnected ∨ Halting s.loop

/-- The supervisor is disconnected, and waits for a retry unless it is stopped. -/
structure Resting (s : Supervisor δ) : Prop where
  disconnected : s.machine.state = .disconnected
  quiet : s.stopped = true → s.retryTimer = none
  due : s.stopped = false → ∃ r, s.retryTimer = some (.retry r) ∧ s.Due r

/-- The connection is up, and no retry is due. -/
structure Upheld (s : Supervisor δ) : Prop where
  up : s.machine.state = .discovering ∨ s.machine.state = .ready
  quiet : s.retryTimer = none
  halting : s.stopped = true → Halting s.loop

variable {cfg : Settings δ} {alone : Prop} {vouch : Nat → Nat → Kind → Float → Prop}
  {count : Nat} {s s' : Supervisor δ} {n : Nat} {task : TaskId} {loop : Loop δ}

/-- An attempt that has not begun is in charge. -/
theorem Inv.eager_of_ready (inv : Inv cfg alone vouch none s) (ready : s.Ready n) :
    s.machine.state = .disconnected ∧ s.Eager n := by
  rcases inv.attempts n _ nofun ready with ⟨-, leads⟩ | ⟨-, absurdity⟩
  · exact leads
  · cases absurdity

theorem Halting.moves (halting : Halting s.loop) (moves : s.loop.Moves task loop)
    (other : ∀ n, task = .shutdown n → s.loop.point? task ≠ some .shutdownClosing) :
    Halting loop := by
  rcases halting with ⟨n, closing⟩ | ⟨n, how, ended, aborted⟩
  · refine .inl ⟨n, (moves.points _ rfl ?_).trans closing⟩
    rintro rfl
    exact other n rfl closing
  · exact .inr ⟨n, how, moves.tape ended, aborted⟩

theorem Halting.keeps {news : List Link.Notice} (halting : Halting s.loop)
    (keeps : s.loop.Keeps news loop) : Halting loop :=
  halting.moves (.ofKeeps keeps (.forcedDisconnect 0)) nofun

namespace Upheld

theorem connected (upheld : s.Upheld) :
    s.machine.state ≠ .disconnected ∧ s.machine.state ≠ .connecting := by
  rcases upheld.up with up | up <;> simp [up]

/-- One task goes on or ends, unless it is a shutdown that waits. -/
theorem moves (upheld : s.Upheld) (moves : s.loop.Moves task loop)
    (other : ∀ n, task = .shutdown n → s.loop.point? task ≠ some .shutdownClosing) :
    ({ s with loop } : Supervisor δ).Upheld :=
  ⟨upheld.up, upheld.quiet, fun stopped => (upheld.halting stopped).moves moves other⟩

theorem keeps {news : List Link.Notice} (upheld : s.Upheld) (keeps : s.loop.Keeps news loop) :
    ({ s with loop } : Supervisor δ).Upheld :=
  upheld.moves (.ofKeeps keeps (.forcedDisconnect 0)) nofun

end Upheld

namespace Orderly

/-- One task goes on or ends. -/
theorem moves (orderly : Orderly count s) (moves : s.loop.Moves task loop)
    (begun : ∀ n, task = .attempt n → loop.point? task ≠ some .attemptStart)
    (shut : ∀ n, task = .shutdown n → (loop.isLive task = true → n < s.shutdowns) ∧
      (loop.point? task = some .shutdownClosing → s.stopped = true)) :
    Orderly count { s with loop } where
  unhurt n ready := by
    by_cases same : .attempt n = task
    · exact absurd (same ▸ ready) (begun n same.symm)
    · rw [Ready, moves.points _ rfl same] at ready
      exact (moves.cancelled _ rfl).not.mpr (orderly.unhurt n ready)
  past n cancelled := orderly.past n ((moves.cancelled _ rfl).mp cancelled)
  numbered n live := by
    by_cases same : .shutdown n = task
    · exact (shut n same.symm).1 (same ▸ live)
    · rw [Loop.isLive, moves.points _ rfl same] at live
      exact orderly.numbered n live
  closing n closing := by
    by_cases same : .shutdown n = task
    · exact (shut n same.symm).2 (same ▸ closing)
    · rw [moves.points _ rfl same] at closing
      exact orderly.closing n closing
  counted := orderly.counted

/-- An attempt goes on or ends. -/
theorem movesAttempt (orderly : Orderly count s) (moves : s.loop.Moves (.attempt n) loop)
    (begun : loop.point? (.attempt n) ≠ some .attemptStart) : Orderly count { s with loop } :=
  orderly.moves moves (fun _ _ => begun) nofun

/-- A task ends. -/
theorem finish (orderly : Orderly count s) (task : TaskId) (how : Link.Finish) :
    Orderly count (s.finish task how) :=
  orderly.moves (.finish s.loop task how) (by simp) (by simp [Loop.isLive])

/-- No task goes on or ends, whatever happens to the timers. -/
theorem retimes (orderly : Orderly count s) (moves : ∀ task, s.loop.Moves task loop) :
    Orderly count { s with loop } :=
  orderly.moves (moves (.forcedDisconnect 0)) nofun nofun

/-- Where the same things steer, order is kept. -/
theorem keeps {news : List Link.Notice} (orderly : Orderly count s)
    (keeps : s.loop.Keeps news loop) : Orderly count { s with loop } :=
  orderly.retimes (.ofKeeps keeps)

/-- Tasks end or are cancelled while no attempt waits for its first step. -/
theorem wanes {news : List Link.Notice} (orderly : Orderly count s)
    (inv : Inv cfg alone vouch none s) (wanes : s.loop.Wanes news loop)
    (idle : ∀ n, loop.point? (.attempt n) ≠ some .attemptStart) :
    Orderly count { s with loop } where
  unhurt n ready := absurd ready (idle n)
  past n cancelled := by
    rcases wanes.cancelled _ rfl cancelled with before | live
    · exact orderly.past n before
    · obtain ⟨point, here⟩ := Option.isSome_iff_exists.mp live
      rcases inv.attempts n point nofun here with ⟨latest, -⟩ | ⟨later, -⟩
      · exact Nat.lt_of_succ_le (Nat.le_of_eq latest)
      · exact Nat.lt_of_succ_lt later
  numbered n live := orderly.numbered n (wanes.live rfl live)
  closing n closing := by
    rcases wanes.points _ _ rfl closing with before | ⟨absurdity, -⟩
    · exact orderly.closing n before
    · cases absurdity
  counted := orderly.counted

/-- A connection is torn down while no attempt waits for its first step. -/
theorem torn {news : List Link.Notice} (orderly : Orderly count s)
    (inv : Inv cfg alone vouch none s) (wanes : s.loop.Wanes news loop)
    (idle : s.stopped = true ∨ s.machine.state ≠ .disconnected) :
    Orderly count { s.torn with loop } := by
  have begun (n : Nat) : loop.point? (.attempt n) ≠ some .attemptStart := by
    intro ready
    rcases wanes.points _ _ rfl ready with before | ⟨absurdity, -⟩
    · obtain ⟨disconnected, -, goesOn, -⟩ := inv.eager_of_ready before
      rcases idle with stopped | up
      · exact nomatch goesOn.symm.trans stopped
      · exact up disconnected
    · cases absurdity
  exact { orderly.wanes inv wanes begun with
    counted := (Inv.length_sessions_torn s).trans orderly.counted }

/-- A session gives its client up and is forgotten. -/
theorem forgets (orderly : Orderly count s) (x : Nat) :
    Orderly count ((s.onLink (·.release x)).forget x) := by
  rw [release_forget_eq]
  exact { orderly with counted := (List.length_modify ..).trans orderly.counted }

/-- A stopped supervisor waits for nothing. -/
theorem tended_of_stopped (orderly : Orderly count s) (stopped : s.stopped = true)
    (none : s.retryTimer = none) (halted : s.machine.state = .disconnected ∨ Halting s.loop) :
    Tended count s where
  toOrderly := orderly
  quiet _ := none
  pending _ some := nomatch none.symm.trans some
  due goesOn := nomatch stopped.symm.trans goesOn
  driven goesOn := nomatch stopped.symm.trans goesOn
  halted _ := halted

/-- While a connection is up, nothing depends on a task. -/
theorem tended_of_upheld (orderly : Orderly count s) (upheld : s.Upheld) : Tended count s where
  toOrderly := orderly
  quiet _ := upheld.quiet
  pending _ some := nomatch upheld.quiet.symm.trans some
  due _ disconnected := absurd disconnected upheld.connected.1
  driven _ connecting := absurd connecting upheld.connected.2
  halted stopped := .inr (upheld.halting stopped)

/-- While connecting, an attempt that nobody cancelled is enough. -/
theorem tended_of_connecting (orderly : Orderly count s) (goesOn : s.stopped = false)
    (connecting : s.machine.state = .connecting) (none : s.retryTimer = none) {call : Gatt.Call}
    (connects : s.Connects n call) (whole : ¬s.loop.Cancelled (.attempt n)) : Tended count s where
  toOrderly := orderly
  quiet _ := none
  pending _ some := nomatch none.symm.trans some
  due _ disconnected := nomatch connecting.symm.trans disconnected
  driven _ _ := ⟨n, call, connects, whole⟩
  halted stopped := nomatch goesOn.symm.trans stopped

/-- While resting, nothing depends on a task. -/
theorem tended_of_resting (orderly : Orderly count s) (resting : s.Resting) :
    Tended count s where
  toOrderly := orderly
  quiet := by
    rintro (stopped | up)
    · exact resting.quiet stopped
    · exact absurd resting.disconnected up
  pending timer known := by
    cases stopped : s.stopped with
    | true => exact nomatch (resting.quiet stopped).symm.trans known
    | false =>
      obtain ⟨r, same, due⟩ := resting.due stopped
      exact ⟨r, Option.some.inj (known.symm.trans same), due⟩
  due goesOn _ none := by
    obtain ⟨r, some, -⟩ := resting.due goesOn
    exact nomatch none.symm.trans some
  driven _ connecting := nomatch resting.disconnected.symm.trans connecting
  halted _ := .inl resting.disconnected

/-- Setting the timer of the next attempt brings a disconnected supervisor to rest. -/
theorem scheduleConnect (orderly : Orderly count s) (disconnected : s.machine.state = .disconnected)
    (quiet : s.stopped = true → s.retryTimer = none) (delay : δ) :
    Orderly count (s.scheduleConnect delay) ∧ (s.scheduleConnect delay).Resting := by
  cases stopped : s.stopped with
  | true =>
    rw [scheduleConnect_of_stopped stopped]
    exact ⟨orderly, disconnected, quiet, fun goesOn => nomatch stopped.symm.trans goesOn⟩
  | false =>
    rw [scheduleConnect_eq stopped]
    constructor
    · exact { orderly.retimes fun task => .replace s.loop task s.retryTimer _ _ with }
    · refine ⟨disconnected, fun halted => absurd (stopped.symm.trans halted) nofun, fun _ => ?_⟩
      have due : .retry s.retries ∈
          (s.loop.replace s.retryTimer (.retry s.retries) (.delay delay)).timers :=
        (Loop.mem_timers_replace _ _ _ _ _).mpr (.inl rfl)
      exact ⟨s.retries, rfl, due⟩

theorem scheduleRetry (orderly : Orderly count s) (steady : cfg.Steady)
    (disconnected : s.machine.state = .disconnected)
    (quiet : s.stopped = true → s.retryTimer = none) :
    Orderly count (s.scheduleRetry cfg).1 ∧ (s.scheduleRetry cfg).1.Resting := by
  obtain ⟨delay, allowed⟩ := steady.delays s.failures
  obtain ⟨loop, keeps, said⟩ := Journals.say { s with failures := s.failures + 1 } cfg .info
    ("Reconnecting to " ++ cfg.address ++ " in " ++ cfg.showDelay delay ++ "s")
  rw [Supervisor.scheduleRetry]
  simp only [allowed, said]
  have counted : Orderly count { s with failures := s.failures + 1, loop } :=
    { orderly.keeps keeps with }
  exact counted.scheduleConnect disconnected quiet delay

/-- An attempt that is given up leaves the supervisor at rest. -/
theorem failAttempt (orderly : Orderly count s) (steady : cfg.Steady)
    (quiet : s.stopped = true → s.retryTimer = none) (session : Option Nat) :
    Orderly count (s.failAttempt cfg session).1 ∧ (s.failAttempt cfg session).1.Resting := by
  have dropped {s : Supervisor δ} (orderly : Orderly count s)
      (quiet : s.stopped = true → s.retryTimer = none) :
      Orderly count ((s.dropState cfg).scheduleRetry cfg).1 ∧
        ((s.dropState cfg).scheduleRetry cfg).1.Resting := by
    obtain ⟨loop, keeps, left⟩ := s.dropState_eq cfg
    have kept : Orderly count (s.dropState cfg) := by
      rw [left]
      exact { orderly.keeps keeps with }
    apply kept.scheduleRetry steady
    · rw [left]
      exact s.machine.dropped_state
    · rw [left]
      exact quiet
  unfold Supervisor.failAttempt
  cases session with
  | none => exact dropped orderly quiet
  | some x =>
    apply dropped (orderly.forgets x)
    rw [release_forget_eq]
    exact quiet

end Orderly

/-- A task that ends does not disturb the rest. -/
theorem Resting.finish (resting : s.Resting) (task : TaskId) (how : Link.Finish) :
    (s.finish task how).Resting :=
  ⟨resting.disconnected, resting.quiet, resting.due⟩

/-- An attempt that is given up and ends leaves the retry tended. -/
theorem Orderly.failed (orderly : Orderly count s) (steady : cfg.Steady)
    (quiet : s.stopped = true → s.retryTimer = none) (n : Nat) (session : Option Nat) :
    Tended count (finishWith (.attempt n) (s.failAttempt cfg session)) := by
  obtain ⟨given, resting⟩ := orderly.failAttempt steady quiet session
  exact (given.finish _ _).tended_of_resting (resting.finish _ _)

/-- Neither the retry nor a shutdown depends on a task: it is no attempt that has not begun, it
drives the connection only if it was cancelled, and it is no shutdown that waits. -/
structure Aside (s : Supervisor δ) (task : TaskId) : Prop where
  begun : ∀ n, task = .attempt n → ¬s.Ready n
  idle : ∀ n call, task = .attempt n → s.Connects n call → s.loop.Cancelled task
  unawaited : ∀ n, task = .shutdown n → s.loop.point? task ≠ some .shutdownClosing

theorem Connects.moves {call : Gatt.Call} (connects : s.Connects n call)
    (same : loop.point? (.attempt n) = s.loop.point? (.attempt n)) :
    ({ s with loop } : Supervisor δ).Connects n call := by
  cases call with
  | connect | pair =>
    obtain ⟨x, here⟩ := connects
    exact ⟨x, same.trans here⟩
  | read | subscribe | disconnect => cases connects

namespace Aside

theorem forced (s : Supervisor δ) (n : Nat) : s.Aside (.forcedDisconnect n) :=
  ⟨nofun, nofun, nofun⟩

theorem attempt (begun : ¬s.Ready n)
    (idle : ∀ call, s.Connects n call → s.loop.Cancelled (.attempt n)) : s.Aside (.attempt n) where
  begun := by
    rintro _ ⟨⟩
    exact begun
  idle := by
    rintro _ call ⟨⟩
    exact idle call
  unawaited := nofun

theorem keeps {news : List Link.Notice} (aside : s.Aside (.attempt n))
    (keeps : s.loop.Keeps news loop) : ({ s with loop } : Supervisor δ).Aside (.attempt n) :=
  attempt (fun ready => aside.begun n rfl ((keeps.points _ rfl).symm.trans ready))
    fun call connects => (keeps.cancelled _ rfl).mpr
      (aside.idle n call rfl (connects.moves (keeps.points _ rfl).symm))

/-- A task that waits at another point is aside. -/
theorem of_point {point : Point} (here : s.loop.point? task = some point)
    (begun : point ≠ .attemptStart) (unawaited : point ≠ .shutdownClosing)
    (idle : ∀ g x, point ≠ .connecting g x ∧ point ≠ .pairing g x) : s.Aside task where
  begun := by
    rintro n rfl ready
    exact begun (Option.some.inj (here.symm.trans ready))
  idle := by
    rintro n call rfl connects
    cases call with
    | connect =>
      obtain ⟨x, there⟩ := connects
      exact absurd (Option.some.inj (here.symm.trans there)) (idle _ x).1
    | pair =>
      obtain ⟨x, there⟩ := connects
      exact absurd (Option.some.inj (here.symm.trans there)) (idle _ x).2
    | read | subscribe | disconnect => cases connects
  unawaited _ _ closing := unawaited (Option.some.inj (here.symm.trans closing))

end Aside

namespace Tended

/-- One task goes on or ends, and whatever depends on it still holds. -/
theorem moves (tended : Tended count s) (moves : s.loop.Moves task loop)
    (retries : ∀ r, .retry r ∈ s.loop.timers → .retry r ∈ loop.timers)
    (orderly : Orderly count { s with loop })
    (begun : ∀ n, task = .attempt n → ¬s.Ready n)
    (drives : ∀ n call, task = .attempt n → s.Connects n call → ¬s.loop.Cancelled (.attempt n) →
      ∃ later, ({ s with loop } : Supervisor δ).Connects n later)
    (other : ∀ n, task = .shutdown n → s.loop.point? task ≠ some .shutdownClosing) :
    Tended count { s with loop } where
  toOrderly := orderly
  quiet := tended.quiet
  pending timer here := by
    obtain ⟨r, same, due⟩ := tended.pending timer here
    exact ⟨r, same, retries r due⟩
  due goesOn disconnected none := by
    obtain ⟨n, ready⟩ := tended.due goesOn disconnected none
    refine ⟨n, (moves.points _ rfl ?_).trans ready⟩
    rintro rfl
    exact begun n rfl ready
  driven goesOn connecting := by
    obtain ⟨n, call, connects, whole⟩ := tended.driven goesOn connecting
    have whole' : ¬loop.Cancelled (.attempt n) := (moves.cancelled _ rfl).not.mpr whole
    by_cases same : .attempt n = task
    · obtain ⟨later, connects'⟩ := drives n call same.symm connects whole
      exact ⟨n, later, connects', whole'⟩
    · exact ⟨n, call, connects.moves (moves.points _ rfl same), whole'⟩
  halted stopped := (tended.halted stopped).imp_right fun halting => halting.moves moves other

/-- A task that nothing depends on goes on or ends. -/
theorem movesAside (tended : Tended count s) (aside : s.Aside task)
    (moves : s.loop.Moves task loop)
    (retries : ∀ r, .retry r ∈ s.loop.timers → .retry r ∈ loop.timers)
    (orderly : Orderly count { s with loop }) : Tended count { s with loop } :=
  tended.moves moves retries orderly aside.begun
    (fun n call same connects whole => absurd (same ▸ aside.idle n call same connects) whole)
    aside.unawaited

theorem finish (tended : Tended count s) (aside : s.Aside task) (how : Link.Finish) :
    Tended count (s.finish task how) :=
  tended.movesAside aside (.finish _ _ _) (fun _ live => live) (tended.toOrderly.finish task how)

/-- A forced disconnect goes on. -/
theorem movesForced (tended : Tended count s) (moves : s.loop.Moves (.forcedDisconnect n) loop)
    (retries : ∀ r, .retry r ∈ s.loop.timers → .retry r ∈ loop.timers) :
    Tended count { s with loop } :=
  tended.movesAside (.forced s n) moves retries (tended.toOrderly.moves moves nofun nofun)

/-- A connection that is up is upheld. -/
theorem upheld (tended : Tended count s)
    (up : s.machine.state = .discovering ∨ s.machine.state = .ready) : s.Upheld := by
  have connected : s.machine.state ≠ .disconnected := by rcases up with up | up <;> simp [up]
  exact ⟨up, tended.quiet (.inr connected), fun stopped =>
    (tended.halted stopped).resolve_left connected⟩

/-- Where the same things steer, the retry is tended as before. -/
theorem keeps {news : List Link.Notice} (tended : Tended count s)
    (keeps : s.loop.Keeps news loop) : Tended count { s with loop } where
  toOrderly := tended.toOrderly.keeps keeps
  quiet := tended.quiet
  pending timer here := by
    obtain ⟨r, same, due⟩ := tended.pending timer here
    exact ⟨r, same, (keeps.timers _ rfl).mpr due⟩
  due goesOn disconnected none := by
    obtain ⟨n, ready⟩ := tended.due goesOn disconnected none
    exact ⟨n, (keeps.points _ rfl).trans ready⟩
  driven goesOn connecting := by
    obtain ⟨n, call, connects, whole⟩ := tended.driven goesOn connecting
    exact ⟨n, call, connects.moves (keeps.points _ rfl), (keeps.cancelled _ rfl).not.mpr whole⟩
  halted stopped := (tended.halted stopped).imp_right fun halting => halting.keeps keeps

theorem journals (tended : Tended count s) (journals : s.Journals s') : Tended count s' := by
  obtain ⟨loop, keeps, rfl⟩ := journals
  exact tended.keeps keeps

theorem works (tended : Tended count s) {i : Nat} {taken : List Link.Taken} {l : Link δ}
    (works : Works i s.toLink taken l) : Tended count { s with toLink := l } := by
  obtain ⟨machine, store, sessions, ingestions, loop⟩ := l
  obtain rfl : machine = s.machine := works.machine
  obtain rfl : sessions = s.sessions := works.sessions
  exact { tended.keeps works.loop with }

end Tended

end Supervisor

end SensorLink
