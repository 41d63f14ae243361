/-
# What watches over a discovery

A discovery is watched by its timer, and once the timer has gone off by the task
that disconnects by force.  Most callbacks leave both as they are, or end the
connection and with it the need for them: then the watch recedes.  `Recedes` is the
relation between the states before and after, which composes, so that every
operation has one lemma and a callback is the composition of what it does.
-/

import SensorLink.Proofs.Supervisor.Tidiness

namespace SensorLink

open Gatt (Ending)
open Link (Loop Point Settings Surroundings TaskId TimerId Works)
open Sensor (Kind)

namespace Link

variable {δ : Type}

/-- The generation that a forced disconnect closes. -/
def Point.target? : Point → Option Nat
  | forcedStart _ generation | forcedClosing generation => some generation
  | _ => none

namespace Loop

/-- The generation that the forced disconnect of an attempt closes, if it is live. -/
def target? (l : Loop δ) (n : Nat) : Option Nat :=
  (l.point? (.forcedDisconnect n)).bind Point.target?

/-- A forced disconnect that is created closes its generation. -/
theorem target?_spawn (l : Loop δ) (n : Nat) (point : Point) (m : Nat) :
    (l.spawn (.forcedDisconnect n) point).target? m =
      if m = n then point.target? else l.target? m := by
  rw [target?, point?_spawn]
  by_cases same : m = n
  · simp [same]
  · simp [same, target?]

/-- A forced disconnect that has ended closes nothing. -/
theorem target?_finish (l : Loop δ) (n : Nat) (how : Finish) (m : Nat) :
    (l.finish (.forcedDisconnect n) how).target? m = if m = n then none else l.target? m := by
  rw [target?, point?_finish]
  by_cases same : m = n
  · simp [same]
  · simp [same, target?]

/-- The same discovery timers are set on two loops, and the same forced disconnects are live. -/
structure Watches (l l' : Loop δ) : Prop where
  targets : ∀ n, l'.target? n = l.target? n
  timers : ∀ n g, .discovery n g ∈ l'.timers ↔ .discovery n g ∈ l.timers

namespace Watches

variable {l l' l'' : Loop δ}

theorem refl (l : Loop δ) : l.Watches l where
  targets _ := rfl
  timers _ _ := Iff.rfl

theorem trans (first : l.Watches l') (second : l'.Watches l'') : l.Watches l'' where
  targets n := (second.targets n).trans (first.targets n)
  timers n g := (second.timers n g).trans (first.timers n g)

theorem ofKeeps {news : List Notice} (keeps : l.Keeps news l') : l.Watches l' where
  targets n := congrArg (·.bind Point.target?) (keeps.points (.forcedDisconnect n) rfl)
  timers n g := keeps.timers (.discovery n g) rfl

/-- Another task than a forced disconnect goes on. -/
theorem ofMoves {task : TaskId} (moves : l.Moves task l') (other : ∀ n, task ≠ .forcedDisconnect n)
    (timers : ∀ n g, .discovery n g ∈ l'.timers ↔ .discovery n g ∈ l.timers) : l.Watches l' where
  targets n :=
    congrArg (·.bind Point.target?) (moves.points (.forcedDisconnect n) rfl (other n).symm)
  timers := timers

/-- A task ends that is no forced disconnect, or is not live as one. -/
theorem finish (l : Loop δ) {task : TaskId}
    (idle : ∀ n, task = .forcedDisconnect n → l.target? n = none) (how : Finish) :
    l.Watches (l.finish task how) where
  targets n := by
    rw [target?, point?_finish]
    split
    · rename_i same
      exact (idle n same.symm).symm
    · rfl
  timers _ _ := Iff.rfl

theorem spawn (l : Loop δ) (task : TaskId) (point : Point)
    (other : ∀ n, task ≠ .forcedDisconnect n) : l.Watches (l.spawn task point) :=
  .ofMoves (.spawn l task point) other fun _ _ => Iff.rfl

/-- The retry timer goes off. -/
theorem expireRetry (l : Loop δ) (r : Nat) : l.Watches (l.expire (.retry r)) where
  targets _ := rfl
  timers _ _ := by simp

/-- The retry timer is set. -/
theorem replaceRetry (l : Loop δ) {old : Option TimerId}
    (retry : ∀ n g, old ≠ some (.discovery n g)) (r : Nat) (wait : Wait δ) :
    l.Watches (l.replace old (.retry r) wait) where
  targets _ := by simp [target?]
  timers _ _ := by simp [retry]

/-- An attempt is cancelled. -/
theorem cancelAttempt (l : Loop δ) (n : Nat) : l.Watches (l.cancel (.attempt n)) where
  targets _ := by simp [target?, point?_cancel]
  timers _ _ := by simp

theorem unschedule (l : Loop δ) {timer : TimerId} (other : ∀ n g, timer ≠ .discovery n g) :
    l.Watches (l.unschedule timer) where
  targets _ := rfl
  timers n g := by simp [Ne.symm (other n g)]

end Watches

/-- A forced disconnect that is live where less steers was live before. -/
theorem Wanes.target? {l l' : Loop δ} {news : List Notice} (wanes : l.Wanes news l') {n g : Nat}
    (here : l'.target? n = some g) : l.target? n = some g := by
  obtain ⟨point, live, closes⟩ := Option.bind_eq_some_iff.mp here
  rcases wanes.points _ _ rfl live with before | ⟨rfl, -⟩
  · rw [Loop.target?, before]
    exact closes
  · cases closes

end Loop

end Link

namespace Supervisor

variable {δ : Type}

/-- The connection of a generation is up. -/
def Up (s : Supervisor δ) (g : Nat) : Prop :=
  g = s.machine.generation ∧ (s.machine.state = .discovering ∨ s.machine.state = .ready)

/-- The timer of the next attempt is not mistaken for one of a discovery. -/
def Apart (s : Supervisor δ) : Prop :=
  ∀ n g, s.retryTimer ≠ some (.discovery n g)

/-- The watch over a discovery is as it was, or it is not needed any more because the connection is
over.  Neither a timer nor a forced disconnect is new. -/
structure Recedes (s s' : Supervisor δ) : Prop where
  targets : ∀ n g, s'.loop.target? n = some g → s.loop.target? n = some g
  timers : ∀ n g, .discovery n g ∈ s'.loop.timers → .discovery n g ∈ s.loop.timers
  apart : s.Apart → s'.Apart
  machine : s'.machine = s.machine ∧
      (s.machine.state = .discovering → s.loop.Watches s'.loop) ∨
    s.machine.generation < s'.machine.generation ∧ s'.machine.state ≠ .discovering ∧
      ∀ n g, .discovery n g ∉ s'.loop.timers

variable {cfg : Settings δ} {alone : Prop} {watched : Nat → Prop}
  {vouch : Nat → Nat → Kind → Float → Prop} {s s' s'' : Supervisor δ}
  {n x generation session : Nat} {loop : Loop δ}

/-- While nothing is discovered, no discovery is limited. -/
theorem Tidy.unlimited (tidy : Tidy watched s) (elsewhere : s.machine.state ≠ .discovering)
    (n g : Nat) : .discovery n g ∉ s.loop.timers :=
  fun live => nomatch (tidy.untimed elsewhere).symm.trans (tidy.timed n g live)

namespace Recedes

theorem refl (s : Supervisor δ) : s.Recedes s where
  targets _ _ here := here
  timers _ _ live := live
  apart apart := apart
  machine := .inl ⟨rfl, fun _ => .refl _⟩

theorem trans (first : s.Recedes s') (second : s'.Recedes s'') : s.Recedes s'' where
  targets n g here := first.targets n g (second.targets n g here)
  timers n g live := first.timers n g (second.timers n g live)
  apart apart := second.apart (first.apart apart)
  machine := by
    rcases first.machine with ⟨same, kept⟩ | ⟨later, elsewhere, gone⟩
    · rcases second.machine with ⟨same', kept'⟩ | ⟨later', rest⟩
      · refine .inl ⟨same'.trans same, fun discovering => ?_⟩
        exact (kept discovering).trans (kept' (by rw [same, discovering]))
      · exact .inr ⟨same ▸ later', rest⟩
    · rcases second.machine with ⟨same', -⟩ | ⟨later', rest⟩
      · refine .inr ⟨by rw [same']; exact later, by rw [same']; exact elsewhere, ?_⟩
        exact fun n g live => gone n g (second.timers n g live)
      · exact .inr ⟨Nat.lt_trans later later', rest⟩

/-- The connection goes on, and its watch too. -/
theorem watches (watches : s.loop.Watches s'.loop) (machine : s'.machine = s.machine)
    (apart : s.Apart → s'.Apart) : s.Recedes s' where
  targets n _ here := (watches.targets n).symm.trans here
  timers n g := (watches.timers n g).mp
  apart
  machine := .inl ⟨machine, fun _ => watches⟩

/-- Only the loop changes, and not the watch. -/
theorem onLoop (watches : s.loop.Watches loop) : s.Recedes { s with loop } :=
  .watches watches rfl id

/-- The state is left for disconnected, and no discovery is limited any more. -/
theorem dropped (targets : ∀ n g, s'.loop.target? n = some g → s.loop.target? n = some g)
    (apart : s.Apart → s'.Apart) (machine : s'.machine = s.machine.dropped)
    (unlimited : ∀ n g, .discovery n g ∉ s'.loop.timers) : s.Recedes s' where
  targets
  timers n g live := absurd live (unlimited n g)
  apart
  machine := by
    rw [machine]
    by_cases down : s.machine.state = .disconnected
    · refine .inl ⟨if_pos down, fun discovering => ?_⟩
      exact nomatch down.symm.trans discovering
    · exact .inr ⟨Connection.Machine.generation_lt_dropped down, by simp, unlimited⟩

theorem journals (journals : s.Journals s') : s.Recedes s' := by
  obtain ⟨loop, keeps, rfl⟩ := journals
  exact onLoop (.ofKeeps keeps)

theorem finish (s : Supervisor δ) (task : TaskId) (how : Link.Finish)
    (other : ∀ n, task ≠ .forcedDisconnect n) : s.Recedes (s.finish task how) :=
  onLoop (.finish s.loop (fun n same => absurd same (other n)) how)

theorem finishAttempt (s : Supervisor δ) (n : Nat) (how : Link.Finish) :
    s.Recedes (s.finish (.attempt n) how) :=
  finish s (.attempt n) how nofun

theorem await (s : Supervisor δ) (task : TaskId) (session : Nat) (call : Gatt.Call)
    (point : Point) (other : ∀ n, task ≠ .forcedDisconnect n) :
    s.Recedes (s.await task session call point) :=
  onLoop (.ofMoves (s.moves_await task session call point) other fun _ _ => Iff.rfl)

theorem works {i : Nat} {taken : List Link.Taken} {l : Link δ} (works : Works i s.toLink taken l) :
    s.Recedes { s with toLink := l } :=
  watches (.ofKeeps works.loop) works.machine id

theorem report {outcome : Supervisor δ × Option Failure} (recedes : s.Recedes outcome.1) :
    s.Recedes (report outcome) :=
  recedes.trans (journals (Journals.report (.refl _)))

theorem teardown (tidy : Tidy watched s) (cfg : Settings δ) (env : Surroundings) :
    s.Recedes (s.teardown cfg env) := by
  obtain ⟨loop, wanes, torn⟩ := s.teardown_untimed cfg env
  rw [torn]
  refine dropped (fun _ _ => (wanes.before s.wanes_untimedLoop).target?) id rfl fun n g live => ?_
  exact s.not_mem_untimedLoop (tidy.timed n g) (wanes.timers _ rfl live)

theorem dropState (cfg : Settings δ) (unlimited : ∀ n g, .discovery n g ∉ s.loop.timers) :
    s.Recedes (s.dropState cfg) := by
  obtain ⟨loop, keeps, left⟩ := s.dropState_eq cfg
  rw [left]
  exact dropped (fun _ _ => keeps.wanes.target?) id rfl fun n g live =>
    unlimited n g ((keeps.timers _ rfl).mp live)

theorem scheduleConnect (apart : s.Apart) (delay : δ) : s.Recedes (s.scheduleConnect delay) := by
  cases stopped : s.stopped with
  | true =>
    rw [scheduleConnect_of_stopped stopped]
    exact refl s
  | false =>
    rw [scheduleConnect_eq stopped]
    exact watches (.replaceRetry s.loop apart _ _) rfl fun _ _ _ => nofun

theorem scheduleRetry (apart : s.Apart) (cfg : Settings δ) : s.Recedes (s.scheduleRetry cfg).1 := by
  rw [Supervisor.scheduleRetry]
  cases cfg.retryDelay s.failures with
  | error f => exact refl s
  | ok delay =>
    have counted : s.Recedes { s with failures := s.failures + 1 } := watches (.refl _) rfl id
    have said := counted.trans (journals (.say _ cfg .info
      ("Reconnecting to " ++ cfg.address ++ " in " ++ cfg.showDelay delay ++ "s")))
    exact said.trans (scheduleConnect (said.apart apart) delay)

/-- A connection is torn down, and the next attempt is scheduled. -/
theorem connectionLost (tidy : Tidy watched s) (apart : s.Apart) (cfg : Settings δ)
    (env : Surroundings) (generation : Int) :
    s.Recedes (s.connectionLost cfg env generation).1 := by
  obtain ⟨loop, keeps, ignored | ⟨-, -, lost⟩⟩ := s.connectionLost_cases cfg env generation
  · rw [ignored]
    exact onLoop (.ofKeeps keeps)
  · rw [lost]
    have torn := (onLoop (.ofKeeps keeps)).trans (teardown (tidy.keeps keeps) cfg env)
    exact torn.trans (scheduleRetry (torn.apart apart) cfg)

/-- A session gives its client up, and is forgotten if it is in charge. -/
theorem giveUp (s : Supervisor δ) (x : Nat) :
    s.Recedes ((s.onLink (·.release x)).forget x) := by
  rw [release_forget_eq]
  exact watches (.refl _) rfl id

theorem failAttempt (apart : s.Apart) (unlimited : ∀ n g, .discovery n g ∉ s.loop.timers)
    (cfg : Settings δ) (session : Option Nat) : s.Recedes (s.failAttempt cfg session).1 := by
  have left {t : Supervisor δ} (given : s.Recedes t) : s.Recedes (t.dropState cfg) :=
    given.trans (dropState cfg fun n g live => unlimited n g (given.timers n g live))
  cases session with
  | none =>
    have given := left (refl s)
    exact given.trans (scheduleRetry (given.apart apart) cfg)
  | some x =>
    have given := left (giveUp s x)
    exact given.trans (scheduleRetry (given.apart apart) cfg)

theorem connectFailed (tidy : Tidy watched s) (apart : s.Apart)
    (elsewhere : s.machine.state ≠ .discovering) (n x : Nat) (f : Failure) :
    s.Recedes (s.connectFailed cfg n x f) := by
  obtain ⟨loop, keeps, given⟩ := s.connectFailed_eq cfg n x f
  rw [given]
  have noted : s.Recedes { s with loop } := onLoop (.ofKeeps keeps)
  have failed := noted.trans
    (failAttempt (noted.apart apart) ((tidy.keeps keeps).unlimited elsewhere) cfg (some x))
  exact failed.trans (finishAttempt _ n _)

theorem finishDiscard (s : Supervisor δ) (n x : Nat) : s.Recedes (s.finishDiscard n x) :=
  (giveUp s x).trans (finishAttempt _ n .done)

theorem discard (s : Supervisor δ) (cfg : Settings δ) (env : Surroundings) (n x : Nat) :
    s.Recedes (s.discard cfg env n x) := by
  obtain ⟨loop, keeps, waits | dropped⟩ := s.discard_cases cfg env n x
  · rw [waits]
    exact (onLoop (.ofKeeps keeps)).trans (await _ _ x .disconnect _ nofun)
  · rw [dropped]
    exact (onLoop (.ofKeeps keeps)).trans (finishDiscard _ n x)

theorem resumeDiscarding (s : Supervisor δ) (cfg : Settings δ) (n x : Nat) (ending : Ending) :
    s.Recedes (s.resumeDiscarding cfg n x ending) := by
  obtain ⟨loop, keeps, dropped | ⟨how, ended⟩⟩ := s.resumeDiscarding_cases cfg n x ending
  · rw [dropped]
    exact (onLoop (.ofKeeps keeps)).trans (finishDiscard _ n x)
  · rw [ended]
    exact finishAttempt s n how

theorem beginAttempt (s : Supervisor δ) (r : Nat) :
    s.Recedes (s.onLink (·.onLoop (·.expire (.retry r)))).beginAttempt := by
  rw [expire_beginAttempt_eq]
  split
  · exact watches (.expireRetry s.loop r) rfl fun _ _ _ => nofun
  · exact watches ((Loop.Watches.expireRetry s.loop r).trans (.spawn _ _ _ nofun)) rfl
      fun _ _ _ => nofun

/-- The first step of an attempt starts a generation. -/
theorem startAttempt (tidy : Tidy watched s) (apart : s.Apart)
    (disconnected : s.machine.state = .disconnected) (cfg : Settings δ) (env : Surroundings)
    (n : Nat) : s.Recedes (s.startAttempt cfg env n) := by
  have unlimited := tidy.unlimited (by simp [disconnected])
  have entered {t : Supervisor δ} (keeps : s.loop.Keeps [] t.loop)
      (machine : t.machine = s.machine.enter .connecting none)
      (retry : t.retryTimer = s.retryTimer) : s.Recedes t := by
    have still (n g : Nat) : .discovery n g ∉ t.loop.timers :=
      fun live => unlimited n g ((keeps.timers _ rfl).mp live)
    exact {
      targets := fun n g => keeps.wanes.target?
      timers := fun n g live => absurd live (still n g)
      apart := fun apart n g same => apart n g (retry.symm.trans same)
      machine := .inr (by
        rw [machine]
        exact ⟨Nat.lt_succ_self _, nofun, still⟩) }
  obtain ⟨loop, keeps, ⟨-, given⟩ | ⟨-, waits⟩⟩ := startAttempt_cases disconnected cfg env n
  · rw [given]
    have began : s.Recedes { s with machine := s.machine.enter .connecting none, loop } :=
      entered keeps rfl rfl
    have failed := began.trans (failAttempt (began.apart apart)
      (fun n g live => unlimited n g (began.timers n g live)) cfg none)
    exact failed.trans (finishAttempt _ n _)
  · rw [waits]
    refine trans (entered ?_ ?_ ?_) (await _ _ _ .connect _ nofun)
    · exact keeps
    · rfl
    · rfl

theorem start (tidy : Tidy watched s) (cfg : Settings δ) : s.Recedes (s.start cfg) := by
  rw [Supervisor.start]
  split
  · rename_i stopped
    have began : s.Recedes { s with stopped := false, failures := 0 } := watches (.refl _) rfl id
    refine began.trans (scheduleConnect (fun n g set => ?_) cfg.atOnce)
    cases (tidy.quiet stopped).symm.trans set
  · exact refl s

theorem requestShutdown (s : Supervisor δ) : s.Recedes s.requestShutdown :=
  watches (.spawn s.loop (.shutdown s.shutdowns) _ nofun) rfl id

theorem stopAttempts (apart : s.Apart) : s.Recedes s.stopAttempts := by
  have untimed : s.loop.Watches (s.retryTimer.elim s.loop s.loop.unschedule) := by
    cases known : s.retryTimer with
    | none => exact .refl _
    | some timer =>
      refine .unschedule s.loop fun n g same => apart n g ?_
      rw [known, same]
  have stopped : s.loop.Watches s.stoppedLoop := by
    rw [stoppedLoop]
    cases s.attempt with
    | none => exact untimed
    | some n => exact untimed.trans (.cancelAttempt _ n)
  rw [stopAttempts_eq]
  refine watches stopped rfl fun _ n g retry => ?_
  cases retry

theorem finishShutdown (tidy : Tidy watched s) (cfg : Settings δ) (env : Surroundings) (n : Nat) :
    s.Recedes (s.finishShutdown cfg env n) :=
  ((teardown tidy cfg env).trans (journals (.say _ cfg _ _))).trans (finish _ _ .done nofun)

theorem startShutdown (tidy : Tidy watched s) (apart : s.Apart) (cfg : Settings δ)
    (env : Surroundings) (n : Nat) : s.Recedes (s.startShutdown cfg env n) := by
  have stopped := stopAttempts apart
  obtain ⟨loop, keeps, ⟨-, finished⟩ | ⟨x, -, waits⟩⟩ := s.startShutdown_cases cfg env n
  · rw [finished]
    exact (stopped.trans (onLoop (.ofKeeps keeps))).trans
      (finishShutdown (tidy.stopAttempts.keeps keeps) cfg env n)
  · rw [waits]
    exact (stopped.trans (onLoop (.ofKeeps keeps))).trans (await _ _ x .disconnect _ nofun)

theorem resumeShutdown (tidy : Tidy watched s) (cfg : Settings δ) (env : Surroundings) (n : Nat)
    (ending : Ending) : s.Recedes (s.resumeShutdown cfg env n ending) := by
  obtain ⟨loop, keeps, ⟨-, finished⟩ | ⟨-, how, -, aborted⟩⟩ :=
    s.resumeShutdown_cases cfg env n ending
  · rw [finished]
    exact (onLoop (.ofKeeps keeps)).trans (finishShutdown (tidy.keeps keeps) cfg env n)
  · rw [aborted]
    exact finish s _ how nofun

end Recedes

end Supervisor

end SensorLink
