/-
# The turns of a connection

Most callbacks leave a discovery and its watch as they are, or end the connection.
`Turn` lists the four others: discovery begins, its limit is reached, the tree is
handed to the attempt and the ingestion set up, or a forced disconnect comes to its
end.  Whatever is preserved by every callback follows from this list; first of all
that generations only grow, and that a connection stays up within its own.
-/

import SensorLink.Proofs.Supervisor.Signals

namespace SensorLink

open Gatt (Ending)
open Link (Loop Point Settings Surroundings TaskId TimerId)
open Sensor (Kind)

namespace Supervisor

variable {δ : Type}

/-- What a callback makes of a discovery and its watch. -/
inductive Turn (cfg : Settings δ) (s : Supervisor δ) (env : Surroundings) (event : Event) :
    Supervisor δ → Prop where
  /-- The watch stays, or the connection is over. -/
  | recedes {s' : Supervisor δ} : s.Recedes s' → Turn cfg s env event s'
  /-- Discovery begins. -/
  | begins {n x : Nat} {loop : Loop δ} :
    s.machine.state = .connecting → s.loop.Keeps [] loop →
    Turn cfg s env event (startDiscovery
      { s with machine := s.machine.enter .discovering (some x), loop } cfg n
        s.machine.generation x)
  /-- The limit of discovery is reached. -/
  | expires {n g : Nat} :
    .discovery n g ∈ s.loop.timers →
    Turn cfg s env event
      ((s.onLink (·.onLoop (·.expire (.discovery n g)))).discoveryExpired cfg n g)
  /-- The attempt is handed the tree. -/
  | settles {tree : Gatt.Tree} {s' : Supervisor δ} :
    s.Hands event tree → s' = s.step cfg env event → Turn cfg s env event s'
  /-- A forced disconnect comes to its end. -/
  | closes {n g : Nat} {s' : Supervisor δ} :
    s.Ends n g event → s' = s.step cfg env event → Turn cfg s env event s'

variable {cfg : Settings δ} {alone : Prop} {watched : Nat → Prop}
  {vouch : Nat → Nat → Kind → Float → Prop} {s s' : Supervisor δ} {env : Surroundings}
  {event : Event} {n x generation : Nat}

namespace Turn

theorem linkUp (inv : Inv cfg alone vouch none s) (tidy : Tidy watched s) (apart : s.Apart)
    (places : s.Places n generation x) (env : Surroundings) :
    Turn cfg s env event (s.linkUp cfg env n generation x) := by
  by_cases current : generation = s.machine.generation
  · obtain ⟨-, connecting, -⟩ := (places.fits inv).of_current_connecting current
    subst current
    obtain ⟨loop, keeps, ⟨-, up⟩ | ⟨-, given⟩⟩ := linkUp_cases connecting cfg env n x
    · rw [up]
      exact .begins connecting keeps
    · rw [given]
      have noted : s.Recedes { s with loop } := .onLoop (.ofKeeps keeps)
      have failed := noted.trans (.failAttempt (noted.apart apart)
        ((tidy.keeps keeps).unlimited (by simp [connecting])) cfg (some x))
      exact .recedes (failed.trans (.finishAttempt _ n _))
  · rw [linkUp_of_stale current]
    exact .recedes (.discard s cfg env n x)

theorem transportUp (inv : Inv cfg alone vouch none s) (tidy : Tidy watched s) (apart : s.Apart)
    (places : s.Places n generation x) (env : Surroundings) :
    Turn cfg s env event (s.transportUp cfg env n generation x) := by
  obtain ⟨loop, keeps, up | waits⟩ := s.transportUp_cases cfg env n generation x
  · rw [up]
    exact linkUp inv tidy apart places env
  · rw [waits]
    exact .recedes ((Recedes.onLoop (.ofKeeps keeps)).trans (.await _ _ x .pair _ nofun))

/-- A call of the latest attempt failed. -/
theorem failed (inv : Inv cfg alone vouch none s) (tidy : Tidy watched s) (apart : s.Apart)
    (places : s.Places n generation x) (latest : ¬n + 1 < s.attempts) (f : Failure) :
    Turn cfg s env event (s.connectFailed cfg n x f) := by
  obtain ⟨-, down, -⟩ :=
    (places.fits inv).of_latest_connecting (fun idle => (inv.idle idle).1) latest
  refine .recedes (.connectFailed tidy apart ?_ n x f)
  rcases down with down | down <;> simp [down]

theorem resumeConnecting (inv : Inv cfg alone vouch none s) (tidy : Tidy watched s)
    (apart : s.Apart) (places : s.Places n generation x) {ending : Ending}
    (tame : n + 1 < s.attempts → ending.succumbs = true) (env : Surroundings) :
    Turn cfg s env event (s.resumeConnecting cfg env n generation x ending) := by
  rw [Supervisor.resumeConnecting]
  split
  · exact .recedes (.finishAttempt _ n _)
  · exact transportUp inv tidy apart places env
  · exact failed inv tidy apart places (fun later => Ending.not_succumbs ‹_› (tame later)) _

theorem resumePairing (inv : Inv cfg alone vouch none s) (tidy : Tidy watched s)
    (apart : s.Apart) (places : s.Places n generation x) {ending : Ending}
    (tame : n + 1 < s.attempts → ending.succumbs = true) (env : Surroundings) :
    Turn cfg s env event (s.resumePairing cfg env n generation x ending) := by
  rw [Supervisor.resumePairing]
  split
  · exact .recedes (.finishAttempt _ n _)
  · exact linkUp inv tidy apart places env
  · exact failed inv tidy apart places (fun later => Ending.not_succumbs ‹_› (tame later)) _

/-- The end of discovery ends the attempt, which may be handed the tree before. -/
theorem treeRead (here : s.loop.point? (.attempt n) = some (.discovering generation x))
    (cfg : Settings δ) (env : Surroundings) (reading : Except Failure (Option Gatt.Tree)) :
    Turn cfg s env (.treeRead (.attempt n) reading)
      (s.resumeDiscovering cfg env n generation x reading) := by
  have ended (t : Supervisor δ) (noted : s.Journals t) :
      s.Recedes (t.finish (.attempt n) .done) :=
    (Recedes.journals noted).trans (.finishAttempt _ n _)
  rw [resumeDiscovering]
  cases seen : Gatt.discovered reading with
  | error f =>
    refine .recedes (ended _ ?_)
    split
    · exact .say s cfg _ _
    · exact .complain s cfg _ f
  | ok tree =>
    dsimp only
    split
    · rename_i current
      obtain rfl : generation = s.machine.generation := by simpa using current
      obtain rfl := discovered_eq_ok seen
      exact .settles ⟨n, x, rfl, here⟩ (step_of_hands here cfg env tree).symm
    · exact .recedes (ended s (.refl s))

theorem expired (cfg : Settings δ) (env : Surroundings) (timer : TimerId) :
    Turn cfg s env event (s.step cfg env (.expired timer)) := by
  simp only [Supervisor.step]
  split
  · rename_i live
    cases timer with
    | retry r => exact .recedes (.beginAttempt s r)
    | discovery n g => exact .expires live
    | tick i number =>
      have went : s.Recedes { s with loop := s.loop.expire (.tick i number) } :=
        .onLoop (.ofKeeps (.expire s.loop _ rfl))
      exact .recedes (went.trans (.works (Link.tick_works _ cfg i)))
  · exact .recedes (.refl s)

/-- A forced disconnect asks the client to disconnect, and stays the watch of its generation. -/
theorem awaitForced {session : Option Nat}
    (here : s.loop.point? (.forcedDisconnect n) = some (.forcedStart session generation)) :
    Turn cfg s env event
      (s.await (.forcedDisconnect n) x .disconnect (.forcedClosing generation)) := by
  refine .recedes (.onLoop ⟨fun m => ?_, fun _ _ => Iff.rfl⟩)
  by_cases same : m = n
  · subst same
    rw [Loop.target?, Loop.target?, here]
    exact congrArg (·.bind Point.target?) (s.point?_await _ _ _ _)
  · have other : TaskId.forcedDisconnect m ≠ .forcedDisconnect n := by simpa using same
    exact congrArg (·.bind Point.target?) (s.point?_await_of_ne other _ _ _)

/-- A forced disconnect begins: it ends at once, or asks the client to disconnect. -/
theorem startForced {session : Option Nat}
    (here : s.loop.point? (.forcedDisconnect n) = some (.forcedStart session generation))
    (cfg : Settings δ) (env : Surroundings) :
    Turn cfg s env (.begins (.forcedDisconnect n))
      (s.startForced cfg env n session generation) := by
  have began : s.startForced cfg env n session generation =
      s.step cfg env (.begins (.forcedDisconnect n)) := (step_begins here cfg env).symm
  cases session with
  | none => exact .closes (.absent here) began
  | some x =>
    by_cases released : s.isReleased x = true
    · exact .closes (.released here released) began
    · rw [Supervisor.startForced, if_neg released]
      exact awaitForced here

/-- A task that is no forced disconnect, or was cancelled before it began, ends. -/
theorem finishIdle {task : TaskId} {point : Point} (here : s.loop.point? task = some point)
    (idle : point.target? = none) (how : Link.Finish) :
    Turn cfg s env event (s.finish task how) := by
  refine .recedes (.onLoop (.finish s.loop ?_ how))
  rintro n rfl
  rw [Loop.target?, here]
  exact idle

theorem begun (inv : Inv cfg alone vouch none s) (tidy : Tidy watched s) (apart : s.Apart)
    (env : Surroundings) {task : TaskId} {point : Point}
    (here : s.loop.point? task = some point) :
    Turn cfg s env (.begins task) (s.handleBegin cfg env task point) := by
  unfold Supervisor.handleBegin
  split
  · exact .recedes (.startAttempt tidy apart (inv.eager_of_ready here).1 cfg env _)
  · exact startForced here cfg env
  · exact .recedes (.startShutdown tidy apart cfg env _)
  · exact .recedes (.works (Link.beginSubscription_works _ cfg _ _ _ _ _))
  · exact .recedes (.works (Link.beginRead_works _ cfg env _ _ _ _ _))
  · exact .recedes (.refl s)

theorem resumed (inv : Inv cfg alone vouch none s) (tidy : Tidy watched s) (apart : s.Apart)
    {task : TaskId} {ending : Ending} {point : Point}
    (obedient : s.Obedient (.resumed task ending)) (here : s.loop.point? task = some point) :
    Turn cfg s env (.resumed task ending) (s.handleResume cfg env ending task point) := by
  have went : s.handleResume cfg env ending task point =
      s.step cfg env (.resumed task ending) := (step_resumed here cfg env ending).symm
  revert went
  unfold Supervisor.handleResume
  split
  · exact fun _ => resumeConnecting inv tidy apart (.inl here) (inv.tame obedient (.inl here)) env
  · exact fun _ => resumePairing inv tidy apart (.inr here) (inv.tame obedient (.inr here)) env
  · exact fun _ => .recedes (.resumeDiscarding s cfg _ _ ending)
  · exact fun went => .closes (.closed here) went
  · exact fun _ => .recedes (.resumeShutdown tidy cfg env _ ending)
  · exact fun _ => .recedes (.works (Link.resumeSubscription_works _ cfg _ _ _ _ ending))
  · exact fun _ => .recedes (.works (Link.resumeRead_works _ cfg env _ _ _ _ ending))
  · exact fun _ => .recedes (.works (Link.resumeSubscription_works _ cfg _ _ _ _ .cancelled))
  · exact fun _ => .recedes (.works (Link.resumeRead_works _ cfg env _ _ _ none .cancelled))
  · exact fun _ => finishIdle here rfl .cancelled
  · split
    · exact fun _ => finishIdle here rfl .cancelled
    · exact fun _ => .recedes (.refl s)
  · exact fun _ => .recedes (.refl s)

/-- Every lawful callback is one of the turns. -/
theorem step (inv : Inv cfg alone vouch none s) (tidy : Tidy watched s) (apart : s.Apart)
    (lawful : Lawful env event) (obedient : s.Obedient event) :
    Turn cfg s env event (s.step cfg env event) := by
  cases event with
  | expired timer => exact expired cfg env timer
  | begins task =>
    cases here : s.loop.point? task with
    | none =>
      simp only [Supervisor.step, here]
      exact .recedes (.refl s)
    | some point =>
      rw [step_begins here]
      exact begun inv tidy apart env here
  | resumed task ending =>
    cases here : s.loop.point? task with
    | none =>
      simp only [Supervisor.step, here]
      exact .recedes (.refl s)
    | some point =>
      rw [step_resumed here]
      exact resumed inv tidy apart obedient here
  | treeRead task reading =>
    unfold Supervisor.step
    simp only
    split
    · exact treeRead ‹_› cfg env reading
    · exact .recedes (.refl s)
  | linkLost generation => exact .recedes (.report (.connectionLost tidy apart cfg env generation))
  | notified i handle payload =>
    have notified := Link.notified_works s.toLink cfg i handle payload lawful.calm
    exact .recedes (.trans (.works notified) (.journals (.report (.refl _))))
  | started => exact .recedes (.start tidy cfg)
  | shutdownAsked => exact .recedes (.requestShutdown s)
  | transitionAsked target => exact absurd rfl (lawful.unasked target)

end Turn

/-- The limit of discovery is taken away, and the connection stays up. -/
structure Settles (s s' : Supervisor δ) : Prop where
  targets : ∀ n, s'.loop.target? n = s.loop.target? n
  unlimited : ∀ n g, .discovery n g ∉ s'.loop.timers
  retryTimer : s'.retryTimer = s.retryTimer
  generation : s'.machine.generation = s.machine.generation
  up : s'.machine.state = .discovering ∨ s'.machine.state = .ready

theorem target?_untimedLoop (s : Supervisor δ) (n : Nat) :
    s.untimedLoop.target? n = s.loop.target? n := by
  rw [untimedLoop]
  cases s.discoveryTimer <;> rfl

theorem settles_setUp (tidy : Tidy watched s) (discovering : s.machine.state = .discovering)
    (cfg : Settings δ) (env : Surroundings) (x : Nat) (tree : Gatt.Tree) :
    s.Settles (s.setUp cfg env x tree).1 := by
  obtain ⟨loop, keeps, failed | ⟨handles, ⟨-, failed⟩ | ⟨ingestions, loop', keeps', -, ready⟩⟩⟩ :=
    setUp_cases discovering cfg env x tree
  all_goals
    have watches := Loop.Watches.ofKeeps keeps
    have targets (n : Nat) : loop.target? n = s.loop.target? n :=
      (watches.targets n).trans (s.target?_untimedLoop n)
    have unlimited (n g : Nat) : .discovery n g ∉ loop.timers := fun live =>
      s.not_mem_untimedLoop (tidy.timed n g) ((watches.timers n g).mp live)
  · rw [failed]
    exact ⟨targets, unlimited, rfl, rfl, .inl discovering⟩
  · rw [failed]
    exact ⟨targets, unlimited, rfl, rfl, .inl discovering⟩
  · rw [ready]
    have watches' := Loop.Watches.ofKeeps keeps'
    exact ⟨fun n => (watches'.targets n).trans (targets n),
      fun n g live => unlimited n g ((watches'.timers n g).mp live), rfl, rfl, .inr rfl⟩

/-- An attempt that is handed the tree settles the connection. -/
theorem settles_of_hands (inv : Inv cfg alone vouch none s) (tidy : Tidy watched s)
    {tree : Gatt.Tree} (hands : s.Hands event tree) (cfg' : Settings δ) (env : Surroundings) :
    s.machine.state = .discovering ∧ s.Settles (s.step cfg' env event) := by
  obtain ⟨n, x, rfl, here⟩ := hands
  obtain ⟨-, discovering, -⟩ := (inv.attempts n _ nofun here).of_current_discovering rfl
  rw [step_of_hands here]
  have settles := settles_setUp tidy discovering cfg' env x tree
  have ended (t : Supervisor δ) (how : Link.Finish) :
      t.loop.Watches (t.finish (.attempt n) how).loop := by
    refine .finish t.loop ?_ how
    nofun
  exact ⟨discovering, { settles with
    targets := fun m => ((ended _ _).targets m).trans (settles.targets m) }⟩

theorem machine_startDiscovery (s : Supervisor δ) (cfg : Settings δ) (n generation x : Nat) :
    (s.startDiscovery cfg n generation x).machine = s.machine := by
  rw [startDiscovery]
  split <;> rfl

/-- When the limit of discovery is reached the session in charge is closed by force, unless the
connection has moved on. -/
theorem expire_discoveryExpired_eq (s : Supervisor δ) (cfg : Settings δ) (n g : Nat) :
    ∃ loop, (s.loop.expire (.discovery n g)).Keeps [] loop ∧
      (s.onLink (·.onLoop (·.expire (.discovery n g)))).discoveryExpired cfg n g =
        if g = s.machine.generation ∧ s.machine.state = .discovering then { s with
          discoveryTimer := none
          loop := loop.spawn (.forcedDisconnect n) (.forcedStart s.session g) }
        else { s with discoveryTimer := none, loop := s.loop.expire (.discovery n g) } := by
  obtain ⟨loop, keeps, said⟩ := Journals.say { s with
    discoveryTimer := none, loop := s.loop.expire (.discovery n g) } cfg .warning
    ("Discovery on " ++ cfg.address ++ " made no progress in " ++
      (cfg.discoveryLimit.elim "" cfg.showDelay) ++ "s; dropping connection")
  refine ⟨loop, keeps, ?_⟩
  have due : (s.machine.isCurrent g && s.machine.state == .discovering) = true ↔
      g = s.machine.generation ∧ s.machine.state = .discovering := by simp
  split
  · rename_i here
    exact (if_pos (due.mpr here)).trans (congrArg (fun t : Supervisor δ => t.onLink
      (·.onLoop (·.spawn (.forcedDisconnect n) (.forcedStart t.session g)))) said)
  · rename_i elsewhere
    exact if_neg fun here => elsewhere (due.mp here)

/-- A forced disconnect that ends leaves less to watch over, and if it aborts no call, the
connection is over that it was to close. -/
theorem recedes_of_ends (tidy : Tidy watched s) (apart : s.Apart) {g : Nat}
    (ends : s.Ends n g event) (cfg : Settings δ) (env : Surroundings) : ∃ t how, s.Recedes t ∧
      s.step cfg env event = t.finish (.forcedDisconnect n) how ∧
      (s.Up g → event.Aborts cfg ∨ g < t.machine.generation) := by
  rcases step_of_ends ends cfg env with ⟨whole, t, journals, -, ended⟩ | ⟨aborts, how, ended⟩
  · have noted : s.Recedes t := .journals journals
    have lost := noted.trans
      (.connectionLost (tidy.journals journals) (noted.apart apart) cfg env g)
    refine ⟨_, _, lost, ended, fun up => ?_⟩
    have later := generation_lt_of_signals (.inr ⟨n, ends⟩) up whole env
    rw [ended] at later
    exact .inr later
  · exact ⟨s, how, .refl s, ended, fun _ => .inl aborts⟩

/-- Generations do not go back, and a connection that is up stays up in its generation. -/
def Advances (s s' : Supervisor δ) : Prop :=
  s.machine.generation < s'.machine.generation ∨
    s'.machine.generation = s.machine.generation ∧
      (s.Up s.machine.generation → s'.Up s.machine.generation)

theorem Advances.generation_le (advances : s.Advances s') :
    s.machine.generation ≤ s'.machine.generation := by
  rcases advances with later | ⟨same, -⟩
  · exact Nat.le_of_lt later
  · exact Nat.le_of_eq same.symm

theorem Advances.of_machine (same : s'.machine = s.machine) : s.Advances s' := by
  refine .inr ⟨congrArg _ same, fun up => ?_⟩
  rwa [Up, same]

theorem Recedes.advances (recedes : s.Recedes s') : s.Advances s' := by
  rcases recedes.machine with ⟨same, -⟩ | ⟨later, -⟩
  · exact .of_machine same
  · exact .inl later

theorem Settles.advances (settles : s.Settles s') : s.Advances s' :=
  .inr ⟨settles.generation, fun _ => ⟨settles.generation.symm, settles.up⟩⟩

namespace Turn

theorem apart (turn : Turn cfg s env event s') (inv : Inv cfg alone vouch none s)
    (tidy : Tidy watched s) (apart : s.Apart) : s'.Apart := by
  cases turn with
  | recedes recedes => exact recedes.apart apart
  | begins connecting keeps =>
    rw [startDiscovery]
    split <;> exact apart
  | @expires n g live =>
    obtain ⟨loop, -, expired⟩ := s.expire_discoveryExpired_eq cfg n g
    rw [expired]
    split <;> exact apart
  | settles hands same =>
    have settles := (settles_of_hands inv tidy hands cfg env).2
    intro n g set
    rw [same, settles.retryTimer] at set
    exact apart n g set
  | closes ends same =>
    obtain ⟨t, how, recedes, ended, -⟩ := recedes_of_ends tidy apart ends cfg env
    rw [same, ended]
    exact recedes.apart apart

theorem advances (turn : Turn cfg s env event s') (inv : Inv cfg alone vouch none s)
    (tidy : Tidy watched s) (apart : s.Apart) : s.Advances s' := by
  cases turn with
  | recedes recedes => exact recedes.advances
  | begins connecting keeps =>
    rw [Advances, machine_startDiscovery]
    refine .inr ⟨rfl, fun up => ?_⟩
    simp [Up, connecting] at up
  | @expires n g live =>
    obtain ⟨loop, -, expired⟩ := s.expire_discoveryExpired_eq cfg n g
    rw [expired]
    split <;> exact .of_machine rfl
  | settles hands same =>
    have settles := (settles_of_hands inv tidy hands cfg env).2
    rw [same]
    exact settles.advances
  | closes ends same =>
    obtain ⟨t, how, recedes, ended, -⟩ := recedes_of_ends tidy apart ends cfg env
    rw [same, ended]
    exact recedes.advances

end Turn

variable {past : List (Moment δ)}

/-- A run leaves things tidy, whoever starts the supervisor meanwhile. -/
theorem Run.unwatched (run : Run cfg past s) (obedient : ∀ m ∈ past, m.Obedient) :
    Tidy (fun _ => False) s :=
  run.tidy obedient fun _ => nofun

theorem Run.apart (run : Run cfg past s) (obedient : ∀ m ∈ past, m.Obedient) : s.Apart := by
  refine run.preserves obedient (fun _ _ => nofun) fun m run obedient lawful obeys apart => ?_
  have inv := run.inv obedient
  have unwatched := run.unwatched obedient
  have turn := Turn.step inv unwatched apart lawful obeys
  exact turn.apart inv unwatched apart

/-- A lawful callback after a run is one of the turns. -/
theorem Run.turn (run : Run cfg past s) (obedient : ∀ m ∈ past, m.Obedient)
    (lawful : Lawful env event) (obeys : s.Obedient event) :
    Turn cfg s env event (s.step cfg env event) :=
  .step (run.inv obedient) (run.unwatched obedient) (run.apart obedient) lawful obeys

theorem Run.advances (run : Run cfg past s) (obedient : ∀ m ∈ past, m.Obedient)
    (lawful : Lawful env event) (obeys : s.Obedient event) :
    s.Advances (s.step cfg env event) :=
  (run.turn obedient lawful obeys).advances (run.inv obedient) (run.unwatched obedient)
    (run.apart obedient)

/-- No generation that a run has come to is ever left for an earlier one. -/
theorem Run.generation_le (run : Run cfg past s) (obedient : ∀ m ∈ past, m.Obedient) :
    ∀ m ∈ past, (m.after cfg).machine.generation ≤ s.machine.generation := by
  refine run.preserves obedient (List.forall_mem_nil _) fun m run obedient lawful obeys ih => ?_
  have later := (run.advances obedient lawful obeys).generation_le
  rw [List.forall_mem_append, List.forall_mem_singleton]
  exact ⟨fun m' mem => Nat.le_trans (ih m' mem) later, Nat.le_refl _⟩

end Supervisor

end SensorLink
