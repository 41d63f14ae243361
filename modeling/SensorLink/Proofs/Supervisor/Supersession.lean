/-
# What a superseded attempt leaves alone

The generation tells an attempt whether it is still the current one.  An attempt
that was superseded while it connected should deal with its own session and with
nothing else, which `Spares` states of two states.  It composes, so the callbacks
of such an attempt are followed part by part.

An attempt whose connection comes up, or that is cancelled, spares its successor.
One that fails does not: it gives up in the name of whoever is current, so the
machine is left for disconnected, a failure is counted and a retry is scheduled.
-/

import SensorLink.Proofs.Supervisor.Retry

namespace SensorLink

open Gatt (Ending)
open Link (Effect Settings Surroundings)

namespace Supervisor

variable {δ : Type} {cfg : Settings δ} {s s' s'' : Supervisor δ} {n x generation : Nat}
  {call : Gatt.Call}

/-- What an attempt writes to the tape while it deals with its own session. -/
inductive Own (n x : Nat) : Effect δ → Prop where
  | journal (r : Journal.Record) : Own n x (.journal r)
  | request (call : Gatt.Call) : Own n x (.request (.attempt n) x call)
  | ended (how : Link.Finish) : Own n x (.ended (.attempt n) how)

/-- Between two states attempt `n` dealt with its session `x`, and with nothing else: the other
sessions are what they were, in charge or not, no timer was set or taken back, and no other task
moved or was cancelled. -/
structure Spares (s : Supervisor δ) (n x : Nat) (s' : Supervisor δ) : Prop where
  /-- The machine, the store, the handle map, the ingestions, the retry timer, the count of
  failures and all that is left stay as they are. -/
  rest : s' = { s with sessions := s'.sessions, session := s'.session, loop := s'.loop }
  sessions : ∀ y, y ≠ x → s'.sessions[y]? = s.sessions[y]?
  charge : ∀ y, y ≠ x → (s'.session = some y ↔ s.session = some y)
  timers : s'.loop.timers = s.loop.timers
  points : ∀ task, task ≠ .attempt n → s'.loop.point? task = s.loop.point? task
  tape : ∃ news, s'.loop.tape = s.loop.tape ++ news ∧ ∀ e ∈ news, Own n x e

/-- An attempt of a generation waits for its session to connect or to pair. -/
def Awaits (s : Supervisor δ) (n generation x : Nat) : Gatt.Call → Prop
  | .connect => s.loop.point? (.attempt n) = some (.connecting generation x)
  | .pair => s.loop.point? (.attempt n) = some (.pairing generation x)
  | _ => False

/-- An attempt has ended and its session has given its client up. -/
structure Closed (s : Supervisor δ) (n x : Nat) : Prop where
  ended : s.loop.isLive (.attempt n) = false
  released : s.isReleased x = true

/-- An attempt waits for its session, which is superseded, to disconnect. -/
structure Closing (s : Supervisor δ) (n x : Nat) : Prop where
  waits : s.loop.point? (.attempt n) = some (.discarding x)
  asked : .request (.attempt n) x .disconnect ∈ s.loop.tape

namespace Spares

theorem refl (s : Supervisor δ) : s.Spares n x s where
  rest := rfl
  sessions _ _ := rfl
  charge _ _ := Iff.rfl
  timers := rfl
  points _ _ := rfl
  tape := ⟨[], (List.append_nil _).symm, List.forall_mem_nil _⟩

theorem trans (first : s.Spares n x s') (second : s'.Spares n x s'') : s.Spares n x s'' where
  rest := by rw [second.rest, first.rest]
  sessions y other := (second.sessions y other).trans (first.sessions y other)
  charge y other := (second.charge y other).trans (first.charge y other)
  timers := second.timers.trans first.timers
  points task other := (second.points task other).trans (first.points task other)
  tape := by
    obtain ⟨news, grown, own⟩ := first.tape
    obtain ⟨later, grown', own'⟩ := second.tape
    refine ⟨news ++ later, by rw [grown', grown, List.append_assoc], ?_⟩
    exact List.forall_mem_append.mpr ⟨own, own'⟩

theorem machine (spares : s.Spares n x s') : s'.machine = s.machine := by rw [spares.rest]

theorem failures (spares : s.Spares n x s') : s'.failures = s.failures := by rw [spares.rest]

/-- The attempt moves, and writes an effect of its own. -/
theorem onLoop {loop : Link.Loop δ} {e : Effect δ} (own : Own n x e)
    (timers : loop.timers = s.loop.timers)
    (points : ∀ task, task ≠ .attempt n → loop.point? task = s.loop.point? task)
    (tape : loop.tape = s.loop.tape ++ [e]) : s.Spares n x { s with loop } where
  rest := rfl
  sessions _ _ := rfl
  charge _ _ := Iff.rfl
  timers := timers
  points := points
  tape := ⟨[e], tape, List.forall_mem_singleton.mpr own⟩

theorem record (s : Supervisor δ) (cfg : Settings δ) (r : Journal.Record) :
    s.Spares n x (s.onLink (·.record cfg r)) := by
  unfold onLink Link.record
  split
  · exact onLoop (.journal r) rfl (fun _ _ => rfl) rfl
  · exact refl s

theorem say (s : Supervisor δ) (cfg : Settings δ) (level : Journal.Level) (text : String) :
    s.Spares n x (s.say cfg level text) :=
  record s cfg _

theorem checkLink (s : Supervisor δ) (cfg : Settings δ) (env : Surroundings) (y : Nat) :
    s.Spares n x (s.checkLink cfg env y).1 := by
  rw [Supervisor.checkLink]
  split
  · exact refl s
  · split
    · exact refl s
    · exact record s cfg _

/-- The attempt's own session gives its client up, and is forgotten if it is in charge. -/
theorem giveUp (s : Supervisor δ) : s.Spares n x ((s.onLink (·.release x)).forget x) := by
  rw [release_forget_eq]
  exact { refl s with
    rest := rfl
    sessions := fun y other => by simp [Ne.symm other]
    charge := fun y other => by
      by_cases own : s.session = some x
      · simp [own, Ne.symm other]
      · simp [own] }

theorem finish (s : Supervisor δ) (how : Link.Finish) : s.Spares n x (s.finish (.attempt n) how) :=
  onLoop (.ended how) rfl (fun task other => by rw [Link.Loop.point?_finish, if_neg other]) rfl

theorem await (s : Supervisor δ) (call : Gatt.Call) (point : Link.Point) :
    s.Spares n x (s.await (.attempt n) x call point) := by
  refine onLoop (.request call) rfl (fun task other => ?_) rfl
  rw [Link.Loop.point?_emit, Link.Loop.point?_suspend, if_neg other]

end Spares

theorem spares_finishDiscard (s : Supervisor δ) (n x : Nat) : s.Spares n x (s.finishDiscard n x) :=
  (Spares.giveUp s).trans (.finish _ .done)

theorem closed_finishDiscard (s : Supervisor δ) (n x : Nat) : (s.finishDiscard n x).Closed n x := by
  refine ⟨isLive_finish _ _ _, ?_⟩
  rw [finishDiscard, release_forget_eq]
  exact (s.isReleased_release x x).trans (by simp)

theorem spares_discard (s : Supervisor δ) (cfg : Settings δ) (env : Surroundings) (n x : Nat) :
    s.Spares n x (s.discard cfg env n x) := by
  have said := Spares.say (n := n) (x := x) s cfg .debug
    ("Dropping superseded connection to " ++ cfg.address)
  have checked := said.trans (.checkLink _ cfg env x)
  rw [discard]
  simp only
  split
  · exact checked.trans (.await _ .disconnect (.discarding x))
  · exact checked.trans (spares_finishDiscard _ n x)

/-- The session of a superseded attempt is closed at once, or its link is up and it is asked to
disconnect. -/
theorem closed_or_closing_discard (s : Supervisor δ) (cfg : Settings δ) (env : Surroundings)
    (n x : Nat) : (s.discard cfg env n x).Closed n x ∨
      env.link x = .reported true ∧ (s.discard cfg env n x).Closing n x := by
  rw [discard]
  simp only
  split
  · rename_i up
    refine .inr ⟨reported_of_checkLink up, ?_, ?_⟩
    · simp [await, onLink, Link.request, Link.onLoop]
    · simp [await, onLink, Link.request, Link.onLoop]
  · exact .inl (closed_finishDiscard _ n x)

/-- Whatever ends the closing of a superseded session, only this session is touched, and it is
closed unless the ending escapes. -/
theorem resumeDiscarding_spares (s : Supervisor δ) (cfg : Settings δ) (n x : Nat)
    (ending : Ending) : s.Spares n x (s.resumeDiscarding cfg n x ending) ∧
      ((s.resumeDiscarding cfg n x ending).Closed n x ∨
        ending.Escapes .disconnect (cfg.limitText .disconnect)) := by
  rw [resumeDiscarding]
  cases seen : ending.result? .disconnect (cfg.limitText .disconnect) with
  | none => exact ⟨.finish s _, .inr (Ending.escapes_of_none seen)⟩
  | some result =>
    cases result with
    | ok payload => exact ⟨spares_finishDiscard s n x, .inl (closed_finishDiscard s n x)⟩
    | error f =>
      simp only
      split
      · exact ⟨(Spares.say s cfg _ _).trans (spares_finishDiscard _ n x),
          .inl (closed_finishDiscard _ n x)⟩
      · rename_i unexpected
        have escapes := (Ending.escapes_iff_of_error seen).mpr (by simpa using unexpected)
        exact ⟨.finish s _, .inr escapes⟩

/-- After a failure the session of the attempt is given up, and the machine is left for
disconnected in the name of whoever is current. -/
theorem failAttempt_some_eq (s : Supervisor δ) (cfg : Settings δ) (x : Nat) :
    ∃ t : Supervisor δ, s.failAttempt cfg (some x) = t.scheduleRetry cfg ∧
      t.machine = s.machine.dropped ∧ t.failures = s.failures ∧ t.isReleased x = true := by
  obtain ⟨loop, -, left⟩ := ((s.onLink (·.release x)).forget x).dropState_eq cfg
  refine ⟨_, rfl, ?_⟩
  rw [left, release_forget_eq]
  exact ⟨rfl, rfl, (s.isReleased_release x x).trans (by simp)⟩

/-- What a failed attempt leaves behind, whether it is current or not. -/
theorem connectFailed_fields (s : Supervisor δ) (cfg : Settings δ) (n x : Nat) (f : Failure) :
    (s.connectFailed cfg n x f).machine = s.machine.dropped ∧
      (∀ delay, cfg.retryDelay s.failures = .ok delay →
        (s.connectFailed cfg n x f).failures = s.failures + 1) ∧
      (s.connectFailed cfg n x f).Closed n x := by
  obtain ⟨loop, -, failed⟩ := s.connectFailed_eq cfg n x f
  obtain ⟨t, given, machine, failures, released⟩ :=
    failAttempt_some_eq { s with loop } cfg x
  obtain ⟨count, _, _, _, scheduled, counted, -⟩ := t.scheduleRetry_eq cfg
  rw [failed, given]
  refine ⟨?_, fun delay allowed => ?_, isLive_finish _ _ _, ?_⟩
  · rw [finishWith, scheduled]
    exact machine
  · rw [finishWith, scheduled]
    exact (counted delay (failures ▸ allowed)).trans (congrArg (· + 1) failures)
  · rw [finishWith, scheduled]
    exact released

/-- A failed attempt spares its successor only if the machine is disconnected and there is no
delay to wait before a retry. -/
theorem connectFailed_spares_iff (s : Supervisor δ) (cfg : Settings δ) (n x : Nat) (f : Failure) :
    s.Spares n x (s.connectFailed cfg n x f) ↔
      s.machine.state = .disconnected ∧ ∃ g, cfg.retryDelay s.failures = .error g := by
  obtain ⟨machine, counted, -⟩ := s.connectFailed_fields cfg n x f
  constructor
  · intro spares
    constructor
    · by_contra up
      have later := Connection.Machine.generation_lt_dropped up
      rw [← machine, spares.machine] at later
      exact Nat.lt_irrefl _ later
    · cases delays : cfg.retryDelay s.failures with
      | error g => exact ⟨g, rfl⟩
      | ok delay =>
        exact absurd ((counted delay delays).symm.trans spares.failures) (Nat.succ_ne_self _)
  · rintro ⟨down, g, none⟩
    have noted : s.Spares n x (if f.isTransport then
        s.say cfg .warning ("Connect to " ++ cfg.address ++ " failed: " ++ f.message)
      else s.complain cfg ("Unexpected error connecting to " ++ cfg.address) f) := by
      split
      · exact .say s cfg _ _
      · exact .record s cfg _
    have gaveUp := noted.trans (.giveUp _)
    have still : ∀ t : Supervisor δ, s.Spares n x t →
        s.Spares n x (finishWith (.attempt n) ((t.dropState cfg).scheduleRetry cfg)) := by
      intro t spares
      have idle : t.dropState cfg = t := by rw [dropState, if_pos (by rw [spares.machine, down])]
      have unscheduled : t.scheduleRetry cfg = (t, some g) := by
        rw [scheduleRetry, spares.failures, none]
      rw [idle, unscheduled]
      exact spares.trans (.finish t _)
    exact still _ gaveUp

namespace Awaits

theorem step_of_none (awaits : s.Awaits n generation x call) {ending : Ending}
    (seen : ending.result? call (cfg.limitText call) = none) (env : Surroundings) :
    s.step cfg env (.resumed (.attempt n) ending) = s.finish (.attempt n) .cancelled := by
  cases call with
  | connect | pair =>
    simp only [Awaits] at awaits
    simp only [step, awaits, handleResume, resumeConnecting, resumePairing, seen]
  | read | subscribe | disconnect => cases awaits

theorem step_of_error (awaits : s.Awaits n generation x call) {ending : Ending} {f : Failure}
    (seen : ending.result? call (cfg.limitText call) = some (.error f)) (env : Surroundings) :
    s.step cfg env (.resumed (.attempt n) ending) = s.connectFailed cfg n x f := by
  cases call with
  | connect | pair =>
    simp only [Awaits] at awaits
    simp only [step, awaits, handleResume, resumeConnecting, resumePairing, seen]
  | read | subscribe | disconnect => cases awaits

/-- Once it is connected, a superseded attempt pairs if the security level asks for it; if it
need not, or has paired, it is discarded. -/
theorem step_of_ok (awaits : s.Awaits n generation x call)
    (stale : generation ≠ s.machine.generation) {ending : Ending} {payload : List UInt8}
    (seen : ending.result? call (cfg.limitText call) = some (.ok payload)) (env : Surroundings) :
    s.step cfg env (.resumed (.attempt n) ending) =
      if call = .connect ∧ cfg.security ≠ "low" then
        (s.say cfg .debug (Gatt.pairingText cfg.address cfg.security)).await
          (.attempt n) x .pair (.pairing generation x)
      else s.discard cfg env n x := by
  cases call with
  | connect =>
    simp only [Awaits] at awaits
    simp only [step, awaits, handleResume, resumeConnecting, seen, transportUp,
      linkUp_of_stale stale, true_and, ite_not]
  | pair =>
    simp only [Awaits] at awaits
    simp only [step, awaits, handleResume, resumePairing, seen, linkUp_of_stale stale,
      reduceCtorEq, false_and, if_false]
  | read | subscribe | disconnect => cases awaits

/-- A superseded attempt that is cancelled, or whose call returns, touches nothing but its own
session. -/
theorem spares (awaits : s.Awaits n generation x call)
    (stale : generation ≠ s.machine.generation) {ending : Ending}
    (whole : ∀ f, ending.result? call (cfg.limitText call) ≠ some (.error f))
    (env : Surroundings) :
    s.Spares n x (s.step cfg env (.resumed (.attempt n) ending)) := by
  cases seen : ending.result? call (cfg.limitText call) with
  | none =>
    rw [awaits.step_of_none seen]
    exact .finish s _
  | some result =>
    cases result with
    | error f => exact absurd seen (whole f)
    | ok payload =>
      rw [awaits.step_of_ok stale seen]
      split
      · exact (Spares.say s cfg _ _).trans (.await _ .pair (.pairing generation x))
      · exact spares_discard s cfg env n x

end Awaits

/-- **Superseded attempts.** Let the connection of an attempt end, one way or another, while its
generation is not the current one.

The attempt deals with its own session and with nothing else, exactly if it does not fail, or
fails while the machine is disconnected and there is no delay to wait before a retry.  If it does
fail, it leaves the machine for disconnected and counts a failure.  If its link comes up, its
session is closed, at once or after it was asked to disconnect; and whatever comes of that, again
nothing else is touched, and the session is closed unless the ending escapes. -/
theorem superseded_spares_iff (awaits : s.Awaits n generation x call)
    (stale : generation ≠ s.machine.generation) (cfg : Settings δ) (env : Surroundings)
    (ending : Ending) :
    let after := s.step cfg env (.resumed (.attempt n) ending)
    let result := ending.result? call (cfg.limitText call)
    (s.Spares n x after ↔ ∀ f, result = some (.error f) →
      s.machine.state = .disconnected ∧ ∃ g, cfg.retryDelay s.failures = .error g) ∧
    (∀ f, result = some (.error f) → after.machine = s.machine.dropped ∧
      (∀ delay, cfg.retryDelay s.failures = .ok delay → after.failures = s.failures + 1) ∧
      after.Closed n x) ∧
    (∀ payload, result = some (.ok payload) → ¬(call = .connect ∧ cfg.security ≠ "low") →
      after.Closed n x ∨ env.link x = .reported true ∧ after.Closing n x) ∧
    ∀ (t : Supervisor δ) (world : Surroundings) (how : Ending), t.Closing n x →
      let later := t.step cfg world (.resumed (.attempt n) how)
      t.Spares n x later ∧
        (later.Closed n x ∨ how.Escapes .disconnect (cfg.limitText .disconnect)) := by
  intro after result
  refine ⟨⟨fun spares f seen => ?_, fun whole => ?_⟩, fun f seen => ?_, fun payload seen last => ?_,
    fun t world how closing => ?_⟩
  · rw [show after = _ from awaits.step_of_error seen env] at spares
    exact (connectFailed_spares_iff s cfg n x f).mp spares
  · by_cases failed : ∃ f, result = some (.error f)
    · obtain ⟨f, seen⟩ := failed
      rw [show after = _ from awaits.step_of_error seen env]
      exact (connectFailed_spares_iff s cfg n x f).mpr (whole f seen)
    · exact awaits.spares stale (fun f seen => failed ⟨f, seen⟩) env
  · rw [show after = _ from awaits.step_of_error seen env]
    exact s.connectFailed_fields cfg n x f
  · rw [show after = _ from awaits.step_of_ok stale seen env, if_neg last]
    exact closed_or_closing_discard s cfg env n x
  · have resumed : t.step cfg world (.resumed (.attempt n) how) =
        t.resumeDiscarding cfg n x how := step_resumed closing.waits cfg world how
    rw [resumed]
    exact t.resumeDiscarding_spares cfg n x how

/-- A first attempt is overtaken: somebody else moves the machine on while it connects, the
connection is lost, and a second attempt makes a connection that is ready. -/
def overtaken : List Event :=
  [.started, .expired (.retry 0), .begins (.attempt 0), .transitionAsked .discovering,
    .linkLost 1, .expired (.retry 1), .begins (.attempt 1), .resumed (.attempt 1) (.returned []),
    .treeRead (.attempt 1) (.ok (some []))]

/-- The first attempt still waits for its transport, and is not current. -/
theorem awaits_overtaken :
    (play plainSettings plainWorld .fresh overtaken).Awaits 0 1 0 .connect ∧
      1 ≠ (play plainSettings plainWorld .fresh overtaken).machine.generation := by
  refine ⟨?_, by decide +kernel⟩
  rw [Awaits]
  decide +kernel

/-- If the transport of the first attempt comes up after all, the second connection stays as it
is. -/
theorem spares_overtaken :
    let s := play plainSettings plainWorld .fresh overtaken
    s.Spares 0 0 (s.step plainSettings plainWorld (.resumed (.attempt 0) (.returned []))) :=
  (superseded_spares_iff awaits_overtaken.1 awaits_overtaken.2 plainSettings plainWorld
    (.returned [])).1.mpr nofun

/-- If the first attempt runs out of time instead, it takes the second connection down. -/
theorem not_spares_overtaken :
    let s := play plainSettings plainWorld .fresh overtaken
    s.Awaits 0 1 0 .connect ∧ 1 ≠ s.machine.generation ∧ s.machine.state = .ready ∧
      ¬s.Spares 0 0 (s.step plainSettings plainWorld (.resumed (.attempt 0) .timedOut)) := by
  have up : (play plainSettings plainWorld .fresh overtaken).machine.state = .ready := by
    decide +kernel
  have left : ((play plainSettings plainWorld .fresh overtaken).step plainSettings plainWorld
      (.resumed (.attempt 0) .timedOut)).machine.state = .disconnected := by decide +kernel
  refine ⟨awaits_overtaken.1, awaits_overtaken.2, up, fun spares => ?_⟩
  rw [spares.machine, up] at left
  cases left

end Supervisor

end SensorLink
