/-
# Every lawful callback preserves the invariant

Discovery makes a connection ready, which is the only way to become ready.  The
work of an ingestion changes the store by the readings it takes in, and by these
only.  With the operations of the other modules, every event of a lawful run is
covered, and the invariant holds in every state that a run reaches in which the
attempts obey their cancellation.
-/

import SensorLink.Proofs.Supervisor.Connecting

namespace SensorLink

open Gatt (Ending)
open Link (Loop Point Settings Spoken Surroundings Taken TaskId TimerId Works)
open Sensor (Kind)

/-- A call that failed for its caller did not succumb to a cancellation. -/
theorem Gatt.Ending.not_succumbs {ending : Ending} {call : Gatt.Call} {limit : Option String}
    {f : Failure} (failed : ending.result? call limit = some (.error f)) :
    ¬ending.succumbs = true := by
  cases ending with
  | returned payload => cases failed
  | raised g => exact Bool.false_ne_true
  | timedOut => exact Bool.false_ne_true
  | cancelled => cases failed

namespace Supervisor

variable {δ : Type} {cfg : Settings δ} {alone : Prop}
  {vouch : Nat → Nat → Kind → Float → Prop} {running : Option Nat} {s s' : Supervisor δ}
  {n : Nat} {eager : Prop} {point : Point} {generation session : Nat}

/-- What vouches for the values of the store after readings were taken in. -/
def Renewed (s : Supervisor δ) (vouch : Nat → Nat → Kind → Float → Prop) (taken : List Taken)
    (generation session : Nat) (kind : Kind) (value : Float) : Prop :=
  (kind, value) ∈ taken ∧ generation = s.machine.generation ∧ s.session = some session ∨
    (∀ v, (kind, v) ∉ taken) ∧ vouch generation session kind value

/-- The readings that an event takes in. -/
def takes (s : Supervisor δ) (cfg : Settings δ) (env : Surroundings) : Event → List Taken
  | .notified i handle payload => s.heard env i handle payload
  | .resumed (.read i kind tick) ending =>
    match s.loop.point? (.read i kind tick) with
    | some (.reading handle) =>
      s.fetched i kind (ending.result? (.read handle) (cfg.limitText (.read handle)))
    | _ => []
  | _ => []

/-- Only the end of a read takes a reading in when a call ends. -/
theorem takes_of_ne {env : Surroundings} {task : TaskId} {ending : Ending}
    (here : s.loop.point? task = some point)
    (other : ∀ i kind tick handle, task = .read i kind tick → point = .reading handle → False) :
    s.takes cfg env (.resumed task ending) = [] := by
  unfold takes
  split
  · rename_i same
    cases same
  · rename_i i kind tick _ same
    cases same
    rw [here]
    split
    · rename_i handle same
      exact absurd (Option.some.inj same) fun same => other i kind tick handle rfl same
    · rfl
  · rfl

/-- A session that holds its client was opened. -/
theorem lt_of_isReleased {l : Link δ} {x : Nat} (held : l.isReleased x = false) :
    x < l.sessions.length := by
  by_contra beyond
  rw [Link.isReleased, List.getElem?_eq_none (Nat.le_of_not_lt beyond)] at held
  cases held

namespace Inv

theorem resumeConnecting (inv : Inv cfg alone vouch (some n) s)
    (fits : s.Fits n (s.Eager n) (.connecting generation session)) {ending : Ending}
    (tame : n + 1 < s.attempts → ending.succumbs = true) (env : Surroundings) :
    Inv cfg alone vouch none (s.resumeConnecting cfg env n generation session ending) := by
  rw [Supervisor.resumeConnecting]
  split
  · exact inv.finish _
  · exact inv.transportUp fits env
  · exact inv.failed fits (fun later => Ending.not_succumbs ‹_› (tame later)) _

theorem resumePairing (inv : Inv cfg alone vouch (some n) s)
    (fits : s.Fits n (s.Eager n) (.connecting generation session)) {ending : Ending}
    (tame : n + 1 < s.attempts → ending.succumbs = true) (env : Surroundings) :
    Inv cfg alone vouch none (s.resumePairing cfg env n generation session ending) := by
  rw [Supervisor.resumePairing]
  split
  · exact inv.finish _
  · exact inv.linkUp fits env
  · exact inv.failed fits (fun later => Ending.not_succumbs ‹_› (tame later)) _

/-- The connection of the attempt that is running is ready, with an ingestion of its own. -/
theorem served (inv : Inv cfg alone vouch (some n) s) (latest : n + 1 = s.attempts)
    (discovering : s.machine.state = .discovering) (own : s.session = some session)
    (handles : Gatt.HandleMap) {ingestions : List (Link.Ingestion δ)} {loop : Loop δ}
    (keeps : s.loop.Keeps [.ready] loop)
    (duties : ingestions.map Link.Ingestion.duty =
      s.duties ++ [⟨session, s.machine.generation, true⟩]) :
    Inv cfg alone vouch (some n) { s with
      handleMap := some handles
      ingestions
      ingestion := some s.ingestions.length
      machine := s.machine.enter .ready none
      store := s.store.setConnected true
      failures := 0
      loop } := by
  obtain ⟨x, same, machine, held⟩ := inv.held (.inl discovering)
  obtain rfl : session = x := Option.some.inj (own.symm.trans same)
  have down : s.machine.state ≠ .ready := by simp [discovering]
  have position : s.duties.length = s.ingestions.length := List.length_map ..
  exact {
    attempts := by
      intro m point idle here
      rw [keeps.points _ rfl] at here
      obtain ⟨later, lags⟩ := inv.lags_of_leading latest (by simpa using idle) here
      exact .inr ⟨later, lags.mono (Nat.le_refl _) (Nat.le_refl _) (fun _ _ => id) keeps.tape⟩
    retry := fun r live => inv.retry r ((keeps.timers _ rfl).mp live)
    offline := fun _ => rfl
    online := fun _ _ => rfl
    vouched := fun kind value shown => absurd (inv.vouched kind value shown).1 down
    idle := by simp [Connection.Machine.enter]
    held := fun _ => ⟨session, own, machine, held⟩
    serving := by
      refine fun _ => ⟨s.ingestions.length, session, rfl, own, ?_⟩
      rw [Link.duties, duties, ← position, List.getElem?_concat_length]
      rfl
    resting := fun absurdity => absurd rfl absurdity
    sole := by
      intro i duty here busy
      rw [Link.duties, duties] at here
      rcases Nat.lt_trichotomy i s.duties.length with before | rfl | beyond
      · rw [List.getElem?_append_left before] at here
        have charge := inv.sole i duty here busy
        simp [inv.resting down] at charge
      · rw [position]
      · rw [List.getElem?_eq_none (by simpa using Nat.succ_le_of_lt beyond)] at here
        cases here
    known := by
      intro duty here
      rw [Link.duties, duties, List.mem_append, List.mem_singleton] at here
      rcases here with here | rfl
      · exact inv.known duty here
      · exact lt_of_isReleased held
    mapped := fun _ => ⟨fun _ => rfl, fun _ => rfl⟩
    word := by
      rw [keeps.notices]
      exact (inv.silent down).ready }

theorem setUp (inv : Inv cfg alone vouch (some n) s) (latest : n + 1 = s.attempts)
    (discovering : s.machine.state = .discovering) (own : s.session = some session)
    (env : Surroundings) (tree : Gatt.Tree) :
    Inv cfg alone vouch (some n) (s.setUp cfg env session tree).1 := by
  obtain ⟨loop, keeps, failed | ⟨handles, ⟨unusable, failed⟩ | ⟨ingestions, loop', ready⟩⟩⟩ :=
    setUp_cases discovering cfg env session tree
  all_goals have untimed : Inv cfg alone vouch (some n) { s with discoveryTimer := none, loop } :=
    { inv.fade (s.wanes_untimedLoop.after keeps.wanes) with }
  · rw [failed]
    exact untimed
  · rw [failed]
    exact { untimed with mapped := fun ⟨mode, usable⟩ => absurd usable (unusable mode) }
  · obtain ⟨keeps', duties, ready⟩ := ready
    rw [ready]
    exact untimed.served latest discovering own handles keeps' duties

/-- The end of discovery preserves the invariant. -/
theorem resumeDiscovering (inv : Inv cfg alone vouch (some n) s)
    (fits : s.Fits n (s.Eager n) (.discovering generation session)) (env : Surroundings)
    (reading : Except Failure (Option Gatt.Tree)) :
    Inv cfg alone vouch none (s.resumeDiscovering cfg env n generation session reading) := by
  obtain ⟨loop, keeps, ended | ⟨current, tree, settled⟩⟩ :=
    s.resumeDiscovering_cases cfg env n generation session reading
  · rw [ended]
    exact (inv.fade keeps.wanes).finish .done
  · obtain ⟨latest, discovering, own⟩ := fits.of_current_discovering current
    rw [settled]
    exact (inv.setUp latest discovering own env tree).finishWith

/-- The work of an ingestion preserves the invariant, and vouches for what it takes in. -/
theorem works (inv : Inv cfg alone vouch running s) {i : Nat} {taken : List Taken} {l : Link δ}
    (works : Works i s.toLink taken l) :
    Inv cfg alone (s.Renewed vouch taken) running { s with toLink := l } := by
  obtain ⟨machine, store, sessions, ingestions, loop⟩ := l
  obtain rfl : machine = s.machine := works.machine
  obtain rfl : sessions = s.sessions := works.sessions
  obtain rfl : store = Link.storeAfter s.store taken := works.store
  have duties : ingestions.map Link.Ingestion.duty = s.duties := works.duties
  have ready (some : taken ≠ []) : s.machine.state = .ready := inv.offline (works.accepted some)
  exact { inv with
    attempts := by
      intro n point idle here
      rw [works.loop.points _ rfl] at here
      exact (inv.attempts n point idle here).onLoop works.loop.tape id
    retry := fun r live => inv.retry r ((works.loop.timers _ rfl).mp live)
    offline := by
      intro online
      rw [Link.connected_storeAfter] at online
      exact inv.offline online
    online := by
      intro lone up
      rw [Link.connected_storeAfter]
      exact inv.online lone up
    vouched := by
      intro kind value shown
      rcases Link.read_storeAfter works.accepted shown with mem | ⟨absent, before⟩
      · have up := ready (List.ne_nil_of_mem mem)
        obtain ⟨session, own, -⟩ := inv.held (.inr up)
        exact ⟨up, session, own, .inl ⟨mem, rfl, own⟩⟩
      · obtain ⟨up, session, own, vouched⟩ := inv.vouched kind value before
        exact ⟨up, session, own, .inr ⟨absent, vouched⟩⟩
    serving := by
      intro up
      obtain ⟨i, session, charge, own, duty⟩ := inv.serving up
      exact ⟨i, session, charge, own, by rw [Link.duties, duties]; exact duty⟩
    sole := by
      intro j duty here
      rw [Link.duties, duties] at here
      exact inv.sole j duty here
    known := by
      intro duty here
      rw [Link.duties, duties] at here
      exact inv.known duty here
    word := by
      rw [works.loop.notices]
      have word := inv.word
      by_cases silent : taken = []
      · simpa [silent] using word
      · have up : s.machine.isReady = true := beq_iff_eq.mpr (ready silent)
        rw [up] at word ⊢
        exact word.readings taken }

/-- What vouches for the values of a connection may be replaced by what follows from it. -/
theorem weaken (inv : Inv cfg alone vouch running s) {vouch' : Nat → Nat → Kind → Float → Prop}
    (weaker : ∀ session kind value, s.session = some session →
      vouch s.machine.generation session kind value →
        vouch' s.machine.generation session kind value) : Inv cfg alone vouch' running s :=
  { inv with
    vouched := by
      intro kind value shown
      obtain ⟨up, session, own, vouched⟩ := inv.vouched kind value shown
      exact ⟨up, session, own, weaker session kind value own vouched⟩ }

/-- Whatever takes nothing in leaves every value vouched for. -/
theorem renewed (inv : Inv cfg alone vouch running s) (before : Supervisor δ) :
    Inv cfg alone (before.Renewed vouch []) running s :=
  inv.weaken fun _ _ _ _ vouched => .inr ⟨fun _ => List.not_mem_nil, vouched⟩

/-- The work of an ingestion that takes nothing in. -/
theorem idles (inv : Inv cfg alone vouch running s) {i : Nat} {l : Link δ}
    (works : Works i s.toLink [] l) : Inv cfg alone vouch running { s with toLink := l } := by
  apply (inv.works works).weaken
  rintro session kind value - (⟨mem, -⟩ | ⟨-, vouched⟩)
  · cases mem
  · exact vouched

theorem expired (inv : Inv cfg alone vouch none s) (env : Surroundings) (timer : TimerId) :
    Inv cfg alone vouch none (s.step cfg env (.expired timer)) := by
  simp only [Supervisor.step]
  split
  · rename_i live
    have gone := inv.fade (.expire s.loop timer)
    cases timer with
    | retry r => exact inv.beginAttempt live
    | discovery n generation => exact gone.discoveryExpired n generation
    | tick i number => exact gone.idles (Link.tick_works _ cfg i)
  · exact inv

theorem handleBegin (inv : Inv cfg alone vouch none s) (env : Surroundings) {task : TaskId}
    {point : Point} (here : s.loop.point? task = some point) :
    Inv cfg alone vouch none (s.handleBegin cfg env task point) := by
  unfold Supervisor.handleBegin
  split
  · rename_i n
    rcases inv.attempts n _ nofun here with ⟨latest, disconnected, eager⟩ | ⟨-, absurdity⟩
    · exact (inv.enter n).startAttempt latest disconnected eager env
    · cases absurdity
  · exact inv.startForced env _ _ _
  · exact inv.startShutdown env _
  · exact inv.idles (Link.beginSubscription_works _ cfg _ _ _ _ _)
  · exact inv.idles (Link.beginRead_works _ cfg env _ _ _ _ _)
  · exact inv

theorem treeRead (inv : Inv cfg alone vouch none s) (env : Surroundings) (task : TaskId)
    (reading : Except Failure (Option Gatt.Tree)) :
    Inv cfg alone vouch none (s.step cfg env (.treeRead task reading)) := by
  unfold Supervisor.step
  simp only
  split
  · rename_i n generation session here
    exact (inv.enter n).resumeDiscovering (inv.attempts n _ nofun here) env reading
  · exact inv

/-- An attempt that obeys does not fail once it has a successor. -/
theorem tame (inv : Inv cfg alone vouch none s) {ending : Ending}
    (obedient : s.Obedient (.resumed (.attempt n) ending))
    (here : s.loop.point? (.attempt n) = some (.connecting generation session) ∨
      s.loop.point? (.attempt n) = some (.pairing generation session)) :
    n + 1 < s.attempts → ending.succumbs = true := by
  intro later
  apply obedient n ending rfl ?_ later
  rcases here with here | here
  · rcases inv.attempts n _ nofun here with ⟨latest, -⟩ | ⟨-, -, -, -, cancelled⟩
    · omega
    · exact cancelled
  · rcases inv.attempts n _ nofun here with ⟨latest, -⟩ | ⟨-, -, -, -, cancelled⟩
    · omega
    · exact cancelled

theorem handleResume (inv : Inv cfg alone vouch none s) (env : Surroundings) {task : TaskId}
    {ending : Ending} {point : Point} (obedient : s.Obedient (.resumed task ending))
    (here : s.loop.point? task = some point) :
    Inv cfg alone (s.Renewed vouch (s.takes cfg env (.resumed task ending))) none
      (s.handleResume cfg env ending task point) := by
  unfold Supervisor.handleResume
  split
  · have fits := inv.attempts _ _ nofun here
    exact ((inv.enter _).resumeConnecting fits (inv.tame obedient (.inl here)) env).renewed s
  · have fits := inv.attempts _ _ nofun here
    exact ((inv.enter _).resumePairing fits (inv.tame obedient (.inr here)) env).renewed s
  · have fits := inv.attempts _ _ nofun here
    exact ((inv.enter _).resumeDiscarding fits.of_discarding ending).renewed s
  · exact (inv.resumeForced env _ _ ending).renewed s
  · exact (inv.resumeShutdown env _ ending).renewed s
  · exact (inv.idles (Link.resumeSubscription_works _ cfg _ _ _ _ ending)).renewed s
  · rename_i i kind tick handle
    rw [takes, here]
    exact inv.works (Link.resumeRead_works _ cfg env i kind tick handle ending)
  · exact (inv.idles (Link.resumeSubscription_works _ cfg _ _ _ _ .cancelled)).renewed s
  · rename_i i kind tick
    rw [takes, here]
    exact inv.works (Link.resumeRead_works _ cfg env i kind tick none .cancelled)
  · rw [takes_of_ne here (by simp)]
    exact (inv.finishOther _ _).renewed s
  · rw [takes_of_ne here (by simp)]
    split
    · exact (inv.finishOther _ _).renewed s
    · exact inv.renewed s
  · rw [takes_of_ne here ‹_›]
    exact inv.renewed s

/-- **Preservation.** Every lawful step at which the attempts obey preserves the invariant, and
what it takes in is vouched for from then on. -/
theorem step (inv : Inv cfg alone vouch none s) {env : Surroundings} {event : Event}
    (lawful : Lawful env event) (obedient : s.Obedient event) :
    Inv cfg alone (s.Renewed vouch (s.takes cfg env event)) none (s.step cfg env event) := by
  cases event with
  | expired timer => exact (inv.expired env timer).renewed s
  | begins task =>
    cases here : s.loop.point? task with
    | none =>
      simp only [Supervisor.step, here]
      exact inv.renewed s
    | some point =>
      rw [step_begins here]
      exact (inv.handleBegin env here).renewed s
  | resumed task ending =>
    cases here : s.loop.point? task with
    | none =>
      have nothing : s.takes cfg env (.resumed task ending) = [] := by
        cases task <;> simp [takes, here]
      simp only [Supervisor.step, here, nothing]
      exact inv.renewed s
    | some point =>
      rw [step_resumed here]
      exact inv.handleResume env obedient here
  | treeRead task reading => exact (inv.treeRead env task reading).renewed s
  | linkLost generation => exact (inv.connectionLost env generation).report.renewed s
  | notified i handle payload =>
    exact (inv.works (Link.notified_works s.toLink cfg i handle payload lawful.calm)).report
  | started => exact inv.start.renewed s
  | shutdownAsked => exact inv.requestShutdown.renewed s
  | transitionAsked target => exact absurd rfl (lawful.unasked target)

/-- The invariant holds before the supervisor was started. -/
theorem fresh : Inv cfg alone vouch none (.fresh : Supervisor δ) where
  attempts _ _ _ here := nomatch here
  retry _ live := nomatch live
  offline online := nomatch online
  online _ ready := nomatch ready
  vouched kind value shown := by
    cases kind <;> cases shown
  idle _ := ⟨rfl, rfl⟩
  held up := by rcases up with up | up <;> cases up
  serving ready := nomatch ready
  resting _ := rfl
  sole i duty here := by cases here
  known duty here := nomatch here
  mapped _ := by simp [Supervisor.fresh, Link.fresh, Connection.Machine.fresh]
  word := .silence

end Inv

/-- The invariant holds in every state that a run reaches, whatever vouches for what. -/
theorem Run.inv {past : List (Moment δ)} (run : Run cfg past s)
    (obedient : ∀ m ∈ past, m.Obedient) : Inv cfg True (fun _ _ _ _ => True) none s :=
  run.preserves obedient .fresh fun _ _ _ lawful obeys inv =>
    (inv.step lawful obeys).weaken fun _ _ _ _ _ => trivial

end Supervisor

end SensorLink
