/-
# The way out of a discovery that stalls

A discovery whose limit is set is watched until it comes to an end: by its timer,
and then by the task that disconnects by force.  `Guarded` is the invariant.  Two
things take the watch away and leave the connection in discovery.  The attempt may
be handed a tree on which the set-up fails, after it has taken the timer back; or
the call of the forced disconnect aborts.  A generation is to blame if one of them
happened to it.
-/

import SensorLink.Proofs.Supervisor.Teardown

namespace SensorLink

open Gatt (Ending)
open Link (Loop Point Settings Surroundings TaskId TimerId)
open Sensor (Kind)

/-- The set-up succeeds on a tree: it can be read, and the way of ingestion be had. -/
def Link.Settings.SetsUp {δ : Type} (cfg : Settings δ) (tree : Gatt.Tree) : Prop :=
  (∃ handles, cfg.reads tree = .ok handles) ∧ ∃ mode, cfg.mode = .ok mode

namespace Supervisor

variable {δ : Type}

/-- An attempt waits for the tree of a generation. -/
def Discovers (s : Supervisor δ) (g : Nat) : Prop :=
  ∃ n x, s.loop.point? (.attempt n) = some (.discovering g x)

/-- The discovery of a generation has its timer set. -/
def Limited (s : Supervisor δ) (g : Nat) : Prop :=
  ∃ n, .discovery n g ∈ s.loop.timers

/-- The connection of a generation is about to be closed by force. -/
def Forcing (s : Supervisor δ) (g : Nat) : Prop :=
  ∃ n, s.loop.target? n = some g

/-- The set-up takes the timer of a discovery back, and fails. -/
def Moment.Disarms (m : Moment δ) (cfg : Settings δ) (g : Nat) : Prop :=
  g = m.before.machine.generation ∧ m.before.Limited g ∧
    ∃ tree, m.before.Hands m.event tree ∧ ¬cfg.SetsUp tree

/-- The call of the forced disconnect of a generation aborts. -/
def Moment.Balks (m : Moment δ) (cfg : Settings δ) (g : Nat) : Prop :=
  m.event.Aborts cfg ∧ ∃ n, m.before.Ends n g m.event

/-- A connection is over, or up in its generation. -/
def Lived (s : Supervisor δ) (g : Nat) : Prop :=
  g < s.machine.generation ∨ s.Up g

/-- What watches over the discovery of the current generation, unless it is to blame. -/
structure Guarded (blamed : Nat → Prop) (s : Supervisor δ) : Prop where
  pending : s.machine.state = .discovering → s.Limited s.machine.generation ∨
    s.Forcing s.machine.generation ∨ blamed s.machine.generation
  /-- Only the discovery that is going on has its timer set, and nothing else watches over it. -/
  limited : ∀ g, s.Limited g → s.machine.state = .discovering ∧ g = s.machine.generation ∧
    ¬s.Forcing g ∧ ¬blamed g
  forcing : ∀ g, s.Forcing g → s.Lived g ∧ ¬blamed g
  single : ∀ n n' g, s.loop.target? n = some g → s.loop.target? n' = some g → n = n'
  blamed : ∀ g, blamed g → s.Lived g

variable {cfg : Settings δ} {alone : Prop} {watched : Nat → Prop}
  {vouch : Nat → Nat → Kind → Float → Prop} {blamed : Nat → Prop} {s s' : Supervisor δ}
  {env : Surroundings} {event : Event} {n x g : Nat}

theorem Ends.target? (ends : s.Ends n g event) : s.loop.target? n = some g := by
  cases ends with
  | absent here => rw [Loop.target?, here]; rfl
  | released here => rw [Loop.target?, here]; rfl
  | closed here => rw [Loop.target?, here]; rfl

/-- An event ends one forced disconnect at most. -/
theorem Ends.unique {m h : Nat} (first : s.Ends n g event) (second : s.Ends m h event) :
    h = g := by
  have here := first.target?
  have there := second.target?
  have same : m = n := by cases first <;> cases second <;> rfl
  rw [same, here, Option.some.injEq] at there
  exact there.symm

theorem Lived.advances (lived : s.Lived g) (advances : s.Advances s') : s'.Lived g := by
  rcases lived with gone | ⟨rfl, up⟩
  · exact .inl (Nat.lt_of_lt_of_le gone advances.generation_le)
  · exact advances.imp id fun ⟨_, still⟩ => still ⟨rfl, up⟩

/-- Where everything can be had that the set-up needs, the connection becomes ready. -/
theorem ready_of_hands (discovering : s.machine.state = .discovering) {tree : Gatt.Tree}
    (hands : s.Hands event tree) (setsUp : cfg.SetsUp tree) (env : Surroundings) :
    (s.step cfg env event).machine.state = .ready := by
  obtain ⟨n, x, rfl, here⟩ := hands
  obtain ⟨⟨handles, reads⟩, mode, known⟩ := setsUp
  obtain ⟨t, alike, same⟩ := s.setUp_eq cfg env x tree
  have machine : t.machine = s.machine := by
    rw [alike.machine, cancelDiscoveryTimer_eq]
  have found : t.finishSetUp cfg env x (.ok handles) =
      (({ t with handleMap := some handles } : Supervisor δ).becomeReady cfg env x mode handles,
        none) := by
    simp only [finishSetUp, known]
  obtain ⟨ingestions, loop, -, -, ready⟩ := becomeReady_eq cfg env x mode handles
    (s := { t with handleMap := some handles }) (machine ▸ discovering)
  rw [step_of_hands here, same, reads, found, ready]
  rfl

/-- While an attempt connects, its generation has not lived. -/
theorem not_lived (connecting : s.machine.state = .connecting) :
    ¬s.Lived s.machine.generation := by
  rintro (gone | ⟨-, up⟩)
  · exact Nat.lt_irrefl _ gone
  · simp [connecting] at up

theorem target?_startDiscovery (s : Supervisor δ) (cfg : Settings δ) (n generation x m : Nat) :
    (s.startDiscovery cfg n generation x).loop.target? m = s.loop.target? m := by
  rw [startDiscovery]
  split <;> simp [Loop.target?, onLink, Link.onLoop]

theorem mem_timers_startDiscovery {limit : δ} (limited : cfg.discoveryLimit = some limit)
    (s : Supervisor δ) (n generation x : Nat) (timer : TimerId) :
    timer ∈ (s.startDiscovery cfg n generation x).loop.timers ↔
      timer = .discovery n generation ∨ timer ∈ s.loop.timers := by
  rw [startDiscovery, limited]
  simp [onLink, Link.onLoop]

namespace Guarded

/-- Less is left to watch over. -/
theorem recedes (guarded : Guarded blamed s) (recedes : s.Recedes s') : Guarded blamed s' := by
  have forcing {g : Nat} (forced : s'.Forcing g) : s.Forcing g :=
    forced.imp fun n here => recedes.targets n g here
  refine ⟨fun discovering => ?_, fun g limited => ?_, fun g forced => ?_,
    fun n n' g here there => ?_, fun g blame => (guarded.blamed g blame).advances recedes.advances⟩
  · rcases recedes.machine with ⟨same, kept⟩ | ⟨-, elsewhere, -⟩
    · rw [same] at discovering ⊢
      have watches := kept discovering
      refine (guarded.pending discovering).imp (fun limited => ?_) (.imp_left fun forced => ?_)
      · exact limited.imp fun n live => (watches.timers n _).mpr live
      · exact forced.imp fun n here => (watches.targets n).trans here
    · exact absurd discovering elsewhere
  · rcases recedes.machine with ⟨same, -⟩ | ⟨-, -, unlimited⟩
    · obtain ⟨discovering, current, unforced, blameless⟩ :=
        guarded.limited g (limited.imp fun n live => recedes.timers n g live)
      rw [same]
      exact ⟨discovering, current, fun forced => unforced (forcing forced), blameless⟩
    · obtain ⟨n, live⟩ := limited
      exact absurd live (unlimited n g)
  · obtain ⟨lived, blameless⟩ := guarded.forcing g (forcing forced)
    exact ⟨lived.advances recedes.advances, blameless⟩
  · exact guarded.single n n' g (recedes.targets n g here) (recedes.targets n' g there)

/-- A discovery begins, and its timer is set. -/
theorem begins (guarded : Guarded blamed s) (tidy : Tidy watched s) {limit : δ}
    (limited : cfg.discoveryLimit = some limit) (connecting : s.machine.state = .connecting)
    {loop : Loop δ} (keeps : s.loop.Keeps [] loop) (n x : Nat) :
    Guarded blamed (startDiscovery
      { s with machine := s.machine.enter .discovering (some x), loop } cfg n
        s.machine.generation x) := by
  have fresh := not_lived connecting
  have older {g : Nat} (lived : s.Lived g) : g < s.machine.generation := by
    rcases lived with gone | up
    · exact gone
    · exact absurd (up.1 ▸ .inr up) fresh
  have watches := Loop.Watches.ofKeeps keeps
  generalize began : startDiscovery { s with
    machine := s.machine.enter .discovering (some x), loop } cfg n s.machine.generation x = s'
  have machine : s'.machine = s.machine.enter .discovering (some x) := by
    rw [← began, machine_startDiscovery]
  have targets (m : Nat) : s'.loop.target? m = s.loop.target? m := by
    rw [← began, target?_startDiscovery, ← watches.targets m]
  have timers (m h : Nat) :
      .discovery m h ∈ s'.loop.timers ↔ m = n ∧ h = s.machine.generation := by
    rw [← began, mem_timers_startDiscovery limited]
    constructor
    · rintro (same | before)
      · exact TimerId.discovery.inj same
      · exact absurd ((watches.timers m h).mp before) (tidy.unlimited (by simp [connecting]) m h)
    · rintro ⟨rfl, rfl⟩
      exact .inl rfl
  have generation : s'.machine.generation = s.machine.generation := by rw [machine]; rfl
  have forcing {g : Nat} : s'.Forcing g ↔ s.Forcing g := by
    rw [Forcing, Forcing]
    exact exists_congr fun m => by rw [targets]
  refine ⟨fun _ => .inl ⟨n, (timers n _).mpr ⟨rfl, generation⟩⟩, ?_, fun g forced => ?_, ?_, ?_⟩
  · rintro g ⟨m, live⟩
    obtain ⟨-, rfl⟩ := (timers m g).mp live
    refine ⟨by rw [machine]; rfl, generation.symm, fun forced => ?_, fun blame => ?_⟩
    · exact fresh (guarded.forcing _ (forcing.mp forced)).1
    · exact fresh (guarded.blamed _ blame)
  · obtain ⟨lived, blameless⟩ := guarded.forcing g (forcing.mp forced)
    exact ⟨.inl (generation ▸ older lived), blameless⟩
  · intro m m' g here there
    rw [targets] at here there
    exact guarded.single m m' g here there
  · exact fun g blame => .inl (generation ▸ older (guarded.blamed g blame))

/-- The limit of discovery is reached: a forced disconnect takes over from the timer. -/
theorem expires (guarded : Guarded blamed s) (tidy : Tidy watched s)
    (live : .discovery n g ∈ s.loop.timers) (cfg : Settings δ) :
    Guarded blamed
      ((s.onLink (·.onLoop (·.expire (.discovery n g)))).discoveryExpired cfg n g) := by
  obtain ⟨discovering, current, unforced, blameless⟩ := guarded.limited g ⟨n, live⟩
  obtain ⟨loop, keeps, expired⟩ := s.expire_discoveryExpired_eq cfg n g
  rw [expired, if_pos ⟨current, discovering⟩]
  have targets (m : Nat) : (loop.spawn (.forcedDisconnect n) (.forcedStart s.session g)).target? m =
      if m = n then some g else s.loop.target? m := by
    have kept : loop.target? m = s.loop.target? m := (Loop.Watches.ofKeeps keeps).targets m
    rw [Loop.target?_spawn, kept]
    rfl
  have unlimited (m h : Nat) : .discovery m h ∉ loop.timers := by
    intro still
    obtain ⟨before, other⟩ := (Loop.mem_timers_expire _ _ _).mp ((keeps.timers _ rfl).mp still)
    have same := (tidy.timed m h before).symm.trans (tidy.timed n g live)
    exact other (Option.some.inj same)
  have up : s.Up g := ⟨current, .inl discovering⟩
  refine ⟨fun _ => .inr (.inl ⟨n, ?_⟩), ?_, ?_, ?_, guarded.blamed⟩
  · rw [targets, if_pos rfl, current]
  · rintro h ⟨m, still⟩
    exact absurd still (unlimited m h)
  · rintro h ⟨m, here⟩
    rw [targets] at here
    split at here
    · obtain rfl : g = h := Option.some.inj here
      exact ⟨.inr up, blameless⟩
    · exact guarded.forcing h ⟨m, here⟩
  · intro m m' h here there
    rw [targets] at here there
    split at here <;> split at there
    · rename_i first second
      rw [first, second]
    · obtain rfl : g = h := Option.some.inj here
      exact absurd ⟨m', there⟩ unforced
    · obtain rfl : g = h := Option.some.inj there
      exact absurd ⟨m, here⟩ unforced
    · exact guarded.single m m' h here there

/-- The attempt is handed the tree, and is to blame if the set-up takes the timer back and fails. -/
theorem settles (guarded : Guarded blamed s) (inv : Inv cfg alone vouch none s)
    (tidy : Tidy watched s) {tree : Gatt.Tree} (hands : s.Hands event tree)
    (env : Surroundings) : Guarded (fun g => blamed g ∨ Moment.Disarms ⟨s, env, event⟩ cfg g)
      (s.step cfg env event) := by
  obtain ⟨discovering, settles⟩ := settles_of_hands inv tidy hands cfg env
  have forcing {g : Nat} : (s.step cfg env event).Forcing g ↔ s.Forcing g := by
    rw [Forcing, Forcing]
    exact exists_congr fun m => by rw [settles.targets]
  refine ⟨fun still => ?_, fun g ⟨n, live⟩ => absurd live (settles.unlimited n g),
    fun g forced => ?_, fun n n' g here there => ?_, fun g blame => ?_⟩
  · rw [settles.generation]
    rcases guarded.pending discovering with limited | forced | blame
    · refine .inr (.inr (.inr ⟨rfl, limited, tree, hands, fun setsUp => ?_⟩))
      exact nomatch (ready_of_hands discovering hands setsUp env).symm.trans still
    · exact .inr (.inl (forcing.mpr forced))
    · exact .inr (.inr (.inl blame))
  · obtain ⟨lived, blameless⟩ := guarded.forcing g (forcing.mp forced)
    refine ⟨lived.advances settles.advances, ?_⟩
    rintro (blame | ⟨-, limited, -⟩)
    · exact blameless blame
    · exact (guarded.limited g limited).2.2.1 (forcing.mp forced)
  · rw [settles.targets] at here there
    exact guarded.single n n' g here there
  · rcases blame with blame | ⟨rfl, -⟩
    · exact (guarded.blamed g blame).advances settles.advances
    · exact .inr ⟨settles.generation.symm, settles.up⟩

/-- A forced disconnect ends, and is to blame if its call aborts. -/
theorem closes (guarded : Guarded blamed s) (tidy : Tidy watched s) (apart : s.Apart)
    (ends : s.Ends n g event) (cfg : Settings δ) (env : Surroundings) :
    Guarded (fun g => blamed g ∨ Moment.Balks ⟨s, env, event⟩ cfg g) (s.step cfg env event) := by
  obtain ⟨t, how, recedes, ended, closed⟩ := recedes_of_ends tidy apart ends cfg env
  have lived := (guarded.forcing g ⟨n, ends.target?⟩).1
  have kept := guarded.recedes recedes
  have targets (m : Nat) : (t.finish (.forcedDisconnect n) how).loop.target? m =
      if m = n then none else t.loop.target? m := t.loop.target?_finish n how m
  have forcing {h : Nat} (forced : (t.finish (.forcedDisconnect n) how).Forcing h) :
      t.Forcing h ∧ h ≠ g := by
    obtain ⟨m, here⟩ := forced
    rw [targets] at here
    split at here
    · cases here
    · refine ⟨⟨m, here⟩, ?_⟩
      rintro rfl
      exact absurd (guarded.single m n h (recedes.targets m h here) ends.target?) ‹_›
  rw [ended]
  refine ⟨fun discovering => ?_, fun h limited => ?_, fun h forced => ?_,
    fun m m' h here there => ?_, fun h blame => ?_⟩
  · rcases kept.pending discovering with limited | ⟨m, here⟩ | blame
    · exact .inl limited
    · by_cases same : m = n
      · -- the connection that was to be closed goes on, so the call aborted
        subst same
        have current : g = t.machine.generation := Option.some.inj
          (ends.target?.symm.trans (recedes.targets m _ here))
        have up : s.Up g := by
          refine lived.resolve_left fun older => ?_
          exact absurd current (Nat.ne_of_lt (Nat.lt_of_lt_of_le older
            recedes.advances.generation_le))
        rcases closed up with aborts | later
        · exact .inr (.inr (.inr ⟨aborts, m, current ▸ ends⟩))
        · exact absurd current (Nat.ne_of_lt later)
      · exact .inr (.inl ⟨m, by rw [targets, if_neg same]; exact here⟩)
    · exact .inr (.inr (.inl blame))
  · obtain ⟨discovering, current, unforced, blameless⟩ := kept.limited h limited
    refine ⟨discovering, current, fun forced => unforced (forcing forced).1, ?_⟩
    rintro (blame | ⟨-, m, also⟩)
    · exact blameless blame
    · have before : s.Limited h := limited.imp fun k live => recedes.timers k h live
      exact (guarded.limited h before).2.2.1 ⟨m, also.target?⟩
  · obtain ⟨forced, other⟩ := forcing forced
    obtain ⟨still, blameless⟩ := kept.forcing h forced
    refine ⟨still, ?_⟩
    rintro (blame | ⟨-, m, also⟩)
    · exact blameless blame
    · exact other (ends.unique also)
  · rw [targets] at here there
    split at here
    · cases here
    · split at there
      · cases there
      · exact kept.single m m' h here there
  · rcases blame with blame | ⟨-, m, also⟩
    · exact kept.blamed h blame
    · rw [ends.unique also]
      exact lived.advances recedes.advances

theorem congr {blamed' : Nat → Prop} (guarded : Guarded blamed s)
    (same : ∀ g, blamed g ↔ blamed' g) : Guarded blamed' s := by
  have equal : blamed = blamed' := funext fun g => propext (same g)
  exact equal ▸ guarded

/-- Who was to blame before a callback, or is because of it, is to blame after it. -/
theorem step (guarded : Guarded blamed s) (inv : Inv cfg alone vouch none s)
    (tidy : Tidy watched s) (apart : s.Apart) {limit : δ}
    (limited : cfg.discoveryLimit = some limit) (lawful : Lawful env event)
    (obedient : s.Obedient event) :
    Guarded (fun g => blamed g ∨ Moment.Disarms ⟨s, env, event⟩ cfg g ∨
      Moment.Balks ⟨s, env, event⟩ cfg g) (s.step cfg env event) := by
  by_cases hands : ∃ tree, s.Hands event tree
  · obtain ⟨tree, hands⟩ := hands
    refine (guarded.settles inv tidy hands env).congr fun g => ?_
    have endless : ¬Moment.Balks ⟨s, env, event⟩ cfg g := by
      rintro ⟨-, n, ends⟩
      obtain ⟨_, _, rfl, -⟩ := hands
      cases ends
    rw [or_iff_left endless]
  · have harmless (g : Nat) : ¬Moment.Disarms ⟨s, env, event⟩ cfg g :=
      fun ⟨_, _, tree, handed, _⟩ => hands ⟨tree, handed⟩
    by_cases ends : ∃ n g, s.Ends n g event
    · obtain ⟨n, g, ends⟩ := ends
      refine (guarded.closes tidy apart ends cfg env).congr fun h => ?_
      rw [or_iff_right (harmless h)]
    · have endless (g : Nat) : ¬Moment.Balks ⟨s, env, event⟩ cfg g :=
        fun ⟨_, n, closed⟩ => ends ⟨n, g, closed⟩
      have same : Guarded blamed (s.step cfg env event) := by
        have turn := Turn.step inv tidy apart lawful obedient
        revert turn
        generalize s.step cfg env event = s'
        rintro turn
        cases turn with
        | recedes recedes => exact guarded.recedes recedes
        | begins connecting keeps => exact guarded.begins tidy limited connecting keeps _ _
        | expires live => exact guarded.expires tidy live cfg
        | settles handed => exact absurd ⟨_, handed⟩ hands
        | closes closed => exact absurd ⟨_, _, closed⟩ ends
      exact same.congr fun g => by simp [harmless g, endless g]

theorem fresh : Guarded (fun _ => False) (.fresh : Supervisor δ) where
  pending discovering := nomatch discovering
  limited _ := fun ⟨_, live⟩ => nomatch live
  forcing _ := fun ⟨_, here⟩ => nomatch here
  single _ _ _ here := nomatch here
  blamed _ := False.elim

end Guarded

variable {past : List (Moment δ)}

theorem Run.guarded (run : Run cfg past s) (obedient : ∀ m ∈ past, m.Obedient) {limit : δ}
    (limited : cfg.discoveryLimit = some limit) :
    Guarded (fun g => ∃ m ∈ past, m.Disarms cfg g ∨ m.Balks cfg g) s := by
  refine run.preserves obedient (Guarded.fresh.congr fun g => by simp)
    fun m run obedient lawful obeys guarded => ?_
  refine (guarded.step (run.inv obedient) (run.unwatched obedient) (run.apart obedient) limited
    lawful obeys).congr fun g => ?_
  simp only [List.mem_append, List.mem_singleton, or_and_right, exists_or, exists_eq_left]

/-- The connection of a generation is over, and if it was up before, a retry is set. -/
def Escapes (s : Supervisor δ) (g : Nat) (s' : Supervisor δ) : Prop :=
  g < s'.machine.generation ∧ (s.Up g → s.stopped = false → s.Retried s')

/-- A forced disconnect that ends is the end of a connection that is up, unless its call aborts or
there is no delay to wait. -/
theorem escapes_step_iff (ends : s.Ends n g event) (up : s.Up g)
    (retry : ∀ r, .retry r ∈ s.loop.timers → s.retryTimer = some (.retry r)) (cfg : Settings δ)
    (env : Surroundings) : s.Escapes g (s.step cfg env event) ↔ ¬event.Aborts cfg ∧
      ¬(s.stopped = false ∧ ∃ f, cfg.retryDelay s.failures = .error f) := by
  have signals : s.Signals g event := .inr ⟨n, ends⟩
  constructor
  · rintro ⟨gone, retried⟩
    rcases step_of_signals signals cfg env with ⟨whole, -⟩ | ⟨-, ignores⟩
    · refine ⟨whole, fun ⟨goesOn, unknown⟩ => ?_⟩
      exact (retried_step_iff signals up goesOn whole retry env).mp (retried up goesOn) unknown
    · rw [ignores.machine] at gone
      exact absurd up.1 (Nat.ne_of_lt gone)
  · rintro ⟨whole, known⟩
    refine ⟨generation_lt_of_signals signals up whole env, fun _ goesOn => ?_⟩
    exact (retried_step_iff signals up goesOn whole retry env).mpr fun unknown =>
      known ⟨goesOn, unknown⟩

/-- **The limit is an escape from every discovery that stalls**, unless the set-up took the timer
back and failed, or the forced disconnect aborted.  While a connection is in discovery, its attempt
waits for the tree, or its timer is set, or its forced disconnect is live, exactly if the attempt
waits for the tree or the generation is not to blame.  And when a forced disconnect ends, its
connection is over and a retry is set exactly if the connection was over already, or the call did
not abort and there is a delay to wait. -/
theorem Run.escapes_discovery (run : Run cfg past s) (obedient : ∀ m ∈ past, m.Obedient) {limit : δ}
    (limited : cfg.discoveryLimit = some limit) :
    (s.machine.state = .discovering →
      let g := s.machine.generation
      (s.Discovers g ∨ s.Limited g ∨ s.Forcing g ↔
        s.Discovers g ∨ ∀ m ∈ past, ¬m.Disarms cfg g ∧ ¬m.Balks cfg g)) ∧
    ∀ env event n g, s.Ends n g event →
      (s.Escapes g (s.step cfg env event) ↔ g < s.machine.generation ∨ ¬event.Aborts cfg ∧
        ¬(s.stopped = false ∧ ∃ f, cfg.retryDelay s.failures = .error f)) := by
  have guarded := run.guarded obedient limited
  constructor
  · intro discovering g
    have blameless : (∀ m ∈ past, ¬m.Disarms cfg g ∧ ¬m.Balks cfg g) ↔
        ¬∃ m ∈ past, m.Disarms cfg g ∨ m.Balks cfg g := by simp [not_or]
    rw [blameless]
    constructor
    · rintro (waits | limited | forced)
      · exact .inl waits
      · exact .inr (guarded.limited g limited).2.2.2
      · exact .inr (guarded.forcing g forced).2
    · rintro (waits | blameless)
      · exact .inl waits
      · rcases guarded.pending discovering with limited | forced | blame
        · exact .inr (.inl limited)
        · exact .inr (.inr forced)
        · exact absurd blame blameless
  · intro env event n g ends
    rcases (guarded.forcing g ⟨n, ends.target?⟩).1 with gone | up
    · obtain ⟨t, how, recedes, ended, -⟩ := recedes_of_ends (run.unwatched obedient)
        (run.apart obedient) ends cfg env
      have later := Nat.lt_of_lt_of_le gone recedes.advances.generation_le
      refine iff_of_true ⟨ended ▸ later, fun up => ?_⟩ (.inl gone)
      exact absurd up.1 (Nat.ne_of_lt gone)
    · rw [escapes_step_iff ends up (run.inv obedient).retry cfg env, or_iff_right]
      exact fun gone => absurd up.1 (Nat.ne_of_lt gone)

/-- When the discovery stalled, its limit brought a forced disconnect, which ends the connection
and sets a retry. -/
theorem escapes_stalled :
    stalled.machine.state = .discovering ∧
      (stalled.Discovers 1 ∨ stalled.Limited 1 ∨ stalled.Forcing 1) ∧
      stalled.Escapes 1 (stalled.step limitedSettings plainWorld
        (.resumed (.forcedDisconnect 0) (.returned []))) := by
  have discovering : stalled.machine.state = .discovering := by decide +kernel
  have current : stalled.machine.generation = 1 := by decide +kernel
  have blameless : ∀ m ∈ moments limitedSettings plainWorld .fresh stalledDiscovery,
      ¬m.Disarms limitedSettings 1 ∧ ¬m.Balks limitedSettings 1 := by
    intro m mem
    have event := event_mem_of_mem_moments mem
    constructor
    · rintro ⟨-, -, tree, ⟨n, x, handed, -⟩, -⟩
      rw [handed] at event
      simp [stalledDiscovery] at event
    · rintro ⟨⟨task, ending, resumed, escapes⟩, -⟩
      rw [resumed] at event
      obtain ⟨rfl, rfl⟩ : task = .attempt 0 ∧ ending = .returned [] := by
        simpa [stalledDiscovery] using event
      exact Ending.not_escapes_of_ok rfl escapes
  obtain ⟨watched, escapes⟩ := stalled_run.escapes_discovery stalled_obedient
    (show _ = some 5 from rfl)
  have closed : stalled.Ends 0 1 (.resumed (.forcedDisconnect 0) (.returned [])) :=
    .closed (by decide +kernel)
  refine ⟨discovering, ?_, (escapes plainWorld _ 0 1 closed).mpr (.inr ⟨?_, ?_⟩)⟩
  · have still := watched discovering
    rw [current] at still
    exact still.mpr (.inr blameless)
  · rw [aborts_resumed_iff]
    exact Ending.not_escapes_of_ok rfl
  · exact fun ⟨_, _, unknown⟩ => nomatch unknown

/-- A sensing service whose characteristics are not there. -/
def hollowTree : Gatt.Tree :=
  [{ uuid := some (.text Sensor.serviceUuid), handle := .given 1, characteristics := .empty }]

/-- On a hollow service the set-up fails, and the connection stays in discovery for good, however
its discovery is limited: no task and no timer is left. -/
theorem stranded_hollowTree :
    let past := moments limitedSettings plainWorld .fresh (connectionTo hollowTree)
    ∃ s, Run limitedSettings past s ∧ (∀ m ∈ past, m.Obedient) ∧ s.stopped = false ∧
      s.machine.state = .discovering ∧ ¬∃ g, s.Discovers g ∨ s.Limited g ∨ s.Forcing g := by
  intro past
  refine ⟨_, run_play (fun _ _ => rfl) rfl, obedient_moments rfl, by decide +kernel,
    by decide +kernel, ?_⟩
  have tasks : (play limitedSettings plainWorld .fresh (connectionTo hollowTree)).loop.tasks = [] :=
    by decide +kernel
  have timers : (play limitedSettings plainWorld .fresh (connectionTo hollowTree)).loop.timers =
    [] := by decide +kernel
  rintro ⟨g, ⟨n, x, here⟩ | ⟨n, live⟩ | ⟨n, here⟩⟩
  · rw [Loop.point?, tasks] at here
    cases here
  · rw [timers] at live
    cases live
  · rw [Loop.target?, Loop.point?, tasks] at here
    cases here

end Supervisor

end SensorLink
