/-
# The discipline of polling

A polling ingestion is created, armed once and perhaps disarmed, while reads take as
long as they like and the connection changes around it.  `Polls` is such a history, one
callback after another.  Whatever happens in it, ticks come one interval apart for as
long as the ingestion is armed, and every tick issues just the reads that are due.
-/

import Mathlib.Algebra.GroupWithZero.Nat
import Mathlib.Algebra.Order.Group.Defs
import Mathlib.Data.List.Induction
import SensorLink.Proofs.Ingestion.Attendance
import SensorLink.Proofs.Loop.Clock
import SensorLink.Proofs.Supervisor.Run

namespace SensorLink

namespace Link

open Gatt (Entry HandleMap)
open Sensor (Kind)

variable {δ : Type}

/-- What a polling ingestion is created with. -/
structure Assignment (δ : Type) where
  interval : δ
  session : Nat
  generation : Nat
  handles : HandleMap

/-- The ingestion of an assignment, before it is armed. -/
def Assignment.create (a : Assignment δ) : Ingestion δ :=
  .create (.poll a.interval) a.session a.generation a.handles

/-- A callback that has run, with the time at which it did, and the timer if it is a timer's. -/
structure Callback (δ : Type) where
  time : δ
  timer : Option TimerId
  before : Link δ
  after : Link δ

namespace Callback

/-- A callback as the clock sees it. -/
def beat (m : Callback δ) : Beat δ :=
  ⟨m.time, m.timer, m.before.loop, m.after.loop⟩

/-- A tick of an ingestion goes off. -/
def Ticks (m : Callback δ) (i : Nat) : Prop :=
  ∃ n, m.timer = some (.tick i n)

/-- An ingestion is disarmed, and otherwise left alone. -/
def Disarms (m : Callback δ) (i : Nat) : Prop :=
  ∃ l, Spares i m.before l ∧ Spares i (l.disarm i) m.after

end Callback

/-- A history of a polling ingestion: it is armed in the first callback and may be disarmed
later. -/
inductive Polls (cfg : Settings δ) (i : Nat) (a : Assignment δ) :
    List (Callback δ) → Link δ → Prop
  | arms {l : Link δ} (m : Callback δ) : (∀ n, m.timer ≠ some (.tick i n)) →
    m.before.loop.pendingTicks i = [] → (∀ kind, ¬m.before.loop.Outstanding i kind) →
    Spares i m.before l → l.ingestions[i]? = some a.create → Spares i (l.arm cfg i) m.after →
    Polls cfg i a [m] m.after
  | attends {past : List (Callback δ)} (m : Callback δ) : Polls cfg i a past m.before →
    Attends cfg i m.before m.timer m.after → Polls cfg i a (past ++ [m]) m.after

/-- What holds of a polling ingestion after a history. -/
structure Disciplined [Zero δ] [Add δ] [LE δ] (i : Nat) (a : Assignment δ)
    (past : List (Callback δ)) (l : Link δ) : Prop where
  /-- While it is armed, exactly one tick is pending, and one read of each kind that was located
  is outstanding at most. -/
  armed : (∀ m ∈ past, ¬m.Disarms i) → (∃ n, l.loop.pendingTicks i = [n]) ∧
    ∀ kind n, l.loop.isLive (.read i kind n) = true → kind ∈ a.handles.entries.map Entry.kind ∧
      ∀ n', l.loop.isLive (.read i kind n') = true → n' = n
  /-- Once it was disarmed, no tick is pending, and no read is in flight. -/
  disarmed : (∃ m ∈ past, m.Disarms i) → l.loop.pendingTicks i = [] ∧
    ∃ g p, l.ingestions[i]? = some g ∧ g.strategy = .poll p ∧ ∀ kind, p.inFlight.get kind = none
  /-- A tick issues one read of each located kind of which none is outstanding, if the connection
  is ready and the one that the ingestion was created for, and otherwise none. -/
  ticks : ∀ m ∈ past, m.Ticks i → ∃ kinds : List Kind, kinds.Nodup ∧
    m.after.loop.issued i = m.before.loop.issued i ++ kinds ∧
    (∀ kind, kind ∈ kinds ↔
      (m.before.machine.state = .ready ∧ m.before.machine.generation = a.generation) ∧
        kind ∈ a.handles.entries.map Entry.kind ∧ ¬m.before.loop.Outstanding i kind) ∧
    ∀ e ∈ a.handles.entries, e.kind ∈ kinds →
      ∃ n, m.after.loop.point? (.read i e.kind n) = some (.readStart a.session e.handle)
  /-- No other callback issues a read. -/
  silent : ∀ m ∈ past, ¬m.Ticks i → m.after.loop.issued i = m.before.loop.issued i
  /-- On a punctual loop, ticks are exactly one interval apart. -/
  apart : Punctual (past.map Callback.beat) → ∀ before m between m' after,
    past = before ++ m :: between ++ m' :: after → m.Ticks i → m'.Ticks i →
    (∀ b ∈ between, ¬b.Ticks i) → m'.time = m.time + a.interval
  /-- The first tick comes at the time of arming. -/
  first : Punctual (past.map Callback.beat) → ∀ m between m' after,
    past = m :: between ++ m' :: after → m'.Ticks i → (∀ b ∈ between, ¬b.Ticks i) →
    m'.time = m.time

variable {cfg : Settings δ} {i n : Nat} {a : Assignment δ} {l l' : Link δ}
  {past : List (Callback δ)} {m : Callback δ} {cause : Option TimerId}

/-- The ingestion of an assignment is armed. -/
def OnDuty (i : Nat) (a : Assignment δ) (l : Link δ) : Prop :=
  ∃ g p, Active i l g p ∧ g.session = a.session ∧ g.generation = a.generation ∧
    g.handles = a.handles ∧ p.interval = a.interval

/-- The ingestion was disarmed. -/
def OffDuty (i : Nat) (l : Link δ) : Prop :=
  ∃ g p, Retired i l g p

theorem OnDuty.spares (onDuty : OnDuty i a l) (spares : Spares i l l') : OnDuty i a l' := by
  obtain ⟨g, p, active, consts⟩ := onDuty
  obtain ⟨malformed, active⟩ := active.spares spares
  exact ⟨_, _, active, consts⟩

theorem OffDuty.spares (offDuty : OffDuty i l) (spares : Spares i l l') : OffDuty i l' := by
  obtain ⟨g, p, retired⟩ := offDuty
  obtain ⟨malformed, retired⟩ := retired.spares spares
  exact ⟨_, _, retired⟩

theorem OnDuty.settled (onDuty : OnDuty i a l) (kind : Kind) (n : Nat) :
    OnDuty i a (l.settled i kind n) := by
  obtain ⟨g, p, active, session, generation, handles, interval⟩ := onDuty
  obtain ⟨p', active, same⟩ := active.settled kind n
  exact ⟨_, p', active, session, generation, handles, same.trans interval⟩

/-- No tick goes off and no read is issued, and the ingestion is disarmed, or stays armed with the
tick that is pending. -/
inductive Idles (i : Nat) (a : Assignment δ) (l l' : Link δ) : Prop where
  | disarms {l₁ : Link δ} : Spares i l l₁ → Spares i (l₁.disarm i) l' → OffDuty i l' →
    l'.loop.issued i = l.loop.issued i → Idles i a l l'
  | stays : OnDuty i a l' → l'.loop.pendingTicks i = l.loop.pendingTicks i →
    l'.loop.issued i = l.loop.issued i → Idles i a l l'

theorem OnDuty.idles_spares (onDuty : OnDuty i a l) (spares : Spares i l l') : Idles i a l l' :=
  .stays (onDuty.spares spares) spares.ticks spares.issued

theorem OnDuty.idles_settled (onDuty : OnDuty i a l) {kind : Kind}
    (spares : Spares i (l.settled i kind n) l') : Idles i a l l' :=
  .stays ((onDuty.settled kind n).spares spares) spares.ticks
    (spares.issued.trans (issued_settled l i kind n))

theorem OnDuty.idles_disarm (onDuty : OnDuty i a l) {l₁ : Link δ} (before : Spares i l l₁)
    (after : Spares i (l₁.disarm i) l') : Idles i a l l' := by
  obtain ⟨g, p, active, -⟩ := onDuty.spares before
  obtain ⟨p', retired, -⟩ := active.disarm
  have offDuty : OffDuty i (l₁.disarm i) := ⟨_, p', retired⟩
  exact .disarms before after (offDuty.spares after)
    (after.issued.trans ((issued_disarm active.found active.polls).trans before.issued))

/-- What a callback does about an ingestion that is armed. -/
theorem OnDuty.attends (onDuty : OnDuty i a l) (attends : Attends cfg i l cause l') :
    (∃ n, cause = some (.tick i n) ∧ .tick i n ∈ l.loop.timers ∧
      l' = (l.onLoop (·.expire (.tick i n))).tick cfg i) ∨
    (∀ n, cause ≠ some (.tick i n)) ∧ Idles i a l l' := by
  cases attends with
  | ticks live => exact .inl ⟨_, rfl, live, rfl⟩
  | begins live =>
    refine .inr ⟨nofun, ?_⟩
    rcases beginRead_cases live cfg _ _ _ with ended | waits
    · exact onDuty.idles_settled ended
    · exact onDuty.idles_spares waits
  | ends live => exact .inr ⟨nofun, onDuty.idles_settled (settled_spares_resumeRead ..)⟩
  | disarms other before after => exact .inr ⟨other, onDuty.idles_disarm before after⟩
  | spares other spares => exact .inr ⟨other, onDuty.idles_spares spares⟩

/-- An ingestion that was disarmed stays so and issues nothing, and no tick of it goes off. -/
theorem OffDuty.attends (offDuty : OffDuty i l) (attends : Attends cfg i l cause l') :
    (∀ n, cause ≠ some (.tick i n)) ∧ OffDuty i l' ∧ l'.loop.issued i = l.loop.issued i := by
  obtain ⟨g, p, retired⟩ := offDuty
  have settled (kind : Kind) (n : Nat) : OffDuty i (l.settled i kind n) := by
    obtain ⟨p', retired, -⟩ := retired.settled kind n
    exact ⟨_, p', retired⟩
  cases attends with
  | ticks live =>
    rw [← Loop.mem_pendingTicks, retired.pending] at live
    cases live
  | begins live =>
    refine ⟨nofun, ?_⟩
    rcases beginRead_cases live cfg _ _ _ with ended | waits
    · exact ⟨(settled _ _).spares ended, ended.issued.trans (issued_settled ..)⟩
    · exact ⟨OffDuty.spares ⟨g, p, retired⟩ waits, waits.issued⟩
  | ends live =>
    have ended := settled_spares_resumeRead (l := l) cfg
    exact ⟨nofun, (settled _ _).spares (ended ..), (ended ..).issued.trans (issued_settled ..)⟩
  | disarms other before after =>
    obtain ⟨malformed, retired⟩ := retired.spares before
    obtain ⟨p', retired', -⟩ := retired.disarm
    refine ⟨other, OffDuty.spares ⟨_, p', retired'⟩ after, ?_⟩
    exact after.issued.trans ((issued_disarm retired.found retired.polls).trans before.issued)
  | spares other spares =>
    exact ⟨other, OffDuty.spares ⟨g, p, retired⟩ spares, spares.issued⟩

/-- A tick of an ingestion that is armed. -/
structure Ticked (i n : Nat) (a : Assignment δ) (l l' : Link δ) : Prop where
  onDuty : OnDuty i a l'
  due : l.loop.pendingTicks i = [n]
  next : l'.loop.pendingTicks i = [n + 1]
  written : .schedule (.tick i (n + 1)) (.delay a.interval) ∈ l'.loop.tape
  issues : ∃ kinds : List Kind, kinds.Nodup ∧ l'.loop.issued i = l.loop.issued i ++ kinds ∧
    (∀ kind, kind ∈ kinds ↔
      (l.machine.state = .ready ∧ l.machine.generation = a.generation) ∧
        kind ∈ a.handles.entries.map Entry.kind ∧ ¬l.loop.Outstanding i kind) ∧
    ∀ e ∈ a.handles.entries, e.kind ∈ kinds →
      ∃ n, l'.loop.point? (.read i e.kind n) = some (.readStart a.session e.handle)

theorem OnDuty.ticked (onDuty : OnDuty i a l) (live : .tick i n ∈ l.loop.timers)
    (cfg : Settings δ) : Ticked i n a l ((l.onLoop (·.expire (.tick i n))).tick cfg i) := by
  obtain ⟨g, p, active, session, generation, handles, interval⟩ := onDuty
  obtain ⟨p', active', same, issued, begun, timer, written⟩ := active.ticked live cfg
  have due : l.loop.pendingTicks i = [n] := by
    obtain ⟨m, -, -, pending⟩ := active.pending
    obtain rfl : n = m := by simpa [pending] using Loop.mem_pendingTicks.mpr live
    exact pending
  have next : (((l.onLoop (·.expire (.tick i n))).tick cfg i).loop.pendingTicks i) = [n + 1] := by
    obtain ⟨m, known, -, pending⟩ := active'.pending
    obtain rfl : n + 1 = m := by simpa using timer.symm.trans known
    exact pending
  refine ⟨⟨_, p', active', session, generation, handles, same.trans interval⟩, due, next,
    interval ▸ written, _, nodup_dueEntries l g p, issued, fun kind => ?_, fun e mem due => ?_⟩
  · rw [active.outstanding_iff, not_not, ← generation, ← handles, List.mem_map]
    constructor
    · rintro ⟨e, mem, rfl⟩
      obtain ⟨serves, located, idle⟩ := mem_dueEntries.mp mem
      exact ⟨serves, List.mem_map_of_mem located, idle⟩
    · rintro ⟨serves, located, idle⟩
      obtain ⟨e, mem, rfl⟩ := List.mem_map.mp located
      exact ⟨e, mem_dueEntries.mpr ⟨serves, mem, idle⟩, rfl⟩
  · obtain ⟨e', mem', same⟩ := List.mem_map.mp due
    obtain ⟨serves, -, idle⟩ := mem_dueEntries.mp mem'
    rw [← session]
    exact ⟨_, begun e (mem_dueEntries.mpr ⟨serves, handles ▸ mem, same ▸ idle⟩)⟩

theorem OnDuty.offDuty_of_disarms (onDuty : OnDuty i a m.before) (disarms : m.Disarms i) :
    OffDuty i m.after := by
  obtain ⟨l, before, after⟩ := disarms
  obtain ⟨g, p, active, -⟩ := onDuty.spares before
  obtain ⟨p', retired, -⟩ := active.disarm
  exact OffDuty.spares ⟨_, p', retired⟩ after

/-- The ingestion is armed in a callback, the first of a history. -/
structure Armed (i : Nat) (a : Assignment δ) (m : Callback δ) : Prop where
  onDuty : OnDuty i a m.after
  other : ¬m.Ticks i
  kept : ¬m.Disarms i
  sets : m.beat.Sets (.tick i 0) .soon
  pending : m.after.loop.pendingTicks i = [0]
  silent : m.after.loop.issued i = m.before.loop.issued i

/-- A pending tick of an ingestion that spares it was pending before. -/
theorem Spares.mem_timers (spares : Spares i l l') :
    .tick i n ∈ l'.loop.timers ↔ .tick i n ∈ l.loop.timers := by
  rw [← Loop.mem_pendingTicks, spares.ticks, Loop.mem_pendingTicks]

theorem Armed.of_arm (other : ∀ n, m.timer ≠ some (.tick i n))
    (unset : m.before.loop.pendingTicks i = []) (unread : ∀ kind, ¬m.before.loop.Outstanding i kind)
    (before : Spares i m.before l) (created : l.ingestions[i]? = some a.create)
    (after : Spares i (l.arm cfg i) m.after) : Armed i a m := by
  have unread' (kind : Kind) (n : Nat) : l.loop.isLive (.read i kind n) = false := by
    rw [before.reads]
    by_contra live
    exact unread kind ⟨n, by simpa using live⟩
  obtain ⟨g, p, active, session, generation, handles, interval, loop⟩ :=
    Active.arm created (before.ticks.trans unset) unread' cfg
  have pending : m.after.loop.pendingTicks i = [0] := by
    rw [after.ticks, loop, Loop.pendingTicks_schedule, before.ticks, unset]
  refine ⟨OnDuty.spares ⟨g, p, active, session, generation, handles, interval⟩ after,
    fun ⟨n, ticks⟩ => other n ticks, ?_, ⟨?_, ?_, ?_⟩, pending, ?_⟩
  · rintro ⟨l₁, before', after'⟩
    have live : .tick i 0 ∈ m.after.loop.timers := Loop.mem_pendingTicks.mp (by simp [pending])
    have earlier := timers_disarm_subset l₁ i (after'.mem_timers.mp live)
    rw [before'.mem_timers, ← Loop.mem_pendingTicks, unset] at earlier
    cases earlier
  · intro live
    rw [← Loop.mem_pendingTicks, Callback.beat, unset] at live
    cases live
  · exact Loop.mem_pendingTicks.mp (by rw [Callback.beat, pending]; simp)
  · exact after.tape (by rw [loop]; exact List.mem_append_right _ (List.mem_singleton_self _))
  · rw [after.issued, loop, Loop.issued_schedule, before.issued]

namespace Polls

/-- An ingestion is armed until it is disarmed. -/
theorem state (polls : Polls cfg i a past l) :
    (∀ m ∈ past, ¬m.Disarms i) ∧ OnDuty i a l ∨ (∃ m ∈ past, m.Disarms i) ∧ OffDuty i l := by
  induction polls with
  | arms m other unset unread before created after =>
    have armed := Armed.of_arm other unset unread before created after
    exact .inl ⟨List.forall_mem_singleton.mpr armed.kept, armed.onDuty⟩
  | attends m polls attends ih =>
    rcases ih with ⟨kept, onDuty⟩ | ⟨⟨e, mem, disarms⟩, offDuty⟩
    · by_cases disarms : m.Disarms i
      · exact .inr ⟨⟨m, by simp, disarms⟩, onDuty.offDuty_of_disarms disarms⟩
      · refine .inl ⟨List.forall_mem_append.mpr ⟨kept, List.forall_mem_singleton.mpr disarms⟩, ?_⟩
        rcases onDuty.attends attends with ⟨n, -, live, ticked⟩ | ⟨-, idles⟩
        · exact ticked ▸ (onDuty.ticked live cfg).onDuty
        · cases idles with
          | disarms before after => exact absurd ⟨_, before, after⟩ disarms
          | stays onDuty => exact onDuty
    · exact .inr ⟨⟨e, List.mem_append_left _ mem, disarms⟩, (offDuty.attends attends).2.1⟩

/-- An ingestion with a history is there, and polls. -/
theorem found (polls : Polls cfg i a past l) :
    ∃ g p, l.ingestions[i]? = some g ∧ g.strategy = .poll p := by
  rcases polls.state with ⟨-, g, p, active, -⟩ | ⟨-, g, p, retired⟩
  · exact ⟨g, p, active.found, active.polls⟩
  · exact ⟨g, p, retired.found, retired.polls⟩

theorem ne_nil (polls : Polls cfg i a past l) : past ≠ [] := by
  cases polls <;> simp

/-- The first callback arms the ingestion. -/
theorem armed_head {rest : List (Callback δ)} (polls : Polls cfg i a past l)
    (split : past = m :: rest) : Armed i a m := by
  induction polls generalizing rest with
  | arms m' other unset unread before created after =>
    obtain rfl := (List.cons.inj split).1
    exact .of_arm other unset unread before created after
  | @attends past m' polls attends ih =>
    cases past with
    | nil => exact absurd rfl polls.ne_nil
    | cons first past => exact ih (by rw [(List.cons.inj split).1])

/-- Every callback but the first is one of those that may attend to the ingestion. -/
theorem of_append_cons {before after : List (Callback δ)} (polls : Polls cfg i a past l)
    (split : past = before ++ m :: after) (later : before ≠ []) :
    Polls cfg i a before m.before ∧ Attends cfg i m.before m.timer m.after := by
  induction polls generalizing after with
  | arms m' => cases before with
    | nil => exact absurd rfl later
    | cons first rest => simp at split
  | attends m' polls attends ih =>
    rcases List.eq_nil_or_concat' after with rfl | ⟨after, last, rfl⟩
    · obtain ⟨rfl, same⟩ := List.append_inj' split rfl
      obtain rfl := List.singleton_inj.mp same
      exact ⟨polls, attends⟩
    · rw [← List.cons_append, ← List.append_assoc] at split
      exact ih (List.append_inj' split rfl).1

/-- The next callback is a tick, or issues no read and sets no timer of a tick. -/
theorem next (polls : Polls cfg i a past m.before)
    (attends : Attends cfg i m.before m.timer m.after) :
    (∃ n, m.timer = some (.tick i n) ∧ Ticked i n a m.before m.after) ∨
      ¬m.Ticks i ∧ m.after.loop.issued i = m.before.loop.issued i ∧
        m.after.loop.pendingTicks i ⊆ m.before.loop.pendingTicks i := by
  rcases polls.state with ⟨-, onDuty⟩ | ⟨-, offDuty⟩
  · rcases onDuty.attends attends with ⟨n, timer, live, ticked⟩ | ⟨other, idles⟩
    · exact .inl ⟨n, timer, ticked ▸ onDuty.ticked live cfg⟩
    · refine .inr ⟨fun ⟨n, ticks⟩ => other n ticks, ?_⟩
      cases idles with
      | disarms _ _ offDuty silent =>
        obtain ⟨g, p, retired⟩ := offDuty
        exact ⟨silent, by rw [retired.pending]; exact List.nil_subset _⟩
      | stays _ pending silent => exact ⟨silent, by rw [pending]; exact List.Subset.refl _⟩
  · obtain ⟨other, ⟨g, p, retired⟩, silent⟩ := offDuty.attends attends
    exact .inr ⟨fun ⟨n, ticks⟩ => other n ticks, silent,
      by rw [retired.pending]; exact List.nil_subset _⟩

/-- A callback of a history is a tick, or issues no read. -/
theorem callback (polls : Polls cfg i a past l) (mem : m ∈ past) :
    (∃ n, m.timer = some (.tick i n) ∧ Ticked i n a m.before m.after) ∨
      ¬m.Ticks i ∧ m.after.loop.issued i = m.before.loop.issued i := by
  induction polls with
  | arms m' other unset unread before created after =>
    obtain rfl := List.mem_singleton.mp mem
    have armed := Armed.of_arm other unset unread before created after
    exact .inr ⟨armed.other, armed.silent⟩
  | attends m' polls attends ih =>
    rcases List.mem_append.mp mem with earlier | last
    · exact ih earlier
    · obtain rfl := List.mem_singleton.mp last
      exact (polls.next attends).imp_right fun idles => ⟨idles.1, idles.2.1⟩

/-- The timer of a pending tick was set by the latest tick, or when the ingestion was armed. -/
theorem timed (polls : Polls cfg i a past l) (pending : n ∈ l.loop.pendingTicks i) :
    ∃ before e between, past = before ++ e :: between ∧ (∀ b ∈ between, ¬b.Ticks i) ∧
      (e.Ticks i ∧ e.beat.Sets (.tick i n) (.delay a.interval) ∨
        before = [] ∧ ¬e.Ticks i ∧ e.beat.Sets (.tick i n) .soon) := by
  induction polls generalizing n with
  | arms m other unset unread before created after =>
    have armed := Armed.of_arm other unset unread before created after
    obtain rfl : n = 0 := by simpa [armed.pending] using pending
    exact ⟨[], m, [], rfl, List.forall_mem_nil _, .inr ⟨rfl, armed.other, armed.sets⟩⟩
  | @attends past m polls attends ih =>
    rcases polls.next attends with ⟨k, timer, ticked⟩ | ⟨other, -, stays⟩
    · obtain rfl : n = k + 1 := by simpa [ticked.next] using pending
      refine ⟨past, m, [], rfl, List.forall_mem_nil _, .inl ⟨⟨k, timer⟩, ?_, ?_, ticked.written⟩⟩
      · intro early
        rw [← Loop.mem_pendingTicks, Callback.beat, ticked.due] at early
        simp at early
      · exact Loop.mem_pendingTicks.mp pending
    · obtain ⟨before, e, between, rfl, quiet, set⟩ := ih (stays pending)
      refine ⟨before, e, between ++ [m], by simp, ?_, set⟩
      exact List.forall_mem_append.mpr ⟨quiet, List.forall_mem_singleton.mpr other⟩

/-- On a punctual loop a tick comes at the end of the wait that was set by the latest tick, or when
the ingestion was armed. -/
theorem tick_time [AddMonoid δ] [PartialOrder δ] {before after : List (Callback δ)}
    (polls : Polls cfg i a past l) (punctual : Punctual (past.map Callback.beat))
    (split : past = before ++ m :: after) (later : before ≠ []) (ticks : m.Ticks i) :
    ∃ earlier e between, before = earlier ++ e :: between ∧ (∀ b ∈ between, ¬b.Ticks i) ∧
      (e.Ticks i ∧ m.time = e.time + a.interval ∨
        earlier = [] ∧ ¬e.Ticks i ∧ m.time = e.time) := by
  obtain ⟨polls, attends⟩ := polls.of_append_cons split later
  obtain ⟨n, timer, due⟩ : ∃ n, m.timer = some (.tick i n) ∧
      m.before.loop.pendingTicks i = [n] := by
    rcases polls.next attends with ⟨n, timer, ticked⟩ | ⟨other, -⟩
    · exact ⟨n, timer, ticked.due⟩
    · exact absurd ticks other
  have live : .tick i n ∈ m.before.loop.timers := Loop.mem_pendingTicks.mp (by simp [due])
  obtain ⟨earlier, e, between, rfl, quiet, set⟩ := polls.timed (n := n) (by simp [due])
  rw [split, List.map_append, List.map_cons] at punctual
  have follows : e.beat.Follows m.beat :=
    (List.pairwise_append.mp punctual).2.2 _ (List.mem_map_of_mem (by simp)) _ (by simp)
  have exact {wait : Wait δ} (sets : e.beat.Sets (.tick i n) wait) :
      m.time = e.time + wait.length :=
    le_antisymm (follows.notLate _ _ sets live) (follows.notEarly _ _ sets timer live)
  refine ⟨earlier, e, between, rfl, quiet, ?_⟩
  rcases set with ⟨ticks, sets⟩ | ⟨first, other, sets⟩
  · exact .inl ⟨ticks, exact sets⟩
  · exact .inr ⟨first, other, (exact sets).trans (add_zero _)⟩

/-- **The discipline of polling**, whatever happens to the reads and to the connection, and
whenever the ingestion is disarmed. -/
theorem disciplined [AddMonoid δ] [PartialOrder δ] (polls : Polls cfg i a past l) :
    Disciplined i a past l where
  armed kept := by
    rcases polls.state with ⟨-, g, p, active, -, -, handles, -⟩ | ⟨⟨m, mem, disarms⟩, -⟩
    · obtain ⟨n, -, -, pending⟩ := active.pending
      refine ⟨⟨n, pending⟩, fun kind n live => ?_⟩
      have read := (active.reads kind n).mp live
      refine ⟨handles ▸ active.located kind _ read, fun n' live' => ?_⟩
      simpa using ((active.reads kind n').mp live').symm.trans read
    · exact absurd disarms (kept m mem)
  disarmed gone := by
    rcases polls.state with ⟨kept, -⟩ | ⟨-, g, p, retired⟩
    · obtain ⟨m, mem, disarms⟩ := gone
      exact absurd disarms (kept m mem)
    · exact ⟨retired.pending, g, p, retired.found, retired.polls, retired.idle⟩
  ticks m mem ticks := by
    rcases polls.callback mem with ⟨n, -, ticked⟩ | ⟨other, -⟩
    · exact ticked.issues
    · exact absurd ticks other
  silent m mem other := by
    rcases polls.callback mem with ⟨n, timer, -⟩ | ⟨-, silent⟩
    · exact absurd ⟨n, timer⟩ other
    · exact silent
  apart punctual before m between m' after split ticks ticks' quiet := by
    obtain ⟨earlier, e, between', same, quiet', set⟩ :=
      polls.tick_time punctual split (by simp) ticks'
    rcases set with ⟨last, exact⟩ | ⟨rfl, other, -⟩
    · rcases places_cases same with mem | mem | ⟨-, rfl, -⟩
      · exact absurd last (quiet e mem)
      · exact absurd ticks (quiet' m mem)
      · exact exact
    · rw [List.nil_append] at same
      have mem : m ∈ e :: between' := same ▸ (by simp : m ∈ before ++ m :: between)
      rcases List.mem_cons.mp mem with rfl | mem
      · exact absurd ticks other
      · exact absurd ticks (quiet' m mem)
  first punctual m between m' after split ticks quiet := by
    have armed := polls.armed_head split
    obtain ⟨earlier, e, between', same, -, ⟨last, -⟩ | ⟨rfl, -, exact⟩⟩ :=
      polls.tick_time punctual split (by simp) ticks
    · have mem : e ∈ m :: between := same ▸ (by simp : e ∈ earlier ++ e :: between')
      rcases List.mem_cons.mp mem with rfl | mem
      · exact absurd last armed.other
      · exact absurd last (quiet e mem)
    · obtain rfl := (List.cons.inj same).1
      exact exact

end Polls

/-- A thermometer that is polled every five units of time. -/
def thermometer : Assignment Nat where
  interval := 5
  session := 0
  generation := 1
  handles := { entries := [⟨.temperature, some 3, Kind.uuid .temperature⟩] }

/-- The connection to the thermometer, before its ingestion is armed. -/
def thermometerLink : Link Nat :=
  { Link.fresh with
    machine := ⟨.ready, 1, some 0⟩
    sessions := [⟨1, false⟩]
    ingestions := [thermometer.create] }

/-- The callback after another, at a later time. -/
def Callback.next (m : Callback Nat) (time : Nat) (timer : Option TimerId)
    (f : Link Nat → Link Nat) : Callback Nat :=
  ⟨time, timer, m.after, f m.after⟩

theorem Polls.goesOn {cfg : Settings Nat} {a : Assignment Nat} {past : List (Callback Nat)}
    {m : Callback Nat} (polls : Polls cfg i a past m.after) {time : Nat} {timer : Option TimerId}
    {f : Link Nat → Link Nat} (attends : Attends cfg i m.after timer (f m.after)) :
    Polls cfg i a (past ++ [m.next time timer f]) (m.next time timer f).after :=
  polls.attends (m.next time timer f) attends

def tickOf (n : Nat) (l : Link Nat) : Link Nat :=
  (l.onLoop (·.expire (.tick 0 n))).tick Supervisor.plainSettings 0

/-- The ingestion is armed, and its first read takes longer than the interval. -/
def thermometerArmed : Callback Nat :=
  ⟨0, none, thermometerLink, thermometerLink.arm Supervisor.plainSettings 0⟩

def firstTick : Callback Nat :=
  thermometerArmed.next 0 (some (.tick 0 0)) (tickOf 0)

def firstRead : Callback Nat :=
  firstTick.next 0 none
    (·.beginRead Supervisor.plainSettings Supervisor.plainWorld 0 .temperature 1 0 (some 3))

def secondTick : Callback Nat :=
  firstRead.next 5 (some (.tick 0 1)) (tickOf 1)

def firstReadEnd : Callback Nat :=
  secondTick.next 7 none
    (·.resumeRead Supervisor.plainSettings Supervisor.plainWorld 0 .temperature 1 (some 3)
      .timedOut)

def thirdTick : Callback Nat :=
  firstReadEnd.next 10 (some (.tick 0 2)) (tickOf 2)

def thermometerDisarmed : Callback Nat :=
  thirdTick.next 10 none (·.disarm 0)

def thermometerPast : List (Callback Nat) :=
  [thermometerArmed, firstTick, firstRead, secondTick, firstReadEnd, thirdTick,
    thermometerDisarmed]

theorem thermometer_polls :
    Polls Supervisor.plainSettings 0 thermometer thermometerPast thermometerDisarmed.after := by
  have armed : Polls Supervisor.plainSettings 0 thermometer [thermometerArmed]
      thermometerArmed.after :=
    .arms thermometerArmed nofun rfl (by rintro kind ⟨n, live⟩; cases live) (.refl 0 _) rfl
      (.refl 0 _)
  have first : Polls Supervisor.plainSettings 0 thermometer _ firstTick.after :=
    armed.goesOn (.ticks (by decide +kernel))
  have begun : Polls Supervisor.plainSettings 0 thermometer _ firstRead.after :=
    first.goesOn (.begins (by decide +kernel))
  have second : Polls Supervisor.plainSettings 0 thermometer _ secondTick.after :=
    begun.goesOn (.ticks (by decide +kernel))
  have ended : Polls Supervisor.plainSettings 0 thermometer _ firstReadEnd.after :=
    second.goesOn (.ends (by decide +kernel))
  have third : Polls Supervisor.plainSettings 0 thermometer _ thirdTick.after :=
    ended.goesOn (.ticks (by decide +kernel))
  exact third.goesOn (.disarms nofun (.refl 0 _) (.refl 0 _))

/-- The second tick issues no read, because the first read has not ended. -/
theorem disciplined_thermometer : Disciplined 0 thermometer thermometerPast
      thermometerDisarmed.after ∧ Punctual (thermometerPast.map Callback.beat) ∧
    thermometerPast.map (·.after.loop.issued 0) = [[], [.temperature], [.temperature],
      [.temperature], [.temperature], [.temperature, .temperature],
      [.temperature, .temperature]] ∧
    thermometerPast.map (·.after.loop.pendingTicks 0) = [[0], [1], [1], [2], [2], [3], []] :=
  ⟨thermometer_polls.disciplined, by decide +kernel, by decide +kernel, by decide +kernel⟩

end Link

end SensorLink
