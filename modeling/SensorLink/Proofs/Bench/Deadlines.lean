/-
# Deadlines of a session's operations

A call that is guarded by a limit ends with what the client makes of it, if that
comes before the limit and is no time-out, and otherwise with a failure of the
link at the limit.  So does an operation, which is one call or, for a connection
with a security level above low, two calls in a row.

An end is pending from the start of its call.  It is taken up at the time at which
it is due, since time does not pass it by; this is what ties the time of an
operation to the limits.
-/

import SensorLink.Proofs.Bench.Course

namespace SensorLink.Bench

open Gatt (Call Ending)

/-- Whether a call with an outcome ends before a time, counted from its start. -/
def Outcome.endsBefore (o : Outcome) (cutoff : Nat) : Bool :=
  !o.hangs && o.delay.all fun span => span.any (· < cutoff)

/-- A limit that comes: its seconds and its microseconds. -/
structure Limit where
  seconds : Float
  cutoff : Nat
  rounded : Gatt.microseconds seconds = some cutoff

namespace Limit

variable (limit : Limit)

/-- The failure of a call whose limit is up. -/
def overdue (call : Call) : Failure :=
  .timedOut call.label (Decimal.fixed 1 limit.seconds)

/-- What comes of a call with an outcome: its own result or failure if it ends before the limit with
anything but a time-out, and else a failure of the link.  A limit of no time ends a call at once. -/
def verdict (call : Call) (o : Outcome) : Except Failure (List UInt8) :=
  if limit.seconds ≤ 0 ∨ o.endsBefore limit.cutoff = false then .error (limit.overdue call)
  else
    match o.failure with
    | none => .ok o.payload
    | some f => .error (if f.kind = .timeout then limit.overdue call else f)

/-- How a call under the limit is settled: its ending gives the verdict, no later than the limit. -/
theorem settle_spec (call : Call) (o : Outcome) (positive : ¬limit.seconds ≤ 0) :
    (o.alone.within (some limit.seconds)).ending.result? call
        (some (Decimal.fixed 1 limit.seconds)) = some (limit.verdict call o) ∧
      ((o.alone.within (some limit.seconds)).after = none ∨
        ∃ d ≤ limit.cutoff, (o.alone.within (some limit.seconds)).after = some (some d)) := by
  have own : o.ending.result? call (some (Decimal.fixed 1 limit.seconds)) =
      some (match o.failure with
        | none => .ok o.payload
        | some f => .error (if f.kind = .timeout then limit.overdue call else f)) := by
    unfold Outcome.ending
    cases o.failure <;> rfl
  unfold Outcome.alone Gatt.Settlement.within verdict Outcome.endsBefore
  simp only [Option.bind_some, limit.rounded, positive, false_or]
  cases hangs : o.hangs with
  | true => exact ⟨rfl, .inr ⟨_, Nat.le_refl _, rfl⟩⟩
  | false =>
    cases delay : o.delay with
    | none => exact ⟨own, .inl rfl⟩
    | some span =>
      cases span with
      | none => exact ⟨rfl, .inr ⟨_, Nat.le_refl _, rfl⟩⟩
      | some d =>
        by_cases early : d < limit.cutoff
        · refine ⟨by simpa [early] using own, .inr ⟨d, Nat.le_of_lt early, by simp [early]⟩⟩
        · refine ⟨by simp [early, Ending.result?, overdue], .inr ⟨_, Nat.le_refl _, ?_⟩⟩
          simp [early]

end Limit

namespace SessionBench

variable {b b' : SessionBench} {call : Call} {limit : Limit}

/-- How a call that starts now will end. -/
theorem foresee_spec (guarded : b.limits.of call = some limit.seconds) :
    (b.foresee call).ending.result? call (b.limitText call) =
        some (limit.verdict call (b.client.outcomeOf call)) ∧
      ((b.foresee call).after = none ∨
        ∃ d ≤ limit.cutoff, (b.foresee call).after = some (some d)) := by
  have allows : b.allows call = !decide (limit.seconds ≤ 0) := by
    rw [Gatt.Session.allows, guarded]
    rfl
  rw [foresee, Gatt.Session.limitText, Gatt.Session.settle, allows, guarded]
  by_cases positive : limit.seconds ≤ 0
  · have none : ¬(!decide (limit.seconds ≤ 0)) = true := by simpa using positive
    rw [if_neg none, Limit.verdict, if_pos (.inl positive)]
    exact ⟨rfl, .inl rfl⟩
  · have some : (!decide (limit.seconds ≤ 0)) = true := by simpa using positive
    rw [if_pos some]
    exact limit.settle_spec call _ positive

/-- An end comes at a time: it waits for that time, or it is ready and this is the time. -/
def Awaits (b : SessionBench) (a : Awaited) (due : Nat) : Prop :=
  (due, a) ∈ b.clock.waiting ∨ a ∈ b.clock.ready ∧ b.clock.now = due

/-- A clock holds what another held, at the same time. -/
structure Holds (b b' : SessionBench) : Prop where
  now : b'.clock.now = b.clock.now
  ready : b.clock.ready ⊆ b'.clock.ready
  waiting : b.clock.waiting ⊆ b'.clock.waiting

theorem Holds.awaits (holds : Holds b b') {a : Awaited} {due : Nat} (awaits : b.Awaits a due) :
    b'.Awaits a due :=
  awaits.imp (@holds.waiting _) fun ⟨mem, now⟩ => ⟨holds.ready mem, holds.now.trans now⟩

theorem Holds.of_clock (same : b'.clock = b.clock) : Holds b b' := by
  refine ⟨?_, ?_, ?_⟩ <;> rw [same]
  · exact fun _ mem => mem
  · exact fun _ mem => mem

theorem startCall_holds (b : SessionBench) (n : Nat) (call : Call) :
    Holds b (b.startCall n call) := by
  constructor <;> rw [clock_startCall] <;> rcases (b.foresee call).after with _ | _ | d
  · rfl
  · rfl
  · rfl
  · exact List.subset_append_left ..
  · exact fun _ mem => mem
  · exact fun _ mem => mem
  · exact fun _ mem => mem
  · exact fun _ mem => mem
  · exact List.subset_append_left ..

theorem settle_holds {a : Awaited} (real : a.ending ≠ .cancelled) : Holds b (b.settle a) := by
  rcases b.settle_cases real with ⟨-, result, -, work, -⟩ | ⟨-, b', work, -, -, settled⟩
  · exact .of_clock work.clock
  · have holds := b'.startCall_holds a.operation .pair
    rw [settled]
    constructor
    · rw [holds.now, work.clock]
    · rw [← work.clock]
      exact holds.ready
    · rw [← work.clock]
      exact holds.waiting

/-- The end of a call that starts now comes no later than its limit. -/
theorem exists_awaits_startCall (n : Nat) (guarded : b.limits.of call = some limit.seconds) :
    ∃ due ≤ b.clock.now + limit.cutoff, (b.startCall n call).Awaits (b.awaited n call) due := by
  unfold Awaits
  rw [clock_startCall]
  rcases (foresee_spec guarded).2 with none | ⟨d, within, some⟩
  · refine ⟨b.clock.now, Nat.le_add_right .., .inr ?_⟩
    rw [none]
    exact ⟨List.mem_append_right _ (List.mem_singleton_self _), rfl⟩
  · refine ⟨b.clock.now + d, Nat.add_le_add_left within _, .inl ?_⟩
    rw [some]
    exact List.mem_append_right _ (List.mem_singleton_self _)

/-- An end stays pending until it is taken up at its time, unless its operation is cancelled. -/
theorem Awaits.undergo {a : Awaited} {due : Nat} (awaits : b.Awaits a due) (sound : Sound b)
    {h : Happening} (possible : b.Possible h) (stays : h ≠ .cancelled a.operation) :
    (b.undergo h).Awaits a due ∨
      h = .settled ∧ b.clock.now = due ∧ ∃ rest, b.clock.ready = a :: rest := by
  cases h with
  | begins call =>
    have opened : b.opened.Awaits a due := awaits
    exact .inl ((b.opened.startCall_holds b.operations call).awaits opened)
  | settled =>
    cases ready : b.clock.ready with
    | nil =>
      rw [undergo_settled_nil ready]
      exact .inl awaits
    | cons first rest =>
      obtain ⟨-, -, -, -, real⟩ := sound.popped ready
      rw [undergo_settled ready]
      rcases awaits with waits | ⟨mem, now⟩
      · exact .inl ((settle_holds real).awaits (b := b.popped rest) (.inl waits))
      · rw [ready] at mem
        rcases List.mem_cons.mp mem with rfl | later
        · exact .inr ⟨rfl, now, rest, rfl⟩
        · exact .inl ((settle_holds real).awaits (b := b.popped rest) (.inr ⟨later, now⟩))
  | passes time =>
    obtain ⟨nothing, later, ahead⟩ := possible
    left
    rcases awaits with waits | ⟨mem, -⟩
    · by_cases reached : due ≤ time
      · refine .inr ⟨List.mem_append_right _ (List.mem_map.mpr ⟨(due, a), ?_, rfl⟩), ?_⟩
        · exact List.mem_filter.mpr ⟨waits, decide_eq_true reached⟩
        · exact (Nat.max_eq_right later).trans (Nat.le_antisymm (ahead _ waits) reached)
      · exact .inl (List.mem_filter.mpr ⟨waits, by simpa using reached⟩)
    · rw [nothing] at mem
      cases mem
  | cancelled n =>
    have other : a.operation ≠ n := by
      rintro rfl
      exact stays rfl
    exact .inl (awaits.imp (fun waits => List.mem_filter.mpr ⟨waits, by simpa using other⟩)
      fun ⟨mem, now⟩ => ⟨List.mem_filter.mpr ⟨mem, by simpa using other⟩, now⟩)
  | released | linkDropped | rescripted | delivered | treeTouched | linkChecked | asked =>
    exact .inl ((Holds.of_clock (b.undergo_work rfl).clock).awaits awaits)

/-- Along a course an end is taken up, in a state and with happenings to follow. -/
structure TakesUp (b : SessionBench) (hs : List Happening) (a : Awaited) (c : SessionBench)
    (later : List Happening) : Prop where
  ready : ∃ rest, c.clock.ready = a :: rest
  before : ∃ earlier, hs = earlier ++ .settled :: later ∧ Course b earlier c

/-- So it is along a course. -/
theorem Course.awaits {hs : List Happening} (course : Course b hs b') (sound : Sound b)
    {a : Awaited} {due : Nat} (awaits : b.Awaits a due)
    (stays : ∀ h ∈ hs, h ≠ .cancelled a.operation) :
    b'.Awaits a due ∨ ∃ c later, TakesUp b hs a c later ∧ c.clock.now = due ∧
      Course (c.undergo .settled) later b' := by
  induction course with
  | start => exact .inl awaits
  | @next hs c h before possible ih =>
    rcases ih fun h mem => stays h (List.mem_append_left _ mem) with still | taken
    · have last := stays h (List.mem_append_right _ (List.mem_singleton_self h))
      rcases still.undergo (before.sound sound) possible last with still | ⟨rfl, now, ready⟩
      · exact .inl still
      · exact .inr ⟨c, [], ⟨ready, hs, rfl, before⟩, now, .start⟩
    · obtain ⟨c', later, ⟨ready, earlier, rfl, before'⟩, now, after⟩ := taken
      exact .inr ⟨c', later ++ [h], ⟨ready, earlier, by simp, before'⟩, now, .next after possible⟩

/-- All that was due by a time is done. -/
def Past (b : SessionBench) (time : Nat) : Prop :=
  time ≤ b.clock.now ∧
    (b.clock.now = time → b.clock.ready = [] ∧ ∀ w ∈ b.clock.waiting, time < w.1)

theorem Past.mono {time later : Nat} (past : b.Past later) (earlier : time ≤ later) :
    b.Past time := by
  refine ⟨Nat.le_trans earlier past.1, fun now => ?_⟩
  have same := Nat.le_antisymm earlier (now ▸ past.1)
  rw [same] at now ⊢
  exact past.2 now

/-- An end that is still pending is not overdue. -/
theorem Awaits.not_past {a : Awaited} {due time : Nat} (awaits : b.Awaits a due) (sound : Sound b)
    (within : due ≤ time) : ¬b.Past time := by
  rintro ⟨reached, done⟩
  rcases awaits with waits | ⟨mem, now⟩
  · have now := Nat.le_antisymm (Nat.le_trans (sound.timely _ waits) within) reached
    exact absurd ((done now).2 _ waits) (Nat.not_lt.mpr within)
  · have same := Nat.le_antisymm (now ▸ within) reached
    rw [(done same).1] at mem
    cases mem

theorem Awaits.mem_pending {a : Awaited} {due : Nat} (awaits : b.Awaits a due) :
    a ∈ b.pending := by
  rcases awaits with waits | ⟨mem, -⟩
  · exact List.mem_append_right _ (List.mem_map.mpr ⟨_, waits, rfl⟩)
  · exact List.mem_append_left _ mem

/-- Whether an operation that begins with a call goes on to pairing after it. -/
def Pairs (b : SessionBench) (call : Call) : Prop :=
  call = .connect ∧ b.security ≠ "low"

instance (b : SessionBench) (call : Call) : Decidable (b.Pairs call) :=
  inferInstanceAs (Decidable (_ ∧ _))

/-- An operation has no result yet, and it is not too late for one. -/
def InTime (b : SessionBench) (n time : Nat) : Prop :=
  b.result? n = none ∧ ¬b.Past time

theorem InTime.mono {n time later : Nat} (inTime : b.InTime n time) (earlier : time ≤ later) :
    b.InTime n later :=
  ⟨inTime.1, fun past => inTime.2 (past.mono earlier)⟩

/-- When the end of a call is taken up, its operation ends with the verdict of the call or goes on
to pairing. -/
theorem Sound.settled_awaited {c : SessionBench} {n : Nat} {rest : List Awaited} (sound : Sound c)
    (terms : SameTerms b c) (guarded : b.limits.of call = some limit.seconds)
    (ready : c.clock.ready = b.awaited n call :: rest) :
    (b.Pairs call → ∃ f, limit.verdict call (b.client.outcomeOf call) = .error f) ∧
        (c.undergo .settled).result? n = some (limit.verdict call (b.client.outcomeOf call)) ∨
      b.Pairs call ∧ (∃ payload, limit.verdict call (b.client.outcomeOf call) = .ok payload) ∧
        ∃ c', SameTerms b c' ∧ c'.client.script = c.client.script ∧
          c'.clock.now = c.clock.now ∧ c.undergo .settled = c'.startCall n .pair := by
  have spec := (foresee_spec guarded).1
  obtain ⟨-, -, -, -, real⟩ := sound.popped ready
  have text : (c.popped rest).limitText call = b.limitText call := by
    unfold Gatt.Session.limitText
    rw [← terms.limits]
    rfl
  rw [undergo_settled ready]
  rcases settle_cases (c.popped rest) real with
    ⟨stops, result, ended, work, -⟩ |
    ⟨⟨same, ⟨payload, returned⟩, high⟩, c', work, script, -, starts⟩
  · left
    have own : result = limit.verdict call (b.client.outcomeOf call) := by
      refine Option.some.inj (ended.symm.trans ?_)
      rw [← spec, ← text]
      rfl
    refine ⟨fun pairs => ?_, ?_⟩
    · cases verdict : limit.verdict call (b.client.outcomeOf call) with
      | error f => exact ⟨f, rfl⟩
      | ok payload =>
        rw [verdict] at spec
        refine absurd ⟨pairs.1, ⟨payload, Ending.result?_eq_ok_iff.mp spec⟩, ?_⟩ stops
        exact fun low => pairs.2 (terms.security.symm.trans low)
    · rw [result?, work.results, ← own]
      exact List.lookup_cons_self
  · right
    have ending : (b.foresee call).ending = .returned payload := returned
    rw [ending] at spec
    have now : c'.clock.now = c.clock.now := by
      rw [work.clock]
      rfl
    exact ⟨⟨same, terms.security ▸ high⟩, ⟨payload, (Option.some.inj spec).symm⟩, c',
      ⟨work.limits.trans terms.limits, work.security.trans terms.security,
        work.address.trans terms.address⟩, script, now, starts⟩

/-- An operation that started a call is still in time.  Otherwise the end of the call was taken up,
and the operation has the verdict of the call as its result or went on to pairing. -/
theorem Course.after_startCall {n : Nat} {hs : List Happening}
    (course : Course (b.startCall n call) hs b') (sound : Sound (b.startCall n call))
    (guarded : b.limits.of call = some limit.seconds) (stays : ∀ h ∈ hs, h ≠ .cancelled n) :
    b'.InTime n (b.clock.now + limit.cutoff) ∨
      ∃ c later, TakesUp (b.startCall n call) hs (b.awaited n call) c later ∧
        c.clock.now ≤ b.clock.now + limit.cutoff ∧
        ((b.Pairs call → ∃ f, limit.verdict call (b.client.outcomeOf call) = .error f) ∧
            b'.result? n = some (limit.verdict call (b.client.outcomeOf call)) ∨
          b.Pairs call ∧ (∃ payload, limit.verdict call (b.client.outcomeOf call) = .ok payload) ∧
            ∃ c', SameTerms b c' ∧ c'.client.script = c.client.script ∧
              c'.clock.now = c.clock.now ∧ Sound (c'.startCall n .pair) ∧
              Course (c'.startCall n .pair) later b') := by
  obtain ⟨due, within, awaits⟩ := exists_awaits_startCall n guarded
  rcases course.awaits sound awaits stays with still | ⟨c, later, taken, now, after⟩
  · have nothing := ((course.sound sound).known _ still.mem_pending).2
    exact .inl ⟨nothing, still.not_past (course.sound sound) within⟩
  · refine .inr ⟨c, later, taken, now ▸ within, ?_⟩
    obtain ⟨⟨rest, ready⟩, earlier, -, before⟩ := taken
    have terms : SameTerms b c := (b.startCall_terms n call).1.trans before.terms
    have settled := (before.sound sound).undergo (h := .settled) trivial
    rcases (before.sound sound).settled_awaited terms guarded ready with
      ⟨stops, ended⟩ | ⟨pairs, connected, c', terms', script, now', starts⟩
    · exact .inl ⟨stops, after.result? settled ended⟩
    · rw [starts] at after settled
      exact .inr ⟨pairs, connected, c', terms', script, now', settled, after⟩

/-- What comes of an operation that begins now: the verdict of its call, and if the security level
asks for pairing after that, the verdict of pairing with an outcome. -/
def expected (b : SessionBench) (limit : Limit) (call : Call) (pairing : Outcome) :
    Except Failure (List UInt8) :=
  match limit.verdict call (b.client.outcomeOf call) with
  | .ok payload => if b.Pairs call then limit.verdict .pair pairing else .ok payload
  | .error f => .error f

/-- Along a course an operation waits for its call in time, waits for pairing in time, or has ended
as expected, unless it is cancelled.  Pairing goes as the client has it when the end of the
operation's call is taken up. -/
theorem Course.ends {hs : List Happening} (course : Course (b.undergo (.begins call)) hs b')
    (sound : Sound b) (possible : b.Possible (.begins call))
    (guarded : b.limits.of call = some limit.seconds)
    (stays : ∀ h ∈ hs, h ≠ .cancelled b.operations) :
    b'.InTime b.operations (b.clock.now + limit.cutoff) ∨
      ∃ c later, TakesUp (b.undergo (.begins call)) hs (b.awaited b.operations call) c later ∧
        c.clock.now ≤ b.clock.now + limit.cutoff ∧
        (b.Pairs call ∧ b'.InTime b.operations (c.clock.now + limit.cutoff) ∨
          b'.result? b.operations = some (b.expected limit call c.client.script.pair)) := by
  have sound₀ := sound.undergo possible
  refine (Course.after_startCall (b := b.opened) course sound₀ guarded stays).imp_right ?_
  rintro ⟨c, later, taken, within, ended⟩
  refine ⟨c, later, taken, within, ?_⟩
  have same : b.opened.client = b.client := rfl
  rw [same] at ended
  rcases ended with ⟨fails, ended⟩ |
    ⟨pairs, ⟨payload, connected⟩, c', terms, script, now, sound', after⟩
  · right
    rw [ended, expected]
    cases verdict : limit.verdict call (b.client.outcomeOf call) with
    | error f => rfl
    | ok payload =>
      have stops : ¬b.Pairs call := fun pairs => by
        obtain ⟨f, failed⟩ := fails pairs
        rw [verdict] at failed
        cases failed
      dsimp only
      rw [if_neg stops]
  · have pairs' : b.Pairs call := pairs
    have guarded' : c'.limits.of .pair = some limit.seconds := by
      rw [terms.limits]
      obtain ⟨rfl, -⟩ := pairs'
      exact guarded
    have stays' : ∀ h ∈ later, h ≠ .cancelled b.operations := by
      obtain ⟨earlier, rfl, -⟩ := taken.before
      exact fun h mem => stays h (List.mem_append_right _ (List.mem_cons_of_mem _ mem))
    have unpaired : ¬c'.Pairs .pair := fun again => nomatch again.1
    rcases Course.after_startCall after sound' guarded' stays' with
      inTime | ⟨-, -, -, -, ⟨-, ended⟩ | ⟨again, -⟩⟩
    · exact .inl ⟨pairs', now ▸ inTime⟩
    · right
      have pairing : c'.client.outcomeOf .pair = c.client.script.pair := congrArg Script.pair script
      rw [ended, pairing, expected, connected]
      exact congrArg some (if_pos pairs').symm
    · exact absurd again unpaired

/-- How long an operation that begins now takes at most. -/
def span (b : SessionBench) (limit : Limit) (call : Call) : Nat :=
  if b.Pairs call then limit.cutoff + limit.cutoff else limit.cutoff

/-- So an operation is in time or has a result. -/
theorem Course.ends_within {hs : List Happening} (course : Course (b.undergo (.begins call)) hs b')
    (sound : Sound b) (possible : b.Possible (.begins call))
    (guarded : b.limits.of call = some limit.seconds)
    (stays : ∀ h ∈ hs, h ≠ .cancelled b.operations) :
    b'.InTime b.operations (b.clock.now + b.span limit call) ∨
      (b'.result? b.operations).isSome = true := by
  rcases course.ends sound possible guarded stays with
    inTime | ⟨c, -, -, within, ⟨pairs, inTime⟩ | ended⟩
  · refine .inl (inTime.mono (Nat.add_le_add_left ?_ _))
    unfold span
    split
    · exact Nat.le_add_right ..
    · exact Nat.le_refl _
  · refine .inl (inTime.mono ?_)
    rw [span, if_pos pairs, ← Nat.add_assoc]
    exact Nat.add_le_add_right within _
  · exact .inr (Option.isSome_of_eq_some ended)

end SessionBench

end SensorLink.Bench
