/-
# Driving a session by hand

A session is driven by running everything that is ready and then letting time pass
to the next end that is due.  This is a course in which nothing happens but what the
clock brings.  It comes to an end, since every end that is taken up leaves less to be
taken up: the end of connecting may lead to another one, and counts twice.
-/

import SensorLink.Proofs.Bench.Deadlines

namespace SensorLink.Bench

open Gatt (Call Ending)

/-- Whether a happening is brought by the clock. -/
def Happening.isClock : Happening → Bool
  | settled | passes _ => true
  | _ => false

namespace SessionBench

variable {b b' b'' : SessionBench} {call : Call} {limit : Limit}

/-- A course in which nothing happens but what the clock brings. -/
def Elapses (b b' : SessionBench) : Prop :=
  ∃ hs, Course b hs b' ∧ ∀ h ∈ hs, h.isClock = true

theorem Elapses.refl (b : SessionBench) : Elapses b b :=
  ⟨[], .start, fun _ mem => nomatch mem⟩

theorem Elapses.trans (first : Elapses b b') (second : Elapses b' b'') : Elapses b b'' := by
  obtain ⟨hs, course, clock⟩ := first
  obtain ⟨hs', course', clock'⟩ := second
  exact ⟨hs ++ hs', course.append course', fun h mem =>
    (List.mem_append.mp mem).elim (clock h) (clock' h)⟩

/-- What the clock brings next. -/
theorem Elapses.single {h : Happening} (possible : b.Possible h) (clock : h.isClock = true) :
    Elapses b (b.undergo h) :=
  ⟨[h], .next .start possible, fun _ mem => List.mem_singleton.mp mem ▸ clock⟩

theorem Elapses.sound (elapses : Elapses b b') (sound : Sound b) : Sound b' := by
  obtain ⟨hs, course, -⟩ := elapses
  exact course.sound sound

/-- The clock does not touch the client's script. -/
theorem Sound.script_clock (sound : Sound b) {h : Happening} (clock : h.isClock = true) :
    (b.undergo h).client.script = b.client.script := by
  cases h with
  | settled =>
    cases ready : b.clock.ready with
    | nil => rw [undergo_settled_nil ready]
    | cons a rest =>
      obtain ⟨-, -, -, -, real⟩ := sound.popped ready
      rw [undergo_settled ready]
      rcases settle_cases (b.popped rest) real with
        ⟨-, result, -, -, script, -⟩ | ⟨-, b', -, script, -, settled⟩
      · exact script
      · rw [settled, (b'.startCall_terms ..).2.2.2.1, script]
        rfl
  | passes time => rfl
  | _ => cases clock

theorem Course.script_clock {hs : List Happening} (course : Course b hs b') (sound : Sound b)
    (clock : ∀ h ∈ hs, h.isClock = true) : b'.client.script = b.client.script := by
  induction course with
  | start => rfl
  | @next hs c h before _ ih =>
    rw [(before.sound sound).script_clock
      (clock h (List.mem_append_right _ (List.mem_singleton_self h)))]
    exact ih fun h mem => clock h (List.mem_append_left _ mem)

/-- Whoever waits for an end after what the clock brings has waited for one before. -/
theorem Sound.waits_clock (sound : Sound b) {h : Happening} (clock : h.isClock = true)
    {a : Awaited} (waits : a ∈ (b.undergo h).pending) :
    ∃ a' ∈ b.pending, a'.operation = a.operation := by
  cases h with
  | settled =>
    cases ready : b.clock.ready with
    | nil =>
      rw [undergo_settled_nil ready] at waits
      exact ⟨a, waits, rfl⟩
    | cons first rest =>
      obtain ⟨-, -, -, -, real⟩ := sound.popped ready
      have pending : b.pending = first :: (b.popped rest).pending := by
        rw [SessionBench.pending, ready]; rfl
      rw [undergo_settled ready] at waits
      rw [pending]
      rcases settle_cases (b.popped rest) real with
        ⟨-, result, -, work, -⟩ | ⟨-, b', work, -, -, settled⟩
      · rw [SessionBench.pending, work.clock] at waits
        exact ⟨a, List.mem_cons_of_mem _ waits, rfl⟩
      · have kept : b'.pending = (b.popped rest).pending := by
          rw [SessionBench.pending, work.clock]; rfl
        rw [settled] at waits
        rcases b'.pending_startCall first.operation .pair with more | same
        · rcases List.mem_cons.mp (more.mem_iff.mp waits) with rfl | earlier
          · exact ⟨first, List.mem_cons_self, rfl⟩
          · exact ⟨a, List.mem_cons_of_mem _ (kept ▸ earlier), rfl⟩
        · exact ⟨a, List.mem_cons_of_mem _ (kept ▸ same ▸ waits), rfl⟩
  | passes time => exact ⟨a, (pending_moveTo time).mem_iff.mp waits, rfl⟩
  | _ => cases clock

theorem Elapses.waits (elapses : Elapses b b') (sound : Sound b) {a : Awaited}
    (waits : a ∈ b'.pending) : ∃ a' ∈ b.pending, a'.operation = a.operation := by
  obtain ⟨hs, course, clock⟩ := elapses
  induction course generalizing a with
  | start => exact ⟨a, waits, rfl⟩
  | @next hs c h before _ ih =>
    have last := clock h (List.mem_append_right _ (List.mem_singleton_self h))
    obtain ⟨a', mem, same⟩ := (before.sound sound).waits_clock last waits
    obtain ⟨a'', mem', same'⟩ := ih mem fun h mem => clock h (List.mem_append_left _ mem)
    exact ⟨a'', mem', same'.trans same⟩

/-- How many ends can still be taken up; the end of connecting may lead to another one. -/
def load (b : SessionBench) : Nat :=
  b.pending.length + b.pending.countP (·.call = .connect)

/-- One more end that is pending. -/
theorem load_of_perm {a : Awaited} (more : b'.pending.Perm (a :: b.pending)) :
    b'.load = b.load + if a.call = .connect then 2 else 1 := by
  rw [load, more.length_eq, more.countP_eq, load, List.length_cons, List.countP_cons]
  by_cases connect : a.call = .connect
  · simp only [connect, decide_true, if_true]
    omega
  · simp only [connect, decide_false, Bool.false_eq_true, if_false]
    omega

theorem load_startCall (b : SessionBench) (n : Nat) (call : Call) :
    (b.startCall n call).load ≤ b.load + if call = .connect then 2 else 1 := by
  rcases b.pending_startCall n call with more | same
  · exact Nat.le_of_eq (load_of_perm more)
  · rw [load, same]
    exact Nat.le_add_right ..

theorem load_of_clock (same : b'.clock = b.clock) : b'.load = b.load := by
  rw [load, pending, same]; rfl

/-- Taking up an end leaves less, and time stands still. -/
theorem Sound.load_settled (sound : Sound b) {a : Awaited} {rest : List Awaited}
    (ready : b.clock.ready = a :: rest) :
    (b.undergo .settled).load < b.load ∧ (b.undergo .settled).clock.now = b.clock.now := by
  obtain ⟨-, -, -, -, real⟩ := sound.popped ready
  have before : b.load = (b.popped rest).load + if a.call = .connect then 2 else 1 := by
    apply load_of_perm
    rw [pending, ready]
    exact .refl _
  rw [undergo_settled ready, before]
  refine ⟨?_, (settle_holds real).now⟩
  rcases settle_cases (b.popped rest) real with
    ⟨-, result, -, work, -⟩ | ⟨⟨connect, -⟩, b', work, -, -, settled⟩
  · rw [load_of_clock (b := b.popped rest) work.clock]
    split <;> omega
  · have more := b'.load_startCall a.operation .pair
    rw [load_of_clock work.clock, if_neg (by decide)] at more
    rw [settled, if_pos connect]
    omega

/-- When everything that was ready has run, time passes to the next end that is due by a deadline,
or else to the deadline. -/
theorem Sound.passes (sound : Sound b) (quiet : b.clock.ready = []) {deadline : Nat}
    (ahead : b.clock.now ≤ deadline) :
    (∃ due ≤ deadline, b.clock.nextBy? (some deadline) = some due ∧ b.Possible (.passes due) ∧
      (b.undergo (.passes due)).clock.now = due ∧
      (b.undergo (.passes due)).clock.ready ≠ []) ∨
    b.clock.nextBy? (some deadline) = none ∧ b.Possible (.passes deadline) ∧
      (b.undergo (.passes deadline)).Past deadline := by
  cases next : b.clock.nextBy? (some deadline) with
  | some due =>
    obtain ⟨⟨w, mem, rfl⟩, least, within⟩ := Clock.nextBy?_eq_some_iff.mp next
    have later := sound.timely w mem
    refine .inl ⟨w.1, within, rfl, ⟨quiet, later, least⟩, Nat.max_eq_right later, ?_⟩
    have here : w ∈ b.clock.waiting.filter fun (t, _) => t ≤ w.1 :=
      List.mem_filter.mpr ⟨mem, decide_eq_true (Nat.le_refl _)⟩
    exact List.ne_nil_of_mem (List.mem_append_right _ (List.mem_map_of_mem here))
  | none =>
    have later := Clock.nextBy?_eq_none_iff.mp next
    refine .inr ⟨rfl, ⟨quiet, ahead, fun w mem => Nat.le_of_lt (later w mem)⟩,
      Nat.le_max_right .., fun _ => ⟨?_, fun w mem => later w (List.mem_of_mem_filter mem)⟩⟩
    have nothing : (b.clock.waiting.filter fun (t, _) => t ≤ deadline) = [] :=
      List.filter_eq_nil_iff.mpr fun w mem => by simpa using later w mem
    change b.clock.ready ++ _ = []
    rw [quiet, nothing]
    rfl

theorem load_passes (b : SessionBench) (time : Nat) : (b.undergo (.passes time)).load = b.load := by
  have same : (b.undergo (.passes time)).pending.Perm b.pending := pending_moveTo time
  rw [load, same.length_eq, same.countP_eq, load]

/-- Time gets past every time, whatever is pending. -/
theorem Sound.exists_past (sound : Sound b) (time : Nat) : ∃ b', Elapses b b' ∧ b'.Past time := by
  induction size : b.load using Nat.strongRecOn generalizing b with
  | ind size' ih =>
    subst size
    have settles {c : SessionBench} (sound : Sound c) (busy : c.clock.ready ≠ [])
        (less : c.load ≤ b.load) : ∃ b', Elapses c b' ∧ b'.Past time := by
      obtain ⟨a, rest, ready⟩ := List.exists_cons_of_ne_nil busy
      have fewer := Nat.lt_of_lt_of_le (sound.load_settled ready).1 less
      obtain ⟨b', elapses, past⟩ := ih _ fewer (sound.undergo (h := .settled) trivial) rfl
      exact ⟨b', .trans (.single (h := .settled) trivial rfl) elapses, past⟩
    by_cases busy : b.clock.ready = []
    · rcases sound.passes busy (Nat.le_max_left b.clock.now time) with
        ⟨due, -, -, possible, -, ready⟩ | ⟨-, possible, past⟩
      · have less := Nat.le_of_eq (b.load_passes due)
        obtain ⟨b', elapses, past⟩ := settles (sound.undergo possible) ready less
        exact ⟨b', .trans (.single possible rfl) elapses, past⟩
      · exact ⟨_, .single possible rfl, past.mono (Nat.le_max_right ..)⟩
    · exact settles sound busy (Nat.le_refl _)

/-- A session has run everything that was ready. -/
structure Drained (b b' : SessionBench) : Prop where
  elapses : Elapses b b'
  quiet : b'.clock.ready = []
  now : b'.clock.now = b.clock.now
  load : b'.load ≤ b.load
  fewer : b.clock.ready ≠ [] → b'.load < b.load

/-- Running everything that is ready, with fuel for all that is left. -/
theorem Sound.drain (sound : Sound b) {fuel : Nat} (enough : b.load ≤ fuel) :
    Drained b (b.drain fuel) := by
  induction fuel generalizing b with
  | zero =>
    have none : b.pending = [] := by
      rw [SessionBench.load] at enough
      exact List.length_eq_zero_iff.mp (by omega)
    have quiet := (List.append_eq_nil_iff.mp none).1
    exact ⟨.refl b, quiet, rfl, Nat.le_refl _, fun busy => absurd quiet busy⟩
  | succ fuel ih =>
    cases ready : b.clock.ready with
    | nil =>
      have stands : b.drain (fuel + 1) = b := by rw [SessionBench.drain, ready]
      rw [stands]
      exact ⟨.refl b, ready, rfl, Nat.le_refl _, fun busy => absurd ready busy⟩
    | cons a rest =>
      have runs : b.drain (fuel + 1) = (b.undergo .settled).drain fuel := by
        rw [SessionBench.drain, ready, undergo_settled ready]; rfl
      obtain ⟨less, now⟩ := sound.load_settled ready
      have later := ih (sound.undergo (h := .settled) trivial)
        (Nat.le_of_lt_succ (Nat.lt_of_lt_of_le less enough))
      have fewer := Nat.lt_of_le_of_lt later.load less
      rw [runs]
      exact ⟨.trans (.single (h := .settled) trivial rfl) later.elapses, later.quiet,
        later.now.trans now, Nat.le_of_lt fewer, fun _ => fewer⟩

/-- Letting time pass until a condition holds or a deadline is past. -/
theorem Sound.moveUntil (sound : Sound b) (stop : SessionBench → Bool) (deadline fuel : Nat)
    (quiet : b.clock.ready = []) (ahead : b.clock.now ≤ deadline) (small : b.load ≤ drainFuel)
    (enough : b.load < fuel) :
    Elapses b (moveUntil stop deadline fuel b) ∧
      (stop (moveUntil stop deadline fuel b) = true ∨
        (moveUntil stop deadline fuel b).Past deadline) := by
  induction fuel generalizing b with
  | zero => cases enough
  | succ fuel ih =>
    unfold SessionBench.moveUntil
    split
    · rename_i stops
      exact ⟨.refl b, .inl stops⟩
    · rcases sound.passes quiet ahead with
        ⟨due, within, next, possible, now, busy⟩ | ⟨next, possible, past⟩
      · have same := b.load_passes due
        have drained := (sound.undergo possible).drain (Nat.le_trans (Nat.le_of_eq same) small)
        have fewer : _ < b.load := same ▸ drained.fewer busy
        have now' := drained.now.trans now
        obtain ⟨elapses, ends⟩ := ih (drained.elapses.sound (sound.undergo possible)) drained.quiet
          (now'.symm ▸ within) (Nat.le_trans (Nat.le_of_lt fewer) small)
          (Nat.lt_of_lt_of_le fewer (Nat.le_of_lt_succ enough))
        rw [next]
        exact ⟨.trans (.single possible rfl) (.trans drained.elapses elapses), ends⟩
      · rw [next]
        exact ⟨.single possible rfl, .inr past⟩

/-- The session after an operation was begun and waited for. -/
def waited (b : SessionBench) (call : Call) : SessionBench :=
  let c := (b.undergo (.begins call)).drain drainFuel
  c.moveUntil (fun c => (c.result? b.operations).isSome) (c.clock.now + patience) moveFuel

/-- An operation that is waited for has the result with which the waiting ends. -/
theorem perform_of_result (kept : b.released = false) {result : Except Failure (List UInt8)}
    (ended : (b.waited call).result? b.operations = some result) :
    b.perform call = (b.waited call, some result) := by
  have ready : b.refusal? call.label = none := if_neg (kept ▸ Bool.false_ne_true)
  rw [SessionBench.perform, ready]
  unfold waited at ended ⊢
  simp only [undergo, opened] at ended ⊢
  simp only [SessionBench.run, ended]

/-- An operation has ended as expected when it has a result or is too late for one, if nothing
happened but what the clock brings. -/
theorem Elapses.ends (elapses : Elapses (b.undergo (.begins call)) b') (sound : Sound b)
    (possible : b.Possible (.begins call)) (guarded : b.limits.of call = some limit.seconds)
    (concluded : (b'.result? b.operations).isSome = true ∨
      b'.Past (b.clock.now + b.span limit call)) :
    b'.result? b.operations = some (b.expected limit call b.client.script.pair) := by
  obtain ⟨hs, course, clock⟩ := elapses
  have stays : ∀ h ∈ hs, h ≠ .cancelled b.operations := by
    rintro h mem rfl
    cases clock _ mem
  have some : (b'.result? b.operations).isSome = true :=
    concluded.elim id fun past =>
      (course.ends_within sound possible guarded stays).resolve_left fun inTime => inTime.2 past
  have open' {time : Nat} : ¬b'.InTime b.operations time := fun inTime => by
    rw [inTime.1] at some
    cases some
  rcases course.ends sound possible guarded stays with
    inTime | ⟨c, later, taken, -, ⟨-, inTime⟩ | ended⟩
  · exact absurd inTime open'
  · exact absurd inTime open'
  · obtain ⟨earlier, rfl, before⟩ := taken.before
    have script := before.script_clock (sound.undergo possible) fun h mem =>
      clock h (List.mem_append_left _ mem)
    rw [ended, script]
    exact congrArg (fun s : Script => Option.some (b.expected limit call s.pair))
      (b.opened.startCall_terms b.operations call).2.2.2.1

/-- An operation of a session with nothing pending leaves nothing pending. -/
theorem Elapses.idle (elapses : Elapses (b.undergo (.begins call)) b') (sound : Sound b)
    (possible : b.Possible (.begins call)) (idle : b.pending = [])
    {result : Except Failure (List UInt8)} (ended : b'.result? b.operations = some result) :
    b'.pending = [] := by
  have sound₀ := sound.undergo possible
  refine List.eq_nil_iff_forall_not_mem.mpr fun a mem => ?_
  obtain ⟨a', mem', same⟩ := elapses.waits sound₀ mem
  have own : a'.operation = b.operations := by
    have nothing : b.opened.pending = [] := idle
    rcases b.opened.pending_startCall b.operations call with more | none
    · rw [nothing] at more
      rw [List.mem_singleton.mp (more.mem_iff.mp mem')]
      rfl
    · have mem'' : a' ∈ b.opened.pending := none ▸ mem'
      rw [nothing] at mem''
      cases mem''
  have open' := ((elapses.sound sound₀).known a mem).2
  rw [← same, own, ended] at open'
  cases open'

/-- An operation of a session with nothing pending ends as expected if it is waited for long enough,
and leaves nothing pending. -/
theorem Sound.perform (sound : Sound b) (idle : b.pending = [])
    (possible : b.Possible (.begins call)) (guarded : b.limits.of call = some limit.seconds)
    (patient : b.span limit call ≤ patience) :
    Elapses (b.undergo (.begins call)) (b.perform call).1 ∧
      (b.perform call).2 = some (b.expected limit call b.client.script.pair) ∧
      (b.perform call).1.pending = [] := by
  have sound₀ := sound.undergo possible
  let begun := b.undergo (.begins call)
  have now : begun.clock.now = b.clock.now := (b.opened.startCall_holds b.operations call).now
  have load : begun.load ≤ 2 := by
    have more := b.opened.load_startCall b.operations call
    have nothing : b.opened.load = 0 := by
      rw [SessionBench.load, show b.opened.pending = [] from idle]
      rfl
    rw [nothing] at more
    exact Nat.le_trans more (by split <;> decide)
  have drained : Drained begun (begun.drain drainFuel) :=
    sound₀.drain (Nat.le_trans load (by decide))
  obtain ⟨moves, stops⟩ := (drained.elapses.sound sound₀).moveUntil
    (fun c => (c.result? b.operations).isSome) _ moveFuel drained.quiet
    (Nat.le_add_right _ patience) (Nat.le_trans drained.load (Nat.le_trans load (by decide)))
    (Nat.lt_of_le_of_lt drained.load (Nat.lt_of_le_of_lt load (by decide)))
  have elapses := drained.elapses.trans moves
  have ended := elapses.ends sound possible guarded <| stops.imp_right fun past =>
    past.mono (by rw [drained.now, now]; exact Nat.add_le_add_left patient _)
  rw [perform_of_result possible.1 ended]
  exact ⟨elapses, rfl, elapses.idle sound possible idle ended⟩

end SessionBench

end SensorLink.Bench
