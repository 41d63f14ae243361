/-
# Answers while the store changes

An answer for programs is put together from four look-ups, first of the
connectivity and then of each kind.  The store may be used between them, so what
an answer shows was true part by part, but perhaps never as a whole.

The law says what each part is worth.  An answer contradicts itself exactly if the
store was offline at first and a value was accepted, in a connection that still
lasted, before its kind was looked up.  An answer is that of one moment if the
store changes no more than once meanwhile, and not by going offline.
-/

import SensorLink.Exposition
import SensorLink.Proofs.Store.History

namespace SensorLink.Exposition

open Sensor (Kind PerKind Reading)
open Store (AcceptedSince LastAccepted Online Operation Request)

/-- What is asked of a store up to the last look-up of an answer. -/
structure Race (ι : Type) where
  /-- What was asked before the connectivity is looked up. -/
  before : List (Request ι)
  /-- What is asked just before each kind is looked up, after all look-ups before it. -/
  gaps : PerKind (List (Request ι))

variable {ι : Type}

namespace Race

/-- What is asked between the look-ups of the connectivity and of a kind. -/
def meanwhile (r : Race ι) : Kind → List (Request ι)
  | .temperature => r.gaps.temperature
  | .pressure => r.gaps.temperature ++ r.gaps.pressure
  | .humidity => r.gaps.temperature ++ r.gaps.pressure ++ r.gaps.humidity

/-- All that was asked before a kind is looked up. -/
def upTo (r : Race ι) (kind : Kind) : List (Request ι) :=
  r.before ++ r.meanwhile kind

/-- The answer. -/
def answer (r : Race ι) : Answer :=
  .ofStores (.after r.before) ⟨.after (r.upTo .temperature), .after (r.upTo .pressure),
    .after (r.upTo .humidity)⟩

/-- The store at a moment during the look-ups. -/
def storeAt (r : Race ι) (n : Nat) : Store :=
  .after (r.before ++ (r.meanwhile .humidity).take n)

/-- An answer is as true as if it had been given at one moment. -/
structure Consistent (r : Race ι) : Prop where
  /-- No value is told together with the news that there is no connection. -/
  honest : r.answer.connected = false → ∀ kind, r.answer.values.get kind = none
  /-- All that is told was so at some moment between the first and the last look-up. -/
  momentary : ∃ n ≤ (r.meanwhile .humidity).length, r.answer = .ofStore (r.storeAt n)

/-- The store shows one thing up to some moment and one thing from then on, and it is not by going
offline that it changes in between. -/
def Calm (r : Race ι) : Prop :=
  ∃ n, (∀ m ≤ n, Answer.ofStore (r.storeAt m) = .ofStore (r.storeAt 0)) ∧
    (∀ m > n, Answer.ofStore (r.storeAt m) = .ofStore (r.storeAt (n + 1))) ∧
    (r.meanwhile .humidity)[n]?.map Request.operation ≠ some (.setConnected false)

variable (r : Race ι)

theorem values_answer (kind : Kind) :
    r.answer.values.get kind = observedValue ((Store.after (r.upTo kind)).read kind) := by
  cases kind <;> rfl

/-- A value is told if it is observed at the moment of its look-up. -/
theorem values_answer_eq_some_iff (kind : Kind) (value : Float) :
    r.answer.values.get kind = some value ↔
      ((Store.after (r.upTo kind)).read kind).observed = true ∧
        ((Store.after (r.upTo kind)).read kind).value = value := by
  rw [values_answer, observedValue]
  split <;> simp_all

theorem isSome_values_answer_iff (kind : Kind) :
    (r.answer.values.get kind).isSome = true ↔ AcceptedSince (r.upTo kind) kind := by
  have shown := (Store.shows_after (r.upTo kind)).observed kind
  rw [and_iff_right_of_imp AcceptedSince.online] at shown
  rw [values_answer, observedValue, ← shown]
  split <;> simp_all

/-- A store that is offline has to accept a write in a new connection before it shows a value. -/
theorem acceptedSince_append {before : List (Request ι)} (offline : ¬Online before) (kind : Kind)
    (later : List (Request ι)) : (Online (before ++ later) ↔ Online later) ∧
      (AcceptedSince (before ++ later) kind ↔ AcceptedSince later kind) := by
  induction later using List.reverseRecOn with
  | nil =>
    rw [List.append_nil]
    have offline' : ¬Online ([] : List (Request ι)) := by simp [Online]
    exact ⟨iff_of_false offline offline',
      iff_of_false (offline ·.online) (offline' ·.online)⟩
  | append_singleton later request ih =>
    obtain ⟨online, since⟩ := ih
    rw [← List.append_assoc, Store.online_concat, Store.online_concat, online]
    refine ⟨Iff.rfl, ?_⟩
    by_cases passes : Store.Passes later request kind
    · have passes' : Store.Passes (before ++ later) request kind :=
        fun value written => online.not.mpr (passes value written)
      rw [passes.acceptedSince_concat, passes'.acceptedSince_concat, since]
    · simp only [Store.Passes, not_forall, not_not] at passes
      obtain ⟨value, written, now⟩ := passes
      exact iff_of_true (Store.lastAccepted_of_written written (online.mpr now)).2
        (Store.lastAccepted_of_written written now).2

theorem get_values_ofStore (s : Store) (kind : Kind) :
    (Answer.ofStore s).values.get kind = observedValue (s.read kind) := by
  cases kind <;> rfl

/-- The number of operations before a kind is looked up. -/
def moment (kind : Kind) : Nat :=
  (r.meanwhile kind).length

theorem meanwhile_prefix (kind : Kind) : r.meanwhile kind <+: r.meanwhile .humidity := by
  cases kind with
  | temperature => exact ⟨r.gaps.pressure ++ r.gaps.humidity, (List.append_assoc ..).symm⟩
  | pressure => exact List.prefix_append ..
  | humidity => exact List.prefix_refl _

theorem storeAt_moment (kind : Kind) : r.storeAt (r.moment kind) = .after (r.upTo kind) := by
  rw [storeAt, moment, ← List.prefix_iff_eq_take.mp (r.meanwhile_prefix kind), upTo]

theorem moment_le (kind : Kind) : r.moment kind ≤ (r.meanwhile .humidity).length :=
  (r.meanwhile_prefix kind).length_le

/-- The store at the next moment. -/
theorem storeAt_succ (n : Nat) : r.storeAt (n + 1) =
    (r.meanwhile .humidity)[n]?.elim (r.storeAt n) fun q =>
      ((r.storeAt n).perform q.operation).1 := by
  unfold storeAt
  rw [List.take_add_one]
  cases (r.meanwhile .humidity)[n]? with
  | none => simp
  | some q => simp [← List.append_assoc, Store.after_concat]

/-- An operation that does not take a store offline leaves the connectivity and all kinds but one as
they are, or all kinds. -/
theorem perform_changes (s : Store) {op : Operation} (stays : op ≠ .setConnected false) :
    ((s.perform op).1.connected = s.connected ∧
      ∃ kind, ∀ other, other ≠ kind → (s.perform op).1.read other = s.read other) ∨
      ∀ kind, (s.perform op).1.read kind = s.read kind := by
  cases op with
  | write kind value =>
    refine .inl ⟨?_, kind, fun other different => ?_⟩
    · simp only [Store.perform, Store.write]
      split <;> rfl
    · simp only [Store.perform, Store.write]
      split
      · exact PerKind.get_set_of_ne _ _ different
      · rfl
  | setConnected connected =>
    cases connected with
    | false => exact absurd rfl stays
    | true => exact .inr fun kind => rfl
  | read | isConnected | snapshot => exact .inr fun kind => rfl

/-- An answer is that of a moment if that moment has its connectivity and its values. -/
theorem answer_eq_ofStore {n : Nat} (connected : (r.storeAt n).connected = r.answer.connected)
    (values : ∀ kind, observedValue ((r.storeAt n).read kind) = r.answer.values.get kind) :
    r.answer = .ofStore (r.storeAt n) := by
  have same : r.answer.values = (Answer.ofStore (r.storeAt n)).values := by
    ext kind
    rw [get_values_ofStore, values]
  exact Answer.ext connected.symm same

/-- While one operation changes what the store shows, and not by taking it offline, an answer is
that of the moment before it or of the moment after it. -/
theorem Calm.momentary {r : Race ι} (calm : r.Calm) :
    ∃ n ≤ (r.meanwhile .humidity).length, r.answer = .ofStore (r.storeAt n) := by
  obtain ⟨n, first, rest, stays⟩ := calm
  have connectedAt {m m' : Nat} (same : Answer.ofStore (r.storeAt m) = .ofStore (r.storeAt m')) :
      (r.storeAt m).connected = (r.storeAt m').connected := congrArg Answer.connected same
  have shownAt {m m' : Nat} (same : Answer.ofStore (r.storeAt m) = .ofStore (r.storeAt m'))
      (kind : Kind) : observedValue ((r.storeAt m).read kind) =
        observedValue ((r.storeAt m').read kind) := by
    rw [← get_values_ofStore, ← get_values_ofStore, same]
  have connected : (r.storeAt 0).connected = r.answer.connected := by
    rw [storeAt, List.take_zero, List.append_nil]
    rfl
  have values (kind : Kind) : r.answer.values.get kind =
      observedValue ((r.storeAt (r.moment kind)).read kind) := by
    rw [values_answer, storeAt_moment]
  have early {kind : Kind} (before : r.moment kind ≤ n) :
      observedValue ((r.storeAt 0).read kind) = r.answer.values.get kind :=
    (values kind ▸ shownAt (first _ before) kind).symm
  have late {kind : Kind} (after : n < r.moment kind) :
      observedValue ((r.storeAt (n + 1)).read kind) = r.answer.values.get kind :=
    (values kind ▸ shownAt (rest _ after) kind).symm
  have unchanged {kind : Kind} (same : (r.storeAt (n + 1)).read kind = (r.storeAt n).read kind) :
      observedValue ((r.storeAt 0).read kind) = r.answer.values.get kind := by
    rcases Nat.lt_or_ge n (r.moment kind) with after | before
    · rw [← late after, same, shownAt (first n (Nat.le_refl n))]
    · exact early before
  have changes : ((r.storeAt (n + 1)).connected = (r.storeAt n).connected ∧
      ∃ kind, ∀ other, other ≠ kind → (r.storeAt (n + 1)).read other = (r.storeAt n).read other) ∨
      ∀ kind, (r.storeAt (n + 1)).read kind = (r.storeAt n).read kind := by
    rw [storeAt_succ]
    cases here : (r.meanwhile .humidity)[n]? with
    | none => exact .inr fun kind => rfl
    | some q =>
      rw [here, Option.map_some, ne_eq, Option.some.injEq] at stays
      exact perform_changes _ stays
  rcases changes with ⟨online, kind, others⟩ | all
  · rcases Nat.lt_or_ge n (r.moment kind) with after | before
    · refine ⟨n + 1, Nat.lt_of_lt_of_le after (r.moment_le kind),
        r.answer_eq_ofStore ?_ fun other => ?_⟩
      · rw [online, connectedAt (first n (Nat.le_refl n)), connected]
      · by_cases same : other = kind
        · exact late (same ▸ after)
        · rw [others other same, shownAt (first n (Nat.le_refl n)), unchanged (others other same)]
    · refine ⟨0, Nat.zero_le _, r.answer_eq_ofStore connected fun other => ?_⟩
      by_cases same : other = kind
      · exact early (same ▸ before)
      · exact unchanged (others other same)
  · exact ⟨0, Nat.zero_le _, r.answer_eq_ofStore connected fun kind => unchanged (all kind)⟩

/-- A store that is offline shows no value. -/
theorem observedValue_of_offline {history : List (Request ι)}
    (offline : (Store.after history).connected = false) (kind : Kind) :
    observedValue ((Store.after history).read kind) = none := by
  have shown := ((Store.shows_after history).observed kind).not
  rw [← (Store.shows_after history).connected, offline] at shown
  rw [observedValue, if_neg (shown.mpr fun both => Bool.false_ne_true both.1)]

/-- An answer of one moment does not contradict itself. -/
theorem honest_of_momentary {r : Race ι} {n : Nat} (momentary : r.answer = .ofStore (r.storeAt n))
    (offline : r.answer.connected = false) (kind : Kind) : r.answer.values.get kind = none := by
  rw [momentary] at offline ⊢
  rw [get_values_ofStore]
  exact observedValue_of_offline offline kind

/-- What an answer is worth. -/
structure Lawful (r : Race ι) : Prop where
  /-- The connectivity is that of the first look-up. -/
  connected : r.answer.connected = true ↔ Online r.before
  /-- A kind has a value if one was accepted, and the store was not taken offline since, up to the
  look-up of the kind. -/
  present : ∀ kind, (r.answer.values.get kind).isSome = true ↔ AcceptedSince (r.upTo kind) kind
  /-- It is then the last accepted value. -/
  latest : ∀ kind value, r.answer.values.get kind = some value →
    LastAccepted (r.upTo kind) kind value
  /-- An answer tells a value and that there is no connection exactly if the store was offline and
  was used to go online and to accept the value between the two look-ups. -/
  contradicts : (r.answer.connected = false ∧ ∃ kind, (r.answer.values.get kind).isSome = true) ↔
    ¬Online r.before ∧ ∃ kind, AcceptedSince (r.meanwhile kind) kind
  /-- The answer is consistent if the store changes no more than once, and not by going offline. -/
  consistent : r.Calm → r.Consistent

/-- **Law of answers.** Whatever is asked of the store between the look-ups of an answer, each of
its parts is right about the moment of its look-up, and only a store that changes can tear them. -/
theorem lawful_answer : r.Lawful := by
  have connected : r.answer.connected = true ↔ Online r.before :=
    (Store.shows_after r.before).connected
  refine ⟨connected, r.isSome_values_answer_iff, ?_, ?_, ?_⟩
  · intro kind value told
    obtain ⟨-, rfl⟩ := (r.values_answer_eq_some_iff kind value).mp told
    exact (Store.shows_after _).value kind
  · rw [← Bool.not_eq_true, connected]
    refine and_congr_right fun offline => exists_congr fun kind => ?_
    rw [isSome_values_answer_iff]
    exact (acceptedSince_append offline kind _).2
  · intro calm
    obtain ⟨n, within, momentary⟩ := calm.momentary
    exact ⟨honest_of_momentary momentary, n, within, momentary⟩

/-- The link comes back and brings a temperature after the connectivity is looked up. -/
def comingBack : Race Unit where
  before := []
  gaps := ⟨[⟨(), .setConnected true⟩, ⟨(), .write .temperature 20.5⟩], [], []⟩

/-- The answer then tells the temperature and that there is no connection, as no moment would. -/
theorem not_consistent_comingBack :
    comingBack.answer.text = "\x7b\"connected\":false,\"humidity\":null,\"pressure\":null," ++
      "\"temperature\":20.5\x7d\n" ∧ ¬comingBack.Consistent := by
  refine ⟨by decide +kernel, fun consistent => ?_⟩
  have told := consistent.honest rfl .temperature
  cases told

end Race

end SensorLink.Exposition
