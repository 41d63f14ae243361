/-
# What the exposition shows

The journal, the page and the object for programs write values each in its own
way.  They are in step: what the page shows of an observed value is the text that
the journal has for it, and the page says that a kind is not available exactly
where the object has null, namely where nothing was observed.

A value that is not observed stays in the store.  It is shown nowhere, since a
response depends on the store through the connectivity and the observed values
alone; this is a statement about two stores.
-/

import Mathlib.Data.List.Basic
import SensorLink.Exposition
import SensorLink.Proofs.Decimal.Spelling
import SensorLink.Proofs.Store.History

namespace SensorLink.Exposition

open Decimal (isFigure Figures Style)
open Sensor (Kind Reading)

/-- A text in which nothing has a meaning in markup. -/
def Plain (s : String) : Prop :=
  ∀ c ∈ s.toList, isMark c = false

instance : DecidablePred Plain :=
  fun s => List.decidableBAll (isMark · = false) s.toList

/-- An engine that puts plain texts into slots as they are. -/
def KeepsPlain (insert : String → String) : Prop :=
  ∀ s, Plain s → insert s = s

/-- A plain text of one line. -/
def Tame (s : String) : Prop :=
  ∀ c ∈ s.toList, isMark c = false ∧ c ≠ '\n'

instance : DecidablePred Tame :=
  fun s => List.decidableBAll (fun c => isMark c = false ∧ c ≠ '\n') s.toList

theorem Tame.plain {s : String} (tame : Tame s) : Plain s :=
  fun c mem => (tame c mem).1

theorem Tame.append {s t : String} (first : Tame s) (second : Tame t) : Tame (s ++ t) := by
  intro c mem
  rw [String.toList_append, List.mem_append] at mem
  exact mem.elim (first c) (second c)

/-- Escaping keeps what is plain. -/
theorem keepsPlain_escape : KeepsPlain escape := by
  intro s plain
  have kept (c : Char) (mem : c ∈ s.toList) : escapedChar c = [c] := by
    have unmarked := plain c mem
    unfold escapedChar
    split <;> first | rfl | exact absurd unmarked (by decide)
  unfold escape
  rw [List.flatMap_congr kept, List.flatMap_singleton', String.ofList_toList]

theorem tame_of_isFigure {c : Char} (figure : isFigure c = true) : isMark c = false ∧ c ≠ '\n' := by
  constructor
  · by_contra mark
    simp only [Bool.not_eq_false, isMark, Bool.or_eq_true, decide_eq_true_eq] at mark
    rcases mark with (((rfl | rfl) | rfl) | rfl) | rfl <;> exact absurd figure (by decide)
  · rintro rfl
    exact absurd figure (by decide)

theorem tame_fixed (places : Nat) (value : Float) : Tame (Decimal.fixed places value) := by
  rcases Decimal.figures_fixed places value with word | figures
  · simp only [List.mem_cons, List.not_mem_nil, or_false] at word
    rcases word with word | word | word <;> rw [word] <;> decide
  · exact fun c mem => tame_of_isFigure (figures c mem)

/-- What is inserted for a reading is plain, and stays on its line. -/
theorem tame_shownReading (kind : Kind) (r : Reading) : Tame (shownReading (.of kind) r) := by
  unfold shownReading
  split
  · have unit : Tame (Format.of kind).unit := by cases kind <;> decide
    exact (tame_fixed _ _).append unit
  · decide

/-- The lines of the page above those of the readings. -/
def pageTop : List String :=
  ["<!DOCTYPE html>", "<html>", "<head>", "<title>Sensor Values</title>",
    "<meta http-equiv=\"refresh\" content=\"5\">", "</head>", "<body>", "<h1>Sensor Values</h1>"]

/-- The lines of the page below those of the readings. -/
def pageBottom : List String :=
  ["</body>", "</html>"]

/-- The line about a reading: the text that the journal has for an observed value, or that there
is none. -/
def lineAbout (kind : Kind) (r : Reading) : String :=
  if r.observed then "<p>" ++ kind.showReading r.value ++ "</p>"
  else "<p>" ++ kind.label ++ ": N/A</p>"

/-- The page writes values as the journal does. -/
theorem Format.write_of (kind : Kind) (value : Float) :
    (Format.of kind).write value = kind.showValue value := by
  have unit : (Format.of kind).unit = " " ++ kind.unit := by cases kind <;> decide
  have places : (Format.of kind).places = kind.places := by cases kind <;> rfl
  rw [write, unit, places, Kind.showValue, String.append_assoc]

/-- A line with its slot is the line about the reading. -/
theorem lineAbout_eq (kind : Kind) (r : Reading) : lineAbout kind r =
    "<p>" ++ kind.label ++ ": " ++ shownReading (.of kind) r ++ "</p>" := by
  unfold lineAbout shownReading
  split
  · simp only [Kind.showReading, Format.write_of, String.append_assoc]
  · have mark : ": N/A</p>" = ": " ++ unavailable ++ "</p>" := by decide
    rw [mark]
    simp only [String.append_assoc]

section

variable {insert : String → String} (keeps : KeepsPlain insert)

include keeps

theorem fillLine_reading (s : Store) (kind : Kind) (opening : String)
    (labelled : opening = "<p>" ++ kind.label ++ ": ") :
    fillLine insert s [.text opening, .reading kind, .text "</p>"] =
      lineAbout kind (s.read kind) := by
  rw [lineAbout_eq, labelled, fillLine]
  simp only [List.map_cons, List.map_nil, String.join_cons, String.join_nil, Piece.fill,
    keeps _ (tame_shownReading kind _).plain, String.append_empty, String.append_assoc]

/-- The lines of the template, filled. -/
theorem map_fillLine_template (s : Store) : template.map (fillLine insert s) =
    pageTop ++ Kind.all.map (fun kind => lineAbout kind (s.read kind)) ++ pageBottom := by
  have fixedLine (t : String) : fillLine insert s [.text t] = t := by
    simp [fillLine, Piece.fill]
  have refresh : fillLine insert s [.text "<meta http-equiv=\"refresh\" content=\"", .refresh,
      .text "\">"] = "<meta http-equiv=\"refresh\" content=\"5\">" := by
    have five : insert (toString refreshSeconds) = "5" :=
      keeps _ (by decide)
    rw [fillLine, List.map_cons, List.map_cons, List.map_cons, List.map_nil, Piece.fill,
      Piece.fill, Piece.fill, five]
    decide
  simp only [template, List.map_cons, List.map_nil, fixedLine, refresh,
    fillLine_reading keeps s .temperature "<p>Temperature: " (by decide),
    fillLine_reading keeps s .pressure "<p>Pressure: " (by decide),
    fillLine_reading keeps s .humidity "<p>Humidity: " (by decide)]
  rfl

end

theorem lineAbout_oneLine (kind : Kind) (r : Reading) : '\n' ∉ (lineAbout kind r).toList := by
  rw [lineAbout_eq]
  have heading : '\n' ∉ ("<p>" ++ kind.label ++ ": ").toList := by cases kind <;> decide
  have shown : '\n' ∉ (shownReading (.of kind) r).toList :=
    fun mem => (tame_shownReading kind r _ mem).2 rfl
  have closing : '\n' ∉ "</p>".toList := by decide
  simp only [String.toList_append, List.mem_append, not_or] at heading ⊢
  exact ⟨⟨heading, shown⟩, closing⟩

/-- The page says that a kind is not available only if its value was not observed. -/
theorem lineAbout_eq_unavailable_iff (kind : Kind) (r : Reading) :
    lineAbout kind r = "<p>" ++ kind.label ++ ": N/A</p>" ↔ r.observed = false := by
  have nothing : lineAbout kind ⟨0, false⟩ = "<p>" ++ kind.label ++ ": N/A</p>" := rfl
  constructor
  · intro same
    rw [← nothing, lineAbout_eq, lineAbout_eq, String.append_left_inj,
      String.append_right_inj] at same
    cases observed : r.observed with
    | false => rfl
    | true =>
      have blank : ' ' ∈ (Format.of kind).unit.toList := by cases kind <;> decide
      have inside : ' ' ∈ (shownReading (.of kind) r).toList := by
        rw [shownReading, observed, if_pos rfl, Format.write, String.toList_append]
        exact List.mem_append_right _ blank
      have none : shownReading (.of kind) ⟨0, false⟩ = unavailable := rfl
      rw [same, none] at inside
      exact absurd inside (by decide)
  · intro unobserved
    rw [lineAbout, unobserved, if_neg Bool.false_ne_true]

/-- What the object has for a reading: the shortest text that reads back as the value, or null. -/
def entryAbout (r : Reading) : String :=
  if r.observed then Style.interchange.show r.value else "null"

/-- The text of the object. -/
def objectAbout (s : Store) : String :=
  let entries := [Kind.humidity, .pressure, .temperature].map fun kind =>
    "\"" ++ kind.name ++ "\":" ++ entryAbout (s.read kind)
  "\x7b" ++ ",".intercalate (("\"connected\":" ++ if s.connected then "true" else "false") ::
    entries) ++ "\x7d\n"

/-- The text of a number is not the word for null. -/
theorem show_ne_null (value : Float) : Style.interchange.show value ≠ "null" := by
  have tail : Figures Style.interchange.integralTail := by decide
  intro null
  rcases Style.figures_showBy tail Decimal.shortest value with word | figures
  · rw [← Style.show, null] at word
    exact absurd word (by decide)
  · rw [← Style.show, null] at figures
    exact absurd (figures 'n' (by decide)) (by decide)

/-- The object has null only if the value was not observed. -/
theorem entryAbout_eq_null_iff (r : Reading) : entryAbout r = "null" ↔ r.observed = false := by
  unfold entryAbout
  cases r.observed with
  | true => simpa using show_ne_null r.value
  | false => simp

theorem write_valueOf_observedValue (r : Reading) :
    (Answer.valueOf (observedValue r)).write = entryAbout r := by
  unfold observedValue entryAbout
  cases r.observed <;> rfl

/-- The entry of a kind as it is written. -/
theorem writeText_name (kind : Kind) (r : Reading) :
    Interchange.writeText kind.name ++ ":" ++ (Answer.valueOf (observedValue r)).write =
      "\"" ++ kind.name ++ "\":" ++ entryAbout r := by
  have name : Interchange.writeText kind.name ++ ":" = "\"" ++ kind.name ++ "\":" := by
    cases kind <;> decide
  rw [write_valueOf_observedValue, name]

theorem text_ofStore (s : Store) : (Answer.ofStore s).text = objectAbout s := by
  have connected : Interchange.writeText "connected" ++ ":" ++
      (Interchange.bool s.connected).write =
        "\"connected\":" ++ if s.connected then "true" else "false" := by
    cases s.connected <;> decide
  have fields : (Answer.ofStore s).text = "\x7b" ++ ",".intercalate
      ((Interchange.writeText "connected" ++ ":" ++ (Interchange.bool s.connected).write) ::
        [Kind.humidity, .pressure, .temperature].map fun kind =>
          Interchange.writeText kind.name ++ ":" ++
            (Answer.valueOf (observedValue (s.read kind))).write) ++ "\x7d" ++ "\n" := by
    simp only [Answer.text, Answer.object, Interchange.write, Interchange.writeFields]
    rfl
  have closing : "\x7d" ++ "\n" = "\x7d\n" := by decide
  rw [fields, connected, String.append_assoc, closing]
  simp only [writeText_name]
  rfl

/-- Two stores differ at most in values that were not observed. -/
structure Agrees (s s' : Store) : Prop where
  connected : s.connected = s'.connected
  observed : ∀ kind, (s.read kind).observed = (s'.read kind).observed
  value : ∀ kind, (s.read kind).observed = true → (s.read kind).value = (s'.read kind).value

/-- What is shown of a reading is what is shown of its observed value. -/
theorem shownReading_eq (f : Format) (r : Reading) :
    shownReading f r = (observedValue r).elim unavailable f.write := by
  unfold shownReading observedValue
  split <;> rfl

variable {s s' : Store}

theorem Agrees.observedValue (agrees : Agrees s s') (kind : Kind) :
    observedValue (s.read kind) = observedValue (s'.read kind) := by
  unfold Exposition.observedValue
  rw [← agrees.observed kind]
  cases observed : (s.read kind).observed with
  | true => rw [agrees.value kind observed]
  | false => rfl

theorem Agrees.page (agrees : Agrees s s') (insert : String → String) :
    page insert s = page insert s' := by
  have fill : Piece.fill insert s = Piece.fill insert s' := by
    funext p
    cases p with
    | text | refresh => rfl
    | reading kind =>
      rw [Piece.fill, Piece.fill, shownReading_eq, shownReading_eq, agrees.observedValue kind]
  have line : fillLine insert s = fillLine insert s' := by
    funext line
    rw [fillLine, fillLine, fill]
  rw [Exposition.page, Exposition.page, line]

theorem Agrees.answer (agrees : Agrees s s') : Answer.ofStore s = Answer.ofStore s' := by
  have values := agrees.observedValue
  unfold Answer.ofStore Answer.ofStores
  rw [agrees.connected]
  exact congrArg _ (by simp [Sensor.PerKind.const, values])

/-- Stores that differ at most in values that were not observed answer every request alike. -/
theorem Agrees.respondWith (agrees : Agrees s s') (insert : String → String)
    (method target : String) : respondWith insert s method target =
      respondWith insert s' method target := by
  have place (p : Place) : p.response insert s = p.response insert s' := by
    cases p with
    | page => rw [Place.response, Place.response, agrees.page]
    | readings => rw [Place.response, Place.response, agrees.answer]
    | file => rfl
  unfold Exposition.respondWith grant
  simp only [place]

/-- What is shown of a store to whoever asks, if `insert` puts texts into the page. -/
structure Exposes (insert : String → String) (s : Store) : Prop where
  /-- The page has one line for each kind: what the journal writes about the value if it was
  observed, and that it is not available otherwise. -/
  page : ∃ body, respondWith insert s "GET" "/" = .ok ⟨200, pageType, body⟩ ∧
    (body.split '\n').toList.map (·.copy) =
      pageTop ++ Kind.all.map (fun kind => lineAbout kind (s.read kind)) ++ pageBottom
  /-- The object has one entry for each kind: the value if it was observed, and null otherwise. -/
  object : respondWith insert s "GET" "/api/readings" = .ok ⟨200, objectType, objectAbout s⟩
  /-- A kind is not available on the page exactly where it is null in the object. -/
  inStep : ∀ kind, lineAbout kind (s.read kind) = "<p>" ++ kind.label ++ ": N/A</p>" ↔
    entryAbout (s.read kind) = "null"
  /-- While the store is offline no kind is available. -/
  offline : s.connected = false → ∀ kind,
    lineAbout kind (s.read kind) = "<p>" ++ kind.label ++ ": N/A</p>" ∧
      entryAbout (s.read kind) = "null"
  /-- No response depends on values that were not observed. -/
  blind : ∀ s', Agrees s s' → ∀ method target,
    respondWith insert s method target = respondWith insert s' method target
  /-- So while the store is offline it responds as if no value had ever been written. -/
  forgotten : s.connected = false → ∀ method target,
    respondWith insert s method target = respondWith insert .fresh method target

/-- The page in its lines. -/
theorem lines_page {insert : String → String} (keeps : KeepsPlain insert) (s : Store) :
    ((page insert s).split '\n').toList.map (·.copy) =
      pageTop ++ Kind.all.map (fun kind => lineAbout kind (s.read kind)) ++ pageBottom := by
  have top : ∀ t ∈ pageTop, '\n' ∉ t.toList := by decide
  have bottom : ∀ t ∈ pageBottom, '\n' ∉ t.toList := by decide
  have oneLine : ∀ t ∈ template.map (fillLine insert s), '\n' ∉ t.toList := by
    intro t mem
    simp only [map_fillLine_template keeps, List.mem_append, List.mem_map] at mem
    rcases mem with (mem | ⟨kind, -, rfl⟩) | mem
    · exact top t mem
    · exact lineAbout_oneLine kind _
    · exact bottom t mem
  have some : template.map (fillLine insert s) ≠ [] := by simp [template]
  have split := String.toList_split_intercalate oneLine
  rw [if_neg some] at split
  rw [← map_fillLine_template keeps]
  exact split

/-- **Law of exposition.** Whatever was asked of a store, the page and the object show what was
observed, are in step, and nothing else that is in the store has any part in a response. -/
theorem exposes_after {insert : String → String} (keeps : KeepsPlain insert) {ι : Type}
    (history : List (Store.Request ι)) : Exposes insert (Store.after history) := by
  have shows := Store.shows_after history
  have get : Method.named "GET" = .get := by decide +kernel
  have unobserved (offline : (Store.after history).connected = false) (kind : Kind) :
      ((Store.after history).read kind).observed = false := by
    by_contra observed
    rw [Bool.not_eq_false, shows.observed, ← shows.connected, offline] at observed
    exact absurd observed.1 Bool.false_ne_true
  refine ⟨⟨page insert (Store.after history), ?_, lines_page keeps _⟩, ?_, ?_, ?_, ?_, ?_⟩
  · have root : requestedPath "/" = .ok ['/'] := rfl
    rw [respondWith, get, root]
    rfl
  · have readings : requestedPath "/api/readings" = .ok "/api/readings".toList := rfl
    have granted : verdict .get "/api/readings".toList = .granted .readings := by decide
    rw [respondWith, get, readings, ← text_ofStore]
    simp only [bind, Except.bind, granted]
    rfl
  · intro kind
    rw [lineAbout_eq_unavailable_iff, entryAbout_eq_null_iff]
  · intro offline kind
    rw [lineAbout_eq_unavailable_iff, entryAbout_eq_null_iff]
    exact ⟨unobserved offline kind, unobserved offline kind⟩
  · intro s' agrees method target
    exact agrees.respondWith insert method target
  · intro offline method target
    have agrees : Agrees (Store.after history) .fresh := by
      refine ⟨offline, fun kind => ?_, fun kind observed => ?_⟩
      · rw [unobserved offline kind]
        cases kind <;> rfl
      · rw [unobserved offline kind] at observed
        cases observed
    exact agrees.respondWith insert method target

/-- A temperature is written before the link breaks, and a humidity after it is back. -/
def brokenLink : List (Store.Request Unit) :=
  [.setConnected true, .write .temperature 22.8, .setConnected false, .setConnected true,
    .write .humidity 41.25].map fun operation => ⟨(), operation⟩

/-- The humidity alone is shown, though the store still holds the temperature. -/
theorem exposes_after_brokenLink :
    let s := Store.after brokenLink
    let object := "\x7b\"connected\":true,\"humidity\":41.25,\"pressure\":null," ++
      "\"temperature\":null\x7d\n"
    (∃ body, respond s "GET" "/" = .ok ⟨200, pageType, body⟩ ∧
      (body.split '\n').toList.map (·.copy) = pageTop ++ ["<p>Temperature: N/A</p>",
        "<p>Pressure: N/A</p>", "<p>Humidity: 41.25 %RH</p>"] ++ pageBottom) ∧
      respond s "GET" "/api/readings" = .ok ⟨200, objectType, object⟩ := by
  intro s object
  have exposes := exposes_after keepsPlain_escape brokenLink
  have lines : Kind.all.map (fun kind => lineAbout kind (s.read kind)) =
      ["<p>Temperature: N/A</p>", "<p>Pressure: N/A</p>", "<p>Humidity: 41.25 %RH</p>"] := by
    decide +kernel
  have text : objectAbout s = object := by decide +kernel
  exact ⟨lines ▸ exposes.page, text ▸ exposes.object⟩

end SensorLink.Exposition
