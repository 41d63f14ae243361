/-
# Taking payloads in

A payload is decoded and its value offered to the store.  Malformed payloads are
counted while they follow one another, and every tenth of them is worth a
warning.  A stored value is told to the listener.
-/

import SensorLink.Link.Basic
import SensorLink.Sensor.Payload

namespace SensorLink

namespace Link

variable {δ : Type}

/-- The number of malformed payloads in a row that is worth a warning. -/
def malformedThreshold : Nat := 10

/-- Count one more malformed payload; reaching the threshold starts over. -/
def Ingestion.countMalformed (g : Ingestion δ) : Ingestion δ :=
  { g with malformed := if malformedThreshold ≤ g.malformed + 1 then 0 else g.malformed + 1 }

/-- Forget the malformed payloads. -/
def Ingestion.forgetMalformed (g : Ingestion δ) : Ingestion δ :=
  { g with malformed := 0 }

/-- Whether an ingestion no longer serves the current connection. -/
def isStale (l : Link δ) (g : Ingestion δ) : Bool :=
  !g.armed || !l.machine.isCurrent g.generation

/-- Drop a malformed payload. -/
def dropMalformed (l : Link δ) (cfg : Settings δ) (i : Nat) (kind : Sensor.Kind) (f : Failure) :
    Link δ :=
  let count := (l.ingestions[i]?.elim 0 Ingestion.malformed) + 1
  let l := l.note cfg .debug ("Dropping " ++ kind.name ++ " value: " ++ f.message)
  let l :=
    if malformedThreshold ≤ count then
      l.note cfg .warning ("Received " ++ toString count ++
        " malformed sensor payloads. Check the peripheral firmware.")
    else l
  l.onIngestion i .countMalformed

/-- Take a payload of a kind in.  The failure of the listener, if it fails, is left to the
caller. -/
def ingest (l : Link δ) (cfg : Settings δ) (env : Surroundings) (i : Nat) (kind : Sensor.Kind)
    (payload : List UInt8) : Link δ × Option Failure :=
  match kind.decode payload with
  | .error f => (l.dropMalformed cfg i kind f, none)
  | .ok value =>
    let l := l.onIngestion i .forgetMalformed
    let (store, accepted) := l.store.write kind value
    if accepted then
      let l := { l with store }
      let l := l.note cfg .info (kind.showReading value)
      (l.emit (.reading kind value), env.readingFails)
    else (l.note cfg .debug ("Store offline; dropped " ++ kind.name ++ " value"), none)

end Link

end SensorLink
