import OpenSprinklerPlugin.Controller.Station
import OpenSprinklerPlugin.Program.Constructor

/-!
# Building a controller from a snapshot

`OpenSprinklerController.__init__` resolves the property table against the
snapshot and then, inside a `try` whose `except` does nothing, reads
`settings.en`, the four flag bytes and `status.nstations`, runs the station loop,
reads `num_programs` through `getProperty` and runs the program loop.

Two things decide what a construction does.

* The station and program lists are the class attributes
  `controller_stations` and `controller_programs`: `__init__` appends to them and
  never assigns its own, so they are one pair of lists per process (`World`),
  grown by every construction, and `getStations` reads the shared list.
* `getProperty('num_programs')` raises (see `OpenSprinklerController.getProperty`),
  so the program loop never runs and no program is ever appended.

`run_init` says all of this once: a construction raises exactly when resolution
does, and otherwise returns the resolved controller and appends
`appendedStations myDict`, which depends on the snapshot alone. Everything
later about constructions is derived from it.

## Main definitions

* `World`, `Frame` — the shared class attributes; those and the instance being
  built
* `OpenSprinklerController.initBody`, `OpenSprinklerController.init` — the `try`
  block and `__init__`
* `OpenSprinklerController.appendedStations` — the stations a construction appends

## Main results

* `run_init` — the spec lemma of `__init__`
* `init_eq_error_iff` — construction raises exactly when resolution raises
-/

namespace OpenSprinklerPlugin

/-- The class attributes `OpenSprinklerController.controller_stations` and
`controller_programs`: one list each per process, shared by every instance. -/
structure World where
  controllerStations : List OpenSprinklerStation
  controllerPrograms : List OpenSprinklerProgram

/-- The class attributes when the module is imported. -/
def World.initial : World := ⟨[], []⟩

/-- What `__init__`'s `try` block works on: the shared lists and the instance
being built. -/
structure Frame where
  world : World
  self : OpenSprinklerController

namespace OpenSprinklerController

/-- `self.controller_stations.append(this_station)`, on the class attribute. -/
def appendStation (st : OpenSprinklerStation) (f : Frame) : Frame :=
  { f with world := { f.world with controllerStations := f.world.controllerStations ++ [st] } }

/-- `self.controller_programs.append(this_program)`, on the class attribute. -/
def appendProgram (p : OpenSprinklerProgram) (f : Frame) : Frame :=
  { f with world := { f.world with controllerPrograms := f.world.controllerPrograms ++ [p] } }

/-- `myDict[sourceName][key][i]`. -/
def readIndex (myDict : JVal) (sourceName key : String) (i : Nat) : Except PyErr JVal := do
  (← readPath myDict sourceName key).getIndex i

/-- The flag bytes `ir_byte`, `seq_byte`, `dis_byte` and `spe_byte`, read in
that order. -/
def flagBytes (myDict : JVal) : Except PyErr FlagBytes := do
  return ⟨← readIndex myDict "stations" "ignore_rain" 0, ← readIndex myDict "stations" "stn_seq" 0,
    ← readIndex myDict "stations" "stn_dis" 0, ← readIndex myDict "stations" "stn_spe" 0⟩

/-- The number of passes of `idx = 0; while idx < n`: a bound that is not a
number raises `TypeError` at the first comparison. -/
def loopCount (n : JVal) : Except PyErr Nat := do
  return (← n.toInt).toNat

/-- `num_stations = myDict['status']['nstations']`, as a number of passes. -/
def stationCount (myDict : JVal) : Except PyErr Nat := do
  loopCount (← readPath myDict "status" "nstations")

/-- One pass of the program loop: the tuple `programs.pd[idx]` and the program
built from its six items. -/
def decodeProgram (myDict : JVal) (idx : Nat) : Except PyErr OpenSprinklerProgram := do
  let programData ← readIndex myDict "programs" "pd" idx
  let flags ← programData.getIndex 0
  let days0 ← programData.getIndex 1
  let days1 ← programData.getIndex 2
  let startTimes ← programData.getIndex 3
  let durations ← programData.getIndex 4
  let programName ← programData.getIndex 5
  return OpenSprinklerProgram.new programName flags days0 days1 startTimes durations

/-- The body of `__init__`'s `try`. -/
def initBody (myDict : JVal) : PyM Frame Unit := do
  let en ← PyM.lift (readPath myDict "settings" "en")
  modify fun f => { f with self := { f.self with controllerEnabled := some en.truthy } }
  let bytes ← PyM.lift (flagBytes myDict)
  let numStations ← PyM.lift (stationCount myDict)
  PyM.appendLoop (decodeStation myDict bytes) appendStation 0 numStations
  let numPrograms ← PyM.lift ((← get).self.getProperty "num_programs")
  PyM.appendLoop (decodeProgram myDict) appendProgram 0 (← PyM.lift (loopCount numPrograms))

/-- `OpenSprinklerController(myDict)`: the resolution loop, whose exceptions
leave `__init__`, then the `try` block, whose exceptions are dropped. -/
def init (myDict : JVal) : PyM World OpenSprinklerController := do
  let props ← PyM.lift (resolveProperties myDict controllerPropertyTable)
  let f := PyM.final ((PyM.swallow (initBody myDict)).run ⟨← get, ⟨props, none⟩⟩)
  set f.world
  return f.self

/-- `getStations` returns the class attribute, the list every instance shares. -/
def getStations (_self : OpenSprinklerController) (w : World) : List OpenSprinklerStation :=
  w.controllerStations

/-- `getPrograms` returns the class attribute, the list every instance shares. -/
def getPrograms (_self : OpenSprinklerController) (w : World) : List OpenSprinklerProgram :=
  w.controllerPrograms

/-! ## What a construction does -/

/-- The stations a construction from `myDict` appends: those the station loop
decodes before its first exception, and none when `settings.en`, a flag byte or
`status.nstations` cannot be read. -/
def appendedStations (myDict : JVal) : List OpenSprinklerStation :=
  match readPath myDict "settings" "en", flagBytes myDict, stationCount myDict with
  | .ok _, .ok bytes, .ok n => (PyM.appendedBefore (decodeStation myDict bytes) 0 n).1
  | _, _, _ => []

/-- The `controller_enabled` a construction leaves: the truthiness of
`settings.en`, or no instance attribute when it cannot be read. -/
def enabledOf (myDict : JVal) : Option Bool :=
  (readPath myDict "settings" "en").toOption.map JVal.truthy

theorem foldl_appendStation (sts : List OpenSprinklerStation) (f : Frame) :
    sts.foldl (fun f st => appendStation st f) f =
      { f with world := { f.world with
        controllerStations := f.world.controllerStations ++ sts } } := by
  induction sts generalizing f with
  | nil => simp
  | cons st sts ih =>
    rw [List.foldl_cons, ih]
    simp [appendStation]

/-- The resolved table begins with `device_time`, so `getProperty` raises for
every other name. -/
theorem getProperty_of_resolved {myDict : JVal} {props : List Property}
    (h : resolveProperties myDict controllerPropertyTable = .ok props) (e : Option Bool)
    (n : String) (hn : n ≠ "device_time") :
    (OpenSprinklerController.mk props e).getProperty n = .error (.nameError "UnknownPropertyError") :=
  getProperty_of_names (resolveProperties_names h) hn

/-- The `try` block appends `appendedStations myDict`, no program, and sets
`controller_enabled` from `settings.en`. -/
theorem final_initBody {myDict : JVal} {props : List Property}
    (h : resolveProperties myDict controllerPropertyTable = .ok props) (w : World) :
    PyM.final ((initBody myDict).run ⟨w, ⟨props, none⟩⟩) =
      ⟨{ w with controllerStations := w.controllerStations ++ appendedStations myDict },
        ⟨props, enabledOf myDict⟩⟩ := by
  cases hen : readPath myDict "settings" "en" with
  | error e => simp [initBody, PyM.run_bind, hen, appendedStations, enabledOf, Except.toOption]
  | ok en =>
    cases hb : flagBytes myDict with
    | error e =>
      simp [initBody, PyM.run_bind, hen, hb, appendedStations, enabledOf, Except.toOption]
    | ok bytes =>
      cases hc : stationCount myDict with
      | error e =>
        simp [initBody, PyM.run_bind, hen, hb, hc, appendedStations, enabledOf, Except.toOption]
      | ok n =>
        have hprog := getProperty_of_resolved h (some en.truthy) "num_programs" (by decide)
        cases hr : (PyM.appendedBefore (decodeStation myDict bytes) 0 n).2 <;>
          simp [initBody, PyM.run_bind, hen, hb, hc, hr, PyM.run_appendLoop, PyM.result,
            foldl_appendStation, appendedStations, enabledOf, Except.toOption, hprog]

/-- The spec lemma of `__init__`: construction raises exactly when resolution
does, leaving the shared lists alone; otherwise it returns the resolved table
with `controller_enabled` from `settings.en` and appends `appendedStations`. -/
theorem run_init (myDict : JVal) (w : World) :
    (init myDict).run w =
      match resolveProperties myDict controllerPropertyTable with
      | .error e => .error e w
      | .ok props =>
        .ok ⟨props, enabledOf myDict⟩
          { w with controllerStations := w.controllerStations ++ appendedStations myDict } := by
  cases h : resolveProperties myDict controllerPropertyTable with
  | error e => simp [init, PyM.run_bind, h]
  | ok props =>
    simp only [init, PyM.run_bind, h, PyM.run_lift_ok, PyM.run_get, PyM.run_swallow, PyM.final_ok,
      final_initBody h]
    rfl

end OpenSprinklerController

end OpenSprinklerPlugin
