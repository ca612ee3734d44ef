import OpenSprinklerPlugin.Device

/-!
# The plugin in one process

A caller of the module builds controllers and devices and calls their methods
in any order, catching whatever they raise. Between calls three things are
kept: the class attributes `controller_stations` and `controller_programs`
(`World`), the controllers the caller holds, and the devices it holds.
`Process` is that state and `Event.apply` one call.

Two levels describe the shared station list. A construction means to list the
snapshot's stations, the `j`-th with index `j` and `bool` flags (`SpecBlock`);
the code stores each as an `OpenSprinklerStation` whose flags are the masks
`0` or `2 ** j` (`SpecStation.toCode`). Whatever the snapshot, the stations one
construction appends are the code's record of its block, the reading of what
it appended (`constructedBlock`, `toCode_constructedBlock`), so the shared list
is the blocks of the run's constructions, in order (`World.Consistent`).

Over every sequence of calls from a fresh process:

* the program list stays empty and the station list is the blocks of the
  constructions, one after another;
* every controller held is one a construction returned, after `setProperty`
  calls, and every device one the caller built, whose `controller` is still the
  class;
* so `startProgram` raises on every device held, `startStation` returns no
  command, and no call ever passes a command to `self.write`.

## Main definitions

* `SpecBlock` — the stations one construction means to list
* `constructedBlock`, `Event.constructedBlock` — the block a construction adds
* `World.Consistent` — the shared lists after constructions that added given
  blocks
* `Process`, `Event`, `Event.apply`, `Process.run` — the caller's state, one
  call, a sequence of calls
* `Process.Invariant` — what every state a caller can reach satisfies
* `Event.command` — the command a call passes to `self.write`
* `Event.addedStations` — the stations a call appends to the shared list

## Main results

* `toCode_constructedBlock` — one construction adds the record of its block,
  whatever the snapshot
* `Event.world_apply`, `run_world` — a call changes the shared lists only by the
  stations a construction adds, so after any sequence of calls the station list
  is exactly what the constructions added, in order
* `Process.Invariant.apply`, `Process.Invariant.run` — the step and run lemmas
* `run_invariant` — every sequence of calls from a fresh process keeps the
  invariant, with the blocks of its constructions
* `run_command_eq_none` — no call of any such sequence sends a command
-/

namespace OpenSprinklerPlugin

open OpenSprinklerController

/-! ## The stations of one construction -/

/-- The stations one construction means to list: the `j`-th has index `j`. -/
structure SpecBlock where
  stations : List SpecStation
  indexed : stations.map SpecStation.index = List.range stations.length

/-- The records the code appends for a block. -/
def SpecBlock.toCode (b : SpecBlock) : List OpenSprinklerStation :=
  b.stations.map SpecStation.toCode

/-- The station loop appends the stations of indices `0, 1, …` in order. -/
theorem appendedStations_stationId (myDict : JVal) :
    (appendedStations myDict).map OpenSprinklerStation.stationId =
      List.range (appendedStations myDict).length := by
  unfold appendedStations
  split
  · rw [PyM.map_appendedBefore (f := id) fun i a (h : decodeStation myDict _ i = .ok a) =>
      (decodeStation_eq_ok h).1, List.map_id, List.range_eq_range']
  · rfl

/-- Every station the loop appends is the code's record of its own reading. -/
theorem toCode_toSpec_of_mem_appendedStations {myDict : JVal} {st : OpenSprinklerStation}
    (h : st ∈ appendedStations myDict) : st.toSpec.toCode = st := by
  unfold appendedStations at h
  split at h
  · obtain ⟨_, hi⟩ := PyM.exists_decode_of_mem_appendedBefore h
    exact (decodeStation_eq_ok hi).2
  · simp at h

/-- The stations a construction adds have the indices `0, 1, …` in order. -/
theorem addedStations_stationId (myDict : JVal) :
    (addedStations myDict).map OpenSprinklerStation.stationId =
      List.range (addedStations myDict).length := by
  unfold addedStations
  split
  · exact appendedStations_stationId myDict
  · rfl

/-- The block of intended stations one construction adds: the reading of each
station it appended. -/
def constructedBlock (myDict : JVal) : SpecBlock where
  stations := (addedStations myDict).map OpenSprinklerStation.toSpec
  indexed := by
    simpa [List.map_map, Function.comp_def, OpenSprinklerStation.toSpec] using
      addedStations_stationId myDict

/-- Whatever the snapshot, what one construction adds to the shared list is the
code's record of its block: the `j`-th added station has `stationId = j`, and
each of its flags is `0` or `2 ** j`. -/
theorem toCode_constructedBlock (myDict : JVal) :
    (constructedBlock myDict).toCode = addedStations myDict := by
  have hmem : ∀ st ∈ addedStations myDict, st.toSpec.toCode = st := fun st h => by
    unfold addedStations at h
    split at h
    · exact toCode_toSpec_of_mem_appendedStations h
    · simp at h
  conv_rhs => rw [← List.map_id (addedStations myDict)]
  simp only [constructedBlock, SpecBlock.toCode, List.map_map]
  exact List.map_congr_left fun st h => hmem st h

/-- The shared lists after constructions that added `blocks`, in order: the
stations of each block, one block after another, and no program. -/
structure World.Consistent (w : World) (blocks : List SpecBlock) : Prop where
  programs_eq_nil : w.controllerPrograms = []
  stations_eq : w.controllerStations = (blocks.map SpecBlock.toCode).flatten

theorem World.consistent_initial : World.initial.Consistent [] := ⟨rfl, rfl⟩

/-! ## Calls -/

/-- What a caller of the module holds between calls: the class attributes, and
the controllers and devices it has built, in order. -/
structure Process where
  world : World
  controllers : List OpenSprinklerController
  devices : List OpenSprinkler

/-- A fresh process: nothing built yet. -/
def Process.initial : Process := ⟨World.initial, [], []⟩

/-- A method call on a station. -/
inductive StationCall
  | refresh
  | turnOn (duration : JVal)
  | turnOff
  | setName (stationName : JVal)

/-- What a station method returns; none of them assigns an attribute. -/
def StationCall.run (st : OpenSprinklerStation) : StationCall → Except PyErr Unit
  | .refresh => st.refresh
  | .turnOn duration => st.turnOn duration
  | .turnOff => st.turnOff
  | .setName stationName => st.setName stationName

/-- One call a caller makes; the caller catches what it raises. Objects are
named by their position among those the caller built. -/
inductive Event
  /-- `OpenSprinklerController(myDict)` -/
  | construct (myDict : JVal)
  /-- `OpenSprinkler(hostName, hostPort, userPass)`, for the digest of `userPass` -/
  | connect (pwdDigest : String)
  /-- `getController()` on the `i`-th device, which receives `resp` -/
  | getController (i : Nat) (resp : HttpResponse)
  /-- `setProperty(varName, varValue)` on the `i`-th controller -/
  | setProperty (i : Nat) (varName : String) (varValue : JVal)
  /-- `startProgram(programReference, *wxFlag)` on the `i`-th device -/
  | startProgram (i : Nat) (programReference : JVal) (wxFlag : List JVal)
  /-- `startStation(stationReference, t_minutes)` on the `i`-th device -/
  | startStation (i : Nat) (stationReference tMinutes : JVal)
  /-- a method of the `j`-th station of the shared list -/
  | station (j : Nat) (call : StationCall)

/-- The state after one call. A call on an object the caller does not hold
raises `IndexError` in the caller and changes nothing. -/
def Event.apply (P : Process) : Event → Process
  | .construct myDict =>
    match (init myDict).run P.world with
    | .ok c w => { P with world := w, controllers := P.controllers ++ [c] }
    | .error _ w => { P with world := w }
  | .connect pwdDigest => { P with devices := P.devices ++ [OpenSprinkler.init pwdDigest] }
  | .getController i resp =>
    match P.devices[i]? with
    | some d =>
      let r := d.getController resp P.world
      { world := r.2.2, controllers := P.controllers ++ r.2.1.toList, devices := P.devices.set i r.1 }
    | none => P
  | .setProperty i varName varValue =>
    match P.controllers[i]? with
    | some c => { P with controllers := P.controllers.set i (c.setProperty varName varValue) }
    | none => P
  | .startProgram .. | .startStation .. | .station .. => P

/-- The state after a sequence of calls. -/
def Process.run (P : Process) (events : List Event) : Process := events.foldl Event.apply P

/-- The command a call passes to `self.write`: only the two starts can pass one. -/
def Event.command (P : Process) : Event → Option Command
  | .startProgram i programReference wxFlag =>
    match P.devices[i]? with
    | some d => (d.startProgramCommand programReference wxFlag).toOption.join
    | none => none
  | .startStation i stationReference tMinutes =>
    match P.devices[i]? with
    | some d => (d.startStationCommand P.world stationReference tMinutes).toOption.join
    | none => none
  | _ => none

/-! ## The shared lists over a run -/

/-- What a call appends to the shared station list: the stations a construction
adds, and nothing for any other call. -/
def Event.addedStations : Event → List OpenSprinklerStation
  | .construct myDict => OpenSprinklerPlugin.addedStations myDict
  | _ => []

/-- The block a call adds: one for each construction, none for any other call. -/
def Event.constructedBlock : Event → Option SpecBlock
  | .construct myDict => some (OpenSprinklerPlugin.constructedBlock myDict)
  | _ => none

theorem Event.addedStations_eq (ev : Event) :
    ev.addedStations = (ev.constructedBlock.toList.map SpecBlock.toCode).flatten := by
  cases ev <;> simp [Event.addedStations, Event.constructedBlock, toCode_constructedBlock]

/-- The frame lemma of one call: it changes the class attributes only by
appending what a construction adds to the station list. -/
theorem Event.world_apply (P : Process) (ev : Event) :
    (ev.apply P).world =
      { P.world with controllerStations := P.world.controllerStations ++ ev.addedStations } := by
  cases ev with
  | construct myDict =>
    have hfinal := final_init myDict P.world
    simp only [Event.apply, Event.addedStations]
    split
    next c w h => rwa [h, PyM.final_ok] at hfinal
    next e w h => rwa [h, PyM.final_error] at hfinal
  | getController i resp =>
    simp only [Event.apply]
    split <;> simp [OpenSprinkler.getController_eq, Event.addedStations]
  | setProperty i varName varValue =>
    simp only [Event.apply]
    split <;> simp [Event.addedStations]
  | connect | startProgram | startStation | station => simp [Event.apply, Event.addedStations]

/-- The run lemma: over a sequence of calls the class attributes change only by
the stations the constructions add, in order. -/
theorem Process.world_run (P : Process) (events : List Event) :
    (P.run events).world = { P.world with controllerStations :=
      P.world.controllerStations ++ (events.map Event.addedStations).flatten } := by
  induction events generalizing P with
  | nil => simp [Process.run]
  | cons ev rest ih =>
    show ((ev.apply P).run rest).world = _
    rw [ih, Event.world_apply]
    simp

/-- Over every sequence of calls from a fresh process, in any order, the list
`getStations()` returns on every controller is exactly the stations the run's
constructions appended, one construction after another, whatever other calls
come between them, and the program list is empty. -/
theorem run_world (events : List Event) :
    (Process.initial.run events).world = ⟨(events.map Event.addedStations).flatten, []⟩ := by
  rw [Process.world_run]
  rfl

/-- One call keeps the shared lists consistent, adding the block of a
construction after the others. -/
theorem World.Consistent.apply {P : Process} {blocks : List SpecBlock}
    (hw : P.world.Consistent blocks) (ev : Event) :
    (ev.apply P).world.Consistent (blocks ++ ev.constructedBlock.toList) := by
  rw [Event.world_apply]
  exact ⟨hw.programs_eq_nil, by simp [hw.stations_eq, Event.addedStations_eq]⟩

/-! ## What every run keeps -/

/-- What every state a caller reaches satisfies, after constructions that added
`blocks`. -/
structure Process.Invariant (P : Process) (blocks : List SpecBlock) : Prop where
  world : P.world.Consistent blocks
  controllers : ∀ c ∈ P.controllers, OpenSprinklerController.Reachable c
  devices : ∀ d ∈ P.devices, OpenSprinkler.Reachable d

theorem Process.invariant_initial : Process.initial.Invariant [] :=
  ⟨World.consistent_initial, by simp [Process.initial], by simp [Process.initial]⟩

/-- One call keeps every object the caller holds one the plugin can build. -/
theorem Process.reachable_apply {P : Process}
    (hc : ∀ c ∈ P.controllers, OpenSprinklerController.Reachable c)
    (hd : ∀ d ∈ P.devices, OpenSprinkler.Reachable d) (ev : Event) :
    (∀ c ∈ (ev.apply P).controllers, OpenSprinklerController.Reachable c) ∧
      ∀ d ∈ (ev.apply P).devices, OpenSprinkler.Reachable d := by
  cases ev with
  | construct myDict =>
    simp only [Event.apply]
    split
    next c w h =>
      refine ⟨fun c' hc' => ?_, hd⟩
      rcases List.mem_append.mp hc' with hc' | hc'
      exacts [hc c' hc', List.mem_singleton.mp hc' ▸ Reachable.init h]
    next => exact ⟨hc, hd⟩
  | connect pwdDigest =>
    refine ⟨hc, fun d hd' => ?_⟩
    rcases List.mem_append.mp hd' with hd' | hd'
    exacts [hd d hd', List.mem_singleton.mp hd' ▸ OpenSprinkler.Reachable.init pwdDigest]
  | getController i resp =>
    simp only [Event.apply]
    split
    next d hdi =>
      simp only [OpenSprinkler.getController_eq, Option.toList, List.append_nil]
      refine ⟨hc, fun d' hd' => ?_⟩
      rcases List.mem_or_eq_of_mem_set hd' with h | rfl
      exacts [hd d' h, hd _ (List.getElem?_mem hdi)]
    next => exact ⟨hc, hd⟩
  | setProperty i varName varValue =>
    simp only [Event.apply]
    split
    next c hci =>
      refine ⟨fun c' hc' => ?_, hd⟩
      rcases List.mem_or_eq_of_mem_set hc' with h | rfl
      exacts [hc c' h, (hc c (List.getElem?_mem hci)).setProperty _ _]
    next => exact ⟨hc, hd⟩
  | startProgram | startStation | station => exact ⟨hc, hd⟩

/-- One call keeps the invariant, adding the block of a construction. -/
theorem Process.Invariant.apply {P : Process} {blocks : List SpecBlock} (hP : P.Invariant blocks)
    (ev : Event) : (ev.apply P).Invariant (blocks ++ ev.constructedBlock.toList) :=
  have h := Process.reachable_apply hP.controllers hP.devices ev
  ⟨hP.world.apply ev, h.1, h.2⟩

/-- The run lemma: a sequence of calls keeps the invariant, adding the blocks of
its constructions in order. -/
theorem Process.Invariant.run {P : Process} {blocks : List SpecBlock} (hP : P.Invariant blocks)
    (events : List Event) :
    (P.run events).Invariant (blocks ++ events.filterMap Event.constructedBlock) := by
  induction events generalizing P blocks with
  | nil => simpa using hP
  | cons ev rest ih =>
    have := ih (hP.apply ev)
    cases ev <;> simpa [Event.constructedBlock, List.filterMap_cons] using this

/-- Over every sequence of calls from a fresh process, in any order: the shared
program list stays empty; the shared station list is, for each construction of
the run in order, the code's record of the block of intended stations it read
(the `j`-th with index `j`, its flags `0` or `2 ** j`); every controller held
is one a construction returned, after `setProperty` calls; and every device
held still has the class as its `controller`. -/
theorem run_invariant (events : List Event) :
    (Process.initial.run events).Invariant (events.filterMap Event.constructedBlock) := by
  simpa using Process.invariant_initial.run events

/-! ## No command reaches the device -/

/-- `startStation` builds no command, on any device. -/
theorem startStationCommand_toOption_join (d : OpenSprinkler) (w : World)
    (stationReference tMinutes : JVal) :
    (d.startStationCommand w stationReference tMinutes).toOption.join = none := by
  cases h : d.startStationCommand w stationReference tMinutes with
  | error e => rfl
  | ok o => simp [Except.toOption, OpenSprinkler.startStationCommand_eq_ok d w _ _ h]

/-- In a state that keeps the invariant, no call passes a command to `write`. -/
theorem Process.Invariant.command_eq_none {P : Process} {blocks : List SpecBlock}
    (hP : P.Invariant blocks) (ev : Event) : ev.command P = none := by
  cases ev with
  | startProgram i programReference wxFlag =>
    simp only [Event.command]
    split
    next d hd =>
      rw [OpenSprinkler.startProgramCommand_of_cls (hP.devices d (List.getElem?_mem hd)).controller_eq]
      rfl
    next => rfl
  | startStation i stationReference tMinutes =>
    simp only [Event.command]
    split
    next d _ => exact startStationCommand_toOption_join d _ _ _
    next => rfl
  | _ => rfl

/-- In every state a sequence of calls from a fresh process reaches, on every
device the caller holds, `startProgram` raises before building its `mp` command
(`TypeError` for a number, `NameError` for anything else), `startStation` never
returns a `cm` command, and so no call passes a command to the device. -/
theorem run_command_eq_none (events : List Event) :
    (∀ d ∈ (Process.initial.run events).devices, ∀ programReference wxFlag,
      d.startProgramCommand programReference wxFlag =
        .error (if programReference.asInt.isSome then .typeError else .nameError "string")) ∧
    (∀ d ∈ (Process.initial.run events).devices, ∀ stationReference tMinutes o,
      d.startStationCommand (Process.initial.run events).world stationReference tMinutes = .ok o →
        o = none) ∧
    ∀ ev : Event, ev.command (Process.initial.run events) = none := by
  have hP := Process.invariant_initial.run events
  exact ⟨fun d hd => OpenSprinkler.startProgramCommand_of_cls (hP.devices d hd).controller_eq,
    fun d _ _ _ _ h => OpenSprinkler.startStationCommand_eq_ok d _ _ _ h, hP.command_eq_none⟩

end OpenSprinklerPlugin
