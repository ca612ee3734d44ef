import OpenSprinklerPlugin.Controller.Decoding

/-!
# A controller's life in a process

After construction a controller changes only through `setProperty`, and its
station and program lists are those of the process. This file follows both.

* The registry read as a finite map (`valueOf`): every controller a process can
  reach lists the table's names in order, and `setProperty` is a last-write-wins
  update of one name. `getProperty` does not read that map: it answers for
  `device_time` and raises `NameError` for every other name.
* `isEnabled()` is fixed when `__init__` assigns `controller_enabled`: it agrees
  with the `enabled` property right after construction and no write changes it.
* The shared lists over a sequence of constructions: each appends its stations
  to the one list every controller's `getStations()` returns.

## Main definitions

* `OpenSprinklerController.Reachable` — the controllers a process can hold
* `OpenSprinklerController.valueOf` — the registry as a finite map
* `constructAll` — a sequence of constructions in one process

## Main results

* `Reachable.names` — a reachable controller lists the table's names in order
* `Reachable.valueOf_isSome_iff` — so `getProperties()` lists them, and the map is
  defined exactly on them
* `valueOf_setProperty` — `setProperty` updates one name of the map
* `Reachable.getProperty_of_ne` — `getProperty` raises for every name but the first
* `Reachable.getters_raise` — so does every getter built on it
* `constructAll_world` — a sequence of constructions appends every snapshot's
  stations to the one shared list
-/

namespace OpenSprinklerPlugin

namespace OpenSprinklerController

/-- The controllers a process can hold: one a construction returned, then any
sequence of `setProperty` calls. -/
inductive Reachable : OpenSprinklerController → Prop
  | init {myDict : JVal} {w w' : World} {c : OpenSprinklerController} :
      (init myDict).run w = .ok c w' → Reachable c
  | setProperty {c : OpenSprinklerController} (n : String) (v : JVal) :
      Reachable c → Reachable (c.setProperty n v)

/-- The value of `n` in the registry read as a map from names to values: the
first entry of that name, as `getProperties()` lists it. -/
def valueOf (c : OpenSprinklerController) (n : String) : Option JVal :=
  c.getProperties.lookup n

theorem valueOf_eq_find (c : OpenSprinklerController) (n : String) :
    c.valueOf n = (c.controllerProperties.find? fun p => p.name = n).map Property.val := by
  rw [valueOf, getProperties]
  induction c.controllerProperties with
  | nil => rfl
  | cons p rest ih =>
    by_cases h : p.name = n
    · simp [List.lookup_cons, List.find?, h]
    · simp [List.lookup_cons, List.find?, h, beq_false_of_ne (Ne.symm h), ih]

/-- Resolution keeps each entry's position: the first entry of a name in the
resolved list is the resolution of the first entry of that name. -/
theorem find?_resolveProperties {d : JVal} {props props' : List Property}
    (h : resolveProperties d props = .ok props') (n : String) {p : Property}
    (hp : props.find? (fun q => q.name = n) = some p) :
    ∃ p', props'.find? (fun q => q.name = n) = some p' ∧ resolveProperty d p = .ok p' := by
  have hall := resolveProperties_eq_ok_iff.mp h
  clear h
  induction hall with
  | nil => simp at hp
  | @cons q q' _ _ hq _ ih =>
    have hname : q'.name = q.name := (congrArg Property.name (resolveProperty_eq_with_val hq) :)
    by_cases hn : q.name = n
    · simp only [List.find?, hn, decide_True, Option.some.injEq] at hp
      exact ⟨q', by simp [hname, hn], hp ▸ hq⟩
    · simp only [List.find?, hn, decide_False] at hp
      obtain ⟨p', hp', hres⟩ := ih hp
      exact ⟨p', by simpa [hname, hn] using hp', hres⟩

/-- A construction that returns holds the resolved table. -/
theorem init_eq_ok_iff {myDict : JVal} {w w' : World} {c : OpenSprinklerController} :
    (init myDict).run w = .ok c w' ↔
      ∃ props, resolveProperties myDict controllerPropertyTable = .ok props ∧
        c = ⟨props, enabledOf myDict⟩ ∧
        w' = { w with controllerStations := w.controllerStations ++ appendedStations myDict } := by
  rw [run_init]
  cases resolveProperties myDict controllerPropertyTable with
  | error e => simp
  | ok props => simp [eq_comm]

/-- The registry of a reachable controller lists the table's names, in order. -/
theorem Reachable.names {c : OpenSprinklerController} (h : Reachable c) :
    c.controllerProperties.map Property.name = controllerPropertyTable.map Property.name := by
  induction h with
  | init h =>
    obtain ⟨props, hres, rfl, -⟩ := init_eq_ok_iff.mp h
    exact resolveProperties_names hres
  | setProperty n v _ ih => rw [setProperty_names, ih]

/-! ## The registry as a finite map -/

/-- A snapshot with no sections: every entry keeps its default. -/
def emptySnapshot : JVal := .obj []

theorem init_emptySnapshot :
    ∃ c w, (init emptySnapshot).run World.initial = .ok c w := by
  rw [run_init, emptySnapshot, resolveProperties_of_sectionsAreMappings (by decide)]
  exact ⟨_, _, rfl⟩

private theorem find?_map_overwrite (props : List Property) (n m : String) (v : JVal) :
    ((props.map fun p => if p.name = n then { p with val := v } else p).find?
        fun p => p.name = m).map Property.val =
      if m = n then (props.find? fun p => p.name = m).map fun _ => v
      else (props.find? fun p => p.name = m).map Property.val := by
  split_ifs with hmn
  · subst hmn
    induction props with
    | nil => rfl
    | cons p rest ih => by_cases hpn : p.name = m <;> simp [List.find?, hpn, ih, -List.find?_map]
  · induction props with
    | nil => rfl
    | cons p rest ih =>
      by_cases hpn : p.name = n
      · simp [List.find?, hpn, Ne.symm hmn, ih, -List.find?_map]
      · by_cases hpm : p.name = m <;> simp [List.find?, hpn, hpm, hmn, ih, -List.find?_map]

/-- `setProperty n v` is a last-write-wins update of the map at `n`, and leaves
the value of every other name as it was; a name the registry lacks stays absent. -/
theorem valueOf_setProperty (c : OpenSprinklerController) (n m : String) (v : JVal) :
    (c.setProperty n v).valueOf m =
      if m = n then (c.valueOf m).map fun _ => v else c.valueOf m := by
  rw [valueOf_eq_find, valueOf_eq_find, setProperty, find?_map_overwrite, Option.map_map]
  rfl

/-- On a reachable controller `getProperties()` lists the table's names in
declaration order, so the map is defined exactly on those names. -/
theorem Reachable.valueOf_isSome_iff {c : OpenSprinklerController} (h : Reachable c) :
    c.getProperties.map Prod.fst = controllerPropertyTable.map Property.name ∧
      ∀ n, (c.valueOf n).isSome ↔ n ∈ controllerPropertyTable.map Property.name := by
  refine ⟨by simpa [getProperties, List.map_map, Function.comp_def] using h.names, fun n => ?_⟩
  rw [← h.names]
  simp [valueOf_eq_find, List.find?_isSome]

theorem valueOf_isSome_iff_empty :
    ∃ c w, (init emptySnapshot).run World.initial = .ok c w ∧
      (c.getProperties.map Prod.fst = controllerPropertyTable.map Property.name ∧
        ∀ n, (c.valueOf n).isSome ↔ n ∈ controllerPropertyTable.map Property.name) := by
  obtain ⟨c, w, h⟩ := init_emptySnapshot
  exact ⟨c, w, h, (Reachable.init h).valueOf_isSome_iff⟩

/-- `getProperty` answers only for the first entry, `device_time`: for every
other name of a reachable controller, registered or not, it raises `NameError`
(the module binds no `UnknownPropertyError`). -/
theorem Reachable.getProperty_of_ne {c : OpenSprinklerController} (h : Reachable c) {n : String}
    (hn : n ≠ "device_time") : c.getProperty n = .error (.nameError "UnknownPropertyError") :=
  getProperty_of_names h.names hn

theorem getProperty_of_ne_empty :
    ∃ c w, (init emptySnapshot).run World.initial = .ok c w ∧ "num_boards" ≠ "device_time" ∧
      c.getProperty "num_boards" = .error (.nameError "UnknownPropertyError") := by
  obtain ⟨c, w, h⟩ := init_emptySnapshot
  exact ⟨c, w, h, by decide, (Reachable.init h).getProperty_of_ne (by decide)⟩

/-- `num_boards` is registered, yet after `OpenSprinklerController({})`
`getProperty('num_boards')` raises `NameError`, as it does for a name that is not
registered, where `OS_UnknownPropertyError` was to be raised. -/
theorem getProperty_raises_for_registered_name :
    ∃ c w, (init emptySnapshot).run World.initial = .ok c w ∧
      "num_boards" ∈ controllerPropertyTable.map Property.name ∧
      c.valueOf "num_boards" = some (.num 0) ∧
      c.getProperty "num_boards" = .error (.nameError "UnknownPropertyError") ∧
      c.getProperty "no_such_property" = .error (.nameError "UnknownPropertyError") := by
  have hres := resolveProperties_of_sectionsAreMappings (s := []) (by decide)
  refine ⟨_, _, by rw [run_init, emptySnapshot, hres], by decide, by decide,
    getProperty_of_resolved hres _ _ (by decide), getProperty_of_resolved hres _ _ (by decide)⟩

/-- Every getter that reads a property through `getProperty` raises `NameError`
on a reachable controller: none of them reads `device_time`. -/
theorem Reachable.getters_raise {c : OpenSprinklerController} (h : Reachable c) :
    c.getNumStations = .error (.nameError "UnknownPropertyError") ∧
      c.getNumPrograms = .error (.nameError "UnknownPropertyError") ∧
      c.getHardwareVersion = .error (.nameError "UnknownPropertyError") ∧
      c.getHardwareType = .error (.nameError "UnknownPropertyError") := by
  have hread : ∀ n, n ≠ "device_time" → c.getProperty n = .error (.nameError "UnknownPropertyError") :=
    fun _ => getProperty_of_names h.names
  simp [getNumStations, getNumPrograms, getHardwareVersion, getHardwareType, hread, bind,
    Except.bind]

theorem getters_raise_empty :
    ∃ c w, (init emptySnapshot).run World.initial = .ok c w ∧
      c.getNumStations = .error (.nameError "UnknownPropertyError") ∧
      c.getNumPrograms = .error (.nameError "UnknownPropertyError") ∧
      c.getHardwareVersion = .error (.nameError "UnknownPropertyError") ∧
      c.getHardwareType = .error (.nameError "UnknownPropertyError") := by
  obtain ⟨c, w, h⟩ := init_emptySnapshot
  exact ⟨c, w, h, (Reachable.init h).getters_raise⟩

/-- `getWxStatus` never reports a status, for any controller and whatever `!=`
means: it raises `NameError` for `debug` when the key reads as a false value
(`None` from an empty registry included), and for `UnknownPropertyError`
otherwise: the read of the key raises, or it succeeds, so the first entry is the
key, and the read of `last_weather_call` raises. -/
theorem getWxStatus_raises (ne : JVal → JVal → Bool) (c : OpenSprinklerController) :
    c.getWxStatus ne = .error (.nameError
      (match c.getProperty "wunderground_api_key" with
        | .ok v => if v.truthy then "UnknownPropertyError" else "debug"
        | .error _ => "UnknownPropertyError")) := by
  cases hc : c.controllerProperties with
  | nil => simp [getWxStatus, getProperty, hc, JVal.truthy, bind, Except.bind, throw, throwThe,
      MonadExceptOf.throw]
  | cons p rest =>
    by_cases hp : p.name = "wunderground_api_key"
    · cases hv : p.val.truthy <;>
        simp [getWxStatus, getProperty, hc, hp, hv, bind, Except.bind, throw, throwThe,
          MonadExceptOf.throw]
    · simp [getWxStatus, getProperty, hc, hp, bind, Except.bind]

/-- `getFirmwareVersion` raises `NameError` on every controller with a property,
whatever `str` gives: its two reads name different entries, so one of them
fails, and the handler then evaluates the unbound `InvalidProperty`. -/
theorem getFirmwareVersion_raises (str : JVal → String) {c : OpenSprinklerController}
    (h : c.controllerProperties ≠ []) :
    c.getFirmwareVersion str = .error (.nameError "InvalidProperty") := by
  obtain ⟨p, rest, hc⟩ := List.exists_cons_of_ne_nil h
  by_cases hp : p.name = "firmware_version" <;>
    simp [getFirmwareVersion, getProperty, hc, hp, bind, Except.bind]

theorem getFirmwareVersion_raises_table :
    (⟨controllerPropertyTable, none⟩ : OpenSprinklerController).controllerProperties ≠ [] ∧
      (⟨controllerPropertyTable, none⟩ : OpenSprinklerController).getFirmwareVersion
        (fun _ => "") = .error (.nameError "InvalidProperty") :=
  ⟨List.cons_ne_nil _ _, getFirmwareVersion_raises _ (List.cons_ne_nil _ _)⟩

/-! ## `isEnabled` -/

/-- `setProperty` calls in order. -/
def setProperties (c : OpenSprinklerController) (writes : List (String × JVal)) :
    OpenSprinklerController :=
  writes.foldl (fun c nv => c.setProperty nv.1 nv.2) c

theorem isEnabled_setProperties (c : OpenSprinklerController) (writes : List (String × JVal)) :
    (c.setProperties writes).isEnabled = c.isEnabled := by
  induction writes generalizing c with
  | nil => rfl
  | cons nv writes ih => rw [setProperties, List.foldl_cons, ← setProperties, ih, isEnabled_setProperty]

/-- Right after a construction that returns, the `enabled` property and
`isEnabled()` agree; no `setProperty` call changes `isEnabled()`, so after any
writes it is still the truthiness of the value `enabled` had at construction. -/
theorem isEnabled_fixed_at_construction (myDict : JVal) (w w' : World)
    (c : OpenSprinklerController) (h : (init myDict).run w = .ok c w') :
    ∃ v, c.valueOf "enabled" = some v ∧
      ∀ writes : List (String × JVal), (c.setProperties writes).isEnabled = v.truthy := by
  obtain ⟨props, hres, rfl, -⟩ := init_eq_ok_iff.mp h
  obtain ⟨p', hfind, hp'⟩ := find?_resolveProperties hres "enabled"
    (p := Property.ofSource "enabled" "settings" "en" (.num 0)) (by decide)
  have hval : p'.val = (readPath myDict "settings" "en").toOption.getD (.num 0) :=
    resolveProperty_val (by decide) rfl hp'
  refine ⟨p'.val, by simp [valueOf_eq_find, hfind], fun writes => ?_⟩
  rw [isEnabled_setProperties, hval, isEnabled, enabledOf]
  cases readPath myDict "settings" "en" <;> simp [Except.toOption, JVal.truthy]

theorem isEnabled_fixed_at_construction_enabledOnly :
    ∃ c w', (init (.obj enabledOnlySnapshot)).run World.initial = .ok c w' ∧
      ∃ v, c.valueOf "enabled" = some v ∧
        ∀ writes : List (String × JVal), (c.setProperties writes).isEnabled = v.truthy := by
  obtain ⟨c, w', h⟩ : ∃ c w', (init (.obj enabledOnlySnapshot)).run World.initial = .ok c w' := by
    rw [run_init, resolveProperties_of_sectionsAreMappings (by decide)]
    exact ⟨_, _, rfl⟩
  exact ⟨c, w', h, isEnabled_fixed_at_construction _ _ _ _ h⟩

/-- After `OpenSprinklerController({'settings': {'en': 1}})` and
`setProperty('enabled', 0)`, `getProperties()` lists `enabled` as `0` while
`isEnabled()` is still `True`. -/
theorem enabled_write_counterexample :
    ∃ c w, (init (.obj enabledOnlySnapshot)).run World.initial = .ok c w ∧
      (c.setProperty "enabled" (.num 0)).valueOf "enabled" = some (.num 0) ∧
      (JVal.num 0).truthy = false ∧ (c.setProperty "enabled" (.num 0)).isEnabled = true := by
  rw [run_init, resolveProperties_of_sectionsAreMappings (by decide)]
  exact ⟨_, _, rfl, by decide, rfl, rfl⟩

end OpenSprinklerController

/-! ## Constructions in one process -/

open OpenSprinklerController

/-- The stations a construction from `myDict` adds to the shared list: those the
station loop appends, or none when the resolution loop raises. -/
def addedStations (myDict : JVal) : List OpenSprinklerStation :=
  match resolveProperties myDict controllerPropertyTable with
  | .ok _ => appendedStations myDict
  | .error _ => []

/-- Whether it raises or returns, a construction leaves the shared station list
extended by `addedStations`, and the program list as it was. -/
theorem final_init (myDict : JVal) (w : World) :
    PyM.final ((init myDict).run w) =
      { w with controllerStations := w.controllerStations ++ addedStations myDict } := by
  rw [run_init, addedStations]
  cases resolveProperties myDict controllerPropertyTable <;> simp

/-- `OpenSprinklerController(s)` for each snapshot in turn, in one process: what
each construction returned (`none` where it raised, the caller catching the
exception), and the shared lists after the last. -/
def constructAll : List JVal → World → List (Option OpenSprinklerController) × World
  | [], w => ([], w)
  | myDict :: rest, w =>
    match (init myDict).run w with
    | .ok c w' => let out := constructAll rest w'; (some c :: out.1, out.2)
    | .error _ w' => let out := constructAll rest w'; (none :: out.1, out.2)

/-- A sequence of constructions appends the stations of every snapshot, in
order, to the one shared list, and leaves the program list as it was. -/
theorem constructAll_world (snapshots : List JVal) (w : World) :
    (constructAll snapshots w).2 = { w with controllerStations :=
      w.controllerStations ++ (snapshots.map addedStations).flatten } := by
  induction snapshots generalizing w with
  | nil => simp [constructAll]
  | cons myDict rest ih =>
    have hfinal := final_init myDict w
    cases h : (init myDict).run w <;> simp only [h, PyM.final_ok, PyM.final_error] at hfinal <;>
      simp [constructAll, h, ih, hfinal]

/-- Constructing twice from the three-station snapshot: the first construction,
from a fresh process, lists three stations; the second lists six, and so does
the first controller afterwards. -/
theorem second_construction_shares_stations :
    ∃ c₁ w₁ c₂ w₂, (init (.obj threeStationSnapshot)).run World.initial = .ok c₁ w₁ ∧
      (init (.obj threeStationSnapshot)).run w₁ = .ok c₂ w₂ ∧
      (c₁.getStations w₁).length = 3 ∧ (c₂.getStations w₂).length = 6 ∧
      (c₁.getStations w₂).length = 6 := by
  simp only [run_init, threeStationData.resolves,
    threeStationData.appendedStations_eq (by decide) (by decide)]
  exact ⟨_, _, _, _, rfl, rfl, rfl, rfl, rfl⟩

end OpenSprinklerPlugin
