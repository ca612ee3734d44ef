import Mathlib.Data.List.Forall2
import OpenSprinklerPlugin.Python.Exec

/-!
# The controller's property registry

`OpenSprinklerController.__init__` starts from a fixed table of properties, each
naming the section of the snapshot it comes from and its abbreviated key there,
and overwrites each entry's default with the snapshot's value when the section
and the key are both present. `derived` entries are never resolved.

This file models the table, the resolution loop and the three accessors that
read and write it: `getProperty`, `getProperties` and `setProperty`.
`getProperty` is modelled as the source has it: its `else: raise` stands inside
the loop, so the loop never looks past the first entry, and the name it raises,
`UnknownPropertyError`, is bound nowhere in the module.

## Main definitions

* `controllerPropertyTable` — the 73 entries `__init__` assigns
* `resolveProperty`, `resolveProperties` — the resolution loop
* `OpenSprinklerController` — the attributes an instance holds itself
* `specValue` — the intended value of an entry in a snapshot

## Main results

* `resolveProperties_of_sectionsAreMappings` — on a snapshot whose sections are
  `dict`s, resolution succeeds and gives every entry its `specValue`
* `resolveProperty_val` — whatever the snapshot, a resolved entry holds the value
  at its path when that path can be read, and its default otherwise
* `getProperty_of_names` — on a registry listing the table's names, `getProperty`
  raises for every name but `device_time`
-/

namespace OpenSprinklerPlugin

/-- One entry of `controller_properties`, a `dict` with the keys `'name'`,
`'source'`, `'abbrev'` and `'val'`. A `derived` entry carries a `'formula'` in
place of `'abbrev'`; nothing reads the formula. -/
structure Property where
  name : String
  source : String
  abbrevName : Option String
  val : JVal
  deriving Repr, DecidableEq

namespace Property

/-- An entry read from `source` under the key `abbr`. -/
def ofSource (name source abbr : String) (val : JVal) : Property := ⟨name, source, some abbr, val⟩

/-- An entry whose source is `'derived'`. -/
def derived (name : String) (val : JVal) : Property := ⟨name, "derived", none, val⟩

/-- `prop['abbrev']`, a `KeyError` on an entry without the key. -/
def getAbbrev (p : Property) : Except PyErr String :=
  match p.abbrevName with
  | some a => .ok a
  | none => .error .keyError

end Property

open Property in
/-- The table `__init__` assigns to `self.controller_properties`. -/
def controllerPropertyTable : List Property := [
  ofSource "device_time" "settings" "devt" (.num 0),
  ofSource "num_boards" "settings" "nbrd" (.num 0),
  ofSource "enabled" "settings" "en" (.num 0),
  ofSource "rain_delay" "settings" "rd" (.num 0),
  ofSource "rain_sensor_status" "settings" "rs" (.num 0),
  ofSource "rain_delay_stop_time" "settings" "rdst" (.num 0),
  ofSource "location" "settings" "loc" (.str ""),
  ofSource "wunderground_api_key" "settings" "wtkey" (.str ""),
  ofSource "sunrise" "settings" "sunrise" (.num 0),
  ofSource "sunset" "settings" "sunset" (.num 0),
  ofSource "external_ip_address" "settings" "eip" (.num 0),
  ofSource "last_weather_call" "settings" "lwc" (.num 0),
  ofSource "last_successful_weather_call" "settings" "lswc" (.num 0),
  ofSource "last_run_record" "settings" "lrun" (.num 0),
  ofSource "weather_options" "settings" "wto" (.obj []),
  ofSource "firmware_version" "options" "fwv" (.num 0),
  ofSource "firmware_minor_version" "options" "fwm" (.num 0),
  ofSource "time_zone" "options" "tz" (.num 0),
  ofSource "ntp_synch_flag" "options" "ntp" (.num 0),
  ofSource "use_dhcp_flag" "options" "dhcp" (.num 0),
  ofSource "ip1" "options" "ip1" (.num 0),
  ofSource "ip2" "options" "ip2" (.num 0),
  ofSource "ip3" "options" "ip3" (.num 0),
  ofSource "ip4" "options" "ip4" (.num 0),
  ofSource "gw1" "options" "gw1" (.num 0),
  ofSource "gw2" "options" "gw2" (.num 0),
  ofSource "gw3" "options" "gw3" (.num 0),
  ofSource "gw4" "options" "gw4" (.num 0),
  ofSource "ntp1" "options" "ntp1" (.num 0),
  ofSource "ntp2" "options" "ntp2" (.num 0),
  ofSource "ntp3" "options" "ntp3" (.num 0),
  ofSource "ntp4" "options" "ntp4" (.num 0),
  ofSource "hp0" "options" "hp0" (.num 0),
  ofSource "hp1" "options" "hp1" (.num 0),
  ofSource "hardware_version" "options" "hwv" (.num 0),
  ofSource "hardware_type" "options" "hwt" (.num 0),
  ofSource "num_expansion_boards" "options" "ext" (.num 0),
  ofSource "station_delay_time" "options" "sdt" (.num 0),
  ofSource "master_station_1" "options" "mas" (.num 0),
  ofSource "master_station_2" "options" "mas2" (.num 0),
  ofSource "master_station_1_on_delay" "options" "mton" (.num 0),
  ofSource "master_station_2_on_delay" "options" "mton2" (.num 0),
  ofSource "master_station_1_off_delay" "options" "mtof" (.num 0),
  ofSource "master_station_2_off_delay" "options" "mtof2" (.num 0),
  ofSource "use_rain_sensor" "options" "urs" (.num 0),
  ofSource "rain_sensor_type" "options" "rso" (.num 0),
  ofSource "water_level" "options" "wl" (.num 0),
  ofSource "operation_enabled" "options" "den" (.num 0),
  ofSource "ignore_password" "options" "ipas" (.num 0),
  ofSource "device_id" "options" "devid" (.num 0),
  ofSource "lcd_contrast" "options" "con" (.num 0),
  ofSource "lcd_backlight" "options" "lit" (.num 0),
  ofSource "lcd_dimming" "options" "dim" (.num 0),
  ofSource "boost_time" "options" "bst" (.num 0),
  ofSource "weather_adjustment_method" "options" "uwt" (.num 0),
  ofSource "enable_logging" "options" "lg" (.num 0),
  ofSource "fpr0" "options" "fpr0" (.num 0),
  ofSource "fpr1" "options" "fpr1" (.num 0),
  ofSource "remote_extension_mode" "options" "re" (.num 0),
  ofSource "detected_extension_boards" "options" "dexp" (.num 0),
  ofSource "max_extension_boards" "options" "mexp" (.num 0),
  ofSource "station_names" "stations" "snames" (.arr []),
  ofSource "station_status" "status" "sn" (.arr []),
  ofSource "num_stations" "status" "nstations" (.num 0),
  ofSource "num_programs" "programs" "nprogs" (.num 0),
  ofSource "max_programs" "programs" "mnp" (.num 0),
  ofSource "max_start_times" "programs" "mnst" (.num 0),
  ofSource "program_name_size" "programs" "pnsize" (.num 0),
  derived "ntp_ipv4_address" (.str ""),
  derived "dhcp_ipv4_address" (.str ""),
  derived "gw_ipv4_address" (.str ""),
  derived "port_number" (.num 0),
  derived "flow_pulse_rate" (.str "")]
/-- The top-level sections of a snapshot. -/
def snapshotSections : List String := ["settings", "options", "stations", "status", "programs"]

/-- Every entry is `derived` or names one of the snapshot's sections and a key. -/
theorem table_entry_wellFormed :
    ∀ p ∈ controllerPropertyTable,
      p.source = "derived" ∨ (p.source ∈ snapshotSections ∧ p.abbrevName.isSome) := by
  decide

/-- One pass of the resolution loop. The source tests `prop['source'] is not
'derived'`; both literals are constants of one code object, which CPython
shares, so the identity test is the inequality test. -/
def resolveProperty (myDict : JVal) (prop : Property) : Except PyErr Property :=
  if prop.source = "derived" then .ok prop else do
    let abbrevName ← prop.getAbbrev
    match ← myDict.member prop.source with
    | none => return prop
    | some sec =>
      match ← sec.member abbrevName with
      | none => return prop
      | some v => return { prop with val := v }

/-- The resolution loop over the whole table; an exception leaves the loop and
`__init__` at once. -/
def resolveProperties (myDict : JVal) : List Property → Except PyErr (List Property)
  | [] => .ok []
  | prop :: rest => do
    let prop' ← resolveProperty myDict prop
    let rest' ← resolveProperties myDict rest
    return prop' :: rest'

/-- `myDict[sourceName][abbrevName]`. -/
def readPath (myDict : JVal) (sourceName abbrevName : String) : Except PyErr JVal := do
  (← myDict.getKey sourceName).getKey abbrevName

theorem readPath_toOption (d : JVal) (sourceName abbrevName : String) :
    (readPath d sourceName abbrevName).toOption =
      (d.getKey sourceName).toOption.bind fun sec => (sec.getKey abbrevName).toOption := by
  cases h : d.getKey sourceName <;> simp [readPath, h, bind, Except.bind, Except.toOption]

/-- A resolved entry holds the value at its path when the path can be read, and
keeps its default otherwise, whatever the snapshot. -/
theorem resolveProperty_val {d : JVal} {p p' : Property} {a : String}
    (hsrc : p.source ≠ "derived") (ha : p.abbrevName = some a)
    (h : resolveProperty d p = .ok p') :
    p'.val = ((readPath d p.source a).toOption).getD p.val := by
  simp only [resolveProperty, hsrc, if_false, Property.getAbbrev, ha, bind, Except.bind] at h
  rw [readPath_toOption]
  split at h
  · cases h
  · rename_i o hs
    rw [JVal.getKey_toOption_of_member hs]
    split at h
    · cases h; rfl
    · split at h
      · cases h
      · rename_i o' hs'
        rw [Option.some_bind, JVal.getKey_toOption_of_member hs']
        split at h <;> cases h <;> simp_all

/-- Resolution changes nothing but an entry's value. -/
theorem resolveProperty_eq_with_val {d : JVal} {p p' : Property}
    (h : resolveProperty d p = .ok p') : p' = { p with val := p'.val } := by
  simp only [resolveProperty, bind, Except.bind] at h
  split at h
  · cases h; rfl
  · repeat' split at h
    all_goals (cases h; try rfl)

theorem resolveProperties_eq_ok_iff {d : JVal} {props props' : List Property} :
    resolveProperties d props = .ok props' ↔
      List.Forall₂ (fun p p' => resolveProperty d p = .ok p') props props' := by
  induction props generalizing props' with
  | nil => simp [resolveProperties, List.forall₂_nil_left_iff, eq_comm]
  | cons p rest ih =>
    cases props' with
    | nil =>
      cases h1 : resolveProperty d p <;> cases h2 : resolveProperties d rest <;>
        simp [resolveProperties, h1, h2, List.forall₂_nil_right_iff, bind, Except.bind, pure,
          Except.pure]
    | cons p' rest' =>
      rw [List.forall₂_cons, ← ih]
      cases h1 : resolveProperty d p <;> cases h2 : resolveProperties d rest <;>
        simp [resolveProperties, h1, h2, bind, Except.bind, pure, Except.pure]

/-- The resolution loop keeps the table's names, in order. -/
theorem resolveProperties_names {d : JVal} {props props' : List Property}
    (h : resolveProperties d props = .ok props') :
    props'.map Property.name = props.map Property.name := by
  have hall := resolveProperties_eq_ok_iff.mp h
  clear h
  induction hall with
  | nil => rfl
  | cons hp _ ih => simp [ih, congrArg Property.name (resolveProperty_eq_with_val hp)]

/-! ## The intended resolution -/

/-- The value an entry is meant to take: an entry that is not `derived` takes
`s[section][key]` when the snapshot has the section and the section the key, and
keeps its default otherwise; a `derived` entry keeps its default. -/
def specValue (s : List (String × JVal)) (p : Property) : JVal :=
  if p.source = "derived" then p.val else
    match s.lookup p.source, p.abbrevName with
    | some sec, some a => (sec.get? a).getD p.val
    | _, _ => p.val

/-- The snapshot's sections are `dict`s wherever present. -/
def SectionsAreMappings (s : List (String × JVal)) : Prop :=
  ∀ sec ∈ snapshotSections, (s.lookup sec).all JVal.isObj

instance (s : List (String × JVal)) : Decidable (SectionsAreMappings s) :=
  inferInstanceAs (Decidable (∀ sec ∈ snapshotSections, _))

theorem resolveProperty_of_sectionsAreMappings {s : List (String × JVal)}
    (hs : SectionsAreMappings s) {p : Property}
    (hp : p.source = "derived" ∨ (p.source ∈ snapshotSections ∧ p.abbrevName.isSome)) :
    resolveProperty (.obj s) p = .ok { p with val := specValue s p } := by
  obtain ⟨name, source, abbrevName, val⟩ := p
  rcases hp with hd | ⟨hsec, ha⟩
  · simp_all [resolveProperty, specValue]
  obtain ⟨a, rfl⟩ := Option.isSome_iff_exists.mp ha
  have hd : source ≠ "derived" := fun h => by simp [h, snapshotSections] at hsec
  cases hl : s.lookup source with
  | none =>
    simp [resolveProperty, specValue, hd, hl, Property.getAbbrev, bind, Except.bind, pure,
      Except.pure]
  | some v =>
    have hv := hs _ hsec
    rw [hl] at hv
    cases v <;> simp [JVal.isObj] at hv
    rename_i kvs
    cases hk : kvs.lookup a <;>
      simp [resolveProperty, specValue, hd, hl, hk, Property.getAbbrev, JVal.get?,
        bind, Except.bind, pure, Except.pure]

/-- On a snapshot whose sections are `dict`s the resolution loop succeeds and
gives every entry of the table its intended value. -/
theorem resolveProperties_of_sectionsAreMappings {s : List (String × JVal)}
    (hs : SectionsAreMappings s) :
    resolveProperties (.obj s) controllerPropertyTable =
      .ok (controllerPropertyTable.map fun p => { p with val := specValue s p }) := by
  have hall := fun p hp => resolveProperty_of_sectionsAreMappings hs (table_entry_wellFormed p hp)
  generalize controllerPropertyTable = props at hall
  induction props with
  | nil => rfl
  | cons p rest ih =>
    simp [resolveProperties, hall p (List.mem_cons_self _ _),
      ih fun q hq => hall q (List.mem_cons_of_mem _ hq), bind, Except.bind, pure, Except.pure]

/-! ## The instance and its accessors -/

/-- The attributes an `OpenSprinklerController` instance holds itself. The class
attributes `controller_stations` and `controller_programs` are never assigned on
an instance, so they are state shared by all instances (`World`). -/
structure OpenSprinklerController where
  controllerProperties : List Property
  /-- `none` while `__init__` has not assigned it: reads then see the class
  attribute `False`. -/
  controllerEnabled : Option Bool
  deriving Repr, DecidableEq

namespace OpenSprinklerController

/-- `getProperty`. Its `else: raise` stands inside the loop, so the first entry
either matches or raises, and `UnknownPropertyError` is not bound in the module
(the class is `OS_UnknownPropertyError`), so evaluating the `raise` raises
`NameError`. An empty list would fall out of the loop and return `None`. -/
def getProperty (self : OpenSprinklerController) (varName : String) : Except PyErr JVal :=
  match self.controllerProperties with
  | [] => .ok .null
  | propItem :: _ =>
    if propItem.name = varName then .ok propItem.val
    else .error (.nameError "UnknownPropertyError")

/-- `getProperties`: the `{'name', 'val'}` pairs in table order. -/
def getProperties (self : OpenSprinklerController) : List (String × JVal) :=
  self.controllerProperties.map fun propItem => (propItem.name, propItem.val)

/-- `setProperty`: every entry of the name takes the value; the assignment in its
`try` cannot fail. -/
def setProperty (self : OpenSprinklerController) (varName : String) (varValue : JVal) :
    OpenSprinklerController :=
  { self with
    controllerProperties := self.controllerProperties.map fun propItem =>
      if propItem.name = varName then { propItem with val := varValue } else propItem }

/-- `isEnabled`: the instance attribute, or the class attribute `False`. -/
def isEnabled (self : OpenSprinklerController) : Bool := self.controllerEnabled.getD false

/-- `getNumStations`. -/
def getNumStations (self : OpenSprinklerController) : Except PyErr JVal :=
  self.getProperty "num_stations"

/-- `getNumPrograms`. -/
def getNumPrograms (self : OpenSprinklerController) : Except PyErr JVal :=
  self.getProperty "num_programs"

/-- `getHardwareVersion`. -/
def getHardwareVersion (self : OpenSprinklerController) : Except PyErr JVal :=
  self.getProperty "hardware_version"

/-- `getHardwareType`: `'AC Powered'` when `hardware_type == 172`, which holds
only for the number `172`. -/
def getHardwareType (self : OpenSprinklerController) : Except PyErr String := do
  return if (← self.getProperty "hardware_type").asInt == some 172 then "AC Powered" else "DC Powered"

/-- `getWxStatus`, with Python's `!=` on the two call records as `ne`: `True`
when the last weather call succeeded. Its `else` branch evaluates
`debug.error(...)`, and `debug` is bound nowhere. -/
def getWxStatus (ne : JVal → JVal → Bool) (self : OpenSprinklerController) :
    Except PyErr Bool := do
  if (← self.getProperty "wunderground_api_key").truthy then
    if ne (← self.getProperty "last_weather_call")
        (← self.getProperty "last_successful_weather_call") then
      return false
    else return true
  else throw (.nameError "debug")

/-- `getFirmwareVersion`, with Python's `str` as `str`. Its handler names
`InvalidProperty`, which is bound nowhere: an exception in the `try` makes the
`except` clause evaluate that name, and that raises `NameError`. -/
def getFirmwareVersion (str : JVal → String) (self : OpenSprinklerController) :
    Except PyErr String :=
  let body : Except PyErr String := do
    let fv ← self.getProperty "firmware_version"
    let fmv ← self.getProperty "firmware_minor_version"
    return (str fv).take 1 ++ "." ++ ((str fv).drop 1).take 1 ++ "." ++ (str fv).drop 2 ++
      " rev. " ++ str fmv
  match body with
  | .ok result => .ok result
  | .error _ => .error (.nameError "InvalidProperty")

@[simp] theorem setProperty_controllerEnabled (self : OpenSprinklerController) (n : String)
    (v : JVal) : (self.setProperty n v).controllerEnabled = self.controllerEnabled := rfl

@[simp] theorem isEnabled_setProperty (self : OpenSprinklerController) (n : String) (v : JVal) :
    (self.setProperty n v).isEnabled = self.isEnabled := rfl

/-- `getProperty` answers only for the first entry: on a registry that lists the
table's names, whose first is `device_time`, it raises `NameError` for every
other name. -/
theorem getProperty_of_names {c : OpenSprinklerController}
    (h : c.controllerProperties.map Property.name = controllerPropertyTable.map Property.name)
    {n : String} (hn : n ≠ "device_time") :
    c.getProperty n = .error (.nameError "UnknownPropertyError") := by
  cases hc : c.controllerProperties with
  | nil => simp [hc, controllerPropertyTable] at h
  | cons p rest =>
    have hp : p.name = "device_time" := by simpa [hc, controllerPropertyTable] using congrArg List.head? h
    simp [getProperty, hc, hp, Ne.symm hn]

theorem setProperty_names (self : OpenSprinklerController) (n : String) (v : JVal) :
    (self.setProperty n v).controllerProperties.map Property.name =
      self.controllerProperties.map Property.name := by
  simp only [setProperty, List.map_map]
  congr 1
  funext p
  by_cases h : p.name = n <;> simp [h]

end OpenSprinklerController

end OpenSprinklerPlugin
