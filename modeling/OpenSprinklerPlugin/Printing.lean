import OpenSprinklerPlugin.Device
import OpenSprinklerPlugin.Program.Construction
import OpenSprinklerPlugin.Program.Encode

/-!
# What the plugin prints

`OpenSprinklerController.print`, `OpenSprinklerController.list`,
`OpenSprinklerStation.print` and `OpenSprinklerProgram.print` write to standard
output, and two of them raise on the way.
Here the text written so far is the state of `PyM String`, so a method that
raises keeps the lines it printed before. Python's `str` is a parameter `str`
of each method: every result below holds whatever it gives.

* `OpenSprinklerController.print` reads `firmware_version` through
  `getProperty` right after its first line, so on every controller the plugin
  builds it prints that line and raises `NameError`.
* `OpenSprinklerProgram.print` reads `getStartTimes()[0]` after two lines. A
  program with fixed start times never keeps any (`setFixedStartTimes` raises),
  so printing it raises `IndexError`; on the integer tuples the device sends,
  that and a program whose start-time words are all `0` are the only programs
  whose printing raises.

## Main definitions

* `rjust` — `'%30s' % s`
* `OpenSprinklerController.print`, `OpenSprinklerController.list`,
  `OpenSprinklerStation.print`, `OpenSprinklerProgram.print`
* `OpenSprinklerProgram.zoneLines` — the lines of the zone loop
* `SpecProgram.printHeader` — the lines `print()` writes before the zones of a
  program whose first start time is given

## Main results

* `OpenSprinklerController.Reachable.print_raises` — `print()` stops after one line
* `OpenSprinklerProgram.print_of_getStartTimes_eq_nil` — a program with no start
  time stops after two lines
* `OpenSprinklerProgram.run_printZones_num` — the zone loop prints one line per
  positive duration, numbered by its position
* `OpenSprinklerProgram.build_print_ok_iff` — a program built from a
  `programs.pd` tuple prints to the end exactly when it holds a start time, and
  otherwise stops after two lines
* `OpenSprinklerProgram.new_print_fixed` — every fixed-time program, whatever its
  arguments, stops after two lines
* `OpenSprinklerProgram.run_print_toCode` — the text `print()` writes for the
  code's record of an intended program
* `OpenSprinklerProgram.print_build_encode` — a program the device sent, with
  repeating start times, prints its name, state, first start time, schedule and
  zones, an interval schedule with its interval and delay exchanged
-/

namespace OpenSprinklerPlugin

/-- `'%30s' % s`: `s` right-aligned in a field of `width` characters. -/
def rjust (width : Nat) (s : String) : String := "".pushn ' ' (width - s.length) ++ s

namespace OpenSprinklerController

/-- `print(label % self.getProperty(name))`. -/
def printProperty (str : JVal → String) (self : OpenSprinklerController) (label name : String) :
    PyM String Unit := do
  pyPrint (label ++ str (← PyM.lift (self.getProperty name)))

/-- `print()` of a controller. The Weather Underground line evaluates its
condition, `getProperty('wunderground_api_key')`, before its text. -/
def print (str : JVal → String) (self : OpenSprinklerController) : PyM String Unit := do
  pyPrint ("  This controller is: " ++ if self.isEnabled then "ENABLED" else "DISABLED")
  printProperty str self "    Firmware Version: " "firmware_version"
  printProperty str self "   # Physical boards: " "num_boards"
  printProperty str self "          # Stations: " "num_stations"
  printProperty str self "     Device Location: " "location"
  printProperty str self "  # Expansion Boards: " "num_expansion_boards"
  printProperty str self "   Device Local Time: " "device_time"
  printProperty str self "             Sunrise: " "sunrise"
  printProperty str self "              Sunset: " "sunset"
  if (← PyM.lift (self.getProperty "wunderground_api_key")).truthy then
    printProperty str self "Wunderground API Key: " "wunderground_api_key"
  else pyPrint "No Weather Underground API Key"
  printProperty str self " Last Weather Update: " "last_successful_weather_call"
  printProperty str self "     Weather Options: " "weather_options"
  printProperty str self "  Rain Sensor Status: " "rain_sensor_status"
  pyPrint ""

/-- The line `list()` prints for one property: `print('%30s : ' % name, val)`. -/
def listLine (str : JVal → String) (name : String) (val : JVal) : String :=
  rjust 30 name ++ " : " ++ " " ++ str val

/-- `list()`: a title, a header, and one line per property. -/
def list (str : JVal → String) (self : OpenSprinklerController) : PyM String Unit := do
  pyPrint "Controller Properties"
  pyPrint (rjust 30 "NAME" ++ " : " ++ " " ++ "VALUE")
  self.controllerProperties.forM fun propItem => pyPrint (listLine str propItem.name propItem.val)

/-- On every controller the plugin builds, `print()` prints whether it is enabled
and then raises `NameError` at `getProperty('firmware_version')`. -/
theorem Reachable.print_raises {c : OpenSprinklerController} (h : Reachable c)
    (str : JVal → String) (out : String) :
    (c.print str).run out = .error (.nameError "UnknownPropertyError")
      (out ++ ("  This controller is: " ++ if c.isEnabled then "ENABLED" else "DISABLED") ++ "\n") := by
  simp [print, printProperty, getProperty_of_names h.names (n := "firmware_version") (by decide),
    PyM.run_bind]

theorem print_raises_empty :
    ∃ c w, (init emptySnapshot).run World.initial = .ok c w ∧
      (c.print fun _ => "").run "" = .error (.nameError "UnknownPropertyError")
        ("" ++ ("  This controller is: " ++ if c.isEnabled then "ENABLED" else "DISABLED") ++ "\n") := by
  obtain ⟨c, w, h⟩ := init_emptySnapshot
  exact ⟨c, w, h, (Reachable.init h).print_raises _ _⟩

end OpenSprinklerController

/-- `print()` of a station: `'%i' % station_id` and `'%s'` of an `int` flag are
their decimal forms. -/
def OpenSprinklerStation.print (str : JVal → String) (self : OpenSprinklerStation) :
    PyM String Unit := do
  pyPrint ("  Station: " ++ toString self.stationId)
  pyPrint ("     Name: " ++ str self.stationName)
  pyPrint ("   Status: " ++ str self.status)
  pyPrint (" Ignore Rain: " ++ toString self.ignoreRainFlag)
  pyPrint (" Sequential: " ++ toString self.isSequentialFlag)
  pyPrint (" Disabled: " ++ toString self.isDisabledFlag)
  pyPrint (" Special: " ++ toString self.isSpecialFlag)
  pyPrint ""

namespace OpenSprinklerProgram

/-- `list(day.keys())[0]`: the first key of a `dict`; no other value has `keys`. -/
def firstKey : JVal → Except PyErr String
  | .obj [] => .error .indexError
  | .obj ((k, _) :: _) => .ok k
  | _ => .error (.attributeError "keys")

/-- One pass of the day loop: `print(' %s' % key if day[key] == True else '',
end='')`, where `key` is `list(day.keys())[0]`. A value equals `True` when it
is `True` or the number `1`. -/
def printDay (day : JVal) : PyM String Unit := do
  if (← PyM.lift (day.getKey (← PyM.lift (firstKey day)))).asInt == some 1 then
    pyWrite (" " ++ (← PyM.lift (firstKey day)))
  else pyWrite ""

/-- The zone loop over `enumerate(self.getDurations())` from `idx`: `zone > 0`
raises unless the zone is a number; the first zone printed has its own prefix. -/
def printZones (str : JVal → String) : Nat → Bool → List JVal → PyM String Unit
  | _, _, [] => pure ()
  | idx, isFirst, zone :: rest => do
    if 0 < (← PyM.lift zone.toInt) then
      pyPrint ((if isFirst then " " else "\t\t      ") ++ "Run Zone " ++ toString idx ++ " for " ++
        str zone ++ " seconds")
      printZones str (idx + 1) false rest
    else printZones str (idx + 1) isFirst rest

/-- The text of the zone loop for the zones it prints, each with its index and
duration: `Run Zone idx for z seconds`, the first with the prefix `' '`. -/
def zoneLines (str : JVal → String) : Bool → List (Nat × Int) → String
  | _, [] => ""
  | isFirst, (idx, z) :: rest =>
    ((if isFirst then " " else "\t\t      ") ++ "Run Zone " ++ toString idx ++ " for " ++
      str (.num z) ++ " seconds") ++ "\n" ++ zoneLines str false rest

/-- `print()` of a program. -/
def print (str : JVal → String) (self : OpenSprinklerProgram) : PyM String Unit := do
  pyPrint ("\tProgram Name: " ++ str self.getName)
  pyPrint ("\t     Enabled: " ++ str (.bool self.getEnabled))
  let x := self.getStartTimes
  let offset ← PyM.lift ((← PyM.lift (pyIndex x 0)).getKey "offset")
  let minus := (← PyM.lift ((← PyM.lift (pyIndex x 0)).getKey "sign")).eqStr "minus"
  let basis ← PyM.lift ((← PyM.lift (pyIndex x 0)).getKey "basis")
  pyPrint ("\t    Start at: " ++ str offset ++ " minutes " ++ (if minus then "before" else "after") ++
    " " ++ str basis)
  if self.getScheduleType = "Weekday" then
    pyWrite "\t      Run on:"
    self.getSchedule.forM printDay
    pyPrint " "
  else
    let interval ← PyM.lift ((← PyM.lift (pyIndex self.getSchedule 0)).getKey "interval")
    let delay ← PyM.lift ((← PyM.lift (pyIndex self.getSchedule 0)).getKey "delay")
    pyPrint ("\t         Run: every " ++ str interval ++ " days starting in " ++ str delay ++ " days")
  pyWrite "\t       Zones:"
  printZones str 0 true (← PyM.lift self.getDurations.iter)
  pyPrint " "

/-- A program with no start time prints its name and whether it is enabled, then
raises `IndexError` at `getStartTimes()[0]`. -/
theorem print_of_getStartTimes_eq_nil {p : OpenSprinklerProgram} (h : p.getStartTimes = [])
    (str : JVal → String) (out : String) :
    (p.print str).run out = .error .indexError
      (out ++ ("\tProgram Name: " ++ str p.getName) ++ "\n" ++
        ("\t     Enabled: " ++ str (.bool p.getEnabled)) ++ "\n") := by
  simp [print, h, pyIndex, PyM.run_bind]

/-- The zone loop returns on a list of numbers and prints one line for each
positive duration, numbered by its position. -/
theorem run_printZones_num (str : JVal → String) (zs : List Int) (idx : Nat) (isFirst : Bool)
    (out : String) :
    (printZones str idx isFirst (zs.map .num)).run out =
      .ok () (out ++ zoneLines str isFirst ((zs.enumFrom idx).filter fun z => 0 < z.2)) := by
  induction zs generalizing idx isFirst out with
  | nil => simp [printZones, zoneLines]
  | cons z rest ih =>
    by_cases hz : 0 < z
    · simp [-String.reduceAppend, printZones, PyM.run_bind, hz, ih, zoneLines, String.append_assoc]
    · simp [printZones, PyM.run_bind, hz, ih]

theorem run_printDay (k : String) (b : Bool) (out : String) :
    (printDay (.obj [(k, .bool b)])).run out = .ok () (out ++ if b then " " ++ k else "") := by
  cases b <;> simp [printDay, firstKey, PyM.run_bind, JVal.asInt, List.lookup_cons]

@[simp] theorem pyIndex_cons_zero {α : Type} (x : α) (xs : List α) : pyIndex (x :: xs) 0 = .ok x := by
  simp [pyIndex]

end OpenSprinklerProgram

/-! ## Printing a program the device sent -/

/-- The day loop's text for a weekday schedule: `' ' + name` for each scheduled
day, in order. -/
def scheduledDaysText : List (String × Bool) → String
  | [] => ""
  | d :: ds => (if d.2 then " " ++ d.1 else "") ++ scheduledDaysText ds

/-- The line `print()` writes for a schedule after the start line, without its
newline. -/
def Schedule.printLine (str : JVal → String) : Schedule → String
  | .weekday days => "\t      Run on:" ++ scheduledDaysText days ++ " "
  | .interval i d =>
    "\t         Run: every " ++ str (.num i) ++ " days starting in " ++ str (.num d) ++ " days"

/-- What `print()` writes for a program whose first start time is `s`, before
the zones. -/
def SpecProgram.printHeader (str : JVal → String) (p : SpecProgram) (s : RepeatingStart) :
    String :=
  "\tProgram Name: " ++ str p.name ++ "\n" ++
  "\t     Enabled: " ++ str (.bool p.enabled) ++ "\n" ++
  "\t    Start at: " ++ str (.num s.offsetMinutes.val) ++ " minutes " ++
    (if s.sign = .minus then "before" else "after") ++ " " ++ str (.str s.basis.str) ++ "\n" ++
  p.schedule.printLine str ++ "\n"

namespace OpenSprinklerProgram

/-- The day loop over the code's entries of a weekday schedule writes the
scheduled days. -/
theorem run_forM_printDay_toCode (days : List (String × Bool)) (out : String) :
    ((days.map fun d => JVal.obj [(d.1, .bool d.2)]).forM printDay).run out =
      .ok () (out ++ scheduledDaysText days) := by
  induction days generalizing out with
  | nil => simp [scheduledDaysText]
  | cons d ds ih =>
    show (printDay _ >>= fun _ =>
      (ds.map fun d => JVal.obj [(d.1, .bool d.2)]).forM printDay).run out = _
    rw [PyM.run_bind_of_ok _ (run_printDay d.1 d.2 out), ih]
    simp [scheduledDaysText, String.append_assoc]

theorem eqStr_sign_str (g : Sign) : (JVal.str g.str).eqStr "minus" = decide (g = .minus) := by
  cases g <;> rfl

/-- `print()` of the code's record of an intended program whose first start time
is `s` returns: it writes the header, then one line for each positive zone
duration, numbered by its position. -/
theorem run_print_toCode (str : JVal → String) (q : SpecProgram) {s : RepeatingStart}
    {rest : List RepeatingStart} (h : q.startTimes = .repeating (s :: rest)) (out : String) :
    (q.toCode.print str).run out = .ok () (out ++ q.printHeader str s ++ "\t       Zones:" ++
      zoneLines str true (q.zoneDurations.enum.filter fun z => 0 < z.2) ++ " " ++ "\n") := by
  obtain ⟨name, en, wx, r, sched, starts, durs⟩ := q
  obtain rfl : starts = _ := h
  cases sched <;> simp only [-String.reduceAppend, print, getName, getEnabled, getStartTimes,
    SpecProgram.toCode, List.map_nil, List.length_nil, gt_iff_lt, lt_self_iff_false, ↓reduceIte,
    List.map_cons, RepeatingStart.toCode, pyIndex_cons_zero, String.append_assoc, getScheduleType,
    String.reduceEq, getSchedule, Schedule.toCode, JVal.iter, getDurations,
    PyM.run_bind_eq_andThen, run_pyPrint, PyM.andThen_ok, PyM.run_lift_ok, JVal.getKey_obj,
    List.lookup_cons, String.reduceBEq, List.lookup_cons_self, eqStr_sign_str, decide_eq_true_eq,
    run_pyWrite, run_forM_printDay_toCode, run_printZones_num, List.enum_eq_enumFrom,
    SpecProgram.printHeader, Schedule.printLine]

/-- A program built from a `programs.pd` tuple of integers prints without raising
exactly when it holds a start time: flag bit 6 clear and a positive start-time
word. Otherwise printing raises `IndexError` at `getStartTimes()[0]`, after the
name and whether the program is enabled. -/
theorem build_print_ok_iff (r : RawProgram) (str : JVal → String) (out : String) :
    ((∃ out', (r.build.print str).run out = .ok () out') ↔
      r.flags.testBit 6 = false ∧ ∃ t ∈ r.startTimes, 0 < t) ∧
    (¬(r.flags.testBit 6 = false ∧ ∃ t ∈ r.startTimes, 0 < t) →
      (r.build.print str).run out = .error .indexError
        (out ++ ("\tProgram Name: " ++ str r.name) ++ "\n" ++
          ("\t     Enabled: " ++ str (.bool (r.flags.testBit 0))) ++ "\n")) := by
  have hst : r.build.getStartTimes =
      if r.flags.testBit 6 then [] else (r.startTimes.filter (0 < ·)).map repeatingStartTime := by
    simp [RawProgram.build, new_num, getStartTimes]
  have hnil : ¬(r.flags.testBit 6 = false ∧ ∃ t ∈ r.startTimes, 0 < t) →
      r.build.getStartTimes = [] := fun hne => by
    rw [hst]
    split_ifs with h6
    · rfl
    · simp_all [List.filter_eq_nil_iff]
  have hraise := fun hne => print_of_getStartTimes_eq_nil (hnil hne) str out
  refine ⟨⟨fun ⟨out', h⟩ => ?_, fun ⟨h6, t, ht, hpos⟩ => ?_⟩, fun hne => ?_⟩
  · by_contra hne
    rw [hraise hne] at h
    cases h
  · have hne : r.startTimes.filter (0 < ·) ≠ [] := fun h =>
      List.filter_eq_nil_iff.mp h t ht (by simpa using hpos)
    obtain ⟨t0, rest, hfilter⟩ := List.exists_cons_of_ne_nil hne
    have hstarts : r.decode.asBuilt.startTimes =
        .repeating (RawProgram.decodeStart t0 :: rest.map RawProgram.decodeStart) := by
      simp [SpecProgram.asBuilt, RawProgram.decode, h6, hfilter]
    rw [build_eq_toCode_asBuilt_decode]
    exact ⟨_, run_print_toCode str _ hstarts out⟩
  · rw [hraise hne]
    simp [RawProgram.build, new_num, getName, getEnabled]

/-- For every program a `programs.pd` tuple can carry whose start times are
repeating ones, `print()` of the program built from the tuple returns and writes
the name, whether it is enabled, the first start time and the schedule of
`asBuilt`, then one line for each positive zone duration, numbered by its
position: an interval program is shown with its interval and delay
exchanged. -/
theorem print_build_encode (str : JVal → String) (p : SpecProgram) (hp : p.Encodable)
    {s : RepeatingStart} {rest : List RepeatingStart}
    (hstarts : p.startTimes = .repeating (s :: rest)) (unused : Nat) (out : String) :
    ((p.encode unused).build.print str).run out =
      .ok () (out ++ p.asBuilt.printHeader str s ++ "\t       Zones:" ++
        zoneLines str true (p.zoneDurations.enum.filter fun z => 0 < z.2) ++ " " ++ "\n") := by
  have hkept : p.asBuilt.startTimes = .repeating (s :: rest) ∧
      p.asBuilt.zoneDurations = p.zoneDurations := by
    simp [SpecProgram.asBuilt, hstarts]
  rw [build_eq_toCode_asBuilt_decode, (SpecProgram.decode_encode_iff p unused).mpr hp,
    run_print_toCode str _ hkept.1, hkept.2]

theorem print_build_encode_intervalSunset :
    SpecProgram.intervalSunsetProgram.Encodable ∧
      SpecProgram.intervalSunsetProgram.startTimes = .repeating [⟨.sunset, .plus, 30⟩] ∧
      ((SpecProgram.intervalSunsetProgram.encode 0).build.print fun _ => "").run "" =
        .ok () ("" ++ SpecProgram.intervalSunsetProgram.asBuilt.printHeader (fun _ => "")
          ⟨.sunset, .plus, 30⟩ ++ "\t       Zones:" ++
          zoneLines (fun _ => "") true
            (SpecProgram.intervalSunsetProgram.zoneDurations.enum.filter fun z => 0 < z.2) ++
          " " ++ "\n") :=
  ⟨by decide, rfl, print_build_encode _ _ (by decide) rfl 0 ""⟩

end OpenSprinklerProgram

end OpenSprinklerPlugin
