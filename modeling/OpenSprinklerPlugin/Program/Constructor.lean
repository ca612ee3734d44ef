import OpenSprinklerPlugin.Python.Exec

/-!
# Programs: the record, its setters and `__init__`

`OpenSprinklerProgram.__init__` calls nine setters in a row inside one
`try`/`except`, so a setter that raises ends construction there and leaves the
program with the attributes set before it; attributes never set read the class
attributes. Two setters are modelled as the source has them:

* `setSchedule` passes `(d1, d0)` to `setIntervalSchedule(self, d0, d1)`, which
  stores `{'interval': d1, 'delay': d0}`: the interval is `days0` and the delay
  `days1`.
* `setFixedStartTimes(self, startTimes)` clears both start-time lists and then
  loops over `sTimes`, a name bound nowhere in its scope: it always raises
  `NameError`, so `setDurations` is never reached for a fixed-time program.

## Main definitions

* `OpenSprinklerProgram` — the attributes, with `classDefaults`
* the setters, `setWeekdaySchedule` and `setRepeatingStartTimes` with their loops
* `OpenSprinklerProgram.init` — `__init__` in `PyM`
* `OpenSprinklerProgram.new` — the program `OpenSprinklerProgram(...)` returns
-/

namespace OpenSprinklerPlugin

/-- The attributes of an `OpenSprinklerProgram`. Schedules and repeating start
times are lists of `dict`s, kept as JSON values. -/
structure OpenSprinklerProgram where
  programName : JVal
  programEnabled : Bool
  programUseWeatherAdjustment : Bool
  programRestriction : String
  programScheduleType : String
  programStartTimeType : String
  programSchedule : List JVal
  programFixedStartTimes : List JVal
  programRepeatingStartTimes : List JVal
  programZoneDurations : JVal
  deriving Repr, DecidableEq

namespace OpenSprinklerProgram

/-- The class attributes, which an instance reads until it assigns its own. None
of them is mutated in place, so they stay at these values. -/
def classDefaults : OpenSprinklerProgram :=
  ⟨.str "", false, false, "", "", "", [], [], [], .arr []⟩

/-- `week`. -/
def week : List String := ["Monday", "Tuesday", "Wednesday", "Thursday", "Friday", "Saturday", "Sunday"]

/-! ## Getters -/

def getName (self : OpenSprinklerProgram) : JVal := self.programName
def getEnabled (self : OpenSprinklerProgram) : Bool := self.programEnabled
def getWxAdjustment (self : OpenSprinklerProgram) : Bool := self.programUseWeatherAdjustment
def getScheduleType (self : OpenSprinklerProgram) : String := self.programScheduleType
def getStartTimeType (self : OpenSprinklerProgram) : String := self.programStartTimeType
def getSchedule (self : OpenSprinklerProgram) : List JVal := self.programSchedule
def getDurations (self : OpenSprinklerProgram) : JVal := self.programZoneDurations

/-- `getStartTimes`: the fixed start times when there are any, else the
repeating ones. -/
def getStartTimes (self : OpenSprinklerProgram) : List JVal :=
  if self.programFixedStartTimes.length > 0 then self.programFixedStartTimes
  else self.programRepeatingStartTimes

/-! ## Setters -/

abbrev M := PyM OpenSprinklerProgram

def setName (progname : JVal) : M Unit := modify fun p => { p with programName := progname }

def setEnabled (isEnabled : Bool) : M Unit := modify fun p => { p with programEnabled := isEnabled }

def setWxAdjustment (wxadj : Bool) : M Unit :=
  modify fun p => { p with programUseWeatherAdjustment := wxadj }

def setRestrictions (restriction : String) : M Unit :=
  modify fun p => { p with programRestriction := restriction }

def setScheduleType (stype : String) : M Unit :=
  modify fun p => { p with programScheduleType := stype }

def setStartTimeType (timetype : String) : M Unit :=
  modify fun p => { p with programStartTimeType := timetype }

/-- The loop of `setWeekdaySchedule` over `enumerate(self.week)`, from day
`dayIndex`: `{day_name: True if (d0 & 2 ** day_index) else False}` per day. -/
def weekdayLoop (d0 : JVal) : Nat → List String → Except PyErr (List JVal)
  | _, [] => .ok []
  | dayIndex, dayName :: rest => do
    let isScheduled := (← pyAnd d0 (2 ^ dayIndex)) != 0
    let schedule ← weekdayLoop d0 (dayIndex + 1) rest
    return .obj [(dayName, .bool isScheduled)] :: schedule

def setWeekdaySchedule (d0 : JVal) : M Unit := do
  let schedule ← PyM.lift (weekdayLoop d0 0 week)
  modify fun p => { p with programSchedule := schedule }

def setIntervalSchedule (d0 d1 : JVal) : M Unit :=
  modify fun p => { p with programSchedule := [.obj [("interval", d1), ("delay", d0)]] }

def setSchedule (pstype : String) (d0 d1 : JVal) : M Unit :=
  if pstype = "Weekday" then setWeekdaySchedule d0 else setIntervalSchedule d1 d0

/-- The `dict` `setRepeatingStartTimes` builds from a start-time word. -/
def repeatingStartTime (sTime : Int) : JVal :=
  let startBasis :=
    if Int.land sTime 0x2000 != 0 then "Sunset"
    else if Int.land sTime 0x1000 != 0 then "Sunrise" else "Midnight"
  let sign := if Int.land sTime 0x800 != 0 then "plus" else "minus"
  .obj [("basis", .str startBasis), ("sign", .str sign), ("offset", .num (Int.land sTime 0x7ff))]

/-- The loop of `setRepeatingStartTimes`. `sTime > 0` raises `TypeError` unless
`sTime` is a number, and the masks then read that same number. -/
def appendRepeating : List JVal → M Unit
  | [] => pure ()
  | sTime :: rest => do
    let n ← PyM.lift sTime.toInt
    if 0 < n then
      modify fun p =>
        { p with programRepeatingStartTimes := p.programRepeatingStartTimes ++ [repeatingStartTime n] }
    appendRepeating rest

def setRepeatingStartTimes (sTimes : JVal) : M Unit := do
  modify fun p => { p with programFixedStartTimes := [], programRepeatingStartTimes := [] }
  appendRepeating (← PyM.lift sTimes.iter)

/-- `setFixedStartTimes(self, startTimes)`: after clearing both lists its loop
reads `sTimes`, which is not bound there. -/
def setFixedStartTimes (_startTimes : JVal) : M Unit := do
  modify fun p => { p with programFixedStartTimes := [], programRepeatingStartTimes := [] }
  throw (.nameError "sTimes")

def setStartTimes (psttype : String) (sTimes : JVal) : M Unit :=
  if psttype = "Fixed" then setFixedStartTimes sTimes else setRepeatingStartTimes sTimes

def setDurations (durations : JVal) : M Unit :=
  modify fun p => { p with programZoneDurations := durations }

/-! ## `__init__` -/

/-- `True if flags & m else False`. -/
def flagSet (flags : JVal) (m : Int) : Except PyErr Bool := do
  return (← pyAnd flags m) != 0

/-- `'Odd' if flags & 4 else 'Even' if flags & 8 else 'None'`. -/
def restrictionOf (flags : JVal) : Except PyErr String := do
  if ← flagSet flags 4 then return "Odd"
  else if ← flagSet flags 8 then return "Even"
  else return "None"

/-- `'Weekday' if not ((flags & 16) or (flags & 32)) else 'Interval'`. -/
def scheduleTypeOf (flags : JVal) : Except PyErr String := do
  let either ← if ← flagSet flags 16 then pure true else flagSet flags 32
  return if !either then "Weekday" else "Interval"

/-- `'Fixed' if flags & 64 else 'Repeating'`. -/
def startTimeTypeOf (flags : JVal) : Except PyErr String := do
  return if ← flagSet flags 64 then "Fixed" else "Repeating"

/-- `OpenSprinklerProgram.__init__`: the setters in order inside a `try` whose
`except` only logs. -/
def init (pname flags days0 days1 sTimes durs : JVal) : M Unit := PyM.swallow do
  setName pname
  setEnabled (← PyM.lift (flagSet flags 1))
  setWxAdjustment (← PyM.lift (flagSet flags 2))
  setRestrictions (← PyM.lift (restrictionOf flags))
  setScheduleType (← PyM.lift (scheduleTypeOf flags))
  setStartTimeType (← PyM.lift (startTimeTypeOf flags))
  setSchedule (← get).getScheduleType days0 days1
  setStartTimes (← get).getStartTimeType sTimes
  setDurations durs

/-- The program `OpenSprinklerProgram(pname, flags, days0, days1, sTimes, durs)`
returns; construction never raises. -/
def new (pname flags days0 days1 sTimes durs : JVal) : OpenSprinklerProgram :=
  PyM.final ((init pname flags days0 days1 sTimes durs).run classDefaults)

end OpenSprinklerProgram

end OpenSprinklerPlugin
