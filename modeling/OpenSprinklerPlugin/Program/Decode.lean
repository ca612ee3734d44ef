import OpenSprinklerPlugin.Program.Constructor

/-!
# What a program decodes to

For integer flags and day words and integer lists of start times and durations
— the shape of every `programs.pd` tuple the device sends — `new_num` computes
`OpenSprinklerProgram(...)` completely. The flag-derived fields, the weekday
schedule and the repeating start times are the intended decoding; two parts
are not:

* an interval schedule holds `{'interval': days0, 'delay': days1}`, the two
  day words the other way round from the intended
  `{interval: days1, delay: days0}`;
* a program with fixed start times (flag bit 6) ends construction in
  `setFixedStartTimes`, with no start times and the class attribute `[]` as its
  durations.

The second half states the intended decoding over typed values (`SpecProgram`,
in which a program cannot hold both kinds of start time) and proves that the
code computes it, written back as the code's `dict`s, exactly for the programs
on which the two agree: weekday schedules with repeating start times.

## Main results

* `new_num` — the attributes of `OpenSprinklerProgram(...)` on integer data
* `build_eq_toCode_asBuilt_decode` — on every integer tuple the code computes the
  intended decoding with the interval record swapped and fixed start times
  dropped with the durations (`SpecProgram.asBuilt`)
* `new_eq_toCode_decode` — on a weekday program with repeating start times that
  is the intended decoding itself
* `build_eq_toCode_decode_iff` — the tuples on which the code computes the
  intended decoding
* `interval_fixed_program_diverges` — on an interval program with fixed start
  times it differs by the swapped interval record and the lost start times and
  durations
-/

namespace OpenSprinklerPlugin

namespace OpenSprinklerProgram

/-- A mask with one bit, as the source writes it (`1`, `0x800`, ...). -/
theorem land_bne_zero_of_eq_pow (x m : Int) (i : Nat) (hm : m = 2 ^ i) :
    (Int.land x m != 0) = x.testBit i := hm ▸ land_two_pow_bne_zero x i

theorem flagSet_num (f m : Int) (i : Nat) (hm : m = 2 ^ i) :
    flagSet (.num f) m = .ok (f.testBit i) := by
  simp [flagSet, land_bne_zero_of_eq_pow f m i hm, bind, Except.bind, pure, Except.pure]

/-- Flags that are not a number raise `TypeError` at the first mask. -/
theorem flagSet_of_asInt_eq_none {flags : JVal} (h : flags.asInt = none) (m : Int) :
    flagSet flags m = .error .typeError := by
  simp [flagSet, pyAnd, JVal.toInt, h, bind, Except.bind]

theorem restrictionOf_num (f : Int) :
    restrictionOf (.num f) = .ok (if f.testBit 2 then "Odd" else if f.testBit 3 then "Even" else "None") := by
  simp only [restrictionOf, flagSet_num f 4 2 rfl, flagSet_num f 8 3 rfl, bind, Except.bind]
  cases f.testBit 2 <;> cases f.testBit 3 <;> rfl

theorem scheduleTypeOf_num (f : Int) :
    scheduleTypeOf (.num f) = .ok (if f.testBit 4 || f.testBit 5 then "Interval" else "Weekday") := by
  simp only [scheduleTypeOf, flagSet_num f 16 4 rfl, flagSet_num f 32 5 rfl, bind, Except.bind]
  cases f.testBit 4 <;> cases f.testBit 5 <;> rfl

theorem startTimeTypeOf_num (f : Int) :
    startTimeTypeOf (.num f) = .ok (if f.testBit 6 then "Fixed" else "Repeating") := by
  simp only [startTimeTypeOf, flagSet_num f 64 6 rfl, bind, Except.bind]
  rfl

theorem weekdayLoop_num (d : Int) (days : List String) (i : Nat) :
    weekdayLoop (.num d) i days =
      .ok ((days.enumFrom i).map fun p => .obj [(p.2, .bool (d.testBit p.1))]) := by
  induction days generalizing i with
  | nil => rfl
  | cons day rest ih =>
    simp [weekdayLoop, ih, bind, Except.bind, pure, Except.pure]

theorem run_appendRepeating_num (xs : List Int) (p : OpenSprinklerProgram) :
    (appendRepeating (xs.map .num)).run p =
      .ok () { p with programRepeatingStartTimes :=
        p.programRepeatingStartTimes ++ (xs.filter (0 < ·)).map repeatingStartTime } := by
  induction xs generalizing p with
  | nil => simp [appendRepeating]
  | cons x rest ih =>
    by_cases hx : 0 < x <;> simp [appendRepeating, PyM.run_bind, hx, ih]


@[simp] theorem run_setName (n : JVal) (p : OpenSprinklerProgram) :
    (setName n).run p = .ok () { p with programName := n } := rfl
@[simp] theorem run_setEnabled (b : Bool) (p : OpenSprinklerProgram) :
    (setEnabled b).run p = .ok () { p with programEnabled := b } := rfl
@[simp] theorem run_setWxAdjustment (b : Bool) (p : OpenSprinklerProgram) :
    (setWxAdjustment b).run p = .ok () { p with programUseWeatherAdjustment := b } := rfl
@[simp] theorem run_setRestrictions (r : String) (p : OpenSprinklerProgram) :
    (setRestrictions r).run p = .ok () { p with programRestriction := r } := rfl
@[simp] theorem run_setScheduleType (t : String) (p : OpenSprinklerProgram) :
    (setScheduleType t).run p = .ok () { p with programScheduleType := t } := rfl
@[simp] theorem run_setStartTimeType (t : String) (p : OpenSprinklerProgram) :
    (setStartTimeType t).run p = .ok () { p with programStartTimeType := t } := rfl
@[simp] theorem run_setDurations (d : JVal) (p : OpenSprinklerProgram) :
    (setDurations d).run p = .ok () { p with programZoneDurations := d } := rfl
@[simp] theorem run_setIntervalSchedule (d0 d1 : JVal) (p : OpenSprinklerProgram) :
    (setIntervalSchedule d0 d1).run p =
      .ok () { p with programSchedule := [.obj [("interval", d1), ("delay", d0)]] } := rfl
@[simp] theorem run_setFixedStartTimes (st : JVal) (p : OpenSprinklerProgram) :
    (setFixedStartTimes st).run p = .error (.nameError "sTimes")
      { p with programFixedStartTimes := [], programRepeatingStartTimes := [] } := rfl

/-- The seven `{day: scheduled}` entries, Monday first, for an `int` `days0`. -/
def weekdayEntries (d0 : Int) : List JVal :=
  week.enum.map fun q => .obj [(q.2, .bool (d0.testBit q.1))]

theorem run_setWeekdaySchedule_num (d : Int) (p : OpenSprinklerProgram) :
    (setWeekdaySchedule (.num d)).run p = .ok () { p with programSchedule := weekdayEntries d } := by
  simp [setWeekdaySchedule, PyM.run_bind, weekdayLoop_num, weekdayEntries, List.enum]

theorem run_setRepeatingStartTimes_num (xs : List Int) (p : OpenSprinklerProgram) :
    (setRepeatingStartTimes (.arr (xs.map .num))).run p = .ok () { p with
      programFixedStartTimes := [],
      programRepeatingStartTimes := (xs.filter (0 < ·)).map repeatingStartTime } := by
  simp [setRepeatingStartTimes, PyM.run_bind, JVal.iter, run_appendRepeating_num]

theorem new_num (pname : JVal) (f d0 d1 : Int) (sTimes durs : List Int) :
    new pname (.num f) (.num d0) (.num d1) (.arr (sTimes.map .num)) (.arr (durs.map .num)) =
      { programName := pname
        programEnabled := f.testBit 0
        programUseWeatherAdjustment := f.testBit 1
        programRestriction := if f.testBit 2 then "Odd" else if f.testBit 3 then "Even" else "None"
        programScheduleType := if f.testBit 4 || f.testBit 5 then "Interval" else "Weekday"
        programStartTimeType := if f.testBit 6 then "Fixed" else "Repeating"
        programSchedule :=
          if f.testBit 4 || f.testBit 5 then [.obj [("interval", .num d0), ("delay", .num d1)]]
          else weekdayEntries d0
        programFixedStartTimes := []
        programRepeatingStartTimes :=
          if f.testBit 6 then [] else (sTimes.filter (0 < ·)).map repeatingStartTime
        programZoneDurations := if f.testBit 6 then .arr [] else .arr (durs.map .num) } := by
  simp only [new, init, PyM.run_swallow, PyM.run_bind, PyM.run_lift_ok, PyM.run_get,
    flagSet_num f 1 0 rfl, flagSet_num f 2 1 rfl, restrictionOf_num, scheduleTypeOf_num,
    startTimeTypeOf_num, run_setName, run_setEnabled, run_setWxAdjustment, run_setRestrictions,
    run_setScheduleType, run_setStartTimeType]
  cases h46 : (f.testBit 4 || f.testBit 5) <;> cases h6 : f.testBit 6 <;>
    simp [setSchedule, setStartTimes, getScheduleType, getStartTimeType, PyM.run_bind,
      run_setWeekdaySchedule_num, run_setRepeatingStartTimes_num, classDefaults]

/-- Flags that are not a number raise at `flags & 1`, right after `setName`: the
program keeps its name and the class attributes. -/
theorem new_of_asInt_eq_none (pname days0 days1 sTimes durs : JVal) {flags : JVal}
    (h : flags.asInt = none) :
    new pname flags days0 days1 sTimes durs = { classDefaults with programName := pname } := by
  simp [new, init, PyM.run_swallow, PyM.run_bind, flagSet_of_asInt_eq_none h]

end OpenSprinklerProgram

/-! ## The intended program -/

inductive Restriction | none | odd | even
  deriving DecidableEq, Repr

inductive Basis | midnight | sunrise | sunset
  deriving DecidableEq, Repr

inductive Sign | plus | minus
  deriving DecidableEq, Repr

/-- A repeating start time; its offset lies in `[0, 2047]` by its type. -/
structure RepeatingStart where
  basis : Basis
  sign : Sign
  offsetMinutes : Fin 2048
  deriving DecidableEq, Repr

/-- A weekday schedule (one entry per day, Monday first) or an interval one. -/
inductive Schedule
  | weekday (days : List (String × Bool))
  | interval (interval delay : Int)
  deriving DecidableEq, Repr

/-- Start times of one kind only: a program cannot hold fixed and repeating
start times at once. -/
inductive StartTimes
  | fixed (minutes : List Int)
  | repeating (starts : List RepeatingStart)
  deriving DecidableEq, Repr

/-- A program as the plugin means it; the schedule type and the start-time type are
the tags of `schedule` and `startTimes`. -/
structure SpecProgram where
  name : JVal
  enabled : Bool
  useWeatherAdjustment : Bool
  restriction : Restriction
  schedule : Schedule
  startTimes : StartTimes
  zoneDurations : List Int
  deriving DecidableEq, Repr

/-- A `programs.pd` tuple whose fields are integers and integer lists. -/
structure RawProgram where
  flags : Int
  days0 : Int
  days1 : Int
  startTimes : List Int
  durations : List Int
  name : JVal

namespace RawProgram

/-- The intended decoding of a repeating start-time word. -/
def decodeStart (t : Int) : RepeatingStart :=
  ⟨if t.testBit 13 then .sunset else if t.testBit 12 then .sunrise else .midnight,
    if t.testBit 11 then .plus else .minus,
    ⟨t.toNat &&& 0x7ff, Nat.lt_succ_of_le Nat.and_le_right⟩⟩

/-- The intended decoding: the flag bits, the schedule from the day words, and the start times
that are set (the zero slots are unused), fixed or decoded as repeating. -/
def decode (r : RawProgram) : SpecProgram where
  name := r.name
  enabled := r.flags.testBit 0
  useWeatherAdjustment := r.flags.testBit 1
  restriction := if r.flags.testBit 2 then .odd else if r.flags.testBit 3 then .even else .none
  schedule :=
    if r.flags.testBit 4 || r.flags.testBit 5 then .interval r.days1 r.days0
    else .weekday (OpenSprinklerProgram.week.enum.map fun q => (q.2, r.days0.testBit q.1))
  startTimes :=
    if r.flags.testBit 6 then .fixed (r.startTimes.filter (0 < ·))
    else .repeating ((r.startTimes.filter (0 < ·)).map decodeStart)
  zoneDurations := r.durations

/-- The program the code builds from the tuple. -/
def build (r : RawProgram) : OpenSprinklerProgram :=
  OpenSprinklerProgram.new r.name (.num r.flags) (.num r.days0) (.num r.days1)
    (.arr (r.startTimes.map .num)) (.arr (r.durations.map .num))

end RawProgram

/-! ## The intended program in the code's representation -/

def Restriction.str : Restriction → String
  | .none => "None"
  | .odd => "Odd"
  | .even => "Even"

def Basis.str : Basis → String
  | .midnight => "Midnight"
  | .sunrise => "Sunrise"
  | .sunset => "Sunset"

def Sign.str : Sign → String
  | .plus => "plus"
  | .minus => "minus"

/-- The `dict` the code stores for a repeating start time. -/
def RepeatingStart.toCode (s : RepeatingStart) : JVal :=
  .obj [("basis", .str s.basis.str), ("sign", .str s.sign.str), ("offset", .num s.offsetMinutes.val)]

/-- The list of `dict`s the code stores for a schedule. -/
def Schedule.toCode : Schedule → List JVal
  | .weekday days => days.map fun d => .obj [(d.1, .bool d.2)]
  | .interval i d => [.obj [("interval", .num i), ("delay", .num d)]]

/-- The attributes the code would hold for an intended program. -/
def SpecProgram.toCode (p : SpecProgram) : OpenSprinklerProgram where
  programName := p.name
  programEnabled := p.enabled
  programUseWeatherAdjustment := p.useWeatherAdjustment
  programRestriction := p.restriction.str
  programScheduleType := match p.schedule with
    | .weekday _ => "Weekday"
    | .interval _ _ => "Interval"
  programStartTimeType := match p.startTimes with
    | .fixed _ => "Fixed"
    | .repeating _ => "Repeating"
  programSchedule := p.schedule.toCode
  programFixedStartTimes := match p.startTimes with
    | .fixed minutes => minutes.map .num
    | .repeating _ => []
  programRepeatingStartTimes := match p.startTimes with
    | .fixed _ => []
    | .repeating starts => starts.map RepeatingStart.toCode
  programZoneDurations := .arr (p.zoneDurations.map .num)

/-- What the code keeps of a schedule: an interval schedule with its interval
and delay exchanged. -/
def Schedule.asBuilt : Schedule → Schedule
  | .weekday days => .weekday days
  | .interval i d => .interval d i

/-- What the code keeps of a program: an interval schedule with the interval and
the delay exchanged, and for fixed start times no start time and no duration. -/
def SpecProgram.asBuilt (p : SpecProgram) : SpecProgram :=
  { p with
    schedule := p.schedule.asBuilt
    startTimes := match p.startTimes with
      | .fixed _ => .fixed []
      | .repeating starts => .repeating starts
    zoneDurations := match p.startTimes with
      | .fixed _ => []
      | .repeating _ => p.zoneDurations }

namespace OpenSprinklerProgram

/-- The code's start-time `dict` is the intended decoding of the word. -/
theorem repeatingStartTime_eq {t : Int} (ht : 0 < t) :
    repeatingStartTime t = (RawProgram.decodeStart t).toCode := by
  lift t to Nat using Int.le_of_lt ht
  simp only [repeatingStartTime, RawProgram.decodeStart, RepeatingStart.toCode,
    land_bne_zero_of_eq_pow _ 0x2000 13 rfl, land_bne_zero_of_eq_pow _ 0x1000 12 rfl,
    land_bne_zero_of_eq_pow _ 0x800 11 rfl, Int.toNat_natCast]
  congr 3 <;> split_ifs <;> rfl

/-- From every `programs.pd` tuple of integers the code builds the record of the
intended decoding as it keeps it (`SpecProgram.asBuilt`): an interval schedule
with its interval and delay exchanged, and fixed start times dropped together
with the durations. -/
theorem build_eq_toCode_asBuilt_decode (r : RawProgram) : r.build = r.decode.asBuilt.toCode := by
  have hstarts : (r.startTimes.filter (0 < ·)).map repeatingStartTime =
      (r.startTimes.filter (0 < ·)).map (RepeatingStart.toCode ∘ RawProgram.decodeStart) :=
    List.map_congr_left fun t ht => repeatingStartTime_eq (of_decide_eq_true (List.mem_filter.mp ht).2)
  have hr : (if r.flags.testBit 2 then "Odd" else if r.flags.testBit 3 then "Even" else "None") =
      (if r.flags.testBit 2 then Restriction.odd else if r.flags.testBit 3 then .even else .none).str := by
    split_ifs <;> rfl
  simp only [RawProgram.build, new_num, RawProgram.decode, SpecProgram.asBuilt, SpecProgram.toCode,
    hr]
  cases r.flags.testBit 4 || r.flags.testBit 5 <;> cases r.flags.testBit 6 <;>
    simp [Schedule.asBuilt, Schedule.toCode, weekdayEntries, hstarts, List.map_map]

/-- On a weekday program with repeating start times the code computes the intended
decoding, written as the code's `dict`s. -/
theorem new_eq_toCode_decode (r : RawProgram)
    (hweekday : (r.flags.testBit 4 || r.flags.testBit 5) = false)
    (hrepeating : r.flags.testBit 6 = false) :
    r.build = r.decode.toCode := by
  rw [build_eq_toCode_asBuilt_decode]
  congr 1
  simp [SpecProgram.asBuilt, RawProgram.decode, hweekday, hrepeating, Schedule.asBuilt]

/-- The code computes the intended decoding of a `programs.pd` tuple of integers
exactly when the two agree on what the code changes: an interval tuple has equal
day words, and a fixed-time tuple has no positive start-time word and no
duration. -/
theorem build_eq_toCode_decode_iff (r : RawProgram) :
    r.build = r.decode.toCode ↔
      ((r.flags.testBit 4 || r.flags.testBit 5) = true → r.days0 = r.days1) ∧
        (r.flags.testBit 6 = true → (∀ t ∈ r.startTimes, t ≤ 0) ∧ r.durations = []) := by
  rw [build_eq_toCode_asBuilt_decode]
  simp only [RawProgram.decode, SpecProgram.asBuilt, SpecProgram.toCode]
  cases r.flags.testBit 4 || r.flags.testBit 5 <;> cases r.flags.testBit 6 <;>
    simp only [Bool.false_eq_true, ↓reduceIte, Schedule.asBuilt, Schedule.toCode,
      OpenSprinklerProgram.mk.injEq, true_and, and_true] <;>
    simp only [List.map_nil, JVal.arr.injEq, @eq_comm (List JVal) [], List.map_eq_nil_iff,
      List.filter_eq_nil_iff, decide_eq_true_eq, Int.not_lt, List.cons.injEq, JVal.obj.injEq,
      Prod.mk.injEq, JVal.num.injEq, true_and, and_true, false_implies, true_implies, and_self,
      @eq_comm _ r.days0]

end OpenSprinklerProgram

/-- A weekday program: enabled, Monday and Sunday, one start at sunset plus 30
minutes. -/
def sunsetProgram : RawProgram := ⟨1, 65, 0, [0x2000 + 0x800 + 30], [600], .str "p"⟩

theorem new_eq_toCode_decode_sunset :
    (sunsetProgram.flags.testBit 4 || sunsetProgram.flags.testBit 5) = false ∧
      sunsetProgram.flags.testBit 6 = false ∧ sunsetProgram.build = sunsetProgram.decode.toCode :=
  ⟨by decide, by decide, OpenSprinklerProgram.new_eq_toCode_decode sunsetProgram (by decide) (by decide)⟩

/-- An interval program (flag bit 4) with fixed start times (bit 6), `days0 = 5`,
`days1 = 3`, one start time and one duration. -/
def intervalFixedProgram : RawProgram := ⟨80, 5, 3, [100], [60], .str "p"⟩

/-- On `intervalFixedProgram` the code stores `{interval: 5, delay: 3}` where
the intended decoding has `{interval: 3, delay: 5}`, and no start times and no durations where
it keeps `[100]` and `[60]`. -/
theorem interval_fixed_program_diverges :
    intervalFixedProgram.build.getSchedule = [.obj [("interval", .num 5), ("delay", .num 3)]] ∧
      intervalFixedProgram.build.getStartTimes = [] ∧
      intervalFixedProgram.build.getDurations = .arr [] ∧
      intervalFixedProgram.decode.toCode.getSchedule =
        [.obj [("interval", .num 3), ("delay", .num 5)]] ∧
      intervalFixedProgram.decode.toCode.getStartTimes = [.num 100] ∧
      intervalFixedProgram.decode.toCode.getDurations = .arr [.num 60] := by
  decide

end OpenSprinklerPlugin
