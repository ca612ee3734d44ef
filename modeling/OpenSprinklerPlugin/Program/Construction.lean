import OpenSprinklerPlugin.Program.Decode

/-!
# What a program holds, whatever its arguments

`OpenSprinklerProgram.__init__` runs its setters in order and stops at the first
that raises, keeping what the earlier ones set. On any arguments, not only on
the integers of a well-formed `programs.pd` tuple, three things decide where it
stops:

* `flags & 1` raises unless `flags` is a number, right after `setName`;
* a weekday schedule reads `days0 & 2 ** i`, which raises unless `days0` is a
  number; an interval schedule stores `days0` and `days1` as they are;
* `setFixedStartTimes` always raises, and `setRepeatingStartTimes` compares each
  item of `sTimes` with `0`, which raises at the first item that is not a number:
  the start times before it are kept.

`new_eq` says this once, as a program built stage by stage (`flagFields`,
`startTimesStage`), and `new_cases` splits it into the three places construction
can stop; every property below is read off `new_cases`.

## Main definitions

* `OpenSprinklerProgram.leadingInts`, `OpenSprinklerProgram.repeatingOf` — the
  numbers `sTimes` starts with, and the positive ones among them as start times
* `OpenSprinklerProgram.allNumbers` — whether every item of `sTimes` is a number
* `OpenSprinklerProgram.flagFields`, `OpenSprinklerProgram.startTimesStage` — the
  program after the flag setters, and after the start-time setters
* `OpenSprinklerProgram.reachesRepeating` — whether `setRepeatingStartTimes` runs

## Main results

* `new_eq`, `new_cases` — the program `OpenSprinklerProgram(...)` returns, for
  any arguments
* `new_programFixedStartTimes` — no program ever holds a fixed start time
* `new_programRepeatingStartTimes`, `new_programZoneDurations` — the start times
  and the durations of every program
* `new_getStartTimes_decode` — every start time a program reports encodes a
  well-formed repeating start time
-/

namespace OpenSprinklerPlugin

namespace OpenSprinklerProgram

/-! ## The setters on any arguments -/

/-- The numbers `for sTime in sTimes: if sTime > 0` compares before the first
item that is not a number. -/
def leadingInts : List JVal → List Int
  | [] => []
  | x :: rest =>
    match x.asInt with
    | some n => n :: leadingInts rest
    | none => []

/-- The start-time loop keeps the positive numbers before the first item that is
not a number, and raises there. -/
theorem run_appendRepeating (items : List JVal) (p : OpenSprinklerProgram) :
    (appendRepeating items).run p =
      PyM.result (if items.all (fun x => x.asInt.isSome) then none else some .typeError)
        { p with programRepeatingStartTimes := p.programRepeatingStartTimes ++
          ((leadingInts items).filter (0 < ·)).map repeatingStartTime } := by
  induction items generalizing p with
  | nil => simp [appendRepeating, leadingInts, PyM.result]
  | cons x rest ih =>
    cases hx : x.asInt with
    | none => simp [appendRepeating, leadingInts, PyM.run_bind, JVal.toInt, hx, PyM.result]
    | some n =>
      by_cases hn : 0 < n <;>
        simp [appendRepeating, leadingInts, PyM.run_bind, JVal.toInt, hx, hn, ih]

theorem run_setRepeatingStartTimes (sTimes : JVal) (p : OpenSprinklerProgram) :
    (setRepeatingStartTimes sTimes).run p =
      match sTimes.iter with
      | .error err =>
        .error err ({ p with programFixedStartTimes := [], programRepeatingStartTimes := [] })
      | .ok items =>
        PyM.result (if items.all (fun x => x.asInt.isSome) then none else some .typeError)
          { p with
            programFixedStartTimes := []
            programRepeatingStartTimes := ((leadingInts items).filter (0 < ·)).map repeatingStartTime }
        := by
  cases h : sTimes.iter <;>
    simp [setRepeatingStartTimes, PyM.run_bind, PyM.run_lift_ok, PyM.run_lift_error, h,
      run_appendRepeating]

/-- The weekday loop reads `days0` only through its integer value. -/
theorem weekdayLoop_congr {d0 : JVal} {d : Int} (h : d0.asInt = some d) (i : Nat)
    (days : List String) : weekdayLoop d0 i days = weekdayLoop (.num d) i days := by
  induction days generalizing i with
  | nil => rfl
  | cons day rest ih => simp only [weekdayLoop, pyAnd_of_asInt h, pyAnd_num, ih]

theorem run_setWeekdaySchedule (d0 : JVal) (p : OpenSprinklerProgram) :
    (setWeekdaySchedule d0).run p =
      match d0.asInt with
      | some d => .ok () { p with programSchedule := weekdayEntries d }
      | none => .error .typeError p := by
  cases h : d0.asInt with
  | some d =>
    rw [show setWeekdaySchedule d0 = setWeekdaySchedule (.num d) by
      simp only [setWeekdaySchedule, weekdayLoop_congr h], run_setWeekdaySchedule_num]
  | none =>
    have hloop : weekdayLoop d0 0 week = .error .typeError := by
      simp [week, weekdayLoop, pyAnd_of_asInt_eq_none h, bind, Except.bind]
    simp [setWeekdaySchedule, PyM.run_bind, hloop]

/-- The flag setters read `flags` only through its integer value. -/
theorem flagSet_congr {flags : JVal} {f : Int} (h : flags.asInt = some f) (m : Int) :
    flagSet flags m = flagSet (.num f) m := by
  simp only [flagSet, pyAnd_of_asInt h, pyAnd_num]

theorem new_congr_flags {flags : JVal} {f : Int} (h : flags.asInt = some f)
    (pname days0 days1 sTimes durs : JVal) :
    new pname flags days0 days1 sTimes durs = new pname (.num f) days0 days1 sTimes durs := by
  simp only [new, init, restrictionOf, scheduleTypeOf, startTimeTypeOf, flagSet_congr h]

/-! ## The program, stage by stage -/

/-- The program after `setStartTimeType`, for a number `f` as `flags`. -/
def flagFields (pname : JVal) (f : Int) : OpenSprinklerProgram :=
  { classDefaults with
    programName := pname
    programEnabled := f.testBit 0
    programUseWeatherAdjustment := f.testBit 1
    programRestriction := if f.testBit 2 then "Odd" else if f.testBit 3 then "Even" else "None"
    programScheduleType := if f.testBit 4 || f.testBit 5 then "Interval" else "Weekday"
    programStartTimeType := if f.testBit 6 then "Fixed" else "Repeating" }

/-- The start times `setRepeatingStartTimes(sTimes)` keeps: the positive numbers
before the first item that is not a number, none when `sTimes` cannot be
iterated. -/
def repeatingOf (sTimes : JVal) : List JVal :=
  match sTimes.iter with
  | .ok items => ((leadingInts items).filter (0 < ·)).map repeatingStartTime
  | .error _ => []

/-- Whether `setRepeatingStartTimes(sTimes)` returns: every item can be compared
with `0`. -/
def allNumbers (sTimes : JVal) : Bool :=
  match sTimes.iter with
  | .ok items => items.all fun x => x.asInt.isSome
  | .error _ => false

/-- The program after `setStartTimes` and, when it returns, `setDurations`. -/
def startTimesStage (f : Int) (p : OpenSprinklerProgram) (sTimes durs : JVal) :
    OpenSprinklerProgram :=
  if f.testBit 6 then { p with programFixedStartTimes := [], programRepeatingStartTimes := [] }
  else
    let q := { p with programFixedStartTimes := [], programRepeatingStartTimes := repeatingOf sTimes }
    if allNumbers sTimes then { q with programZoneDurations := durs } else q

@[simp] theorem startTimesStage_programFixedStartTimes (f : Int) (p : OpenSprinklerProgram)
    (sTimes durs : JVal) : (startTimesStage f p sTimes durs).programFixedStartTimes = [] := by
  unfold startTimesStage
  split_ifs <;> rfl

@[simp] theorem startTimesStage_programRepeatingStartTimes (f : Int) (p : OpenSprinklerProgram)
    (sTimes durs : JVal) : (startTimesStage f p sTimes durs).programRepeatingStartTimes =
      if f.testBit 6 then [] else repeatingOf sTimes := by
  unfold startTimesStage
  split_ifs <;> rfl

@[simp] theorem startTimesStage_programZoneDurations (f : Int) (p : OpenSprinklerProgram)
    (sTimes durs : JVal) : (startTimesStage f p sTimes durs).programZoneDurations =
      if !f.testBit 6 && allNumbers sTimes then durs else p.programZoneDurations := by
  unfold startTimesStage
  cases f.testBit 6 <;> cases allNumbers sTimes <;> rfl

@[simp] theorem startTimesStage_programName (f : Int) (p : OpenSprinklerProgram)
    (sTimes durs : JVal) : (startTimesStage f p sTimes durs).programName = p.programName := by
  unfold startTimesStage
  split_ifs <;> rfl

@[simp] theorem startTimesStage_programEnabled (f : Int) (p : OpenSprinklerProgram)
    (sTimes durs : JVal) : (startTimesStage f p sTimes durs).programEnabled = p.programEnabled := by
  unfold startTimesStage
  split_ifs <;> rfl

/-- `setSchedule` on the schedule type the flags set. -/
theorem run_setSchedule_of_flags (f : Int) (p : OpenSprinklerProgram)
    (hp : p.programScheduleType = if f.testBit 4 || f.testBit 5 then "Interval" else "Weekday")
    (days0 days1 : JVal) :
    (setSchedule p.getScheduleType days0 days1).run p =
      if f.testBit 4 || f.testBit 5 then
        .ok () { p with programSchedule := [.obj [("interval", days0), ("delay", days1)]] }
      else (setWeekdaySchedule days0).run p := by
  cases h : (f.testBit 4 || f.testBit 5) <;> simp [setSchedule, getScheduleType, hp, h]

/-- `setStartTimes` on the start-time type the flags set, then `setDurations`
when it returns. -/
theorem final_setStartTimes (f : Int) (p : OpenSprinklerProgram)
    (hp : p.programStartTimeType = if f.testBit 6 then "Fixed" else "Repeating")
    (sTimes durs : JVal) :
    PyM.final (PyM.andThen ((setStartTimes p.getStartTimeType sTimes).run p)
      fun _ => setDurations durs) = startTimesStage f p sTimes durs := by
  rw [show p.getStartTimeType = _ from hp]
  cases h6 : f.testBit 6
  · cases h : sTimes.iter with
    | error err =>
      simp [setStartTimes, startTimesStage, run_setRepeatingStartTimes, repeatingOf, allNumbers, h6, h]
    | ok items =>
      cases hall : items.all (fun x => x.asInt.isSome) <;>
        simp [setStartTimes, startTimesStage, run_setRepeatingStartTimes, repeatingOf, allNumbers,
          h6, h, hall, PyM.result]
  · simp [setStartTimes, startTimesStage, h6]

/-- The program `OpenSprinklerProgram(pname, flags, days0, days1, sTimes, durs)`
returns, for any arguments. -/
theorem new_eq (pname flags days0 days1 sTimes durs : JVal) :
    new pname flags days0 days1 sTimes durs =
      match flags.asInt with
      | none => { classDefaults with programName := pname }
      | some f =>
        if f.testBit 4 || f.testBit 5 then
          startTimesStage f { flagFields pname f with
            programSchedule := [.obj [("interval", days0), ("delay", days1)]] } sTimes durs
        else
          match days0.asInt with
          | none => flagFields pname f
          | some d => startTimesStage f { flagFields pname f with
              programSchedule := weekdayEntries d } sTimes durs := by
  cases hf : flags.asInt with
  | none => exact new_of_asInt_eq_none pname days0 days1 sTimes durs hf
  | some f =>
    rw [new_congr_flags hf]
    simp only [new, init, PyM.run_swallow, PyM.run_bind_eq_andThen, PyM.andThen_ok,
      PyM.run_lift_ok, PyM.run_get, flagSet_num f 1 0 rfl, flagSet_num f 2 1 rfl, restrictionOf_num,
      scheduleTypeOf_num, startTimeTypeOf_num, run_setName, run_setEnabled, run_setWxAdjustment,
      run_setRestrictions, run_setScheduleType, run_setStartTimeType, PyM.final_ok]
    rw [run_setSchedule_of_flags f _ rfl]
    cases h46 : (f.testBit 4 || f.testBit 5)
    · cases hd : days0.asInt with
      | none => simp [run_setWeekdaySchedule, hd, flagFields, h46]
      | some d =>
        simp only [Bool.false_eq_true, ite_false, run_setWeekdaySchedule, hd, flagFields, h46,
          PyM.andThen_ok, PyM.run_bind_eq_andThen, PyM.run_get]
        apply final_setStartTimes; rfl
    · simp only [ite_true, flagFields, h46, PyM.andThen_ok, PyM.run_bind_eq_andThen, PyM.run_get]
      apply final_setStartTimes; rfl

/-- Where construction stops, whatever the arguments: at `flags & 1`, at
`days0 & 1` for a weekday schedule, or after the start-time setters. -/
theorem new_cases (pname flags days0 days1 sTimes durs : JVal) :
    flags.asInt = none ∧
        new pname flags days0 days1 sTimes durs = { classDefaults with programName := pname } ∨
      ∃ f, flags.asInt = some f ∧
        ((f.testBit 4 || f.testBit 5 || days0.asInt.isSome) = false ∧
            new pname flags days0 days1 sTimes durs = flagFields pname f ∨
          (f.testBit 4 || f.testBit 5 || days0.asInt.isSome) = true ∧
            ∃ sched, new pname flags days0 days1 sTimes durs =
              startTimesStage f { flagFields pname f with programSchedule := sched } sTimes durs) := by
  cases hf : flags.asInt with
  | none => exact .inl ⟨rfl, by simp only [new_eq, hf]⟩
  | some f =>
    refine .inr ⟨f, rfl, ?_⟩
    simp only [new_eq, hf]
    cases (f.testBit 4 || f.testBit 5)
    · cases days0.asInt
      · exact .inl ⟨rfl, rfl⟩
      · exact .inr ⟨rfl, _, rfl⟩
    · exact .inr ⟨rfl, _, rfl⟩

/-- Whether `__init__` reaches `setRepeatingStartTimes`: the flags are a number
with bit 6 clear, and a weekday schedule has a number as `days0`. -/
def reachesRepeating (flags days0 : JVal) : Bool :=
  match flags.asInt with
  | none => false
  | some f => !f.testBit 6 && (f.testBit 4 || f.testBit 5 || days0.asInt.isSome)

/-- No program holds a fixed start time: `setFixedStartTimes` clears the list
and raises. -/
theorem new_programFixedStartTimes (pname flags days0 days1 sTimes durs : JVal) :
    (new pname flags days0 days1 sTimes durs).programFixedStartTimes = [] := by
  rcases new_cases pname flags days0 days1 sTimes durs with ⟨-, h⟩ | ⟨f, -, ⟨-, h⟩ | ⟨-, _, h⟩⟩ <;>
    simp [h, flagFields, classDefaults]

theorem new_programRepeatingStartTimes (pname flags days0 days1 sTimes durs : JVal) :
    (new pname flags days0 days1 sTimes durs).programRepeatingStartTimes =
      if reachesRepeating flags days0 then repeatingOf sTimes else [] := by
  rcases new_cases pname flags days0 days1 sTimes durs with
    ⟨hf, h⟩ | ⟨f, hf, ⟨hs, h⟩ | ⟨hs, _, h⟩⟩
  · simp [h, hf, reachesRepeating, classDefaults]
  · simp [h, hf, hs, reachesRepeating, flagFields, classDefaults]
  · cases h6 : f.testBit 6 <;> simp [h, hf, hs, h6, reachesRepeating]

/-- The start times `setRepeatingStartTimes` keeps are the code's `dict`s of
typed repeating start times. -/
theorem repeatingOf_eq_map (sTimes : JVal) :
    ∃ starts : List RepeatingStart, repeatingOf sTimes = starts.map RepeatingStart.toCode := by
  unfold repeatingOf
  split
  next items _ =>
    refine ⟨((leadingInts items).filter (0 < ·)).map RawProgram.decodeStart, ?_⟩
    rw [List.map_map]
    exact List.map_congr_left fun t ht =>
      repeatingStartTime_eq (of_decide_eq_true (List.mem_filter.mp ht).2)
  next => exact ⟨[], rfl⟩

/-- Whatever its arguments, the start times a program reports are well-formed
repeating start times, each a basis, a sign and an offset in `[0, 2047]`,
written as the code's `dict`s. -/
theorem new_getStartTimes_decode (pname flags days0 days1 sTimes durs : JVal) :
    ∃ starts : List RepeatingStart,
      (new pname flags days0 days1 sTimes durs).getStartTimes = starts.map RepeatingStart.toCode := by
  simp only [getStartTimes, new_programFixedStartTimes, List.length_nil, gt_iff_lt,
    Nat.lt_irrefl, if_false, new_programRepeatingStartTimes]
  split_ifs
  · exact repeatingOf_eq_map sTimes
  · exact ⟨[], rfl⟩

end OpenSprinklerProgram

end OpenSprinklerPlugin
