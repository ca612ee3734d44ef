import OpenSprinklerPlugin.Program.Decode

/-!
# Programs as the device sends them

The device sends each program as a `programs.pd` tuple of integer words: the
flag word, two day words, one word per start-time slot (an unused slot holds
`0`), the durations and the name. `SpecProgram.encode` writes an intended
program as such a tuple, bit for bit as the intended decoding reads it.

Two results connect the encoding to the two levels of `Program.Decode`. On the
intended side, decoding the tuple gives the program back exactly when the tuple
can carry it (`SpecProgram.Encodable`): a weekday schedule names the seven days
of `week` in order, fixed start times are positive, and no repeating start is
midnight minus zero minutes, whose word `0` is the word of an unused slot. On
the code's side, `OpenSprinklerProgram(...)` built from the tuple holds the
record of `SpecProgram.asBuilt`, the program with an interval schedule's
interval and delay exchanged and, for fixed start times, neither the start
times nor the durations (`build_eq_toCode_asBuilt_decode` composed with the
round trip); for a weekday program with repeating start times that is the
program itself.

## Main definitions

* `RepeatingStart.word`, `SpecProgram.flagWord`, `Schedule.dayWords`,
  `StartTimes.words` — the words of a program
* `SpecProgram.encode` — the tuple, with any number of unused start-time slots
* `SpecProgram.Encodable` — the programs a tuple can carry

## Main results

* `RepeatingStart.decodeStart_word` — a start-time word decodes to its start
* `SpecProgram.decode_encode_iff` — the intended decoding inverts the encoding
  exactly on encodable programs
* `SpecProgram.build_encode` — the code builds the record of `asBuilt` from the
  tuple of every encodable program
-/

namespace OpenSprinklerPlugin

open OpenSprinklerProgram

/-! ## Start-time words -/

namespace RepeatingStart

/-- Bits 11 to 13 of a start-time word: bit 11 for `plus`, bit 12 for a sunrise
basis and bit 13 for a sunset basis. -/
def highBits (s : RepeatingStart) : Nat :=
  (match s.sign with
    | .plus => 1
    | .minus => 0) +
  (match s.basis with
    | .midnight => 0
    | .sunrise => 2
    | .sunset => 4)

/-- The word of a repeating start: the offset in bits 0 to 10, `highBits` above. -/
def word (s : RepeatingStart) : Int := ((2 ^ 11 * s.highBits + s.offsetMinutes.val : Nat) : Int)

theorem word_testBit (s : RepeatingStart) (j : Nat) :
    s.word.testBit (11 + j) = s.highBits.testBit j := by
  show Nat.testBit _ _ = _
  rw [← Nat.testBit_shiftRight, Nat.shiftRight_eq_div_pow]
  have := s.offsetMinutes.isLt
  congr 1
  omega

theorem word_toNat_land (s : RepeatingStart) : s.word.toNat &&& 0x7ff = s.offsetMinutes.val := by
  show (2 ^ 11 * s.highBits + s.offsetMinutes.val) &&& (2 ^ 11 - 1) = _
  rw [Nat.and_pow_two_sub_one_eq_mod]
  have := s.offsetMinutes.isLt
  omega

/-- A start decodes from its word. -/
theorem decodeStart_word (s : RepeatingStart) : RawProgram.decodeStart s.word = s := by
  have h11 : s.word.testBit 11 = s.highBits.testBit 0 := s.word_testBit 0
  have h12 : s.word.testBit 12 = s.highBits.testBit 1 := s.word_testBit 1
  have h13 : s.word.testBit 13 = s.highBits.testBit 2 := s.word_testBit 2
  obtain ⟨basis, sign, o⟩ := s
  simp only [RawProgram.decodeStart, h11, h12, h13, mk.injEq, Fin.ext_iff, word_toNat_land]
  cases basis <;> cases sign <;> simp [highBits, Nat.testBit_to_div_mod]

theorem highBits_eq_zero_iff (s : RepeatingStart) :
    s.highBits = 0 ↔ s.basis = .midnight ∧ s.sign = .minus := by
  obtain ⟨basis, sign, o⟩ := s
  cases basis <;> cases sign <;> simp [highBits]

/-- Only midnight minus zero minutes has the word `0` of an unused slot. -/
theorem word_pos_iff (s : RepeatingStart) : 0 < s.word ↔ s ≠ ⟨.midnight, .minus, 0⟩ := by
  rw [word, Int.natCast_pos, Nat.pos_iff_ne_zero, ne_eq, Nat.add_eq_zero_iff, Nat.mul_eq_zero,
    highBits_eq_zero_iff]
  obtain ⟨basis, sign, o⟩ := s
  simp [Fin.ext_iff, and_assoc]

end RepeatingStart

/-! ## Program tuples -/

namespace Schedule

def isInterval : Schedule → Bool
  | .weekday _ => false
  | .interval _ _ => true

/-- The day words `(days0, days1)`: the weekday bits from Monday at bit 0, or the
delay and the interval. -/
def dayWords : Schedule → Int × Int
  | .weekday days => (packBits (days.map Prod.snd), 0)
  | .interval i d => (d, i)

/-- The schedules the day words carry: a weekday schedule names the days of
`week` in order. -/
def Encodable : Schedule → Prop
  | .weekday days => days.map Prod.fst = week
  | .interval _ _ => True

instance : DecidablePred Encodable
  | .weekday days => inferInstanceAs (Decidable (days.map Prod.fst = week))
  | .interval _ _ => inferInstanceAs (Decidable True)

end Schedule

namespace StartTimes

def isFixed : StartTimes → Bool
  | .fixed _ => true
  | .repeating _ => false

/-- The start-time words, one per start. -/
def words : StartTimes → List Int
  | .fixed minutes => minutes
  | .repeating starts => starts.map RepeatingStart.word

/-- The start times the words carry: none has the word `0` of an unused slot. -/
def Encodable : StartTimes → Prop
  | .fixed minutes => ∀ t ∈ minutes, 0 < t
  | .repeating starts => ∀ s ∈ starts, s ≠ ⟨.midnight, .minus, 0⟩

instance : DecidablePred Encodable
  | .fixed minutes => inferInstanceAs (Decidable (∀ t ∈ minutes, 0 < t))
  | .repeating starts => inferInstanceAs (Decidable (∀ s ∈ starts, s ≠ ⟨.midnight, .minus, 0⟩))

end StartTimes

namespace SpecProgram

/-- The flag word: bit 0 enabled, bit 1 weather adjustment, bit 2 odd and bit 3
even days, bit 4 an interval schedule (bit 5 clear) and bit 6 fixed start
times. -/
def flagWord (p : SpecProgram) : Int :=
  packBits [p.enabled, p.useWeatherAdjustment, decide (p.restriction = .odd),
    decide (p.restriction = .even), p.schedule.isInterval, false, p.startTimes.isFixed]

/-- The `programs.pd` tuple of a program, with `unused` empty start-time slots
after its start times. -/
def encode (p : SpecProgram) (unused : Nat) : RawProgram :=
  ⟨p.flagWord, p.schedule.dayWords.1, p.schedule.dayWords.2,
    p.startTimes.words ++ List.replicate unused 0, p.zoneDurations, p.name⟩

/-- The programs a `programs.pd` tuple can carry. -/
structure Encodable (p : SpecProgram) : Prop where
  schedule : p.schedule.Encodable
  startTimes : p.startTimes.Encodable

instance : DecidablePred Encodable := fun p =>
  decidable_of_iff (p.schedule.Encodable ∧ p.startTimes.Encodable)
    ⟨fun h => ⟨h.1, h.2⟩, fun h => ⟨h.1, h.2⟩⟩

end SpecProgram

/-! ## The words read back -/

/-- Read bit by bit from Monday, the weekday word gives back a schedule that names
the days of `week` in order. -/
theorem week_enum_packBits {days : List (String × Bool)} (h : days.map Prod.fst = week) :
    week.enum.map (fun q => (q.2, (packBits (days.map Prod.snd)).testBit q.1)) = days := by
  rw [← h]
  refine List.ext_getElem (by simp) fun i _ hi => ?_
  simp [List.getElem_enum, List.getElem?_eq_getElem hi]

/-- Unused slots and non-positive words are dropped by the filter `sTime > 0`. -/
theorem filter_pos_append_replicate (ts : List Int) (unused : Nat) :
    (ts ++ List.replicate unused 0).filter (0 < ·) = ts.filter (0 < ·) := by
  simp [List.filter_append]

namespace SpecProgram

/-- The intended decoding gives a program back from its tuple exactly when the
tuple can carry it. -/
theorem decode_encode_iff (p : SpecProgram) (unused : Nat) :
    (p.encode unused).decode = p ↔ p.Encodable := by
  obtain ⟨name, en, wx, r, sched, starts, durs⟩ := p
  have hr : (if decide (r = .odd) = true then Restriction.odd
      else if decide (r = .even) = true then .even else .none) = r := by
    cases r <;> rfl
  have hsched : (if sched.isInterval then Schedule.interval sched.dayWords.2 sched.dayWords.1
      else .weekday (week.enum.map fun q => (q.2, sched.dayWords.1.testBit q.1))) = sched ↔
        sched.Encodable := by
    cases sched with
    | weekday days =>
      refine ⟨fun h => ?_, fun h => by
        simp only [Schedule.isInterval, Schedule.dayWords, Bool.false_eq_true, if_false,
          week_enum_packBits h]⟩
      have := congrArg (fun | .weekday ds => ds.map Prod.fst | .interval _ _ => []) h
      simpa [Schedule.isInterval, Schedule.Encodable, List.map_map, Function.comp_def,
        List.enum_map_snd] using this.symm
    | interval i d => simp [Schedule.isInterval, Schedule.dayWords, Schedule.Encodable]
  have hstarts : (if starts.isFixed then StartTimes.fixed
        ((starts.words ++ List.replicate unused 0).filter (0 < ·))
      else .repeating (((starts.words ++ List.replicate unused 0).filter (0 < ·)).map
        RawProgram.decodeStart)) = starts ↔ starts.Encodable := by
    rw [filter_pos_append_replicate]
    cases starts with
    | fixed minutes => simp [StartTimes.isFixed, StartTimes.words, StartTimes.Encodable,
        List.filter_eq_self]
    | repeating starts =>
      simp only [StartTimes.isFixed, StartTimes.words, StartTimes.Encodable, List.filter_map,
        List.map_map, Function.comp_def, RepeatingStart.decodeStart_word, List.map_id',
        Bool.false_eq_true, if_false, StartTimes.repeating.injEq, List.filter_eq_self]
      simp [RepeatingStart.word_pos_iff]
  simp only [RawProgram.decode, encode, flagWord, testBit_packBits, List.getElem?_cons_zero,
    List.getElem?_cons_succ, Option.getD_some, Bool.or_false, hr, mk.injEq, true_and, and_true,
    hsched, hstarts]
  exact ⟨fun h => ⟨h.1, h.2⟩, fun h => ⟨h.1, h.2⟩⟩

/-- From the tuple of every program it can carry, with any number of unused
start-time slots, `OpenSprinklerProgram(...)` builds the record of `asBuilt`. -/
theorem build_encode (p : SpecProgram) (hp : p.Encodable) (unused : Nat) :
    (p.encode unused).build = p.asBuilt.toCode := by
  rw [build_eq_toCode_asBuilt_decode, (decode_encode_iff p unused).mpr hp]

/-- An odd-day program every three days after a five-day delay, with one start at
sunset plus 30 minutes and one zone for 600 seconds. -/
def intervalSunsetProgram : SpecProgram :=
  ⟨.str "p", true, false, .odd, .interval 3 5, .repeating [⟨.sunset, .plus, 30⟩], [600]⟩

theorem build_encode_intervalSunset :
    intervalSunsetProgram.Encodable ∧
      (intervalSunsetProgram.encode 3).build = intervalSunsetProgram.asBuilt.toCode :=
  ⟨by decide, build_encode intervalSunsetProgram (by decide) 3⟩

end SpecProgram

end OpenSprinklerPlugin
