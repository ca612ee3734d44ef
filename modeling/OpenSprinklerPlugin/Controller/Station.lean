import OpenSprinklerPlugin.Controller.Properties

/-!
# Stations

Each pass of the station loop in `OpenSprinklerController.__init__` reads the
station's name and status by index and masks the four flag bytes with
`2 ** idx`. The bytes are read once, before the loop, from the first item of
each of `stations.ignore_rain`, `stn_seq`, `stn_dis` and `stn_spe`, so every
station is decoded against the same byte: stations past the eighth see bits of
that byte above bit 7, which are clear for a byte in `[0, 256)` and set for a
negative one.

`OpenSprinklerStation.__init__` only assigns its seven arguments, so a station is
the record of what the loop computed. The flags are stored as the masked `int`
(`0` or `2 ** idx`), not as a `bool`.

## Main definitions

* `OpenSprinklerStation` — the instance attributes
* `decodeStation` — one pass of the station loop
* `SpecStation`, `OpenSprinklerStation.toSpec` — the intended station
  with `bool` flags, and the reading of a decoded station as one

## Main results

* `decodeStation_eq` — on well-formed data the pass succeeds with the name and
  status at `idx` and the masked bytes
* `decodeStation_eq_ok` — every station a pass returns is the code's record of
  its reading as an intended station
-/

namespace OpenSprinklerPlugin

/-- The attributes `OpenSprinklerStation.__init__` assigns. -/
structure OpenSprinklerStation where
  stationName : JVal
  status : JVal
  stationId : Nat
  ignoreRainFlag : Int
  isSequentialFlag : Int
  isDisabledFlag : Int
  isSpecialFlag : Int
  deriving Repr, DecidableEq

namespace OpenSprinklerStation

/-! ### Getters: each returns one attribute -/

/-- `getName`. -/
def getName (self : OpenSprinklerStation) : JVal := self.stationName

/-- `getStatus`. -/
def getStatus (self : OpenSprinklerStation) : JVal := self.status

/-- `getIgnoreRainFlag`. -/
def getIgnoreRainFlag (self : OpenSprinklerStation) : Int := self.ignoreRainFlag

/-- `getSequentialFlag`. -/
def getSequentialFlag (self : OpenSprinklerStation) : Int := self.isSequentialFlag

/-- `getDisabledFlag`. -/
def getDisabledFlag (self : OpenSprinklerStation) : Int := self.isDisabledFlag

/-- `getSpecialFlag`. -/
def getSpecialFlag (self : OpenSprinklerStation) : Int := self.isSpecialFlag

end OpenSprinklerStation

/-- The four bytes read before the loop: `ir_byte`, `seq_byte`, `dis_byte`,
`spe_byte`. -/
structure FlagBytes where
  irByte : JVal
  seqByte : JVal
  disByte : JVal
  speByte : JVal

/-- One pass of the station loop at `idx`, in the source's order of evaluation;
the station is then appended to `controller_stations`. -/
def decodeStation (myDict : JVal) (bytes : FlagBytes) (idx : Nat) :
    Except PyErr OpenSprinklerStation := do
  let stationName ← (← readPath myDict "stations" "snames").getIndex idx
  let status ← (← readPath myDict "status" "sn").getIndex idx
  let ignoreRain ← pyAnd bytes.irByte (2 ^ idx)
  let isDisabled ← pyAnd bytes.disByte (2 ^ idx)
  let isSequential ← pyAnd bytes.seqByte (2 ^ idx)
  let isSpecial ← pyAnd bytes.speByte (2 ^ idx)
  return ⟨stationName, status, idx, ignoreRain, isSequential, isDisabled, isSpecial⟩

section WellFormed

variable {myDict : JVal} {names sn : List JVal}

/-- On well-formed data a pass succeeds: the name and status at `idx`, the index,
and each byte masked with `2 ** idx`. -/
theorem decodeStation_eq (hnames : readPath myDict "stations" "snames" = .ok (.arr names))
    (hsn : readPath myDict "status" "sn" = .ok (.arr sn)) (ir seq dis spe : Int) {idx : Nat}
    (hi : idx < names.length) (hj : idx < sn.length) :
    decodeStation myDict ⟨.num ir, .num seq, .num dis, .num spe⟩ idx =
      .ok ⟨names[idx], sn[idx], idx, Int.land ir (2 ^ idx), Int.land seq (2 ^ idx),
        Int.land dis (2 ^ idx), Int.land spe (2 ^ idx)⟩ := by
  simp [decodeStation, hnames, hsn, hi, hj, bind, Except.bind, pure, Except.pure]

end WellFormed

/-! ## The intended station -/

/-- A station as the plugin means it, with `bool` flags. -/
structure SpecStation where
  name : JVal
  status : JVal
  index : Nat
  ignoreRain : Bool
  sequential : Bool
  disabled : Bool
  special : Bool
  deriving Repr, DecidableEq

/-- A decoded station read as a `SpecStation`: a flag is set when its stored mask is
non-zero. -/
def OpenSprinklerStation.toSpec (st : OpenSprinklerStation) : SpecStation :=
  ⟨st.stationName, st.status, st.stationId, st.ignoreRainFlag != 0, st.isSequentialFlag != 0,
    st.isDisabledFlag != 0, st.isSpecialFlag != 0⟩

/-- The mask `byte & 2 ** i` leaves for a flag: `2 ** i` when it is set. -/
def maskOf (i : Nat) (b : Bool) : Int := if b then 2 ^ i else 0

@[simp] theorem maskOf_bne_zero (i : Nat) (b : Bool) : (maskOf i b != 0) = b := by
  cases b <;> simp [maskOf, show (2 : Int) ^ i ≠ 0 by exact_mod_cast (Nat.two_pow_pos i).ne']

/-- `byte & 2 ** i`, when it returns, is the mask of its own truth value. -/
theorem maskOf_of_pyAnd {x : JVal} {i : Nat} {v : Int} (h : pyAnd x (2 ^ i) = .ok v) :
    maskOf i (v != 0) = v := by
  cases hx : x.asInt with
  | none => simp [pyAnd_of_asInt_eq_none hx] at h
  | some n =>
    obtain rfl : Int.land n (2 ^ i) = v := by simpa [pyAnd_of_asInt hx] using h
    rw [land_two_pow_bne_zero, land_two_pow]
    rfl

/-- The record the code stores for an intended station: each flag as the mask of
the station's own bit. -/
def SpecStation.toCode (s : SpecStation) : OpenSprinklerStation :=
  ⟨s.name, s.status, s.index, maskOf s.index s.ignoreRain, maskOf s.index s.sequential,
    maskOf s.index s.disabled, maskOf s.index s.special⟩

/-- Reading the code's record of an intended station gives that station back. -/
theorem SpecStation.toSpec_toCode (s : SpecStation) : s.toCode.toSpec = s := by
  simp [toCode, OpenSprinklerStation.toSpec]

/-- Whatever the snapshot and the bytes, a station the loop decodes at `idx` has
`stationId = idx` and is the code's record of its own reading: each flag is `0`
or `2 ** idx`. -/
theorem decodeStation_eq_ok {myDict : JVal} {bytes : FlagBytes} {idx : Nat}
    {st : OpenSprinklerStation} (h : decodeStation myDict bytes idx = .ok st) :
    st.stationId = idx ∧ st.toSpec.toCode = st := by
  simp only [decodeStation, bind_eq_ok_iff, pure, Except.pure, Except.ok.injEq] at h
  obtain ⟨-, -, -, -, -, -, -, -, ir, hir, dis, hdis, seq, hseq, spe, hspe, rfl⟩ := h
  refine ⟨rfl, ?_⟩
  simp only [OpenSprinklerStation.toSpec, SpecStation.toCode, maskOf_of_pyAnd hir,
    maskOf_of_pyAnd hdis, maskOf_of_pyAnd hseq, maskOf_of_pyAnd hspe]

/-! ## Methods -/

namespace OpenSprinklerStation

/-- `refresh`: `OpenSprinkler.read('js')` looks `read` up on the class
`OpenSprinkler`, which defines none. -/
def refresh (_self : OpenSprinklerStation) : Except PyErr Unit := .error (.attributeError "read")

/-- `turnOn(duration)`: the command string is built inside a `try` and never
sent. -/
def turnOn (_self : OpenSprinklerStation) (_duration : JVal) : Except PyErr Unit := .ok ()

/-- `turnOff`: the body is `None`. -/
def turnOff (_self : OpenSprinklerStation) : Except PyErr Unit := .ok ()

/-- `setName(station_name)`: the body evaluates `none`, a name bound nowhere. -/
def setName (_self : OpenSprinklerStation) (_stationName : JVal) : Except PyErr Unit :=
  .error (.nameError "none")

end OpenSprinklerStation

end OpenSprinklerPlugin
