import OpenSprinklerPlugin.Process

/-!
# Station data as the device sends it

The device sends the flags of its stations packed one byte per board of eight
stations: station `8 * k + j` is bit `j` of item `k` of each of
`stations.ignore_rain`, `stn_seq`, `stn_dis` and `stn_spe`; the names and the
statuses are lists with one item per station, and `status.nstations` counts
them. `SpecBlock.snapshot` writes a block of intended stations in that form.

The station loop reads only the first item of each flag list and masks it with
`2 ** idx`, so it recovers the flags of the first board and reads every flag of
a later station as clear (`SpecStation.firstBoard`). Constructing a controller
from the snapshot of a block therefore appends the block itself exactly when no
station past the eighth has a flag set.

## Main definitions

* `boardBytes` — a row of flags as one byte per board
* `SpecBlock.snapshot` — the station data of a block, with any `settings.en`
* `SpecStation.firstBoard` — a station as the first byte of each flag list
  carries it

## Main results

* `appendedStations_snapshot` — the stations the loop decodes from a block's
  snapshot
* `init_snapshot` — constructing a controller from a block's snapshot appends
  the first-board reading of the block
* `init_snapshot_eq_toCode_iff` — it appends the block itself exactly when no
  station past the eighth has a flag
-/

namespace OpenSprinklerPlugin

open OpenSprinklerController

/-- A row of flags, one byte per board: station `8 * k + j` at bit `j` of byte
`k`. -/
def boardBytes (flags : List Bool) : List JVal :=
  (List.range ((flags.length + 7) / 8)).map fun k => .num (packBits ((flags.drop (8 * k)).take 8))

/-- The first item of a row of flags is the byte of its first eight flags. -/
theorem getIndex_boardBytes_zero {flags : List Bool} (h : flags ≠ []) :
    (JVal.arr (boardBytes flags)).getIndex 0 = .ok (.num (packBits (flags.take 8))) := by
  have : 0 < (flags.length + 7) / 8 := by
    have := List.length_pos.mpr h
    omega
  simp [boardBytes, JVal.getIndex, List.getElem?_range this]

namespace SpecBlock

/-- The flag list of a block for one flag. -/
def flagRow (b : SpecBlock) (flag : SpecStation → Bool) : JVal :=
  .arr (boardBytes (b.stations.map flag))

/-- The station data of the device's reply for a block: `settings.en`, the four
flag lists, the names, the statuses and `status.nstations`. -/
def snapshot (b : SpecBlock) (en : JVal) : List (String × JVal) :=
  [("settings", .obj [("en", en)]),
   ("stations", .obj [("ignore_rain", b.flagRow SpecStation.ignoreRain),
      ("stn_seq", b.flagRow SpecStation.sequential), ("stn_dis", b.flagRow SpecStation.disabled),
      ("stn_spe", b.flagRow SpecStation.special),
      ("snames", .arr (b.stations.map SpecStation.name))]),
   ("status", .obj [("sn", .arr (b.stations.map SpecStation.status)),
      ("nstations", .num b.stations.length)])]

theorem sectionsAreMappings_snapshot (b : SpecBlock) (en : JVal) :
    SectionsAreMappings (b.snapshot en) := by
  simp [SectionsAreMappings, snapshotSections, snapshot, List.lookup_cons, JVal.isObj]

/-- The station data the loop reads from a block's snapshot, for a block with a
station. -/
def stationData (b : SpecBlock) (en : JVal) (h : b.stations ≠ []) : StationData (b.snapshot en) where
  en := en
  ir := packBits ((b.stations.map SpecStation.ignoreRain).take 8)
  seq := packBits ((b.stations.map SpecStation.sequential).take 8)
  dis := packBits ((b.stations.map SpecStation.disabled).take 8)
  spe := packBits ((b.stations.map SpecStation.special).take 8)
  numStations := b.stations.length
  names := b.stations.map SpecStation.name
  sn := b.stations.map SpecStation.status
  hen := rfl
  hir := getIndex_boardBytes_zero (by simpa using h)
  hseq := getIndex_boardBytes_zero (by simpa using h)
  hdis := getIndex_boardBytes_zero (by simpa using h)
  hspe := getIndex_boardBytes_zero (by simpa using h)
  hn := rfl
  hnames := rfl
  hsn := rfl
  sections := sectionsAreMappings_snapshot b en

/-- The `i`-th station of a block has index `i`. -/
theorem index_getElem (b : SpecBlock) {i : Nat} (h : i < b.stations.length) :
    b.stations[i].index = i := by
  have := congrArg (·[i]?) b.indexed
  simpa [h] using this

end SpecBlock

/-- A station as the first byte of each flag list carries it: past the eighth,
every flag is clear. -/
def SpecStation.firstBoard (s : SpecStation) : SpecStation :=
  { s with
    ignoreRain := s.ignoreRain && decide (s.index < 8)
    sequential := s.sequential && decide (s.index < 8)
    disabled := s.disabled && decide (s.index < 8)
    special := s.special && decide (s.index < 8) }

/-- Bit `i` of the first byte of a row is the flag of station `i`, for the first
eight stations, and clear past them. -/
theorem testBit_packBits_take (flags : List Bool) (i : Nat) :
    (packBits (flags.take 8)).testBit i = ((flags[i]?.getD false) && decide (i < 8)) := by
  rw [testBit_packBits, List.getElem?_take]
  by_cases h : i < 8 <;> simp [h]

/-- The station loop decodes from a block's snapshot the first-board reading of
each station of the block. -/
theorem appendedStations_snapshot (b : SpecBlock) (en : JVal) :
    appendedStations (.obj (b.snapshot en)) = b.stations.map fun s => s.firstBoard.toCode := by
  by_cases h : b.stations = []
  · simp [appendedStations, flagBytes, readIndex, readPath, SpecBlock.snapshot, SpecBlock.flagRow,
      boardBytes, h, bind, Except.bind, JVal.getKey, JVal.getIndex, List.lookup_cons]
  · rw [(b.stationData en h).appendedStations_eq (by simp [SpecBlock.stationData])
      (by simp [SpecBlock.stationData])]
    refine List.ext_getElem (by simp [SpecBlock.stationData]) fun i hi _ => ?_
    have hi' : i < b.stations.length := by simpa [SpecBlock.stationData] using hi
    simp [-testBit_packBits, StationData.station, SpecBlock.stationData, SpecStation.firstBoard,
      SpecStation.toCode, maskOf, land_two_pow, testBit_packBits_take, b.index_getElem hi',
      List.getElem?_eq_getElem hi']

/-- Constructing a controller from the snapshot of a block, in any process,
returns and appends the first-board reading of the block. -/
theorem init_snapshot (b : SpecBlock) (en : JVal) (w : World) :
    ∃ c, (init (.obj (b.snapshot en))).run w = .ok c
      { w with controllerStations :=
          w.controllerStations ++ b.stations.map fun s => s.firstBoard.toCode } := by
  rw [run_init, resolveProperties_of_sectionsAreMappings (b.sectionsAreMappings_snapshot en),
    appendedStations_snapshot]
  exact ⟨_, rfl⟩

/-- Constructing a controller from the snapshot of a block appends the block's
own records exactly when no station past the eighth has a flag set. -/
theorem init_snapshot_eq_toCode_iff (b : SpecBlock) (en : JVal) (w : World) :
    (∃ c, (init (.obj (b.snapshot en))).run w = .ok c
        { w with controllerStations := w.controllerStations ++ b.toCode }) ↔
      ∀ s ∈ b.stations, 8 ≤ s.index →
        s.ignoreRain = false ∧ s.sequential = false ∧ s.disabled = false ∧ s.special = false := by
  have hinj : ∀ s : SpecStation, s.firstBoard.toCode = s.toCode ↔ s.firstBoard = s :=
    fun s => ⟨fun h => by simpa only [SpecStation.toSpec_toCode] using congrArg OpenSprinklerStation.toSpec h,
      congrArg _⟩
  rw [run_init, resolveProperties_of_sectionsAreMappings (b.sectionsAreMappings_snapshot en),
    appendedStations_snapshot]
  simp only [EStateM.Result.ok.injEq, World.mk.injEq, List.append_cancel_left_eq,
    SpecBlock.toCode, List.map_inj_left, hinj, exists_eq_left', and_true]
  refine forall₂_congr fun s _ => ?_
  obtain ⟨name, status, index, ir, seq, dis, spe⟩ := s
  by_cases h : index < 8 <;> simp [SpecStation.firstBoard, h, Nat.le_of_not_lt]

end OpenSprinklerPlugin
