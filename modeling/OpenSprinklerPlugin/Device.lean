import OpenSprinklerPlugin.Controller.Lifecycle

/-!
# The device: commands and starts

`OpenSprinkler` talks to the device through `executeCommand`, builds its
controller in `getController`, and starts programs and stations through
`startProgram` and `startStation`. The reply and the controller's state are
inputs here; the socket, the host, the password hashing and the logging at
debug level are not modelled. Of `http.client` the model keeps what it does
before sending: it refuses a path with a space or a control character
(`InvalidURL`) and encodes the request line as ASCII (`UnicodeEncodeError`).

Four facts of the source decide what these methods do.

* `executeCommand` compares the `int` status with the `str` `'200'`, which no
  `int` equals, so every decoded reply is treated as unauthorized: two lines are
  printed, the `OS_Exception` is logged and `None` returned. The path refused
  before sending and a body that does not decode raise exceptions that
  `except OS_Exception` lets through. Its argument loop assigns
  `commandArguments` on each pass, so only the last argument is sent.
* `getController` therefore builds `OpenSprinklerController(None)`, or the call
  raises; its bare `except` drops what `OpenSprinklerController(None)` raises in
  the resolution loop as well, so `self.controller` stays the class
  `OpenSprinklerController`.
* `startProgram` asks `getNumPrograms()` (on the class: `TypeError`; on an
  instance: `NameError`, see `getProperty`) and tests a name reference against
  `string.String`, with no `string` bound.
* `startStation` never sets `referenceValid`, and `OpenSprinkler` defines no
  `write`: no start reaches the device.

## Main definitions

* `OpenSprinkler`, `HttpResponse`, `CommandRun` — the device object, a reply, and
  what one `executeCommand` call does
* `HTTPConnection.request` — what `http.client` does with a path before sending
* `OpenSprinkler.executeCommand`, `OpenSprinkler.getController`
* `OpenSprinkler.startProgramCommand`, `OpenSprinkler.startStationCommand` — the
  two starts up to their `self.write` call
* `OpenSprinkler.Reachable` — the devices the plugin can hold

## Main results

* `executeCommand_eq` — the request path and the outcome of every call
* `getController_eq` — `getController` never installs a controller
* `startStationCommand_eq_ok` — `startStation` never reaches `self.write`
* `startProgramCommand_of_cls` — with the class as controller, `startProgram`
  raises before its command
* `Reachable.startProgram_error`, `Reachable.startStation_ne` — on a device the
  plugin can build, no start is sent
* `Reachable.getStations_getPrograms_raise` — nor are its stations and programs
  ever listed
-/

namespace OpenSprinklerPlugin

/-- What `self.controller` holds: the class `OpenSprinklerController`, which the
class attribute names, or an instance `getController` assigned. -/
inductive ControllerRef
  | cls
  | inst (c : OpenSprinklerController)

/-- The attributes of an `OpenSprinkler` the modelled methods read. -/
structure OpenSprinkler where
  pwdDigest : String
  controller : ControllerRef

/-- The body of a reply as `read().decode('utf-8')` and `json.loads` see it: the
bytes of a JSON document, of a UTF-8 text that is no JSON document, or bytes
that are not UTF-8. -/
inductive ReplyBody
  | json (v : JVal)
  | text
  | bytes

/-- The device's reply to one request: the status and the body. -/
structure HttpResponse where
  status : Nat
  body : ReplyBody

/-- What one `executeCommand` call does: the path it builds and passes to
`request`, the text it prints, the lines its `except` clause logs at error
level, and its return value (`None` is `none`) or the exception that leaves
it. -/
structure CommandRun where
  uriString : String
  printed : String
  logged : List String
  result : Except PyErr (Option JVal)

/-- A `self.write(verb, 'key=%s' % value, ...)` call: the verb and each argument
as its key and value. -/
structure Command where
  verb : String
  args : List (String × JVal)
  deriving DecidableEq, Repr

/-! ## `executeCommand` -/

/-- `for arg in args: commandArguments = '&' + str(arg)`, on the `str` of each
argument: each pass replaces the string. -/
def commandArguments (args : List String) : String :=
  args.foldl (fun _ arg => "&" ++ arg) ""

/-- `Template('/${APIVerb}?pw=${DigestPassword}${APIArguments}').substitute(...)`. -/
def uriString (apiVerb digestPassword apiArguments : String) : String :=
  "/" ++ apiVerb ++ "?pw=" ++ digestPassword ++ apiArguments

/-- `HTTPConnection.request('GET', url)` up to sending: `putrequest` refuses a
path with a character up to the space or DEL (`InvalidURL`), then encodes the
request line as ASCII (`UnicodeEncodeError`). -/
def HTTPConnection.request (url : String) : Except PyErr Unit :=
  if url.toList.any fun c => c.toNat ≤ 0x20 ∨ c.toNat = 0x7f then .error .invalidURL
  else if url.toList.any fun c => 0x7f < c.toNat then .error .unicodeEncodeError
  else .ok ()

/-- `read().decode('utf-8')`, then `json.loads(rawResult)`. -/
def decodeBody (resp : HttpResponse) : Except PyErr JVal :=
  match resp.body with
  | .json v => .ok v
  | .text => .error .jsonDecodeError
  | .bytes => .error .unicodeDecodeError

/-- `result['retVal']`, which each `elif` reads: the module binds no `result`. -/
def resultRetVal : Except PyErr JVal := .error (.nameError "result")

/-- The status test after decoding. `code` is the `int` status, compared with
the `str` `'200'`; that branch prints two lines and raises, and each `elif`
raises a class the module does not bind. -/
def checkResponse (code retVal : JVal) : PyM String (Option JVal) := do
  if code != .str "200" then
    pyPrint "HTTP Error encountered"
    pyPrint "Unauthorized"
    throw (.os .unauthorizedException)
  let rv ← PyM.lift resultRetVal
  if rv = .num 3 then throw (.nameError "OpenSprinklerMismatchException")
  else if rv = .num 16 then throw (.nameError "OpenSprinklerDataMissingException")
  else if rv = .num 17 then throw (.nameError "OpenSprinklerValueOutOfRangeException")
  else if rv = .num 18 then throw (.nameError "OpenSprinklerDataFormatException")
  else if rv = .num 19 then throw (.nameError "OpenSprinklerRFCodeException")
  else if rv = .num 32 then throw (.nameError "OpenSprinklerPageNotFoundException")
  else if rv = .num 48 then throw (.nameError "OpenSprinklerNotPermittedException")
  else return some retVal

/-- The `try` body of `executeCommand` from `request` on: the request, the
decoded body and the status test. -/
def commandBody (uri : String) (resp : HttpResponse) : PyM String (Option JVal) := do
  PyM.lift (HTTPConnection.request uri)
  checkResponse (.num resp.status) (← PyM.lift (decodeBody resp))

namespace OpenSprinkler

/-- `executeCommand(cmd, *args)` against one reply: `except OS_Exception` logs
the exception and returns `None`; other exceptions leave the method. -/
def executeCommand (self : OpenSprinkler) (cmd : String) (args : List String)
    (resp : HttpResponse) : CommandRun :=
  let uri := uriString cmd self.pwdDigest (commandArguments args)
  match (commandBody uri resp).run "" with
  | .ok v out => ⟨uri, out, [], .ok v⟩
  | .error (.os err) out => ⟨uri, out, ["Error reading from OpenSprinkler", err.str], .ok none⟩
  | .error e out => ⟨uri, out, [], .error e⟩

end OpenSprinkler

/-- No `int` status equals `'200'`: a decoded reply always prints the two lines
and raises `OS_UnauthorizedException`. -/
theorem run_checkResponse_num (n : Int) (retVal : JVal) (out : String) :
    (checkResponse (.num n) retVal).run out = .error (.os .unauthorizedException)
      (out ++ "HTTP Error encountered" ++ "\n" ++ "Unauthorized" ++ "\n") := rfl

/-- The `try` body raises whatever happens: `request` refuses the path, the body
does not decode, or the status test fails. -/
theorem run_commandBody (uri : String) (resp : HttpResponse) :
    (commandBody uri resp).run "" =
      match HTTPConnection.request uri, decodeBody resp with
      | .error e, _ => .error e ""
      | .ok (), .error e => .error e ""
      | .ok (), .ok _ => .error (.os .unauthorizedException) "HTTP Error encountered\nUnauthorized\n" := by
  rcases h₁ : HTTPConnection.request uri with _ | ⟨⟩ <;> rcases h₂ : decodeBody resp with _ | _ <;>
    simp [commandBody, PyM.run_bind, run_checkResponse_num, h₁, h₂]

/-- `executeCommand` never returns a value: its `try` body always raises. -/
theorem executeCommand_result_ne_some (self : OpenSprinkler) (cmd : String) (args : List String)
    (resp : HttpResponse) (v : JVal) : (self.executeCommand cmd args resp).result ≠ .ok (some v) := by
  obtain ⟨e, out, h⟩ : ∃ e out, (commandBody (uriString cmd self.pwdDigest (commandArguments args))
      resp).run "" = .error e out := by
    rw [run_commandBody]
    split <;> exact ⟨_, _, rfl⟩
  simp only [OpenSprinkler.executeCommand, h]
  cases e <;> simp

/-- A device with a password digest and the class as its controller. -/
def sampleDevice : OpenSprinkler := ⟨"a6d82bced638de3def1e9bbb4983225c", .cls⟩

/-- A 200 reply to a two-argument `mp` request: only `&uwt=1` is sent, and the
decoded body is not returned. -/
theorem execute_command_drops_reply :
    sampleDevice.executeCommand "mp" ["pid=0", "uwt=1"] ⟨200, .json (.obj [("result", .num 1)])⟩ =
      ⟨"/mp?pw=a6d82bced638de3def1e9bbb4983225c&uwt=1", "HTTP Error encountered\nUnauthorized\n",
        ["Error reading from OpenSprinkler",
          "Unauthorized User Error - The password is either missing or incorrect."], .ok none⟩ ∧
    (sampleDevice.executeCommand "mp" ["pid=0", "uwt=1"]
        ⟨200, .json (.obj [("result", .num 1)])⟩).uriString ≠
      "/mp?pw=a6d82bced638de3def1e9bbb4983225c&pid=0&uwt=1" :=
  ⟨rfl, by decide⟩

/-! ## `getController` -/

namespace OpenSprinkler

/-- `getController`: `executeCommand('ja')`, then `OpenSprinklerController` on
what it returned (`None` is `null`), inside a bare `try`. -/
def getController (self : OpenSprinkler) (resp : HttpResponse) (w : World) :
    OpenSprinkler × Option OpenSprinklerController × World :=
  match (self.executeCommand "ja" [] resp).result with
  | .error _ => (self, none, w)
  | .ok jsonDictionary =>
    match (OpenSprinklerController.init (jsonDictionary.getD .null)).run w with
    | .ok c w' => ({ self with controller := .inst c }, some c, w')
    | .error _ w' => (self, none, w')

/-- `OpenSprinklerController(None)` raises at `'settings' in None`, leaving the
shared lists alone. -/
theorem init_null (w : World) : (OpenSprinklerController.init .null).run w = .error .typeError w := by
  rw [OpenSprinklerController.run_init]
  rfl

/-- `getController` returns `None` and changes nothing, whatever the reply. -/
theorem getController_eq (self : OpenSprinkler) (resp : HttpResponse) (w : World) :
    self.getController resp w = (self, none, w) := by
  unfold getController
  cases h : (self.executeCommand "ja" [] resp).result with
  | error e => rfl
  | ok o =>
    cases o with
    | none => simp [init_null]
    | some v => exact absurd h (executeCommand_result_ne_some self "ja" [] resp v)

/-! ## Starting programs and stations -/

/-- `self.write`: `OpenSprinkler` defines no `write`, so looking it up raises. -/
def write (_self : OpenSprinkler) (_cmd : Command) : Except PyErr Unit :=
  .error (.attributeError "write")

end OpenSprinkler

/-- `self.controller.getNumPrograms()`: on the class the method is unbound and,
called without `self`, raises `TypeError`. -/
def ControllerRef.getNumPrograms : ControllerRef → Except PyErr JVal
  | .cls => .error .typeError
  | .inst c => c.getNumPrograms

/-- `self.controller.getStations()`: on the class, `TypeError` as above. -/
def ControllerRef.getStations (w : World) : ControllerRef → Except PyErr (List OpenSprinklerStation)
  | .cls => .error .typeError
  | .inst c => .ok (c.getStations w)

/-- `self.controller.getPrograms()`: on the class, `TypeError` as above. -/
def ControllerRef.getPrograms (w : World) : ControllerRef → Except PyErr (List OpenSprinklerProgram)
  | .cls => .error .typeError
  | .inst c => .ok (c.getPrograms w)

namespace OpenSprinkler

/-- `getStations`: `if self.controller:` holds for the class and for every
instance, so the `else` branch is never taken. -/
def getStations (self : OpenSprinkler) (w : World) : Except PyErr (List OpenSprinklerStation) :=
  self.controller.getStations w

/-- `getPrograms`, as `getStations`. -/
def getPrograms (self : OpenSprinkler) (w : World) : Except PyErr (List OpenSprinklerProgram) :=
  self.controller.getPrograms w

end OpenSprinkler

/-- `xs[i]` for an `int` `i`: a negative index counts from the end. -/
def pyIndex {α : Type} (xs : List α) (i : Int) : Except PyErr α :=
  let j := if i < 0 then i + xs.length else i
  if 0 ≤ j then
    match xs[j.toNat]? with
    | some x => .ok x
    | none => .error .indexError
  else .error .indexError

/-- `x * k` for a natural `k`: numbers multiply, a `str` or a `list` repeats, and
anything else raises `TypeError`. -/
def pyMulNat (x : JVal) (k : Nat) : Except PyErr JVal :=
  match x with
  | .num n => .ok (.num (n * k))
  | .bool b => .ok (.num ((if b then 1 else 0) * k))
  | .str s => .ok (.str (String.join (List.replicate k s)))
  | .arr xs => .ok (.arr (List.replicate k xs).flatten)
  | _ => .error .typeError

namespace OpenSprinkler

/-- The `isinstance` tests of `startProgram`: the `pid` they assign when the
reference is valid. A number is valid when at most `getNumPrograms()`; anything
else reaches `string.String`, and `string` is not bound. -/
def programReferenceCheck (self : OpenSprinkler) (programReference : JVal) :
    Except PyErr (Option JVal) :=
  match programReference.asInt with
  | some r => do
    if r ≤ (← (← self.controller.getNumPrograms).toInt) then pure (some programReference)
    else pure none
  | none => .error (.nameError "string")

/-- `startProgram(programReference, *wxFlag)` up to `self.write`: the command it
passes when `referenceValid` is set. `uwt` is `0` exactly when no flag is
passed. -/
def startProgramCommand (self : OpenSprinkler) (programReference : JVal) (wxFlag : List JVal) :
    Except PyErr (Option Command) := do
  let pid ← self.programReferenceCheck programReference
  let uwt : Int := if wxFlag.isEmpty then 0 else 1
  return pid.map fun pid => ⟨"mp", [("pid", pid), ("uwt", .num uwt)]⟩

/-- `startProgram`. -/
def startProgram (self : OpenSprinkler) (programReference : JVal) (wxFlag : List JVal) :
    Except PyErr Unit := do
  match ← self.startProgramCommand programReference wxFlag with
  | some cmd => self.write cmd
  | none => pure ()

/-- The `isinstance` test of `startStation`: the `sid`, `en` and `t` it assigns
when the station's disabled flag is clear. It never assigns `referenceValid`. -/
def stationReferenceCheck (self : OpenSprinkler) (w : World) (stationReference tMinutes : JVal) :
    Except PyErr (Option (JVal × Int × JVal)) :=
  match stationReference.asInt with
  | some r => do
    let st ← pyIndex (← self.controller.getStations w) r
    if st.getDisabledFlag = 0 then return some (stationReference, 1, ← pyMulNat tMinutes 60)
    else return none
  | none => pure none

/-- `startStation(stationReference, t_minutes)` up to `self.write`:
`referenceValid` stays `False`. -/
def startStationCommand (self : OpenSprinkler) (w : World) (stationReference tMinutes : JVal) :
    Except PyErr (Option Command) := do
  let referenceValid := false
  let assigned ← self.stationReferenceCheck w stationReference tMinutes
  if referenceValid then
    match assigned with
    | some (sid, en, t) => return some ⟨"cm", [("sid", sid), ("en", .num en), ("t", t)]⟩
    | none => throw (.nameError "sid")
  else return none

/-- `startStation`. -/
def startStation (self : OpenSprinkler) (w : World) (stationReference tMinutes : JVal) :
    Except PyErr Unit := do
  match ← self.startStationCommand w stationReference tMinutes with
  | some cmd => self.write cmd
  | none => pure ()

/-- A computation whose result is dropped for a constant returns that constant,
if it returns. -/
theorem eq_of_bind_const {α β : Type} {x : Except PyErr α} {b o : β}
    (h : (x >>= fun _ => pure b) = .ok o) : o = b := by
  cases x <;> cases h
  rfl

/-- On a device whose `controller` is the class, `startProgram` raises before
building its command: `TypeError` from the unbound `getNumPrograms` for a
number, `NameError` for anything else. -/
theorem startProgramCommand_of_cls {self : OpenSprinkler} (h : self.controller = .cls)
    (programReference : JVal) (wxFlag : List JVal) :
    self.startProgramCommand programReference wxFlag =
      .error (if programReference.asInt.isSome then .typeError else .nameError "string") := by
  cases hr : programReference.asInt <;>
    simp [startProgramCommand, programReferenceCheck, hr, h, ControllerRef.getNumPrograms, bind,
      Except.bind]

/-- `startStation` never reaches `self.write`: it raises, or returns having sent
nothing. -/
theorem startStationCommand_eq_ok (self : OpenSprinkler) (w : World)
    (stationReference tMinutes : JVal) {o : Option Command}
    (h : self.startStationCommand w stationReference tMinutes = .ok o) : o = none := by
  simp only [startStationCommand, Bool.false_eq_true, if_false] at h
  exact eq_of_bind_const h

/-! ## The devices the plugin can build -/

/-- `OpenSprinkler(hostName, hostPort, userPass)`, from the digest of the
password; `self.controller` keeps the class attribute. -/
def init (pwdDigest : String) : OpenSprinkler := ⟨pwdDigest, .cls⟩

/-- The devices the plugin can hold: one it constructed, after any
`getController` calls. -/
inductive Reachable : OpenSprinkler → Prop
  | init (pwdDigest : String) : Reachable (init pwdDigest)
  | getController {self : OpenSprinkler} (resp : HttpResponse) (w : World) :
      Reachable self → Reachable (self.getController resp w).1

theorem Reachable.controller_eq {self : OpenSprinkler} (h : Reachable self) :
    self.controller = .cls := by
  induction h with
  | init => rfl
  | getController resp w _ ih => rwa [getController_eq]

/-- On a device the plugin can build, `getStations()` and `getPrograms()` raise
`TypeError`: `self.controller` is still the class. -/
theorem Reachable.getStations_getPrograms_raise {self : OpenSprinkler} (h : Reachable self)
    (w : World) : self.getStations w = .error .typeError ∧ self.getPrograms w = .error .typeError := by
  simp [getStations, getPrograms, h.controller_eq, ControllerRef.getStations,
    ControllerRef.getPrograms]

theorem getStations_getPrograms_raise_init :
    Reachable (init sampleDevice.pwdDigest) ∧
      (init sampleDevice.pwdDigest).getStations World.initial = .error .typeError ∧
      (init sampleDevice.pwdDigest).getPrograms World.initial = .error .typeError :=
  ⟨.init _, Reachable.getStations_getPrograms_raise (.init _) World.initial⟩

/-- On a device the plugin can build, `startProgram` raises before any command:
`TypeError` from the class's unbound `getNumPrograms` for a number, `NameError`
for anything else. -/
theorem Reachable.startProgram_error {self : OpenSprinkler} (h : Reachable self)
    (programReference : JVal) (wxFlag : List JVal) :
    self.startProgramCommand programReference wxFlag =
      .error (if programReference.asInt.isSome then .typeError else .nameError "string") :=
  startProgramCommand_of_cls h.controller_eq programReference wxFlag

theorem startProgram_error_init :
    Reachable (init sampleDevice.pwdDigest) ∧
      (init sampleDevice.pwdDigest).startProgramCommand (.num 0) [] =
        .error (if (JVal.num 0).asInt.isSome then .typeError else .nameError "string") :=
  ⟨.init _, Reachable.startProgram_error (.init _) _ _⟩

/-- On a device the plugin can build, `startStation` sends nothing: for a
number it raises `TypeError`, for anything else it returns. -/
theorem Reachable.startStation_ne {self : OpenSprinkler} (h : Reachable self) (w : World)
    (stationReference tMinutes : JVal) :
    self.startStation w stationReference tMinutes =
      if stationReference.asInt.isSome then .error .typeError else .ok () := by
  cases hr : stationReference.asInt <;>
    simp [startStation, startStationCommand, stationReferenceCheck, hr, h.controller_eq,
      ControllerRef.getStations,
      bind, Except.bind, pure, Except.pure]

theorem startStation_ne_init :
    Reachable (init sampleDevice.pwdDigest) ∧
      (init sampleDevice.pwdDigest).startStation World.initial (.num 0) (.num 5) =
        if (JVal.num 0).asInt.isSome then .error .typeError else .ok () :=
  ⟨.init _, Reachable.startStation_ne (.init _) _ _ _⟩

end OpenSprinkler

/-- One enabled station and `programs.nprogs = 1`. -/
def oneProgramSnapshot : List (String × JVal) :=
  [("settings", .obj [("en", .num 1)]),
   ("stations", .obj [("ignore_rain", .arr [.num 0]), ("stn_seq", .arr [.num 0]),
      ("stn_dis", .arr [.num 0]), ("stn_spe", .arr [.num 0]), ("snames", .arr [.str "S01"])]),
   ("status", .obj [("nstations", .num 1), ("sn", .arr [.num 0])]),
   ("programs", .obj [("nprogs", .num 1)])]

def oneProgramData : StationData oneProgramSnapshot :=
  ⟨⟨.num 1, 0, 0, 0, 0, 1, [.str "S01"], [.num 0], rfl, rfl, rfl, rfl, rfl, rfl, rfl, rfl⟩, by decide⟩

/-- With the controller built from `oneProgramSnapshot` installed, program 0 and
station 0 are valid references, yet neither start sends a command:
`startProgram(0)` raises `NameError` in `getNumPrograms()`, and
`startStation(0, 5)` returns having sent nothing. -/
theorem valid_starts_send_nothing :
    ∃ c w, (OpenSprinklerController.init (.obj oneProgramSnapshot)).run World.initial = .ok c w ∧
      c.valueOf "num_programs" = some (.num 1) ∧
      (∃ st, c.getStations w = [st] ∧ st.getDisabledFlag = 0) ∧
      { sampleDevice with controller := .inst c }.startProgram (.num 0) [] =
        .error (.nameError "UnknownPropertyError") ∧
      { sampleDevice with controller := .inst c }.startStationCommand w (.num 0) (.num 5) = .ok none ∧
      { sampleDevice with controller := .inst c }.startStation w (.num 0) (.num 5) = .ok () := by
  rw [OpenSprinklerController.run_init, oneProgramData.resolves,
    oneProgramData.appendedStations_eq (by decide) (by decide)]
  exact ⟨_, _, rfl, by decide, ⟨_, rfl, rfl⟩, rfl, rfl, rfl⟩

end OpenSprinklerPlugin
