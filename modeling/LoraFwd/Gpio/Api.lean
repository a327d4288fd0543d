import LoraFwd.Gpio.Platform

/-!
# The GPIO API

`gpio_api.c`: a wrapper over libgpiod that keeps the open chip, a table of line
handles, a table of interrupt callbacks and a table of debounce records, each
with one entry per line of the chip.  Every function but `gpio_set_pull` takes
the API's mutex, after its test of `max_lines`; the interrupt thread takes
none.  The calls are taken to come from one caller, as in the gateway, where
the radio HAL makes them, so that a call is one step with respect to the
others.  The thread's steps can fall inside a call: `LoraFwd.Gpio.Thread` and
`LoraFwd.Gpio.Run` say where that matters.

The static variables are `GpioState`, with the platform the API runs on.  A
table is `none` while its pointer is `NULL`; an entry of the line table says
whether it holds a handle, and a callback is named by a number.  An access
through a `NULL` pointer or past the end of a table is a `GpioFault`, after
which nothing is modelled.  Pointers the caller passes for results are taken to
be valid, as in the rest of the model.
-/

namespace LoraFwd.Gpio

/-! ## Constants of `gpio_api.h` and libgpiod -/

/-- `gpio_error_t`. -/
def gpioSuccess : Nat := 0
def gpioErrorInvalidArg : Nat := 1
def gpioErrorNotFound : Nat := 2
def gpioErrorAccess : Nat := 3
def gpioErrorIo : Nat := 4
def gpioErrorNotSupported : Nat := 5
def gpioErrorUnknown : Nat := 6
def gpioErrorDebounce : Nat := 7

/-- `gpio_direction_t`. -/
def gpioModeInput : Nat := 0
def gpioModeOutput : Nat := 1
def gpioDirInOut : Nat := 2

/-- `gpio_intr_type_t`. -/
def gpioIntrNone : Nat := 0
def gpioIntrPosedge : Nat := 1
def gpioIntrNegedge : Nat := 2
def gpioIntrAnyedge : Nat := 3
def gpioIntrHighLevel : Nat := 4
def gpioIntrLowLevel : Nat := 5

/-- `GPIOD_LINE_DIRECTION_INPUT` and `GPIOD_LINE_DIRECTION_OUTPUT` of libgpiod,
whose header is not in the repository. -/
def gpiodLineDirectionInput : Int := 1
def gpiodLineDirectionOutput : Int := 2

/-! ## The state -/

/-- `debounce_info_t`. -/
structure DebounceInfo where
  lastTime : UInt32
  lastValue : Int
deriving DecidableEq, Repr

/-- Where the scan of `intr_thread_func` stands in its loop over the lines:
the test `i < max_lines`, the read of `callbacks[i]`, the read of `lines[i]`,
or the second read of `lines[i]`, for `gpiod_line_event_get_fd`. -/
inductive ScanAt
  | test
  | callback
  | line
  | fd
deriving DecidableEq, Repr

/-- Where the dispatch after a `poll` stands in its loop over the lines: the
test `i < max_lines`, the reads of `callbacks[i]` and `lines[i]` in the test of
line 209, the reads of `lines[i]` for `gpiod_line_event_get_fd` (line 210) and
`gpiod_line_event_read` (line 215), and the read of `callbacks[i]` for the call
of line 216. -/
inductive DispatchAt
  | test
  | callback
  | line
  | fd
  | read
  | call
deriving DecidableEq, Repr

/-- The interrupt thread, at the next read of a static variable it makes, with
its locals: none; created, before the `malloc` of `pfds`; scanning line `i`
with the descriptors found so far, in a table of `size` entries; at the test of
its `while`; dispatching line `i` after a `poll` that reported the descriptors
`ready`; or returned. -/
inductive IntrThread
  | idle
  | started
  | scan (next : ScanAt) (size i : Nat) (fds : List Int)
  | loop (fds : List Int)
  | dispatch (next : DispatchAt) (fds ready : List Int) (i : Nat)
  | exited
deriving DecidableEq, Repr

/-- The points where `gpio_init` waits while the interrupt thread runs, each
before a write to a table the thread reads: the allocation of `lines`, of
`callbacks`, and of `debounce_info` (whose failure clears `callbacks`), and the
freeing of `lines` after a failure. -/
inductive InitAt
  | lines
  | callbacks
  | debounce
  | freeLines
deriving DecidableEq, Repr

/-- A call of the API under way while the interrupt thread runs: `gpio_init`
at one of its points, or `gpio_cleanup` waiting in `pthread_join`. -/
inductive Pending
  | init (next : InitAt)
  | join
deriving DecidableEq, Repr

/-- The static variables of `gpio_api.c`; the interrupt thread; the call of the
API under way, if it waits for the thread; the callbacks the thread has invoked
(most recent first, with the line); and the platform. -/
structure GpioState where
  chip : Bool
  lines : Option (List Bool)
  maxLines : Nat
  callbacks : Option (List (Option Nat))
  intrThreadRunning : Bool
  debounceInfo : Option (List DebounceInfo)
  thread : IntrThread
  pending : Option Pending
  invoked : List (Nat × Nat)
  platform : Platform
deriving DecidableEq, Repr

/-- The initial values of the static variables. -/
def GpioState.init (platform : Platform) : GpioState :=
  ⟨false, none, 0, none, false, none, .idle, none, [], platform⟩

/-- Whether `gpio_init` is under way. -/
def GpioState.initializing (s : GpioState) : Bool :=
  match s.pending with
  | some (.init _) => true
  | _ => false

def GpioState.sys (call : SysCall) (s : GpioState) : SysReply × GpioState :=
  ((LoraFwd.Gpio.sys call s.platform).1, { s with platform := (LoraFwd.Gpio.sys call s.platform).2 })

def GpioState.record (call : SysCall) (s : GpioState) : GpioState :=
  { s with platform := LoraFwd.Gpio.record call s.platform }

def GpioState.alloc (call : SysCall) (s : GpioState) : Bool × GpioState :=
  ((LoraFwd.Gpio.alloc call s.platform).1,
    { s with platform := (LoraFwd.Gpio.alloc call s.platform).2 })

/-- What the driver does that C leaves undefined. -/
inductive GpioFault
  | nullDeref
  | outOfBounds
deriving DecidableEq, Repr

/-- `array[index]`. -/
def readAt {α : Type} (array : Option (List α)) (index : Nat) : Except GpioFault α :=
  match array with
  | none => .error .nullDeref
  | some items =>
    match items.get? index with
    | some item => .ok item
    | none => .error .outOfBounds

/-- `items[index] = value` on an array that is not `NULL`. -/
def writeEntry {α : Type} (items : List α) (index : Nat) (value : α) : Except GpioFault (List α) :=
  if index < items.length then .ok (items.set index value) else .error .outOfBounds

/-- `array[index] = value`. -/
def writeAt {α : Type} (array : Option (List α)) (index : Nat) (value : α) :
    Except GpioFault (Option (List α)) :=
  match array with
  | none => .error .nullDeref
  | some items => do
    let items ← writeEntry items index value
    return some items

/-! ## Opening and closing the chip -/

/-- The allocation of the three tables in `gpio_init`, one entry per line,
zeroed.  On each failure the tables allocated so far are freed and the chip is
closed, but `max_lines` keeps the chip's line count. -/
def allocTables (s : GpioState) : Nat × GpioState :=
  let (gotLines, s) := s.alloc (.calloc s.maxLines)
  if !gotLines then (gpioErrorUnknown, { s.record .chipClose with chip := false, lines := none })
  else
    let (gotCallbacks, s) := s.alloc (.calloc s.maxLines)
    if !gotCallbacks then
      (gpioErrorUnknown,
        { (s.record .free).record .chipClose with chip := false, lines := none, callbacks := none })
    else
      let (gotDebounce, s) := s.alloc (.calloc s.maxLines)
      if !gotDebounce then
        (gpioErrorUnknown,
          { ((s.record .free).record .free).record .chipClose with
            chip := false, lines := none, callbacks := none, debounceInfo := none })
      else
        (gpioSuccess,
          { s with
            lines := some (List.replicate s.maxLines false)
            callbacks := some (List.replicate s.maxLines none)
            debounceInfo := some (List.replicate s.maxLines ⟨0, 0⟩) })

/-- The start of `gpio_init`: refuse a missing name, open the chip and read
its line count, closing it again when it has no line.  The code `gpio_init`
returns there, or `none` when it goes on to allocate the tables. -/
def openChip (chipname : Bool) (s : GpioState) : Option Nat × GpioState :=
  if !chipname then (some gpioErrorInvalidArg, s)
  else
    let (opened, s) := s.sys .chipOpenByName
    if !opened.ok then
      (some (if opened.accessDenied then gpioErrorAccess else gpioErrorNotFound), { s with chip := false })
    else
      let (numLines, s) := s.sys .chipNumLines
      let s := { s with chip := true, maxLines := numLines.value.toNat }
      if s.maxLines = 0 then (some gpioErrorNotFound, { s.record .chipClose with chip := false })
      else (none, s)

/-- `gpio_init`: open the chip, read its line count, and allocate the
tables. -/
def gpioInit (chipname : Bool) (s : GpioState) : Nat × GpioState :=
  match openChip chipname s with
  | (some code, s) => (code, s)
  | (none, s) => allocTables s

/-- `gpio_init` up to its first point of `InitAt`, where it waits while the
interrupt thread runs. -/
def initStart (chipname : Bool) (s : GpioState) : GpioState :=
  match openChip chipname s with
  | (some _, s) => s
  | (none, s) => { s with pending := some (.init .lines) }

/-- `gpio_init` from one of its points to the next, or to its return: the
statements of `allocTables`, cut before each write to `lines` or
`callbacks`. -/
def initResume (s : GpioState) : InitAt → GpioState
  | .lines =>
    let (gotLines, s) := s.alloc (.calloc s.maxLines)
    if !gotLines then { s.record .chipClose with chip := false, lines := none, pending := none }
    else { s with lines := some (List.replicate s.maxLines false), pending := some (.init .callbacks) }
  | .callbacks =>
    let (gotCallbacks, s) := s.alloc (.calloc s.maxLines)
    if !gotCallbacks then { s with callbacks := none, pending := some (.init .freeLines) }
    else
      { s with callbacks := some (List.replicate s.maxLines none), pending := some (.init .debounce) }
  | .debounce =>
    let (gotDebounce, s) := s.alloc (.calloc s.maxLines)
    if !gotDebounce then
      { s.record .free with debounceInfo := none, callbacks := none, pending := some (.init .freeLines) }
    else { s with debounceInfo := some (List.replicate s.maxLines ⟨0, 0⟩), pending := none }
  | .freeLines => { (s.record .free).record .chipClose with chip := false, lines := none, pending := none }

/-- The loop of `gpio_cleanup` that releases every line handle. -/
def releaseLines : List Nat → GpioState → Except GpioFault GpioState
  | [], s => .ok s
  | i :: rest, s => do
    let held ← readAt s.lines i
    if held then
      let lines ← writeAt s.lines i false
      releaseLines rest { s.record (.lineRelease i) with lines }
    else releaseLines rest s

/-- The start of `gpio_cleanup`: clear `intr_thread_running` and join the
thread. -/
def stopIntrThread (s : GpioState) : GpioState :=
  if s.intrThreadRunning then
    { s.record .pthreadJoin with intrThreadRunning := false, thread := .idle }
  else s

/-- The release of every line handle in `gpio_cleanup`, and the freeing of the
line table. -/
def freeLines (s : GpioState) : Except GpioFault GpioState :=
  match s.lines with
  | none => pure s
  | some _ => do
    let s ← releaseLines (List.range s.maxLines) s
    pure { s.record .free with lines := none }

/-- The end of `gpio_cleanup`: free the other tables and close the chip. -/
def freeResources (s : GpioState) : GpioState :=
  let s := if s.callbacks.isSome then { s.record .free with callbacks := none } else s
  let s := if s.debounceInfo.isSome then { s.record .free with debounceInfo := none } else s
  let s := if s.chip then { s.record .chipClose with chip := false } else s
  { s with maxLines := 0 }

/-- `gpio_cleanup` after the join: release the lines, free the tables and
close the chip. -/
def cleanupFree (s : GpioState) : Except GpioFault GpioState := do
  let s ← freeLines s
  return freeResources s

/-- `gpio_cleanup`: stop and join the interrupt thread, release the lines,
free the tables and close the chip. -/
def gpioCleanup (s : GpioState) : Except GpioFault GpioState :=
  cleanupFree (stopIntrThread s)

/-- `gpio_cleanup` up to its `pthread_join`, where it waits while the
interrupt thread runs: `intr_thread_running` cleared. -/
def awaitJoin (s : GpioState) : GpioState :=
  { s with intrThreadRunning := false, pending := some .join }

/-- `get_line`: the handle of a line of the open chip, got from libgpiod on
first use. -/
def getLine (lineNum : Nat) (s : GpioState) : Except GpioFault (Bool × GpioState) :=
  if !s.chip || lineNum ≥ s.maxLines then .ok (false, s)
  else do
    let held ← readAt s.lines lineNum
    if held then return (true, s)
    else
      let (got, s) := s.sys (.chipGetLine lineNum)
      let lines ← writeAt s.lines lineNum got.ok
      return (got.ok, { s with lines })

/-! ## Operations on one line -/

/--
The prologue the operations on one line share: refuse a line past the chip's
count or an argument the function's own check rejects, get the line's handle,
and refuse a line libgpiod does not give; then the function's body.
-/
def withLine {α : Type} (lineNum : Nat) (rejected : Bool) (refusal : α)
    (body : GpioState → Except GpioFault (α × GpioState)) (s : GpioState) :
    Except GpioFault (α × GpioState) :=
  if lineNum ≥ s.maxLines || rejected then .ok (refusal, s)
  else do
    let (line, s) ← getLine lineNum s
    if !line then return (refusal, s) else body s

/-- The code of a failed libgpiod call, from `errno`. -/
def requestError (accessDenied : Bool) : Nat :=
  if accessDenied then gpioErrorAccess else gpioErrorIo

/-- What a mode asks of libgpiod: a request, or a refusal. -/
inductive ModeRequest
  | request (call : SysCall)
  | notSupported
  | invalid

/-- Release the line if it is in use. -/
def releaseIfUsed (lineNum : Nat) (s : GpioState) : GpioState :=
  let (used, s) := s.sys (.lineIsUsed lineNum)
  if used.ok then s.record (.lineRelease lineNum) else s

/-- Request the line in a mode, or refuse the mode. -/
def requestMode (mode : ModeRequest) (s : GpioState) : Nat × GpioState :=
  match mode with
  | .request call =>
    let (ret, s) := s.sys call
    (if ret.value < 0 then requestError ret.accessDenied else gpioSuccess, s)
  | .notSupported => (gpioErrorNotSupported, s)
  | .invalid => (gpioErrorInvalidArg, s)

/-- The body shared by `gpio_set_direction` and `gpio_set_intr_type`: release
the line if it is in use, then request it in the mode asked, or refuse a mode
the API does not support.  The release comes before the refusal. -/
def requestLine (lineNum : Nat) (mode : ModeRequest) : GpioState → Except GpioFault (Nat × GpioState) :=
  withLine lineNum false gpioErrorInvalidArg fun s => .ok (requestMode mode (releaseIfUsed lineNum s))

/-- The `switch` of `gpio_set_direction`. -/
def directionRequest (lineNum direction : Nat) : ModeRequest :=
  if direction = gpioModeInput then .request (.lineRequestInput lineNum)
  else if direction = gpioModeOutput then .request (.lineRequestOutput lineNum 0)
  else if direction = gpioDirInOut then .notSupported
  else .invalid

/-- `gpio_set_direction`. -/
def gpioSetDirection (lineNum direction : Nat) : GpioState → Except GpioFault (Nat × GpioState) :=
  requestLine lineNum (directionRequest lineNum direction)

/-- The `switch` of `gpio_set_intr_type`. -/
def intrTypeRequest (lineNum intrType : Nat) : ModeRequest :=
  if intrType = gpioIntrNone then .request (.lineRequestInput lineNum)
  else if intrType = gpioIntrPosedge then .request (.lineRequestRisingEdgeEvents lineNum)
  else if intrType = gpioIntrNegedge then .request (.lineRequestFallingEdgeEvents lineNum)
  else if intrType = gpioIntrAnyedge then .request (.lineRequestBothEdgesEvents lineNum)
  else if intrType = gpioIntrHighLevel ∨ intrType = gpioIntrLowLevel then .notSupported
  else .invalid

/-- `gpio_set_intr_type`. -/
def gpioSetIntrType (lineNum intrType : Nat) : GpioState → Except GpioFault (Nat × GpioState) :=
  requestLine lineNum (intrTypeRequest lineNum intrType)

/-- `gpio_get_direction`: the code, and the direction written on success. -/
def gpioGetDirection (lineNum : Nat) : GpioState → Except GpioFault ((Nat × Option Nat) × GpioState) :=
  withLine lineNum false (gpioErrorInvalidArg, none) fun s =>
    let (dir, s) := s.sys (.lineDirection lineNum)
    .ok (if dir.value = gpiodLineDirectionInput then (gpioSuccess, some gpioModeInput)
      else if dir.value = gpiodLineDirectionOutput then (gpioSuccess, some gpioModeOutput)
      else (gpioErrorUnknown, none), s)

/-- `gpio_set_level`. -/
def gpioSetLevel (lineNum : Nat) (level : Int) : GpioState → Except GpioFault (Nat × GpioState) :=
  withLine lineNum (level != 0 && level != 1) gpioErrorInvalidArg fun s =>
    let (ret, s) := s.sys (.lineSetValue lineNum level)
    .ok (if ret.value < 0 then requestError ret.accessDenied else gpioSuccess, s)

/-- `gpio_get_level`: the code, and the level written on success. -/
def gpioGetLevel (lineNum : Nat) : GpioState → Except GpioFault ((Nat × Option Int) × GpioState) :=
  withLine lineNum false (gpioErrorInvalidArg, none) fun s =>
    let (val, s) := s.sys (.lineGetValue lineNum)
    .ok (if val.value < 0 then (requestError val.accessDenied, none) else (gpioSuccess, some val.value), s)

/-- `gpio_set_pull`: no pull setting is supported. -/
def gpioSetPull (lineNum _pull : Nat) (s : GpioState) : Nat :=
  if lineNum ≥ s.maxLines then gpioErrorInvalidArg else gpioErrorNotSupported

/-- `gpio_set_debounce`: reset the line's debounce record.  The period asked
for is not stored. -/
def gpioSetDebounce (lineNum _debounceMs : Nat) (s : GpioState) :
    Except GpioFault (Nat × GpioState) :=
  if lineNum ≥ s.maxLines then .ok (gpioErrorInvalidArg, s)
  else do
    let debounceInfo ← writeAt s.debounceInfo lineNum ⟨0, -1⟩
    return (gpioSuccess, { s with debounceInfo })

/-- The debounce filter of `gpio_wait_for_interrupt` on an event: read the
line's record and, if it has a time, the clock in milliseconds as an
`unsigned int`. -/
def debounceEvent (lineNum : Nat) (s : GpioState) : Except GpioFault (Bool × GpioState) := do
  let info ← readAt s.debounceInfo lineNum
  if info.lastTime > 0 then
    let (now, s) := s.sys .clockGettime
    let currentTime := now.value.toNat.toUInt32
    return (!decide (currentTime - info.lastTime < info.lastTime), s)
  else return (true, s)

/-- The body of `gpio_wait_for_interrupt`, with the filter it applies to an
event: poll the line's event descriptor and report what the filter lets
through. -/
def pollLine (lineNum : Nat) (timeoutMs : Int)
    (filter : GpioState → Except GpioFault (Bool × GpioState)) (s : GpioState) :
    Except GpioFault ((Nat × Option Bool) × GpioState) :=
  let (fd, s) := s.sys (.lineEventGetFd lineNum)
  if fd.value < 0 then .ok ((gpioErrorIo, none), s)
  else
    let (ret, s) := s.sys (.poll [fd.value] timeoutMs)
    if ret.value < 0 then .ok ((gpioErrorIo, none), s)
    else if ret.value = 0 then .ok ((gpioSuccess, some false), s)
    else do
      let (interrupted, s) ← filter s
      return ((gpioSuccess, some interrupted), s)

/-- `gpio_wait_for_interrupt`: the code, and the flag written on success. -/
def gpioWaitForInterrupt (lineNum : Nat) (timeoutMs : Int) :
    GpioState → Except GpioFault ((Nat × Option Bool) × GpioState) :=
  withLine lineNum false (gpioErrorInvalidArg, none) (pollLine lineNum timeoutMs (debounceEvent lineNum))

/-! ## Operations on several lines -/

/-- The loop of the bulk operations: the operation on each index in turn,
whatever the earlier ones returned, keeping the last error. -/
def bulkLoop {σ : Type} (op : Nat → σ → Except GpioFault (Nat × σ)) :
    List Nat → Nat → σ → Except GpioFault (Nat × σ)
  | [], ret, st => .ok (ret, st)
  | i :: rest, ret, st => do
    let (err, st) ← op i st
    bulkLoop op rest (if err ≠ gpioSuccess then err else ret) st

/-- `gpio_bulk_set_directions`. -/
def gpioBulkSetDirections (lineNums : List Nat) (count direction : Nat) (s : GpioState) :
    Except GpioFault (Nat × GpioState) :=
  if count = 0 then .ok (gpioErrorInvalidArg, s)
  else
    bulkLoop (fun i s => do
        let lineNum ← readAt (some lineNums) i
        gpioSetDirection lineNum direction s)
      (List.range count) gpioSuccess s

/-- `gpio_bulk_set_levels`. -/
def gpioBulkSetLevels (lineNums : List Nat) (count : Nat) (levels : List Int) (s : GpioState) :
    Except GpioFault (Nat × GpioState) :=
  if count = 0 then .ok (gpioErrorInvalidArg, s)
  else
    bulkLoop (fun i s => do
        let lineNum ← readAt (some lineNums) i
        let level ← readAt (some levels) i
        gpioSetLevel lineNum level s)
      (List.range count) gpioSuccess s

/-- `gpio_bulk_get_levels`: the code, the caller's levels array and the
state. -/
def gpioBulkGetLevels (lineNums : List Nat) (count : Nat) (levels : List Int) (s : GpioState) :
    Except GpioFault (Nat × List Int × GpioState) :=
  if count = 0 then .ok (gpioErrorInvalidArg, levels, s)
  else
    bulkLoop (fun i (levels, s) => do
        let lineNum ← readAt (some lineNums) i
        let ((err, level), s) ← gpioGetLevel lineNum s
        match level with
        | none => return (err, levels, s)
        | some value => do
          let levels ← writeEntry levels i value
          return (err, levels, s))
      (List.range count) gpioSuccess (levels, s)

/-! ## Error texts -/

/-- The table of `gpio_error_string`. -/
def gpioErrorStrings : List String :=
  ["Success", "Invalid argument", "GPIO not found", "Access denied", "I/O error",
    "Operation not supported", "Unknown error", "Debounce setting failed"]

/-- `gpio_error_string`: the text of a code in the table's range.  The test
`err >= 0` holds of every value of the unsigned enumeration. -/
def gpioErrorString (err : Nat) : String :=
  if bound : err ≤ gpioErrorDebounce then
    gpioErrorStrings.get ⟨err, Nat.lt_succ_of_le bound⟩
  else "Invalid error code"

end LoraFwd.Gpio
