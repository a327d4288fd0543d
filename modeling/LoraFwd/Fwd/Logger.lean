import Mathlib.Data.List.Basic

/-!
# The forwarder's logger thread

`logger.c` prints the forwarder's log.  A thread pulls messages from an
in-process ZeroMQ socket (`inproc://logger`) and prints each one, coloured by
the level tag its text begins with.  It receives with `s_recv` of
`zhelpers.h`, which copies at most 255 bytes of a frame into a buffer,
terminates it, and duplicates it with `strndup`.

The model works on bytes.  A C string is the list of its bytes before the
terminating NUL (`CString`, which cannot hold a NUL); a frame is any list of
bytes; what the thread prints is the bytes it writes to the standard output.
ZeroMQ, the allocator and the rest of the program are a script, as the
platform under the GPIO driver is: whether the socket is created and bound,
and, for each round of the thread's loop, whether it sees `EXIT_SIGNAL` set, or
what `zmq_recv` delivers and whether `strndup` gets its memory.
`EXIT_SIGNAL` is not defined in the repository: the script says when the loop
sees it set.

The main results: `strncmp` against a level tag is 0 exactly when the message
begins with the tag (`strncmp_eq_zero_iff`); `print_log_by_level` prints every
message whole, as its log line (`printLogByLevel_eq`), since
`g_log_level_mask` holds every level and nothing writes it; the thread
prints, in order and once each, the messages it receives before it sees the
exit signal (`logPullThread_prints`); and so each round before the signal
shows the log line of what `s_recv` returned, every frame of at most 255 bytes
without a NUL whole and nothing for a failed receive or allocation
(`logPullThread_delivers`).
-/

namespace LoraFwd.Fwd

/-! ## C strings -/

/-- A C string: its bytes before the terminating NUL. -/
structure CString where
  bytes : List UInt8
  noNul : (0 : UInt8) ∉ bytes

/-- The bytes of an ASCII literal of the source. -/
def ascii (text : String) : List UInt8 := text.toList.map fun char => char.toNat.toUInt8

/-- `strncmp(left, right, count)` on the bytes of two C strings: 0 when they
agree on their first `count` bytes, a terminator included, and otherwise the
difference, as `unsigned char`, of the first bytes where they differ. -/
def strncmp : List UInt8 → List UInt8 → Nat → Int
  | _, _, 0 => 0
  | [], [], _ + 1 => 0
  | [], right :: _, _ + 1 => -(right.toNat : Int)
  | left :: _, [], _ + 1 => left.toNat
  | left :: lefts, right :: rights, count + 1 =>
    if left = right then strncmp lefts rights count else (left.toNat : Int) - right.toNat

/-- `strndup(buffer, count)`: a copy of the string in the first `count` bytes
of the buffer, up to its first NUL; `NULL` when the allocation fails. -/
def strndup (buffer : List UInt8) (count : Nat) (allocated : Bool) : Option CString :=
  if allocated then
    some ⟨(buffer.take count).takeWhile (· != 0), fun member => by
      simpa using List.mem_takeWhile_imp member⟩
  else none

/-- Comparing with a tag that holds no NUL over the tag's length gives 0
exactly when the message begins with the tag. -/
theorem strncmp_eq_zero_iff : ∀ {tag : List UInt8}, (0 : UInt8) ∉ tag → ∀ message : List UInt8,
    strncmp message tag tag.length = 0 ↔ tag <+: message
  | [], _, message => iff_of_true (strncmp.eq_1 message []) List.nil_prefix
  | right :: rights, noNul, [] => by
    have nonzero : right.toNat ≠ 0 := fun zero =>
      noNul (by rw [show right = 0 from UInt8.toNat.inj zero]; exact List.mem_cons_self _ _)
    simp only [List.length_cons, strncmp, List.prefix_nil, reduceCtorEq, iff_false]
    omega
  | right :: rights, noNul, left :: lefts => by
    simp only [List.length_cons, strncmp, List.cons_prefix_cons]
    split
    case isTrue same =>
      rw [strncmp_eq_zero_iff (fun member => noNul (List.mem_cons_of_mem _ member)) lefts]
      exact ⟨fun prefixed => ⟨same.symm, prefixed⟩, And.right⟩
    case isFalse differ =>
      have : left.toNat ≠ right.toNat := fun same => differ (UInt8.toNat.inj same)
      exact ⟨fun zero => absurd zero (by omega), fun prefixed => absurd prefixed.1.symm differ⟩

/-! ## `print_log_by_level` -/

/-- `LOG_LEVEL_INFO`, `LOG_LEVEL_WARN`, `LOG_LEVEL_ERROR`, `LOG_LEVEL_DEBUG`. -/
def logLevelInfo : Nat := 1
def logLevelWarn : Nat := 2
def logLevelError : Nat := 4
def logLevelDebug : Nat := 8

/-- The colour escapes `COLOR_RESET`, `COLOR_INFO`, `COLOR_WARN`,
`COLOR_ERROR`, `COLOR_DEBUG`. -/
def colorReset : List UInt8 := ascii "\x1b[0m"
def colorInfo : List UInt8 := ascii "\x1b[32m"
def colorWarn : List UInt8 := ascii "\x1b[33m"
def colorError : List UInt8 := ascii "\x1b[31m"
def colorDebug : List UInt8 := ascii "\x1b[36m"

/-- `g_log_level_mask`: a static that nothing in the repository writes, so it
keeps its initial value. -/
def gLogLevelMask : Nat := logLevelInfo ||| logLevelWarn ||| logLevelError ||| logLevelDebug

/-- `printf(color "%s" COLOR_RESET "\n", msg)`. -/
def printColored (color : List UInt8) (msg : CString) : List UInt8 :=
  color ++ msg.bytes ++ colorReset ++ ascii "\n"

/-- `print_log_by_level(msg)`: the bytes it writes to the standard output. -/
def printLogByLevel (msg : CString) : List UInt8 :=
  if strncmp msg.bytes (ascii "[INFO]") 6 = 0 then
    if gLogLevelMask &&& logLevelInfo ≠ 0 then printColored colorInfo msg else []
  else if strncmp msg.bytes (ascii "[WARN]") 6 = 0 then
    if gLogLevelMask &&& logLevelWarn ≠ 0 then printColored colorWarn msg else []
  else if strncmp msg.bytes (ascii "[ERROR]") 7 = 0 then
    if gLogLevelMask &&& logLevelError ≠ 0 then printColored colorError msg else []
  else if strncmp msg.bytes (ascii "[DEBUG]") 7 = 0 then
    if gLogLevelMask &&& logLevelDebug ≠ 0 then printColored colorDebug msg else []
  else msg.bytes ++ ascii "\n"

/-- The colour of the first level tag a message begins with, if any. -/
def levelColor (bytes : List UInt8) : Option (List UInt8) :=
  if (ascii "[INFO]").isPrefixOf bytes then some colorInfo
  else if (ascii "[WARN]").isPrefixOf bytes then some colorWarn
  else if (ascii "[ERROR]").isPrefixOf bytes then some colorError
  else if (ascii "[DEBUG]").isPrefixOf bytes then some colorDebug
  else none

/-- A message as the log shows it: on a line of its own, in the colour of its
level, if it has one. -/
def logLine (bytes : List UInt8) : List UInt8 :=
  match levelColor bytes with
  | some color => color ++ bytes ++ colorReset ++ ascii "\n"
  | none => bytes ++ ascii "\n"

/-- The test of `print_log_by_level` for a tag: the message begins with it. -/
theorem strncmp_tag_eq_zero_iff {tag : List UInt8} (noNul : (0 : UInt8) ∉ tag)
    (message : List UInt8) : strncmp message tag tag.length = 0 ↔ tag.isPrefixOf message = true :=
  (strncmp_eq_zero_iff noNul message).trans List.isPrefixOf_iff_prefix.symm

/-- `print_log_by_level` prints every message whole, as its log line: the
tests of the mask never fail. -/
theorem printLogByLevel_eq (msg : CString) : printLogByLevel msg = logLine msg.bytes := by
  have info : strncmp msg.bytes (ascii "[INFO]") 6 = 0 ↔ _ := strncmp_tag_eq_zero_iff (by decide) _
  have warn : strncmp msg.bytes (ascii "[WARN]") 6 = 0 ↔ _ := strncmp_tag_eq_zero_iff (by decide) _
  have error : strncmp msg.bytes (ascii "[ERROR]") 7 = 0 ↔ _ := strncmp_tag_eq_zero_iff (by decide) _
  have debug : strncmp msg.bytes (ascii "[DEBUG]") 7 = 0 ↔ _ := strncmp_tag_eq_zero_iff (by decide) _
  have masks : gLogLevelMask &&& logLevelInfo ≠ 0 ∧ gLogLevelMask &&& logLevelWarn ≠ 0 ∧
      gLogLevelMask &&& logLevelError ≠ 0 ∧ gLogLevelMask &&& logLevelDebug ≠ 0 := by decide
  simp only [printLogByLevel, logLine, levelColor, printColored, if_pos masks.1, if_pos masks.2.1,
    if_pos masks.2.2.1, if_pos masks.2.2.2, info, warn, error, debug]
  by_cases infoTag : (ascii "[INFO]").isPrefixOf msg.bytes
  · simp only [infoTag, if_true]
  by_cases warnTag : (ascii "[WARN]").isPrefixOf msg.bytes
  · simp only [infoTag, warnTag, Bool.false_eq_true, ↓reduceIte]
  by_cases errorTag : (ascii "[ERROR]").isPrefixOf msg.bytes
  · simp only [infoTag, warnTag, errorTag, Bool.false_eq_true, ↓reduceIte]
  by_cases debugTag : (ascii "[DEBUG]").isPrefixOf msg.bytes <;>
    simp only [infoTag, warnTag, errorTag, debugTag, Bool.false_eq_true, ↓reduceIte]

/-! ## `s_recv` -/

/-- What `zmq_recv` meets: a frame, of which it copies at most as many bytes as
it is asked for and returns the size, or a failure, `-1`. -/
inductive Delivery
  | frame (bytes : List UInt8)
  | failed

/-- `s_recv(socket)` of `zhelpers.h`: receive at most 255 bytes into a buffer
of 256, put the terminator after them or in the last byte, and duplicate the
string with `strndup(buffer, 255)`.  `allocated` is whether `strndup` gets its
memory. -/
def sRecv (delivery : Delivery) (allocated : Bool) : Option CString :=
  match delivery with
  | .failed => none
  | .frame bytes =>
    let size := bytes.length
    let received := bytes.take 255
    let buffer := received.take (if size < 256 then size else 255)
    strndup buffer 255 allocated

/-- A frame of at most 255 bytes without a NUL is received whole. -/
theorem sRecv_frame {bytes : List UInt8} (fits : bytes.length ≤ 255) (noNul : (0 : UInt8) ∉ bytes) :
    (sRecv (.frame bytes) true).map CString.bytes = some bytes := by
  have whole : bytes.take 255 = bytes := List.take_of_length_le fits
  simp only [sRecv, strndup, whole, if_pos (show bytes.length < 256 by omega), if_true,
    List.take_of_length_le (Nat.le_refl bytes.length), Option.map_some', Option.some.injEq,
    List.takeWhile_eq_self_iff]
  intro byte member
  simpa using fun zero : byte = 0 => noNul (zero ▸ member)

/-! ## `log_pull_thread` -/

/-- One round of the thread's loop: it sees `EXIT_SIGNAL` set, or calls
`s_recv`, which meets a delivery and an allocation. -/
inductive Round
  | exit
  | receive (delivery : Delivery) (allocated : Bool)

def Round.isExit : Round → Bool
  | .exit => true
  | .receive _ _ => false

/-- What the thread meets: whether `zmq_socket` and `zmq_bind` succeed, and its
rounds. -/
structure LoggerEnv where
  socketCreated : Bool
  bound : Bool
  rounds : List Round

/-- What the thread does: the bytes it prints, the calls whose failure it
reports with `perror`, whether it closes the socket, and whether it
returns. -/
structure LoggerTrace where
  stdout : List UInt8
  errors : List String
  closed : Bool
  returned : Bool

/-- The loop `while (!EXIT_SIGNAL)`, from the bytes printed so far: the bytes
printed, and whether it ends.  When the script ends first the thread is still
in the loop. -/
def pullLoop : List Round → List UInt8 → List UInt8 × Bool
  | [], stdout => (stdout, false)
  | .exit :: _, stdout => (stdout, true)
  | .receive delivery allocated :: rounds, stdout =>
    match sRecv delivery allocated with
    | none => pullLoop rounds stdout
    | some msg => pullLoop rounds (stdout ++ printLogByLevel msg)

/-- `log_pull_thread`. -/
def logPullThread (env : LoggerEnv) : LoggerTrace :=
  if !env.socketCreated then ⟨[], ["zmq_socket"], false, true⟩
  else if !env.bound then ⟨[], ["zmq_bind"], true, true⟩
  else
    let (stdout, exited) := pullLoop env.rounds []
    ⟨stdout, [], exited, exited⟩

/-- The messages `s_recv` returns before the thread sees the exit signal. -/
def receivedBeforeExit : List Round → List CString
  | [] => []
  | .exit :: _ => []
  | .receive delivery allocated :: rounds =>
    (sRecv delivery allocated).toList ++ receivedBeforeExit rounds

/-- The loop appends the log lines of the messages received before the exit
signal, in order, and ends exactly when the script holds the signal. -/
theorem pullLoop_eq : ∀ (rounds : List Round) (stdout : List UInt8),
    pullLoop rounds stdout =
      (stdout ++ (receivedBeforeExit rounds).flatMap printLogByLevel, rounds.any Round.isExit)
  | [], _ => by simp [pullLoop, receivedBeforeExit]
  | .exit :: _, _ => by simp [pullLoop, receivedBeforeExit, Round.isExit]
  | .receive delivery allocated :: rounds, stdout => by
    simp only [pullLoop, receivedBeforeExit, List.any_cons, Round.isExit, Bool.false_or]
    cases sRecv delivery allocated with
    | none => exact pullLoop_eq rounds stdout
    | some msg => simp [pullLoop_eq rounds, List.append_assoc]

/-- The thread prints, in order and once each, the messages it receives
before it sees the exit signal, and nothing when it cannot open its socket;
it closes the socket it opened when it returns. -/
theorem logPullThread_prints (env : LoggerEnv) :
    (logPullThread env).stdout =
        (if env.socketCreated && env.bound then
          (receivedBeforeExit env.rounds).flatMap printLogByLevel else []) ∧
      (logPullThread env).returned = (!env.socketCreated || !env.bound || env.rounds.any Round.isExit) ∧
      (logPullThread env).closed = (env.socketCreated && (!env.bound || env.rounds.any Round.isExit)) := by
  obtain ⟨socketCreated, bound, rounds⟩ := env
  cases socketCreated <;> cases bound <;> simp [logPullThread, pullLoop_eq]

/-- What a round before the exit signal shows in the log: the log line of the
message `s_recv` returns, if it returns one. -/
def Round.printed : Round → List UInt8
  | .exit => []
  | .receive delivery allocated => ((sRecv delivery allocated).map fun msg => logLine msg.bytes).getD []

/-- Before the exit signal, the loop prints what each round shows. -/
theorem receivedBeforeExit_printed (after : List Round) : ∀ before : List Round,
    (∀ round ∈ before, round.isExit = false) →
      (receivedBeforeExit (before ++ .exit :: after)).flatMap printLogByLevel =
        before.flatMap Round.printed
  | [], _ => rfl
  | .exit :: _, noExit => absurd (noExit .exit (List.mem_cons_self _ _)) Bool.noConfusion
  | .receive delivery allocated :: rest, noExit => by
    rw [List.cons_append, receivedBeforeExit, List.flatMap_append, List.flatMap_cons,
      receivedBeforeExit_printed after rest fun round member => noExit round (List.mem_cons_of_mem _ member)]
    cases received : sRecv delivery allocated <;> simp [Round.printed, received, printLogByLevel_eq]

/-- With the socket open, the thread prints, for each round before the exit
signal and in their order, the log line of the message `s_recv` returned: a
frame of at most 255 bytes without a NUL whole, and nothing for a failed
receive or a failed allocation.  At the exit signal it closes the socket and
returns, and reads nothing after it. -/
theorem logPullThread_delivers (before after : List Round)
    (noExit : ∀ round ∈ before, round.isExit = false) :
    logPullThread ⟨true, true, before ++ .exit :: after⟩ = ⟨before.flatMap Round.printed, [], true, true⟩ ∧
      (∀ bytes : List UInt8, bytes.length ≤ 255 → (0 : UInt8) ∉ bytes →
        Round.printed (.receive (.frame bytes) true) = logLine bytes) ∧
      (∀ allocated, Round.printed (.receive .failed allocated) = []) ∧
      ∀ delivery, Round.printed (.receive delivery false) = [] := by
  refine ⟨?_, fun bytes fits noNul => ?_, fun _ => rfl, fun delivery => ?_⟩
  · simp only [logPullThread, Bool.not_true, pullLoop_eq, List.nil_append,
      receivedBeforeExit_printed after before noExit, List.any_append, List.any_cons, Round.isExit,
      Bool.true_or, Bool.or_true]
    rfl
  · obtain ⟨msg, received, same⟩ := Option.map_eq_some'.mp (sRecv_frame fits noNul)
    simp only [Round.printed, received, Option.map_some', Option.getD_some, same]
  · cases delivery <;> rfl

theorem logger_prints_info_line :
    (∀ round ∈ [Round.receive .failed true, .receive (.frame (ascii "[INFO] up")) true],
        round.isExit = false) ∧
      logPullThread ⟨true, true,
          [Round.receive .failed true, .receive (.frame (ascii "[INFO] up")) true] ++ .exit :: []⟩ =
        ⟨[Round.receive .failed true, .receive (.frame (ascii "[INFO] up")) true].flatMap Round.printed,
          [], true, true⟩ ∧
      (∀ bytes : List UInt8, bytes.length ≤ 255 → (0 : UInt8) ∉ bytes →
        Round.printed (.receive (.frame bytes) true) = logLine bytes) ∧
      (∀ allocated, Round.printed (.receive .failed allocated) = []) ∧
      ∀ delivery, Round.printed (.receive delivery false) = [] :=
  ⟨by decide,
    logPullThread_delivers [Round.receive .failed true, .receive (.frame (ascii "[INFO] up")) true] []
      (by decide)⟩

end LoraFwd.Fwd
