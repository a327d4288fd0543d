import LoraFwd.Hal.Defs

/-!
# The radio and the clock the HAL runs against

The HAL is a state machine driven by a radio it does not control.  The radio
is modelled by the answers it will give, in order, and the record of the calls
the HAL has made, each stamped with the microsecond counter at the time of the
call.  A radio whose answers are exhausted fails every further call; since a
run is quantified over every sequence of answers, a failure at any point, or
success for as long as one likes, is one of the behaviours covered.

Time is the counter `sx126x_get_instcnt` reads, modulo `2^32`.  Only `wait_ms`
advances it, by `1000` per millisecond: the HAL's own computation takes no
time.

`ASSERT_RAL_RC` returns `-1` from the enclosing function on the first call that
does not return `RAL_STATUS_OK`; a run of them is `assertRalRc`.
-/

namespace LoraFwd.Hal

/-- The radio and the clock as the HAL sees them. -/
structure Radio where
  instCnt : UInt32
  replies : List RalReply
  calls : List (RalCall × UInt32)
deriving DecidableEq

/-- One call of the radio abstraction layer: recorded with the counter, and
answered by the next reply, or failed once the replies are exhausted. -/
def ral (call : RalCall) (radio : Radio) : RalReply × Radio :=
  match radio.replies with
  | [] => (RalReply.failed, { radio with calls := (call, radio.instCnt) :: radio.calls })
  | reply :: rest =>
    (reply, { radio with replies := rest, calls := (call, radio.instCnt) :: radio.calls })

/-- A run of `ASSERT_RAL_RC( ral_*( ... ) )` statements: the calls are made in
order until one fails, and the result says whether all succeeded. -/
def assertRalRc : List RalCall → Radio → Bool × Radio
  | [], radio => (true, radio)
  | call :: rest, radio =>
    let (reply, radio) := ral call radio
    if reply.ok then assertRalRc rest radio else (false, radio)

/-- `sx126x_get_instcnt`: the microsecond counter. -/
def sx126xGetInstcnt (radio : Radio) : UInt32 := radio.instCnt

/-- `wait_ms`: the counter advances by `1000` per millisecond. -/
def waitMs (delayMs : UInt32) (radio : Radio) : Radio :=
  { radio with instCnt := radio.instCnt + 1000 * delayMs }

@[simp]
theorem ral_instCnt (call : RalCall) (radio : Radio) :
    (ral call radio).2.instCnt = radio.instCnt := by
  unfold ral
  split <;> rfl

@[simp]
theorem ral_calls (call : RalCall) (radio : Radio) :
    (ral call radio).2.calls = (call, radio.instCnt) :: radio.calls := by
  unfold ral
  split <;> rfl

/-- A call takes the first reply, if any. -/
theorem ral_cons (call : RalCall) (radio : Radio) {reply : RalReply}
    {rest : List RalReply} (next : radio.replies = reply :: rest) :
    ral call radio =
      (reply, { radio with replies := rest, calls := (call, radio.instCnt) :: radio.calls }) := by
  rw [ral, next]

@[simp]
theorem assertRalRc_instCnt (calls : List RalCall) (radio : Radio) :
    (assertRalRc calls radio).2.instCnt = radio.instCnt := by
  induction calls generalizing radio with
  | nil => rfl
  | cons call rest ih =>
    simp only [assertRalRc]
    split <;> simp [ih]

/-- The calls a run of assertions makes are a prefix of its list, made at the
counter value it started with. -/
theorem assertRalRc_calls (calls : List RalCall) (radio : Radio) :
    ∃ made, made <+: calls ∧
      (assertRalRc calls radio).2.calls =
        (made.map fun call => (call, radio.instCnt)).reverse ++ radio.calls := by
  induction calls generalizing radio with
  | nil => exact ⟨[], List.nil_prefix, rfl⟩
  | cons call rest ih =>
    simp only [assertRalRc]
    split
    · obtain ⟨made, front, calls⟩ := ih (ral call radio).2
      refine ⟨call :: made, List.cons_prefix_cons.mpr ⟨rfl, front⟩, ?_⟩
      simp [calls]
    · exact ⟨[call], List.cons_prefix_cons.mpr ⟨rfl, List.nil_prefix⟩, by simp⟩

/-- With enough accepting replies, every assertion of the run succeeds. -/
theorem assertRalRc_accepted (calls : List RalCall) (radio : Radio) (rest : List RalReply)
    (replies : radio.replies = List.replicate calls.length RalReply.accepted ++ rest) :
    assertRalRc calls radio =
      (true,
        { radio with
          replies := rest
          calls := (calls.map fun call => (call, radio.instCnt)).reverse ++ radio.calls }) := by
  induction calls generalizing radio with
  | nil =>
    simp only [List.length_nil, List.replicate_zero, List.nil_append] at replies
    simp [assertRalRc, ← replies]
  | cons call others ih =>
    simp only [List.length_cons, List.replicate_succ, List.cons_append] at replies
    simp only [assertRalRc, ral_cons call radio replies, RalReply.accepted, if_true]
    rw [ih _ rfl]
    simp

@[simp]
theorem waitMs_replies (delayMs : UInt32) (radio : Radio) :
    (waitMs delayMs radio).replies = radio.replies :=
  rfl

@[simp]
theorem waitMs_calls (delayMs : UInt32) (radio : Radio) :
    (waitMs delayMs radio).calls = radio.calls :=
  rfl

/-- A single assertion is the call and whether it succeeded. -/
theorem assertRalRc_singleton (call : RalCall) (radio : Radio) :
    assertRalRc [call] radio = ((ral call radio).1.ok, (ral call radio).2) := by
  simp only [assertRalRc]
  split <;> simp_all

/-! ## The record of calls only grows -/

theorem ral_calls_suffix (call : RalCall) (radio : Radio) :
    radio.calls <:+ (ral call radio).2.calls := by
  rw [ral_calls]
  exact List.suffix_cons _ _


theorem assertRalRc_calls_suffix (calls : List RalCall) (radio : Radio) :
    radio.calls <:+ (assertRalRc calls radio).2.calls := by
  obtain ⟨made, -, grown⟩ := assertRalRc_calls calls radio
  rw [grown]
  exact List.suffix_append _ _

end LoraFwd.Hal
