import Mathlib.Order.Basic

/-!
# The Linux platform under the GPIO driver

`gpio_api.c` drives the board's GPIO lines through libgpiod, allocates its
tables with `calloc`, and runs an interrupt thread with pthreads and `poll`;
none of these libraries is in the repository.  As for the radio under the HAL,
the platform is modelled by the answers it will give, in order, and the record
of the calls made to it, most recent first.  A platform whose answers are
exhausted fails every further call; a run is quantified over every sequence of
answers, so each failure the code checks for is one of the behaviours covered.

Memory allocation is answered by a script of its own: `calloc` and `malloc`
return `NULL` where the allocator's script says so, and succeed once it is
exhausted.  This separates the runs in which memory never runs out, the
setting of the driver's safety theorem.
-/

namespace LoraFwd.Gpio

/-- The calls into libgpiod, libc and pthreads that the driver makes.  A line
is named by its offset on the chip. -/
inductive SysCall
  | chipOpenByName
  | chipNumLines
  | chipClose
  | chipGetLine (line : Nat)
  | lineIsUsed (line : Nat)
  | lineRelease (line : Nat)
  | lineRequestInput (line : Nat)
  | lineRequestOutput (line : Nat) (defaultVal : Int)
  | lineRequestRisingEdgeEvents (line : Nat)
  | lineRequestFallingEdgeEvents (line : Nat)
  | lineRequestBothEdgesEvents (line : Nat)
  | lineSetValue (line : Nat) (value : Int)
  | lineGetValue (line : Nat)
  | lineDirection (line : Nat)
  | lineEventGetFd (line : Nat)
  | lineEventRead (line : Nat)
  | poll (fds : List Int) (timeoutMs : Int)
  | clockGettime
  | calloc (count : Nat)
  | malloc (count : Nat)
  | free
  | pthreadCreate
  | pthreadJoin
deriving DecidableEq, Repr

/--
The platform's answer to one call, of which each call reads its own part: a
pointer result that is not `NULL`, an integer result, `errno` after a failure
(`EACCES` or `EINTR`), and the descriptors `poll` reports with an event.
-/
structure SysReply where
  ok : Bool
  value : Int
  accessDenied : Bool
  interrupted : Bool
  ready : List Int
deriving DecidableEq, Repr

/-- A call that fails: a `NULL` pointer, `-1`, and an `errno` that is neither
`EACCES` nor `EINTR`. -/
def SysReply.failed : SysReply := ⟨false, -1, false, false, []⟩

/-- The platform as the driver sees it. -/
structure Platform where
  replies : List SysReply
  allocs : List Bool
  calls : List SysCall
deriving DecidableEq, Repr

/-- A call whose result the driver reads: recorded, and answered by the next
reply, or failed once the replies are exhausted. -/
def sys (call : SysCall) (platform : Platform) : SysReply × Platform :=
  match platform.replies with
  | [] => (SysReply.failed, { platform with calls := call :: platform.calls })
  | reply :: rest => (reply, { platform with replies := rest, calls := call :: platform.calls })

/-- A call whose result the driver does not read. -/
def record (call : SysCall) (platform : Platform) : Platform :=
  { platform with calls := call :: platform.calls }

/-- An allocation: recorded, and granted unless the allocator's script says
otherwise. -/
def alloc (call : SysCall) (platform : Platform) : Bool × Platform :=
  match platform.allocs with
  | [] => (true, { platform with calls := call :: platform.calls })
  | granted :: rest => (granted, { platform with allocs := rest, calls := call :: platform.calls })

/-- An allocator that grants every request it will be asked. -/
def Platform.Reliable (platform : Platform) : Prop := ∀ granted ∈ platform.allocs, granted = true

@[simp]
theorem sys_allocs (call : SysCall) (platform : Platform) :
    (sys call platform).2.allocs = platform.allocs := by
  unfold sys
  split <;> rfl

@[simp]
theorem sys_calls (call : SysCall) (platform : Platform) :
    (sys call platform).2.calls = call :: platform.calls := by
  unfold sys
  split <;> rfl

@[simp]
theorem record_allocs (call : SysCall) (platform : Platform) :
    (record call platform).allocs = platform.allocs := rfl

/-- A call takes the first reply, if any. -/
theorem sys_cons (call : SysCall) {platform : Platform} {reply : SysReply}
    {rest : List SysReply} (next : platform.replies = reply :: rest) :
    sys call platform =
      (reply, { platform with replies := rest, calls := call :: platform.calls }) := by
  rw [sys, next]

/-- A reliable allocator grants the request and stays reliable. -/
theorem alloc_of_reliable (call : SysCall) {platform : Platform} (reliable : platform.Reliable) :
    (alloc call platform).1 = true ∧ (alloc call platform).2.Reliable := by
  unfold alloc
  split
  · exact ⟨rfl, reliable⟩
  · rename_i granted rest next
    exact ⟨reliable granted (by rw [next]; exact List.mem_cons_self _ _),
      fun other member => reliable other (by rw [next]; exact List.mem_cons_of_mem _ member)⟩

theorem Platform.Reliable.sys {platform : Platform} (reliable : platform.Reliable)
    (call : SysCall) : (LoraFwd.Gpio.sys call platform).2.Reliable := by
  intro granted member
  rw [sys_allocs] at member
  exact reliable granted member

theorem Platform.Reliable.record {platform : Platform} (reliable : platform.Reliable)
    (call : SysCall) : (LoraFwd.Gpio.record call platform).Reliable :=
  reliable

/-- Whether the allocator grants every request depends only on its script. -/
theorem Platform.Reliable.of_allocs {platform platform' : Platform} (reliable : platform.Reliable)
    (allocs : platform'.allocs = platform.allocs) : platform'.Reliable :=
  fun granted member => reliable granted (allocs ▸ member)

end LoraFwd.Gpio
