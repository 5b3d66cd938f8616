import Ichabod.Uv.Handles

/-! The calls that make up the life of a horseman, and the libuv handles they share. -/

namespace Ichabod

/-- The flags and handles of `struct horseman_s`, with every use made of a handle so far. -/
structure HorsemanHandles where
  isInterrupted : Bool
  isRunning : Bool
  loop : LoopHandle
  zmqThread : ThreadHandle
  loopThread : ThreadHandle
  uses : List HandleUse
  /-- Whether `horseman_free` has given the struct back. -/
  freed : Bool
deriving DecidableEq

namespace HorsemanHandles

/-- `horseman_alloc`. -/
def alloc : HorsemanHandles where
  isInterrupted := false
  isRunning := false
  loop := .opened
  zmqThread := .absent
  loopThread := .absent
  uses := []
  freed := false

/-- `horseman_start`, for the results of its two calls of `uv_thread_create`. -/
def start (ret get : BitVec 32) (pthis : HorsemanHandles) : HorsemanHandles × BitVec 32 :=
  ({ pthis with
      isInterrupted := false
      isRunning := true
      zmqThread := pthis.zmqThread.create ret
      loopThread := pthis.loopThread.create get },
    ret ||| get)

/--
`horseman_stop`, for the results of its two calls of `uv_thread_join`.

Before it succeeds, `uv_loop_close` answers `UV_EBUSY` as often as `busy` says.
-/
def stop (busy : Nat) (ret get : BitVec 32) (pthis : HorsemanHandles) :
    HorsemanHandles × BitVec 32 :=
  if pthis.isRunning = false then (pthis, -1)
  else
    ({ pthis with
        isInterrupted := true
        isRunning := false
        loop := .null
        zmqThread := .joined
        loopThread := .joined
        uses := pthis.uses ++ List.replicate (busy + 1) (.loop .close pthis.loop) ++
          [.join pthis.zmqThread, .join pthis.loopThread] },
      ret ||| get)

/-- `horseman_free`, which joins the receiver thread but not the loop thread. -/
def free (pthis : HorsemanHandles) : HorsemanHandles :=
  { pthis with
    isRunning := false
    zmqThread := .joined
    uses := pthis.uses ++ [.loop .stop pthis.loop, .join pthis.zmqThread]
    freed := true }

end HorsemanHandles

/-- A thread that uses the loop between two calls. -/
inductive LoopUser where
  /-- `horseman_loop_main` calls `uv_run`. -/
  | loopMain
  /-- `parse_envelope` calls `uv_queue_work`. -/
  | parseEnvelope
deriving DecidableEq

/-- A call on a horseman, or a use of the loop by one of its threads. -/
inductive HorsemanCall where
  | start (ret get : BitVec 32)
  | access (user : LoopUser)
  | stop (busy : Nat) (ret get : BitVec 32)
  | free
deriving DecidableEq

namespace HorsemanHandles

/-- One step, which is a whole call or one access of a thread that is there. -/
def step (pthis : HorsemanHandles) (call : HorsemanCall) : Option HorsemanHandles :=
  if pthis.freed then none
  else
    match call with
    | .start ret get => some (pthis.start ret get).1
    | .access .loopMain =>
      if pthis.loopThread = .created ∧ pthis.isRunning then
        some { pthis with uses := pthis.uses ++ [.loop .run pthis.loop] }
      else none
    | .access .parseEnvelope =>
      if pthis.zmqThread = .created ∧ pthis.isInterrupted = false then
        some { pthis with uses := pthis.uses ++ [.loop .queueWork pthis.loop] }
      else none
    | .stop busy ret get => some (pthis.stop busy ret get).1
    | .free => some pthis.free

end HorsemanHandles

end Ichabod
