import Ichabod.Uv.Handles

/-! The calls that make up the life of a webrtc control, and the libuv handles they share. -/

namespace Ichabod

/-- The flags and handles of `struct webrtc_control_s`, with every use made of a handle so far. -/
structure ControlHandles where
  isInterrupted : Bool
  isRunning : Bool
  cbLoop : LoopHandle
  zmqThread : ThreadHandle
  cbThread : ThreadHandle
  uses : List HandleUse
  /-- Whether `webrtc_control_free` has given the struct back. -/
  freed : Bool
deriving DecidableEq

/-- A call on a webrtc control, whose threads leave the loop alone. -/
inductive ControlLifeCall where
  | start (ret : BitVec 32)
  | stop (busy : Nat) (ret get : BitVec 32)
  | free
deriving DecidableEq

namespace ControlHandles

/-- `webrtc_control_alloc`. -/
def alloc : ControlHandles where
  isInterrupted := false
  isRunning := false
  cbLoop := .opened
  zmqThread := .absent
  cbThread := .absent
  uses := []
  freed := false

/-- `webrtc_control_start`, which does not create the callback thread. -/
def start (ret : BitVec 32) (pthis : ControlHandles) : ControlHandles × BitVec 32 :=
  ({ pthis with
      isInterrupted := false
      isRunning := true
      zmqThread := pthis.zmqThread.create ret },
    ret)

/-- `webrtc_control_stop`, for the results of its two calls of `uv_thread_join`. -/
def stop (busy : Nat) (ret get : BitVec 32) (pthis : ControlHandles) :
    ControlHandles × BitVec 32 :=
  if pthis.isRunning = false then (pthis, -1)
  else
    ({ pthis with
        isInterrupted := true
        isRunning := false
        cbLoop := .null
        zmqThread := .joined
        cbThread := .joined
        uses := pthis.uses ++ List.replicate (busy + 1) (.loop .close pthis.cbLoop) ++
          [.join pthis.zmqThread, .join pthis.cbThread] },
      ret ||| get)

/-- `webrtc_control_free`, which uses no handle. -/
def free (pthis : ControlHandles) : ControlHandles :=
  { pthis with freed := true }

/-- One step, which is a whole call. -/
def step (pthis : ControlHandles) (call : ControlLifeCall) : Option ControlHandles :=
  if pthis.freed then none
  else
    match call with
    | .start ret => some (pthis.start ret).1
    | .stop busy ret get => some (pthis.stop busy ret get).1
    | .free => some pthis.free

end ControlHandles

end Ichabod
