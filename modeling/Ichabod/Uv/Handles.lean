/-! The handles that a module takes from libuv, and what they refer to when they are used. -/

namespace Ichabod

/-- The state of the `uv_loop_t` that `pthis->loop` points to, or its absence. -/
inductive LoopHandle where
  | opened
  | closed
  | null
deriving DecidableEq

/-- What a `uv_thread_t` refers to. -/
inductive ThreadHandle where
  /-- No thread was ever created for it. -/
  | absent
  | created
  | joined
deriving DecidableEq

/-- `uv_thread_create`, which makes a thread exactly when it returns zero. -/
def ThreadHandle.create (handle : ThreadHandle) (ret : BitVec 32) : ThreadHandle :=
  if ret = 0 then .created else handle

/-- A libuv function that is given a loop. -/
inductive LoopUse where
  | run
  | queueWork
  | stop
  | close
deriving DecidableEq

/-- A use of a handle, with what it referred to at that moment. -/
inductive HandleUse where
  | loop (use : LoopUse) (found : LoopHandle)
  /-- `uv_thread_join`. -/
  | join (found : ThreadHandle)
deriving DecidableEq

end Ichabod
