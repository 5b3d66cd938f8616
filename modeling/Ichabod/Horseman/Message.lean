import Ichabod.Lib.CString
import Ichabod.Zmq.Receive

/-! Envelopes of NUL-terminated parts, and the dispatch records the parsers build from them. -/

namespace Ichabod

/-- `enum horseman_output_type`. -/
inductive HorsemanOutputType where
  | unknown
  | file
  | rtmp
deriving DecidableEq

/-- `struct horseman_frame_s`, with timestamps in any representation of a C double. -/
structure HorsemanFrame (Double : Type) where
  /-- The image text, which is NULL in an end-of-stream frame. -/
  szData : Option CString
  timestamp : Double
  eos : Bool
  /-- Exactly the end-of-stream frames come without data. -/
  dataUnlessEos : szData.isNone = eos
deriving DecidableEq

/-- `struct horseman_output_s`. -/
structure HorsemanOutput where
  outputType : HorsemanOutputType
  location : CString
deriving DecidableEq

/--
`struct msg_dispatch_s`.

The constructor stands for the callback pair that `parse_envelope` stores next to the data.
-/
inductive MsgDispatch (Double : Type) where
  /-- `async_video_frame_callback`, followed by `video_frame_free`. -/
  | frame (data : HorsemanFrame Double)
  /-- `async_output_callback`, followed by `output_free`. -/
  | output (data : HorsemanOutput)
deriving DecidableEq

/--
A chain of `struct envelope_s`, one entry per node in `next` order.

The empty chain is the NULL pointer, and `none` is a node whose `sz_data` is NULL.
-/
abbrev Envelope := List (Option CString)

/-- How the process can end while it handles a message. -/
inductive Fault where
  /-- An `assert` failed. -/
  | assertion
  /-- A string function was given a NULL pointer. -/
  | nullRead
deriving DecidableEq

variable {Double : Type}

/-- `envelope_parse_frame`, on the chain behind the type part. -/
def envelopeParseFrame [Zero Double] (atof : Bytes → Double) :
    Envelope → Except Fault (HorsemanFrame Double)
  -- `assert(*p)` comes before the first read.
  | [] => .error .assertion
  | none :: _ => .error .nullRead
  | some data :: rest =>
    -- The end-of-stream record keeps the zero bytes that calloc gave it.
    if CString.same (.literal "EOS") data then .ok ⟨none, 0, true, rfl⟩
    else match rest with
      | [] => .error .assertion
      | none :: _ => .error .assertion
      | some timestamp :: _ => .ok ⟨some data, atof timestamp.text, false, rfl⟩

/-- The output type that the first argument names. -/
def outputTypeOf (szOutputType : CString) : HorsemanOutputType :=
  if CString.same (.literal "file") szOutputType then .file
  else if CString.same (.literal "rtmp") szOutputType then .rtmp
  -- calloc left `horseman_output_type_unknown` in place.
  else .unknown

/-- `envelope_parse_output`, on the chain behind the type part. -/
def envelopeParseOutput : Envelope → Except Fault HorsemanOutput
  | [] => .error .assertion
  | none :: _ => .error .assertion
  | some szOutputType :: rest =>
    match rest with
    | [] => .error .assertion
    | none :: _ => .error .assertion
    | some location :: _ => .ok ⟨outputTypeOf szOutputType, location⟩

/--
The first half of `parse_envelope`, up to the test of `async_msg`.

It yields no record for a message of another type.
-/
def parseDispatch [Zero Double] (atof : Bytes → Double) :
    Envelope → Except Fault (Option (MsgDispatch Double))
  -- The type part is compared without a check that it is there.
  | [] => .error .nullRead
  | none :: _ => .error .nullRead
  | some type :: args =>
    if CString.same (.literal "frame") type then
      (envelopeParseFrame atof args).map fun frame => some (.frame frame)
    else if CString.same (.literal "output") type then
      (envelopeParseOutput args).map fun output => some (.output output)
    else .ok none

/-- Whether the record is a frame with `eos` set, which ends the receiver loop. -/
def MsgDispatch.isEos : MsgDispatch Double → Bool
  | .frame data => data.eos
  | .output _ => false

/-- Whether the job of this record acts on the screencast source. -/
def MsgDispatch.isFrame : MsgDispatch Double → Bool
  | .frame _ => true
  | .output _ => false

end Ichabod
