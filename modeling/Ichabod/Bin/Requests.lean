import Ichabod.Bin.Attach
import Ichabod.Main.Options

/-! Who asks for an output: the command line, or a message while the bin runs. -/

namespace Ichabod

/-- A call of `ichabod_attach_file` or `ichabod_attach_rtmp`, with the location for the sink. -/
structure OutputCall where
  kind : OutputKind
  location : CString
deriving DecidableEq

/-- `on_horseman_output_request`, up to the attach function that it calls. -/
def onHorsemanOutputRequest (output : HorsemanOutput) : Option OutputCall :=
  match output.outputType with
  | .file => some ⟨.file, output.location⟩
  | .rtmp => some ⟨.rtmp, output.location⟩
  -- Any other type is warned about.
  | .unknown => none

/-- The attach call among the calls of `main`. -/
def BinCall.outputCall : BinCall → Option OutputCall
  | .attachFile outputPath => some ⟨.file, outputPath⟩
  | .attachRtmp broadcastUrl => some ⟨.rtmp, broadcastUrl⟩
  | .alloc | .attachRtp _ | .start => none

/-- The attach call that the callback of a record makes. -/
def MsgDispatch.outputCall {Double : Type} : MsgDispatch Double → Option OutputCall
  | .frame _ => none
  | .output data => onHorsemanOutputRequest data

end Ichabod
