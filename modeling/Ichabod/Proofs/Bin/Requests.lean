import Ichabod.Bin.Requests
import Ichabod.Proofs.Horseman.Refinement
import Ichabod.Proofs.Main.Options

/-! Every output that is asked for is attached once, with its own location. -/

namespace Ichabod

open Interleaving Threads

variable {Double : Type}

/-- An output that somebody asks for, with its location read as text. -/
structure WantedOutput where
  kind : OutputKind
  location : Bytes
deriving DecidableEq

/-- What an attach call asks for. -/
def OutputCall.wanted (call : OutputCall) : WantedOutput :=
  ⟨call.kind, call.location.text⟩

/-- What a received job asks for, unless its type is not known. -/
def Job.wanted : Job Double → Option WantedOutput
  | .output .file location => some ⟨.file, location⟩
  | .output .rtmp location => some ⟨.rtmp, location⟩
  | .output .unknown _ | .frame _ _ | .eos => none

/-- What a command line asks for: a file first, and then a broadcast. -/
def outputsNamed (found : List OptionFound) : List WantedOutput :=
  ((lastString .output found).map fun path => ⟨.file, path.text⟩).toList ++
    ((lastString .broadcast found).map fun url => ⟨.rtmp, url.text⟩).toList

/-- The outputs that the given jobs attach. -/
def outputsOfWorks (works : List (Work Double)) : List WantedOutput :=
  works.filterMap fun work => work.record.outputCall.map OutputCall.wanted

/-- A record attaches what its job asks for. -/
theorem outputCall_wanted (record : MsgDispatch Double) :
    record.outputCall.map OutputCall.wanted = record.job.wanted := by
  cases record with
  | frame data =>
    -- A frame asks for no output, whether or not it ends the stream.
    rw [MsgDispatch.outputCall, MsgDispatch.job]
    cases data.szData <;> rfl
  | output data =>
    obtain ⟨outputType, location⟩ := data
    cases outputType <;> rfl

/-- The numbering of the accepted records does not matter to what they attach. -/
theorem outputsOfWorks_numbered (records : List (MsgDispatch Double)) :
    outputsOfWorks (numbered records) = (records.map MsgDispatch.job).filterMap Job.wanted := by
  calc outputsOfWorks (numbered records)
    _ = ((numbered records).map Work.record).filterMap
          (fun record => record.outputCall.map OutputCall.wanted) := by
        rw [outputsOfWorks, List.filterMap_map]
        rfl
    _ = records.filterMap (fun record => record.job.wanted) := by
        rw [map_record_numbered]
        exact List.filterMap_congr fun record _ => outputCall_wanted record
    _ = (records.map MsgDispatch.job).filterMap Job.wanted := by
        rw [List.filterMap_map]
        rfl

/-- The calls of `main` attach what the command line asks for. -/
theorem outputs_of_mainCalls (found : List OptionFound) :
    (mainCalls (specified found)).filterMap
        (fun call => call.outputCall.map OutputCall.wanted) = outputsNamed found := by
  have relay : ∀ rtpOpts : RtpOptions,
      (if rtpOpts.recvEnabled || rtpOpts.sendEnabled then [BinCall.attachRtp rtpOpts]
        else []).filterMap (fun call => call.outputCall.map OutputCall.wanted) = [] := by
    intro rtpOpts
    split <;> rfl
  -- A relay is no output, and the path and the URL may be given or not.
  simp only [mainCalls, List.filterMap_append, relay]
  show _ = ((lastString .output found).map _).toList ++ _
  simp only [specified]
  cases lastString .output found <;> cases lastString .broadcast found <;> rfl

/--
In every state of every run, the outputs attached by the command line and by the jobs performed so
far are, with those of the jobs still queued or in a worker's hands, exactly the outputs that the
command line and the accepted messages ask for: each of them once, with its own kind and location,
whatever the order in which the workers come to them.
-/
theorem outputs_attached_once [Zero Double] {found : List OptionFound} {calls : List BinCall}
    (parsed : main found = .ok calls) (poolSize : Nat) (atof : Bytes → Double)
    (actions : List ThreadAction) (final : Threads Double)
    (ran : run (step poolSize atof) start actions = some final) (alive : final.crash = none) :
    (calls.filterMap (fun call => call.outputCall.map OutputCall.wanted) ++
        outputsOfWorks final.performed ++ outputsOfWorks (final.executing ++ final.pending)).Perm
      (outputsNamed found ++
        (acceptedJobs (dispatchStream atof (receivedMessages actions)).1
          (queueAnswers actions)).filterMap Job.wanted) := by
  obtain ⟨places, _⟩ := jobs_accounted poolSize atof actions final ran
  have accepted := (dispatching_run ran alive).accepted_eq
  -- The jobs in all places are the accepted ones, and these follow the messages.
  have works : outputsOfWorks final.performed ++ outputsOfWorks (final.executing ++ final.pending) =
      outputsOfWorks (final.performed ++ final.executing ++ final.pending) := by
    rw [List.append_assoc, outputsOfWorks, outputsOfWorks, ← List.filterMap_append]
    rfl
  have asked : outputsOfWorks (numbered final.accepted) =
      (acceptedJobs (dispatchStream atof (receivedMessages actions)).1
        (queueAnswers actions)).filterMap Job.wanted := by
    rw [outputsOfWorks_numbered, accepted]
  rw [calls_of_main parsed, outputs_of_mainCalls, List.append_assoc, works, ← asked]
  exact (places.filterMap _).append_left (outputsNamed found)

/-- Two outputs are asked for by messages, and performed in the other order by two workers. -/
def overtakenOutputs : List ThreadAction :=
  let dispatch (args : List Bytes) : List ThreadAction :=
    [.receiver .test, .receiver (.receive (.message ⟨CString.ascii "output", args⟩)),
      .receiver .parse, .receiver .increment, .receiver (.queueWork 0)]
  [.receiver (.connect 0)] ++
    dispatch [CString.ascii "file", CString.ascii "a.mp4"] ++
    dispatch [CString.ascii "rtmp", CString.ascii "rtmp://b"] ++
    dispatch [CString.ascii "udp", CString.ascii "c"] ++
    [.worker .take, .worker .take, .worker (.perform 1), .worker (.report 0), .worker .take,
      .worker (.perform 1), .worker (.perform 0)]

/-- Both are attached behind the file of the command line, and nothing for the third message. -/
theorem overtakenOutputs_attached :
    ∃ final : Threads Nat, run (step 2 fun _ => 0) start overtakenOutputs = some final ∧
      outputsOfWorks final.performed =
        [⟨.rtmp, CString.ascii "rtmp://b"⟩, ⟨.file, CString.ascii "a.mp4"⟩] ∧
      (WantedOutput.mk .file (CString.ascii "z.mp4") :: outputsOfWorks final.performed ++
          outputsOfWorks (final.executing ++ final.pending)).Perm
        (⟨.file, CString.ascii "z.mp4"⟩ ::
          (acceptedJobs (dispatchStream (fun _ => 0) (receivedMessages overtakenOutputs)).1
            (queueAnswers overtakenOutputs)).filterMap Job.wanted) := by
  obtain ⟨final, ran, order, alive⟩ : ∃ final : Threads Nat,
      run (step 2 fun _ => 0) start overtakenOutputs = some final ∧
        outputsOfWorks final.performed =
          [⟨.rtmp, CString.ascii "rtmp://b"⟩, ⟨.file, CString.ascii "a.mp4"⟩] ∧
        final.crash = none := run_ends (by decide)
  have parsed : main [⟨.output, some (.literal "z.mp4")⟩] =
      .ok [.alloc, .attachFile (.literal "z.mp4"), .start] := by decide
  exact ⟨final, ran, order,
    outputs_attached_once parsed 2 (fun _ => 0) overtakenOutputs final ran alive⟩

end Ichabod
