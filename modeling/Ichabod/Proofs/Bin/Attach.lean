import Ichabod.Bin.Attach
import Ichabod.Lib.Interleaving

/-! An attach call reports its output correctly exactly if its links succeed or fail together. -/

namespace Ichabod

open Interleaving IchabodBin

/-- All five links of the output are in place. -/
def IchabodBin.Connected (bin : IchabodBin) (output : Nat) : Prop :=
  ∀ link ∈ OutputLink.all, (output, link) ∈ bin.links

instance (bin : IchabodBin) (output : Nat) : Decidable (bin.Connected output) :=
  inferInstanceAs (Decidable (∀ link ∈ OutputLink.all, (output, link) ∈ bin.links))

/-- Exactly the calls that returned zero have connected their outputs. -/
def ReportsLinks (bin : IchabodBin) : Prop :=
  ∀ (output : Nat) (ret : BitVec 32), bin.returns[output]? = some ret →
    (ret = 0 ↔ bin.Connected output)

/-- Whether an attachment makes the given link. -/
def Attachment.makes (attachment : Attachment) : OutputLink → Bool
  | .audioTeeToQueue => attachment.aqRet.code = 0
  | .queueToAudioMux => attachment.asRet.code = 0
  | .videoTeeToQueue => attachment.vqRet.code = 0
  | .queueToVideoMux => attachment.vsRet.code = 0
  | .muxToSink => attachment.result

/-- The four links between pads. -/
def padLinks : List OutputLink :=
  [.audioTeeToQueue, .queueToAudioMux, .videoTeeToQueue, .queueToVideoMux]

/--
The links of an attachment succeed or fail together, as far as its attach function can tell.

A file output fails without its last link, and does not return if no pads can be linked.
-/
def LinksTogether (attachment : Attachment) : Prop :=
  match attachment.kind with
  | .rtmp => (∀ link ∈ OutputLink.all, attachment.makes link = true) ∨
      ∀ link ∈ padLinks, attachment.makes link = false
  | .file => (∀ link ∈ padLinks, attachment.makes link = true) ∨
      (∀ link ∈ padLinks, attachment.makes link = false) ∨ attachment.makes .muxToSink = false

/-- Two status codes are joined to zero exactly if one of them is zero. -/
theorem and_eq_zero_iff {left right : BitVec 32} (leftCode : left = 0 ∨ left.msb = true)
    (rightCode : right = 0 ∨ right.msb = true) :
    left &&& right = 0 ↔ left = 0 ∨ right = 0 := by
  -- Two negative codes have their sign bit in common.
  constructor
  · intro zero
    rcases leftCode with ok | leftError
    · exact .inl ok
    · rcases rightCode with ok | rightError
      · exact .inr ok
      · have sign := congrArg BitVec.msb zero
        rw [BitVec.msb_and, leftError, rightError] at sign
        exact absurd sign (by decide)
  · intro either
    rcases either with rfl | rfl
    · exact BitVec.zero_and
    · exact BitVec.and_zero

/-- Joined status codes are a status code again. -/
theorem and_okOrError {left right : BitVec 32} (leftCode : left = 0 ∨ left.msb = true)
    (rightCode : right = 0 ∨ right.msb = true) :
    left &&& right = 0 ∨ (left &&& right).msb = true := by
  -- Zero stays zero, and two sign bits leave one.
  rcases leftCode with rfl | leftError
  · exact .inl BitVec.zero_and
  · rcases rightCode with rfl | rightError
    · exact .inl BitVec.and_zero
    · right
      rw [BitVec.msb_and, leftError, rightError]
      rfl

/-- The integer that the four status codes are folded into. -/
def Attachment.padCode (attachment : Attachment) : BitVec 32 :=
  attachment.aqRet.code &&& attachment.asRet.code &&& attachment.vqRet.code &&&
    attachment.vsRet.code

/-- What the attach function returns, if it does. -/
def Attachment.reported (attachment : Attachment) : BitVec 32 :=
  match attachment.kind with
  | .rtmp => attachment.padCode
  | .file => if attachment.result then 0 else 1

/-- The four status codes are folded into zero as soon as one link is made. -/
theorem padCode_eq_zero_iff (attachment : Attachment) :
    attachment.padCode = 0 ↔ ∃ link ∈ padLinks, attachment.makes link = true := by
  -- The codes are folded two by two, and each partial result is a status code.
  have aq := attachment.aqRet.okOrError
  have as := attachment.asRet.okOrError
  have vq := attachment.vqRet.okOrError
  have vs := attachment.vsRet.okOrError
  rw [Attachment.padCode, and_eq_zero_iff (and_okOrError (and_okOrError aq as) vq) vs,
    and_eq_zero_iff (and_okOrError aq as) vq, and_eq_zero_iff aq as]
  simp only [padLinks, List.mem_cons, List.not_mem_nil, or_false, exists_eq_or_imp,
    exists_eq_left, Attachment.makes, decide_eq_true_eq, or_assoc]

/-- The links of an attachment are the ones between pads and the one behind the muxer. -/
theorem makes_all_iff (attachment : Attachment) :
    (∀ link ∈ OutputLink.all, attachment.makes link = true) ↔
      (∀ link ∈ padLinks, attachment.makes link = true) ∧
        attachment.makes .muxToSink = true := by
  -- The element link is the last one in the list.
  simp only [OutputLink.all, padLinks, List.mem_cons, List.not_mem_nil, or_false,
    forall_eq_or_imp, forall_eq, and_assoc]

/-- An attach function that returns reports its links correctly if they go together. -/
theorem reported_iff {attachment : Attachment}
    (returns : attachment.kind = .file → attachment.padCode = 0) :
    (attachment.reported = 0 ↔ ∀ link ∈ OutputLink.all, attachment.makes link = true) ↔
      LinksTogether attachment := by
  -- A single pad link is enough to make the folded codes zero.
  have folded := padCode_eq_zero_iff attachment
  have noneMade : (∀ link ∈ padLinks, attachment.makes link = false) ↔
      ¬ ∃ link ∈ padLinks, attachment.makes link = true := by
    simp
  have first : (∀ link ∈ padLinks, attachment.makes link = true) →
      ∃ link ∈ padLinks, attachment.makes link = true :=
    fun all => ⟨.audioTeeToQueue, by decide, all _ (by decide)⟩
  rw [makes_all_iff]
  cases kind : attachment.kind with
  | rtmp =>
    simp only [Attachment.reported, LinksTogether, kind, folded, makes_all_iff, noneMade]
    constructor
    · intro reports
      by_cases someMade : ∃ link ∈ padLinks, attachment.makes link = true
      · exact .inl (reports.mp someMade)
      · exact .inr someMade
    · intro either
      rcases either with all | missing
      · exact ⟨fun _ => all, fun _ => first all.1⟩
      · exact ⟨fun someMade => absurd someMade missing, fun all => first all.1⟩
  | file =>
    have someMade := folded.mp (returns kind)
    have reported : (if attachment.result then (0 : BitVec 32) else 1) = 0 ↔
        attachment.makes .muxToSink = true := by
      cases result : attachment.result <;> simp [Attachment.makes, result]
    simp only [Attachment.reported, LinksTogether, kind, reported, noneMade]
    constructor
    · intro reports
      cases last : attachment.makes .muxToSink with
      | true => exact .inl (reports.mp last).1
      | false => exact .inr (.inr rfl)
    · intro either
      rcases either with all | missing | last
      · exact ⟨fun made => ⟨all, made⟩, fun both => both.2⟩
      · exact absurd someMade missing
      · exact ⟨fun made => absurd made (by simp [last]), fun both => both.2⟩

section Attach

variable {bin next : IchabodBin} {attachment : Attachment}

/-- A pad link is in place if it was before, or if it has just been made. -/
theorem mem_gstPadLink (bin : IchabodBin) (link other : Nat × OutputLink)
    (ret : GstPadLinkReturn) :
    other ∈ (bin.gstPadLink link ret).links ↔
      other ∈ bin.links ∨ (other = link ∧ ret.code = 0) := by
  -- The code decides whether the list of links grows.
  unfold gstPadLink
  by_cases made : ret.code = 0
  · rw [if_pos made]
    simp [made]
  · rw [if_neg made]
    constructor
    · exact .inl
    · intro either
      rcases either with before | ⟨_, ok⟩
      · exact before
      · exact absurd ok made

/-- An element link is in place if it was before, or if it has just been made. -/
theorem mem_gstElementLink (bin : IchabodBin) (link other : Nat × OutputLink) (result : Bool) :
    other ∈ (bin.gstElementLink link result).links ↔
      other ∈ bin.links ∨ (other = link ∧ result = true) := by
  unfold gstElementLink
  split <;> simp [*]

/-- Pad links leave the reports alone. -/
@[simp] theorem gstPadLink_returns (bin : IchabodBin) (link : Nat × OutputLink)
    (ret : GstPadLinkReturn) : (bin.gstPadLink link ret).returns = bin.returns := by
  unfold gstPadLink
  split <;> rfl

/-- Element links leave the reports alone. -/
@[simp] theorem gstElementLink_returns (bin : IchabodBin) (link : Nat × OutputLink)
    (result : Bool) : (bin.gstElementLink link result).returns = bin.returns := by
  unfold gstElementLink
  split <;> rfl

/-- The four pad links leave the reports alone, and are in place as far as they were made. -/
theorem attachMuxSinkPad_links (bin : IchabodBin) (output : Nat) (attachment : Attachment) :
    (bin.attachMuxSinkPad output attachment).1.returns = bin.returns ∧
      (bin.attachMuxSinkPad output attachment).2 = attachment.padCode ∧
      ∀ other link, (other, link) ∈ (bin.attachMuxSinkPad output attachment).1.links ↔
        (other, link) ∈ bin.links ∨
          (other = output ∧ link ∈ padLinks ∧ attachment.makes link = true) := by
  refine ⟨by simp [attachMuxSinkPad], rfl, fun other link => ?_⟩
  simp only [attachMuxSinkPad, mem_gstPadLink, Prod.mk.injEq]
  -- Each kind of link is asked for once.
  cases link <;> simp [padLinks, Attachment.makes]

/-- Every attach function that returns makes its links, in whatever order, and reports. -/
theorem attach_makes (called : bin.attach attachment = some next) :
    next.returns = bin.returns ++ [attachment.reported] ∧
      (∀ output link, (output, link) ∈ next.links ↔ (output, link) ∈ bin.links ∨
        (output = bin.returns.length ∧ attachment.makes link = true)) ∧
      (attachment.kind = .file → attachment.padCode = 0) := by
  -- The two functions differ in when the element link is made, and in what they look at.
  cases kind : attachment.kind with
  | rtmp =>
    simp only [attach, kind, Option.map_some, Option.some.injEq, attachRtmp] at called
    obtain ⟨returns, code, links⟩ := attachMuxSinkPad_links
      (bin.gstElementLink (bin.returns.length, .muxToSink) attachment.result)
      bin.returns.length attachment
    subst called
    refine ⟨?_, fun output link => ?_, fun wrong => nomatch wrong⟩
    · simp [returns, code, Attachment.reported, kind]
    · rw [links, mem_gstElementLink, Prod.mk.injEq]
      cases link <;> simp [padLinks, Attachment.makes]
  | file =>
    simp only [attach, kind, attachFile] at called
    obtain ⟨returns, code, links⟩ := attachMuxSinkPad_links bin bin.returns.length attachment
    split at called
    · cases called
    · rename_i passed
      have zero : attachment.padCode = 0 := by simpa [code] using passed
      simp only [Option.map_some, Option.some.injEq] at called
      subst called
      refine ⟨?_, fun output link => ?_, fun _ => zero⟩
      · simp [returns, Attachment.reported, kind]
      · rw [mem_gstElementLink, links, Prod.mk.injEq]
        cases link <;> simp [padLinks, Attachment.makes]

/-- Every link in place belongs to an output whose attach call has returned. -/
def LinksNumbered (bin : IchabodBin) : Prop :=
  ∀ output link, (output, link) ∈ bin.links → output < bin.returns.length

/-- Attaching an output only makes links of that output. -/
theorem linksNumbered_step (bin : IchabodBin) (attachment : Attachment) (next : IchabodBin)
    (numbered : LinksNumbered bin) (called : bin.attach attachment = some next) :
    LinksNumbered next := by
  -- A new link carries the number that the list of reports is about to reach.
  obtain ⟨returns, links, _⟩ := attach_makes called
  intro output link there
  rw [returns, List.length_append, List.length_singleton]
  rcases (links output link).mp there with before | ⟨rfl, _⟩
  · have earlier := numbered output link before
    omega
  · omega

/-- A call keeps all reports correct precisely if its own links go together. -/
theorem reportsLinks_step (bin : IchabodBin) (attachment : Attachment) (next : IchabodBin)
    (numbered : LinksNumbered bin) (reports : ReportsLinks bin)
    (called : bin.attach attachment = some next) :
    ReportsLinks next ↔ LinksTogether attachment := by
  obtain ⟨returns, links, asserted⟩ := attach_makes called
  -- The links of the new output are the ones just made, and the other outputs keep theirs.
  have newest : next.Connected bin.returns.length ↔
      ∀ link ∈ OutputLink.all, attachment.makes link = true := by
    refine forall₂_congr fun link _ => ?_
    rw [links]
    constructor
    · intro either
      rcases either with before | ⟨_, made⟩
      · exact absurd (numbered _ _ before) (Nat.lt_irrefl _)
      · exact made
    · exact fun made => .inr ⟨rfl, made⟩
  have earlier : ∀ output, output < bin.returns.length →
      (next.Connected output ↔ bin.Connected output) := by
    intro output inside
    refine forall₂_congr fun link _ => ?_
    rw [links]
    constructor
    · intro either
      rcases either with before | ⟨rfl, _⟩
      · exact before
      · exact absurd inside (Nat.lt_irrefl _)
    · exact .inl
  rw [← reported_iff asserted, ← newest]
  constructor
  · intro now
    exact now bin.returns.length attachment.reported (by rw [returns]; simp)
  · intro last output ret returned
    rw [returns] at returned
    rcases Nat.lt_or_ge output bin.returns.length with inside | outside
    · rw [List.getElem?_append_left inside] at returned
      rw [earlier output inside]
      exact reports output ret returned
    · rw [List.getElem?_append_right outside, List.getElem?_singleton] at returned
      split at returned
      · cases returned
        have here : output = bin.returns.length := by omega
        rw [here]
        exact last
      · cases returned

end Attach

/--
Throughout a run of attach calls, every call is right about its output precisely if the links of
each call that returns go together.
-/
theorem reports_links_iff_together (attachments : List Attachment) :
    Along attach ReportsLinks alloc attachments ↔
      Guarded attach (fun _ attachment => LinksTogether attachment) alloc attachments := by
  -- Reports are right as long as there are none, and one call decides whether they stay right.
  refine along_iff_guarded LinksNumbered linksNumbered_step reportsLinks_step ?_ ?_
  · intro output link there
    simp [alloc] at there
  · intro output ret returned
    simp [alloc] at returned

/-- The status of a link that is made. -/
def GstPadLinkReturn.ok : GstPadLinkReturn :=
  ⟨0, .inl rfl⟩

/-- The status of a link that is refused. -/
def GstPadLinkReturn.refused : GstPadLinkReturn :=
  ⟨-6, .inr (by decide)⟩

/-- The video pad of the muxer refuses its link, and all other links are made. -/
def audioOnly (kind : OutputKind) : Attachment :=
  ⟨kind, .ok, .ok, .ok, .refused, true⟩

/-- Both kinds of outputs report success without their video. -/
theorem audioOnly_reported_as_success :
    ∃ final, run attach alloc [audioOnly .file, audioOnly .rtmp] = some final ∧
      final.returns = [0, 0] ∧ (0, .queueToVideoMux) ∉ final.links ∧
      (1, .queueToVideoMux) ∉ final.links ∧ ¬ ReportsLinks final := by
  -- Three zeros make the folded code zero, whatever the fourth one is.
  have ended : ∃ final, run attach alloc [audioOnly .file, audioOnly .rtmp] = some final ∧
      final.returns = [0, 0] ∧ (0, .queueToVideoMux) ∉ final.links ∧
      (1, .queueToVideoMux) ∉ final.links := run_ends (by decide)
  obtain ⟨final, ran, returns, noFile, noRtmp⟩ := ended
  refine ⟨final, ran, returns, noFile, noRtmp, fun reports => ?_⟩
  have connected := (reports 0 0 (by rw [returns]; rfl)).mp rfl
  exact noFile (connected .queueToVideoMux (by decide))

end Ichabod
