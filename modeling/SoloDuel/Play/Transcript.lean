import SoloDuel.Play.Reference
import SoloDuel.Sequencer
/-!
# Transcripts

A transcript is the record of the calls made to a sequencer, each with what came of it.

* `Call` — a call to a sequencer, cards named by reference.
* `Transcript.make` — makes one call and records it.
* `Transcript.goOn` — answers whatever is asked with as few cards as will do.
-/

namespace SoloDuel

/-- Why something that was written down cannot be carried out. -/
inductive ReadFault where
  /-- It is not written as it has to be. -/
  | malformed
  /-- It names a card that is not there. -/
  | noSuchCard
  /-- It is of a kind that is not known. -/
  | unknown
  deriving DecidableEq

/-- A call to a sequencer. -/
inductive Call where
  | start
  | cancel
  /-- Answer with as few candidates as will do, the first ones. -/
  | fewest
  /-- Answer with as few candidates as will do, the last ones. -/
  | fewestLast
  /-- Answer with cards. A reference that could not be read is kept as nothing. -/
  | choose (refs : List (Option CardRef))
  /-- Something that is no call. -/
  | unknown

/-- Why a call came to nothing. -/
inductive CallFault where
  | engine (fault : EngineFault)
  | reading (fault : ReadFault)
  /-- The run did not come to an end in the steps allowed. -/
  | unfinished

/-- One call of a transcript. -/
structure TranscriptEntry where
  /-- What the call gave. -/
  result : Except CallFault SequencerAnswer
  /-- The sequencer afterwards. -/
  sequencer : Sequencer

/-- The record of the calls made to a sequencer. -/
structure Transcript where
  /-- The sequencer now. -/
  sequencer : Sequencer
  /-- The calls, in order. -/
  entries : List TranscriptEntry := []

namespace SequencerStatus

/-- What is asked, while something is. -/
def request? : SequencerStatus → Option SelectionRequest
  | awaiting _ request => some request
  | _ => none

end SequencerStatus

namespace SequencerAnswer

/-- The snapshot an answer ends a run with. -/
def final? : SequencerAnswer → Option Snapshot
  | completed state | failed state _ _ | cancelled state => some state
  | awaiting _ | rejected .. => none

end SequencerAnswer

/-- As few candidates of a request as will do, the first ones or the last ones. -/
def SelectionRequest.fewest (r : SelectionRequest) (last : Bool) : List InstanceId :=
  if last then r.candidates.drop (r.candidates.length - r.min.toNat)
  else r.candidates.take r.min.toNat

namespace Call

/-- The card a reference names. -/
def resolveOne (s : Snapshot) : Option CardRef → Except ReadFault InstanceId
  | none => .error .malformed
  | some ref =>
    match ref.resolve s with
    | some id => .ok id
    | none => .error .noSuchCard

/-- What answering gives. -/
def answer (fuel : Nat) (q : Sequencer) (chosen : List InstanceId) :
    Except CallFault (Sequencer × SequencerAnswer) :=
  match q.provide fuel chosen with
  | .error fault => .error (.engine fault)
  | .ok none => .error .unfinished
  | .ok (some r) => .ok r

/-- What a call gives. -/
def perform (fuel : Nat) (q : Sequencer) : Call → Except CallFault (Sequencer × SequencerAnswer)
  | start =>
    match q.start fuel with
    | .error fault => .error (.engine fault)
    | .ok none => .error .unfinished
    | .ok (some r) => .ok r
  | cancel => q.cancel.mapError .engine
  | fewest => answer fuel q ((q.status.request?.map (·.fewest false)).getD [])
  | fewestLast => answer fuel q ((q.status.request?.map (·.fewest true)).getD [])
  | choose refs =>
    match refs.mapM (resolveOne q.state) with
    | .error fault => .error (.reading fault)
    | .ok ids => answer fuel q ids
  | unknown => .error (.reading .unknown)

end Call

namespace Transcript

/-- Makes one call and records it. A call that comes to nothing leaves the sequencer alone. -/
def make (fuel : Nat) (t : Transcript) (c : Call) : Transcript :=
  match c.perform fuel t.sequencer with
  | .ok (q, a) => { sequencer := q, entries := t.entries ++ [⟨.ok a, q⟩] }
  | .error fault => { t with entries := t.entries ++ [⟨.error fault, t.sequencer⟩] }

/-- Answers what is asked with as few cards as will do, while the transcript has fewer than `most`
calls. -/
def goOn (fuel most : Nat) : Nat → Transcript → Transcript
  | 0, t => t
  | n + 1, t =>
    if t.sequencer.status.request?.isSome ∧ t.entries.length < most then
      goOn fuel most n (t.make fuel .fewest)
    else t

/-- The transcript of calls made in order, and then, where `auto` asks for it, of going on up to
`most` calls. -/
def ofCalls (fuel most : Nat) (q : Sequencer) (calls : List Call) (auto : Bool) : Transcript :=
  let t := calls.foldl (make fuel) { sequencer := q }
  if auto then t.goOn fuel most most else t

/-- The snapshot that the last call to end a run ended it with. -/
def final? (t : Transcript) : Option Snapshot :=
  (t.entries.filterMap fun entry => entry.result.toOption.bind (·.final?)).getLast?

end Transcript

end SoloDuel
