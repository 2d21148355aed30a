import CodeSurvey.Survey

/-! Several workers at a time. They take files from one list in any order, look at one flag before
each, and send what comes of a file to the one who puts everything together. -/
namespace CodeSurvey

/-- Where the files of a survey are. -/
structure Pool where
  waiting : List Entry
  /-- In the hands of the workers. -/
  working : List Entry := []
  /-- Sent and not yet received, the oldest first. -/
  channel : List Outcome := []
  /-- Put together, in the order in which it came in. -/
  received : List Outcome := []
  /-- Whether the survey has been asked to stop. -/
  cancelled : Bool := false

namespace Pool

inductive Event where
  | cancel
  | take (e : Entry)
  /-- A worker comes to a file and finds the survey cancelled. -/
  | pass (e : Entry)
  | send (e : Entry)
  | receive
  deriving DecidableEq

/-- One event. The flag may be raised at any time and stays up; a file is taken up only by a worker
that is free, and only while the flag is down. -/
inductive Step (v : Surveyor) (fetch : Fetch) : Pool → Event → Pool → Prop where
  | cancel {s : Pool} : Step v fetch s .cancel { s with cancelled := true }
  | take {s : Pool} {before after : List Entry} {e : Entry}
      (hw : s.waiting = before ++ e :: after) (hfree : s.working.length < v.parallelism)
      (hc : s.cancelled = false) :
      Step v fetch s (.take e) { s with waiting := before ++ after, working := e :: s.working }
  | pass {s : Pool} {before after : List Entry} {e : Entry}
      (hw : s.waiting = before ++ e :: after) (hfree : s.working.length < v.parallelism)
      (hc : s.cancelled = true) :
      Step v fetch s (.pass e) { s with waiting := before ++ after }
  | send {s : Pool} {before after : List Entry} {e : Entry}
      (hw : s.working = before ++ e :: after) :
      Step v fetch s (.send e)
        { s with working := before ++ after, channel := s.channel ++ [v.process fetch e] }
  | receive {s : Pool} {o : Outcome} {rest : List Outcome} (hc : s.channel = o :: rest) :
      Step v fetch s .receive { s with channel := rest, received := s.received ++ [o] }

/-- Some events, one after another. -/
inductive Trace (v : Surveyor) (fetch : Fetch) : Pool → List Event → Pool → Prop where
  | nil {s : Pool} : Trace v fetch s [] s
  | cons {s t u : Pool} {a : Event} {events : List Event} (hs : Step v fetch s a t)
      (ht : Trace v fetch t events u) : Trace v fetch s (a :: events) u

/-- Nothing is left to do. -/
def Drained (s : Pool) : Prop := s.waiting = [] ∧ s.working = [] ∧ s.channel = []

end Pool

namespace Surveyor

variable (v : Surveyor) (files : List Entry)

def start : Pool := { waiting := v.pending files }

/-- The survey that a pool ends with. -/
def pooled (s : Pool) : Survey :=
  Survey.collect files.length (v.skips files) s.received s.cancelled

end Surveyor

end CodeSurvey
