set_option autoImplicit false

/-! Joining jobs that were started together. The jobs are waited for until all are finished or one
has failed; those found finished are looked at in any order. The first failure among them is the
failure of the whole, and the jobs still pending are then called off. -/

namespace WrapperTypings.Completion

variable {ε α : Type}

def failed : Except ε α → Bool
  | .ok _ => false
  | .error _ => true

/-- A job that was started. One that is pending will have its outcome unless it is called off. -/
inductive Job (ε α : Type) where
  | finished (outcome : Except ε α)
  | pending (outcome : Except ε α)
  | cancelled

namespace Job

def cancel : Job ε α → Job ε α
  | .pending _ => .cancelled
  | job => job

def failure? : Job ε α → Option ε
  | .finished (.error fault) => some fault
  | _ => none

def result (cancellation : ε) : Job ε α → Except ε α
  | .finished outcome => outcome
  | .pending outcome => outcome
  | .cancelled => .error cancellation

end Job

def found (outcomes : List (Except ε α)) (finished : List Nat) : List (Job ε α) :=
  outcomes.mapIdx (fun index outcome =>
    if index ∈ finished then .finished outcome else .pending outcome)

/-- What can be found when the waiting ends: distinct jobs, which are all of them unless one of
those found failed. -/
structure Possible (outcomes : List (Except ε α)) (finished : List Nat) : Prop where
  nodup : finished.Nodup
  started : ∀ index ∈ finished, index < outcomes.length
  complete : (∀ index, index < outcomes.length → index ∈ finished) ∨
    ∃ index ∈ finished, ∃ fault, outcomes[index]? = some (.error fault)

def firstFailure? (jobs : List (Job ε α)) (finished : List Nat) : Option ε :=
  finished.findSome? (fun index => jobs[index]?.bind Job.failure?)

def results (cancellation : ε) : List (Job ε α) → Except ε (List α)
  | [] => .ok []
  | job :: rest => do
      let value ← job.result cancellation
      let values ← results cancellation rest
      .ok (value :: values)

/-- Joins the jobs, given those found finished: what comes of it, and the jobs as it leaves them. -/
def join (cancellation : ε) (jobs : List (Job ε α)) (finished : List Nat) :
    Except ε (List α) × List (Job ε α) :=
  match firstFailure? jobs finished with
  | some fault => (.error fault, jobs.map Job.cancel)
  | none => (results cancellation jobs, jobs)

def inOrder (failed : List Bool) : List Nat :=
  List.range failed.length

end WrapperTypings.Completion
