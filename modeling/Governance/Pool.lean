/-!
# Pools of workers

A pool works on jobs with a few workers. The jobs stand in one queue; a worker takes the next one,
sends a report on it, and takes another, until the queue is empty. Reports arrive in the order in
which they were sent, which need not be that of the jobs, and each is put in the slot of its job's
place. A worker may break off over a job, and then nobody reports on it.

* `Pool.start`: `jobs` in the queue, all workers waiting, every slot empty.
* `Pool.Step gives`: what may happen next, where `gives a r` says what work on `a` may end in.
* `Pool.Runs gives p n q`: `n` steps lead from `p` to `q`; which steps is left to chance.
* `Pool.Finished`: no worker is left, and all that was reported has arrived.
-/

namespace Governance

/-- Puts a report `r.1` in the slot of its place `r.2`; there is none behind the last one. -/
def fillSlot {β : Type} (slots : List (Option β)) (r : β × Nat) : List (Option β) :=
  slots.set r.2 (some r.1)

/-- What a worker is at. -/
inductive Worker (α : Type)
  /-- It waits for the next job. -/
  | waiting
  /-- It works on a job; `job.2` is the place of `job.1`. -/
  | busy (job : α × Nat)
  /-- It takes no jobs any more. -/
  | ended

/-- Jobs of type `α` on their way to reports of type `β`. -/
structure Pool (α β : Type) where
  /-- The jobs that no worker has taken yet, with their places. -/
  queue : List (α × Nat)
  workers : List (Worker α)
  /-- The reports that have not arrived yet, with their places; the oldest one comes first. -/
  reports : List (β × Nat)
  /-- The reports that have arrived, by place. -/
  slots : List (Option β)

namespace Pool

variable {α β : Type}

/-- A pool of some workers before it begins with `jobs`. -/
def start (workers : Nat) (jobs : List α) : Pool α β where
  queue := jobs.zipIdx
  workers := .replicate workers .waiting
  reports := []
  slots := .replicate jobs.length none

/-- What may happen next. `gives a (some b)` says that work on `a` may end in the report `b`, and
`gives a none` that it may end the worker. -/
inductive Step (gives : α → Option β → Prop) : Pool α β → Pool α β → Prop
  /-- The worker `w` takes the next job. -/
  | take {p : Pool α β} {w : Nat} {job : α × Nat} {more : List (α × Nat)}
      (hw : p.workers[w]? = some .waiting) (hqueue : p.queue = job :: more) :
      Step gives p { p with queue := more, workers := p.workers.set w (.busy job) }
  /-- The worker `w` sends its report. -/
  | send {p : Pool α β} {w i : Nat} {a : α} {b : β} (hw : p.workers[w]? = some (.busy (a, i)))
      (hgives : gives a (some b)) :
      Step gives p
        { p with workers := p.workers.set w .waiting, reports := p.reports ++ [(b, i)] }
  /-- The worker `w` breaks off, and its job is lost. -/
  | fail {p : Pool α β} {w i : Nat} {a : α} (hw : p.workers[w]? = some (.busy (a, i)))
      (hgives : gives a none) :
      Step gives p { p with workers := p.workers.set w .ended }
  /-- The worker `w` finds no job any more. -/
  | leave {p : Pool α β} {w : Nat} (hw : p.workers[w]? = some .waiting) (hqueue : p.queue = []) :
      Step gives p { p with workers := p.workers.set w .ended }
  /-- The oldest report arrives. -/
  | receive {p : Pool α β} {r : β × Nat} {more : List (β × Nat)}
      (hreports : p.reports = r :: more) :
      Step gives p { p with reports := more, slots := fillSlot p.slots r }

/-- `n` steps lead from `p` to a pool. -/
inductive Runs (gives : α → Option β → Prop) (p : Pool α β) : Nat → Pool α β → Prop
  | here : Runs gives p 0 p
  | step {n : Nat} {q r : Pool α β} (hruns : Runs gives p n q) (hstep : Step gives q r) :
      Runs gives p (n + 1) r

/-- Nobody can report any more, and every report has arrived. -/
structure Finished (p : Pool α β) : Prop where
  ended : ∀ w ∈ p.workers, w = .ended
  arrived : p.reports = []

end Pool

end Governance
