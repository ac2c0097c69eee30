/-
# Generate.Pool -- two lines of workers

The tasks of a run wait in two lines, first to be resolved and then to be packaged.  Each line
has workers of its own.  An idle worker takes the first task that waits and advances it by
steps; when the task has come to the end of the line's part of the way, the worker leaves it,
and marks it as done by a further step.  A task that was resolved is put in the second line
before it is marked as done in the first.

The run itself waits until no task of the first line is open, then until none of the second
is, and then returns; from there on no worker makes a step.  Whose turn it is to make a step is
said by a schedule (`Pool.follow`), in any order.
-/
import MavenImport.Generate.Task

namespace MavenImport

set_option autoImplicit false

structure Run where
  tasks : List Task
  progress : Progress

namespace Run

/-- A run at its beginning. -/
def start (spec : Specification) : Run where
  tasks := spec.artifacts.map fun (key, config) => { key := key, config := config }
  progress := {}

/-- Advances one task by a step. -/
def advance (plan : Plan) (r : Run) (i : Nat) : Effect Run :=
  match r.tasks[i]? with
  | none => return r
  | some t => do
    let (stage, progress) ← t.advance plan r.progress
    return ⟨r.tasks.set i { t with stage := stage }, progress⟩

/-- The stage that a task has come to. -/
def stage? (r : Run) (i : Nat) : Option Stage := r.tasks[i]?.map Task.stage

end Run

namespace Stage

/-- The artifact is still to be resolved. -/
def isResolving : Stage → Bool
  | listed | named _ => true
  | _ => false

/-- The artifact is resolved and still to be packaged. -/
def isPackaging : Stage → Bool
  | resolved _ | opening _ | inspecting _ _ => true
  | _ => false

end Stage

inductive Worker
  | idle
  /-- It advances a task. -/
  | busy (task : Nat)
  /-- Its task is to be marked as done. -/
  | leaving (task : Nat)
deriving Repr, DecidableEq

/-- A line of tasks and the workers that serve it. -/
structure Line where
  waiting : List Nat
  /-- How many tasks were put in the line and are not marked as done. -/
  unfinished : Nat
  workers : List Worker
deriving Repr, DecidableEq

namespace Line

/-- A line that a number of tasks wait in, with idle workers. -/
def start (tasks workers : Nat) : Line :=
  ⟨List.range tasks, tasks, List.replicate workers .idle⟩

def put (l : Line) (i : Nat) : Line :=
  { l with waiting := l.waiting ++ [i], unfinished := l.unfinished + 1 }

/-- A worker takes the first task that waits, if there is one. -/
def take (l : Line) (k : Nat) : Line := match l.waiting with
  | [] => l
  | i :: rest => { l with waiting := rest, workers := l.workers.set k (.busy i) }

/-- A worker leaves its task. -/
def leave (l : Line) (k i : Nat) : Line := { l with workers := l.workers.set k (.leaving i) }

/-- A worker marks the task that it left as done. -/
def mark (l : Line) (k : Nat) : Line :=
  { l with unfinished := l.unfinished - 1, workers := l.workers.set k .idle }

end Line

/-- What the run waits for. -/
inductive Phase
  | resolving
  | packaging
  | returned
deriving Repr, DecidableEq

structure Pool where
  run : Run
  resolving : Line
  packaging : Line
  phase : Phase

/-- Who makes a step: a worker of one of the lines, or the run that waits for them. -/
inductive Turn
  | resolver (worker : Nat)
  | packager (worker : Nat)
  | main
deriving Repr, DecidableEq

namespace Pool

def start (spec : Specification) (resolvers packagers : Nat) : Pool where
  run := .start spec
  resolving := .start spec.artifacts.length resolvers
  packaging := .start 0 packagers
  phase := .resolving

/-- A resolver leaves a task that is not to be resolved any more; if it was resolved, it is put
in the second line first. -/
def passOn (p : Pool) (k i : Nat) : Pool := match p.run.stage? i with
  | some stage =>
    if stage.isResolving then p
    else
      { p with
        packaging := if stage.isPackaging then p.packaging.put i else p.packaging
        resolving := p.resolving.leave k i }
  | none => p

/-- A packager leaves a task that is not to be packaged any more. -/
def release (p : Pool) (k i : Nat) : Pool := match p.run.stage? i with
  | some stage => if stage.isPackaging then p else { p with packaging := p.packaging.leave k i }
  | none => p

/-- A step of a resolver. -/
def resolver (plan : Plan) (p : Pool) (k : Nat) : Effect Pool :=
  match p.resolving.workers[k]? with
  | none => return p
  | some .idle => return { p with resolving := p.resolving.take k }
  | some (.busy i) => do return { p with run := ← p.run.advance plan i }.passOn k i
  | some (.leaving _) => return { p with resolving := p.resolving.mark k }

/-- A step of a packager. -/
def packager (plan : Plan) (p : Pool) (k : Nat) : Effect Pool :=
  match p.packaging.workers[k]? with
  | none => return p
  | some .idle => return { p with packaging := p.packaging.take k }
  | some (.busy i) => do return { p with run := ← p.run.advance plan i }.release k i
  | some (.leaving _) => return { p with packaging := p.packaging.mark k }

/-- A step of the run that waits. -/
def main (p : Pool) : Pool := match p.phase with
  | .resolving => if p.resolving.unfinished = 0 then { p with phase := .packaging } else p
  | .packaging => if p.packaging.unfinished = 0 then { p with phase := .returned } else p
  | .returned => p

def advance (plan : Plan) (p : Pool) (turn : Turn) : Effect Pool :=
  if p.phase = .returned then return p
  else match turn with
    | .resolver k => p.resolver plan k
    | .packager k => p.packager plan k
    | .main => return p.main

/-- Makes steps in the order of a schedule. -/
def follow (plan : Plan) : List Turn → Pool → Effect Pool
  | [], p => return p
  | turn :: schedule, p => do follow plan schedule (← p.advance plan turn)

end Pool

/-- The steps of a worker that resolve a task: it is taken, advanced twice and marked. -/
def resolvingSteps : Nat := 4

/-- The steps of a worker that package a task: it is taken, advanced thrice and marked. -/
def packagingSteps : Nat := 5

/-- Resolves all tasks in turn and then packages them in turn, with one worker in each line. -/
def inTurn (tasks : Nat) : List Turn :=
  List.replicate (resolvingSteps * tasks) (.resolver 0) ++ [.main]
    ++ List.replicate (packagingSteps * tasks) (.packager 0) ++ [.main]

end MavenImport
