import Mathlib.Algebra.Ring.Nat
import Mathlib.Data.List.Perm.Basic
import TradingKernel.Library.Machine

/-!
The thread pool of the interview exercise: a queue under a mutex, a condition
variable and workers that are joined by `shutdown`. One turn is what a thread does
between two points where the others can act: a critical section, a notification, or
the end of a task. The pool never looks into a task.
-/

namespace TradingKernel.ThreadPool
open Library

/-- Where a worker is in its loop: at the predicate, in `wait`, in a task, or out of it. -/
inductive Worker (Task : Type*) where
  | checking
  | waiting
  | running (task : Task)
  | exited
  deriving DecidableEq, Repr

/-- How far `shutdown` has come; `joining` holds the index of the worker it joins. -/
inductive Shutdown where
  | uncalled
  | notifying
  | joining (index : Nat)
  | returned
  deriving DecidableEq, Repr

/-- The pool; `notices` are the submissions that have not notified yet. -/
structure Pool (Task : Type*) where
  workers : List (Worker Task)
  tasks : List Task
  accepting : Bool
  notices : Nat
  shutdown : Shutdown
  deriving DecidableEq, Repr

inductive Turn (Task : Type*) where
  | submit (task : Task)
  | notifyOne (woken : Nat)
  | spurious (woken : Nat)
  | work (worker : Nat)
  | shutdown
  deriving DecidableEq, Repr

inductive Outcome (Task : Type*) where
  | accepted (task : Task)
  | refused (message : String)
  | started (task : Task)
  | finished (task : Task)
  | quiet
  deriving DecidableEq, Repr

section Model
variable {Task : Type*}

/-- The pool right after its constructor. -/
def fresh (threadCount : Nat) : Pool Task :=
  ⟨List.replicate threadCount .checking, [], true, 0, .uncalled⟩

def create (threadCount : Nat) : Except String (Pool Task) :=
  if threadCount = 0 then .error "thread_count must be greater than zero"
  else .ok (fresh threadCount)

/-- The critical section of `submit`. -/
def submit (pool : Pool Task) (task : Task) : Outcome Task × Pool Task :=
  if !pool.accepting then (.refused "cannot submit task after thread pool shutdown", pool)
  else (.accepted task,
    { pool with tasks := pool.tasks ++ [task], notices := pool.notices + 1 })

def Pool.place (pool : Pool Task) (index : Nat) (worker : Worker Task) : Pool Task :=
  { pool with workers := pool.workers.set index worker }

def isWaiting : Worker Task → Bool
  | .waiting => true
  | _ => false

/-- The notification of a submission wakes one worker that waits, if there is one.
A turn that names another one is not taken. -/
def notifyOne (pool : Pool Task) (woken : Nat) : Pool Task :=
  if pool.notices = 0 then pool
  else if pool.workers.any isWaiting then
    match pool.workers[woken]? with
    | some .waiting => { pool.place woken .checking with notices := pool.notices - 1 }
    | _ => pool
  else { pool with notices := pool.notices - 1 }

/-- A worker may leave `wait` without a notification. -/
def spurious (pool : Pool Task) (woken : Nat) : Pool Task :=
  match pool.workers[woken]? with
  | some .waiting => pool.place woken .checking
  | _ => pool

/-- One turn of `worker_loop`. -/
def workerLoop (pool : Pool Task) (index : Nat) : Outcome Task × Pool Task :=
  match pool.workers[index]? with
  | some .checking =>
    match pool.tasks with
    | [] => (.quiet, pool.place index (if pool.accepting then .waiting else .exited))
    | task :: rest => (.started task, { pool.place index (.running task) with tasks := rest })
  | some (.running task) => (.finished task, pool.place index .checking)
  | _ => (.quiet, pool)

def wake : Worker Task → Worker Task
  | .waiting => .checking
  | worker => worker

/-- One turn of the thread in `shutdown`. -/
def stepShutdown (pool : Pool Task) : Pool Task :=
  match pool.shutdown with
  | .uncalled => { pool with accepting := false, shutdown := .notifying }
  | .notifying => { pool with workers := pool.workers.map wake, shutdown := .joining 0 }
  | .joining index =>
    match pool.workers[index]? with
    | none => { pool with shutdown := .returned }
    | some .exited => { pool with shutdown := .joining (index + 1) }
    | some _ => pool
  | .returned => pool

/-- The pool under any interleaving of the threads that use it. -/
def machine (Task : Type*) : Machine (Pool Task) (Turn Task) (Outcome Task) where
  step pool
    | .submit task => submit pool task
    | .notifyOne woken => (.quiet, notifyOne pool woken)
    | .spurious woken => (.quiet, spurious pool woken)
    | .work worker => workerLoop pool worker
    | .shutdown => (.quiet, stepShutdown pool)

def Outcome.acceptedTask : Outcome Task → Option Task
  | .accepted task => some task
  | _ => none

def Outcome.startedTask : Outcome Task → Option Task
  | .started task => some task
  | _ => none

def Outcome.finishedTask : Outcome Task → Option Task
  | .finished task => some task
  | _ => none

def Worker.task : Worker Task → Option Task
  | .running task => some task
  | _ => none

/-- The tasks whose submission has returned a future, in order. -/
def acceptedOf (past : List (Turn Task × Outcome Task)) : List Task :=
  past.filterMap fun step => step.2.acceptedTask

/-- The tasks a worker has taken, in order. -/
def startedOf (past : List (Turn Task × Outcome Task)) : List Task :=
  past.filterMap fun step => step.2.startedTask

/-- The tasks whose future holds a result, in order. -/
def finishedOf (past : List (Turn Task × Outcome Task)) : List Task :=
  past.filterMap fun step => step.2.finishedTask

def runningOf (workers : List (Worker Task)) : List Task := workers.filterMap Worker.task

def isChecking : Worker Task → Bool
  | .checking => true
  | _ => false

end Model

section Workers
variable {Task : Type*} {pool : Pool Task} {index : Nat} {worker next : Worker Task}

/-- Replacing a worker, up to the order of the workers. -/
theorem place_perm (found : pool.workers[index]? = some worker) (next : Worker Task) :
    ∃ others, pool.workers.Perm (worker :: others) ∧
      (pool.place index next).workers.Perm (next :: others) := by
  obtain ⟨bound, rfl⟩ := List.getElem?_eq_some_iff.1 found
  exact ⟨pool.workers.eraseIdx index, (List.getElem_cons_eraseIdx_perm bound).symm,
    List.set_perm_cons_eraseIdx bound next⟩

/-- What a worker runs is replaced with it. -/
theorem running_place (found : pool.workers[index]? = some worker) (next : Worker Task) :
    ∃ others, (runningOf pool.workers).Perm (worker.task.toList ++ others) ∧
      (runningOf (pool.place index next).workers).Perm (next.task.toList ++ others) := by
  have split : ∀ (first : Worker Task) (rest : List (Worker Task)),
      runningOf (first :: rest) = first.task.toList ++ runningOf rest := by
    intro first rest
    cases first <;> rfl
  obtain ⟨others, before, after⟩ := place_perm found next
  refine ⟨runningOf others, ?_, ?_⟩
  · rw [← split]
    exact before.filterMap Worker.task
  · rw [← split]
    exact after.filterMap Worker.task

theorem checking_place (found : pool.workers[index]? = some worker) (next : Worker Task) :
    (pool.place index next).workers.countP isChecking + (if isChecking worker then 1 else 0) =
      pool.workers.countP isChecking + if isChecking next then 1 else 0 := by
  obtain ⟨others, before, after⟩ := place_perm found next
  rw [before.countP_eq, after.countP_eq, List.countP_cons, List.countP_cons]
  omega

theorem mem_place (member : worker ∈ (pool.place index next).workers) :
    worker = next ∨ worker ∈ pool.workers :=
  (List.mem_or_eq_of_mem_set member).symm

theorem place_other (next : Worker Task) {other : Nat} (apart : index ≠ other) :
    (pool.place index next).workers[other]? = pool.workers[other]? :=
  List.getElem?_set_ne apart

theorem mem_wake {worker : Worker Task} (member : worker ∈ pool.workers.map wake) :
    worker ≠ .waiting ∧ (worker = .exited → .exited ∈ pool.workers) := by
  obtain ⟨old, inside, rfl⟩ := List.mem_map.1 member
  cases old with
  | exited => exact ⟨by simp [wake], fun _ => inside⟩
  | checking | waiting | running task => exact ⟨by simp [wake], by simp [wake]⟩

theorem running_wake (workers : List (Worker Task)) :
    runningOf (workers.map wake) = runningOf workers := by
  unfold runningOf
  rw [List.filterMap_map]
  congr 1
  funext worker
  cases worker <;> rfl

end Workers

/-- What holds of the pool and the tasks submitted, started and finished so far. -/
structure Inv {Task : Type*} (accepted started finished : List Task) (pool : Pool Task) :
    Prop where
  fifo : accepted = started ++ pool.tasks
  once : started.Perm (finished ++ runningOf pool.workers)
  opened : pool.accepting = true ↔ pool.shutdown = .uncalled
  drained : .exited ∈ pool.workers → pool.accepting = false ∧ pool.tasks = []
  covered : .waiting ∈ pool.workers →
    pool.tasks.length ≤ pool.notices + pool.workers.countP isChecking
  woken : .waiting ∈ pool.workers → pool.shutdown = .uncalled ∨ pool.shutdown = .notifying
  joined : ∀ index, pool.shutdown = .joining index →
    ∀ earlier < index, pool.workers[earlier]? = some .exited
  returned : pool.shutdown = .returned → ∀ worker ∈ pool.workers, worker = .exited

section Steps
variable {Task : Type*} {accepted started finished : List Task} {pool : Pool Task}
  (inv : Inv accepted started finished pool)
include inv

theorem submit_inv (task : Task) :
    Inv (accepted ++ (submit pool task).1.acceptedTask.toList) started finished
      (submit pool task).2 := by
  unfold submit
  cases accepting : pool.accepting with
  | false =>
    simpa [Outcome.acceptedTask] using inv
  | true =>
    simp only [Bool.not_true, Bool.false_eq_true, if_false, Outcome.acceptedTask,
      Option.toList_some]
    constructor
    · rw [inv.fifo, List.append_assoc]
    · exact inv.once
    · simpa [accepting] using inv.opened
    · intro exited
      have closed := (inv.drained exited).1
      rw [accepting] at closed
      cases closed
    · intro waits
      have covered := inv.covered waits
      simp only [List.length_append, List.length_singleton]
      omega
    · exact inv.woken
    · exact inv.joined
    · exact inv.returned

/-- A turn of a worker that has not left its loop changes that worker only. -/
theorem joined_place {index : Nat} {worker next : Worker Task}
    (found : pool.workers[index]? = some worker) (inside : worker ≠ .exited) :
    (∀ last, pool.shutdown = .joining last →
        ∀ earlier < last, (pool.place index next).workers[earlier]? = some .exited) ∧
      pool.shutdown ≠ .returned := by
  constructor
  · intro last joins earlier before
    have exited := inv.joined last joins earlier before
    have apart : index ≠ earlier := by
      rintro rfl
      rw [found] at exited
      exact inside (Option.some.inj exited)
    rw [place_other next apart]
    exact exited
  · intro done
    exact inside (inv.returned done worker (List.mem_of_getElem? found))

/-- Waking one worker makes up for one notification. -/
theorem awaken_inv {woken notices : Nat} (found : pool.workers[woken]? = some .waiting)
    (enough : pool.notices ≤ notices + 1) :
    Inv accepted started finished { pool.place woken .checking with notices := notices } := by
  obtain ⟨others, before, after⟩ := running_place found .checking
  obtain ⟨joined, unreturned⟩ := @joined_place _ _ _ _ _ inv _ _ .checking found (by simp)
  have checking := checking_place found .checking
  have waits : .waiting ∈ pool.workers := List.mem_of_getElem? found
  constructor
  · exact inv.fifo
  · exact inv.once.trans ((before.trans after.symm).append_left finished)
  · exact inv.opened
  · intro exited
    rcases mem_place exited with same | old
    · cases same
    · exact inv.drained old
  · intro _
    have covered := inv.covered waits
    simp only [isChecking, Bool.false_eq_true, if_false, if_true] at checking
    show pool.tasks.length ≤ notices + (pool.place woken .checking).workers.countP isChecking
    omega
  · exact fun _ => inv.woken waits
  · exact joined
  · exact fun done => absurd done unreturned

theorem notifyOne_inv (woken : Nat) : Inv accepted started finished (notifyOne pool woken) := by
  unfold notifyOne
  split_ifs with none some
  · exact inv
  · split
    · rename_i found
      exact awaken_inv inv found (by omega)
    · exact inv
  · have sleeps : .waiting ∉ pool.workers := by
      intro waits
      exact some (List.any_eq_true.2 ⟨_, waits, rfl⟩)
    exact { inv with covered := fun waits => absurd waits sleeps }

theorem spurious_inv (woken : Nat) : Inv accepted started finished (spurious pool woken) := by
  unfold spurious
  split
  · rename_i found
    exact awaken_inv inv found (Nat.le_succ _)
  · exact inv

/-- A worker that finds no task waits, or leaves a pool that is shut down. -/
theorem idle_inv {index : Nat} (found : pool.workers[index]? = some .checking)
    (empty : pool.tasks = []) :
    Inv accepted started finished
      (pool.place index (if pool.accepting then .waiting else .exited)) := by
  obtain ⟨others, before, after⟩ :=
    running_place found (if pool.accepting then .waiting else .exited)
  obtain ⟨joined, unreturned⟩ := @joined_place _ _ _ _ _ inv _ _
    (if pool.accepting then .waiting else .exited) found (by simp)
  constructor
  · exact inv.fifo
  · have idle : (if pool.accepting then .waiting else .exited : Worker Task).task = none := by
      split_ifs <;> rfl
    rw [idle] at after
    exact inv.once.trans ((before.trans after.symm).append_left finished)
  · exact inv.opened
  · intro exited
    cases accepting : pool.accepting with
    | false => exact ⟨accepting, empty⟩
    | true =>
      rw [accepting] at exited
      rcases mem_place exited with same | old
      · cases same
      · exact inv.drained old
  · intro _
    show pool.tasks.length ≤ _
    rw [empty]
    exact Nat.zero_le _
  · intro waits
    cases accepting : pool.accepting with
    | false =>
      rw [accepting] at waits
      rcases mem_place waits with same | old
      · cases same
      · exact inv.woken old
    | true => exact .inl (inv.opened.1 accepting)
  · exact joined
  · exact fun done => absurd done unreturned

/-- A worker takes the oldest task. -/
theorem take_inv {index : Nat} {task : Task} {rest : List Task}
    (found : pool.workers[index]? = some .checking) (queued : pool.tasks = task :: rest) :
    Inv accepted (started ++ [task]) finished
      { pool.place index (.running task) with tasks := rest } := by
  obtain ⟨others, running, taken⟩ := running_place found (.running task)
  have checking := checking_place found (.running task)
  obtain ⟨joined, unreturned⟩ := @joined_place _ _ _ _ _ inv _ _ (.running task) found (by simp)
  have sleeps : .waiting ∈ (pool.place index (.running task)).workers →
      .waiting ∈ pool.workers := by
    intro waits
    rcases mem_place waits with same | old
    · cases same
    · exact old
  constructor
  · rw [inv.fifo, queued, List.append_assoc]
    rfl
  · have first : (started ++ [task]).Perm (task :: (finished ++ others)) :=
      (List.perm_append_singleton task started).trans
        ((inv.once.trans (running.append_left finished)).cons task)
    exact (first.trans List.perm_middle.symm).trans (taken.symm.append_left finished)
  · exact inv.opened
  · intro exited
    rcases mem_place exited with same | old
    · cases same
    · have none := (inv.drained old).2
      rw [queued] at none
      cases none
  · intro waits
    have covered := inv.covered (sleeps waits)
    simp only [isChecking, Bool.false_eq_true, if_false, if_true] at checking
    rw [queued, List.length_cons] at covered
    show rest.length ≤ pool.notices + (pool.place index (.running task)).workers.countP isChecking
    omega
  · exact fun waits => inv.woken (sleeps waits)
  · exact joined
  · exact fun done => absurd done unreturned

/-- The end of a task fulfils its future. -/
theorem finish_inv {index : Nat} {task : Task}
    (found : pool.workers[index]? = some (.running task)) :
    Inv accepted started (finished ++ [task]) (pool.place index .checking) := by
  obtain ⟨others, running, left⟩ := running_place found .checking
  have checking := checking_place found .checking
  obtain ⟨joined, unreturned⟩ := @joined_place _ _ _ _ _ inv _ _ .checking found (by simp)
  have old : ∀ worker, worker ∈ (pool.place index .checking).workers → worker ≠ .checking →
      worker ∈ pool.workers := fun worker member other => (mem_place member).resolve_left other
  constructor
  · exact inv.fifo
  · rw [List.append_assoc]
    exact inv.once.trans ((running.trans (left.symm.cons task)).append_left finished)
  · exact inv.opened
  · exact fun exited => inv.drained (old _ exited (by simp))
  · intro waits
    have covered := inv.covered (old _ waits (by simp))
    simp only [isChecking, Bool.false_eq_true, if_false, if_true] at checking
    show pool.tasks.length ≤ pool.notices + (pool.place index .checking).workers.countP isChecking
    omega
  · exact fun waits => inv.woken (old _ waits (by simp))
  · exact joined
  · exact fun done => absurd done unreturned

theorem workerLoop_inv (index : Nat) :
    Inv accepted (started ++ (workerLoop pool index).1.startedTask.toList)
      (finished ++ (workerLoop pool index).1.finishedTask.toList) (workerLoop pool index).2 := by
  unfold workerLoop
  split
  · rename_i found
    split
    · rename_i empty
      simpa [Outcome.startedTask, Outcome.finishedTask] using idle_inv inv found empty
    · rename_i task rest queued
      simpa [Outcome.startedTask, Outcome.finishedTask] using take_inv inv found queued
  · rename_i task found
    simpa [Outcome.startedTask, Outcome.finishedTask] using finish_inv inv found
  · simpa [Outcome.startedTask, Outcome.finishedTask] using inv

theorem stepShutdown_inv : Inv accepted started finished (stepShutdown pool) := by
  unfold stepShutdown
  split
  · exact
      { fifo := inv.fifo
        once := inv.once
        opened := by simp
        drained := fun exited => ⟨rfl, (inv.drained exited).2⟩
        covered := inv.covered
        woken := fun _ => .inr rfl
        joined := fun _ joins => by cases joins
        returned := fun done => by cases done }
  · rename_i phase
    exact
      { fifo := inv.fifo
        once := by simpa only [running_wake] using inv.once
        opened := by simpa [phase] using inv.opened
        drained := fun exited => inv.drained ((mem_wake exited).2 rfl)
        covered := fun waits => absurd rfl (mem_wake waits).1
        woken := fun waits => absurd rfl (mem_wake waits).1
        joined := fun index joins earlier before => by
          cases joins
          exact absurd before (Nat.not_lt_zero earlier)
        returned := fun done => by cases done }
  · rename_i index phase
    have joined := inv.joined index phase
    have awake : .waiting ∉ pool.workers := by
      intro waits
      rcases inv.woken waits with other | other <;> simp [phase] at other
    split
    · rename_i past
      have length : pool.workers.length ≤ index := List.getElem?_eq_none_iff.1 past
      have all : ∀ worker ∈ pool.workers, worker = .exited := by
        intro worker member
        obtain ⟨place, found⟩ := List.mem_iff_getElem?.1 member
        have bound := (List.getElem?_eq_some_iff.1 found).1
        have exited := joined place (by omega)
        rw [found] at exited
        exact Option.some.inj exited
      exact
        { inv with
          opened := by simpa [phase] using inv.opened
          woken := fun waits => absurd waits awake
          joined := fun _ joins => by cases joins
          returned := fun _ => all }
    · rename_i exited
      exact
        { inv with
          opened := by simpa [phase] using inv.opened
          woken := fun waits => absurd waits awake
          joined := by
            intro next joins earlier before
            cases joins
            rcases Nat.lt_succ_iff_lt_or_eq.1 before with sooner | rfl
            · exact joined earlier sooner
            · exact exited
          returned := fun done => by cases done }
    · exact inv
  · exact inv

end Steps

section Run
variable {Task : Type*} {pool : Pool Task}

theorem acceptedOf_snoc (past : List (Turn Task × Outcome Task)) (turn : Turn Task)
    (outcome : Outcome Task) :
    acceptedOf (past ++ [(turn, outcome)]) = acceptedOf past ++ outcome.acceptedTask.toList := by
  cases outcome <;> simp [acceptedOf, Outcome.acceptedTask]

theorem startedOf_snoc (past : List (Turn Task × Outcome Task)) (turn : Turn Task)
    (outcome : Outcome Task) :
    startedOf (past ++ [(turn, outcome)]) = startedOf past ++ outcome.startedTask.toList := by
  cases outcome <;> simp [startedOf, Outcome.startedTask]

theorem finishedOf_snoc (past : List (Turn Task × Outcome Task)) (turn : Turn Task)
    (outcome : Outcome Task) :
    finishedOf (past ++ [(turn, outcome)]) = finishedOf past ++ outcome.finishedTask.toList := by
  cases outcome <;> simp [finishedOf, Outcome.finishedTask]

theorem submit_takes (pool : Pool Task) (task : Task) :
    (submit pool task).1.startedTask = none ∧ (submit pool task).1.finishedTask = none := by
  unfold submit
  split_ifs <;> exact ⟨rfl, rfl⟩

theorem workerLoop_accepts (pool : Pool Task) (index : Nat) :
    (workerLoop pool index).1.acceptedTask = none := by
  unfold workerLoop
  split
  · split <;> rfl
  · rfl
  · rfl

theorem fresh_inv (threadCount : Nat) : Inv [] [] [] (fresh threadCount : Pool Task) := by
  have checking : ∀ worker ∈ (fresh threadCount : Pool Task).workers, worker = .checking :=
    fun worker member => List.eq_of_mem_replicate member
  have none : runningOf (fresh threadCount : Pool Task).workers = [] := by
    apply List.filterMap_eq_nil_iff.2
    intro worker member
    rw [checking worker member]
    rfl
  constructor
  · rfl
  · rw [none]
    exact .refl _
  · exact ⟨fun _ => rfl, fun _ => rfl⟩
  · intro exited
    cases checking _ exited
  · intro waits
    cases checking _ waits
  · exact fun _ => .inl rfl
  · intro index joins
    cases joins
  · intro done
    cases done

theorem step_inv {accepted started finished : List Task} (inv : Inv accepted started finished pool)
    (turn : Turn Task) :
    let next := (machine Task).step pool turn
    Inv (accepted ++ next.1.acceptedTask.toList) (started ++ next.1.startedTask.toList)
      (finished ++ next.1.finishedTask.toList) next.2 := by
  cases turn with
  | submit task =>
    have next := submit_inv inv task
    obtain ⟨unstarted, unfinished⟩ := submit_takes pool task
    simpa [machine, unstarted, unfinished] using next
  | notifyOne woken =>
    simpa [machine, Outcome.acceptedTask, Outcome.startedTask, Outcome.finishedTask] using
      notifyOne_inv inv woken
  | spurious woken =>
    simpa [machine, Outcome.acceptedTask, Outcome.startedTask, Outcome.finishedTask] using
      spurious_inv inv woken
  | work worker => simpa [machine, workerLoop_accepts] using workerLoop_inv inv worker
  | shutdown =>
    simpa [machine, Outcome.acceptedTask, Outcome.startedTask, Outcome.finishedTask] using
      stepShutdown_inv inv

/-- The invariant holds under every interleaving. -/
theorem run_inv (threadCount : Nat) (schedule : List (Turn Task)) :
    Inv (acceptedOf ((machine Task).history (fresh threadCount) schedule))
      (startedOf ((machine Task).history (fresh threadCount) schedule))
      (finishedOf ((machine Task).history (fresh threadCount) schedule))
      ((machine Task).run (fresh threadCount) schedule) := by
  refine (machine Task).history_induction (fun _ => True)
    (motive := fun past pool => Inv (acceptedOf past) (startedOf past) (finishedOf past) pool)
    (fresh_inv threadCount) ?_ schedule (fun _ _ => trivial)
  intro past pool turn inv _
  rw [acceptedOf_snoc, startedOf_snoc, finishedOf_snoc]
  exact step_inv inv turn

theorem notifyOne_workers (pool : Pool Task) (woken : Nat) :
    (notifyOne pool woken).workers.length = pool.workers.length := by
  unfold notifyOne
  split_ifs
  · rfl
  · split <;> simp [Pool.place]
  · rfl

theorem step_workers (pool : Pool Task) (turn : Turn Task) :
    ((machine Task).step pool turn).2.workers.length = pool.workers.length := by
  cases turn with
  | submit task =>
    simp only [machine, submit]
    split_ifs <;> rfl
  | notifyOne woken => exact notifyOne_workers pool woken
  | spurious woken =>
    simp only [machine, spurious]
    split <;> simp [Pool.place]
  | work worker =>
    simp only [machine, workerLoop]
    split
    · split <;> simp [Pool.place]
    · simp [Pool.place]
    · rfl
  | shutdown =>
    simp only [machine, stepShutdown]
    split
    · rfl
    · simp
    · split <;> rfl
    · rfl

/-- No worker is ever added or lost. -/
theorem run_workers (threadCount : Nat) (schedule : List (Turn Task)) :
    ((machine Task).run (fresh threadCount) schedule).workers.length = threadCount :=
  (machine Task).run_invariant (fun pool => pool.workers.length = threadCount) (fun _ => True)
    List.length_replicate (fun pool turn same _ => (step_workers pool turn).trans same) schedule
    (fun _ _ => trivial)

/-- What a schedule has done with the tasks. -/
structure Serves (accepted started finished : List Task) (pool : Pool Task) : Prop where
  inOrder : accepted = started ++ pool.tasks
  once : started.Perm (finished ++ runningOf pool.workers)
  complete : pool.shutdown = .returned → finished.Perm accepted ∧ pool.tasks = [] ∧
    ∀ worker ∈ pool.workers, worker = .exited

/-- No task is lost, run twice or overtaken in the queue, and when `shutdown`
returns, every future that was handed out holds its result. -/
theorem run_serves {threadCount : Nat} (pool : Pool Task) (created : create threadCount = .ok pool)
    (schedule : List (Turn Task)) :
    Serves (acceptedOf ((machine Task).history pool schedule))
      (startedOf ((machine Task).history pool schedule))
      (finishedOf ((machine Task).history pool schedule))
      ((machine Task).run pool schedule) := by
  unfold create at created
  split_ifs at created with none
  cases created
  have inv := run_inv threadCount schedule
  refine ⟨inv.fifo, inv.once, fun done => ?_⟩
  have all := inv.returned done
  have some : 0 < ((machine Task).run (fresh threadCount) schedule).workers.length := by
    rw [run_workers]
    omega
  have exited := all _ (List.getElem_mem some)
  have drained := (inv.drained (exited ▸ List.getElem_mem some)).2
  have idle : runningOf ((machine Task).run (fresh threadCount) schedule).workers = [] := by
    apply List.filterMap_eq_nil_iff.2
    intro worker member
    rw [all worker member]
    rfl
  refine ⟨?_, drained, all⟩
  rw [inv.fifo, drained, List.append_nil]
  have once := inv.once
  rw [idle, List.append_nil] at once
  exact once.symm

/-- The second task is finished while the first one runs; shutdown waits for both workers. -/
def twoServed : List (Turn Nat) :=
  [.submit 7, .submit 8, .work 0, .work 1, .work 1, .shutdown, .work 1, .submit 9, .shutdown,
    .work 0, .work 0, .shutdown, .shutdown, .shutdown]

theorem run_serves_two :
    ((machine Nat).run (fresh 2) twoServed).shutdown = .returned ∧
      Serves [7, 8] [7, 8] [8, 7] ((machine Nat).run (fresh 2) twoServed) :=
  ⟨by decide, @run_serves Nat 2 (fresh 2) rfl twoServed⟩

/-- Sleeping workers and the work there is. -/
structure Awake (pool : Pool Task) : Prop where
  covered : .waiting ∈ pool.workers →
    pool.tasks.length ≤ pool.notices + pool.workers.countP isChecking
  woken : .waiting ∈ pool.workers → pool.shutdown = .uncalled ∨ pool.shutdown = .notifying
  busy : pool.tasks ≠ [] → (∃ worker ∈ pool.workers, worker = .checking ∨ worker.task ≠ none) ∨
    .waiting ∈ pool.workers ∧ 0 < pool.notices

/-- No wakeup is lost. While a worker sleeps, each queued task has its own
notification or its own worker on the way to it, and nobody sleeps through a
shutdown; queued tasks never wait for a pool in which nobody can move. -/
theorem run_awake {threadCount : Nat} (pool : Pool Task) (created : create threadCount = .ok pool)
    (schedule : List (Turn Task)) : Awake ((machine Task).run pool schedule) := by
  unfold create at created
  split_ifs at created with none
  cases created
  have inv := run_inv threadCount schedule
  refine ⟨inv.covered, inv.woken, fun queued => ?_⟩
  have some : 0 < ((machine Task).run (fresh threadCount) schedule).workers.length := by
    rw [run_workers]
    omega
  have member := List.getElem_mem some
  cases first : ((machine Task).run (fresh threadCount) schedule).workers[0] with
  | checking => exact .inl ⟨_, first ▸ member, .inl rfl⟩
  | running task => exact .inl ⟨_, first ▸ member, .inr (by simp [Worker.task])⟩
  | exited => exact absurd (inv.drained (first ▸ member)).2 queued
  | waiting =>
    have waits : Worker.waiting ∈ ((machine Task).run (fresh threadCount) schedule).workers :=
      first ▸ member
    by_cases notices : 0 < ((machine Task).run (fresh threadCount) schedule).notices
    · exact .inr ⟨waits, notices⟩
    · have covered := inv.covered waits
      have length := List.length_pos_iff.2 queued
      obtain ⟨worker, inside, checking⟩ := List.countP_pos_iff.1
        (show 0 < ((machine Task).run (fresh threadCount) schedule).workers.countP isChecking by
          omega)
      refine .inl ⟨worker, inside, .inl ?_⟩
      cases worker with
      | checking => rfl
      | waiting | running task | exited => cases checking

theorem run_awake_two :
    Awake ((machine Nat).run (fresh 2) [.work 0, .work 1, .submit 7, .notifyOne 1]) :=
  @run_awake Nat 2 (fresh 2) rfl [.work 0, .work 1, .submit 7, .notifyOne 1]

end Run

/-! Shutting down: what is left to do, and that every turn does some of it. -/

section Closing
variable {Task : Type*} {pool : Pool Task}

/-- The turns a worker needs at most until it has left, the tasks apart. -/
def Worker.left : Worker Task → Nat
  | .exited => 0
  | .checking => 1
  | .waiting | .running _ => 2

/-- The turns `shutdown` needs at most. -/
def Shutdown.left (threadCount : Nat) : Shutdown → Nat
  | .uncalled => threadCount + 3
  | .notifying => threadCount + 2
  | .joining index => threadCount + 1 - index
  | .returned => 0

/-- What is left to do before `shutdown` returns. -/
def turnsLeft (pool : Pool Task) : Nat :=
  2 * pool.tasks.length + (pool.workers.map Worker.left).sum + pool.notices +
    pool.shutdown.left pool.workers.length

theorem left_place {index : Nat} {worker : Worker Task}
    (found : pool.workers[index]? = some worker) (next : Worker Task) :
    ((pool.place index next).workers.map Worker.left).sum + worker.left =
      (pool.workers.map Worker.left).sum + next.left := by
  obtain ⟨others, before, after⟩ := place_perm found next
  rw [(before.map Worker.left).sum_nat, (after.map Worker.left).sum_nat]
  simp only [List.map_cons, List.sum_cons]
  omega

theorem place_length (index : Nat) (next : Worker Task) :
    (pool.place index next).workers.length = pool.workers.length := by
  simp [Pool.place]

theorem wake_left (worker : Worker Task) : (wake worker).left ≤ worker.left := by
  cases worker <;> simp [wake, Worker.left]

/-- A woken worker is one turn closer. -/
theorem awaken_left {woken notices : Nat} (found : pool.workers[woken]? = some .waiting)
    (fewer : notices ≤ pool.notices) :
    turnsLeft { pool.place woken .checking with notices := notices } < turnsLeft pool := by
  have left := left_place found .checking
  simp only [turnsLeft, place_length, Worker.left] at left ⊢
  show 2 * pool.tasks.length + _ + notices + pool.shutdown.left _ < _
  omega

theorem notifyOne_left (pool : Pool Task) (woken : Nat) :
    notifyOne pool woken = pool ∨ turnsLeft (notifyOne pool woken) < turnsLeft pool := by
  unfold notifyOne
  split_ifs with none some
  · exact .inl rfl
  · split
    · rename_i found
      exact .inr (awaken_left found (Nat.sub_le _ _))
    · exact .inl rfl
  · refine .inr ?_
    simp only [turnsLeft]
    omega

theorem spurious_left (pool : Pool Task) (woken : Nat) :
    spurious pool woken = pool ∨ turnsLeft (spurious pool woken) < turnsLeft pool := by
  unfold spurious
  split
  · rename_i found
    exact .inr (awaken_left found (Nat.le_refl _))
  · exact .inl rfl

/-- In a pool that is shut down, a worker at the predicate or in a task moves on. -/
theorem workerLoop_left (closed : pool.accepting = false) {index : Nat} {worker : Worker Task}
    (found : pool.workers[index]? = some worker) (moves : worker = .checking ∨ worker.task ≠ none) :
    turnsLeft (workerLoop pool index).2 < turnsLeft pool := by
  cases worker with
  | checking =>
    cases queued : pool.tasks with
    | nil =>
      have left := left_place found .exited
      simp only [workerLoop, found, queued, closed, Bool.false_eq_true, if_false, turnsLeft,
        place_length, Worker.left] at left ⊢
      show 2 * pool.tasks.length + _ + pool.notices + pool.shutdown.left _ < _
      rw [queued]
      omega
    | cons task rest =>
      have left := left_place found (.running task)
      simp only [workerLoop, found, queued, turnsLeft, place_length, Worker.left,
        List.length_cons] at left ⊢
      show 2 * rest.length + _ + pool.notices + pool.shutdown.left _ < _
      omega
  | running task =>
    have left := left_place found .checking
    simp only [workerLoop, found, turnsLeft, place_length, Worker.left] at left ⊢
    show 2 * pool.tasks.length + _ + pool.notices + pool.shutdown.left _ < _
    omega
  | waiting | exited => simp [Worker.task] at moves

theorem work_left (closed : pool.accepting = false) (index : Nat) :
    (workerLoop pool index).2 = pool ∨ turnsLeft (workerLoop pool index).2 < turnsLeft pool := by
  cases found : pool.workers[index]? with
  | none => exact .inl (by simp [workerLoop, found])
  | some worker =>
    cases worker with
    | checking => exact .inr (workerLoop_left closed found (.inl rfl))
    | running task => exact .inr (workerLoop_left closed found (.inr (by simp [Worker.task])))
    | waiting | exited => exact .inl (by simp [workerLoop, found])

theorem wakeAll_left (workers : List (Worker Task)) :
    ((workers.map wake).map Worker.left).sum ≤ (workers.map Worker.left).sum := by
  induction workers with
  | nil => exact Nat.le_refl 0
  | cons worker rest ih =>
    have first := wake_left worker
    simp only [List.map_cons, List.sum_cons]
    omega

theorem stepShutdown_left {accepted started finished : List Task}
    (inv : Inv accepted started finished pool) :
    stepShutdown pool = pool ∨ turnsLeft (stepShutdown pool) < turnsLeft pool := by
  cases phase : pool.shutdown with
  | uncalled =>
    refine .inr ?_
    simp only [stepShutdown, phase, turnsLeft, Shutdown.left]
    omega
  | notifying =>
    refine .inr ?_
    have woken := wakeAll_left pool.workers
    simp only [stepShutdown, phase, turnsLeft, Shutdown.left, List.length_map]
    omega
  | joining index =>
    have inside : index ≤ pool.workers.length := by
      rcases Nat.eq_zero_or_pos index with rfl | positive
      · exact Nat.zero_le _
      · have last := inv.joined index phase (index - 1) (by omega)
        have bound := (List.getElem?_eq_some_iff.1 last).1
        omega
    cases found : pool.workers[index]? with
    | none =>
      refine .inr ?_
      simp only [stepShutdown, phase, found, turnsLeft, Shutdown.left]
      omega
    | some worker =>
      cases worker with
      | exited =>
        refine .inr ?_
        have bound := (List.getElem?_eq_some_iff.1 found).1
        simp only [stepShutdown, phase, found, turnsLeft, Shutdown.left]
        omega
      | checking | waiting | running task => exact .inl (by simp [stepShutdown, phase, found])
  | returned => exact .inl (by simp [stepShutdown, phase])

/-- The turns that bring a shutdown to its end. -/
def duties (threadCount : Nat) : List (Turn Task) :=
  .shutdown :: (List.range threadCount).map .work

/-- A pool of some workers that no longer accepts tasks. -/
structure Closed (threadCount : Nat) (pool : Pool Task) : Prop where
  refuses : pool.accepting = false
  inv : ∃ accepted started finished, Inv accepted started finished pool
  size : pool.workers.length = threadCount

theorem step_left {threadCount : Nat} (closed : Closed threadCount pool) (turn : Turn Task) :
    ((machine Task).step pool turn).2 = pool ∨
      turnsLeft ((machine Task).step pool turn).2 < turnsLeft pool := by
  obtain ⟨refuses, ⟨accepted, started, finished, inv⟩, _⟩ := closed
  cases turn with
  | submit task => exact .inl (by simp [machine, submit, refuses])
  | notifyOne woken => exact notifyOne_left pool woken
  | spurious woken => exact spurious_left pool woken
  | work worker => exact work_left refuses worker
  | shutdown => exact stepShutdown_left inv

/-- Only `shutdown` itself changes how far it has come. -/
theorem step_flags (pool : Pool Task) (turn : Turn Task) :
    turn = .shutdown ∨ ((machine Task).step pool turn).2.accepting = pool.accepting ∧
      ((machine Task).step pool turn).2.shutdown = pool.shutdown := by
  cases turn with
  | submit task =>
    simp only [machine, submit]
    split_ifs <;> exact .inr ⟨rfl, rfl⟩
  | notifyOne woken =>
    simp only [machine, notifyOne]
    split_ifs
    · exact .inr ⟨rfl, rfl⟩
    · split <;> exact .inr ⟨rfl, rfl⟩
    · exact .inr ⟨rfl, rfl⟩
  | spurious woken =>
    simp only [machine, spurious]
    split <;> exact .inr ⟨rfl, rfl⟩
  | work worker =>
    simp only [machine, workerLoop]
    split
    · split <;> exact .inr ⟨rfl, rfl⟩
    · exact .inr ⟨rfl, rfl⟩
    · exact .inr ⟨rfl, rfl⟩
  | shutdown => exact .inl rfl

theorem stepShutdown_refuses (refuses : pool.accepting = false) :
    (stepShutdown pool).accepting = false := by
  unfold stepShutdown
  split
  · rfl
  · exact refuses
  · split <;> exact refuses
  · exact refuses

theorem step_closed {threadCount : Nat} (closed : Closed threadCount pool) (turn : Turn Task) :
    Closed threadCount ((machine Task).step pool turn).2 := by
  obtain ⟨refuses, ⟨accepted, started, finished, inv⟩, size⟩ := closed
  refine ⟨?_, ⟨_, _, _, step_inv inv turn⟩, (step_workers pool turn).trans size⟩
  rcases step_flags pool turn with rfl | ⟨accepting, _⟩
  · exact stepShutdown_refuses refuses
  · rw [accepting]
    exact refuses

theorem step_returned (done : pool.shutdown = .returned) (turn : Turn Task) :
    ((machine Task).step pool turn).2.shutdown = .returned := by
  rcases step_flags pool turn with rfl | ⟨_, same⟩
  · simp [machine, stepShutdown, done]
  · rw [same]
    exact done

/-- Until `shutdown` has returned, the worker it joins or its own thread can move. -/
theorem duty_left {threadCount : Nat} (closed : Closed threadCount pool)
    (unfinished : pool.shutdown ≠ .returned) :
    ∃ turn ∈ duties threadCount, turnsLeft ((machine Task).step pool turn).2 < turnsLeft pool := by
  obtain ⟨refuses, ⟨accepted, started, finished, inv⟩, size⟩ := closed
  have own : stepShutdown pool ≠ pool →
      ∃ turn ∈ duties threadCount,
        turnsLeft ((machine Task).step pool turn).2 < turnsLeft pool := fun moves =>
    ⟨.shutdown, List.mem_cons_self .., (stepShutdown_left inv).resolve_left moves⟩
  cases phase : pool.shutdown with
  | returned => exact absurd phase unfinished
  | uncalled =>
    have opened := inv.opened.2 phase
    rw [refuses] at opened
    cases opened
  | notifying =>
    apply own
    intro same
    have kept := congrArg Pool.shutdown same
    simp [stepShutdown, phase] at kept
  | joining index =>
    cases found : pool.workers[index]? with
    | none =>
      apply own
      intro same
      have kept := congrArg Pool.shutdown same
      simp [stepShutdown, phase, found] at kept
    | some worker =>
      have bound := (List.getElem?_eq_some_iff.1 found).1
      have duty : Turn.work index ∈ (duties threadCount : List (Turn Task)) :=
        List.mem_cons_of_mem _ (List.mem_map.2 ⟨index, List.mem_range.2 (size ▸ bound), rfl⟩)
      cases worker with
      | exited =>
        apply own
        intro same
        have kept := congrArg Pool.shutdown same
        simp [stepShutdown, phase, found] at kept
      | checking => exact ⟨_, duty, workerLoop_left refuses found (.inl rfl)⟩
      | running task =>
        exact ⟨_, duty, workerLoop_left refuses found (.inr (by simp [Worker.task]))⟩
      | waiting =>
        rcases inv.woken (List.mem_of_getElem? found) with other | other <;>
          simp [phase] at other

/-- A shutdown comes to its end. Once `shutdown` has begun, it returns after as many
rounds as there are turns left, a round giving each worker and the thread in
`shutdown` a turn, in any order and among any others; by then every future that was
handed out holds its result. -/
theorem run_shuts_down {threadCount : Nat} (pool : Pool Task)
    (created : create threadCount = .ok pool) (before : List (Turn Task))
    (closed : ((machine Task).run pool before).accepting = false)
    (rounds : List (List (Turn Task))) (fair : ∀ round ∈ rounds, duties threadCount ⊆ round)
    (enough : turnsLeft ((machine Task).run pool before) ≤ rounds.length) :
    ((machine Task).run pool (before ++ rounds.flatten)).shutdown = .returned ∧
      (finishedOf ((machine Task).history pool (before ++ rounds.flatten))).Perm
        (acceptedOf ((machine Task).history pool (before ++ rounds.flatten))) := by
  have served := run_serves pool created (before ++ rounds.flatten)
  have returned : ((machine Task).run pool (before ++ rounds.flatten)).shutdown = .returned := by
    unfold create at created
    split_ifs at created with none
    cases created
    rw [Machine.run_append]
    exact Machine.run_rounds (Closed threadCount) turnsLeft
      (fun _ turn closed => step_closed closed turn) (fun _ turn closed => step_left closed turn)
      (fun _ closed unfinished => duty_left closed unfinished)
      (fun _ turn _ done => step_returned done turn)
      ⟨closed, ⟨_, _, _, run_inv threadCount before⟩, run_workers threadCount before⟩ fair enough
  exact ⟨returned, (served.complete returned).1⟩

theorem run_shuts_down_two :
    ((machine Nat).run (fresh 2) ([.submit 7, .submit 8, .work 0, .work 1, .work 1, .work 1,
        .shutdown] ++ (List.replicate 10 (duties 2)).flatten)).shutdown = .returned ∧
      (finishedOf ((machine Nat).history (fresh 2) ([.submit 7, .submit 8, .work 0, .work 1,
        .work 1, .work 1, .shutdown] ++ (List.replicate 10 (duties 2)).flatten))).Perm
        (acceptedOf ((machine Nat).history (fresh 2) ([.submit 7, .submit 8, .work 0, .work 1,
          .work 1, .work 1, .shutdown] ++ (List.replicate 10 (duties 2)).flatten))) :=
  run_shuts_down (fresh 2) rfl
    [.submit 7, .submit 8, .work 0, .work 1, .work 1, .work 1, .shutdown] (by decide)
    (List.replicate 10 (duties 2)) (fun round member => by
      rw [List.eq_of_mem_replicate member]
      exact fun _ inside => inside) (by decide)

end Closing

end TradingKernel.ThreadPool
