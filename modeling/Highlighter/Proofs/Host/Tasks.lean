import Highlighter.Host.Task

/-!
# Lists of tasks

A task keeps its place in the list for good, so that what is said of it is said of a place. Here are
the words for what a task is doing, the changes that can be made to one, and how jobs go with
tasks: a task that is going to be run is run by exactly one job.

## Main definitions

* `Host.At` — the task at a place has a property
* `Host.Loads`, `Host.Loading` — a task is a load, and has not ended
* `Host.Asks`, `Host.Receives`, `Host.Awaits` — a task asks the registry, and waits for a load
* `Host.Told` — a task is going to learn how its load has ended
* `Host.Scheduling` — jobs and scheduled tasks go together one to one

## Main results

* `Host.at_modify`, `Host.at_append` — what a change of the tasks keeps
* `Host.Scheduling.add`, `Host.Scheduling.remove` — a job comes and goes with its task
-/

namespace Highlighter.Host

/-! ## What a task is doing -/

/-- The name that a task at a point loads. -/
def Point.loads? : Point → Option String
  | .load name => some name
  | .fetch name _ => some name
  | _ => none

@[simp]
theorem loads?_load (name : String) : (Point.load name).loads? = some name :=
  rfl

@[simp]
theorem loads?_fetch (name location : String) : (Point.fetch name location).loads? = some name :=
  rfl

@[simp]
theorem loads?_resolve (identifier : Identifier) : (Point.resolve identifier).loads? = none :=
  rfl

@[simp]
theorem loads?_receive (pass : Option Pass) : (Point.receive pass).loads? = none :=
  rfl

/-- A task has a property. -/
def At (tasks : List Task) (t : Nat) (P : Task → Prop) : Prop :=
  ∃ task, tasks[t]? = some task ∧ P task

/-- A task loads a name, or has loaded it. -/
def Loads (tasks : List Task) (k : Nat) (name : String) : Prop :=
  At tasks k fun task => task.point.loads? = some name

/-- A task loads a name and has not ended. -/
def Loading (tasks : List Task) (k : Nat) (name : String) : Prop :=
  At tasks k fun task => task.point.loads? = some name ∧ ∀ outcome, task.phase ≠ .ended outcome

/-- A task asks the registry, or has asked it and got an answer at once. -/
def Asks (tasks : List Task) (t : Nat) : Prop :=
  At tasks t fun task => ∃ identifier, task.point = .resolve identifier

/-- A task waits for a load, or has waited for one. -/
def Receives (tasks : List Task) (w : Nat) : Prop :=
  At tasks w fun task => task.point = .receive none

/-- A task waits for a load and has not been cancelled. -/
def Waits (tasks : List Task) (w : Nat) : Prop :=
  At tasks w fun task =>
    task.point = .receive none ∧ task.phase = .waiting ∧ task.condemned = false

/-- A task is told when another one ends. -/
def Awaits (tasks : List Task) (w k : Nat) : Prop :=
  At tasks k fun task => .relay w ∈ task.callbacks

/-- A task has ended with an outcome. -/
def Ended (tasks : List Task) (t : Nat) (outcome : Outcome) : Prop :=
  At tasks t fun task => task.phase = .ended outcome

/-- A task has been cancelled from outside. -/
def Condemned (tasks : List Task) (t : Nat) : Prop :=
  At tasks t fun task => task.condemned = true

/-- A task is going to be run. -/
def Scheduled (tasks : List Task) (t : Nat) : Prop :=
  At tasks t fun task => task.phase = .scheduled

/-- A task waits for something to happen. -/
def Waiting (tasks : List Task) (t : Nat) : Prop :=
  At tasks t fun task => task.phase = .waiting

section At

variable {tasks : List Task} {t k : Nat} {task new : Task} {P Q : Task → Prop} {f : Task → Task}

theorem At.of_eq (has : At tasks t P) (at_t : tasks[t]? = some task) : P task := by
  obtain ⟨other, found, holds⟩ := has
  obtain rfl := Option.some.inj (at_t.symm.trans found)
  exact holds

theorem At.imp (has : At tasks t P) (imp : ∀ task, tasks[t]? = some task → P task → Q task) :
    At tasks t Q := by
  obtain ⟨task, found, holds⟩ := has
  exact ⟨task, found, imp task found holds⟩

theorem Ended.unique {outcome other : Outcome} (ended : Ended tasks t outcome)
    (also : Ended tasks t other) : outcome = other := by
  obtain ⟨task, found, eq⟩ := ended
  exact Phase.ended.inj (eq.symm.trans (also.of_eq found))

theorem not_condemned_iff (found : tasks[t]? = some task) :
    ¬ Condemned tasks t ↔ task.condemned = false := by
  simp [Condemned, At, found]

/-- Whoever waits for a load has asked before. -/
theorem Receives.not_asks (receives : Receives tasks t) : ¬ Asks tasks t := by
  rintro ⟨task, found, identifier, asks⟩
  rw [receives.of_eq found] at asks
  cases asks

theorem At.lt_length (has : At tasks t P) : t < tasks.length := by
  obtain ⟨task, found, -⟩ := has
  exact (List.getElem?_eq_some_iff.mp found).1

theorem at_modify_self : At (tasks.modify t f) t P ↔ At tasks t fun task => P (f task) := by
  simp only [At, List.getElem?_modify_eq, Option.map_eq_map, Option.map_eq_some_iff]
  constructor
  · rintro ⟨_, ⟨task, found, rfl⟩, holds⟩
    exact ⟨task, found, holds⟩
  · rintro ⟨task, found, holds⟩
    exact ⟨f task, ⟨task, found, rfl⟩, holds⟩

theorem at_modify_of_ne (ne : k ≠ t) : At (tasks.modify t f) k P ↔ At tasks k P := by
  rw [At, List.getElem?_modify_ne f tasks ne.symm, At]

/-- A change of a task that keeps a property keeps it for all tasks. -/
theorem at_modify (same : ∀ task, tasks[t]? = some task → (P (f task) ↔ P task)) :
    At (tasks.modify t f) k P ↔ At tasks k P := by
  by_cases eq : k = t
  · subst eq
    rw [at_modify_self]
    exact ⟨fun has => has.imp fun task found => (same task found).mp,
      fun has => has.imp fun task found => (same task found).mpr⟩
  · exact at_modify_of_ne eq

theorem At.modify (has : At tasks k P)
    (keeps : ∀ task, tasks[t]? = some task → P task → P (f task)) :
    At (tasks.modify t f) k P := by
  by_cases eq : k = t
  · subst eq
    exact at_modify_self.mpr (has.imp keeps)
  · exact (at_modify_of_ne eq).mpr has

theorem At.of_modify (has : At (tasks.modify t f) k P)
    (back : ∀ task, tasks[t]? = some task → P (f task) → P task) : At tasks k P := by
  by_cases eq : k = t
  · subst eq
    exact (at_modify_self.mp has).imp back
  · exact (at_modify_of_ne eq).mp has

theorem at_append : At (tasks ++ [new]) k P ↔ At tasks k P ∨ k = tasks.length ∧ P new := by
  rcases Nat.lt_trichotomy k tasks.length with lt | rfl | gt
  · simp [At, List.getElem?_append_left lt, Nat.ne_of_lt lt]
  · simp [At]
  · have absent : tasks[k]? = none := List.getElem?_eq_none (Nat.le_of_lt gt)
    have absent' : (tasks ++ [new])[k]? = none := List.getElem?_eq_none (by simp; omega)
    simp [At, absent, absent', Nat.ne_of_gt gt]

theorem forall_mem_modify (all : ∀ task ∈ tasks, P task)
    (changed : ∀ task, tasks[t]? = some task → P (f task)) : ∀ task ∈ tasks.modify t f, P task := by
  intro task mem
  obtain ⟨i, found⟩ := List.getElem?_of_mem mem
  by_cases eq : t = i
  · subst eq
    rw [List.getElem?_modify_eq, Option.map_eq_map] at found
    obtain ⟨old, at_t, rfl⟩ := Option.map_eq_some_iff.mp found
    exact changed old at_t
  · rw [List.getElem?_modify_ne f tasks eq] at found
    exact all task (List.mem_of_getElem? found)

end At

/-! ## What becomes of a task -/

/-- A task that has ended. -/
def Task.conclude (outcome : Outcome) (task : Task) : Task :=
  { task with phase := .ended outcome, callbacks := [] }

/-- A task that goes on. -/
def Task.rouse (task : Task) : Task :=
  { task with phase := .scheduled }

/-- A task that waits at a point. -/
def Task.rest (point : Point) (task : Task) : Task :=
  { task with point, phase := .waiting }

/-- A task that is cancelled when it is run next. -/
def Task.condemn (task : Task) : Task :=
  { task with condemned := true }

/-- A task that tells another one when it ends. -/
def Task.tell (w : Nat) (task : Task) : Task :=
  { task with callbacks := task.callbacks ++ [.relay w] }

theorem awaits_tell {tasks : List Task} {k t w j : Nat} (lt : k < tasks.length) :
    Awaits (tasks.modify k (Task.tell t)) w j ↔ Awaits tasks w j ∨ w = t ∧ j = k := by
  by_cases eq : j = k
  · subst eq
    have found : tasks[j]? = some tasks[j] := List.getElem?_eq_getElem lt
    rw [Awaits, at_modify_self]
    simp [At, Awaits, Task.tell, found]
  · rw [Awaits, at_modify_of_ne eq, Awaits]
    simp [eq]

/-! ## Jobs and the tasks they run -/

/-- The task that a job runs. -/
def Job.runs? : Job → Option Nat
  | .step task _ => some task
  | _ => none

/-- The tasks that jobs run. -/
def runs (jobs : List Job) : List Nat :=
  jobs.filterMap Job.runs?

theorem runs_perm_cons (before after : List Job) (t : Nat) (signal : Signal) :
    (runs (before ++ .step t signal :: after)).Perm (t :: runs (before ++ after)) := by
  simp only [runs, List.filterMap_append, List.filterMap_cons, Job.runs?]
  exact List.perm_middle

theorem mem_runs_of_mem {jobs : List Job} {t : Nat} {signal : Signal}
    (mem : .step t signal ∈ jobs) : t ∈ runs jobs :=
  List.mem_filterMap.mpr ⟨_, mem, rfl⟩

theorem exists_mem_of_mem_runs {jobs : List Job} {t : Nat} (mem : t ∈ runs jobs) :
    ∃ signal, .step t signal ∈ jobs := by
  obtain ⟨job, among, runs⟩ := List.mem_filterMap.mp mem
  cases job with
  | step other signal =>
    obtain rfl := Option.some.inj runs
    exact ⟨signal, among⟩
  | _ => cases runs

theorem mem_middle_iff {before after : List Job} {job other : Job} :
    job ∈ before ++ other :: after ↔ job ∈ before ++ after ∨ job = other := by
  rw [List.perm_middle.mem_iff, List.mem_cons, or_comm]

theorem mem_middle_of_mem {before after : List Job} {job other : Job}
    (mem : job ∈ before ++ after) : job ∈ before ++ other :: after :=
  mem_middle_iff.mpr (.inl mem)

theorem runs_relay (before after : List Job) (w : Nat) (result : Except Fault Resolved) :
    runs (before ++ .relay w result :: after) = runs (before ++ after) := by
  simp only [runs, List.filterMap_append, List.filterMap_cons, Job.runs?]

/-- A task is going to learn how the load has ended that it waits for. -/
def Told (jobs : List Job) (w : Nat) (result : Except Fault Resolved) : Prop :=
  .relay w result ∈ jobs ∨ .step w (.loaded result) ∈ jobs

/-- Every task that is going to be run is run by one job, and no others are. -/
structure Scheduling (tasks : List Task) (jobs : List Job) : Prop where
  nodup : (runs jobs).Nodup
  mem_runs : ∀ {t : Nat}, t ∈ runs jobs ↔ Scheduled tasks t

namespace Scheduling

variable {tasks tasks' : List Task} {jobs jobs' before after : List Job} {t : Nat} {signal : Signal}

theorem congr (scheduling : Scheduling tasks jobs) (same : runs jobs' = runs jobs)
    (unmoved : ∀ i, Scheduled tasks' i ↔ Scheduled tasks i) : Scheduling tasks' jobs' where
  nodup := same ▸ scheduling.nodup
  mem_runs := by
    intro i
    rw [same, unmoved, scheduling.mem_runs]

/-- A task that was not going to be run gets a job. -/
theorem add (scheduling : Scheduling tasks jobs) (idle : ¬ Scheduled tasks t)
    (added : ∀ i, Scheduled tasks' i ↔ Scheduled tasks i ∨ i = t) :
    Scheduling tasks' (jobs ++ [.step t signal]) where
  nodup := by
    -- A job for the task would mean that the task is scheduled.
    have fresh : t ∉ runs jobs := fun mem => idle (scheduling.mem_runs.mp mem)
    simp only [runs, List.filterMap_append, List.filterMap_cons, Job.runs?, List.filterMap_nil]
    refine List.nodup_append.mpr ⟨scheduling.nodup, List.pairwise_singleton _ t, ?_⟩
    rintro a mem b eq rfl
    exact fresh (List.mem_singleton.mp eq ▸ mem)
  mem_runs := by
    intro i
    rw [added, ← scheduling.mem_runs]
    simp [runs, Job.runs?]

/-- A waiting task goes on. -/
theorem rouse (scheduling : Scheduling tasks jobs)
    (waiting : Waiting tasks t) :
    Scheduling (tasks.modify t Task.rouse) (jobs ++ [.step t signal]) := by
  obtain ⟨task, found, waiting⟩ := waiting
  refine scheduling.add ?_ fun i => ?_
  · intro scheduled
    have := scheduled.of_eq found
    rw [waiting] at this
    cases this
  · by_cases eq : i = t
    · subst eq
      rw [Scheduled, at_modify_self]
      simp [At, Task.rouse, found]
    · rw [Scheduled, at_modify_of_ne eq]
      simp [eq, Scheduled]

/-- A task is run by no other job than its own. -/
theorem not_mem_rest (scheduling : Scheduling tasks (before ++ .step t signal :: after)) :
    t ∉ runs (before ++ after) := by
  have perm := runs_perm_cons before after t signal
  exact (List.nodup_cons.mp (perm.nodup_iff.mp scheduling.nodup)).1

/-- The job of a task is done, and the task is not going to be run again. -/
theorem remove (scheduling : Scheduling tasks (before ++ .step t signal :: after))
    (removed : ∀ i, Scheduled tasks' i ↔ Scheduled tasks i ∧ i ≠ t) :
    Scheduling tasks' (before ++ after) := by
  have perm := runs_perm_cons before after t signal
  refine ⟨(List.nodup_cons.mp (perm.nodup_iff.mp scheduling.nodup)).2, ?_⟩
  intro i
  rw [removed, ← scheduling.mem_runs, perm.mem_iff, List.mem_cons]
  constructor
  · intro mem
    exact ⟨.inr mem, fun eq => scheduling.not_mem_rest (eq ▸ mem)⟩
  · rintro ⟨rfl | mem, ne⟩
    · exact absurd rfl ne
    · exact mem

end Scheduling

theorem scheduled_modify {tasks : List Task} {t : Nat} {f : Task → Task}
    (stops : ∀ task, (f task).phase ≠ .scheduled) (i : Nat) :
    Scheduled (tasks.modify t f) i ↔ Scheduled tasks i ∧ i ≠ t := by
  by_cases eq : i = t
  · subst eq
    rw [Scheduled, at_modify_self]
    simp [At, stops]
  · rw [Scheduled, at_modify_of_ne eq]
    simp [eq, Scheduled]

end Highlighter.Host
