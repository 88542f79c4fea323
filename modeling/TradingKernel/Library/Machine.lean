import Mathlib.Data.List.Induction
import Mathlib.Data.List.Infix

/-!
Deterministic components that answer calls. A machine maps its state and a
call to a reply and the next state; a run feeds it a list of calls. The rules
below turn one-step facts into facts about whole runs and their histories.
-/

namespace TradingKernel.Library

structure Machine (State Call Reply : Type*) where
  step : State → Call → Reply × State

namespace Machine

variable {State Call Reply : Type*} (m : Machine State Call Reply)

/-- The state after a list of calls. -/
def run (s : State) : List Call → State
  | [] => s
  | call :: rest => run (m.step s call).2 rest

/-- Every call of a run with the reply it received. -/
def history (s : State) : List Call → List (Call × Reply)
  | [] => []
  | call :: rest => (call, (m.step s call).1) :: history (m.step s call).2 rest

@[simp] theorem run_nil (s : State) : m.run s [] = s := rfl

@[simp] theorem history_nil (s : State) : m.history s [] = [] := rfl

@[simp] theorem run_cons (s : State) (call : Call) (rest : List Call) :
    m.run s (call :: rest) = m.run (m.step s call).2 rest := rfl

@[simp] theorem history_cons (s : State) (call : Call) (rest : List Call) :
    m.history s (call :: rest) =
      (call, (m.step s call).1) :: m.history (m.step s call).2 rest := rfl

theorem run_append (s : State) (first second : List Call) :
    m.run s (first ++ second) = m.run (m.run s first) second := by
  induction first generalizing s with
  | nil => rfl
  | cons call rest ih => exact ih (m.step s call).2

theorem history_append (s : State) (first second : List Call) :
    m.history s (first ++ second) = m.history s first ++ m.history (m.run s first) second := by
  induction first generalizing s with
  | nil => rfl
  | cons call rest ih => exact congrArg _ (ih (m.step s call).2)

@[simp] theorem history_length (s : State) (calls : List Call) :
    (m.history s calls).length = calls.length := by
  induction calls generalizing s with
  | nil => rfl
  | cons call rest ih => simp only [history_cons, List.length_cons, ih]

/-- A relation between the past and the state that every admissible call
extends relates the whole history of a run to its final state. -/
theorem history_induction (admissible : Call → Prop)
    {motive : List (Call × Reply) → State → Prop} {s : State} (start : motive [] s)
    (extend : ∀ past s call, motive past s → admissible call →
      motive (past ++ [(call, (m.step s call).1)]) (m.step s call).2)
    (calls : List Call) (all : ∀ call ∈ calls, admissible call) :
    motive (m.history s calls) (m.run s calls) := by
  have general : ∀ (calls : List Call) (past : List (Call × Reply)) (s : State), motive past s →
      (∀ call ∈ calls, admissible call) → motive (past ++ m.history s calls) (m.run s calls) := by
    intro calls
    induction calls with
    | nil => intro past s held _; simpa using held
    | cons call rest ih =>
      intro past s held all
      have next := ih _ _ (extend past s call held (all call (by simp)))
        (fun other member => all other (by simp [member]))
      simpa using next
  simpa using general calls [] s start all

/-- A state property kept by every admissible call holds after every run. -/
theorem run_invariant (holds : State → Prop) (admissible : Call → Prop) {s : State}
    (start : holds s)
    (keep : ∀ s call, holds s → admissible call → holds (m.step s call).2)
    (calls : List Call) (all : ∀ call ∈ calls, admissible call) : holds (m.run s calls) :=
  m.history_induction admissible (motive := fun _ s => holds s) start
    (fun _ s call held ok => keep s call held ok) calls all

/-- A measure that every call of one kind decreases, and no other call
increases, is used up by enough calls of that kind, whatever comes between. -/
theorem run_measure_le (holds : State → Prop) (counted : Call → Bool) (measure : State → Nat)
    (keep : ∀ s call, holds s → holds (m.step s call).2)
    (descend : ∀ s call, holds s →
      measure (m.step s call).2 ≤ measure s - if counted call = true then 1 else 0)
    {s : State} (start : holds s) (calls : List Call) :
    measure (m.run s calls) ≤ measure s - calls.countP counted := by
  induction calls generalizing s with
  | nil => exact le_refl _
  | cons call rest ih =>
    have first := descend s call start
    have later := ih (keep s call start)
    rw [run_cons, List.countP_cons]
    omega

section Rounds
variable {m} (holds : State → Prop) (measure : State → Nat)
  (keep : ∀ s call, holds s → holds (m.step s call).2)
  (moves : ∀ s call, holds s → (m.step s call).2 = s ∨ measure (m.step s call).2 < measure s)
include keep moves

theorem run_measure_mono {s : State} (start : holds s) (calls : List Call) :
    measure (m.run s calls) ≤ measure s := by
  induction calls generalizing s with
  | nil => exact le_refl _
  | cons call rest ih =>
    apply (ih (keep s call start)).trans
    rcases moves s call start with same | lower
    · rw [same]
    · exact lower.le

/-- A round that offers a call that would move lowers the measure, whatever comes
before that call. -/
theorem run_round_lowers {s : State} (start : holds s) {round : List Call} {call : Call}
    (member : call ∈ round) (lower : measure (m.step s call).2 < measure s) :
    measure (m.run s round) < measure s := by
  induction round with
  | nil => cases member
  | cons first rest ih =>
    have later := run_measure_mono holds measure keep moves (keep s first start) rest
    rw [run_cons]
    rcases moves s first start with same | lowers
    · rcases List.mem_cons.1 member with rfl | inside
      · exact later.trans_lt lower
      · rw [same]
        exact ih inside
    · exact later.trans_lt lowers

/-- Every call leaves the state or lowers a measure, and in each unfinished state one
of the duties lowers it: then enough rounds that hold all duties finish, in whatever
order they are taken and whatever else is called. -/
theorem run_rounds {done : State → Prop} {duties : List Call}
    (busy : ∀ s, holds s → ¬done s →
      ∃ call ∈ duties, measure (m.step s call).2 < measure s)
    (stays : ∀ s call, holds s → done s → done (m.step s call).2)
    {s : State} (start : holds s) {rounds : List (List Call)}
    (fair : ∀ round ∈ rounds, duties ⊆ round) (enough : measure s ≤ rounds.length) :
    done (m.run s rounds.flatten) := by
  have closed : ∀ (calls : List Call) (s : State), holds s → done s → done (m.run s calls) := by
    intro calls
    induction calls with
    | nil => exact fun _ _ finished => finished
    | cons call rest ih =>
      exact fun s start finished => ih _ (keep s call start) (stays s call start finished)
  induction rounds generalizing s with
  | nil =>
    by_contra unfinished
    obtain ⟨call, _, lower⟩ := busy s start unfinished
    simp only [List.length_nil] at enough
    omega
  | cons round rest ih =>
    obtain ⟨first, others⟩ := List.forall_mem_cons.1 fair
    rw [List.flatten_cons, run_append]
    have kept : holds (m.run s round) :=
      m.run_invariant holds (fun _ => True) start (fun s call held _ => keep s call held) round
        (fun _ _ => trivial)
    by_cases finished : done s
    · exact closed _ _ kept (closed round s start finished)
    · obtain ⟨call, member, lower⟩ := busy s start finished
      have lowers := run_round_lowers holds measure keep moves start (first member) lower
      rw [List.length_cons] at enough
      exact ih kept others (by omega)

end Rounds

/-- A relation between the calls made and the state reached that every
admissible call keeps holds after every run. -/
theorem run_snoc_induction (admissible : Call → Prop) {motive : List Call → State → Prop}
    {s : State} (start : motive [] s)
    (extend : ∀ before call, motive before (m.run s before) → admissible call →
      motive (before ++ [call]) (m.step (m.run s before) call).2)
    (calls : List Call) (all : ∀ call ∈ calls, admissible call) :
    motive calls (m.run s calls) := by
  induction calls using List.reverseRecOn with
  | nil => exact start
  | append_singleton before call ih =>
    obtain ⟨earlier, last⟩ := List.forall_mem_append.1 all
    rw [run_append]
    exact extend before call (ih earlier) (last call (List.mem_singleton_self call))

/-- Every step of a history is the step its call takes at that point of the run. -/
theorem mem_history {s : State} {calls : List Call} {step : Call × Reply}
    (member : step ∈ m.history s calls) :
    ∃ before after, calls = before ++ step.1 :: after ∧
      step.2 = (m.step (m.run s before) step.1).1 := by
  induction calls generalizing s with
  | nil => cases member
  | cons call rest ih =>
    rcases List.mem_cons.1 member with rfl | later
    · exact ⟨[], rest, rfl, rfl⟩
    · obtain ⟨before, after, split, reply⟩ := ih later
      exact ⟨call :: before, after, congrArg (call :: ·) split, reply⟩

/-- What the calls of a run cost together, each in the state it meets. -/
def total (cost : State → Call → Nat) (s : State) : List Call → Nat
  | [] => 0
  | call :: rest => cost s call + total cost (m.step s call).2 rest

@[simp] theorem total_nil (cost : State → Call → Nat) (s : State) : m.total cost s [] = 0 := rfl

@[simp] theorem total_cons (cost : State → Call → Nat) (s : State) (call : Call)
    (rest : List Call) :
    m.total cost s (call :: rest) = cost s call + m.total cost (m.step s call).2 rest := rfl

theorem total_add (first second : State → Call → Nat) (s : State) (calls : List Call) :
    m.total (fun s call => first s call + second s call) s calls =
      m.total first s calls + m.total second s calls := by
  induction calls generalizing s with
  | nil => rfl
  | cons call rest ih =>
    simp only [total_cons, ih]
    omega

theorem total_mul (factor : Nat) (cost : State → Call → Nat) (s : State) (calls : List Call) :
    m.total (fun s call => factor * cost s call) s calls = factor * m.total cost s calls := by
  induction calls generalizing s with
  | nil => rfl
  | cons call rest ih => rw [total_cons, total_cons, ih, Nat.mul_add]

theorem total_const (amount : Nat) (s : State) (calls : List Call) :
    m.total (fun _ _ => amount) s calls = amount * calls.length := by
  induction calls generalizing s with
  | nil => rfl
  | cons call rest ih =>
    rw [total_cons, ih, List.length_cons, Nat.mul_succ, Nat.add_comm]

theorem total_countP (counted : Call → Bool) (s : State) (calls : List Call) :
    m.total (fun _ call => if counted call then 1 else 0) s calls = calls.countP counted := by
  induction calls generalizing s with
  | nil => rfl
  | cons call rest ih => rw [total_cons, ih, List.countP_cons, Nat.add_comm]

/-- The potential method: where every step pays its cost and the potential it leaves
out of its budget and the potential it finds, so does every run. -/
theorem total_le (holds : State → Prop) (admissible : Call → Prop)
    (keep : ∀ s call, holds s → admissible call → holds (m.step s call).2)
    {cost budget : State → Call → Nat} (potential : State → Nat)
    (pays : ∀ s call, holds s → admissible call →
      cost s call + potential (m.step s call).2 ≤ budget s call + potential s)
    {s : State} (start : holds s) (calls : List Call) (all : ∀ call ∈ calls, admissible call) :
    m.total cost s calls + potential (m.run s calls) ≤ m.total budget s calls + potential s := by
  induction calls generalizing s with
  | nil => exact le_refl _
  | cons call rest ih =>
    obtain ⟨ok, later⟩ := List.forall_mem_cons.1 all
    have first := pays s call start ok
    have others := ih (keep s call start ok) later
    rw [total_cons, total_cons, run_cons]
    omega

/-- A run with some of the calls left out that may be skipped where they are made. -/
inductive Thinned (skips : State → Call → Prop) : State → List Call → List Call → Prop where
  | nil {s} : Thinned skips s [] []
  | keep {s call rest kept} : Thinned skips (m.step s call).2 rest kept →
      Thinned skips s (call :: rest) (call :: kept)
  | skip {s call rest kept} : skips s call → Thinned skips (m.step s call).2 rest kept →
      Thinned skips s (call :: rest) kept

theorem Thinned.sublist {skips : State → Call → Prop} {s : State} {calls kept : List Call}
    (thinned : m.Thinned skips s calls kept) : kept.Sublist calls := by
  induction thinned with
  | nil => exact .slnil
  | keep _ ih => exact ih.cons_cons _
  | skip _ _ ih => exact ih.cons _

/-- Two machines whose related states stay related under corresponding calls, as
long as a guard on the first one holds, are related after corresponding runs. -/
theorem run_lockstep {State' Call' Reply' : Type*} (m' : Machine State' Call' Reply')
    (translate : Call → Call') (related : State → State' → Prop) (guard : State → Call → Prop)
    (keep : ∀ s s' call, related s s' → guard s call →
      related (m.step s call).2 (m'.step s' (translate call)).2)
    {s : State} {s' : State'} (start : related s s') (calls : List Call)
    (guarded : ∀ before call after, calls = before ++ call :: after →
      guard (m.run s before) call) :
    related (m.run s calls) (m'.run s' (calls.map translate)) := by
  induction calls generalizing s s' with
  | nil => exact start
  | cons call rest ih =>
    have first : guard s call := guarded [] call rest rfl
    apply ih (keep s s' call start first)
    intro before other after split
    exact guarded (call :: before) other after (congrArg (call :: ·) split)

/-- Every prefix of a run ends in the start state or right after some step. -/
theorem prefixes_iff (holds : State → Prop) (s : State) (calls : List Call) :
    (∀ before, before <+: calls → holds (m.run s before)) ↔
      holds s ∧ ∀ before call after, calls = before ++ call :: after →
        holds (m.step (m.run s before) call).2 := by
  constructor
  · intro all
    refine ⟨all [] (List.nil_prefix), ?_⟩
    intro before call after split
    have ends := all (before ++ [call]) ⟨after, by simp [split]⟩
    rwa [run_append] at ends
  · rintro ⟨start, steps⟩ before ⟨after, split⟩
    rcases List.eq_nil_or_concat before with rfl | ⟨earlier, call, rfl⟩
    · exact start
    · rw [List.concat_eq_append, run_append]
      exact steps earlier call after (by simp [← split])

/-- The steps of a longer run are its first one and the steps of the rest. -/
theorem splits_cons (holds : List Call → Call → Prop) {first : Call} {rest : List Call} :
    (∀ before call after, first :: rest = before ++ call :: after → holds before call) ↔
      holds [] first ∧
        ∀ before call after, rest = before ++ call :: after → holds (first :: before) call := by
  constructor
  · intro all
    constructor
    · exact all [] first rest rfl
    · intro before call after split
      exact all (first :: before) call after (congrArg (first :: ·) split)
  · rintro ⟨head, tail⟩ before call after split
    cases before with
    | nil =>
      obtain ⟨rfl, rfl⟩ := List.cons.inj split
      exact head
    | cons other before =>
      obtain ⟨rfl, same⟩ := List.cons.inj split
      exact tail before call after same

/-- A property of single steps that fails exactly when a guard on the state
before the step does, given an invariant that guarded steps keep: along every
run it holds of every step if and only if every step is guarded. -/
theorem safe_iff_guarded (holds : State → Prop) (admissible : Call → Prop)
    (safe guard : State → Call → Prop)
    (keep : ∀ s call, holds s → admissible call → guard s call →
      safe s call ∧ holds (m.step s call).2)
    (breaks : ∀ s call, holds s → admissible call → ¬guard s call → ¬safe s call)
    {s : State} (start : holds s) (calls : List Call) (all : ∀ call ∈ calls, admissible call) :
    (∀ before call after, calls = before ++ call :: after → safe (m.run s before) call) ↔
      ∀ before call after, calls = before ++ call :: after → guard (m.run s before) call := by
  induction calls generalizing s with
  | nil => simp
  | cons first rest ih =>
    have ok : admissible first := all first (by simp)
    have restOk : ∀ call ∈ rest, admissible call := fun call member => all call (by simp [member])
    have now : safe s first ↔ guard s first := by
      constructor
      · intro safely
        by_contra unguarded
        exact breaks s first start ok unguarded safely
      · intro guarded
        exact (keep s first start ok guarded).1
    -- The invariant reaches the rest of the run only through a guarded step.
    calc
      _ ↔ safe s first ∧ ∀ before call after, rest = before ++ call :: after →
          safe (m.run (m.step s first).2 before) call :=
        splits_cons (fun before call => safe (m.run s before) call)
      _ ↔ guard s first ∧ ∀ before call after, rest = before ++ call :: after →
          safe (m.run (m.step s first).2 before) call := and_congr_left' now
      _ ↔ guard s first ∧ ∀ before call after, rest = before ++ call :: after →
          guard (m.run (m.step s first).2 before) call :=
        and_congr_right fun guarded => ih (keep s first start ok guarded).2 restOk
      _ ↔ _ := (splits_cons (fun before call => guard (m.run s before) call)).symm

end Machine

end TradingKernel.Library
