import TradingKernel.Library.Circular
import TradingKernel.Library.Machine

/-!
The single-producer single-consumer ring, one atomic step at a time: every load
or store of an index and every access to a slot is a step of its own, and a
schedule decides whose turn it is. Both sides work with the copies of the
indices they loaded last.
-/

namespace TradingKernel.SpscRingBuffer
open Library

variable {α : Type*} {capacity : Nat}

/-- The shared memory; one slot stays empty so that full and empty differ. -/
structure Ring (α : Type*) (capacity : Nat) where
  buffer : Vector α (capacity + 1)
  head : Fin (capacity + 1)
  tail : Fin (capacity + 1)

/-- Where a `try_push` stands, with its value and the head it loaded. -/
inductive Producer (α : Type*) (capacity : Nat) where
  | idle
  | loadedHead (value : α) (head : Fin (capacity + 1))
  | ready (value : α) (head : Fin (capacity + 1))
  | written (value : α) (head : Fin (capacity + 1))

/-- Where a `try_pop` stands, with the tail it loaded and the value it read. -/
inductive Consumer (α : Type*) (capacity : Nat) where
  | idle
  | loadedTail (tail : Fin (capacity + 1))
  | ready (tail : Fin (capacity + 1))
  | read (value : α) (tail : Fin (capacity + 1))

structure State (α : Type*) (capacity : Nat) where
  ring : Ring α capacity
  producer : Producer α capacity
  consumer : Consumer α capacity

inductive Outcome (α : Type*) where
  | running
  | pushed (value : α)
  | pushFailed (value : α)
  | popped (value : α)
  | popFailed

def Outcome.pushedValue : Outcome α → Option α
  | .pushed value => some value
  | _ => none

def Outcome.poppedValue : Outcome α → Option α
  | .popped value => some value
  | _ => none

def create (capacity : Nat) (blank : α) : State α capacity :=
  ⟨⟨Vector.replicate (capacity + 1) blank, 0, 0⟩, .idle, .idle⟩

/-- The next index, with the addition done in `size_t`. -/
def increment (index : Fin (capacity + 1)) : Fin (capacity + 1) :=
  ⟨(index.val + 1) % 2 ^ 64 % (capacity + 1), Nat.mod_lt _ (Nat.succ_pos capacity)⟩

/-- One step of the producer; an idle one begins to push the given value. -/
def stepProducer (value : α) (s : State α capacity) : Outcome α × State α capacity :=
  match s.producer with
  | .idle => (.running, { s with producer := .loadedHead value s.ring.head })
  | .loadedHead value head =>
    if increment head = s.ring.tail then (.pushFailed value, { s with producer := .idle })
    else (.running, { s with producer := .ready value head })
  | .ready value head =>
    (.running, { s with
      ring := { s.ring with buffer := s.ring.buffer.set head value }
      producer := .written value head })
  | .written value head =>
    (.pushed value, { s with
      ring := { s.ring with head := increment head }
      producer := .idle })

/-- One step of the consumer; an idle one begins to pop. -/
def stepConsumer (s : State α capacity) : Outcome α × State α capacity :=
  match s.consumer with
  | .idle => (.running, { s with consumer := .loadedTail s.ring.tail })
  | .loadedTail tail =>
    if tail = s.ring.head then (.popFailed, { s with consumer := .idle })
    else (.running, { s with consumer := .ready tail })
  | .ready tail => (.running, { s with consumer := .read s.ring.buffer[tail] tail })
  | .read value tail =>
    (.popped value, { s with
      ring := { s.ring with tail := increment tail }
      consumer := .idle })

inductive Turn (α : Type*) where
  | producer (value : α)
  | consumer

def machine (α : Type*) (capacity : Nat) : Machine (State α capacity) (Turn α) (Outcome α) where
  step s
    | .producer value => stepProducer value s
    | .consumer => stepConsumer s

def pushedOf (past : List (Turn α × Outcome α)) : List α :=
  past.filterMap fun step => step.2.pushedValue

def poppedOf (past : List (Turn α × Outcome α)) : List α :=
  past.filterMap fun step => step.2.poppedValue

def Producer.pushing : Producer α capacity → Option α
  | .idle => none
  | .loadedHead value _ => some value
  | .ready value _ => some value
  | .written value _ => some value

/-- The slot a producer is about to write or has written but not published. -/
def Producer.writes : Producer α capacity → Option (Fin (capacity + 1))
  | .ready _ head => some head
  | .written _ head => some head
  | _ => none

/-- The slot a consumer is about to read or has read but not released. -/
def Consumer.reads : Consumer α capacity → Option (Fin (capacity + 1))
  | .ready tail => some tail
  | .read _ tail => some tail
  | _ => none

/-- What the producer knows: its copy of the head is the head, and the room it
has seen can only grow. -/
def ProducerInv (pushed popped : List α) (ring : Ring α capacity) :
    Producer α capacity → Prop
  | .idle => True
  | .loadedHead _ head => head = ring.head
  | .ready _ head => head = ring.head ∧ pushed.length < popped.length + capacity
  | .written value head =>
    head = ring.head ∧ pushed.length < popped.length + capacity ∧ ring.buffer[head] = value

/-- What the consumer knows: its copy of the tail is the tail, and the values it
has seen stay there. -/
def ConsumerInv (pushed popped : List α) (ring : Ring α capacity) :
    Consumer α capacity → Prop
  | .idle => True
  | .loadedTail tail => tail = ring.tail
  | .ready tail => tail = ring.tail ∧ popped.length < pushed.length
  | .read value tail => tail = ring.tail ∧ pushed[popped.length]? = some value

/-- The ring holds the values pushed but not popped yet. -/
structure Inv (pushed popped : List α) (s : State α capacity) : Prop where
  head : s.ring.head = slot (capacity + 1) pushed.length
  tail : s.ring.tail = slot (capacity + 1) popped.length
  window : Window (capacity + 1) popped.length pushed.length
  order : popped <+: pushed
  stores : Stores (fun cell => s.ring.buffer[cell]) pushed popped.length
  producer : ProducerInv pushed popped s.ring s.producer
  consumer : ConsumerInv pushed popped s.ring s.consumer

theorem increment_slot (fits : capacity + 1 < 2 ^ 64) (counter : Nat) :
    increment (slot (capacity + 1) counter) = slot (capacity + 1) (counter + 1) := by
  have inside : counter % (capacity + 1) < capacity + 1 := Nat.mod_lt _ (Nat.succ_pos capacity)
  apply Fin.ext
  simp only [increment, slot_val]
  rw [Nat.mod_eq_of_lt (show counter % (capacity + 1) + 1 < 2 ^ 64 by omega), Nat.mod_add_mod]

theorem create_inv (blank : α) : Inv [] [] (create capacity blank) := by
  constructor
  · rfl
  · rfl
  · exact .start
  · exact List.prefix_refl []
  · intro position above below
    exact absurd below (Nat.not_lt_zero position)
  · trivial
  · trivial

theorem ProducerInv.pop {pushed popped : List α} {ring next : Ring α capacity}
    {producer : Producer α capacity} (held : ProducerInv pushed popped ring producer)
    (head : next.head = ring.head) (buffer : next.buffer = ring.buffer) (value : α) :
    ProducerInv pushed (popped ++ [value]) next producer := by
  have grown : (popped ++ [value]).length = popped.length + 1 := by simp
  cases producer with
  | idle => trivial
  | loadedHead other index => exact held.trans head.symm
  | ready other index =>
    obtain ⟨same, room⟩ := held
    exact ⟨same.trans head.symm, by omega⟩
  | written other index =>
    obtain ⟨same, room, written⟩ := held
    exact ⟨same.trans head.symm, by omega, by rw [buffer]; exact written⟩

theorem ConsumerInv.push {pushed popped : List α} {ring next : Ring α capacity}
    {consumer : Consumer α capacity} (held : ConsumerInv pushed popped ring consumer)
    (tail : next.tail = ring.tail) (added : List α) :
    ConsumerInv (pushed ++ added) popped next consumer := by
  cases consumer with
  | idle => trivial
  | loadedTail index => exact held.trans tail.symm
  | ready index =>
    obtain ⟨same, some⟩ := held
    refine ⟨same.trans tail.symm, ?_⟩
    rw [List.length_append]
    omega
  | read value index =>
    obtain ⟨same, value⟩ := held
    obtain ⟨below, _⟩ := List.getElem?_eq_some_iff.1 value
    refine ⟨same.trans tail.symm, ?_⟩
    rw [List.getElem?_append_left below]
    exact value

section Steps
variable {pushed popped : List α} {s : State α capacity}

theorem Inv.pushFails (inv : Inv pushed popped s) (fits : capacity + 1 < 2 ^ 64) {value : α}
    {head : Fin (capacity + 1)} (loaded : s.producer = .loadedHead value head) :
    increment head = s.ring.tail ↔ pushed.length = popped.length + capacity := by
  have held := inv.producer
  rw [loaded] at held
  rw [show head = s.ring.head from held, inv.head, inv.tail, increment_slot fits,
    inv.window.full_iff]
  omega

theorem Inv.popFails (inv : Inv pushed popped s) {tail : Fin (capacity + 1)}
    (loaded : s.consumer = .loadedTail tail) :
    tail = s.ring.head ↔ popped.length = pushed.length := by
  have held := inv.consumer
  rw [loaded] at held
  rw [show tail = s.ring.tail from held, inv.head, inv.tail]
  exact inv.window.empty_iff

theorem stepProducer_inv (inv : Inv pushed popped s) (fits : capacity + 1 < 2 ^ 64) (value : α) :
    Inv (pushed ++ (stepProducer value s).1.pushedValue.toList) popped
      (stepProducer value s).2 := by
  have held := inv.producer
  unfold stepProducer
  cases stands : s.producer with
  | idle =>
    simp only [Outcome.pushedValue, Option.toList_none, List.append_nil]
    exact ⟨inv.head, inv.tail, inv.window, inv.order, inv.stores, rfl, inv.consumer⟩
  | loadedHead value head =>
    have fails := inv.pushFails fits stands
    rw [stands] at held
    by_cases full : increment head = s.ring.tail
    · simp only [if_pos full, Outcome.pushedValue, Option.toList_none, List.append_nil]
      exact ⟨inv.head, inv.tail, inv.window, inv.order, inv.stores, trivial, inv.consumer⟩
    · simp only [if_neg full, Outcome.pushedValue, Option.toList_none, List.append_nil]
      have notFull := fun same => full (fails.2 same)
      have spare := inv.window.spare
      exact ⟨inv.head, inv.tail, inv.window, inv.order, inv.stores, ⟨held, by omega⟩,
        inv.consumer⟩
  | ready value head =>
    rw [stands] at held
    obtain ⟨same, room⟩ := held
    simp only [Outcome.pushedValue, Option.toList_none, List.append_nil]
    refine ⟨inv.head, inv.tail, inv.window, inv.order, ?_, ⟨same, room, ?_⟩, ?_⟩
    · apply inv.stores.write inv.window
      intro cell other
      rw [← inv.head, ← same] at other
      exact Vector.getElem_set_ne head.isLt cell.isLt (fun equal => other (Fin.ext equal.symm))
    · exact Vector.getElem_set_self head.isLt
    · have kept := @ConsumerInv.push _ _ _ _ _
        { s.ring with buffer := s.ring.buffer.set head value } _ inv.consumer rfl []
      simpa using kept
  | written value head =>
    rw [stands] at held
    obtain ⟨same, room, stored⟩ := held
    simp only [Outcome.pushedValue, Option.toList_some]
    refine ⟨?_, inv.tail, ?_, ?_, ?_, trivial, inv.consumer.push rfl [value]⟩
    · rw [same, inv.head, increment_slot fits, List.length_append, List.length_singleton]
    · rw [List.length_append, List.length_singleton]
      exact inv.window.grow (by omega)
    · exact inv.order.trans (List.prefix_append pushed [value])
    · apply inv.stores.publish
      rw [← inv.head, ← same]
      exact stored

theorem stepConsumer_inv (inv : Inv pushed popped s) (fits : capacity + 1 < 2 ^ 64) :
    Inv pushed (popped ++ (stepConsumer s).1.poppedValue.toList) (stepConsumer s).2 := by
  have held := inv.consumer
  unfold stepConsumer
  cases stands : s.consumer with
  | idle =>
    simp only [Outcome.poppedValue, Option.toList_none, List.append_nil]
    exact ⟨inv.head, inv.tail, inv.window, inv.order, inv.stores, inv.producer, rfl⟩
  | loadedTail tail =>
    have fails := inv.popFails stands
    rw [stands] at held
    by_cases empty : tail = s.ring.head
    · simp only [if_pos empty, Outcome.poppedValue, Option.toList_none, List.append_nil]
      exact ⟨inv.head, inv.tail, inv.window, inv.order, inv.stores, inv.producer, trivial⟩
    · simp only [if_neg empty, Outcome.poppedValue, Option.toList_none, List.append_nil]
      have notEmpty := fun same => empty (fails.2 same)
      have ordered := inv.window.ordered
      exact ⟨inv.head, inv.tail, inv.window, inv.order, inv.stores, inv.producer,
        ⟨held, by omega⟩⟩
  | ready tail =>
    rw [stands] at held
    obtain ⟨same, some⟩ := held
    simp only [Outcome.poppedValue, Option.toList_none, List.append_nil]
    refine ⟨inv.head, inv.tail, inv.window, inv.order, inv.stores, inv.producer, ⟨same, ?_⟩⟩
    rw [inv.stores popped.length (le_refl _) some, ← inv.tail, same]
  | read value tail =>
    rw [stands] at held
    obtain ⟨same, next⟩ := held
    obtain ⟨some, _⟩ := List.getElem?_eq_some_iff.1 next
    simp only [Outcome.poppedValue, Option.toList_some]
    refine ⟨inv.head, ?_, ?_, prefix_snoc inv.order next, ?_, inv.producer.pop rfl rfl value,
      trivial⟩
    · rw [same, inv.tail, increment_slot fits, List.length_append, List.length_singleton]
    · rw [List.length_append, List.length_singleton]
      exact inv.window.shrink some
    · rw [List.length_append, List.length_singleton]
      exact inv.stores.shrink

theorem Inv.apart (inv : Inv pushed popped s) {written read : Fin (capacity + 1)}
    (writes : s.producer.writes = some written) (reads : s.consumer.reads = some read) :
    written ≠ read := by
  have writing : written = s.ring.head := by
    have held := inv.producer
    cases stands : s.producer <;> rw [stands] at held writes <;>
      simp only [Producer.writes, reduceCtorEq, Option.some.injEq] at writes
    · exact writes.symm.trans held.1
    · exact writes.symm.trans held.1
  have reading : read = s.ring.tail ∧ popped.length < pushed.length := by
    have held := inv.consumer
    cases stands : s.consumer <;> rw [stands] at held reads <;>
      simp only [Consumer.reads, reduceCtorEq, Option.some.injEq] at reads
    · exact ⟨reads.symm.trans held.1, held.2⟩
    · exact ⟨reads.symm.trans held.1, (List.getElem?_eq_some_iff.1 held.2).1⟩
  rw [writing, reading.1, inv.head, inv.tail]
  exact (inv.window.spare_ne (le_refl _) reading.2).symm

end Steps

theorem pushedOf_snoc (past : List (Turn α × Outcome α)) (turn : Turn α) (outcome : Outcome α) :
    pushedOf (past ++ [(turn, outcome)]) = pushedOf past ++ outcome.pushedValue.toList := by
  cases outcome <;> simp [pushedOf, Outcome.pushedValue]

theorem poppedOf_snoc (past : List (Turn α × Outcome α)) (turn : Turn α) (outcome : Outcome α) :
    poppedOf (past ++ [(turn, outcome)]) = poppedOf past ++ outcome.poppedValue.toList := by
  cases outcome <;> simp [poppedOf, Outcome.poppedValue]

theorem stepProducer_popped (value : α) (s : State α capacity) :
    (stepProducer value s).1.poppedValue = none := by
  unfold stepProducer
  cases s.producer with
  | idle => rfl
  | loadedHead other head =>
    dsimp only
    split_ifs <;> rfl
  | ready other head => rfl
  | written other head => rfl

theorem stepConsumer_pushed (s : State α capacity) :
    (stepConsumer s).1.pushedValue = none := by
  unfold stepConsumer
  cases s.consumer with
  | idle => rfl
  | loadedTail tail =>
    dsimp only
    split_ifs <;> rfl
  | ready tail => rfl
  | read value tail => rfl

/-- A producer that keeps offering one value pushes it or fails to, and then is idle. -/
theorem stepProducer_cases {value : α} {s : State α capacity}
    (offers : s.producer.pushing = none ∨ s.producer.pushing = some value) :
    ((stepProducer value s).1 = .running ∧
        (stepProducer value s).2.producer.pushing = some value) ∨
      ((stepProducer value s).2.producer.pushing = none ∧
        ((stepProducer value s).1 = .pushed value ∨
          (stepProducer value s).1 = .pushFailed value)) := by
  unfold stepProducer
  cases stands : s.producer with
  | idle => exact .inl ⟨rfl, rfl⟩
  | loadedHead other head =>
    obtain rfl : other = value := by simpa [stands, Producer.pushing] using offers
    by_cases full : increment head = s.ring.tail
    · simp [full, Producer.pushing]
    · simp [full, Producer.pushing]
  | ready other head =>
    obtain rfl : other = value := by simpa [stands, Producer.pushing] using offers
    exact .inl ⟨rfl, rfl⟩
  | written other head =>
    obtain rfl : other = value := by simpa [stands, Producer.pushing] using offers
    exact .inr ⟨rfl, .inl rfl⟩

theorem stepConsumer_keeps (s : State α capacity) :
    (stepConsumer s).2.ring.head = s.ring.head ∧ (stepConsumer s).2.producer = s.producer := by
  unfold stepConsumer
  cases s.consumer with
  | idle => exact ⟨rfl, rfl⟩
  | loadedTail tail =>
    dsimp only
    split_ifs <;> exact ⟨rfl, rfl⟩
  | ready tail => exact ⟨rfl, rfl⟩
  | read value tail => exact ⟨rfl, rfl⟩

theorem run_inv (fits : capacity + 1 < 2 ^ 64) (blank : α) (schedule : List (Turn α)) :
    Inv (pushedOf ((machine α capacity).history (create capacity blank) schedule))
      (poppedOf ((machine α capacity).history (create capacity blank) schedule))
      ((machine α capacity).run (create capacity blank) schedule) := by
  refine (machine α capacity).history_induction (fun _ => True)
    (motive := fun past s => Inv (pushedOf past) (poppedOf past) s) (create_inv blank) ?_
    schedule (fun _ _ => trivial)
  intro past s turn inv _
  rw [pushedOf_snoc, poppedOf_snoc]
  cases turn with
  | producer value =>
    have next := stepProducer_inv inv fits value
    simpa [machine, stepProducer_popped] using next
  | consumer =>
    have next := stepConsumer_inv inv fits
    simpa [machine, stepConsumer_pushed] using next

structure Fifo (pushed popped : List α) (s : State α capacity) : Prop where
  order : popped <+: pushed
  bounded : pushed.length ≤ popped.length + capacity
  pushFails : ∀ turn value, ((machine α capacity).step s turn).1 = .pushFailed value →
    pushed.length = popped.length + capacity
  popFails : ∀ turn, ((machine α capacity).step s turn).1 = .popFailed →
    pushed.length = popped.length
  apart : ∀ written read, s.producer.writes = some written → s.consumer.reads = some read →
    written ≠ read

theorem Inv.fifo {pushed popped : List α} {s : State α capacity} (inv : Inv pushed popped s)
    (fits : capacity + 1 < 2 ^ 64) : Fifo pushed popped s := by
  have spare := inv.window.spare
  refine ⟨inv.order, by omega, ?_, ?_, fun _ _ => inv.apart⟩
  · intro turn value failed
    cases turn with
    | producer other =>
      simp only [machine, stepProducer] at failed
      cases stands : s.producer <;> rw [stands] at failed <;> try simp at failed
      split_ifs at failed with full
      exact (inv.pushFails fits stands).1 full
    | consumer =>
      simp only [machine, stepConsumer] at failed
      cases stands : s.consumer <;> rw [stands] at failed <;> try simp at failed
      split_ifs at failed
  · intro turn failed
    cases turn with
    | producer other =>
      simp only [machine, stepProducer] at failed
      cases stands : s.producer <;> rw [stands] at failed <;> try simp at failed
      split_ifs at failed
    | consumer =>
      simp only [machine, stepConsumer] at failed
      cases stands : s.consumer <;> rw [stands] at failed <;> try simp at failed
      split_ifs at failed with empty
      exact ((inv.popFails stands).1 empty).symm

end TradingKernel.SpscRingBuffer
