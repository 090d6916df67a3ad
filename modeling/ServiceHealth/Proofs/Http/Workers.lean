import Mathlib.Data.List.FinRange
import Mathlib.Data.List.Nodup
import Mathlib.Data.List.ReduceOption
import Mathlib.Logic.Function.Basic
import ServiceHealth.Proofs.Interaction.Steadiness

/-!
# The workers of a concurrent batch

A batch has a worker for every copy of its request.  The workers are started one after
another, they finish in any order while others are still running or not even started,
and when all are started their outcomes are collected, first come first served, until
nobody is left.  `Step` is one step of this, `Run` a list of them.

A batch is made by two loops, one after the other, while the workers go their own way.

* `Step.start` is one turn of the first loop, which counts up to the size of the batch and
  spawns a worker in every turn.
* `Step.finish` is no turn of a loop: a worker has its outcome, between any two turns of
  either loop.
* `Step.collect` is one turn of the second loop, which waits for the next worker that is
  over and puts its outcome at the end of the batch.  The first loop is through by then, so
  there is no unstarted worker in it.
* `IsOver` is where the second loop ends, because there is no worker to wait for any more.

What a worker gets is left open (`outcomes`), so that a worker that breaks off, and for which
a failure is put into the batch, is a worker with this failure as its outcome.

`Accounts` is the invariant: every worker is unstarted, running or finished, and what has
been collected and what has yet to be are the outcomes of the finished ones in their
order.  It holds at the start, a step keeps it (`Accounts.step`), and so does a run
(`Accounts.run`).  Since every step uses up potential, and there is always one until all
is over (`exists_step`), the collection comes to an end in whatever order the workers finish.

`requestTogether_gathers` puts this together, and says that `Client.requestTogether` gives
the batch that is collected in this way.
-/

namespace ServiceHealth.Http

open scoped List

/-- The workers of a batch while it is collected. -/
structure Workers (count : Nat) where
  unstarted : List (Fin count)
  running : List (Fin count)
  /-- Those that are over but not collected yet, in the order in which they finished. -/
  finished : List (Fin count)
  collected : List Outcome

namespace Workers

variable {count : Nat} {outcomes : Fin count → Outcome}

/-- No worker is started. -/
def initial (count : Nat) : Workers count :=
  ⟨List.finRange count, [], [], []⟩

/-- There is nobody left to wait for. -/
structure IsOver (workers : Workers count) : Prop where
  unstarted : workers.unstarted = []
  running : workers.running = []
  finished : workers.finished = []

/-- One step, and the worker that finishes in it, if one does. -/
inductive Step (outcomes : Fin count → Outcome) :
    Workers count → Option (Fin count) → Workers count → Prop
  /-- One turn of the loop that spawns. -/
  | start (worker : Fin count) (unstarted running finished : List (Fin count))
      (collected : List Outcome) :
      Step outcomes ⟨worker :: unstarted, running, finished, collected⟩ none
        ⟨unstarted, running ++ [worker], finished, collected⟩
  /-- A worker has its outcome, whichever of those that are running it is. -/
  | finish (worker : Fin count) (unstarted before after finished : List (Fin count))
      (collected : List Outcome) :
      Step outcomes ⟨unstarted, before ++ worker :: after, finished, collected⟩ (some worker)
        ⟨unstarted, before ++ after, finished ++ [worker], collected⟩
  /-- One turn of the loop that collects, once every worker is spawned. -/
  | collect (worker : Fin count) (running finished : List (Fin count))
      (collected : List Outcome) :
      Step outcomes ⟨[], running, worker :: finished, collected⟩ none
        ⟨[], running, finished, collected ++ [outcomes worker]⟩

/-- Steps, one after another. -/
inductive Run (outcomes : Fin count → Outcome) :
    Workers count → List (Option (Fin count)) → Workers count → Prop
  | nil (workers : Workers count) : Run outcomes workers [] workers
  | cons {first middle last : Workers count} {finisher : Option (Fin count)}
      {finishers : List (Option (Fin count))} (step : Step outcomes first finisher middle)
      (rest : Run outcomes middle finishers last) :
      Run outcomes first (finisher :: finishers) last

theorem Run.append {first middle last : Workers count}
    {finishers others : List (Option (Fin count))} (h : Run outcomes first finishers middle)
    (hrest : Run outcomes middle others last) : Run outcomes first (finishers ++ others) last := by
  induction h with
  | nil => exact hrest
  | cons step rest ih => exact .cons step (ih hrest)

/-! ## The end of a run -/

/-- How many steps are left: a worker is started, finishes, and is collected. -/
def potential (workers : Workers count) : Nat :=
  3 * workers.unstarted.length + 2 * workers.running.length + workers.finished.length

theorem potential_initial : (initial count).potential = 3 * count := by
  simp [potential, initial]

theorem potential_of_step {first second : Workers count} {finisher : Option (Fin count)}
    (h : Step outcomes first finisher second) : second.potential + 1 = first.potential := by
  cases h <;> simp only [potential, List.length_append, List.length_cons, List.length_nil] <;> omega

theorem potential_of_run {first last : Workers count} {finishers : List (Option (Fin count))}
    (h : Run outcomes first finishers last) :
    last.potential + finishers.length = first.potential := by
  induction h with
  | nil workers => rfl
  | cons step rest ih =>
      have hstep := potential_of_step step
      rw [List.length_cons]
      omega

/-- Until all is over something can happen. -/
theorem exists_step (outcomes : Fin count → Outcome) {workers : Workers count}
    (h : ¬ workers.IsOver) : ∃ finisher next, Step outcomes workers finisher next := by
  obtain ⟨unstarted, running, finished, collected⟩ := workers
  cases unstarted with
  | cons worker unstarted => exact ⟨none, _, .start worker unstarted running finished collected⟩
  | nil =>
      cases running with
      | cons worker running =>
          exact ⟨some worker, _, .finish worker [] [] running finished collected⟩
      | nil =>
          cases finished with
          | cons worker finished => exact ⟨none, _, .collect worker [] finished collected⟩
          | nil => exact absurd ⟨rfl, rfl, rfl⟩ h

/-! ## What a run keeps -/

/-- Every worker is accounted for when some have finished in this order. -/
structure Accounts (outcomes : Fin count → Outcome) (order : List (Fin count))
    (workers : Workers count) : Prop where
  everyWorker : (workers.unstarted ++ workers.running ++ order).Perm (List.finRange count)
  inOrder : workers.collected ++ workers.finished.map outcomes = order.map outcomes

theorem accounts_initial (outcomes : Fin count → Outcome) :
    Accounts outcomes [] (initial count) := by
  refine ⟨?_, rfl⟩
  rw [initial, List.append_nil, List.append_nil]

theorem Accounts.step {order : List (Fin count)} {first second : Workers count}
    {finisher : Option (Fin count)} (h : Accounts outcomes order first)
    (hstep : Step outcomes first finisher second) :
    Accounts outcomes (order ++ finisher.toList) second := by
  obtain ⟨heveryWorker, hinOrder⟩ := h
  cases hstep with
  | start worker unstarted running finished collected =>
      rw [Option.toList_none, List.append_nil]
      refine ⟨List.Perm.trans ?_ heveryWorker, hinOrder⟩
      refine List.Perm.append_right order ?_
      calc unstarted ++ (running ++ [worker])
          = unstarted ++ running ++ [worker] := (List.append_assoc ..).symm
        _ ~ worker :: (unstarted ++ running) := List.perm_append_singleton _ _
  | finish worker unstarted before after finished collected =>
      refine ⟨List.Perm.trans ?_ heveryWorker, ?_⟩
      · calc unstarted ++ (before ++ after) ++ (order ++ [worker])
            ~ worker :: (unstarted ++ (before ++ after) ++ order) := by
              rw [← List.append_assoc]
              exact List.perm_append_singleton _ _
          _ ~ unstarted ++ (before ++ worker :: after) ++ order := by
              rw [← List.append_assoc unstarted, ← List.append_assoc unstarted, ← List.cons_append]
              exact List.Perm.append_right order List.perm_middle.symm
      · rw [Option.toList_some, List.map_append, List.map_append, ← hinOrder, List.append_assoc]
  | collect worker running finished collected =>
      rw [Option.toList_none, List.append_nil]
      refine ⟨heveryWorker, ?_⟩
      rw [← hinOrder, List.append_assoc, List.map_cons, List.singleton_append]

theorem Accounts.run {order : List (Fin count)} {first last : Workers count}
    {finishers : List (Option (Fin count))} (h : Accounts outcomes order first)
    (hrun : Run outcomes first finishers last) :
    Accounts outcomes (order ++ finishers.reduceOption) last := by
  -- every worker that finishes is added to the order, which is therefore left open
  induction hrun generalizing order with
  | nil workers => rwa [List.reduceOption_nil, List.append_nil]
  | @cons first middle last finisher finishers step rest ih =>
      have hrest := ih (h.step step)
      rw [List.append_assoc] at hrest
      cases finisher <;> exact hrest

/-- When all is over, every worker has finished, and the outcomes are collected in the order in
which they did. -/
theorem collected_of_isOver {finishers : List (Option (Fin count))} {workers : Workers count}
    (h : Run outcomes (initial count) finishers workers) (hover : workers.IsOver) :
    finishers.reduceOption.Perm (List.finRange count) ∧
      workers.collected = finishers.reduceOption.map outcomes := by
  obtain ⟨heveryWorker, hinOrder⟩ := (accounts_initial outcomes).run h
  rw [hover.unstarted, hover.running] at heveryWorker
  rw [hover.finished, List.map_nil, List.append_nil] at hinOrder
  exact ⟨heveryWorker, hinOrder⟩

/-! ## Every order is possible -/

theorem run_start (outcomes : Fin count → Outcome) (unstarted running : List (Fin count)) :
    Run outcomes ⟨unstarted, running, [], []⟩ (List.replicate unstarted.length none)
      ⟨[], running ++ unstarted, [], []⟩ := by
  induction unstarted generalizing running with
  | nil =>
      rw [List.append_nil]
      exact .nil _
  | cons worker unstarted ih =>
      have hrest := ih (running ++ [worker])
      rw [List.append_assoc] at hrest
      exact .cons (.start worker unstarted running [] []) hrest

theorem run_finish (outcomes : Fin count → Outcome) {order running : List (Fin count)}
    (h : order.Perm running) (finished : List (Fin count)) :
    Run outcomes ⟨[], running, finished, []⟩ (order.map some) ⟨[], [], finished ++ order, []⟩ := by
  induction order generalizing running finished with
  | nil =>
      obtain rfl := h.nil_eq
      rw [List.append_nil]
      exact .nil _
  | cons worker order ih =>
      -- the next one to finish stands somewhere among those that are running
      obtain ⟨before, after, rfl⟩ := List.append_of_mem (h.subset List.mem_cons_self)
      have hrest := ih (h.trans List.perm_middle).cons_inv (finished ++ [worker])
      rw [List.append_assoc] at hrest
      exact .cons (.finish worker [] before after finished []) hrest

theorem run_collect (outcomes : Fin count → Outcome) (finished : List (Fin count))
    (collected : List Outcome) :
    Run outcomes ⟨[], [], finished, collected⟩ (List.replicate finished.length none)
      ⟨[], [], [], collected ++ finished.map outcomes⟩ := by
  induction finished generalizing collected with
  | nil =>
      rw [List.map_nil, List.append_nil]
      exact .nil _
  | cons worker finished ih =>
      have hrest := ih (collected ++ [outcomes worker])
      rw [List.append_assoc] at hrest
      exact .cons (.collect worker [] finished collected) hrest

/-- The workers may finish in any order. -/
theorem exists_run_of_perm (outcomes : Fin count → Outcome) {order : List (Fin count)}
    (h : order.Perm (List.finRange count)) :
    ∃ finishers workers, Run outcomes (initial count) finishers workers ∧
      finishers.reduceOption = order ∧ workers.IsOver := by
  have hstart := run_start outcomes (List.finRange count) []
  have hfinish := run_finish outcomes h []
  have hcollect := run_collect outcomes order []
  refine ⟨_, _, (hstart.append hfinish).append hcollect, ?_, rfl, rfl, rfl⟩
  simp [List.reduceOption, List.filterMap_map]

end Workers

/-! ## The batch -/

section Batches

variable {count : Nat}

/-- How many entries have a response. -/
def Batch.answered (batch : Batch) : Nat :=
  (batch.outcomes.filter fun outcome => outcome.response?.isSome).length

/-- An entry has a response or it has none. -/
theorem unanswered_add_answered (batch : Batch) :
    batch.unanswered + batch.answered = batch.size := by
  obtain ⟨outcomes⟩ := batch
  simp only [Batch.unanswered, Batch.answered, Batch.size]
  induction outcomes with
  | nil => rfl
  | cons outcome outcomes ih =>
      cases outcome with
      | answered response =>
          rw [List.filter_cons_of_neg (by simp [Outcome.failure?]),
            List.filter_cons_of_pos (by rfl), List.length_cons, List.length_cons, ← ih]
          omega
      | failed failure =>
          rw [List.filter_cons_of_pos (by rfl),
            List.filter_cons_of_neg (by simp [Outcome.response?]), List.length_cons,
            List.length_cons, ← ih]
          omega

/-- The batch holds the outcomes of workers that finished in this order. -/
structure Batch.Holds (batch : Batch) (outcomes : Fin count → Outcome)
    (order : List (Fin count)) : Prop where
  /-- Every worker has finished. -/
  everyWorker : order.Perm (List.finRange count)
  inOrder : batch.outcomes = order.map outcomes
  /-- No outcome is lost, and none is there twice. -/
  perm : batch.outcomes.Perm (List.ofFn outcomes)
  size : batch.size = count
  counted : batch.unanswered + batch.answered = count
  /-- Another outcome of one worker is another entry in one place. -/
  ownEntry : ∀ worker outcome,
    order.map (Function.update outcomes worker outcome) =
      batch.outcomes.set (order.idxOf worker) outcome

theorem holds_of_perm (outcomes : Fin count → Outcome) {order : List (Fin count)}
    (h : order.Perm (List.finRange count)) : Batch.Holds ⟨order.map outcomes⟩ outcomes order := by
  have hsize : (Batch.mk (order.map outcomes)).size = count := by
    rw [Batch.size, List.length_map, h.length_eq, List.length_finRange]
  have hnodup : order.Nodup := h.nodup_iff.mpr (List.nodup_finRange count)
  refine ⟨h, rfl, ?_, hsize, ?_, ?_⟩
  · rw [List.ofFn_eq_map]
    exact h.map outcomes
  · rw [unanswered_add_answered, hsize]
  · intro worker outcome
    have hmem : worker ∈ order := h.mem_iff.mpr (List.mem_finRange worker)
    rw [hnodup.map_update, if_pos hmem]

/-- The outcome for a worker when this is delivered for it: that of a single request. -/
def Client.outcomeOf (client : Client) (request : Request) (timeoutSecs : Nat)
    (delivery : Delivery) : Outcome :=
  ((client.requestWithin request timeoutSecs).run (Network.always delivery) ()).result

/-- A batch is made of the outcomes for its workers in the order of completion.  If the request
cannot be built, nothing is sent and every order gives the same. -/
theorem run_requestTogether {σ : Type} {client : Client} {request : Request} {timeoutSecs : Nat}
    {network : Network σ} {state : σ} {completion : Completion count}
    (h : ∀ call, client.build request timeoutSecs = .ok call →
      (network.exchangeTogether state count call).1 = completion) :
    ((client.requestTogether count request timeoutSecs).run network state).result =
      ⟨completion.order.map fun worker =>
        client.outcomeOf request timeoutSecs (completion.deliveries worker)⟩ := by
  unfold Client.requestTogether Client.outcomeOf Client.requestWithin
  cases hbuild : client.build request timeoutSecs with
  | error failure =>
      -- no call is sent, so the completion is any one, and all its entries are the same
      have hlength : completion.order.length = count := by
        rw [completion.order_perm.length_eq, List.length_finRange]
      have hsame : (completion.order.map fun _ => Outcome.failed failure) =
          List.replicate count (Outcome.failed failure) := by
        rw [List.map_const', hlength]
      exact congrArg Batch.mk hsame.symm
  | ok call =>
      obtain rfl := h call hbuild
      exact congrArg Batch.mk List.map_map

end Batches

/-- What becomes of a batch of copies of a request. -/
structure Gathers (client : Client) (count : Nat) (request : Request) (timeoutSecs : Nat) :
    Prop where
  /-- Whatever the workers do, it comes to its end: a run has no more than so many steps, and it
  goes on until all is over. -/
  ends : ∀ outcomes finishers workers,
    Workers.Run outcomes (.initial count) finishers workers →
      finishers.length ≤ 3 * count ∧
        (workers.IsOver ∨ ∃ finisher next, Workers.Step outcomes workers finisher next)
  /-- The workers may finish in any order. -/
  anyOrder : ∀ (outcomes : Fin count → Outcome) order, order.Perm (List.finRange count) →
    ∃ finishers workers, Workers.Run outcomes (.initial count) finishers workers ∧
      finishers.reduceOption = order ∧ workers.IsOver
  /-- It is not over before all of them have finished, and then their outcomes are collected. -/
  holds : ∀ outcomes finishers workers,
    Workers.Run outcomes (.initial count) finishers workers → workers.IsOver →
      Batch.Holds ⟨workers.collected⟩ outcomes finishers.reduceOption
  /-- This is the batch, when the workers get what the network delivers for them and finish in
  the order in which it does. -/
  batch : ∀ {σ : Type} (network : Network σ) state completion,
    (∀ call, client.build request timeoutSecs = .ok call →
      (network.exchangeTogether state count call).1 = completion) →
    ∀ finishers workers,
      Workers.Run (fun worker =>
          client.outcomeOf request timeoutSecs (completion.deliveries worker))
        (.initial count) finishers workers →
      finishers.reduceOption = completion.order → workers.IsOver →
        ((client.requestTogether count request timeoutSecs).run network state).result =
          ⟨workers.collected⟩
  /-- Against a network that does not remember, all entries are what a single request gets. -/
  single : ∀ {σ : Type} (network : Network σ) state other, network.IsMemoryless →
    ((client.requestTogether count request timeoutSecs).run network state).result =
      ⟨List.replicate count
        ((client.requestWithin request timeoutSecs).run network other).result⟩

/-- A batch waits for all of its workers, and holds their outcomes in the order in which they
finished. -/
theorem requestTogether_gathers (client : Client) (count : Nat) (request : Request)
    (timeoutSecs : Nat) : Gathers client count request timeoutSecs where
  ends := fun outcomes finishers workers hrun => by
    have hpotential := Workers.potential_of_run hrun
    rw [Workers.potential_initial] at hpotential
    refine ⟨by omega, ?_⟩
    by_cases hover : workers.IsOver
    · exact .inl hover
    · exact .inr (Workers.exists_step outcomes hover)
  anyOrder := fun outcomes _ horder => Workers.exists_run_of_perm outcomes horder
  holds := fun outcomes finishers workers hrun hover => by
    obtain ⟨hperm, hcollected⟩ := Workers.collected_of_isOver hrun hover
    rw [hcollected]
    exact holds_of_perm outcomes hperm
  batch := fun network state completion h finishers workers hrun horder hover => by
    rw [run_requestTogether h, (Workers.collected_of_isOver hrun hover).2, horder]
  single := fun network state other h =>
    Client.run_requestTogether_of_isMemoryless h client count request timeoutSecs state other

end ServiceHealth.Http
