import AutoRouteGateway.Library.Lives
import AutoRouteGateway.Service.CoroutineMaps
import AutoRouteGateway.Service.StoreDouble
import AutoRouteGateway.State.StoreFile

/-!
Contract: the gateway on its database file, over any number of restarts.

A process opens the file, perhaps after openings that were cut short, serves
requests and stops while some of them still wait. The next process starts on
the file the last one left. The requests of all these processes see what they
would see in one process that never stopped, but in which the requests of the
stopped processes are not resumed.

Owns: the processes on one file, and that one process.
-/

namespace AutoRouteGateway.Service

open AutoRouteGateway.Domain
open AutoRouteGateway.Library
open AutoRouteGateway.Library.Coroutine
open AutoRouteGateway.Routing
open AutoRouteGateway.Runtime
open AutoRouteGateway.State

/-- One process: how many statements of the schema script each opening that was
cut short had executed, the requests it serves, and how they move until it stops. -/
structure ServerProcess (ι ρ : Type) where
  interrupted : List Nat
  arrivals : ι → Arrival
  schedule : List (Move ι Question (Question.Answer ρ))

/-- The openings that were cut short, and the one that was not. -/
def reopened : List Nat → StoreFile → Except ScriptError OpenedFile
  | [], file => file.openFile
  | executed :: rest, file =>
      match file.interrupted executed with
      | .error error => .error error
      | .ok left => reopened rest left

/-- However often it is tried, opening succeeds in the end and changes nothing
that the store can see. -/
theorem reopened_succeeds (interrupted : List Nat) (file : StoreFile) :
    ∃ opened, reopened interrupted file = .ok opened ∧
      opened.toStoreFile.view = file.view := by
  induction interrupted generalizing file with
  | nil => exact file.open_succeeds
  | cons executed rest inductionHypothesis =>
      obtain ⟨left, stopped, sameView⟩ := file.interrupted_succeeds executed
      obtain ⟨opened, isOpened, view⟩ := inductionHypothesis left
      refine ⟨opened, ?_, view.trans sameView⟩
      rw [reopened, stopped]
      exact isOpened

section Restarts

variable {ι ρ : Type} (engine : FallbackEngine) (service : GatewayService)

/-- The requests of a process over the file it has opened. -/
def ServerProcess.pool (process : ServerProcess ι ρ) (opened : OpenedFile) :
    Pool ι OpenedFile Question (Question.Answer ρ) (RequestEnd ρ) where
  state := opened
  threads := fun i =>
    ((process.arrivals i).requestOver OpenedFile.store service).coroutine
      OpenedFile.store engine service

/-- The same requests over the store the file stands for. -/
def ServerProcess.life (process : ServerProcess ι ρ) :
    Life ι SqliteStateStore Question (Question.Answer ρ) (RequestEnd ρ) where
  threads := fun i => ((process.arrivals i).request .sqlite service).coroutine
    SqliteStateStore.store engine service
  schedule := process.schedule

variable [DecidableEq ι]

/-- A process and its life see the same, from a file to the store it stands for. -/
theorem process_as_life (process : ServerProcess ι ρ) (opened : OpenedFile) :
    let life := process.life engine service
    let served := (process.pool engine service opened).run process.schedule
    let seen := (life.begun opened.toStoreFile.view).run life.schedule
    served.state.toStoreFile.view = seen.state ∧
      ∀ i, (process.pool engine service opened).talk i process.schedule =
          (life.begun opened.toStoreFile.view).talk i life.schedule ∧
        served.waitsFor? i = seen.waitsFor? i ∧ served.result? i = seen.result? i := by
  exact poolOver_read engine service process.arrivals opened OpenedFile.viewMap process.schedule

variable (processes : Nat → ServerProcess ι ρ) (start : StoreFile)

/-- The file that the first processes leave, each on the file of the last one. -/
def fileAfter : Nat → Except ScriptError StoreFile
  | 0 => .ok start
  | count + 1 =>
      match fileAfter count with
      | .error error => .error error
      | .ok file =>
          match reopened (processes count).interrupted file with
          | .error error => .error error
          | .ok opened =>
              .ok (((processes count).pool engine service opened).run
                (processes count).schedule).state.toStoreFile

/-- The lives of the processes. -/
abbrev livesOf : Nat → Life ι SqliteStateStore Question (Question.Answer ρ) (RequestEnd ρ) :=
  fun count => (processes count).life engine service

/-- The files stand for the states the lives leave. -/
theorem view_fileAfter (count : Nat) :
    ∃ file, fileAfter engine service processes start count = .ok file ∧
      file.view = Life.stateAfter (livesOf engine service processes) start.view count := by
  induction count with
  | zero => exact ⟨start, rfl, rfl⟩
  | succ count inductionHypothesis =>
      obtain ⟨file, isFile, view⟩ := inductionHypothesis
      obtain ⟨opened, isOpened, sameView⟩ :=
        reopened_succeeds (processes count).interrupted file
      obtain ⟨after, -⟩ := process_as_life engine service (processes count) opened
      refine ⟨(((processes count).pool engine service opened).run
        (processes count).schedule).state.toStoreFile, ?_, ?_⟩
      · rw [fileAfter, isFile]
        dsimp only
        rw [isOpened]
      · rw [after, sameView, view]
        rfl

/-- The gateway on its file, over any number of restarts: every process gets the
file open, however many openings before it were cut short, and each of its
requests has the conversation, and is left where it is, that it has in one
process serving all of them over one store, in which the requests of the earlier
processes do not move any more. The file stands for the state of that process. -/
theorem restarts_unnoticed (count : Nat) :
    ∃ file opened, fileAfter engine service processes start count = .ok file ∧
      reopened (processes count).interrupted file = .ok opened ∧
      let one := requestPool (ρ := ρ) .sqlite engine service
        (fun place : Nat × ι => ((processes place.1).arrivals place.2).request .sqlite service)
        start.view
      let moves := Life.movesOf (livesOf engine service processes)
      file.view = (one.run (moves count)).state ∧
        ∀ i, ((processes count).pool engine service opened).talk i (processes count).schedule =
            one.talk (count, i) (moves (count + 1)) ∧
          (((processes count).pool engine service opened).run
              (processes count).schedule).waitsFor? i =
            (one.run (moves (count + 1))).waitsFor? (count, i) ∧
          (((processes count).pool engine service opened).run
              (processes count).schedule).result? i =
            (one.run (moves (count + 1))).result? (count, i) := by
  obtain ⟨file, isFile, view⟩ := view_fileAfter engine service processes start count
  obtain ⟨opened, isOpened, sameView⟩ := reopened_succeeds (processes count).interrupted file
  refine ⟨file, opened, isFile, isOpened, ?_⟩
  intro one moves
  obtain ⟨state, inside, talks⟩ :=
    Life.run_together (livesOf engine service processes) start.view count
  obtain ⟨-, seen⟩ := process_as_life engine service (processes count) opened
  rw [sameView, view] at seen
  refine ⟨view.trans state.symm, ?_⟩
  intro i
  obtain ⟨talk, waits, result⟩ := seen i
  obtain ⟨waits', result'⟩ := inside.seen i
  exact ⟨talk.trans (talks i).symm, waits.trans waits'.symm, result.trans result'.symm⟩

end Restarts

end AutoRouteGateway.Service
