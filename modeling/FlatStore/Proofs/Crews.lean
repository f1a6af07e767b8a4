import FlatStore.Proofs.Stages

/-!
# Runs of a crew

A run is a list of ticks: a thread has a turn, or other troubles are in store for the files.  What a
call has returned stays returned, and in every run a lock is held by at most one thread.
-/

namespace FlatStore

/-! ## Threads -/

namespace Stage

/-- The result of a call that is over. -/
def result? : Stage → Option (Except Failure Value)
  | .finished result => some result
  | _ => none

/-- A call that is over makes no move. -/
theorem Move.result?_eq_none {shared after : Shared} {stage next : Stage}
    (move : Move shared stage next after) : stage.result? = none := by
  cases move <;> rfl

end Stage

namespace Thread

/-- The calls of which a thread has made no step. -/
def ahead (thread : Thread) : List Call :=
  match thread.stage with
  | .begun call => call :: thread.pending
  | _ => thread.pending

theorem finishedResults_eq (thread : Thread) :
    thread.finishedResults = thread.results ++ thread.stage.result?.toList := by
  obtain ⟨stage, pending, results⟩ := thread
  cases stage <;> simp [finishedResults, Stage.result?]

/-- A step of a thread, and what is shared behind it. -/
inductive Move (shared : Shared) : Thread → Thread → Shared → Prop
  | call {result : Except Failure Value} {call : Call} {pending : List Call}
      {results : List (Except Failure Value)} :
      Move shared ⟨.finished result, call :: pending, results⟩
        ⟨.begun call, pending, results ++ [result]⟩ shared
  | stage {stage next : Stage} {pending : List Call} {results : List (Except Failure Value)}
      {after : Shared} (move : stage.Move shared next after) :
      Move shared ⟨stage, pending, results⟩ ⟨next, pending, results⟩ after

/-- Every step of a thread is one of these. -/
theorem move_of_step {shared after : Shared} {thread next : Thread}
    (h : thread.step shared = some (next, after)) : Move shared thread next after := by
  obtain ⟨stage, pending, results⟩ := thread
  rw [step] at h
  dsimp only at h
  split at h
  · cases h
  · cases h
    exact .call
  · obtain ⟨⟨stage, other⟩, stepped, same⟩ := Option.map_eq_some_iff.1 h
    cases same
    exact .stage (Stage.move_of_step stepped)

/-- What is returned stays returned. -/
theorem Move.finishedResults {shared after : Shared} {thread next : Thread}
    (move : Move shared thread next after) : thread.finishedResults <+: next.finishedResults := by
  cases move with
  | call => exact List.prefix_refl _
  | stage move =>
      rw [finishedResults_eq, finishedResults_eq, move.result?_eq_none]
      simp

/-- What a step does to the locks. -/
theorem Move.locks {shared after : Shared} {thread next : Thread}
    (move : Move shared thread next after) :
    Stage.LockMove shared.store.locks after.store.locks thread.stage.locked?
      next.stage.locked? := by
  cases move with
  | call => exact .stay fun ref => rfl
  | stage move => exact move.locks

end Thread

/-! ## Ticks -/

/-- What happens next. -/
inductive Tick
  | turn (thread : Nat)
  /-- Other troubles are in store: appends are made to fail, or the disk is full for some lines. -/
  | troubles (troubles : Troubles)

namespace Crew

/-- Let something happen. -/
def tick (crew : Crew) : Tick → Crew
  | .turn thread => crew.step thread
  | .troubles troubles => { crew with shared.store.storage.troubles := troubles }

/-- Let things happen in order. -/
def runTicks (crew : Crew) (ticks : List Tick) : Crew := ticks.foldl tick crew

theorem runTicks_concat (crew : Crew) (ticks : List Tick) (last : Tick) :
    crew.runTicks (ticks ++ [last]) = (crew.runTicks ticks).tick last := by
  rw [runTicks, List.foldl_append]
  rfl

theorem runTicks_append (crew : Crew) (early late : List Tick) :
    crew.runTicks (early ++ late) = (crew.runTicks early).runTicks late :=
  List.foldl_append

/-- What a tick does to a crew. -/
inductive Change (crew : Crew) : Crew → Prop
  /-- A thread waits or has no calls left. -/
  | nothing : Change crew crew
  | trouble {troubles : Troubles} :
      Change crew { crew with shared.store.storage.troubles := troubles }
  | thread {turn : Nat} {thread next : Thread} {after : Shared}
      (here : crew.threads[turn]? = some thread) (move : thread.Move crew.shared next after) :
      Change crew ⟨after, crew.threads.set turn next⟩

theorem change_tick (crew : Crew) (tick : Tick) : Change crew (crew.tick tick) := by
  cases tick with
  | troubles troubles => exact .trouble
  | turn turn =>
      rw [Crew.tick, step]
      cases here : crew.threads[turn]? with
      | none => exact .nothing
      | some thread =>
          dsimp only
          cases stepped : thread.step crew.shared with
          | none => exact .nothing
          | some next => exact .thread here (Thread.move_of_step stepped)

/-- What every change preserves holds at the end of every run. -/
theorem runTicks_induction {holds : Crew → Prop} {crew : Crew} (begins : holds crew)
    (preserved : ∀ before after, holds before → Change before after → holds after)
    (ticks : List Tick) : holds (crew.runTicks ticks) := by
  induction ticks generalizing crew with
  | nil => exact begins
  | cons tick rest ih => exact ih (preserved _ _ begins (change_tick crew tick))

theorem getElem?_set_of_some {threads : List Thread} {turn : Nat} {thread next : Thread}
    (here : threads[turn]? = some thread) (other : Nat) :
    (threads.set turn next)[other]? = if other = turn then some next else threads[other]? := by
  obtain ⟨inside, -⟩ := List.getElem?_eq_some_iff.1 here
  by_cases same : other = turn
  · subst same
    rw [List.getElem?_set_self inside, if_pos rfl]
  · rw [List.getElem?_set_ne (Ne.symm same), if_neg same]

theorem getElem?_set_self_of_some {threads : List Thread} {turn : Nat} {thread : Thread}
    (here : threads[turn]? = some thread) (next : Thread) :
    (threads.set turn next)[turn]? = some next := by
  rw [getElem?_set_of_some here, if_pos rfl]

/-! ## Results -/

/-- What a call has returned, given by its thread and its position among the calls of the thread. -/
def result? (crew : Crew) (thread position : Nat) : Option (Except Failure Value) :=
  crew.threads[thread]?.bind fun thread => thread.finishedResults[position]?

theorem result?_of_change {before after : Crew} (change : Change before after)
    {thread position : Nat} {result : Except Failure Value}
    (returned : before.result? thread position = some result) :
    after.result? thread position = some result := by
  cases change with
  | nothing => exact returned
  | trouble => exact returned
  | @thread turn mover next shared here move =>
      rw [result?, getElem?_set_of_some here]
      split
      · rename_i same
        rw [result?, same, here, Option.bind_some] at returned
        obtain ⟨inside, rfl⟩ := List.getElem?_eq_some_iff.1 returned
        exact List.prefix_iff_getElem?.1 move.finishedResults position inside
      · exact returned

/-- What is returned stays returned. -/
theorem result?_runTicks {crew : Crew} {thread position : Nat} {result : Except Failure Value}
    (returned : crew.result? thread position = some result) (ticks : List Tick) :
    (crew.runTicks ticks).result? thread position = some result := by
  refine @runTicks_induction (fun crew => crew.result? thread position = some result) crew returned
    ?_ ticks
  exact fun _ _ returned change => result?_of_change change returned

/-! ## Locks -/

/-- The table that a thread has locked. -/
def locked? (crew : Crew) (thread : Nat) : Option TableRef :=
  crew.threads[thread]?.bind fun thread => thread.stage.locked?

/-- Threads that have locked a table hold its lock, each table one thread at most. -/
structure Exclusive (crew : Crew) : Prop where
  held : ∀ thread ref, crew.locked? thread = some ref →
    crew.shared.store.locks.isHeld ref = true
  one : ∀ thread other ref, crew.locked? thread = some ref → crew.locked? other = some ref →
    thread = other

theorem locked?_set {shared : Shared} {threads : List Thread} {turn : Nat} {thread next : Thread}
    (here : threads[turn]? = some thread) (other : Nat) :
    locked? ⟨shared, threads.set turn next⟩ other =
      if other = turn then next.stage.locked? else threads[other]?.bind (·.stage.locked?) := by
  rw [locked?, getElem?_set_of_some here]
  split <;> rfl

/-- A step keeps locks exclusive. -/
theorem Exclusive.change {before after : Crew} (exclusive : Exclusive before)
    (change : Change before after) : Exclusive after := by
  cases change with
  | nothing => exact exclusive
  | trouble => exact ⟨exclusive.held, exclusive.one⟩
  | @thread turn mover next shared here move =>
      have mover_locked : before.locked? turn = mover.stage.locked? := by
        rw [locked?, here, Option.bind_some]
      have after_locked (other : Nat) :
          locked? ⟨shared, before.threads.set turn next⟩ other =
            if other = turn then next.stage.locked? else before.locked? other :=
        locked?_set here other
      have locks := move.locks
      rw [← mover_locked] at locks
      generalize next.stage.locked? = next_locked at locks after_locked
      generalize mover_before : before.locked? turn = mover_locked at locks
      cases locks with
      | stay same =>
          have unchanged (other : Nat) :
              locked? ⟨shared, before.threads.set turn next⟩ other = before.locked? other := by
            rw [after_locked]
            split
            · rename_i here
              rw [here, mover_before]
            · rfl
          constructor
          · intro thread ref locked
            rw [unchanged] at locked
            rw [same]
            exact exclusive.held thread ref locked
          · intro thread other ref locked other_locked
            rw [unchanged] at locked other_locked
            exact exclusive.one thread other ref locked other_locked
      | @take ref free taken =>
          -- Whoever had locked the table would hold its lock, which is free.
          have nobody (thread : Nat) : before.locked? thread ≠ some ref := by
            intro locked
            rw [exclusive.held thread ref locked] at free
            cases free
          constructor
          · intro thread other locked
            rw [after_locked] at locked
            rw [taken, Bool.or_eq_true, decide_eq_true_eq]
            split at locked
            · exact .inl (Option.some.inj locked)
            · exact .inr (exclusive.held thread other locked)
          · intro thread other there locked other_locked
            rw [after_locked] at locked other_locked
            split at locked
            · rename_i thread_eq
              cases locked
              split at other_locked
              · rename_i other_eq
                exact thread_eq.trans other_eq.symm
              · exact absurd other_locked (nobody other)
            · split at other_locked
              · cases other_locked
                exact absurd locked (nobody thread)
              · exact exclusive.one thread other there locked other_locked
      | @give ref given =>
          have others {thread : Nat} {there : TableRef}
              (locked : locked? ⟨shared, before.threads.set turn next⟩ thread = some there) :
              thread ≠ turn ∧ before.locked? thread = some there := by
            rw [after_locked] at locked
            split at locked
            · cases locked
            · rename_i apart
              exact ⟨apart, locked⟩
          constructor
          · intro thread there locked
            obtain ⟨apart, locked⟩ := others locked
            rw [given, Bool.and_eq_true, decide_eq_true_eq]
            refine ⟨?_, exclusive.held thread there locked⟩
            rintro rfl
            exact apart (exclusive.one thread turn ref locked mover_before)
          · intro thread other there locked other_locked
            exact exclusive.one thread other there (others locked).2 (others other_locked).2

/-- In every run of a crew that begins with exclusive locks they stay so. -/
theorem Exclusive.runTicks {crew : Crew} (exclusive : Exclusive crew) (ticks : List Tick) :
    Exclusive (crew.runTicks ticks) :=
  runTicks_induction exclusive (fun _ _ exclusive change => exclusive.change change) ticks

end Crew
end FlatStore
