import DiscoveryFiles.Service.Basic

/-!
# Answers of a service

A request turns a state of the service into an answer and a next state.  Here are the two as
functions of the state, for each way to put requests together, and what loading a schema answers.
-/

namespace DiscoveryFiles
namespace Service

/-- What a request comes to in a state. -/
def answer {α : Type} (request : Service α) (state : ServiceState) : Except Failure α :=
  (request.run.run state).run.1

/-- The state behind a request. -/
def after {α : Type} (request : Service α) (state : ServiceState) : ServiceState :=
  (request.run.run state).run.2

section Combination

variable {α β : Type} (request : Service α) (next : α → Service β) (state : ServiceState)

@[simp]
theorem answer_pure (value : α) : answer (pure value) state = .ok value := rfl

@[simp]
theorem after_pure (value : α) : after (pure value) state = state := rfl

@[simp]
theorem answer_throw (failure : Failure) :
    answer (throw failure : Service α) state = .error failure := rfl

@[simp]
theorem after_throw (failure : Failure) :
    after (throw failure : Service α) state = state := rfl

@[simp]
theorem answer_get : answer (get : Service ServiceState) state = .ok state := rfl

@[simp]
theorem after_get : after (get : Service ServiceState) state = state := rfl

@[simp]
theorem answer_lift (outcome : Except Failure α) :
    answer (liftM outcome : Service α) state = outcome := rfl

@[simp]
theorem after_lift (outcome : Except Failure α) :
    after (liftM outcome : Service α) state = state := rfl

theorem run_bind :
    (request >>= next).run.run state =
      match answer request state with
      | .ok value => (next value).run.run (after request state)
      | .error failure => pure (.error failure, after request state) := by
  simp only [ExceptT.run_bind, StateT.run_bind, answer, after]
  generalize (request.run.run state) = ran
  obtain ⟨outcome, state⟩ := ran
  cases outcome <;> rfl

theorem answer_bind :
    answer (request >>= next) state =
      match answer request state with
      | .ok value => answer (next value) (after request state)
      | .error failure => .error failure := by
  rw [answer, run_bind]
  cases answer request state <;> rfl

theorem after_bind :
    after (request >>= next) state =
      match answer request state with
      | .ok value => after (next value) (after request state)
      | .error _ => after request state := by
  rw [after, run_bind]
  cases answer request state <;> rfl

theorem answer_tryCatch (rescue : Failure → Service α) :
    answer (tryCatch request rescue) state =
      match answer request state with
      | .ok value => .ok value
      | .error failure => answer (rescue failure) (after request state) := by
  simp only [answer, after, ExceptT.run, StateT.run, Id.run, tryCatch, tryCatchThe,
    MonadExceptOf.tryCatch, ExceptT.tryCatch, ExceptT.mk, bind, StateT.bind]
  cases request state with
  | mk outcome next => cases outcome <;> rfl

theorem after_tryCatch (rescue : Failure → Service α) :
    after (tryCatch request rescue) state =
      match answer request state with
      | .ok _ => after request state
      | .error failure => after (rescue failure) (after request state) := by
  simp only [answer, after, ExceptT.run, StateT.run, Id.run, tryCatch, tryCatchThe,
    MonadExceptOf.tryCatch, ExceptT.tryCatch, ExceptT.mk, bind, StateT.bind]
  cases request state with
  | mk outcome next => cases outcome <;> rfl

end Combination

theorem answer_noteAll (entries : List LogEntry) (state : ServiceState) :
    answer (noteAll entries) state = .ok () := rfl

end Service

/-! ## Loading a schema -/

namespace SchemaStore

/-- The document that a store has for a file type, or what fetching it from the files comes to. -/
def loaded (tree : FileTree) (store : SchemaStore) (type : String) :
    Except Failure (Option Json) :=
  match store.path? type with
  | .error failure => .error failure
  | .ok path =>
      match store.kept.lookup type with
      | some document => .ok (some document)
      | none => fetch tree path

open Service in
theorem answer_load (tree : FileTree) (type : String) (state : ServiceState) :
    answer (load tree type) state = state.store.loaded tree type := by
  simp only [load, loaded, answer_bind, answer_get, after_get, answer_lift, after_lift]
  cases path_eq : state.store.path? type with
  | error failure => rfl
  | ok path =>
      cases kept_eq : state.store.kept.lookup type with
      | some document => rfl
      | none =>
          simp only [answer_bind, answer_noteAll, answer_lift]
          cases fetch tree path with
          | error failure => rfl
          | ok outcome => cases outcome <;> rfl

open Service in
/-- Loading keeps a document that it reads from a file, and changes nothing else in the store. -/
theorem store_after_load (tree : FileTree) (type : String) (state : ServiceState) :
    (after (load tree type) state).store =
      match state.store.kept.lookup type, state.store.loaded tree type with
      | none, .ok (some document) => state.store.keep type document
      | _, _ => state.store := by
  simp only [load, loaded, after_bind, answer_get, after_get, answer_lift, after_lift]
  cases path_eq : state.store.path? type with
  | error failure => cases state.store.kept.lookup type <;> rfl
  | ok path =>
      cases kept_eq : state.store.kept.lookup type with
      | some document => rfl
      | none =>
          simp only [after_bind, answer_noteAll, answer_lift, after_lift]
          cases fetch tree path with
          | error failure => rfl
          | ok outcome => cases outcome <;> rfl

private theorem concernsSchema_of_readDocument {tree : FileTree} {path : Path} {failure : Failure}
    (failed : readDocument tree path = .error failure) : failure.concernsSchema = true := by
  rw [readDocument] at failed
  split at failed
  · obtain rfl := Except.error.inj failed
    rfl
  · split at failed
    · obtain rfl := Except.error.inj failed
      rfl
    · obtain rfl := Except.error.inj failed
      rfl
    · cases failed
    · obtain rfl := Except.error.inj failed
      rfl

/-- Apart from paths that cannot be looked at, whatever keeps a schema from being loaded lies in
the schema. -/
theorem concernsSchema_of_loaded {tree : FileTree} {store : SchemaStore} {type : String}
    {failure : Failure} (failed : store.loaded tree type = .error failure)
    (visible : failure ≠ .nameTooLong) : failure.concernsSchema = true := by
  rw [loaded] at failed
  split at failed
  next invalid =>
    obtain rfl := Except.error.inj failed
    rw [path?] at invalid
    split at invalid
    · cases invalid
    · obtain rfl := Except.error.inj invalid
      rfl
  next path _ =>
    split at failed
    · cases failed
    · rw [fetch] at failed
      split at failed
      · exact absurd (Except.error.inj failed).symm visible
      · cases failed
      · cases read_eq : readDocument tree path with
        | error other =>
            simp only [read_eq, Except.map, Except.error.injEq] at failed
            subst failed
            exact concernsSchema_of_readDocument read_eq
        | ok document => simp [read_eq, Except.map] at failed

end SchemaStore
end DiscoveryFiles
