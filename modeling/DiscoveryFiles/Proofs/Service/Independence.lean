import DiscoveryFiles.Proofs.Service.Recovery

/-!
# Independent requests

As long as the schema files stay as they are, what a service has kept is what it would read again.
So no request shows which requests came before it, and their order does not matter.
-/

namespace DiscoveryFiles

namespace SchemaStore

/-- Loading a schema changes nothing about what loading gives, for this file type or another. -/
theorem loaded_after_load (tree : FileTree) (type other : String) (state : ServiceState) :
    (Service.after (load tree type) state).store.loaded tree other =
      state.store.loaded tree other := by
  by_cases differs : other = type
  case neg => exact (agreesOn_after_load differs).loaded_eq tree
  subst differs
  by_cases given : ∃ document, state.store.loaded tree other = .ok (some document)
  · obtain ⟨document, given⟩ := given
    have kept := lookup_after_load given
    have path_eq := directory_after_load tree other state
    rw [given]
    rw [loaded] at given ⊢
    simp only [path?, path_eq, kept] at given ⊢
    split at given
    · cases given
    · rfl
  · rw [store_after_load_of_no_document fun document given_eq => given ⟨document, given_eq⟩]

end SchemaStore

namespace Service

open SchemaStore

/-! ## The schema files -/

/-- Two states of the files between which the schema files in a directory do not differ. -/
def SameSchemas (directory : Path) (first second : FileTree) : Prop :=
  ∀ type : String, fetch first (directory.child (schemaName type)) =
    fetch second (directory.child (schemaName type))

theorem SameSchemas.loaded_eq {store : SchemaStore} {first second : FileTree}
    (same : SameSchemas store.directory first second) (type : String) :
    store.loaded first type = store.loaded second type := by
  rw [loaded, loaded]
  cases path_eq : store.path? type with
  | error failure => rfl
  | ok path =>
      obtain ⟨-, rfl⟩ := path?_eq_ok_iff.mp path_eq
      simp only [same type]

/-! ## One request -/

/-- A request leaves the store as it is or loads one schema. -/
theorem store_after_run_cases (request : Request) (state : ServiceState) :
    (after request.run state).store = state.store ∨
      ∃ type, (after request.run state).store = (after (load request.tree type) state).store := by
  cases tag_eq : request.tag? with
  | none =>
      left
      rw [Request.run, validateContent.eq_def, show tagFor? request.file request.given = none
        from tag_eq, after_pure]
  | some tag =>
      rw [Request.run, store_after_validateContent tag_eq]
      exact (store_after_findingsForTag tag).imp id fun loads => ⟨tag, loads⟩

private theorem directory_after_run (request : Request) (state : ServiceState) :
    (after request.run state).store.directory = state.store.directory := by
  rcases store_after_run_cases request state with same | ⟨type, loads⟩
  · rw [same]
  · rw [loads, directory_after_load]

/-- A request changes nothing about what loading a schema gives. -/
theorem loaded_after_run (request : Request) (type : String) (state : ServiceState) :
    (after request.run state).store.loaded request.tree type =
      state.store.loaded request.tree type := by
  rcases store_after_run_cases request state with same | ⟨loadedType, loads⟩
  · rw [same]
  · rw [loads, loaded_after_load]

/-- A request depends on the store only through what loading a schema gives. -/
theorem answer_run_congr {request : Request} {first second : ServiceState}
    (same : ∀ type, first.store.loaded request.tree type = second.store.loaded request.tree type) :
    answer request.run first = answer request.run second := by
  cases tag_eq : request.tag? with
  | none =>
      rw [Request.run, answer_validateContent, answer_validateContent,
        show tagFor? request.file request.given = none from tag_eq]
  | some tag => exact answer_validateContent_congr tag_eq (same tag)

/-! ## A sequence of requests -/

/-- The requests of a sequence, each with what it answers behind the ones before it. -/
def exchanges : List Request → ServiceState → List (Request × Except Failure Result)
  | [], _ => []
  | request :: requests, state =>
      (request, answer request.run state) :: exchanges requests (after request.run state)

/-- Loading schemas gives the same in a state of the service as for a new one. -/
def LoadsAfresh (directory : Path) (tree : FileTree) (state : ServiceState) : Prop :=
  state.store.directory = directory ∧
    ∀ type, state.store.loaded tree type =
      (ServiceState.fresh directory).store.loaded tree type

theorem LoadsAfresh.congr {directory : Path} {first second : FileTree} {state : ServiceState}
    (afresh : LoadsAfresh directory first state) (same : SameSchemas directory first second) :
    LoadsAfresh directory second state := by
  obtain ⟨directory_eq, loaded_eq⟩ := afresh
  refine ⟨directory_eq, fun type => ?_⟩
  have here : state.store.loaded first type = state.store.loaded second type :=
    SameSchemas.loaded_eq (directory_eq ▸ same) type
  have there : (ServiceState.fresh directory).store.loaded first type =
      (ServiceState.fresh directory).store.loaded second type :=
    SameSchemas.loaded_eq same type
  rw [← here, ← there, loaded_eq]

/-- A request keeps a service such that loading schemas gives the same as for a new one. -/
theorem LoadsAfresh.after_run {directory : Path} {request : Request} {state : ServiceState}
    (afresh : LoadsAfresh directory request.tree state) :
    LoadsAfresh directory request.tree (after request.run state) := by
  obtain ⟨directory_eq, loaded_eq⟩ := afresh
  exact ⟨(directory_after_run request state).trans directory_eq,
    fun type => (loaded_after_run request type state).trans (loaded_eq type)⟩

private theorem exchanges_eq_map {directory : Path} {tree : FileTree} {requests : List Request}
    {state : ServiceState} (afresh : LoadsAfresh directory tree state)
    (fixed : ∀ request ∈ requests, SameSchemas directory tree request.tree) :
    exchanges requests state =
      requests.map fun request => (request, answer request.run (.fresh directory)) := by
  -- The requests before have left a service that still loads schemas like a new one.
  induction requests generalizing state with
  | nil => rfl
  | cons request requests induction =>
      obtain ⟨here, later⟩ := List.forall_mem_cons.mp fixed
      have beside : LoadsAfresh directory request.tree state := afresh.congr here
      have behind : LoadsAfresh directory tree (after request.run state) :=
        beside.after_run.congr fun type => (here type).symm
      rw [exchanges, List.map_cons, answer_run_congr beside.2, induction behind later]

/-- As long as the schema files do not change, each request of a sequence answers what it answers on
a new service, be it a result or a failure.  In any other order the requests answer the same. -/
theorem exchanges_of_sameSchemas {directory : Path} {tree : FileTree} {requests : List Request}
    (fixed : ∀ request ∈ requests, SameSchemas directory tree request.tree) :
    exchanges requests (.fresh directory) =
        requests.map (fun request => (request, answer request.run (.fresh directory))) ∧
      ∀ others : List Request, others.Perm requests →
        (exchanges others (.fresh directory)).Perm (exchanges requests (.fresh directory)) := by
  have afresh : LoadsAfresh directory tree (.fresh directory) := ⟨rfl, fun _ => rfl⟩
  refine ⟨exchanges_eq_map afresh fixed, fun others reordered => ?_⟩
  have others_fixed : ∀ request ∈ others, SameSchemas directory tree request.tree :=
    fun request member => fixed request (reordered.mem_iff.mp member)
  rw [exchanges_eq_map afresh fixed, exchanges_eq_map afresh others_fixed]
  exact reordered.map _

/-- A schema that cannot be evaluated is kept, which shows neither in a policy that is checked again
from another working directory nor behind a file that cannot be read. -/
theorem exchanges_of_brokenSchema :
    let tree := schemaTree brokenSchema
    let elsewhere : FileTree := { tree with working := ⟨['/'], ["site".toList]⟩ }
    let unread : Request := ⟨tree, "ai.json", "[".toList, none⟩
    let requests := [namedPolicy tree, unread, namedPolicy elsewhere]
    (∀ request ∈ requests, SameSchemas ⟨['/'], []⟩ tree request.tree) ∧
      exchanges requests (.fresh ⟨['/'], []⟩) =
        requests.map (fun request => (request, answer request.run (.fresh ⟨['/'], []⟩))) ∧
      (exchanges [namedPolicy elsewhere, unread, namedPolicy tree] (.fresh ⟨['/'], []⟩)).Perm
        (exchanges requests (.fresh ⟨['/'], []⟩)) := by
  intro tree elsewhere unread requests
  have fixed : ∀ request ∈ requests, SameSchemas ⟨['/'], []⟩ tree request.tree := by
    intro request member
    simp only [requests, List.mem_cons, List.not_mem_nil, or_false] at member
    rcases member with rfl | rfl | rfl <;> exact fun type => rfl
  obtain ⟨alone, reordered⟩ := exchanges_of_sameSchemas fixed
  exact ⟨fixed, alone, reordered _ (List.reverse_perm requests)⟩

end Service
end DiscoveryFiles
