import DiscoveryFiles.Proofs.Json.Identical
import DiscoveryFiles.Proofs.SchemaStore.Fetch

/-!
# The history of a store

The files that a store reads change while it lives.  Its history matters in one way only: the first
document that loading gave for a file type is given from then on.
-/

namespace DiscoveryFiles
namespace SchemaStore

open Service

/-! ## One load -/

section Load

variable {tree : FileTree} {type other : String} {state : ServiceState}

/-- For one file type there is no difference between two stores. -/
structure AgreesOn (type : String) (first second : SchemaStore) : Prop where
  /-- They look for schemas in the same directory. -/
  directory : first.directory = second.directory
  /-- They have kept the same document. -/
  kept : first.kept.lookup type = second.kept.lookup type

theorem AgreesOn.refl (type : String) (store : SchemaStore) : store.AgreesOn type store :=
  ⟨rfl, rfl⟩

theorem AgreesOn.trans {first second third : SchemaStore} (agrees : first.AgreesOn type second)
    (others : second.AgreesOn type third) : first.AgreesOn type third :=
  ⟨agrees.directory.trans others.directory, agrees.kept.trans others.kept⟩

theorem AgreesOn.loaded_eq {first second : SchemaStore} (agrees : first.AgreesOn type second)
    (tree : FileTree) : first.loaded tree type = second.loaded tree type := by
  simp only [loaded, path?, agrees.directory, agrees.kept]

/-- A store that has kept nothing for a file type does as a new one. -/
theorem agreesOn_new {store : SchemaStore} (nothing : store.kept.lookup type = none) :
    store.AgreesOn type ⟨store.directory, []⟩ :=
  ⟨rfl, nothing⟩

theorem directory_after_load (tree : FileTree) (type : String) (state : ServiceState) :
    (after (load tree type) state).store.directory = state.store.directory := by
  rw [store_after_load]
  split <;> rfl

/-- Loading a schema makes no difference for another file type. -/
theorem agreesOn_after_load (differs : other ≠ type) :
    (after (load tree type) state).store.AgreesOn other state.store := by
  refine ⟨directory_after_load tree type state, ?_⟩
  rw [store_after_load]
  split
  · have unequal : (other == type) = false := by simpa using differs
    simp [keep, List.lookup_append, List.lookup_cons, unequal]
  · rfl

/-- A load that gives no document leaves the store as it is. -/
theorem store_after_load_of_no_document
    (nothing : ∀ document, state.store.loaded tree type ≠ .ok (some document)) :
    (after (load tree type) state).store = state.store := by
  rw [store_after_load]
  split
  next document _ given => exact absurd given (nothing document)
  · rfl

/-- A document that a load gives is kept. -/
theorem lookup_after_load {document : Json}
    (given : state.store.loaded tree type = .ok (some document)) :
    (after (load tree type) state).store.kept.lookup type = some document := by
  rw [store_after_load, given]
  cases kept_eq : state.store.kept.lookup type with
  | none => simp [keep, List.lookup_append, kept_eq]
  | some known =>
      rw [loaded, kept_eq] at given
      cases path_eq : state.store.path? type with
      | error failure => simp [path_eq] at given
      | ok path => simpa [path_eq, kept_eq] using given

end Load

/-! ## Histories -/

/-- A service and the files that it finds. -/
structure Moment where
  /-- The files. -/
  tree : FileTree
  /-- The state of the service. -/
  state : ServiceState

/-- What happens to a store and to the files. -/
inductive Event where
  /-- Files are written, removed or made impossible to open, in any way. -/
  | change (edit : FileTree → FileTree)
  /-- The schema for a file type is loaded. -/
  | load (type : String)

namespace Moment

/-- A new store in front of some files. -/
def fresh (directory : Path) (tree : FileTree) : Moment :=
  ⟨tree, .fresh directory⟩

/-- What loading the schema for a file type comes to. -/
def outcome (moment : Moment) (type : String) : Except Failure (Option Json) :=
  answer (SchemaStore.load moment.tree type) moment.state

/-- The document that the store has kept for a file type. -/
def kept? (moment : Moment) (type : String) : Option Json :=
  moment.state.store.kept.lookup type

/-- The moment behind an event. -/
def next (moment : Moment) : Event → Moment
  | .change edit => { moment with tree := edit moment.tree }
  | .load type =>
      { moment with state := after (SchemaStore.load moment.tree type) moment.state }

/-- The moment behind a history. -/
def following (moment : Moment) (history : List Event) : Moment :=
  history.foldl next moment

end Moment

/-- The document that loading gives, if it gives one. -/
def document? : Except Failure (Option Json) → Option Json
  | .ok document => document
  | .error _ => none

private theorem document?_eq_some_iff {outcome : Except Failure (Option Json)} {document : Json} :
    document? outcome = some document ↔ outcome = .ok (some document) := by
  cases outcome <;> simp [document?]

/-- The documents that loading the schema for a file type gives in the course of a history, the
first one first. -/
def Moment.returned (type : String) : Moment → List Event → List Json
  | _, [] => []
  | moment, .change edit :: history => (moment.next (.change edit)).returned type history
  | moment, .load loaded :: history =>
      (if type = loaded then (document? (moment.outcome type)).toList else []) ++
        (moment.next (.load loaded)).returned type history

/-! ## One event -/

namespace Moment

variable {moment : Moment} {type other : String}

/-- What a store has kept it has for file types whose schema files have a path. -/
def IsSound (moment : Moment) : Prop :=
  ∀ type document, moment.kept? type = some document →
    ∃ path, moment.state.store.path? type = .ok path

theorem outcome_eq (moment : Moment) (type : String) :
    moment.outcome type = moment.state.store.loaded moment.tree type :=
  answer_load moment.tree type moment.state

private theorem directory_next (moment : Moment) (event : Event) :
    (moment.next event).state.store.directory = moment.state.store.directory := by
  cases event with
  | change edit => rfl
  | load type => exact directory_after_load moment.tree type moment.state

/-- An event changes nothing about where schema files lie. -/
theorem path?_next (moment : Moment) (event : Event) (type : String) :
    (moment.next event).state.store.path? type = moment.state.store.path? type := by
  simp only [path?, directory_next]

/-- A document that is kept is given. -/
theorem outcome_of_kept? {document : Json} (sound : moment.IsSound)
    (kept : moment.kept? type = some document) : moment.outcome type = .ok (some document) := by
  obtain ⟨path, path_eq⟩ := sound type document kept
  rw [outcome_eq, loaded, path_eq]
  simp only [kept?] at kept
  simp only [kept]

/-- Without a document, loading comes to what it comes to for a new store. -/
theorem outcome_of_not_kept? (kept : moment.kept? type = none) :
    moment.outcome type =
      (fresh moment.state.store.directory moment.tree).outcome type := by
  rw [outcome_eq, outcome_eq]
  exact (agreesOn_new kept).loaded_eq moment.tree

/-- Behind an attempt to load a schema, the store has what the attempt gave. -/
theorem kept?_next_load (sound : moment.IsSound) (type : String) :
    (moment.next (.load type)).kept? type = document? (moment.outcome type) := by
  cases given_eq : document? (moment.outcome type) with
  | some document =>
      have given : moment.state.store.loaded moment.tree type = .ok (some document) := by
        rw [← outcome_eq]
        exact document?_eq_some_iff.mp given_eq
      exact lookup_after_load given
  | none =>
      have nothing (document : Json) :
          moment.state.store.loaded moment.tree type ≠ .ok (some document) := by
        intro given
        rw [outcome_eq, given] at given_eq
        cases given_eq
      rw [kept?, next, store_after_load_of_no_document nothing]
      cases kept_eq : moment.kept? type with
      | none => exact kept_eq
      | some document =>
          have given := outcome_of_kept? sound kept_eq
          rw [outcome_eq] at given
          exact absurd given (nothing document)

/-- Loading a schema does nothing to what is kept for another file type. -/
theorem kept?_next_load_of_ne (differs : other ≠ type) :
    (moment.next (.load type)).kept? other = moment.kept? other :=
  (agreesOn_after_load differs).kept

theorem IsSound.next (sound : moment.IsSound) (event : Event) : (moment.next event).IsSound := by
  intro type document kept
  rw [path?_next]
  cases event with
  | change edit => exact sound type document kept
  | load loaded =>
      by_cases same : type = loaded
      · subst same
        rw [kept?_next_load sound, outcome_eq, SchemaStore.loaded] at kept
        cases path_eq : moment.state.store.path? type with
        | ok path => exact ⟨path, rfl⟩
        | error failure =>
            rw [path_eq] at kept
            cases kept
      · rw [kept?_next_load_of_ne same] at kept
        exact sound type document kept

/-- Among no files a new store finds no document. -/
theorem outcome_fresh_ne_of_empty {directory : Path} {tree : FileTree}
    (empty : tree.top = .directory []) (document : Json) :
    (fresh directory tree).outcome type ≠ .ok (some document) := by
  rw [outcome_eq, loaded]
  cases path_eq : (fresh directory tree).state.store.path? type with
  | error failure => simp
  | ok path =>
      have absent : tree.isFile path ≠ .ok true := FileTree.isFile_ne_ok_true_of_empty empty path
      rcases fetch_of_no_file absent with nothing | long
      · simp [fresh, ServiceState.fresh, nothing]
      · simp [fresh, ServiceState.fresh, long]

/-! ## Whole histories -/

private theorem isSound_fresh (directory : Path) (tree : FileTree) :
    (fresh directory tree).IsSound := by
  intro type document kept
  cases kept

theorem IsSound.following (sound : moment.IsSound) (history : List Event) :
    (moment.following history).IsSound := by
  induction history generalizing moment with
  | nil => exact sound
  | cons event history induction => exact induction (sound.next event)

private theorem directory_following (moment : Moment) (history : List Event) :
    (moment.following history).state.store.directory = moment.state.store.directory := by
  induction history generalizing moment with
  | nil => rfl
  | cons event history induction => exact (induction _).trans (directory_next moment event)

/-- In the end the store has what it had in the beginning, or else the first document that loading
gave. -/
theorem kept?_following (sound : moment.IsSound) (history : List Event) (type : String) :
    (moment.following history).kept? type =
      (moment.kept? type).or (moment.returned type history).head? := by
  -- A history is gone through from its front, so that the moment it starts from varies.
  induction history generalizing moment with
  | nil => simp [Moment.following, returned]
  | cons event history induction =>
      have rest := induction (sound.next event)
      cases event with
      | change edit => exact rest
      | load loaded =>
          refine rest.trans ?_
          by_cases same : type = loaded
          · subst same
            rw [kept?_next_load sound, returned, if_pos rfl, List.head?_append]
            cases kept_eq : moment.kept? type with
            | some document => simp [outcome_of_kept? sound kept_eq, document?]
            | none => simp
          · rw [kept?_next_load_of_ne same, returned, if_neg same, List.nil_append]

/-! ## Other file types -/

/-- For one file type there is no difference between two moments. -/
structure AgreesOn (type : String) (first second : Moment) : Prop where
  /-- The files are the same. -/
  tree : first.tree = second.tree
  /-- The stores agree. -/
  store : first.state.store.AgreesOn type second.state.store

theorem AgreesOn.outcome_eq {first second : Moment} (agrees : first.AgreesOn type second) :
    first.outcome type = second.outcome type := by
  rw [Moment.outcome_eq, Moment.outcome_eq, agrees.tree]
  exact agrees.store.loaded_eq second.tree

theorem AgreesOn.next {first second : Moment} (agrees : first.AgreesOn type second)
    (firstSound : first.IsSound) (secondSound : second.IsSound) (event : Event) :
    (first.next event).AgreesOn type (second.next event) := by
  cases event with
  | change edit => exact ⟨congrArg edit agrees.tree, agrees.store⟩
  | load loaded =>
      refine ⟨agrees.tree, ?_, ?_⟩
      · rw [directory_next, directory_next]
        exact agrees.store.directory
      · by_cases same : type = loaded
        · subst same
          have first_kept := kept?_next_load firstSound type
          rw [agrees.outcome_eq, ← kept?_next_load secondSound] at first_kept
          exact first_kept
        · exact (kept?_next_load_of_ne same).trans <|
            agrees.store.kept.trans (kept?_next_load_of_ne same).symm

theorem AgreesOn.following {first second : Moment} (agrees : first.AgreesOn type second)
    (firstSound : first.IsSound) (secondSound : second.IsSound) (history : List Event) :
    (first.following history).AgreesOn type (second.following history) := by
  induction history generalizing first second with
  | nil => exact agrees
  | cons event history induction =>
      exact induction (agrees.next firstSound secondSound event) (firstSound.next event)
        (secondSound.next event)

end Moment

/-- Loading a schema behind any history gives the first document that loading gave in its course
for the file type; if there was none, it comes to what it comes to for a new store in front of the
same files.  If it gives no document it leaves the store as it is, and in any case it makes no
difference to what happens later for another file type. -/
theorem outcome_of_history (directory : Path) (tree : FileTree) (history : List Event)
    (type : String) :
    let start := Moment.fresh directory tree
    let now := start.following history
    (now.outcome type =
      match (start.returned type history).head? with
      | some document => .ok (some document)
      | none => (Moment.fresh directory now.tree).outcome type) ∧
    ((∀ document, now.outcome type ≠ .ok (some document)) →
      (now.next (.load type)).state.store = now.state.store) ∧
    ∀ other ≠ type, ∀ later : List Event,
      ((now.next (.load type)).following later).outcome other =
        (now.following later).outcome other := by
  intro start now
  have sound : now.IsSound := (Moment.isSound_fresh directory tree).following history
  have kept_eq : now.kept? type = (start.returned type history).head? :=
    Moment.kept?_following (Moment.isSound_fresh directory tree) history type
  refine ⟨?first, fun nothing => ?unchanged, fun other differs later => ?others⟩
  case first =>
    cases first_eq : (start.returned type history).head? with
    | some document => exact Moment.outcome_of_kept? sound (kept_eq.trans first_eq)
    | none =>
        have same_directory : now.state.store.directory = directory :=
          Moment.directory_following start history
        rw [Moment.outcome_of_not_kept? (kept_eq.trans first_eq), same_directory]
  case unchanged =>
    rw [now.outcome_eq] at nothing
    exact store_after_load_of_no_document nothing
  case others =>
    have agrees : (now.next (.load type)).AgreesOn other now := ⟨rfl, agreesOn_after_load differs⟩
    exact (agrees.following (sound.next _) sound later).outcome_eq

/-- A schema that has been loaded is given even when its file is gone.  Looking for the other schema
in vain leaves the store as it is, and the first schema is still given behind that. -/
theorem outcome_behind_removal :
    let now := (Moment.fresh ⟨['/'], []⟩ (schemaTree "\x7b\x7d")).following
      [.load "ai-json", .change (·.remove schemaPath)]
    now.outcome "ai-json" = .ok (some (.object [])) ∧
      (now.next (.load "identity-json")).state.store = now.state.store ∧
      ((now.next (.load "identity-json")).following []).outcome "ai-json" =
        .ok (some (.object [])) := by
  intro now
  have parsed : Json.parse "\x7b\x7d".toList = .ok (.object []) :=
    Json.parse_eq_of_alike (by decide)
  have given : (Moment.fresh ⟨['/'], []⟩ (schemaTree "\x7b\x7d")).outcome "ai-json" =
      .ok (some (.object [])) := by
    refine (Moment.outcome_eq _ _).trans ((loaded_schemaTree _).trans ?_)
    exact fetch_of_read (read_schemaTree _) (by decide) parsed
  have still : now.outcome "ai-json" = .ok (some (.object [])) := by
    refine (outcome_of_history ⟨['/'], []⟩ (schemaTree "\x7b\x7d") _ "ai-json").1.trans ?_
    simp [Moment.returned, given, document?]
  obtain ⟨searched, unchanged, others⟩ := outcome_of_history ⟨['/'], []⟩ (schemaTree "\x7b\x7d")
    [.load "ai-json", .change (·.remove schemaPath)] "identity-json"
  have vain (document : Json) : now.outcome "identity-json" ≠ .ok (some document) := by
    have searched_new : now.outcome "identity-json" =
        (Moment.fresh ⟨['/'], []⟩ now.tree).outcome "identity-json" := by
      simpa [Moment.returned] using searched
    rw [searched_new]
    exact Moment.outcome_fresh_ne_of_empty rfl document
  exact ⟨still, unchanged vain, (others "ai-json" (by decide) []).trans still⟩

/-! ## Paths of schema files -/

theorem path?_eq_ok_iff {store : SchemaStore} {type : String} {path : Path} :
    store.path? type = .ok path ↔
      (Path.ofText (schemaName type)).lastName = schemaName type ∧
        store.directory.child (schemaName type) = path := by
  rw [path?]
  split <;> simp_all

/-- Schema files of different file types have different paths, so that keeping documents by file
type comes to keeping them by path. -/
theorem path?_injective {store : SchemaStore} {type other : String} {path : Path}
    (type_path : store.path? type = .ok path) (other_path : store.path? other = .ok path) :
    type = other := by
  obtain ⟨-, child_eq⟩ := path?_eq_ok_iff.mp type_path
  obtain ⟨-, rfl⟩ := path?_eq_ok_iff.mp other_path
  have names_eq : schemaName type = schemaName other := by
    simpa [Path.child] using child_eq
  exact String.toList_inj.mp (List.append_cancel_right names_eq)

end SchemaStore
end DiscoveryFiles
