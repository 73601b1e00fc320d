import DiscoveryFiles.Proofs.Service.Attempt
import DiscoveryFiles.Service.Scan

/-!
# Failures that no request has

A request avoids a failure if it does not end in it in any state.  No request to the service ends in
the failure that a level of the log is unknown.
-/

namespace DiscoveryFiles
namespace Service

/-- A request never ends in a failure. -/
def Avoids {α : Type} (failure : Failure) (request : Service α) : Prop :=
  ∀ state, answer request state ≠ .error failure

section Combination

variable {α β : Type} {failure : Failure}

theorem avoids_pure (value : α) : Avoids failure (pure value : Service α) := by
  simp [Avoids]

private theorem avoids_throw {other : Failure} (differ : other ≠ failure) :
    Avoids failure (throw other : Service α) := by
  rintro state ⟨⟩
  exact differ rfl

theorem avoids_lift {outcome : Except Failure α} (differ : outcome ≠ .error failure) :
    Avoids failure (liftM outcome : Service α) :=
  fun _ => differ

private theorem avoids_note (level : Level) (source : LogSource) (message : String) :
    Avoids failure (note level source message) := by
  rintro state ⟨⟩

theorem Avoids.bind {request : Service α} {next : α → Service β} (first : Avoids failure request)
    (second : ∀ value, Avoids failure (next value)) : Avoids failure (request >>= next) := by
  intro state
  rw [answer_bind]
  cases answered : answer request state with
  | ok value => exact second value _
  | error other =>
      rintro ⟨⟩
      exact first state answered

end Combination

section Requests

variable {tree : FileTree} {name : String}

theorem avoids_validateFile (path : String) (given : Option String) :
    Avoids (.unknownLevel name) (validateFile tree path given) :=
  fun _ failed => failsFile_of_validateFile failed

private theorem avoids_hasFile (path : Path) : Avoids (.unknownLevel name) (hasFile tree path) := by
  rw [hasFile]
  cases tree.isFile path with
  | error obstacle => exact avoids_throw (by simp)
  | ok found => exact avoids_pure found

private theorem avoids_requireDirectory (path : String) :
    Avoids (.unknownLevel name) (requireDirectory tree path) := by
  rw [requireDirectory]
  split
  · exact avoids_throw (by simp)
  · exact avoids_throw (by simp)
  · exact avoids_pure ()

private theorem avoids_scanKinds (directory : Path) (kinds : List Kind) :
    Avoids (.unknownLevel name) (scanKinds tree directory kinds) := by
  induction kinds with
  | nil => exact avoids_pure []
  | cons kind kinds others =>
      refine (avoids_hasFile _).bind fun found => ?_
      cases found with
      | false => exact others
      | true =>
          exact (avoids_validateFile _ _).bind fun result => others.bind fun _ => avoids_pure _

theorem avoids_validateDirectory (path : String) :
    Avoids (.unknownLevel name) (validateDirectory tree path) := by
  refine (avoids_requireDirectory path).bind fun _ => (avoids_scanKinds _ _).bind fun results => ?_
  cases results with
  | nil => exact (avoids_note _ _ _).bind fun _ => avoids_pure _
  | cons result results => exact avoids_pure _

private theorem avoids_runVectors (directory : Path) (expected : Bool) (names : List Text) :
    Avoids (.unknownLevel name) (runVectors tree directory expected names) := by
  induction names with
  | nil => exact avoids_pure []
  | cons file names others =>
      rw [runVectors]
      split
      · exact others
      refine (avoids_hasFile _).bind fun found => ?_
      cases found with
      | false => exact others
      | true =>
          refine (avoids_validateFile _ _).bind fun result => ?_
          have listed : Avoids (.unknownLevel name) (do
              return (⟨result, expected⟩ : Outcome) ::
                (← runVectors tree directory expected names)) :=
            others.bind fun _ => avoids_pure _
          dsimp only
          split
          · exact (avoids_note _ _ _).bind fun _ => listed
          · exact listed

private theorem avoids_runPart (directory : Path) (expected : Bool) :
    Avoids (.unknownLevel name) (runPart tree directory expected) := by
  rw [runPart]
  split
  · exact avoids_throw (by simp)
  · exact avoids_pure []
  · exact avoids_runVectors directory expected _

theorem avoids_validateVectors (path : String) :
    Avoids (.unknownLevel name) (validateVectors tree path) := by
  refine (avoids_requireDirectory path).bind fun _ => (avoids_runPart _ _).bind fun passing => ?_
  exact (avoids_runPart _ _).bind fun failing => avoids_pure _

end Requests

end Service
end DiscoveryFiles
