import Mathlib.Data.List.Induction
import Mathlib.Logic.Function.Basic

/-! A table that takes a value for a key only while the key is free, and what a history of
registrations and removals leaves in it. -/
namespace RestRpc.Registry

variable {Key Value : Type} [DecidableEq Key]

inductive Operation (Key Value : Type)
  | register (key : Key) (value : Value)
  | remove (key : Key)

def apply (table : Key → Option Value) : Operation Key Value → Key → Option Value
  | .register key value => if (table key).isSome then table else Function.update table key (some value)
  | .remove key => Function.update table key none

/-- What a history leaves in a table that was empty. -/
def contents (history : List (Operation Key Value)) : Key → Option Value :=
  history.foldl apply fun _ => none

/-- The value was registered while its key was free, and the key was not removed since. -/
def Current (history : List (Operation Key Value)) (key : Key) (value : Value) : Prop :=
  ∃ before after, history = before ++ .register key value::after ∧ contents before key = none ∧
    .remove key ∉ after

theorem contents_snoc (history : List (Operation Key Value)) (operation : Operation Key Value) :
    contents (history ++ [operation]) = apply (contents history) operation := by
  simp [contents]

theorem apply_other (table : Key → Option Value) (operation : Operation Key Value) (key : Key)
    (value : Value) (held : table key = some value) (stays : operation ≠ .remove key) :
    apply table operation key = some value := by
  cases operation with
  | register other new =>
    rw [apply]
    split
    · exact held
    · rename_i free
      have differs : key ≠ other := by
        rintro rfl
        simp [held] at free
      rw [Function.update_of_ne differs,held]
  | remove other =>
    have differs : key ≠ other := by
      rintro rfl
      exact stays rfl
    rw [apply,Function.update_of_ne differs,held]

theorem Current.snoc {history : List (Operation Key Value)} {key : Key} {value : Value}
    (current : Current history key value) (operation : Operation Key Value)
    (stays : operation ≠ .remove key) : Current (history ++ [operation]) key value := by
  obtain ⟨before,after,split,free,kept⟩ := current
  refine ⟨before,after ++ [operation],by simp [split],free,?_⟩
  simp [kept,stays.symm]

theorem contents_iff (history : List (Operation Key Value)) (key : Key) (value : Value) :
    contents history key = some value ↔ Current history key value := by
  constructor
  · intro held
    induction history using List.reverseRecOn with
    | nil => cases held
    | append_singleton history operation ih =>
      rw [contents_snoc] at held
      cases operation with
      | register other new =>
        simp only [apply] at held
        split at held
        · exact (ih held).snoc _ (by simp)
        · rename_i free
          by_cases same : key = other
          · subst same
            obtain rfl : new = value := by simpa using held
            exact ⟨history,[],rfl,by simpa using free,by simp⟩
          · rw [Function.update_of_ne same] at held
            exact (ih held).snoc _ (by simp)
      | remove other =>
        by_cases same : key = other
        · subst same
          simp [apply] at held
        · rw [apply,Function.update_of_ne same] at held
          exact (ih held).snoc _ (by simp [Ne.symm same])
  · rintro ⟨before,after,rfl,free,kept⟩
    induction after using List.reverseRecOn with
    | nil =>
      rw [contents_snoc]
      simp [apply,free]
    | append_singleton after operation ih =>
      simp only [List.mem_append,List.mem_singleton,not_or] at kept
      rw [← List.cons_append,← List.append_assoc,contents_snoc]
      exact apply_other _ _ key value (ih kept.1) (Ne.symm kept.2)

end RestRpc.Registry
