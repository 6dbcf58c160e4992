/-
# Overlay.Proofs.Node.Running -- what an action does to a node

An action that is run from a node has a result and leaves a node (`Action.runFrom`).  The
node that a failed action leaves is kept: what was logged before the failure stays logged.
-/
import Mathlib.Data.List.Forall2
import Overlay.Node

namespace Overlay

set_option autoImplicit false

variable {α β : Type}

/-- The result of an action from a node, and the node that it leaves. -/
def Action.runFrom (action : Action α) (node : Node) : Except Fault α × Node := action.run.run node

namespace Action

theorem runFrom_lift (result : Except Fault α) (node : Node) :
    (Node.lift result).runFrom node = (result, node) := rfl

theorem runFrom_get (node : Node) : (get : Action Node).runFrom node = (.ok node, node) := rfl

theorem runFrom_modify (change : Node → Node) (node : Node) :
    (modify change : Action Unit).runFrom node = (.ok (), change node) := rfl

/-- What follows a step is run from the node that the step leaves, unless the step fails. -/
theorem runFrom_bind (action : Action α) (next : α → Action β) (node : Node) :
    (action >>= next).runFrom node =
      match action.runFrom node with
      | (.ok value, after) => (next value).runFrom after
      | (.error fault, after) => (.error fault, after) := by
  unfold runFrom
  rw [ExceptT.run_bind, StateT.run_bind]
  obtain ⟨result, after⟩ := action.run.run node
  cases result with
  | ok value => rfl
  | error fault => rfl

theorem runFrom_log (event : Log.Event) (node : Node) :
    (Node.log event).runFrom node = (.ok (), node.withEvent event) := rfl

/-- Logging never fails. -/
theorem runFrom_forM_log (events : List Log.Event) (node : Node) :
    Action.runFrom (events.forM Node.log) node = (.ok (), events.foldl Node.withEvent node) := by
  induction events generalizing node with
  | nil => rfl
  | cons event events ih =>
      have step : (event :: events).forM Node.log =
          Node.log event >>= fun _ => events.forM Node.log := rfl
      rw [step, runFrom_bind, runFrom_log]
      exact ih (node.withEvent event)

/-! ## One step for each of several things -/

section

variable {step : α → Action β} {settle : Node → α → Node}

/-- Steps that all succeed leave the node that each in turn leaves. -/
theorem runFrom_mapM_of_ok {things : List α} {results : List β}
    (each : List.Forall₂ (fun thing result =>
      ∀ node, (step thing).runFrom node = (.ok result, settle node thing)) things results)
    (node : Node) :
    Action.runFrom (things.mapM step) node = (.ok results, things.foldl settle node) := by
  induction each generalizing node with
  | nil => rfl
  | cons first _ ih =>
      rw [List.mapM_cons, runFrom_bind, first]
      dsimp only
      rw [runFrom_bind, ih]
      rfl

/-- The first step that fails is the last that is made. -/
theorem runFrom_mapM_of_error {before after : List α} {results : List β} {thing : α} {fault : Fault}
    (passed : List.Forall₂ (fun thing result =>
      ∀ node, (step thing).runFrom node = (.ok result, settle node thing)) before results)
    (fails : ∀ node, (step thing).runFrom node = (.error fault, settle node thing)) (node : Node) :
    Action.runFrom ((before ++ thing :: after).mapM step) node =
      (.error fault, (before ++ [thing]).foldl settle node) := by
  induction passed generalizing node with
  | nil =>
      rw [List.nil_append, List.mapM_cons, runFrom_bind, fails]
      rfl
  | cons first _ ih =>
      rw [List.cons_append, List.mapM_cons, runFrom_bind, first]
      dsimp only
      rw [runFrom_bind, ih]
      rfl

/-- Steps that leave a node alike whether they succeed or not leave, if none of them fails, the node
that each in turn leaves. -/
theorem runFrom_mapM_of_completed
    (left : ∀ thing node, ((step thing).runFrom node).2 = settle node thing) {things : List α}
    {results : List β} {node : Node}
    (completed : (Action.runFrom (things.mapM step) node).1 = .ok results) :
    (Action.runFrom (things.mapM step) node).2 = things.foldl settle node := by
  induction things generalizing node results with
  | nil => rfl
  | cons thing things ih =>
      have after := left thing node
      rw [List.mapM_cons, runFrom_bind] at completed ⊢
      cases first : (step thing).runFrom node with
      | mk result next =>
          rw [first] at completed after
          cases after
          cases result with
          | error fault => cases completed
          | ok value =>
              dsimp only at completed ⊢
              rw [runFrom_bind] at completed ⊢
              cases others : Action.runFrom (things.mapM step) (settle node thing) with
              | mk results last =>
                  rw [others] at completed
                  cases results with
                  | error fault => cases completed
                  | ok results =>
                      have rest := ih (congrArg Prod.fst others)
                      rwa [others] at rest

end

end Action

end Overlay
