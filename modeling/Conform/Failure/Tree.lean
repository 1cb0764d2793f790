/-
  Conform: trees of failures as a whole.

  * `Failure.flatten`: the failures of a tree in a row, each before its causes.
  * `Failure.report`: a tree as a JSON value.
  * `Failure.same`: equality of trees, with equality of values on what was refused.
  * `Failure.flatten_eq`, `Failure.flattenAll_eq_flatMap`: a row is the failure and
    the rows of its causes; `Failure.forall_mem_flatten_iff` says so of properties.
-/
import Conform.Failure

namespace Conform.Failure

/-! ## Rows -/

mutual

/-- The failures of a tree, each before the ones behind it. -/
def flatten : Failure → List Failure
  | ⟨code, message, input, path, causes⟩ =>
    ⟨code, message, input, path, causes⟩ :: flattenAll causes

/-- The failures of trees, one tree after the other. -/
def flattenAll : List Failure → List Failure
  | [] => []
  | failure :: rest => flatten failure ++ flattenAll rest

end

theorem flatten_eq (failure : Failure) :
    failure.flatten = failure :: flattenAll failure.causes := by
  cases failure
  rw [flatten]

/-- The rows of trees are joined in order. -/
theorem flattenAll_eq_flatMap (failures : List Failure) :
    flattenAll failures = failures.flatMap flatten := by
  induction failures with
  | nil => rfl
  | cons failure rest ih => rw [flattenAll, ih, List.flatMap_cons]

/-- A property of all failures of a tree is one of the failure and of the trees of its causes. -/
theorem forall_mem_flatten_iff {p : Failure → Prop} {e : Failure} : (∀ n ∈ e.flatten, p n) ↔
    p e ∧ ∀ cause ∈ e.causes, ∀ n ∈ cause.flatten, p n := by
  rw [flatten_eq, List.forall_mem_cons, flattenAll_eq_flatMap]
  simp only [List.mem_flatMap, forall_exists_index, and_imp]
  exact and_congr_right fun _ => ⟨fun h cause hcause n hn => h n cause hcause hn,
    fun h n cause hcause hn => h cause hcause n hn⟩

/-! ## Reports -/

mutual

/-- A tree of failures as a JSON value; an absent value becomes `null`. -/
def report (order : KeyOrder) : Failure → Json
  | ⟨code, message, input, path, causes⟩ =>
    .obj (order.ofList [
      ("code", .str code),
      ("message", .str message),
      ("path", .str (pathText path)),
      ("input", input.getD .null),
      ("causes", .arr (reportAll order causes))])

/-- Trees of failures as JSON values. -/
def reportAll (order : KeyOrder) : List Failure → List Json
  | [] => []
  | failure :: rest => report order failure :: reportAll order rest

end

/-! ## Equality -/

/-- Equality of values that may be absent. -/
def sameInput : Option Json → Option Json → Bool
  | none, none => true
  | some a, some b => a.same b
  | _, _ => false

mutual

/-- Equality of trees of failures, with equality of values on the refused ones. -/
def same : Failure → Failure → Bool
  | ⟨code, message, input, path, causes⟩, other =>
    code == other.code && message == other.message && sameInput input other.input
      && path == other.path && sameAll causes other.causes

/-- Equality of rows of trees. -/
def sameAll : List Failure → List Failure → Bool
  | [], [] => true
  | a :: as, b :: bs => same a b && sameAll as bs
  | _, _ => false

end

end Conform.Failure
