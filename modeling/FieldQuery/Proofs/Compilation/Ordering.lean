/-
This file proves that requests for an order become sort keys one by one, up to the first request
whose target is not a path.
-/
import FieldQuery.Compilation.Predicate
import FieldQuery.Proofs.Compilation.Membership
import Mathlib.Data.List.Forall2

namespace FieldQuery

/-- A request can be served when its target is a path. -/
def OrderBy.IsServable (order : OrderBy) : Prop :=
  ∃ name, order.target = .path name

namespace SortKey

/-- A key serves a request when it collates the named field in the direction of the request. -/
structure Serves (order : OrderBy) (key : SortKey) : Prop where
  target : order.target = .path key.field
  reversed : key.reversed = !order.ascending
  compare_eq : ∀ left right, key.compare left right =
    if order.ascending then Text.collate left right else (Text.collate left right).swap

/-- A request becomes the only key that serves it. -/
theorem ofOrder_eq_ok_iff {order : OrderBy} {key : SortKey} :
    ofOrder order = .ok key ↔ Serves order key := by
  obtain ⟨target, ascending⟩ := order
  obtain ⟨field, reversed⟩ := key
  constructor
  · intro found
    cases target with
    | path name =>
        obtain ⟨rfl, rfl⟩ : name = field ∧ (!ascending) = reversed := by simpa [ofOrder] using found
        refine ⟨rfl, rfl, fun left right => ?_⟩
        cases ascending <;> rfl
    | constant value => cases found
    | operation operator arguments => cases found
  · rintro ⟨target, reversed, _⟩
    simp only at target reversed
    rw [target, reversed]
    rfl

/-- A request becomes a key exactly when it can be served. -/
theorem exists_ofOrder_eq_ok_iff (order : OrderBy) :
    (∃ key, ofOrder order = .ok key) ↔ order.IsServable := by
  obtain ⟨target, ascending⟩ := order
  cases target <;> simp [ofOrder, OrderBy.IsServable]

/-- A request that cannot be served is refused for its target. -/
theorem ofOrder_of_not_isServable {order : OrderBy} (refused : ¬ order.IsServable) :
    ofOrder order = .error (.orderTarget order.target) := by
  obtain ⟨target, ascending⟩ := order
  cases target with
  | path name => exact absurd ⟨name, rfl⟩ refused
  | constant value => rfl
  | operation operator arguments => rfl

/-- Requests become keys one by one. -/
theorem ofOrders_eq_mapM (orders : List OrderBy) : ofOrders orders = orders.mapM ofOrder := by
  induction orders with
  | nil => rfl
  | cons order rest inductionHypothesis =>
      rw [ofOrders, inductionHypothesis, List.mapM_cons]

/-- The keys of several requests are the key of the first one and those of the others. -/
theorem ofOrders_cons_eq_ok_iff {order : OrderBy} {rest : List OrderBy} {keys : List SortKey} :
    ofOrders (order :: rest) = .ok keys ↔
      ∃ key others, ofOrder order = .ok key ∧ ofOrders rest = .ok others ∧
        keys = key :: others := by
  rw [ofOrders]
  cases ofOrder order with
  | error fault => simp [bind, Except.bind]
  | ok key => cases ofOrders rest <;> simp [bind, Except.bind, pure, Except.pure, eq_comm]

/-- The keys of requests serve them in their order. -/
theorem ofOrders_eq_ok_iff {orders : List OrderBy} {keys : List SortKey} :
    ofOrders orders = .ok keys ↔ List.Forall₂ Serves orders keys := by
  induction orders generalizing keys with
  | nil => simp [ofOrders, eq_comm]
  | cons order rest inductionHypothesis =>
      rw [ofOrders_cons_eq_ok_iff, List.forall₂_cons_left_iff]
      simp only [ofOrder_eq_ok_iff, inductionHypothesis]

/-- Requests become keys exactly when each of them can be served. -/
theorem exists_ofOrders_eq_ok_iff (orders : List OrderBy) :
    (∃ keys, ofOrders orders = .ok keys) ↔ ∀ order ∈ orders, order.IsServable := by
  rw [ofOrders_eq_mapM, exists_mapM_eq_ok_iff]
  simp only [exists_ofOrder_eq_ok_iff]

/-- Requests are refused for the target of the first one that cannot be served. -/
theorem ofOrders_eq_error_iff {orders : List OrderBy} {fault : Fault} :
    ofOrders orders = .error fault ↔
      ∃ before order after, orders = before ++ order :: after ∧
        (∀ earlier ∈ before, earlier.IsServable) ∧ ¬ order.IsServable ∧
        fault = .orderTarget order.target := by
  constructor
  · intro refused
    induction orders with
    | nil => cases refused
    | cons order rest inductionHypothesis =>
        by_cases servable : order.IsServable
        · obtain ⟨key, found⟩ := (exists_ofOrder_eq_ok_iff order).mpr servable
          have later : ofOrders rest = .error fault := by
            rw [ofOrders, found] at refused
            cases following : ofOrders rest with
            | error other => simpa [following, bind, Except.bind] using refused
            | ok keys => simp [following, bind, Except.bind, pure, Except.pure] at refused
          obtain ⟨before, first, after, rfl, served, others⟩ := inductionHypothesis later
          exact ⟨order :: before, first, after, rfl,
            List.forall_mem_cons.mpr ⟨servable, served⟩, others⟩
        · rw [ofOrders, ofOrder_of_not_isServable servable] at refused
          obtain rfl : .orderTarget order.target = fault := by
            simpa [bind, Except.bind] using refused
          exact ⟨[], order, rest, rfl, List.forall_mem_nil _, servable, rfl⟩
  · rintro ⟨before, order, after, rfl, served, refused, rfl⟩
    rw [ofOrders_eq_mapM]
    exact mapM_eq_error_of_first after
      (fun earlier member => (exists_ofOrder_eq_ok_iff earlier).mpr (served earlier member))
      (ofOrder_of_not_isServable refused)

/-- The keys of two lists of requests are those of the first list and those of the second one. -/
theorem ofOrders_append_eq_ok_iff {orders later : List OrderBy} {keys : List SortKey} :
    ofOrders (orders ++ later) = .ok keys ↔
      ∃ first second, ofOrders orders = .ok first ∧ ofOrders later = .ok second ∧
        keys = first ++ second := by
  induction orders generalizing keys with
  | nil => simp [ofOrders]
  | cons order rest inductionHypothesis =>
      simp only [List.cons_append, ofOrders_cons_eq_ok_iff, inductionHypothesis]
      constructor
      · rintro ⟨key, others, found, ⟨first, second, head, tail, rfl⟩, rfl⟩
        exact ⟨key :: first, second, ⟨key, first, found, head, rfl⟩, tail, rfl⟩
      · rintro ⟨_, second, ⟨key, first, found, head, rfl⟩, tail, rfl⟩
        exact ⟨key, first ++ second, found, ⟨first, second, head, tail, rfl⟩, rfl⟩

end SortKey

namespace SortOrder

/-- A run ends with the keys of its requests. -/
theorem outcome_ofOrders_eq_ok_iff {orders : List OrderBy} {order : SortOrder} :
    (ofOrders orders).outcome = .ok order ↔ SortKey.ofOrders orders = .ok order.keys := by
  change (SortKey.ofOrders orders).map mk = .ok order ↔ _
  cases SortKey.ofOrders orders with
  | error fault => simp [Except.map]
  | ok keys =>
      obtain ⟨own⟩ := order
      simp [Except.map]

/-- A run ends with the fault of its requests. -/
theorem outcome_ofOrders_eq_error_iff {orders : List OrderBy} {fault : Fault} :
    (ofOrders orders).outcome = .error fault ↔ SortKey.ofOrders orders = .error fault := by
  change (SortKey.ofOrders orders).map mk = .error fault ↔ _
  cases SortKey.ofOrders orders <;> simp [Except.map]

/--
Requests are compiled exactly when every target is a path, and then the keys serve the requests in
their order, each under the name of its path. Otherwise the run ends like one of the first request
alone whose target is not a path. The keys of two lists are those of the first and of the second.
-/
theorem outcome_ofOrders (orders : List OrderBy) :
    (∀ order, (ofOrders orders).outcome = .ok order ↔
      List.Forall₂ SortKey.Serves orders order.keys) ∧
    ((∃ order, (ofOrders orders).outcome = .ok order) ↔
      ∀ order ∈ orders, ∃ name, order.target = .path name) ∧
    (∀ fault, (ofOrders orders).outcome = .error fault ↔
      ∃ before first after, orders = before ++ first :: after ∧
        (∀ earlier ∈ before, ∃ name, earlier.target = .path name) ∧
        (∀ name, first.target ≠ .path name) ∧
        (ofOrders [first]).outcome = .error fault ∧
        fault = .orderTarget first.target ∧ fault.kind = .invalidArgument) ∧
    ∀ later order, (ofOrders (orders ++ later)).outcome = .ok order ↔
      ∃ first second, (ofOrders orders).outcome = .ok first ∧
        (ofOrders later).outcome = .ok second ∧ order.keys = first.keys ++ second.keys := by
  refine ⟨fun order => ?_, ?_, fun fault => ?_, fun later order => ?_⟩
  · rw [outcome_ofOrders_eq_ok_iff, SortKey.ofOrders_eq_ok_iff]
  · refine Iff.trans ?_ (SortKey.exists_ofOrders_eq_ok_iff orders)
    constructor
    · rintro ⟨order, found⟩
      exact ⟨order.keys, outcome_ofOrders_eq_ok_iff.mp found⟩
    · rintro ⟨keys, found⟩
      exact ⟨⟨keys⟩, outcome_ofOrders_eq_ok_iff.mpr found⟩
  · rw [outcome_ofOrders_eq_error_iff, SortKey.ofOrders_eq_error_iff]
    constructor
    · rintro ⟨before, first, after, rfl, served, refused, rfl⟩
      refine ⟨before, first, after, rfl, served, not_exists.mp refused, ?_, rfl, rfl⟩
      rw [outcome_ofOrders_eq_error_iff, SortKey.ofOrders_eq_error_iff]
      exact ⟨[], first, [], rfl, List.forall_mem_nil _, refused, rfl⟩
    · rintro ⟨before, first, after, rfl, served, refused, _, rfl, _⟩
      exact ⟨before, first, after, rfl, served, not_exists.mpr refused, rfl⟩
  · rw [outcome_ofOrders_eq_ok_iff, SortKey.ofOrders_append_eq_ok_iff]
    simp only [outcome_ofOrders_eq_ok_iff]
    constructor
    · rintro ⟨first, second, head, tail, same⟩
      exact ⟨⟨first⟩, ⟨second⟩, head, tail, same⟩
    · rintro ⟨first, second, head, tail, same⟩
      exact ⟨first.keys, second.keys, head, tail, same⟩

end SortOrder

end FieldQuery
