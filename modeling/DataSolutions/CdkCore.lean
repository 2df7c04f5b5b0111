import Mathlib.Data.Option.Defs

/-! What the constructs take from JavaScript and from the CDK core library: the `||`
fallback of an optional property, `Duration.days` and `RemovalPolicy`. A TypeScript
`number` property is an `Int`; an omitted property is `none`. -/
namespace DataSolutions.CdkCore

/-- JavaScript truthiness of the property values the constructs read with `||` or `if`. -/
class Truthy (α : Type) where
  truthy : α → Bool

instance : Truthy Int := ⟨fun n => n != 0⟩
instance : Truthy String := ⟨fun s => s != ""⟩

/-- An optional property as JavaScript tests it: its value when set and truthy. -/
def jsTruthy {α : Type} [Truthy α] (a : Option α) : Option α := a.filter Truthy.truthy

/-- JavaScript's `a || b` on an optional property. -/
def jsOr {α : Type} [Truthy α] (a : Option α) (b : α) : α := (jsTruthy a).getD b

@[simp] lemma jsTruthy_none {α : Type} [Truthy α] : jsTruthy (none : Option α) = none := rfl

lemma bind_eq_ok {α β : Type} {x : Except String α} {f : α → Except String β} {b : β} :
    x >>= f = .ok b ↔ ∃ a, x = .ok a ∧ f a = .ok b := by
  cases x <;> simp [bind, Except.bind]

lemma bind_eq_error {α β : Type} {x : Except String α} {f : α → Except String β} {e : String} :
    x >>= f = .error e ↔ x = .error e ∨ ∃ a, x = .ok a ∧ f a = .error e := by
  cases x <;> simp [bind, Except.bind]

lemma jsTruthy_int_some (n : Int) : jsTruthy (some n) = if n = 0 then none else some n := by
  by_cases h : n = 0 <;> simp [jsTruthy, Truthy.truthy, Option.filter, h]

lemma mem_jsTruthy {α : Type} [Truthy α] {a : Option α} {x : α} (h : x ∈ jsTruthy a) :
    x ∈ a := by
  cases a <;> simp_all [jsTruthy, Option.filter]

lemma jsOr_int (a : Option Int) (b : Int) :
    jsOr a b = match a with
      | some n => if n = 0 then b else n
      | none => b := by
  cases a with
  | none => rfl
  | some n => by_cases h : n = 0 <;> simp [jsOr, jsTruthy_int_some, h]

/-- The result of `jsOr` is the property or the fallback. -/
lemma jsOr_mem {α : Type} [Truthy α] (a : Option α) (b : α) : jsOr a b ∈ a ∨ jsOr a b = b := by
  unfold jsOr
  cases h : jsTruthy a with
  | none => exact .inr rfl
  | some x => exact .inl (mem_jsTruthy (by simp [h]))

lemma jsOr_nonneg {a : Option Int} {d : Int} (ha : ∀ n ∈ a, 0 ≤ n) (hd : 0 ≤ d) :
    0 ≤ jsOr a d :=
  (jsOr_mem a d).elim (ha _) fun h => by rw [h]; exact hd

/-- A negative result of `||` over a non-negative fallback is the supplied value. -/
lemma jsOr_mem_of_neg {a : Option Int} {d : Int} (hd : 0 ≤ d) (h : jsOr a d < 0) : jsOr a d ∈ a :=
  (jsOr_mem a d).resolve_right fun he => by omega

/-- A supplied delay is read back by `||` unless it is `0`, so a non-negative result
rules out a negative delay. -/
lemma nonneg_of_jsOr_nonneg {a : Option Int} {d : Int} (h : 0 ≤ jsOr a d) : ∀ n ∈ a, 0 ≤ n := by
  rintro n rfl
  by_cases hn : n = 0 <;> simp_all [jsOr_int]

lemma nonneg_of_jsTruthy_nonneg {a : Option Int} (h : ∀ n ∈ jsTruthy a, 0 ≤ n) :
    ∀ n ∈ a, 0 ≤ n := by
  rintro n rfl
  by_cases hn : n = 0 <;> simp_all [jsTruthy_int_some]

inductive RemovalPolicy
  | DESTROY
  | RETAIN
  | SNAPSHOT
  | RETAIN_ON_UPDATE_OR_DELETE
  deriving DecidableEq, Repr

/-- The members of the `RemovalPolicy` enum are non-empty strings, all truthy. -/
instance : Truthy RemovalPolicy := ⟨fun _ => true⟩

/-- A CDK `Duration` built by `Duration.days`: an amount of days, never negative. -/
@[ext] structure Duration where
  amount : Int
  amount_nonneg : 0 ≤ amount
  deriving DecidableEq

/-- The CDK's `Duration.days`: the `Duration` constructor refuses a negative amount. -/
def Duration.days (amount : Int) : Except String Duration :=
  if h : amount < 0 then .error s!"Duration amounts cannot be negative. Received: {amount}"
  else .ok ⟨amount, Int.not_lt.mp h⟩

lemma Duration.days_eq_ok {n : Int} {d : Duration} : Duration.days n = .ok d ↔ d.amount = n := by
  unfold Duration.days
  split
  · simp only [reduceCtorEq, false_iff]
    exact fun h => by have := d.amount_nonneg; omega
  · simp only [Except.ok.injEq, Duration.ext_iff, eq_comm]

lemma Duration.days_eq_error {n : Int} {e : String} :
    Duration.days n = .error e ↔ n < 0 ∧ e = s!"Duration amounts cannot be negative. Received: {n}" := by
  unfold Duration.days
  split <;> simp_all [eq_comm]

lemma Duration.days_of_nonneg {n : Int} (h : 0 ≤ n) : Duration.days n = .ok ⟨n, h⟩ := by
  simp [Duration.days, Int.not_lt.mpr h]

lemma Duration.days_of_neg {n : Int} (h : n < 0) :
    Duration.days n = .error s!"Duration amounts cannot be negative. Received: {n}" := by
  simp [Duration.days, h]

end DataSolutions.CdkCore
