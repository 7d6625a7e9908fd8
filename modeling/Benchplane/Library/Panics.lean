import Benchplane.Library.Checks
import Mathlib.Tactic.Linarith

/-!
# Computations that may panic

A program that can also panic: `none` is the panic, and a result is a value or an
error.  The operations of the machine that have no result on some arguments are
options.  A computation is free of panics when it is the lift of a result, and the
lemmas say so of a sequence and of a loop from their parts.
-/

namespace Benchplane
namespace Library

/-- A computation that panics, fails or gives a value. -/
abbrev Panicking (ε α : Type) := ExceptT ε Option α

namespace Panicking

variable {ε α β : Type}

/-- A computation that does not panic. -/
def returns (x : Except ε α) : Panicking ε α := some x

/-- A value without which the program panics. -/
def demand (x : Option α) : Panicking ε α := x.map Except.ok

/-- Rewrite the failure of a computation. -/
def rewriteFailure {δ : Type} (f : ε → δ) (x : Panicking ε α) : Panicking δ α :=
  Option.map (mapFailure f) x

@[simp] theorem pure_eq (a : α) : (pure a : Panicking ε α) = returns (pure a) := rfl

@[simp] theorem throw_eq (e : ε) : (throw e : Panicking ε α) = returns (.error e) := rfl

@[simp] theorem demand_some_bind (a : α) (f : α → Panicking ε β) :
    (demand (some a) >>= f) = f a := rfl

@[simp] theorem returns_ok_bind (a : α) (f : α → Panicking ε β) :
    (returns (.ok a) >>= f) = f a := rfl

@[simp] theorem returns_error_bind (e : ε) (f : α → Panicking ε β) :
    (returns (.error e) >>= f) = returns (.error e) := rfl

@[simp] theorem rewriteFailure_returns {δ : Type} (f : ε → δ) (x : Except ε α) :
    rewriteFailure f (returns x) = returns (mapFailure f x) := rfl

theorem returns_injective : Function.Injective (returns : Except ε α → Panicking ε α) :=
  fun _ _ h => Option.some.inj h

theorem returns_ne_panic (x : Except ε α) : returns x ≠ (none : Option (Except ε α)) :=
  Option.some_ne_none x

theorem demand_eq_returns_ok {x : Option α} {a : α} :
    (demand x : Panicking ε α) = returns (.ok a) ↔ x = some a := by
  constructor
  · intro h
    obtain ⟨b, hx, hb⟩ := Option.map_eq_some_iff.mp h
    rw [hx, Except.ok.inj hb]
  · intro h
    rw [h]
    rfl

/-- A sequence that succeeds, by its parts. -/
theorem bind_eq_returns_ok {x : Panicking ε α} {f : α → Panicking ε β} {b : β} :
    (x >>= f) = returns (.ok b) ↔ ∃ a, x = returns (.ok a) ∧ f a = returns (.ok b) := by
  constructor
  · intro h
    rcases x with - | (e | a)
    · exact absurd h.symm (returns_ne_panic _)
    · cases returns_injective h
    · exact ⟨a, rfl, h⟩
  · intro h
    obtain ⟨a, rfl, hf⟩ := h
    exact hf

/-- A sequence does not panic when its first part does not and, behind the values it
gives, neither does the second. -/
theorem returns_bind {x : Except ε α} {f : α → Except ε β} {g : α → Panicking ε β}
    (h : ∀ a, x = .ok a → g a = returns (f a)) : (returns x >>= g) = returns (x >>= f) := by
  cases x with
  | error e => rfl
  | ok a => exact h a rfl

/-- A loop does not panic when no step does that follows accepted ones. -/
theorem foldlM_returns {step : β → α → Except ε β} {panickingStep : β → α → Panicking ε β}
    {inv : β → Prop} (hstep : ∀ b a, inv b → panickingStep b a = returns (step b a))
    (hinv : ∀ b a b', inv b → step b a = .ok b' → inv b') (items : List α) {b : β} (hb : inv b) :
    items.foldlM panickingStep b = returns (items.foldlM step b) := by
  induction items generalizing b with
  | nil => rfl
  | cons item rest ih =>
      rw [List.foldlM_cons, List.foldlM_cons, hstep b item hb]
      apply returns_bind
      intro b' hb'
      exact ih (hinv b item b' hb hb')

end Panicking

/-! ## Operations of the machine -/

/-- An unsigned result of so many bits. -/
def unsigned (bits value : Nat) : Option Nat := if value < 2 ^ bits then some value else none

/-- An unsigned difference. -/
def difference (a b : Nat) : Option Nat := if b ≤ a then some (a - b) else none

/-- An unsigned quotient. -/
def quotient (a b : Nat) : Option Nat := if b = 0 then none else some (a / b)

/-- A signed result of so many bits. -/
def signed (bits : Nat) (value : Int) : Option Int :=
  if -2 ^ (bits - 1) ≤ value ∧ value < 2 ^ (bits - 1) then some value else none

/-- A signed quotient, cut towards zero. -/
def signedQuotient (bits : Nat) (a b : Int) : Option Int :=
  if b = 0 then none else signed bits (a.tdiv b)

theorem unsigned_eq {bits value : Nat} (h : value < 2 ^ bits) : unsigned bits value = some value :=
  if_pos h

theorem difference_eq {a b : Nat} (h : b ≤ a) : difference a b = some (a - b) := if_pos h

theorem quotient_eq {a b : Nat} (h : b ≠ 0) : quotient a b = some (a / b) := if_neg h

theorem signed_eq {bits : Nat} {value : Int} (hlow : -2 ^ (bits - 1) ≤ value)
    (hhigh : value < 2 ^ (bits - 1)) : signed bits value = some value :=
  if_pos ⟨hlow, hhigh⟩

/-- A checked sum of words of which there are few enough. -/
theorem foldlM_unsigned {bits bound : Nat} {values : List Nat}
    (hbound : ∀ value ∈ values, value ≤ bound) {start : Nat}
    (hfits : start + values.length * bound < 2 ^ bits) :
    values.foldlM (fun sum value => unsigned bits (sum + value)) start =
      some (start + values.sum) := by
  induction values generalizing start with
  | nil => simp
  | cons value rest ih =>
      have hvalue := hbound value List.mem_cons_self
      have hsum : (rest.length + 1) * bound = rest.length * bound + bound := Nat.succ_mul _ _
      rw [List.length_cons, hsum] at hfits
      have hhere : start + value < 2 ^ bits := by omega
      rw [List.foldlM_cons, unsigned_eq hhere, List.sum_cons]
      show rest.foldlM _ (start + value) = _
      rw [ih (fun other hother => hbound other (List.mem_cons_of_mem _ hother)) (by omega),
        Nat.add_assoc]

end Library
end Benchplane
