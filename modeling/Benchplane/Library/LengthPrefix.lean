import Benchplane.Library.Bytes
import Mathlib.Logic.Function.Basic

/-!
# Length prefixes

A sequence of byte strings, each behind its length, is read in one way only: the
length of a length is fixed, so it tells where the string behind it ends.
-/

namespace Benchplane
namespace Library

section

variable {α : Type} {encodeLength : Nat → List α} {width bound : Nat}

/-- The components of a sequence, each behind its length. -/
def lengthPrefixed (encodeLength : Nat → List α) (components : List (List α)) : List α :=
  components.flatMap fun component => encodeLength component.length ++ component

theorem lengthPrefixed_cons (component : List α) (rest : List (List α)) :
    lengthPrefixed encodeLength (component :: rest) =
      encodeLength component.length ++ (component ++ lengthPrefixed encodeLength rest) := by
  rw [lengthPrefixed, List.flatMap_cons, List.append_assoc]
  rfl

/-- Equal strings were put together from equal components. -/
theorem eq_of_lengthPrefixed_eq (hwidth : ∀ n, (encodeLength n).length = width)
    (hpositive : 0 < width)
    (hinjective : ∀ m n, m < bound → n < bound → encodeLength m = encodeLength n → m = n)
    {a b : List (List α)} (ha : ∀ component ∈ a, component.length < bound)
    (hb : ∀ component ∈ b, component.length < bound)
    (h : lengthPrefixed encodeLength a = lengthPrefixed encodeLength b) : a = b := by
  -- The induction is on one sequence; the other one has to be read along with it.
  induction a generalizing b with
  | nil =>
      cases b with
      | nil => rfl
      | cons component rest =>
          have hlength := congrArg List.length h
          rw [lengthPrefixed_cons, List.length_append, hwidth] at hlength
          simp only [lengthPrefixed, List.flatMap_nil, List.length_nil] at hlength
          omega
  | cons component rest ih =>
      cases b with
      | nil =>
          have hlength := congrArg List.length h
          rw [lengthPrefixed_cons, List.length_append, hwidth] at hlength
          simp only [lengthPrefixed, List.flatMap_nil, List.length_nil] at hlength
          omega
      | cons component' rest' =>
          rw [lengthPrefixed_cons, lengthPrefixed_cons] at h
          obtain ⟨hlengths, hbehind⟩ := List.append_inj h (by rw [hwidth, hwidth])
          have hlength := hinjective _ _ (ha component List.mem_cons_self)
            (hb component' List.mem_cons_self) hlengths
          obtain ⟨rfl, hrest⟩ := List.append_inj hbehind hlength
          rw [ih (fun other hother => ha other (List.mem_cons_of_mem _ hother))
            (fun other hother => hb other (List.mem_cons_of_mem _ hother)) hrest]

end

end Library
end Benchplane
