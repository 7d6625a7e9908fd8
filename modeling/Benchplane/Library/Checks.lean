import Mathlib.Tactic.Common

/-!
# Sequences of checks

A validator is a sequence of checks that stops at the first failure.  The lemmas
turn "the whole sequence accepts" into the conjunction of what each check
accepts, and carry an invariant along a fold.
-/

namespace Benchplane
namespace Library

variable {ε α β : Type}

@[simp] theorem bind_eq_ok_iff {x : Except ε α} {f : α → Except ε β} {b : β} :
    (x >>= f) = .ok b ↔ ∃ a, x = .ok a ∧ f a = .ok b := by
  cases x with
  | error e => simp [bind, Except.bind]
  | ok a => simp [bind, Except.bind]

@[simp] theorem pure_eq_ok_iff {a b : α} :
    (pure a : Except ε α) = .ok b ↔ a = b := by
  simp [pure, Except.pure]

/-- Stop with `error` when `bad` holds. -/
def rejectIf (bad : Prop) [Decidable bad] (error : ε) : Except ε Unit :=
  if bad then .error error else .ok ()

@[simp] theorem rejectIf_eq_ok {bad : Prop} [Decidable bad] {error : ε} {u : Unit} :
    rejectIf bad error = .ok u ↔ ¬ bad := by
  unfold rejectIf
  split <;> simp_all

/-- A value that must be there. -/
def orReject (error : ε) : Option α → Except ε α
  | none => .error error
  | some a => .ok a

@[simp] theorem orReject_eq_ok {error : ε} {value : Option α} {a : α} :
    orReject error value = .ok a ↔ value = some a := by
  cases value <;> simp [orReject]

theorem exists_of_isOk {x : Except ε α} (h : x.isOk = true) : ∃ a, x = .ok a := by
  cases x with
  | error e => simp [Except.isOk, Except.toBool] at h
  | ok a => exact ⟨a, rfl⟩

theorem toOption_eq_some {x : Except ε α} {a : α} : x.toOption = some a ↔ x = .ok a := by
  cases x <;> simp [Except.toOption]

/-- Rewrite the failure of a result. -/
def mapFailure {δ : Type} (f : ε → δ) : Except ε α → Except δ α
  | .error e => .error (f e)
  | .ok a => .ok a

@[simp] theorem mapFailure_eq_ok {δ : Type} {f : ε → δ} {x : Except ε α} {a : α} :
    mapFailure f x = .ok a ↔ x = .ok a := by
  cases x <;> simp [mapFailure]

/-- What every accepted step preserves holds at the end of an accepted fold; the
invariant may speak about the items already behind. -/
theorem foldlM_invariant {step : β → α → Except ε β} {inv : List α → β → Prop} {items : List α}
    (hstep : ∀ done item b b', inv done b → step b item = .ok b' → inv (done ++ [item]) b')
    {b b' : β} (hb : inv [] b) (h : items.foldlM step b = .ok b') : inv items b' := by
  suffices hrun : ∀ rest done b, inv done b → rest.foldlM step b = .ok b' →
      inv (done ++ rest) b' from hrun items [] b hb h
  intro rest
  induction rest with
  | nil =>
      intro done b hdone hrest
      obtain rfl : b = b' := by simpa using hrest
      simpa using hdone
  | cons item rest ih =>
      intro done b hdone hrest
      rw [List.foldlM_cons, bind_eq_ok_iff] at hrest
      obtain ⟨mid, hmid, hrest⟩ := hrest
      simpa using ih (done ++ [item]) mid (hstep done item b mid hdone hmid) hrest

/-- What is decoded value by value is decoded as a list. -/
theorem mapM_map_eq_ok {encode : α → β} {decode : β → Except ε α}
    (h : ∀ value, decode (encode value) = .ok value) (values : List α) :
    (values.map encode).mapM decode = .ok values := by
  induction values with
  | nil => rfl
  | cons value rest ih =>
      simp only [List.map_cons, List.mapM_cons, h, ih, bind_eq_ok_iff, pure_eq_ok_iff]
      exact ⟨value, rfl, rest, rfl, rfl⟩

/-- A fold is accepted when an indexed invariant makes every step accepted. -/
theorem exists_foldlM {step : β → α → Except ε β} {inv : List α → β → Prop} {items : List α}
    (hstep : ∀ done item rest b, items = done ++ item :: rest → inv done b →
      ∃ b', step b item = .ok b' ∧ inv (done ++ [item]) b')
    {b : β} (hb : inv [] b) : ∃ b', items.foldlM step b = .ok b' ∧ inv items b' := by
  suffices h : ∀ done rest b, items = done ++ rest → inv done b →
      ∃ b', rest.foldlM step b = .ok b' ∧ inv items b' from h [] items b rfl hb
  intro done rest
  induction rest generalizing done with
  | nil =>
      intro b hitems hdone
      rw [List.append_nil] at hitems
      exact ⟨b, rfl, hitems ▸ hdone⟩
  | cons item rest ih =>
      intro b hitems hdone
      obtain ⟨mid, hmid, hinv⟩ := hstep done item rest b hitems hdone
      obtain ⟨b', hb', hend⟩ := ih (done ++ [item]) mid (by simp [hitems]) hinv
      exact ⟨b', by rw [List.foldlM_cons, hmid]; exact hb', hend⟩

/-- A fold is accepted exactly when every item is good, where the invariant makes a
step accepted exactly on good items. -/
theorem exists_foldlM_iff {step : β → α → Except ε β} {good : α → Prop} {items : List α}
    (inv : List α → β → Prop)
    (hstep : ∀ done item rest b, items = done ++ item :: rest → inv done b →
      ((∃ b', step b item = .ok b') ↔ good item))
    (hinv : ∀ done item rest b b', items = done ++ item :: rest → inv done b →
      step b item = .ok b' → inv (done ++ [item]) b')
    {b : β} (hb : inv [] b) :
    (∃ b', items.foldlM step b = .ok b') ↔ ∀ item ∈ items, good item := by
  suffices h : ∀ rest done b, items = done ++ rest → inv done b →
      ((∃ b', rest.foldlM step b = .ok b') ↔ ∀ item ∈ rest, good item) from h items [] b rfl hb
  -- on the items that are left, with the done ones in the invariant
  intro rest
  induction rest with
  | nil => intro done b _ _; exact ⟨fun _ => by simp, fun _ => ⟨b, rfl⟩⟩
  | cons item rest ih =>
      intro done b hitems hdone
      have hitem := hstep done item rest b hitems hdone
      have hrest : ∀ mid, step b item = .ok mid →
          ((∃ b', rest.foldlM step mid = .ok b') ↔ ∀ other ∈ rest, good other) := fun mid hmid =>
        ih (done ++ [item]) mid (by simp [hitems]) (hinv done item rest b mid hitems hdone hmid)
      simp only [List.foldlM_cons, bind_eq_ok_iff, List.forall_mem_cons]
      constructor
      · rintro ⟨b', mid, hmid, hend⟩
        exact ⟨hitem.mp ⟨mid, hmid⟩, (hrest mid hmid).mp ⟨b', hend⟩⟩
      · rintro ⟨hgood, hothers⟩
        obtain ⟨mid, hmid⟩ := hitem.mpr hgood
        obtain ⟨b', hend⟩ := (hrest mid hmid).mpr hothers
        exact ⟨b', mid, hmid, hend⟩

/-- Check every element in order. -/
def checkAll (check : α → Except ε Unit) : List α → Except ε Unit
  | [] => .ok ()
  | item :: rest => do
      check item
      checkAll check rest

@[simp] theorem checkAll_eq_ok {check : α → Except ε Unit} {items : List α} {u : Unit} :
    checkAll check items = .ok u ↔ ∀ item ∈ items, check item = .ok () := by
  induction items with
  | nil => simp [checkAll]
  | cons item items ih =>
      rw [checkAll, bind_eq_ok_iff]
      constructor
      · rintro ⟨⟨⟩, hitem, hrest⟩ other hother
        rcases List.mem_cons.mp hother with rfl | hmem
        · exact hitem
        · exact ih.mp hrest other hmem
      · intro h
        exact ⟨(), h item List.mem_cons_self, ih.mpr fun other hmem =>
          h other (List.mem_cons_of_mem _ hmem)⟩

/-! ## What a failure is like -/

/-- Every failure of a result is `good`. -/
def FailsWith (good : ε → Prop) (x : Except ε α) : Prop := ∀ e, x = .error e → good e

@[simp] theorem failsWith_ok {good : ε → Prop} {a : α} :
    FailsWith good (.ok a : Except ε α) := by
  intro e h
  contradiction

@[simp] theorem failsWith_error {good : ε → Prop} {e : ε} :
    FailsWith good (.error e : Except ε α) ↔ good e := by
  constructor
  · intro h
    exact h e rfl
  · intro hgood e' h
    rw [← Except.error.inj h]
    exact hgood

/-- A sequence fails in its first step or in its second. -/
theorem FailsWith.bind {good : ε → Prop} {x : Except ε α} {f : α → Except ε β}
    (hfirst : FailsWith good x) (hsecond : ∀ a, x = .ok a → FailsWith good (f a)) :
    FailsWith good (x >>= f) := by
  cases x with
  | error e => exact failsWith_error.mpr (failsWith_error.mp hfirst)
  | ok a => exact hsecond a rfl

theorem FailsWith.rejectIf {good : ε → Prop} {bad : Prop} [Decidable bad] {error : ε}
    (h : good error) : FailsWith good (rejectIf bad error) := by
  unfold Library.rejectIf
  split
  · exact failsWith_error.mpr h
  · exact failsWith_ok

theorem FailsWith.orReject {good : ε → Prop} {error : ε} {value : Option α} (h : good error) :
    FailsWith good (orReject error value) := by
  cases value with
  | none => exact failsWith_error.mpr h
  | some a => exact failsWith_ok

theorem FailsWith.mapFailure {δ : Type} {good : δ → Prop} {f : ε → δ} {x : Except ε α}
    (h : ∀ e, good (f e)) : FailsWith good (mapFailure f x) := by
  cases x with
  | error e => exact failsWith_error.mpr (h e)
  | ok a => exact failsWith_ok

end Library
end Benchplane
