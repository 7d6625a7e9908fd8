import Benchplane.Library.FaultyProgram

/-!
# Programs in lockstep

Two programs, each on a world and under faults of its own, that agree wherever both end
normally.  Nothing is said of the rest: a fault may stop one of them and not the other.
-/

namespace Benchplane
namespace Library

/-- A sequence that ends normally has gone through its first part. -/
theorem Program.exists_of_andThen {σ ℓ ρ ε α β : Type} {faults : Faults} {p : Program σ ℓ ρ ε α}
    {next : α → Program σ ℓ ρ ε β} {w : World σ ℓ} {v : ρ} {b : β}
    (h : (p.andThen next faults w v).outcome = .ok b) :
    ∃ a, (p faults w v).outcome = .ok a ∧
      p.andThen next faults w v = next a faults (p faults w v).world (p faults w v).locals := by
  unfold Program.andThen at h ⊢
  cases hout : (p faults w v).outcome with
  | ok a => exact ⟨a, rfl, by simp only [hout]⟩
  | error failure =>
      simp only [hout] at h
      contradiction
  | panic =>
      simp only [hout] at h
      contradiction

/-- Where the handler never ends normally, only the program itself does. -/
theorem Program.recover_eq_of_ok {σ ℓ ρ ε ε' α : Type} {faults : Faults}
    {p : Program σ ℓ ρ ε α} {handler : ε → Program σ ℓ ρ ε' α} {w : World σ ℓ} {v : ρ} {a : α}
    (hfails : ∀ e w v a, (handler e faults w v).outcome ≠ .ok a)
    (h : (p.recover handler faults w v).outcome = .ok a) :
    (p faults w v).outcome = .ok a ∧
      (p.recover handler faults w v).world = (p faults w v).world ∧
      (p.recover handler faults w v).locals = (p faults w v).locals := by
  unfold Program.recover at h ⊢
  cases hout : (p faults w v).outcome with
  | ok value =>
      simp only [hout] at h ⊢
      exact ⟨congrArg Outcome.ok (Outcome.ok.inj h), trivial, trivial⟩
  | error failure =>
      simp only [hout] at h
      exact absurd h (hfails _ _ _ _)
  | panic =>
      simp only [hout] at h
      contradiction

/-- An operation that goes through was allowed, and no fault was at its place. -/
theorem Program.exists_of_perform {σ ℓ ρ ε α : Type} {faults : Faults} {label : ℓ}
    {failure : IoError → ε} {operation : σ → Except ε (α × σ)} {w : World σ ℓ} {v : ρ} {a : α}
    (h : (Program.perform label failure operation faults w v).outcome = .ok a) :
    ∃ store, operation w.store = .ok (a, store) ∧
      Program.perform label failure operation faults w v = ⟨.ok a,
        { w with store := store, history := ⟨label, true, store⟩ :: w.history }, v⟩ := by
  unfold Program.perform at h ⊢
  cases hfault : faults w.history.length with
  | some fault =>
      simp only [hfault] at h
      contradiction
  | none =>
      cases hop : operation w.store with
      | error e =>
          simp only [hfault, hop] at h
          contradiction
      | ok result =>
          simp only [hfault, hop] at h
          obtain rfl := Outcome.ok.inj h
          exact ⟨result.2, rfl, by simp only⟩

/-- Where both programs end normally, from related worlds and with the same locals, they give
the same value, have the same locals and leave related worlds. -/
def Lockstep {σ ℓ ρ ε α : Type} (faults faults' : Faults) (pre : World σ ℓ → World σ ℓ → Prop)
    (p p' : Program σ ℓ ρ ε α) (post : World σ ℓ → World σ ℓ → Prop) : Prop :=
  ∀ w w' v a a', pre w w' → (p faults w v).outcome = .ok a → (p' faults' w' v).outcome = .ok a' →
    a = a' ∧ (p faults w v).locals = (p' faults' w' v).locals ∧
      post (p faults w v).world (p' faults' w' v).world

namespace Lockstep

variable {σ ℓ ρ ρ' ε ε' α β : Type} {faults faults' : Faults}
  {pre mid post : World σ ℓ → World σ ℓ → Prop}

theorem ok (value : α) :
    Lockstep faults faults' post (Program.ok value : Program σ ℓ ρ ε α) (Program.ok value) post := by
  intro w w' v a a' h hout hout'
  have hvalue : value = a := Outcome.ok.inj hout
  have hvalue' : value = a' := Outcome.ok.inj hout'
  exact ⟨hvalue.symm.trans hvalue', rfl, h⟩

/-- A program that fails is in lockstep with every other. -/
theorem fail (failure : ε) (p' : Program σ ℓ ρ ε α) :
    Lockstep faults faults' pre (Program.fail failure) p' post := by
  intro w w' v a a' h hout
  contradiction

theorem andThen {p p' : Program σ ℓ ρ ε α} {next next' : α → Program σ ℓ ρ ε β}
    (hp : Lockstep faults faults' pre p p' mid)
    (hnext : ∀ a, Lockstep faults faults' mid (next a) (next' a) post) :
    Lockstep faults faults' pre (p.andThen next) (p'.andThen next') post := by
  intro w w' v b b' hpre hout hout'
  obtain ⟨a, ha, hrest⟩ := Program.exists_of_andThen hout
  obtain ⟨a', ha', hrest'⟩ := Program.exists_of_andThen hout'
  obtain ⟨rfl, hlocals, hmid⟩ := hp w w' v a a' hpre ha ha'
  rw [hrest] at hout ⊢
  rw [hrest', ← hlocals] at hout' ⊢
  exact hnext a _ _ _ b b' hmid hout hout'

/-- What a failing part is rewritten to does not matter. -/
theorem recover {p p' : Program σ ℓ ρ ε α} {handler handler' : ε → Program σ ℓ ρ ε' α}
    (hp : Lockstep faults faults' pre p p' post)
    (hfails : ∀ e w v a, (handler e faults w v).outcome ≠ .ok a)
    (hfails' : ∀ e w v a, (handler' e faults' w v).outcome ≠ .ok a) :
    Lockstep faults faults' pre (p.recover handler) (p'.recover handler') post := by
  intro w w' v a a' hpre hout hout'
  obtain ⟨hvalue, hworld, hlocals⟩ := Program.recover_eq_of_ok hfails hout
  obtain ⟨hvalue', hworld', hlocals'⟩ := Program.recover_eq_of_ok hfails' hout'
  rw [hworld, hlocals, hworld', hlocals']
  exact hp w w' v a a' hpre hvalue hvalue'

theorem mapError {f : ε → ε'} {p p' : Program σ ℓ ρ ε α}
    (hp : Lockstep faults faults' pre p p' post) :
    Lockstep faults faults' pre (p.mapError f) (p'.mapError f) post := by
  apply hp.recover
  · intro e w v a h
    contradiction
  · intro e w v a h
    contradiction

theorem nested {initial : ρ} {close : ρ → ρ' → ρ'} {p p' : Program σ ℓ ρ ε α}
    (hp : Lockstep faults faults' pre p p' post) :
    Lockstep faults faults' pre (Program.nested initial close p : Program σ ℓ ρ' ε α)
      (Program.nested initial close p') post := by
  intro w w' v a a' hpre hout hout'
  obtain ⟨hvalue, hlocals, hpost⟩ := hp w w' initial a a' hpre hout hout'
  exact ⟨hvalue, congrArg (close · v) hlocals, hpost⟩

theorem withLocals {initial : ρ} {p p' : Program σ ℓ ρ ε α}
    (hp : Lockstep faults faults' pre p p' post) :
    Lockstep faults faults' pre (Program.withLocals initial p : Program σ ℓ ρ' ε α)
      (Program.withLocals initial p') post := by
  intro w w' v a a' hpre hout hout'
  obtain ⟨hvalue, -, hpost⟩ := hp w w' initial a a' hpre hout hout'
  exact ⟨hvalue, rfl, hpost⟩

/-- An operation that both worlds allow. -/
theorem perform {label label' : ℓ} {failure failure' : IoError → ε}
    {operation operation' : σ → Except ε (α × σ)}
    (h : ∀ w w' a a' store store', pre w w' → operation w.store = .ok (a, store) →
      operation' w'.store = .ok (a', store') →
      a = a' ∧ post { w with store := store, history := ⟨label, true, store⟩ :: w.history }
        { w' with store := store', history := ⟨label', true, store'⟩ :: w'.history }) :
    Lockstep faults faults' pre (Program.perform label failure operation : Program σ ℓ ρ ε α)
      (Program.perform label' failure' operation') post := by
  intro w w' v a a' hpre hout hout'
  obtain ⟨store, hop, hend⟩ := Program.exists_of_perform hout
  obtain ⟨store', hop', hend'⟩ := Program.exists_of_perform hout'
  obtain ⟨hvalue, hpost⟩ := h w w' a a' store store' hpre hop hop'
  rw [hend, hend']
  exact ⟨hvalue, rfl, hpost⟩

theorem now {clock : Nat → String}
    (h : ∀ w w', pre w w' → w.clockReadings = w'.clockReadings ∧
      post { w with clockReadings := w.clockReadings + 1 }
        { w' with clockReadings := w'.clockReadings + 1 }) :
    Lockstep faults faults' pre (Program.now clock : Program σ ℓ ρ ε String) (Program.now clock)
      post := by
  intro w w' v a a' hpre hout hout'
  obtain ⟨hreadings, hpost⟩ := h w w' hpre
  have hvalue : clock w.clockReadings = a := Outcome.ok.inj hout
  have hvalue' : clock w'.clockReadings = a' := Outcome.ok.inj hout'
  rw [← hvalue, ← hvalue', hreadings]
  exact ⟨rfl, rfl, hpost⟩

theorem get : Lockstep faults faults' post (Program.get : Program σ ℓ ρ ε ρ) Program.get post := by
  intro w w' v a a' h hout hout'
  have hvalue : v = a := Outcome.ok.inj hout
  have hvalue' : v = a' := Outcome.ok.inj hout'
  exact ⟨hvalue.symm.trans hvalue', rfl, h⟩

theorem modify {f : ρ → ρ} :
    Lockstep faults faults' post (Program.modify f : Program σ ℓ ρ ε Unit) (Program.modify f)
      post :=
  fun _ _ _ _ _ h _ _ => ⟨rfl, rfl, h⟩

theorem ofExcept {result : Except ε α} :
    Lockstep faults faults' post (Program.ofExcept result : Program σ ℓ ρ ε α)
      (Program.ofExcept result) post := by
  cases result with
  | ok value => exact Lockstep.ok value
  | error failure => exact Lockstep.fail failure _

theorem orPanic {value : Option α} :
    Lockstep faults faults' post (Program.orPanic value : Program σ ℓ ρ ε α)
      (Program.orPanic value) post := by
  cases value with
  | some value => exact Lockstep.ok value
  | none =>
      intro w w' v a a' h hout
      contradiction

theorem when {condition : Bool} {p p' : Program σ ℓ ρ ε Unit}
    (hp : Lockstep faults faults' post p p' post) :
    Lockstep faults faults' post (Program.when condition p) (Program.when condition p') post := by
  cases condition with
  | true => exact hp
  | false => exact Lockstep.ok ()

theorem forEach {items : List α} {body body' : α → Program σ ℓ ρ ε Unit}
    (hbody : ∀ item ∈ items, Lockstep faults faults' post (body item) (body' item) post) :
    Lockstep faults faults' post (Program.forEach items body) (Program.forEach items body')
      post := by
  induction items with
  | nil => exact Lockstep.ok ()
  | cons item rest ih =>
      apply Lockstep.andThen (hbody item List.mem_cons_self)
      intro _
      exact ih fun other hother => hbody other (List.mem_cons_of_mem _ hother)

end Lockstep

end Library
end Benchplane
