import Benchplane.Library.FileTree

/-!
# Programs over a store that can fail

A program runs against a fault pattern that decides, for the n-th operation on
the store, whether it fails.  A failing operation leaves the store as it was.
The world keeps the history of all attempts, so a statement about every moment
of a run is one about its history.  A program also owns mutable locals `ρ`,
which no fault touches, and can end in a panic.

The second half is a program logic: `Triple` gives the postconditions of the
normal and of the failing end and excludes panics.
-/

namespace Benchplane
namespace Library

/-- One attempted operation and the store behind it. -/
structure Attempt (σ ℓ : Type) where
  label : ℓ
  succeeded : Bool
  after : σ

/-- The store, the number of clock readings and the attempts so far, the newest
first. -/
structure World (σ ℓ : Type) where
  store : σ
  clockReadings : Nat
  history : List (Attempt σ ℓ)

/-- The stores a program has been through: the one it has left, and the one behind each of
its attempts.  A program that is killed leaves one of them. -/
def World.Passed {σ ℓ : Type} (world : World σ ℓ) (store : σ) : Prop :=
  store = world.store ∨ ∃ attempt ∈ world.history, attempt.after = store

/-- How a program ends. -/
inductive Outcome (ε α : Type) where
  | ok (value : α)
  | error (failure : ε)
  | panic

/-- Whether a program ended normally. -/
def Outcome.isOk {ε α : Type} : Outcome ε α → Bool
  | .ok _ => true
  | .error _ | .panic => false

theorem Outcome.exists_of_isOk {ε α : Type} {outcome : Outcome ε α} (h : outcome.isOk = true) :
    ∃ value, outcome = .ok value := by
  cases outcome with
  | ok value => exact ⟨value, rfl⟩
  | error failure => simp [Outcome.isOk] at h
  | panic => simp [Outcome.isOk] at h

/-- The failures of the operations, by their place in the history. -/
abbrev Faults := Nat → Option IoError

/-- The end of a run with the world and the locals it leaves. -/
structure Ended (σ ℓ ρ ε α : Type) where
  outcome : Outcome ε α
  world : World σ ℓ
  locals : ρ

/-- A program over a store `σ` whose attempts carry labels `ℓ`. -/
def Program (σ ℓ ρ ε α : Type) :=
  Faults → World σ ℓ → ρ → Ended σ ℓ ρ ε α

namespace Program

variable {σ ℓ ρ ρ' ε ε' α β : Type}

/-- End normally. -/
def ok (value : α) : Program σ ℓ ρ ε α := fun _ world locals =>
  ⟨.ok value, world, locals⟩

/-- End with a failure. -/
def fail (failure : ε) : Program σ ℓ ρ ε α := fun _ world locals =>
  ⟨.error failure, world, locals⟩

/-- End in a panic. -/
def panic : Program σ ℓ ρ ε α := fun _ world locals =>
  ⟨.panic, world, locals⟩

/-- Run `p`, then `next` with its value. -/
def andThen (p : Program σ ℓ ρ ε α) (next : α → Program σ ℓ ρ ε β) : Program σ ℓ ρ ε β :=
  fun faults world locals =>
    let ended := p faults world locals
    match ended.outcome with
    | .ok value => next value faults ended.world ended.locals
    | .error failure => ⟨.error failure, ended.world, ended.locals⟩
    | .panic => ⟨.panic, ended.world, ended.locals⟩

instance : Monad (Program σ ℓ ρ ε) where
  pure := ok
  bind := andThen

/-- The result of a computation without effects. -/
def ofExcept : Except ε α → Program σ ℓ ρ ε α
  | .ok value => ok value
  | .error failure => fail failure

/-- Run `handler` where `p` fails. -/
def recover (p : Program σ ℓ ρ ε α) (handler : ε → Program σ ℓ ρ ε' α) :
    Program σ ℓ ρ ε' α :=
  fun faults world locals =>
    let ended := p faults world locals
    match ended.outcome with
    | .ok value => ⟨.ok value, ended.world, ended.locals⟩
    | .error failure => handler failure faults ended.world ended.locals
    | .panic => ⟨.panic, ended.world, ended.locals⟩

/-- Rewrite the failure. -/
def mapError (f : ε → ε') (p : Program σ ℓ ρ ε α) : Program σ ℓ ρ ε' α :=
  p.recover fun failure => fail (f failure)

/-- Run a program and go on whether it fails or not. -/
def ignore (p : Program σ ℓ ρ ε Unit) : Program σ ℓ ρ ε' Unit :=
  p.recover fun _ => ok ()

/-- Attempt an operation on the store. -/
def perform (label : ℓ) (failure : IoError → ε) (operation : σ → Except ε (α × σ)) :
    Program σ ℓ ρ ε α :=
  fun faults world locals =>
    let failed := { world with history := ⟨label, false, world.store⟩ :: world.history }
    match faults world.history.length with
    | some fault => ⟨.error (failure fault), failed, locals⟩
    | none =>
        match operation world.store with
        | .error e => ⟨.error e, failed, locals⟩
        | .ok (value, store) =>
            ⟨.ok value, { world with
                store := store, history := ⟨label, true, store⟩ :: world.history }, locals⟩

/-- Read the clock. -/
def now (clock : Nat → String) : Program σ ℓ ρ ε String := fun _ world locals =>
  ⟨.ok (clock world.clockReadings),
    { world with clockReadings := world.clockReadings + 1 }, locals⟩

/-- The locals. -/
def get : Program σ ℓ ρ ε ρ := fun _ world locals =>
  ⟨.ok locals, world, locals⟩

/-- Assign the locals. -/
def modify (f : ρ → ρ) : Program σ ℓ ρ ε Unit := fun _ world locals =>
  ⟨.ok (), world, f locals⟩

/-- Run a program with locals of its own. -/
def withLocals (initial : ρ) (p : Program σ ℓ ρ ε α) : Program σ ℓ ρ' ε α :=
  fun faults world locals =>
    let ended := p faults world initial
    ⟨ended.outcome, ended.world, locals⟩

/-- Run a program with locals of its own, and let `close` take over what is left of
them. -/
def nested (initial : ρ) (close : ρ → ρ' → ρ') (p : Program σ ℓ ρ ε α) : Program σ ℓ ρ' ε α :=
  fun faults world locals =>
    let ended := p faults world initial
    ⟨ended.outcome, ended.world, close ended.locals locals⟩

/-- The value of an option that is expected to have one. -/
def orPanic : Option α → Program σ ℓ ρ ε α
  | some value => ok value
  | none => panic

/-- Run `p` when `condition` holds. -/
def when (condition : Bool) (p : Program σ ℓ ρ ε Unit) : Program σ ℓ ρ ε Unit :=
  if condition then p else ok ()

/-- Run `body` for the elements of a list in order. -/
def forEach (items : List α) (body : α → Program σ ℓ ρ ε Unit) : Program σ ℓ ρ ε Unit :=
  match items with
  | [] => ok ()
  | item :: rest => andThen (body item) fun _ => forEach rest body

@[simp] theorem pure_eq_ok (value : α) : (pure value : Program σ ℓ ρ ε α) = ok value := rfl

@[simp] theorem bind_eq_andThen (p : Program σ ℓ ρ ε α) (next : α → Program σ ℓ ρ ε β) :
    p >>= next = p.andThen next := rfl

end Program

/-! ## Triples -/

/-- What the end of a run must satisfy. -/
def Ended.Meets {σ ℓ ρ ε α : Type} (ended : Ended σ ℓ ρ ε α)
    (post : α → World σ ℓ → ρ → Prop) (failed : ε → World σ ℓ → ρ → Prop) : Prop :=
  match ended.outcome with
  | .ok value => post value ended.world ended.locals
  | .error failure => failed failure ended.world ended.locals
  | .panic => False

theorem Ended.Meets.mono {σ ℓ ρ ε α : Type} {ended : Ended σ ℓ ρ ε α}
    {post post' : α → World σ ℓ → ρ → Prop} {failed failed' : ε → World σ ℓ → ρ → Prop}
    (h : ended.Meets post failed) (hpost : ∀ a w v, post a w v → post' a w v)
    (hfailed : ∀ e w v, failed e w v → failed' e w v) : ended.Meets post' failed' := by
  unfold Ended.Meets at h ⊢
  split at h
  · exact hpost _ _ _ h
  · exact hfailed _ _ _ h
  · exact h

/-- From a world and locals that satisfy `pre`, the program does not panic,
ends normally in `post` or fails in `failed`. -/
def Triple {σ ℓ ρ ε α : Type} (faults : Faults) (pre : World σ ℓ → ρ → Prop)
    (p : Program σ ℓ ρ ε α) (post : α → World σ ℓ → ρ → Prop)
    (failed : ε → World σ ℓ → ρ → Prop) : Prop :=
  ∀ world locals, pre world locals → (p faults world locals).Meets post failed

namespace Triple

variable {σ ℓ ρ ρ' ε ε' α β : Type} {faults : Faults}
  {pre pre' : World σ ℓ → ρ → Prop} {post post' : α → World σ ℓ → ρ → Prop}
  {failed failed' : ε → World σ ℓ → ρ → Prop}

theorem ok (value : α) :
    Triple faults (post value) (Program.ok value : Program σ ℓ ρ ε α) post failed :=
  fun _ _ h => h

theorem fail (failure : ε) :
    Triple faults (failed failure) (Program.fail failure : Program σ ℓ ρ ε α) post failed :=
  fun _ _ h => h

theorem conseq {p : Program σ ℓ ρ ε α} (h : Triple faults pre' p post' failed')
    (hpre : ∀ w v, pre w v → pre' w v)
    (hpost : ∀ a w v, post' a w v → post a w v)
    (hfailed : ∀ e w v, failed' e w v → failed e w v) :
    Triple faults pre p post failed :=
  fun world locals hp => (h world locals (hpre world locals hp)).mono hpost hfailed

theorem weaken {p : Program σ ℓ ρ ε α} (h : Triple faults pre' p post failed)
    (hpre : ∀ w v, pre w v → pre' w v) : Triple faults pre p post failed :=
  h.conseq hpre (fun _ _ _ h => h) (fun _ _ _ h => h)

theorem failing {p : Program σ ℓ ρ ε α} (h : Triple faults pre p post failed')
    (hfailed : ∀ e w v, failed' e w v → failed e w v) : Triple faults pre p post failed :=
  h.conseq (fun _ _ h => h) (fun _ _ _ h => h) hfailed

/-- A precondition with an unknown in it. -/
theorem «exists» {τ : Type} {pre : τ → World σ ℓ → ρ → Prop} {p : Program σ ℓ ρ ε α}
    (h : ∀ t, Triple faults (pre t) p post failed) :
    Triple faults (fun w v => ∃ t, pre t w v) p post failed :=
  fun world locals ⟨t, hpre⟩ => h t world locals hpre

/-- Two triples of one program hold together. -/
theorem and {p : Program σ ℓ ρ ε α} (h : Triple faults pre p post failed)
    (h' : Triple faults pre' p post' failed') :
    Triple faults (fun w v => pre w v ∧ pre' w v) p (fun a w v => post a w v ∧ post' a w v)
      (fun e w v => failed e w v ∧ failed' e w v) := by
  intro world locals hpre
  have hend := h world locals hpre.1
  have hend' := h' world locals hpre.2
  unfold Ended.Meets at hend hend' ⊢
  cases hout : (p faults world locals).outcome with
  | ok value =>
      simp only [hout] at hend hend' ⊢
      exact ⟨hend, hend'⟩
  | error failure =>
      simp only [hout] at hend hend' ⊢
      exact ⟨hend, hend'⟩
  | panic =>
      simp only [hout] at hend

theorem andThen {p : Program σ ℓ ρ ε α} {next : α → Program σ ℓ ρ ε β}
    {mid : α → World σ ℓ → ρ → Prop} {post : β → World σ ℓ → ρ → Prop}
    (hp : Triple faults pre p mid failed)
    (hnext : ∀ a, Triple faults (mid a) (next a) post failed) :
    Triple faults pre (p.andThen next) post failed := by
  intro world locals h
  have hend := hp world locals h
  unfold Program.andThen
  unfold Ended.Meets at hend
  split at hend
  · rename_i value hvalue
    simp only [hvalue]
    exact hnext value _ _ hend
  · rename_i failure hfailure
    simp only [hfailure]
    exact hend
  · exact hend.elim

/-- `andThen` with the assertion in the middle given first. -/
theorem via {p : Program σ ℓ ρ ε α} {next : α → Program σ ℓ ρ ε β}
    (mid : α → World σ ℓ → ρ → Prop) {post : β → World σ ℓ → ρ → Prop}
    (hp : Triple faults pre p mid failed)
    (hnext : ∀ a, Triple faults (mid a) (next a) post failed) :
    Triple faults pre (p.andThen next) post failed :=
  hp.andThen hnext

theorem recover {p : Program σ ℓ ρ ε α} {handler : ε → Program σ ℓ ρ ε' α}
    {mid : ε → World σ ℓ → ρ → Prop} {failed : ε' → World σ ℓ → ρ → Prop}
    (hp : Triple faults pre p post mid)
    (hhandler : ∀ e, Triple faults (mid e) (handler e) post failed) :
    Triple faults pre (p.recover handler) post failed := by
  intro world locals h
  have hend := hp world locals h
  unfold Program.recover
  unfold Ended.Meets at hend
  split at hend
  · rename_i value hvalue
    simp only [hvalue]
    exact hend
  · rename_i failure hfailure
    simp only [hfailure]
    exact hhandler failure _ _ hend
  · exact hend.elim

/-- `recover` for a program whose failure says nothing. -/
theorem recoverAny {p : Program σ ℓ ρ ε α} {handler : ε → Program σ ℓ ρ ε' α}
    {failed : ε' → World σ ℓ → ρ → Prop}
    (hp : Triple faults pre p post fun _ _ _ => True)
    (hhandler : ∀ e, Triple faults (fun _ _ => True) (handler e) post failed) :
    Triple faults pre (p.recover handler) post failed :=
  hp.recover hhandler

/-- `recover` for a program that does not fail. -/
theorem unfailing {p : Program σ ℓ ρ ε α} {handler : ε → Program σ ℓ ρ ε' α}
    {failed : ε' → World σ ℓ → ρ → Prop} (hp : Triple faults pre p post fun _ _ _ => False) :
    Triple faults pre (p.recover handler) post failed :=
  hp.recover fun _ _ _ hfalse => hfalse.elim

theorem mapError {f : ε → ε'} {p : Program σ ℓ ρ ε α} {failed : ε' → World σ ℓ → ρ → Prop}
    (hp : Triple faults pre p post fun e => failed (f e)) :
    Triple faults pre (p.mapError f) post failed :=
  hp.recover fun e => Triple.fail (f e)

theorem ignore {p : Program σ ℓ ρ ε Unit} {post : Unit → World σ ℓ → ρ → Prop}
    {failed : ε' → World σ ℓ → ρ → Prop}
    (hp : Triple faults pre p post fun _ => post ()) :
    Triple faults pre (p.ignore : Program σ ℓ ρ ε' Unit) post failed :=
  hp.recover fun _ => Triple.ok ()

theorem ofExcept {result : Except ε α}
    (hok : ∀ a, result = .ok a → ∀ w v, pre w v → post a w v)
    (herror : ∀ e, result = .error e → ∀ w v, pre w v → failed e w v) :
    Triple faults pre (Program.ofExcept result : Program σ ℓ ρ ε α) post failed := by
  intro world locals h
  cases result with
  | ok a => exact hok a rfl world locals h
  | error e => exact herror e rfl world locals h

theorem get {post : ρ → World σ ℓ → ρ → Prop} :
    Triple faults (fun w v => post v w v) (Program.get : Program σ ℓ ρ ε ρ) post failed :=
  fun _ _ h => h

/-- The value read is the current value of the variables. -/
theorem getValue :
    Triple faults pre (Program.get : Program σ ℓ ρ ε ρ) (fun a w v => v = a ∧ pre w v) failed :=
  fun _ _ h => ⟨rfl, h⟩

theorem modify {f : ρ → ρ} {post : Unit → World σ ℓ → ρ → Prop}
    (h : ∀ w v, pre w v → post () w (f v)) :
    Triple faults pre (Program.modify f : Program σ ℓ ρ ε Unit) post failed :=
  h

theorem withLocals {initial : ρ} {p : Program σ ℓ ρ ε α} {pre : World σ ℓ → ρ' → Prop}
    {post : α → World σ ℓ → ρ' → Prop} {failed : ε → World σ ℓ → ρ' → Prop}
    (h : ∀ v, Triple faults (fun w own => own = initial ∧ pre w v) p
      (fun a w _ => post a w v) (fun e w _ => failed e w v)) :
    Triple faults pre (Program.withLocals initial p : Program σ ℓ ρ' ε α) post failed := by
  intro world locals hpre
  have hend := h locals world initial ⟨rfl, hpre⟩
  unfold Program.withLocals
  unfold Ended.Meets at hend ⊢
  split at hend
  · rename_i value hvalue
    simp only [hvalue]
    exact hend
  · rename_i failure hfailure
    simp only [hfailure]
    exact hend
  · exact hend.elim

theorem nested {initial : ρ} {close : ρ → ρ' → ρ'} {p : Program σ ℓ ρ ε α}
    {pre : World σ ℓ → ρ' → Prop} {post : α → World σ ℓ → ρ' → Prop}
    {failed : ε → World σ ℓ → ρ' → Prop}
    (h : ∀ v, Triple faults (fun w own => own = initial ∧ pre w v) p
      (fun a w own => post a w (close own v)) (fun e w own => failed e w (close own v))) :
    Triple faults pre (Program.nested initial close p : Program σ ℓ ρ' ε α) post failed := by
  intro world locals hpre
  have hend := h locals world initial ⟨rfl, hpre⟩
  unfold Program.nested
  unfold Ended.Meets at hend ⊢
  split at hend
  · rename_i value hvalue
    simp only [hvalue]
    exact hend
  · rename_i failure hfailure
    simp only [hfailure]
    exact hend
  · exact hend.elim

/-- An option that is there does not panic. -/
theorem orPanic {value : Option α} (hvalue : value.isSome = true)
    (h : ∀ a, value = some a → ∀ w v, pre w v → post a w v) :
    Triple faults pre (Program.orPanic value : Program σ ℓ ρ ε α) post failed := by
  obtain ⟨a, rfl⟩ := Option.isSome_iff_exists.mp hvalue
  exact fun world locals hpre => h a rfl world locals hpre

/-- An operation either goes through on the store or leaves it as it was. -/
theorem perform {label : ℓ} {failure : IoError → ε} {operation : σ → Except ε (α × σ)}
    (hok : ∀ w v a store, pre w v → operation w.store = .ok (a, store) →
      post a { w with store := store, history := ⟨label, true, store⟩ :: w.history } v)
    (hfault : ∀ w v fault, pre w v →
      failed (failure fault) { w with history := ⟨label, false, w.store⟩ :: w.history } v)
    (herror : ∀ w v e, pre w v → operation w.store = .error e →
      failed e { w with history := ⟨label, false, w.store⟩ :: w.history } v) :
    Triple faults pre (Program.perform label failure operation : Program σ ℓ ρ ε α)
      post failed := by
  intro world locals h
  unfold Program.perform
  split
  · exact hfault world locals _ h
  · split
    · rename_i e hop
      exact herror world locals e h hop
    · rename_i value store hop
      exact hok world locals value store h hop

theorem when {condition : Bool} {p : Program σ ℓ ρ ε Unit} {post : Unit → World σ ℓ → ρ → Prop}
    (hrun : condition = true → Triple faults pre p post failed)
    (hskip : condition = false → ∀ w v, pre w v → post () w v) :
    Triple faults pre (Program.when condition p) post failed := by
  unfold Program.when
  split
  · rename_i h
    exact hrun h
  · rename_i h
    exact hskip (by simpa using h)

theorem now {clock : Nat → String} {post : String → World σ ℓ → ρ → Prop}
    (h : ∀ w v, pre w v →
      post (clock w.clockReadings) { w with clockReadings := w.clockReadings + 1 } v) :
    Triple faults pre (Program.now clock : Program σ ℓ ρ ε String) post failed :=
  h

/-- The loop rule: `inv` is indexed by the items already behind and still ahead. -/
theorem forEach {items : List α} {body : α → Program σ ℓ ρ ε Unit}
    (inv : List α → List α → World σ ℓ → ρ → Prop)
    (hbody : ∀ done item rest, items = done ++ item :: rest →
      Triple faults (inv done (item :: rest)) (body item)
        (fun _ => inv (done ++ [item]) rest) failed) :
    Triple faults (inv [] items) (Program.forEach items body) (fun _ => inv items []) failed := by
  suffices h : ∀ done rest, items = done ++ rest →
      Triple faults (inv done rest) (Program.forEach rest body) (fun _ => inv items []) failed from
    h [] items rfl
  intro done rest
  induction rest generalizing done with
  | nil =>
      intro hitems
      rw [List.append_nil] at hitems
      subst hitems
      exact fun world locals h => h
  | cons item rest ih =>
      intro hitems
      refine Triple.andThen (hbody done item rest hitems) fun _ => ?_
      exact ih (done ++ [item]) (by rw [hitems]; simp)

end Triple

/-! ## Invariants -/

/-- An invariant of the world and the locals that a program keeps whether it
ends normally or fails. -/
abbrev Keeps {σ ℓ ρ ε α : Type} (faults : Faults) (inv : World σ ℓ → ρ → Prop)
    (p : Program σ ℓ ρ ε α) : Prop :=
  Triple faults inv p (fun _ => inv) (fun _ => inv)

namespace Keeps

variable {σ ℓ ρ ρ' ε ε' α β : Type} {faults : Faults} {inv : World σ ℓ → ρ → Prop}

theorem ok (value : α) : Keeps faults inv (Program.ok value : Program σ ℓ ρ ε α) :=
  fun _ _ h => h

theorem fail (failure : ε) : Keeps faults inv (Program.fail failure : Program σ ℓ ρ ε α) :=
  fun _ _ h => h

theorem andThen {p : Program σ ℓ ρ ε α} {next : α → Program σ ℓ ρ ε β}
    (hp : Keeps faults inv p) (hnext : ∀ a, Keeps faults inv (next a)) :
    Keeps faults inv (p.andThen next) :=
  Triple.andThen hp hnext

theorem recover {p : Program σ ℓ ρ ε α} {handler : ε → Program σ ℓ ρ ε' α}
    (hp : Keeps faults inv p) (hhandler : ∀ e, Keeps faults inv (handler e)) :
    Keeps faults inv (p.recover handler) :=
  Triple.recover hp hhandler

theorem mapError {f : ε → ε'} {p : Program σ ℓ ρ ε α} (hp : Keeps faults inv p) :
    Keeps faults inv (p.mapError f) :=
  Triple.mapError hp

theorem ignore {p : Program σ ℓ ρ ε Unit} (hp : Keeps faults inv p) :
    Keeps faults inv (p.ignore : Program σ ℓ ρ ε' Unit) :=
  Triple.ignore hp

theorem ofExcept {result : Except ε α} :
    Keeps faults inv (Program.ofExcept result : Program σ ℓ ρ ε α) :=
  Triple.ofExcept (fun _ _ _ _ h => h) (fun _ _ _ _ h => h)

theorem get : Keeps faults inv (Program.get : Program σ ℓ ρ ε ρ) :=
  fun _ _ h => h

theorem modify {f : ρ → ρ} (h : ∀ w v, inv w v → inv w (f v)) :
    Keeps faults inv (Program.modify f : Program σ ℓ ρ ε Unit) :=
  h

theorem when {condition : Bool} {p : Program σ ℓ ρ ε Unit} (hp : Keeps faults inv p) :
    Keeps faults inv (Program.when condition p) :=
  Triple.when (fun _ => hp) fun _ _ _ h => h

theorem now {clock : Nat → String}
    (h : ∀ w v, inv w v → inv { w with clockReadings := w.clockReadings + 1 } v) :
    Keeps faults inv (Program.now clock : Program σ ℓ ρ ε String) :=
  h

theorem forEach {items : List α} {body : α → Program σ ℓ ρ ε Unit}
    (hbody : ∀ item ∈ items, Keeps faults inv (body item)) :
    Keeps faults inv (Program.forEach items body) := by
  refine Triple.forEach (fun _ _ => inv) fun done item rest hitems => ?_
  exact hbody item (by simp [hitems])

end Keeps

/-! ## The world alone

What a program does to the world, whatever its value is and even where it panics. -/

/-- From a world in `pre` the program ends in `post` when it ends normally, and else in
`stopped`. -/
def Leads {σ ℓ ρ ε α : Type} (faults : Faults) (pre : World σ ℓ → Prop)
    (p : Program σ ℓ ρ ε α) (post stopped : World σ ℓ → Prop) : Prop :=
  ∀ world locals, pre world →
    if (p faults world locals).outcome.isOk then post (p faults world locals).world
    else stopped (p faults world locals).world

/-- The condition holds behind the program, however it ends. -/
abbrev Maintains {σ ℓ ρ ε α : Type} (faults : Faults) (inv : World σ ℓ → Prop)
    (p : Program σ ℓ ρ ε α) : Prop :=
  Leads faults inv p inv inv

namespace Leads

variable {σ ℓ ρ ρ' ε ε' α β : Type} {faults : Faults}
  {pre mid post stopped : World σ ℓ → Prop}

/-- A condition that both ends establish holds of the world left. -/
theorem world {p : Program σ ℓ ρ ε α} (h : Leads faults pre p post stopped) {w : World σ ℓ}
    (hpre : pre w) (v : ρ) {inv : World σ ℓ → Prop} (hpost : ∀ w, post w → inv w)
    (hstopped : ∀ w, stopped w → inv w) : inv (p faults w v).world := by
  have hend := h w v hpre
  split at hend
  · exact hpost _ hend
  · exact hstopped _ hend

theorem conseq {p : Program σ ℓ ρ ε α} {pre' post' stopped' : World σ ℓ → Prop}
    (h : Leads faults pre' p post' stopped') (hpre : ∀ w, pre w → pre' w)
    (hpost : ∀ w, post' w → post w) (hstopped : ∀ w, stopped' w → stopped w) :
    Leads faults pre p post stopped := by
  intro w v hw
  have hend := h w v (hpre w hw)
  split at hend
  · rename_i hok
    rw [if_pos hok]
    exact hpost _ hend
  · rename_i hok
    rw [if_neg hok]
    exact hstopped _ hend

theorem ok (value : α) : Leads faults post (Program.ok value : Program σ ℓ ρ ε α) post stopped :=
  fun _ _ h => h

theorem fail (failure : ε) :
    Leads faults stopped (Program.fail failure : Program σ ℓ ρ ε α) post stopped :=
  fun _ _ h => h

theorem andThen {p : Program σ ℓ ρ ε α} {next : α → Program σ ℓ ρ ε β}
    (hp : Leads faults pre p mid stopped)
    (hnext : ∀ a, Leads faults mid (next a) post stopped) :
    Leads faults pre (p.andThen next) post stopped := by
  intro w v hw
  have hend := hp w v hw
  unfold Program.andThen
  cases hout : (p faults w v).outcome with
  | ok value =>
      simp only [hout, Outcome.isOk, if_true] at hend ⊢
      exact hnext value _ _ hend
  | error failure => simpa [hout, Outcome.isOk] using hend
  | panic => simpa [hout, Outcome.isOk] using hend

/-- The handler starts where the program stopped, unless that was a panic. -/
theorem recover {p : Program σ ℓ ρ ε α} {handler : ε → Program σ ℓ ρ ε' α}
    (hp : Leads faults pre p post stopped)
    (hhandler : ∀ e, Leads faults stopped (handler e) post stopped) :
    Leads faults pre (p.recover handler) post stopped := by
  intro w v hw
  have hend := hp w v hw
  unfold Program.recover
  cases hout : (p faults w v).outcome with
  | ok value => simpa [hout, Outcome.isOk] using hend
  | error failure =>
      simp only [hout, Outcome.isOk, Bool.false_eq_true, if_false] at hend ⊢
      exact hhandler failure _ _ hend
  | panic => simpa [hout, Outcome.isOk] using hend

theorem mapError {f : ε → ε'} {p : Program σ ℓ ρ ε α} (hp : Leads faults pre p post stopped) :
    Leads faults pre (p.mapError f) post stopped :=
  hp.recover fun e => Leads.fail (f e)

theorem nested {initial : ρ} {close : ρ → ρ' → ρ'} {p : Program σ ℓ ρ ε α}
    (hp : Leads faults pre p post stopped) :
    Leads faults pre (Program.nested initial close p : Program σ ℓ ρ' ε α) post stopped :=
  fun w _ hw => hp w initial hw

theorem perform {label : ℓ} {failure : IoError → ε} {operation : σ → Except ε (α × σ)}
    (hok : ∀ w a store, pre w → operation w.store = .ok (a, store) →
      post { w with store := store, history := ⟨label, true, store⟩ :: w.history })
    (hrefused : ∀ w, pre w →
      stopped { w with history := ⟨label, false, w.store⟩ :: w.history }) :
    Leads faults pre (Program.perform label failure operation : Program σ ℓ ρ ε α) post
      stopped := by
  intro w v hw
  unfold Program.perform
  split
  · exact hrefused w hw
  · split
    · exact hrefused w hw
    · rename_i value store hop
      exact hok w value store hw hop

theorem ofExcept {result : Except ε α} (hstopped : ∀ w, post w → stopped w) :
    Leads faults post (Program.ofExcept result : Program σ ℓ ρ ε α) post stopped := by
  intro w v hw
  cases result with
  | ok a => exact hw
  | error e => exact hstopped w hw

theorem orPanic {value : Option α} (hstopped : ∀ w, post w → stopped w) :
    Leads faults post (Program.orPanic value : Program σ ℓ ρ ε α) post stopped := by
  intro w v hw
  cases value with
  | none => exact hstopped w hw
  | some a => exact hw

theorem get : Leads faults post (Program.get : Program σ ℓ ρ ε ρ) post stopped :=
  fun _ _ h => h

theorem modify {f : ρ → ρ} :
    Leads faults post (Program.modify f : Program σ ℓ ρ ε Unit) post stopped :=
  fun _ _ h => h

theorem now {clock : Nat → String}
    (h : ∀ w, pre w → post { w with clockReadings := w.clockReadings + 1 }) :
    Leads faults pre (Program.now clock : Program σ ℓ ρ ε String) post stopped :=
  fun w _ hw => h w hw

theorem when {condition : Bool} {p : Program σ ℓ ρ ε Unit}
    (hp : Leads faults post p post stopped) :
    Leads faults post (Program.when condition p) post stopped := by
  unfold Program.when
  split
  · exact hp
  · exact Leads.ok ()

theorem forEach {items : List α} {body : α → Program σ ℓ ρ ε Unit}
    (hbody : ∀ item ∈ items, Leads faults post (body item) post stopped) :
    Leads faults post (Program.forEach items body) post stopped := by
  induction items with
  | nil => exact Leads.ok ()
  | cons item rest ih =>
      apply Leads.andThen (hbody item List.mem_cons_self)
      intro _
      exact ih fun other hother => hbody other (List.mem_cons_of_mem _ hother)

end Leads

/-! ## Results and failures alone -/

/-- Every result of a program is a good one, whatever fails and wherever it starts. -/
def Gives {σ ℓ ρ ε α : Type} (p : Program σ ℓ ρ ε α) (good : α → Prop) : Prop :=
  ∀ faults world locals a, (p faults world locals).outcome = .ok a → good a

namespace Gives

variable {σ ℓ ρ ρ' ε ε' α β : Type} {good : β → Prop}

theorem ok {value : β} (h : good value) : Gives (Program.ok value : Program σ ℓ ρ ε β) good := by
  intro faults world locals a ha
  have hsame : value = a := Outcome.ok.inj ha
  exact hsame ▸ h

theorem fail (failure : ε) : Gives (Program.fail failure : Program σ ℓ ρ ε β) good := by
  intro faults world locals a ha
  contradiction

/-- A sequence gives what its second part does. -/
theorem andThen {p : Program σ ℓ ρ ε α} {next : α → Program σ ℓ ρ ε β}
    (h : ∀ a, Gives (next a) good) : Gives (p.andThen next) good := by
  intro faults world locals b hb
  unfold Program.andThen at hb
  cases hfirst : (p faults world locals).outcome with
  | ok value =>
      simp only [hfirst] at hb
      exact h value _ _ _ b hb
  | error failure =>
      simp only [hfirst] at hb
      contradiction
  | panic =>
      simp only [hfirst] at hb
      contradiction

/-- The value of a computation without effects is known to what follows it. -/
theorem ofExcept {result : Except ε α} {next : α → Program σ ℓ ρ ε β}
    (h : ∀ a, result = .ok a → Gives (next a) good) :
    Gives ((Program.ofExcept result).andThen next) good := by
  cases result with
  | ok value => exact h value rfl
  | error failure => exact fail failure

theorem recover {p : Program σ ℓ ρ ε β} {handler : ε → Program σ ℓ ρ ε' β} (hp : Gives p good)
    (hhandler : ∀ failure, Gives (handler failure) good) : Gives (p.recover handler) good := by
  intro faults world locals b hb
  unfold Program.recover at hb
  cases hfirst : (p faults world locals).outcome with
  | ok value =>
      simp only [hfirst] at hb
      exact hp _ _ _ b (hfirst.trans (congrArg Outcome.ok (Outcome.ok.inj hb)))
  | error failure =>
      simp only [hfirst] at hb
      exact hhandler failure _ _ _ b hb
  | panic =>
      simp only [hfirst] at hb
      contradiction

theorem nested {initial : ρ} {close : ρ → ρ' → ρ'} {p : Program σ ℓ ρ ε β} (hp : Gives p good) :
    Gives (p.nested initial close) good :=
  fun faults world _ b hb => hp faults world initial b hb

end Gives

/-- Every failure of a program is of one kind, whatever fails and wherever it starts. -/
def Raises {σ ℓ ρ ε α : Type} (p : Program σ ℓ ρ ε α) (kind : ε → Prop) : Prop :=
  ∀ faults world locals e, (p faults world locals).outcome = .error e → kind e

namespace Raises

variable {σ ℓ ρ ρ' ε ε' α β : Type} {kind : ε → Prop}

theorem ok (value : α) : Raises (Program.ok value : Program σ ℓ ρ ε α) kind := by
  intro faults world locals e he
  contradiction

theorem fail {failure : ε} (h : kind failure) :
    Raises (Program.fail failure : Program σ ℓ ρ ε α) kind := by
  intro faults world locals e he
  have hsame : failure = e := Outcome.error.inj he
  exact hsame ▸ h

theorem perform {label : ℓ} {failure : IoError → ε} {operation : σ → Except ε (α × σ)}
    (hfailure : ∀ cause, kind (failure cause))
    (hoperation : ∀ store e, operation store = .error e → kind e) :
    Raises (Program.perform label failure operation : Program σ ℓ ρ ε α) kind := by
  intro faults world locals e he
  unfold Program.perform at he
  split at he
  · exact Outcome.error.inj he ▸ hfailure _
  · split at he
    · rename_i failed hop
      exact Outcome.error.inj he ▸ hoperation _ _ hop
    · contradiction

theorem andThen {p : Program σ ℓ ρ ε α} {next : α → Program σ ℓ ρ ε β} (hp : Raises p kind)
    (hnext : ∀ a, Raises (next a) kind) : Raises (p.andThen next) kind := by
  intro faults world locals e he
  unfold Program.andThen at he
  cases hfirst : (p faults world locals).outcome with
  | ok value =>
      simp only [hfirst] at he
      exact hnext value _ _ _ e he
  | error failure =>
      simp only [hfirst] at he
      exact Outcome.error.inj he ▸ hp _ _ _ failure hfirst
  | panic =>
      simp only [hfirst] at he
      contradiction

theorem forEach {items : List α} {body : α → Program σ ℓ ρ ε Unit}
    (hbody : ∀ item ∈ items, Raises (body item) kind) :
    Raises (Program.forEach items body) kind := by
  induction items with
  | nil => exact ok ()
  | cons item rest ih =>
      apply andThen (hbody item List.mem_cons_self)
      intro _
      exact ih fun other hother => hbody other (List.mem_cons_of_mem _ hother)

/-- Behind a handler only the handler fails. -/
theorem recover {p : Program σ ℓ ρ ε' α} {handler : ε' → Program σ ℓ ρ ε α}
    (hhandler : ∀ failure, Raises (handler failure) kind) : Raises (p.recover handler) kind := by
  intro faults world locals e he
  unfold Program.recover at he
  cases hfirst : (p faults world locals).outcome with
  | ok value =>
      simp only [hfirst] at he
      contradiction
  | error failure =>
      simp only [hfirst] at he
      exact hhandler failure _ _ _ e he
  | panic =>
      simp only [hfirst] at he
      contradiction

/-- A program that cannot fail. -/
theorem of_unfailing {p : Program σ ℓ ρ ε α} {post : α → World σ ℓ → ρ → Prop}
    (h : ∀ faults, Triple faults (fun _ _ => True) p post fun _ _ _ => False) :
    Raises p kind := by
  intro faults world locals e he
  have hend := h faults world locals trivial
  unfold Ended.Meets at hend
  rw [he] at hend
  contradiction

end Raises

/-- From a world in `pre` a program that fails leaves the world as its failure says. -/
def Fails {σ ℓ ρ ε α : Type} (faults : Faults) (pre : World σ ℓ → Prop)
    (p : Program σ ℓ ρ ε α) (stopped : ε → World σ ℓ → Prop) : Prop :=
  ∀ world locals e, pre world → (p faults world locals).outcome = .error e →
    stopped e (p faults world locals).world

namespace Fails

variable {σ ℓ ρ ρ' ε α β : Type} {faults : Faults} {pre mid post after : World σ ℓ → Prop}
  {stopped : ε → World σ ℓ → Prop} {kind : ε → Prop}

theorem of_leads {p : Program σ ℓ ρ ε α} (hp : Leads faults pre p post after)
    (hkind : Raises p kind) (hstopped : ∀ e w, kind e → after w → stopped e w) :
    Fails faults pre p stopped := by
  intro world locals e hpre he
  have hend := hp world locals hpre
  rw [he] at hend
  exact hstopped e _ (hkind _ _ _ e he) hend

/-- The second part starts where the first one leads. -/
theorem andThen {p : Program σ ℓ ρ ε α} {next : α → Program σ ℓ ρ ε β}
    (hp : Fails faults pre p stopped) (hleads : Leads faults pre p mid after)
    (hnext : ∀ a, Fails faults mid (next a) stopped) :
    Fails faults pre (p.andThen next) stopped := by
  intro world locals e hpre he
  have hmid := hleads world locals hpre
  unfold Program.andThen at he ⊢
  cases hfirst : (p faults world locals).outcome with
  | ok value =>
      simp only [hfirst, Outcome.isOk, if_true] at he hmid ⊢
      exact hnext value _ _ e hmid he
  | error failure =>
      simp only [hfirst] at he ⊢
      exact Outcome.error.inj he ▸ hp world locals failure hpre hfirst
  | panic =>
      simp only [hfirst] at he
      contradiction

theorem nested {initial : ρ} {close : ρ → ρ' → ρ'} {p : Program σ ℓ ρ ε α}
    (hp : Fails faults pre p stopped) :
    Fails faults pre (p.nested initial close) stopped :=
  fun world _ e hpre he => hp world initial e hpre he

theorem now {clock : Nat → String} :
    Fails faults pre (Program.now clock : Program σ ℓ ρ ε String) stopped := by
  intro world locals e hpre he
  contradiction

end Fails

/-! ## Moments

A moment of a run is a tail of its history: the attempt made last and those before
it. -/

/-- `P` holds of the store and the past at every moment. -/
def Throughout {σ ℓ : Type} (P : σ → List (Attempt σ ℓ) → Prop) (history : List (Attempt σ ℓ)) :
    Prop :=
  ∀ attempt older, attempt :: older <:+ history → P attempt.after (attempt :: older)

namespace Throughout

variable {σ ℓ : Type} {P : σ → List (Attempt σ ℓ) → Prop} {history : List (Attempt σ ℓ)}

theorem nil : Throughout P [] := by
  intro attempt older h
  simp at h

/-- One more attempt adds one moment. -/
theorem cons {attempt : Attempt σ ℓ} (h : Throughout P history)
    (hnow : P attempt.after (attempt :: history)) : Throughout P (attempt :: history) := by
  intro other older hsuffix
  rcases List.suffix_cons_iff.mp hsuffix with hsame | hbefore
  · obtain ⟨rfl, rfl⟩ := List.cons.inj hsame
    exact hnow
  · exact h other older hbefore

/-- What holds throughout holds at the last moment. -/
theorem last (h : Throughout P history) (hne : history ≠ []) :
    P (history.head hne).after history := by
  cases history with
  | nil => exact absurd rfl hne
  | cons attempt older => exact h attempt older List.suffix_rfl

end Throughout

end Library
end Benchplane
