/-
  Computations over a state that may fail.

  An action takes a state and gives an outcome together with the next state.  A failure does not
  undo what was done before it: the state that goes with it is the one reached.  Actions are
  chained with the usual notation; this file adds the few ways of combining them that the library
  needs.

  `runOn` is the view of an action.  The lemmas below say for each combination what its run is in
  terms of the runs of its parts, so that statements about runs never open an action up.  `InStep`
  compares two actions, over states that may be of different kinds: from related states they come
  to the same outcome and to related states.  `Keeps` says that no run of an action breaks an
  invariant.  Both combine in the same way, and an action keeps an invariant if it is in step with
  itself on the states that have it (`keeps_iff_inStep`).

  `Atomic` says that a run that fails has changed nothing.  As actions keep what they did before
  they failed, this is a matter of their order: an action is atomic if all that may fail comes
  before the first change (`Atomic.bind`, `Atomic.of_succeeds`).  Only then does its step, which
  forgets the state behind a failure, tell the whole run (`Atomic.runOn_eq`).
-/

namespace DocStore

/-- A computation over states `σ` that gives an `α` or fails with an `ε`. -/
abbrev Action (σ ε α : Type) := ExceptT ε (StateM σ) α

namespace Action

variable {σ τ ε ε' α β : Type}

/-- The action with this effect. -/
def of (effect : σ → Except ε α × σ) : Action σ ε α := effect

/-- The outcome of an action on a state, and the next state. -/
def runOn (action : Action σ ε α) (s : σ) : Except ε α × σ := action s

/-- What an action comes to on a state if what it leaves behind a failure does not count: a result
    with the next state, or an error. -/
def stepOn (action : Action σ ε α) (s : σ) : Except ε (α × σ) :=
  match action.runOn s with
  | (.ok a, t) => .ok (a, t)
  | (.error e, _) => .error e

/-- Gives the outcome, failure included, as a result. -/
def attempt (action : Action σ ε α) : Action σ ε' (Except ε α) :=
  of fun s => let (outcome, t) := action.runOn s; (.ok outcome, t)

/-- Reports failures in other terms. -/
def mapError (f : ε → ε') (action : Action σ ε α) : Action σ ε' α :=
  of fun s => let (outcome, t) := action.runOn s; (outcome.mapError f, t)

/-- Succeeds or fails without touching the state. -/
def ofExcept (outcome : Except ε α) : Action σ ε α :=
  of fun s => (outcome, s)

/-- Acts on a part of a larger state. -/
def onPart (get : τ → σ) (set : σ → τ → τ) (action : Action σ ε α) : Action τ ε α :=
  of fun t => let (outcome, s) := action.runOn (get t); (outcome, set s t)

/-- Acts on one element after another; the first failure ends it. -/
def each (f : α → Action σ ε β) : List α → Action σ ε (List β)
  | [] => pure []
  | x :: rest => do return (← f x) :: (← each f rest)

/-! ## What a run is

  One equation for each of the usual ways to build an action.  Proofs about programs run them with
  these equations from the front to the back, and do not look at how `Action` is made. -/

@[simp] theorem runOn_pure (a : α) (s : σ) :
    (pure a : Action σ ε α).runOn s = (.ok a, s) := rfl

@[simp] theorem runOn_get (s : σ) : (get : Action σ ε σ).runOn s = (.ok s, s) := rfl

/-- What comes second runs on the state that the first part reached, and not at all behind a
    failure; that state is kept either way. -/
theorem runOn_bind (x : Action σ ε α) (f : α → Action σ ε β) (s : σ) :
    (x >>= f).runOn s = match x.runOn s with
      | (.ok a, t) => (f a).runOn t
      | (.error e, t) => (.error e, t) := by
  show (match x s with | (r, t) => ExceptT.bindCont f r t) = _
  rcases h : x s with ⟨_ | _, t⟩ <;> simp only [runOn, h] <;> rfl

/-- Behind a success the rest runs on the state reached. -/
theorem runOn_bind_ok {x : Action σ ε α} {s t : σ} {a : α} (f : α → Action σ ε β)
    (h : x.runOn s = (.ok a, t)) : (x >>= f).runOn s = (f a).runOn t := by
  rw [runOn_bind, h]

/-- Behind a failure nothing runs. -/
theorem runOn_bind_error {x : Action σ ε α} {s t : σ} {e : ε} (f : α → Action σ ε β)
    (h : x.runOn s = (.error e, t)) : (x >>= f).runOn s = (.error e, t) := by
  rw [runOn_bind, h]

/-- What only changes the result changes nothing else of a run. -/
theorem runOn_bind_pure (x : Action σ ε α) (f : α → β) (s : σ) :
    (x >>= fun a => pure (f a) : Action σ ε β).runOn s =
      ((x.runOn s).1.map f, (x.runOn s).2) := by
  rw [runOn_bind]
  rcases x.runOn s with ⟨_ | _, t⟩ <;> rfl

@[simp] theorem runOn_ofExcept (outcome : Except ε α) (s : σ) :
    (ofExcept outcome : Action σ ε α).runOn s = (outcome, s) := rfl

/-- An attempt never fails, and it undoes nothing of what was attempted. -/
@[simp] theorem runOn_attempt (x : Action σ ε α) (s : σ) :
    (x.attempt : Action σ ε' _).runOn s = (.ok (x.runOn s).1, (x.runOn s).2) := rfl

/-- Behind an attempt the rest runs on the outcome, whatever it is. -/
theorem runOn_bind_attempt {x : Action σ ε α} {s t : σ} {outcome : Except ε α}
    (f : Except ε α → Action σ ε' β) (h : x.runOn s = (outcome, t)) :
    (x.attempt >>= f).runOn s = (f outcome).runOn t := by
  rw [runOn_bind, runOn_attempt, h]

@[simp] theorem runOn_mapError (f : ε → ε') (x : Action σ ε α) (s : σ) :
    (x.mapError f).runOn s = ((x.runOn s).1.mapError f, (x.runOn s).2) := rfl

/-- Items may be handled in two goes: a failure in the first one leaves the second one out. -/
theorem each_append (f : α → Action σ ε β) (items rest : List α) :
    each f (items ++ rest) = (do
      let results ← each f items
      let more ← each f rest
      return results ++ more) := by
  induction items with
  | nil => simp [each]
  | cons item items ih => simp [each, ih]

/-- A chain succeeds when both of its parts do. -/
theorem runOn_bind_eq_ok_iff {x : Action σ ε α} {f : α → Action σ ε β} {s t : σ} {b : β} :
    (x >>= f).runOn s = (.ok b, t) ↔
      ∃ a u, x.runOn s = (.ok a, u) ∧ (f a).runOn u = (.ok b, t) := by
  rw [runOn_bind]
  rcases hx : x.runOn s with ⟨_ | a, u⟩
  · constructor
    · intro h
      cases h
    · rintro ⟨_, _, h, -⟩
      cases h
  · constructor
    · intro h
      exact ⟨a, u, rfl, h⟩
    · rintro ⟨_, _, h, hf⟩
      cases h
      exact hf

/-- A list is handled to its end if its first item is and, from the state reached then, the rest. -/
theorem runOn_each_cons_eq_ok_iff {f : α → Action σ ε β} {item : α} {rest : List α} {s t : σ}
    {results : List β} :
    (each f (item :: rest)).runOn s = (.ok results, t) ↔
      ∃ b u more, (f item).runOn s = (.ok b, u) ∧ (each f rest).runOn u = (.ok more, t) ∧
        results = b :: more := by
  rw [each, runOn_bind_eq_ok_iff]
  constructor
  · rintro ⟨b, u, hitem, hrest⟩
    obtain ⟨more, v, hmore, hpure⟩ := runOn_bind_eq_ok_iff.1 hrest
    cases hpure
    exact ⟨b, u, more, hitem, hmore, rfl⟩
  · rintro ⟨b, u, more, hitem, hmore, rfl⟩
    exact ⟨b, u, hitem, runOn_bind_eq_ok_iff.2 ⟨more, t, hmore, rfl⟩⟩

/-- A result stands in the position of its item: the items up to there lead to the state behind
    it, and the items behind it went on from there. -/
theorem each_position {f : α → Action σ ε β} {items : List α} {s t : σ} {results : List β}
    (h : (each f items).runOn s = (.ok results, t)) {n : Nat} {b : β} (hb : results[n]? = some b) :
    ∃ item u v, items[n]? = some item ∧ (f item).runOn u = (.ok b, v) ∧
      (each f (items.take (n + 1))).runOn s = (.ok (results.take (n + 1)), v) ∧
      (each f (items.drop (n + 1))).runOn v = (.ok (results.drop (n + 1)), t) := by
  induction items generalizing s results n with
  | nil =>
    cases h
    cases hb
  | cons first rest ih =>
    obtain ⟨c, u, more, hfirst, hmore, rfl⟩ := runOn_each_cons_eq_ok_iff.1 h
    cases n with
    | zero =>
      cases hb
      have hone : (each f [first]).runOn s = (.ok [b], u) :=
        runOn_each_cons_eq_ok_iff.2 ⟨b, u, [], hfirst, rfl, rfl⟩
      exact ⟨first, s, u, rfl, hfirst, hone, hmore⟩
    | succ n =>
      obtain ⟨item, v, w, hitem, hrun, hthrough, hbehind⟩ := ih hmore hb
      refine ⟨item, v, w, hitem, hrun, ?_, hbehind⟩
      exact runOn_each_cons_eq_ok_iff.2 ⟨c, u, _, hfirst, hthrough, rfl⟩

/-- Reporting failures in other terms goes through a chain. -/
theorem mapError_bind (g : ε → ε') (x : Action σ ε α) (f : α → Action σ ε β) :
    (x >>= f).mapError g = x.mapError g >>= fun a => (f a).mapError g := by
  funext s
  show ((x >>= f).mapError g).runOn s = (x.mapError g >>= fun a => (f a).mapError g).runOn s
  rw [runOn_mapError, runOn_bind, runOn_bind, runOn_mapError]
  rcases x.runOn s with ⟨_ | a, t⟩ <;> rfl

/-! ## Runs in step

  Two programs over different states are compared by a relation between the states.  Being in step
  is closed under everything that programs are made of, so for two programs of the same shape only
  the places where they differ are left to prove. -/

/-- From related states both actions come to the same outcome, and to related states again. -/
def InStep (R : σ → τ → Prop) (x : Action σ ε α) (y : Action τ ε α) : Prop :=
  ∀ s t, R s t → (x.runOn s).1 = (y.runOn t).1 ∧ R (x.runOn s).2 (y.runOn t).2

namespace InStep

variable {R : σ → τ → Prop} {x : Action σ ε α} {y : Action τ ε α}

theorem pure (a : α) : InStep R (pure a : Action σ ε α) (pure a) :=
  fun _ _ h => ⟨rfl, h⟩

theorem throw (e : ε) : InStep R (throw e : Action σ ε α) (throw e) :=
  fun _ _ h => ⟨rfl, h⟩

/-- So is anything decided beforehand. -/
theorem ofExcept (outcome : Except ε α) :
    InStep R (ofExcept outcome : Action σ ε α) (ofExcept outcome) :=
  fun _ _ h => ⟨rfl, h⟩

/-- A chain is in step if its parts are: from the same outcome of the first part, both sides go on
    with the same rest. -/
theorem bind {f : α → Action σ ε β} {g : α → Action τ ε β} (h : InStep R x y)
    (hrest : ∀ a, InStep R (f a) (g a)) : InStep R (x >>= f) (y >>= g) := by
  intro s t hst
  obtain ⟨hsame, hnext⟩ := h s t hst
  rw [runOn_bind, runOn_bind]
  rcases hx : x.runOn s with ⟨outcome, s'⟩
  rcases hy : y.runOn t with ⟨outcome', t'⟩
  rw [hx, hy] at hsame hnext
  cases hsame
  cases outcome with
  | error e => exact ⟨rfl, hnext⟩
  | ok a => exact hrest a s' t' hnext

/-- What comes of two actions in step may be looked at: it is the same on both sides. -/
theorem attempt (h : InStep R x y) : InStep R (x.attempt : Action σ ε' _) y.attempt :=
  fun s t hst => ⟨congrArg Except.ok (h s t hst).1, (h s t hst).2⟩

theorem mapError (f : ε → ε') (h : InStep R x y) : InStep R (x.mapError f) (y.mapError f) :=
  fun s t hst => ⟨congrArg (Except.mapError f) (h s t hst).1, (h s t hst).2⟩

/-- Lists are handled in step if every item is, by induction on the list. -/
theorem each {f : α → Action σ ε β} {g : α → Action τ ε β} (h : ∀ a, InStep R (f a) (g a)) :
    ∀ items, InStep R (Action.each f items) (Action.each g items)
  | [] => .pure _
  | item :: rest => .bind (h item) fun _ => .bind (InStep.each h rest) fun _ => .pure _

end InStep

/-! ## Steps

  A run always ends in a state, also where it fails.  A step is what is left of it for somebody
  who drops that state.  For actions that only read, and for those that are atomic, nothing is
  lost: the run can be told from the step (`Reads.runOn_eq`, `Atomic.runOn_eq`).  Both notions are
  closed under chaining as far as they can be: whatever fails behind a change has spoiled the
  atomicity, so all reading stands in front. -/

/-- A step succeeds as the run does. -/
theorem stepOn_eq_ok_iff {x : Action σ ε α} {s : σ} {result : α × σ} :
    x.stepOn s = .ok result ↔ x.runOn s = (.ok result.1, result.2) := by
  rw [stepOn]
  rcases x.runOn s with ⟨_ | a, t⟩
  · constructor <;> intro h <;> cases h
  · constructor <;> intro h <;> cases h <;> rfl

/-- A step fails as the run does, whatever state the run has left. -/
theorem stepOn_eq_error_iff {x : Action σ ε α} {s : σ} {e : ε} :
    x.stepOn s = .error e ↔ (x.runOn s).1 = .error e := by
  rw [stepOn]
  rcases x.runOn s with ⟨_ | a, t⟩
  · constructor <;> intro h <;> cases h <;> rfl
  · constructor <;> intro h <;> cases h

/-- An action that changes nothing, whether it succeeds or fails. -/
def Reads (action : Action σ ε α) : Prop :=
  ∀ s, (action.runOn s).2 = s

/-- An action that leaves the state as it was where it fails. -/
def Atomic (action : Action σ ε α) : Prop :=
  ∀ s e, (action.runOn s).1 = .error e → (action.runOn s).2 = s

namespace Reads

variable {x : Action σ ε α}

protected theorem pure (a : α) : Reads (pure a : Action σ ε α) := fun _ => rfl

/-- So is failing at once. -/
protected theorem throw (e : ε) : Reads (throw e : Action σ ε α) := fun _ => rfl

/-- Looking at the state is reading. -/
protected theorem get : Reads (get : Action σ ε σ) := fun _ => rfl

protected theorem ofExcept (outcome : Except ε α) : Reads (ofExcept outcome : Action σ ε α) :=
  fun _ => rfl

/-- Reading after reading is reading: a failure in the middle ends on the same state, too. -/
protected theorem bind {f : α → Action σ ε β} (hx : Reads x) (hf : ∀ a, Reads (f a)) :
    Reads (x >>= f) := by
  intro s
  have hs := hx s
  rw [runOn_bind]
  rcases h : x.runOn s with ⟨_ | a, t⟩
  · rwa [h] at hs
  · rw [h] at hs
    exact (hf a t).trans hs

/-- What changes nothing at all changes nothing where it fails. -/
theorem atomic (h : Reads x) : Atomic x := fun s _ _ => h s

/-- What only reads is told by its outcome. -/
theorem runOn_eq (h : Reads x) (s : σ) : x.runOn s = ((x.runOn s).1, s) :=
  Prod.ext rfl (h s)

/-- Behind what only reads the rest runs on the same state. -/
theorem outcome_bind (h : Reads x) (f : α → Action σ ε β) (s : σ) :
    ((x >>= f).runOn s).1 = (x.runOn s).1 >>= fun a => ((f a).runOn s).1 := by
  rw [runOn_bind, h.runOn_eq]
  cases (x.runOn s).1 <;> rfl

/-- In particular the step of a chain that begins by reading is that of its rest, if the reading
    succeeds. -/
theorem stepOn_bind (h : Reads x) (f : α → Action σ ε β) (s : σ) :
    (x >>= f).stepOn s = (x.runOn s).1 >>= fun a => (f a).stepOn s := by
  rw [stepOn, runOn_bind, h.runOn_eq]
  cases (x.runOn s).1 <;> rfl

/-- The state behind a step of what only reads is the one before it. -/
theorem snd_of_stepOn (h : Reads x) {s : σ} {result : α × σ} (hstep : x.stepOn s = .ok result) :
    result.2 = s :=
  (congrArg Prod.snd (stepOn_eq_ok_iff.1 hstep)).symm.trans (h s)

end Reads

namespace Atomic

variable {x : Action σ ε α}

/-- What comes before the first change may fail. -/
protected theorem bind {f : α → Action σ ε β} (hx : Reads x) (hf : ∀ a, Atomic (f a)) :
    Atomic (x >>= f) := by
  intro s e hfailed
  have hs := hx s
  rw [runOn_bind] at hfailed ⊢
  rcases h : x.runOn s with ⟨_ | a, t⟩
  · rwa [h] at hs
  · rw [h] at hs hfailed
    exact (hf a t e hfailed).trans hs

/-- What never fails may change the state at will. -/
theorem of_succeeds (h : ∀ s, ∃ a, (x.runOn s).1 = .ok a) : Atomic x := by
  intro s e hfailed
  obtain ⟨a, hok⟩ := h s
  rw [hfailed] at hok
  cases hok

/-- The run of what is atomic is told by its step. -/
theorem runOn_eq (h : Atomic x) (s : σ) :
    x.runOn s = match x.stepOn s with
      | .ok (a, t) => (.ok a, t)
      | .error e => (.error e, s) := by
  rw [stepOn]
  rcases hrun : x.runOn s with ⟨e | a, t⟩
  · have hkept := h s e (congrArg Prod.fst hrun)
    rw [hrun] at hkept
    exact congrArg (Prod.mk _) hkept
  · rfl

end Atomic

/-- Two steps come to the same: the same failure, or the same answer and related states. -/
inductive StepsAlike (R : σ → τ → Prop) : Except ε (α × σ) → Except ε (α × τ) → Prop
  | ok (a : α) {s : σ} {t : τ} (h : R s t) : StepsAlike R (.ok (a, s)) (.ok (a, t))
  | error (e : ε) : StepsAlike R (.error e) (.error e)

/-- What is decided before the steps begin may be decided once for both. -/
theorem StepsAlike.bind {R : σ → τ → Prop} (x : Except ε α) {f : α → Except ε (β × σ)}
    {g : α → Except ε (β × τ)} (h : ∀ a, StepsAlike R (f a) (g a)) :
    StepsAlike R (x >>= f) (x >>= g) := by
  cases x with
  | error e => exact .error e
  | ok a => exact h a

/-- Atomic actions with steps that come to the same are in step. -/
theorem InStep.of_steps {R : σ → τ → Prop} {x : Action σ ε α} {y : Action τ ε α} (hx : Atomic x)
    (hy : Atomic y) (h : ∀ s t, R s t → StepsAlike R (x.stepOn s) (y.stepOn t)) :
    InStep R x y := by
  intro s t hst
  have halike := h s t hst
  rw [hx.runOn_eq, hy.runOn_eq]
  generalize x.stepOn s = left at halike ⊢
  generalize y.stepOn t = right at halike ⊢
  cases halike with
  | ok a hnext => exact ⟨rfl, hnext⟩
  | error e => exact ⟨rfl, hst⟩

/-! ## What runs keep

  To keep an invariant is to be in step with oneself on the states that have it, so the lemmas
  about `InStep` serve here, too. -/

/-- Every run from a state with this property, also one that fails, ends in a state with it. -/
def Keeps (inv : σ → Prop) (action : Action σ ε α) : Prop :=
  ∀ s, inv s → inv (action.runOn s).2

/-- An action that keeps an invariant is in step with itself on the states that have it. -/
theorem keeps_iff_inStep {inv : σ → Prop} {x : Action σ ε α} :
    Keeps inv x ↔ InStep (fun s t => s = t ∧ inv s) x x := by
  constructor
  · rintro h s _ ⟨rfl, hs⟩
    exact ⟨rfl, rfl, h s hs⟩
  · intro h s hs
    exact (h s s ⟨rfl, hs⟩).2.2

theorem Keeps.pure {inv : σ → Prop} (a : α) : Keeps inv (pure a : Action σ ε α) :=
  fun _ h => h

/-- An invariant that every part of a chain keeps, the chain keeps. -/
theorem Keeps.bind {inv : σ → Prop} {x : Action σ ε α} {f : α → Action σ ε β} (hx : Keeps inv x)
    (hf : ∀ a, Keeps inv (f a)) : Keeps inv (x >>= f) :=
  keeps_iff_inStep.2 ((keeps_iff_inStep.1 hx).bind fun a => keeps_iff_inStep.1 (hf a))

/-- What is kept for every item is kept along a list of them. -/
theorem Keeps.each {inv : σ → Prop} {f : α → Action σ ε β} (hf : ∀ a, Keeps inv (f a))
    (items : List α) : Keeps inv (Action.each f items) :=
  keeps_iff_inStep.2 (InStep.each (fun a => keeps_iff_inStep.1 (hf a)) items)

end Action

end DocStore
