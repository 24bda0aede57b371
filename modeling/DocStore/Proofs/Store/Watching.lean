/-
  Watched runs.

  A watched backend answers as the backend itself does and keeps one exchange of every request.
  `Traced.Course` says how an action goes on a watched state: which requests it makes, in order and
  with what came of them, what its outcome is and where it ends.  The course of an action is put
  together from the courses of its parts, so what a whole operation asks for is read off its text.

  `Traced.Follows` says that watching changes nothing: the action over the watched state has the
  outcome of the action itself and leaves the same state.  The two are then in step, if the watched
  state is compared by what is watched; answering and drawing a token are.
-/
import DocStore.Store.Watched

namespace DocStore

variable {σ ε ε' α β : Type}

/-- A watched request is answered as it is without watching, and one exchange is kept of it. -/
theorem Backend.runOn_traced (backend : Backend σ) (request : Request) (state : Traced σ) :
    (backend.traced.answer request).runOn state =
      (((backend.answer request).runOn state.store).1,
        ⟨((backend.answer request).runOn state.store).2,
          ⟨request, ((backend.answer request).runOn state.store).1⟩ :: state.exchanges⟩) := rfl

/-- Drawing a token keeps no exchange. -/
theorem Backend.runOn_traced_token (backend : Backend σ) (state : Traced σ) :
    backend.traced.token.runOn state =
      ((backend.token.runOn state.store).1,
        ⟨(backend.token.runOn state.store).2, state.exchanges⟩) := rfl

namespace Traced

/-! ## How an action goes -/

/-- On this watched state the action makes these requests, in this order and with these outcomes,
    and ends with this outcome in this state. -/
structure Course (action : Action (Traced σ) ε α) (state : Traced σ) (made : List Exchange)
    (outcome : Except ε α) (next : Traced σ) : Prop where
  runOn : action.runOn state = (outcome, next)
  trace : next.trace = state.trace ++ made

/-- One request adds one exchange, with the outcome that the request had. -/
theorem Course.answer {backend : Backend σ} {request : Request} {state : Traced σ}
    {outcome : Except StoreError request.Answer} {next : σ}
    (h : (backend.answer request).runOn state.store = (outcome, next)) :
    Course (backend.traced.answer request) state [⟨request, outcome⟩] outcome
      ⟨next, ⟨request, outcome⟩ :: state.exchanges⟩ where
  runOn := by rw [backend.runOn_traced, h]
  trace := List.reverse_cons

/-- Drawing a token is no request and leaves no exchange. -/
theorem Course.token {backend : Backend σ} {state : Traced σ} {outcome : Except StoreError String}
    {next : σ} (h : backend.token.runOn state.store = (outcome, next)) :
    Course backend.traced.token state [] outcome ⟨next, state.exchanges⟩ where
  runOn := by rw [backend.runOn_traced_token, h]
  trace := (List.append_nil _).symm

theorem Course.ofExcept (outcome : Except ε α) (state : Traced σ) :
    Course (.ofExcept outcome) state [] outcome state where
  runOn := Action.runOn_ofExcept outcome state
  trace := (List.append_nil _).symm

variable {x : Action (Traced σ) ε α} {f : α → Action (Traced σ) ε β} {state middle next : Traced σ}
  {made more : List Exchange} {result : Except ε β}

/-- Behind a success the rest takes its course. -/
theorem Course.bind_ok {a : α} (hx : Course x state made (.ok a) middle)
    (hf : Course (f a) middle more result next) :
    Course (x >>= f) state (made ++ more) result next where
  runOn := (Action.runOn_bind_ok f hx.runOn).trans hf.runOn
  trace := by rw [hf.trace, hx.trace, List.append_assoc]

/-- Behind a failure nothing is asked. -/
theorem Course.bind_error {e : ε} (hx : Course x state made (.error e) middle) :
    Course (x >>= f) state made (.error e) middle where
  runOn := Action.runOn_bind_error f hx.runOn
  trace := hx.trace

/-- Behind an attempt the rest takes its course, whatever came of it. -/
theorem Course.bind_attempt {outcome : Except ε α} {f : Except ε α → Action (Traced σ) ε' β}
    {result : Except ε' β} (hx : Course x state made outcome middle)
    (hf : Course (f outcome) middle more result next) :
    Course (x.attempt >>= f) state (made ++ more) result next where
  runOn := (Action.runOn_bind_attempt f hx.runOn).trans hf.runOn
  trace := by rw [hf.trace, hx.trace, List.append_assoc]

/-! ## Watching changes nothing -/

/-- An action over a watched state gives the outcome of the action itself, and leaves the state
    that it leaves. -/
def Follows (watched : Action (Traced σ) ε α) (action : Action σ ε α) : Prop :=
  ∀ state : Traced σ, action.runOn state.store =
    ((watched.runOn state).1, (watched.runOn state).2.store)

/-- So it is in step with the action itself. -/
theorem follows_iff_inStep {watched : Action (Traced σ) ε α} {action : Action σ ε α} :
    Follows watched action ↔ Action.InStep (fun state s => state.store = s) watched action := by
  constructor
  · rintro h state _ rfl
    rw [h state]
    exact ⟨rfl, rfl⟩
  · intro h state
    obtain ⟨hsame, hleft⟩ := h state state.store rfl
    exact Prod.ext hsame.symm hleft.symm

/-- Being watched changes nothing of what is answered. -/
theorem inStep_answer (backend : Backend σ) (request : Request) :
    Action.InStep (fun state s => state.store = s) (backend.traced.answer request)
      (backend.answer request) := by
  rintro state _ rfl
  exact ⟨rfl, rfl⟩

/-- Nor of the tokens. -/
theorem inStep_token (backend : Backend σ) :
    Action.InStep (fun state s => state.store = s) backend.traced.token backend.token := by
  rintro state _ rfl
  exact ⟨rfl, rfl⟩

end Traced

end DocStore
