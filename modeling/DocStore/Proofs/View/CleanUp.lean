/-
  Clean-up behind a view that had to be stored.

  A store that refuses to evaluate a view gets it in a design document, which has to go again
  whatever the invocation gave, and whatever comes of the removal must not hide what the invocation
  gave.  `Plan.Conduct` lists all ways in which such a run can go, each with the requests that it
  makes, in order and with what came of them, and with the result.  There are three:
  the store evaluated the view or failed to; the design document could not be stored; or it was
  stored, invoked and removed.

  `evaluation_always_cleans_up` says that no run goes any other way, over any backend, in any state
  and whatever single requests are answered with.
-/
import DocStore.Proofs.Service.Calls
import DocStore.Proofs.Store.History
import DocStore.Proofs.Store.Watching

namespace DocStore

namespace Plan

variable {σ : Type} {database : String} {view : Definition} {options : ViewOptions}

/-- The requests that the run of a definition may make, with what came of them, and its result. -/
inductive Conduct (database : String) (view : Definition) (options : ViewOptions) :
    List Exchange → Except StoreError ViewResult → Prop
  /-- The store did not refuse: what it answers is the result, and nothing else is asked. -/
  | evaluated (result : Except StoreError ViewResult) (h : result ≠ .error .viewUnsupported) :
      Conduct database view options [⟨.evaluateTransient database view options, result⟩] result
  /-- The definition could not be stored: nothing is there to invoke or to remove. -/
  | notStored (fresh : String) (e : StoreError) :
      Conduct database view options
        [⟨.evaluateTransient database view options, .error .viewUnsupported⟩,
          ⟨.createView database (temporaryName fresh) view, .error e⟩]
        (.error e)
  /-- The definition was stored: it is invoked once under its name, then removed once under the
      revision that it was stored with, and the result is that of the invocation. -/
  | cleanedUp (fresh : String) (receipt : Receipt) (result : Except StoreError ViewResult)
      (removal : Except StoreError Receipt) :
      Conduct database view options
        [⟨.evaluateTransient database view options, .error .viewUnsupported⟩,
          ⟨.createView database (temporaryName fresh) view, .ok receipt⟩,
          ⟨.invokeView database (temporaryName fresh) options, result⟩,
          ⟨.removeDocument database receipt.id receipt.revision, removal⟩]
        result

/-- A run over a watched backend gives what the run gives that nobody watches. -/
theorem follows_run (plan : Plan) (backend : Backend σ) (database : String)
    (options : ViewOptions) :
    Traced.Follows (plan.run backend.traced database options)
      (plan.run backend database options) :=
  Traced.follows_iff_inStep.2 (inStep_run
    (fun request _ => Traced.inStep_answer backend request) (Traced.inStep_token backend) plan
    options)

/-- Once a token was drawn, the definition is stored and, if that worked, invoked and removed. -/
theorem throughStored_conduct (backend : Backend σ)
    (draws : ∀ s, ∃ fresh next, backend.token.runOn s = (.ok fresh, next)) (state : Traced σ)
    (database : String) (view : Definition) (options : ViewOptions) :
    ∃ made result next,
      Traced.Course (throughStored backend.traced database view options) state made result next ∧
      Conduct database view options
        (⟨.evaluateTransient database view options, .error .viewUnsupported⟩ :: made) result := by
  obtain ⟨fresh, drawn, htoken⟩ := draws state.store
  rcases hcreate : (backend.answer (.createView database (temporaryName fresh) view)).runOn drawn with
    ⟨e | receipt, created⟩
  · -- Nothing was stored, and the failure is that of the whole run.
    exact ⟨_, _, _, (Traced.Course.token htoken).bind_ok (Traced.Course.answer hcreate).bind_error,
      .notStored fresh e⟩
  · rcases hinvoke : (backend.answer (.invokeView database (temporaryName fresh) options)).runOn created
      with ⟨result, invoked⟩
    rcases hremove : (backend.answer
      (.removeDocument database receipt.id receipt.revision)).runOn invoked with ⟨removal, removed⟩
    -- Invocation and removal are attempted, so their outcomes do not decide what comes next.
    have hcourse : Traced.Course (throughStored backend.traced database view options) state _
        result _ :=
      (Traced.Course.token htoken).bind_ok ((Traced.Course.answer hcreate).bind_ok
        ((Traced.Course.answer hinvoke).bind_attempt
          ((Traced.Course.answer hremove).bind_attempt (.ofExcept result _))))
    exact ⟨_, _, _, hcourse, .cleanedUp fresh receipt result removal⟩

/-- **Clean-up runs on every path and masks nothing.**  Over every backend whose tokens never fail,
    in every state and whatever single requests are answered with, the run of a definition conducts
    itself in one of the three ways: it makes the requests listed there after those made before, and
    gives the result named there.  Where nobody watches, the result and the state left are the
    same. -/
theorem evaluation_always_cleans_up (backend : Backend σ)
    (draws : ∀ s, ∃ fresh next, backend.token.runOn s = (.ok fresh, next)) (database : String)
    (view : Definition) (options : ViewOptions) (state : Traced σ) :
    ∃ made result next,
      ((Plan.transient view).run backend.traced database options).runOn state = (result, next) ∧
      next.trace = state.trace ++ made ∧
      Conduct database view options made result ∧
      ((Plan.transient view).run backend database options).runOn state.store =
        (result, next.store) := by
  have hcourse : ∃ made result next,
      Traced.Course ((Plan.transient view).run backend.traced database options) state made result
        next ∧ Conduct database view options made result := by
    obtain ⟨outcome, reached, houtcome⟩ : ∃ outcome reached, Traced.Course
        (backend.traced.answer (.evaluateTransient database view options)) state
        [⟨.evaluateTransient database view options, outcome⟩] outcome reached :=
      ⟨_, _, .answer rfl⟩
    by_cases hrefused : outcome = .error .viewUnsupported
    · subst hrefused
      obtain ⟨made, result, next, hstored, hconduct⟩ :=
        throughStored_conduct backend draws reached database view options
      exact ⟨_, _, _, houtcome.bind_attempt hstored, hconduct⟩
    · refine ⟨_, outcome, reached, houtcome.bind_attempt ?_, .evaluated outcome hrefused⟩
      -- What is no refusal is passed on as it is.
      split
      · exact absurd rfl hrefused
      · exact .ofExcept outcome reached
  obtain ⟨made, result, next, hrun, hconduct⟩ := hcourse
  have hfollows := follows_run (.transient view) backend database options state
  rw [hrun.runOn] at hfollows
  exact ⟨made, result, next, hrun.runOn, hrun.trace, hconduct, hfollows⟩

/-- A store that evaluates stored views only and holds one document, where no removal gets
    through. -/
def withoutRemovals : Traced (Disturbed Store) where
  store := {
    store := (Store.respondAll Store.countedToken [] (Store.empty false)
      [.createDatabase "notes", .saveDocument "notes" (some "a") []]).2
    faults := [{
      concerns := fun request => match request with
        | .removeDocument _ _ _ => true
        | _ => false
      disturbance := .fail (.backend "closed") }] }

/-- What comes of a run of the view of all documents there. -/
def runWithoutRemovals : Except StoreError ViewResult × Traced (Disturbed Store) :=
  ((transient ⟨.and [], .all⟩).run (Store.backend Store.countedToken).faulty.traced "notes"
    {}).runOn withoutRemovals

/-- The removal is tried as the fourth request and fails, and the document is found all the same. -/
theorem failed_removal_masks_nothing :
    (∀ s, ∃ fresh next,
      (Store.backend Store.countedToken).faulty.token.runOn s = (.ok fresh, next)) ∧
    Conduct "notes" ⟨.and [], .all⟩ {} runWithoutRemovals.2.trace runWithoutRemovals.1 ∧
    runWithoutRemovals.2.trace.length = 4 ∧
    runWithoutRemovals.1.map ViewResult.totalRows = .ok 1 := by
  have draws : ∀ s, ∃ fresh next,
      (Store.backend Store.countedToken).faulty.token.runOn s = (.ok fresh, next) :=
    fun s => ⟨_, _, rfl⟩
  obtain ⟨made, result, next, hrun, htrace, hconduct, -⟩ := evaluation_always_cleans_up
    (Store.backend Store.countedToken).faulty draws "notes" ⟨.and [], .all⟩ {} withoutRemovals
  have hmade : next.trace = made := htrace
  refine ⟨draws, ?_, rfl, rfl⟩
  rw [runWithoutRemovals, hrun, hmade]
  exact hconduct

end Plan

end DocStore
