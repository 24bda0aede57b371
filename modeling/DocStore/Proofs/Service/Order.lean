/-
  The order in which documents are created.

  Documents that give their identifiers are filed under these, whatever is drawn for the others.
  So the same documents in another order, cut into batches in another way, leave the same bodies in
  the same places.  Their revisions differ, as they are drawn one after another; but nobody sees
  revisions, and finds that are blind to them do not depend on them.

  The creations are handled one payload at a time.  What a run of them leaves is what one batch of
  all their documents would leave (`Shared.filed_creations`), which does not depend on the order of
  the documents (`Filed.bodies_eq`).
-/
import DocStore.Proofs.Find.Selection
import DocStore.Proofs.Service.Creation
import DocStore.Proofs.Service.Reading

namespace DocStore

/-- The documents of a payload, in order. -/
def Payload.docs : Payload → List Document
  | .single doc => [doc]
  | .batch docs => docs

namespace Document

/-- The identifier under which a document is filed that gives one. -/
def ownId (doc : Document) : String :=
  doc.filedAs ""

/-- With an identifier of its own, a document is filed under it, whatever was generated. -/
theorem filedAs_of_given {doc : Document} (given : doc.takeIdentifier.1.isSome)
    (generated : String) : doc.filedAs generated = doc.ownId := by
  obtain ⟨name, hname⟩ := Option.isSome_iff_exists.1 given
  rw [ownId, filedAs, filedAs, hname]
  rfl

end Document

/-- No tokens go into the identifiers of documents that give their own. -/
theorem batchIds_of_given (token : Nat → String) (issued : Nat) {docs : List Document}
    (given : ∀ doc ∈ docs, doc.takeIdentifier.1.isSome) :
    batchIds token issued docs = docs.map Document.ownId := by
  induction docs generalizing issued with
  | nil => rfl
  | cons doc rest ih =>
    rw [batchIds, Document.filedAs_of_given (given doc List.mem_cons_self),
      ih _ fun other hmem => given other (List.mem_cons_of_mem _ hmem)]
    rfl

/-- Then the tokens drawn do not decide where documents are filed. -/
theorem batchNews_of_given (token : Nat → String) (issued : Nat) {docs : List Document}
    (given : ∀ doc ∈ docs, doc.takeIdentifier.1.isSome) :
    batchNews token issued docs = docs.map fun doc => (doc.ownId, doc) := by
  have hzip : (docs.map Document.ownId).zip (docs.map id) = _ := List.zip_map'
  rw [List.map_id] at hzip
  rw [batchNews, batchIds_of_given token issued given, hzip]
  rfl

theorem batchNews_append (token : Nat → String) (issued : Nat) (docs more : List Document) :
    batchNews token issued (docs ++ more) =
      batchNews token issued docs ++ batchNews token (issued + 2 * docs.length) more := by
  rw [batchNews, batchIds_append, List.zip_append (length_batchIds token issued docs)]
  rfl

/-- Behind a batch, what would not collide in a longer one still does not. -/
theorem Filed.free_rest {token : Nat → String} {model : String} {issued : Nat}
    {docs : List Document} {ids : List String} {handle next : Handle Store}
    (h : Filed model (batchNews token issued docs) handle next)
    (hfree : handle.Free model (batchIds token issued docs ++ ids)) : next.Free model ids := by
  rw [← keys_batchNews] at hfree
  exact h.free hfree

/-- Whether identifiers are free has nothing to do with their order. -/
theorem Handle.Free.perm {handle : Handle Store} {model : String} {ids ids' : List String}
    (h : handle.Free model ids) (same : ids'.Perm ids) : handle.Free model ids' :=
  ⟨same.nodup_iff.2 h.1, fun id hmem => h.2 id (same.mem_iff.1 hmem)⟩

theorem Handle.Free.left_of_append {handle : Handle Store} {model : String}
    {ids more : List String} (h : handle.Free model (ids ++ more)) : handle.Free model ids :=
  ⟨(List.nodup_append.1 h.1).1, fun id hmem => h.2 id (List.mem_append_left _ hmem)⟩

/-- The same documents under the same identifiers leave the same bodies in the same places. -/
theorem Filed.bodies_eq {model : String} {news news' : List (String × Document)}
    {handle next next' : Handle Store} (h : Filed model news handle next)
    (h' : Filed model news' handle next') (hsame : ∀ entry, entry ∈ news ↔ entry ∈ news')
    (n i : String) :
    (next.store.held? n i).map Record.body = (next'.store.held? n i).map Record.body := by
  have hkeys : i ∈ news.map Prod.fst ↔ i ∈ news'.map Prod.fst := by
    simp only [List.mem_map, hsame]
  by_cases hplace : n = model ∧ i ∈ news.map Prod.fst
  · obtain ⟨rfl, hmem⟩ := hplace
    obtain ⟨⟨id, doc⟩, hentry, rfl⟩ := List.mem_map.1 hmem
    obtain ⟨record, hheld, hbody⟩ := h.new id doc hentry
    obtain ⟨record', hheld', hbody'⟩ := h'.new id doc ((hsame _).1 hentry)
    rw [hheld, hheld', Option.map_some, Option.map_some, hbody, hbody']
  · rw [h.old n i fun hn hmem => hplace ⟨hn, hmem⟩,
      h'.old n i fun hn hmem => hplace ⟨hn, hkeys.2 hmem⟩]

namespace Service

variable {token : Nat → String} {model : String} {handle : Handle Store}

/-- A payload whose documents do not collide is created, and its documents are filed. -/
theorem runOn_create_payload (truthful : handle.Truthful model) (paginate : Paginate)
    {payload : Payload} (distinct : ∀ doc ∈ payload.docs, Entries.Distinct doc)
    (hfree : handle.Free model (batchIds token handle.store.issued payload.docs)) :
    ∃ shown next, ((overMemory token model paginate).create payload).runOn handle =
        (.ok shown, next) ∧
      Filed model (batchNews token handle.store.issued payload.docs) handle next ∧
      next.store.issued = handle.store.issued + 2 * payload.docs.length := by
  have hdb := Handle.get?_settled truthful
  have hissued := handle.settled_issued model
  have hsettled := free_settled hfree
  rw [← hissued] at hsettled ⊢
  cases payload with
  | single doc =>
    have hone := runOn_createOne_free paginate hdb (distinct doc List.mem_cons_self)
      (hsettled.2 _ List.mem_cons_self)
    exact ⟨_, _, runOn_create_single hone, (filed_created token hdb doc).of_settled, rfl⟩
  | batch docs =>
    obtain ⟨next, heach, hfiled, hdrawn, -⟩ := runOn_each_createOne paginate hdb distinct hsettled
    exact ⟨_, next, runOn_create_batch heach, hfiled.of_settled, hdrawn⟩

end Service

namespace Shared

variable {token token' : Nat → String} {services : Nat → Service.Settings} {shared : Shared}
  {payloads payloads' : List Payload}

/-- One of the services creates these payloads, one after another. -/
def creations (i : Nat) (payloads : List Payload) : List (Nat × Call) :=
  payloads.map fun payload => (i, .create payload)

/-- A turn in which a payload is created whose documents do not collide. -/
theorem filed_creation (token : Nat → String) (truthful : shared.Truthful services) (i : Nat)
    {payload : Payload}
    (distinct : ∀ doc ∈ payload.docs, Entries.Distinct doc)
    (hfree : (shared.handle i).Free (services i).model
      (batchIds token shared.store.issued payload.docs)) :
    let next := shared.turn token services (i, .create payload)
    (∃ shown, shared.reply token services (i, .create payload) = .ok (.created shown)) ∧
      Filed (services i).model (batchNews token shared.store.issued payload.docs)
        (shared.handle i) (next.handle i) ∧
      next.store.issued = shared.store.issued + 2 * payload.docs.length := by
  obtain ⟨shown, next, hrun, hfiled, hissued⟩ :=
    Service.runOn_create_payload (truthful i) (services i).paginate distinct hfree
  have hnext : (shared.turn token services (i, .create payload)).handle i = next :=
    (handle_behind_self _ _ _).trans (congrArg Prod.snd hrun)
  refine ⟨⟨shown, ?_⟩, hnext ▸ hfiled, (congrArg (·.store.issued) hnext).trans hissued⟩
  exact congrArg Prod.fst (Action.runOn_bind_ok _ hrun)

/-- A run of creations leaves what one batch of all their documents would leave. -/
theorem filed_creations (token : Nat → String) (truthful : shared.Truthful services) (i : Nat)
    {payloads : List Payload}
    (distinct : ∀ doc ∈ payloads.flatMap Payload.docs, Entries.Distinct doc)
    (hfree : (shared.handle i).Free (services i).model
      (batchIds token shared.store.issued (payloads.flatMap Payload.docs))) :
    let next := shared.run token services (creations i payloads)
    Filed (services i).model
        (batchNews token shared.store.issued (payloads.flatMap Payload.docs)) (shared.handle i)
        (next.handle i) ∧
      next.store.issued = shared.store.issued + 2 * (payloads.flatMap Payload.docs).length := by
  induction payloads generalizing shared with
  | nil => exact ⟨.nil _ _, rfl⟩
  | cons payload rest ih =>
    rw [List.flatMap_cons] at distinct hfree ⊢
    rw [batchIds_append] at hfree
    obtain ⟨hnodup, hnone⟩ := hfree
    obtain ⟨hfirst, -, hdisjoint⟩ := List.nodup_append.1 hnodup
    obtain ⟨-, hfiled, hissued⟩ := filed_creation token truthful i
      (fun doc hmem => distinct doc (List.mem_append_left _ hmem))
      ⟨hfirst, fun id hmem => hnone id (List.mem_append_left _ hmem)⟩
    -- The other payloads meet what this one left.
    have hmore := hfiled.free_rest ⟨hnodup, hnone⟩
    rw [← hissued] at hmore
    obtain ⟨hall, htotal⟩ := ih (truthful.turn token i (.create payload))
      (fun doc hmem => distinct doc (List.mem_append_right _ hmem)) hmore
    rw [batchNews_append, ← hissued]
    refine ⟨hfiled.append hall fun id hmem hother => ?_, ?_⟩
    · rw [keys_batchNews] at hmem hother
      rw [hissued] at hother
      exact hdisjoint id hmem id hother rfl
    · refine htotal.trans ?_
      rw [hissued, List.length_append]
      omega

/-- Every one of these creations succeeds. -/
def CreatesAll (shared : Shared) (token : Nat → String) (services : Nat → Service.Settings) (i : Nat)
    (payloads : List Payload) : Prop :=
  ∀ earlier payload later, payloads = earlier ++ payload :: later →
    ∃ shown, (shared.run token services (creations i earlier)).reply token services
      (i, .create payload) = .ok (.created shown)

/-- If no documents collide, all creations succeed. -/
theorem createsAll (token : Nat → String) (truthful : shared.Truthful services) (i : Nat)
    (distinct : ∀ doc ∈ payloads.flatMap Payload.docs, Entries.Distinct doc)
    (hfree : (shared.handle i).Free (services i).model
      (batchIds token shared.store.issued (payloads.flatMap Payload.docs))) :
    shared.CreatesAll token services i payloads := by
  rintro earlier payload later rfl
  rw [List.flatMap_append, List.flatMap_cons, ← List.append_assoc] at distinct hfree
  have hdocs : ∀ doc ∈ earlier.flatMap Payload.docs ++ payload.docs, Entries.Distinct doc :=
    fun doc hmem => distinct doc (List.mem_append_left _ hmem)
  rw [batchIds_append, batchIds_append] at hfree
  have hfront := hfree.left_of_append
  obtain ⟨hfiled, hissued⟩ := filed_creations token truthful i
    (fun doc hmem => hdocs doc (List.mem_append_left _ hmem)) hfront.left_of_append
  have hnext := hfiled.free_rest hfront
  rw [← hissued] at hnext
  exact (filed_creation token (truthful.run token _) i
    (fun doc hmem => hdocs doc (List.mem_append_right _ hmem)) hnext).1

/-- The same documents, created in any order, leave stores with the same bodies. -/
theorem sameBodies_creations (wellFormed : shared.store.WellFormed)
    (truthful : shared.Truthful services) (i : Nat)
    (same : (payloads'.flatMap Payload.docs).Perm (payloads.flatMap Payload.docs))
    (distinct : ∀ doc ∈ payloads.flatMap Payload.docs, Entries.Distinct doc)
    (given : ∀ doc ∈ payloads.flatMap Payload.docs, doc.takeIdentifier.1.isSome)
    (hfree : (shared.handle i).Free (services i).model
      ((payloads.flatMap Payload.docs).map Document.ownId))
    (draws : (shared.run token services (creations i payloads)).store.DrawsAlike token token') :
    SameBodies token token' services (shared.run token services (creations i payloads))
      (shared.run token' services (creations i payloads')) := by
  have given' : ∀ doc ∈ payloads'.flatMap Payload.docs, doc.takeIdentifier.1.isSome :=
    fun doc hmem => given doc (same.mem_iff.1 hmem)
  -- Free places do not depend on the order in which they are listed.
  have hfree' := hfree.perm (same.map Document.ownId)
  rw [← batchIds_of_given token shared.store.issued given] at hfree
  rw [← batchIds_of_given token' shared.store.issued given'] at hfree'
  obtain ⟨hfiled, hissued⟩ := filed_creations token truthful i distinct hfree
  obtain ⟨hfiled', hissued'⟩ := filed_creations token' truthful i
    (fun doc hmem => distinct doc (same.mem_iff.1 hmem)) hfree'
  rw [batchNews_of_given token _ given] at hfiled
  rw [batchNews_of_given token' _ given'] at hfiled'
  -- On both sides the same entries have been filed, each of them once.
  have hbodies := hfiled.bodies_eq hfiled' fun entry => (same.map _).symm.mem_iff
  refine ⟨⟨hbodies, ?_, ?_, ?_, ?_⟩, draws, truthful.run token _, truthful.run token' _⟩
  · rw [transientViews_run, transientViews_run]
  · rw [hissued, hissued', same.length_eq]
  · exact keeps_run Store.WellFormed (fun _ => Service.stable_wellFormed) wellFormed _
  · exact keeps_run Store.WellFormed (fun _ => Service.stable_wellFormed) wellFormed _

/-- Where no design documents are held and none are created, no token names anything. -/
theorem drawsAlike_creations (token' : Nat → String) (truthful : shared.Truthful services) (i : Nat)
    (distinct : ∀ doc ∈ payloads.flatMap Payload.docs, Entries.Distinct doc)
    (hfree : (shared.handle i).Free (services i).model
      (batchIds token shared.store.issued (payloads.flatMap Payload.docs)))
    (nothing : ∀ model id, isDesignId id = true → shared.store.held? model id = none)
    (plain : ∀ id ∈ batchIds token shared.store.issued (payloads.flatMap Payload.docs),
      isDesignId id = false) :
    (shared.run token services (creations i payloads)).store.DrawsAlike token token' := by
  have hfiled := (filed_creations token truthful i distinct hfree).1
  have hnone : ∀ model (name : ViewName), (shared.run token services
      (creations i payloads)).store.held? model name.designId = none := by
    intro model name
    have hdesign := isDesignId_designId name
    refine (hfiled.old model _ fun _ hmem => ?_).trans (nothing model _ hdesign)
    rw [keys_batchNews] at hmem
    cases hdesign.symm.trans (plain _ hmem)
  exact fun _ n _ => .inr fun model => ⟨hnone model _, hnone model _⟩

end Shared

/-- **The order of creations is invisible.**  In every state of services over one store, let one of
    them create documents that give their identifiers, where no two are filed under the same
    identifier and nothing is held under any; and compare this with the same documents in any other
    order, both times one by one, in batches, or some of either, and with any tokens drawn.  Then
    all of these creations succeed.  Behind any number of reads through any of the services, every
    get and every find that is blind to revisions is answered alike, whatever it selects, sorts and
    skips, and whether the store evaluates views or only stored ones.

    In the last case finds draw identifiers for what they store, on both sides the same ones or
    such under which nothing is held. -/
theorem creation_order_is_invisible {past : Nat → String} (token token' : Nat → String)
    {services : Nat → Service.Settings} {shared : Shared}
    (reached : ∀ j, Service.Reached past (services j).model (shared.handle j)) (i : Nat)
    {payloads payloads' : List Payload}
    (same : (payloads'.flatMap Payload.docs).Perm (payloads.flatMap Payload.docs))
    (distinct : ∀ doc ∈ payloads.flatMap Payload.docs, Entries.Distinct doc)
    (given : ∀ doc ∈ payloads.flatMap Payload.docs, doc.takeIdentifier.1.isSome)
    (free : (shared.handle i).Free (services i).model
      ((payloads.flatMap Payload.docs).map Document.ownId)) :
    let left := shared.run token services (Shared.creations i payloads)
    let right := shared.run token' services (Shared.creations i payloads')
    shared.CreatesAll token services i payloads ∧ shared.CreatesAll token' services i payloads' ∧
    (left.store.DrawsAlike token token' →
      ∀ reads : List (Nat × Call), (∀ turn ∈ reads, turn.2.Reads) →
      ∀ j call, Call.Blind (left.run token services reads).store (services j).model call →
        (left.run token services reads).reply token services (j, call) =
          (right.run token' services reads).reply token' services (j, call)) := by
  intro left right
  have truthful : shared.Truthful services := fun j => (reached j).database
  have wellFormed : shared.store.WellFormed := (reached i).wellFormed
  have given' : ∀ doc ∈ payloads'.flatMap Payload.docs, doc.takeIdentifier.1.isSome :=
    fun doc hmem => given doc (same.mem_iff.1 hmem)
  refine ⟨?created, ?created', fun draws reads hreads j call blind => ?_⟩
  case created =>
    refine Shared.createsAll token truthful i distinct ?_
    rwa [batchIds_of_given token _ given]
  case created' =>
    refine Shared.createsAll token' truthful i
      (fun doc hmem => distinct doc (same.mem_iff.1 hmem)) ?_
    rw [batchIds_of_given token' _ given']
    exact free.perm (same.map Document.ownId)
  -- Reads keep the relation between the two runs and answer alike.
  have alike : Shared.SameBodies token token' services left right :=
    Shared.sameBodies_creations wellFormed truthful i same distinct given free draws
  exact (alike.run hreads).reply_eq blind

/-- Two documents, each with an identifier of its own. -/
def twoNotes : List Document :=
  [[("_id", .string "b"), ("n", .int32 2)], [("id", .string "a"), ("n", .int32 1)]]

/-- Created as a batch, or one by one the other way round and with other tokens, one of them is
    found alike behind a read of the other one, also over a store that evaluates stored views only;
    and their revisions are different. -/
theorem two_notes_in_either_order :
    let token := Store.countedToken
    let token' := fun n => Store.countedToken (n + 7)
    let left := (Shared.empty false).run token notesServices
      (Shared.creations 0 [.batch twoNotes])
    let right := (Shared.empty false).run token' notesServices
      (Shared.creations 0 (twoNotes.reverse.map .single))
    (left.run token notesServices [(0, .get "a")]).reply token notesServices
        (1, .find [("n", .int32 2)] {}) =
      (right.run token' notesServices [(0, .get "a")]).reply token' notesServices
        (1, .find [("n", .int32 2)] {}) ∧
      (left.store.held? "notes" "a").map Record.revision ≠
        (right.store.held? "notes" "a").map Record.revision := by
  intro token token' left right
  have reached : ∀ j, Service.Reached token (notesServices j).model
      ((Shared.empty false).handle j) := fun _ => .built (.empty false)
  have distinct : ∀ doc ∈ [Payload.batch twoNotes].flatMap Payload.docs, Entries.Distinct doc := by
    decide
  have given : ∀ doc ∈ [Payload.batch twoNotes].flatMap Payload.docs,
      doc.takeIdentifier.1.isSome := by
    decide
  -- In the empty store every place is free and every draw gives a new design document.
  have nothing : ∀ model id, (Shared.empty false).store.held? model id = none :=
    Store.held?_empty false
  have free : ((Shared.empty false).handle 0).Free "notes"
      (([Payload.batch twoNotes].flatMap Payload.docs).map Document.ownId) :=
    ⟨by decide, fun id _ => nothing "notes" id⟩
  have same : ((twoNotes.reverse.map Payload.single).flatMap Payload.docs).Perm
      ([Payload.batch twoNotes].flatMap Payload.docs) := List.reverse_perm twoNotes
  have draws : left.store.DrawsAlike token token' :=
    Shared.drawsAlike_creations token' (fun j => (reached j).database) 0 distinct free
      (fun model id _ => nothing model id) (by decide)
  obtain ⟨-, -, alike⟩ :=
    creation_order_is_invisible token token' reached 0 same distinct given free
  have reads : ∀ turn ∈ [(0, Call.get "a")], turn.2.Reads := by
    rintro turn hmem
    cases List.mem_singleton.1 hmem
    trivial
  refine ⟨alike draws _ reads 1 _ ?_, by decide⟩
  rintro plan ⟨⟩
  exact (by decide : (Expr.compile [("n", .int32 2)]).Blind)

end DocStore
