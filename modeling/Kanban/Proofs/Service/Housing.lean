/-
Where the cards of the service are.  Every request leaves a card in a list that
is stored, with one exception: a move is not asked whether its target is one.  A
card that is moved to an unknown list is stored there all the same, so cards
without a list are exactly those that a request has stranded.
-/
import Mathlib.Data.List.Induction
import Kanban.Proofs.Move.Frame
import Kanban.Service.Basic

namespace Kanban

section

variable {store : Store} {policy : MovePolicy} {kind other : Kind} {id : String}

/-- What is stored after a creation was stored before, or stands in the container
that it names. -/
theorem Store.get?_create {container : String} {draft : Draft} {now : Item}
    (hnow : (store.create kind container draft).1.get? other id = some now) :
    store.get? other id = some now ∨ (other = kind ∧ now.container = container) := by
  cases hposition : store.positionFor kind container draft.position with
  | error cause =>
      rw [Store.get?_create_of_error hposition] at hnow
      exact Or.inl hnow
  | ok position =>
      rw [Store.get?_create_of_ok hposition] at hnow
      split at hnow
      · rename_i hkey
        obtain rfl := Option.some.inj hnow
        exact Or.inr ⟨congrArg Prod.fst hkey, rfl⟩
      · exact Or.inl hnow

theorem Store.exists_get?_create {container : String} {draft : Draft} {old : Item}
    (hold : store.get? other id = some old) :
    ∃ now, (store.create kind container draft).1.get? other id = some now := by
  cases hposition : store.positionFor kind container draft.position with
  | error cause =>
      rw [Store.get?_create_of_error hposition]
      exact ⟨old, hold⟩
  | ok position =>
      rw [Store.get?_create_of_ok hposition]
      split
      · exact ⟨_, rfl⟩
      · exact ⟨old, hold⟩

/-- A move that succeeds brings its item to the target; everything else stays in
its container. -/
theorem Store.get?_move {request : MoveRequest} {now : Item}
    (hnow : (store.move policy kind request).1.get? other id = some now) :
    (∃ old, store.get? other id = some old ∧ old.container = now.container) ∨
      (other = kind ∧ id = request.id ∧ now.container = request.target ∧
        ∃ moved, (store.move policy kind request).2 = .ok moved) := by
  rcases hmove : store.move policy kind request with ⟨after, cause | moved⟩
  · obtain rfl := Store.move_of_error hmove
    rw [hmove] at hnow
    exact Or.inl ⟨now, hnow, rfl⟩
  · rw [hmove] at hnow
    obtain ⟨item, hitem, -, -, hframe⟩ := move_frame hmove
    split at hframe
    · rw [hframe] at hnow
      exact Or.inl ⟨now, hnow, rfl⟩
    · obtain ⟨placement, -, hframe⟩ := hframe
      obtain ⟨old, hold, hcontainer⟩ := hframe.exists_before hnow
      split at hcontainer
      · rename_i hmoved
        have hid := (Shelf.get?_eq_some_iff.mp hitem).2
        exact Or.inr ⟨hmoved.1, hmoved.2.trans hid, hcontainer, moved, rfl⟩
      · exact Or.inl ⟨old, hold, hcontainer.symm⟩

theorem Store.exists_get?_move {request : MoveRequest} {old : Item}
    (hold : store.get? other id = some old) :
    ∃ now, (store.move policy kind request).1.get? other id = some now := by
  rcases hmove : store.move policy kind request with ⟨after, cause | moved⟩
  · obtain rfl := Store.move_of_error hmove
    exact ⟨old, hold⟩
  · obtain ⟨item, hitem, -, -, hframe⟩ := move_frame hmove
    split at hframe
    · rw [hframe]
      exact ⟨old, hold⟩
    · obtain ⟨placement, -, hframe⟩ := hframe
      exact hframe.exists_after hold

end

/-- The move that a request spells out. -/
def Request.move? (request : Request) : Option (Kind × MoveRequest) :=
  match Resource.ofPath? request.path, request.body.fields? with
  | some (.move kind id), .ok fields => ((MoveRequest.ofBody? id fields).toOption).map (kind, ·)
  | _, _ => none

namespace Service

/-- The service after a request that nothing interferes with. -/
def after (service : Service) (request : Request) : Service :=
  (service.handle .none request).service

/-- A new service after some requests. -/
def run (policy : MovePolicy) (requests : List Request) : Service :=
  requests.foldl after (start policy)

/-- A request that is answered with the card it asks to be moved, though no list
goes by the name of the target. -/
structure Strands (service : Service) (request : Request) (id container : String) : Prop where
  asked : ∃ move, request.move? = some (.card, move) ∧ move.id = id ∧ move.target = container
  answered : ∃ content, (service.handle .none request).reply = .content content
  unlisted : service.store.get? .list container = none

variable {service : Service} {request : Request} {kind : Kind}

theorem handle_of_move? (service : Service) {move : MoveRequest}
    (hasked : request.move? = some (kind, move)) :
    service.handle .none request =
      if request.method = .post then service.move .none kind move
      else service.answer .notAllowed := by
  unfold Request.move? at hasked
  split at hasked
  · rename_i asked id fields hpath hfields
    obtain ⟨read, hread, hpair⟩ := Option.map_eq_some_iff.mp hasked
    obtain ⟨rfl, rfl⟩ := Prod.mk.inj hpair
    have hbody : MoveRequest.ofBody? id fields = .ok read := by
      cases hresult : MoveRequest.ofBody? id fields with
      | error problems =>
          rw [hresult] at hread
          cases hread
      | ok value =>
          rw [hresult] at hread
          exact congrArg Except.ok (Option.some.inj hread)
    simp only [handle, hpath, Resource.allows, serve, withBody, hfields, hbody,
      decide_eq_true_eq]
  · cases hasked

theorem store_create (service : Service) (kind : Kind) (container : String) (item : NewItem) :
    (service.create kind container item).service.store = service.store ∨
      ∃ draft, (kind = .card → ∃ list, service.store.get? .list container = some list) ∧
        (service.create kind container item).service.store =
          (service.store.create kind container draft).1 := by
  by_cases hunlisted : kind = .card ∧ (service.store.get? .list container).isNone
  · left
    rw [create, if_pos hunlisted]
    rfl
  · right
    refine ⟨⟨item.payload, none, none⟩, ?_, ?_⟩
    · intro hcard
      cases hlist : service.store.get? .list container with
      | none => exact absurd ⟨hcard, by rw [hlist]; rfl⟩ hunlisted
      | some list => exact ⟨list, rfl⟩
    · rw [create, if_neg hunlisted]

/-- A request that spells out no move changes nothing, or creates something; a
card only in a list that is stored. -/
theorem store_of_no_move (hasked : request.move? = none) :
    (service.after request).store = service.store ∨
      ∃ kind container draft,
        (kind = .card → ∃ list, service.store.get? .list container = some list) ∧
          (service.after request).store = (service.store.create kind container draft).1 := by
  cases hpath : Resource.ofPath? request.path with
  | none =>
      left
      simp only [after, handle, hpath]
      rfl
  | some resource =>
      by_cases hallowed : resource.allows request.method
      · have hserve : service.after request =
            (service.serve .none request.method request.body resource).service := by
          simp only [after, handle, hpath, hallowed, ↓reduceIte]
        rw [hserve]
        cases resource with
        | health => exact Or.inl rfl
        | schema => exact Or.inl rfl
        | manual => exact Or.inl rfl
        | contents kind container =>
            by_cases hget : request.method = .get
            · left
              simp only [serve, hget, ↓reduceIte]
              rfl
            · simp only [serve, hget, ↓reduceIte, withBody]
              cases hfields : request.body.fields? with
              | error cause => cases cause <;> exact Or.inl rfl
              | ok fields =>
                  cases hitem : NewItem.ofBody? fields with
                  | error problems => exact Or.inl (by simp only [hitem]; rfl)
                  | ok item =>
                      simp only [hitem]
                      rcases service.store_create kind container item with
                        hsame | ⟨draft, hlisted, hcreated⟩
                      · exact Or.inl hsame
                      · exact Or.inr ⟨kind, container, draft, hlisted, hcreated⟩
        | move kind id =>
            left
            simp only [serve, withBody]
            cases hfields : request.body.fields? with
            | error cause => cases cause <;> rfl
            | ok fields =>
                cases hbody : MoveRequest.ofBody? id fields with
                | error problems => simp only [hbody]; rfl
                | ok move =>
                    simp only [Request.move?, hpath, hfields, hbody, Except.toOption,
                      Option.map_some, reduceCtorEq] at hasked
      · left
        simp only [after, handle, hpath, hallowed, Bool.false_eq_true, ↓reduceIte]
        rfl

/-- A move is answered with the item exactly if it succeeds. -/
theorem reply_move (service : Service) (kind : Kind) (move : MoveRequest) :
    (∃ content, (service.move .none kind move).reply = .content content) ↔
      ∃ moved, (service.store.move service.policy kind move).2 = .ok moved := by
  rcases hmove : moveItem service.policy .none kind move service.store with ⟨session, result⟩
  simp only [Service.move, Store.move, hmove]
  cases result with
  | ok moved => exact ⟨fun _ => ⟨moved, rfl⟩, fun _ => ⟨_, rfl⟩⟩
  | error cause =>
      constructor
      · rintro ⟨content, hreply⟩
        cases hfault : cause.fault? <;> simp [rejection, hfault] at hreply
      · rintro ⟨moved, hmoved⟩
        cases hmoved

theorem store_move (service : Service) (kind : Kind) (move : MoveRequest) :
    (service.move .none kind move).service.store =
      (service.store.move service.policy kind move).1 :=
  rfl

/-- Lists are never taken away. -/
theorem exists_list_after {id : String} {list : Item}
    (hlist : service.store.get? .list id = some list) :
    ∃ now, (service.after request).store.get? .list id = some now := by
  cases hasked : request.move? with
  | none =>
      rcases store_of_no_move hasked with hsame | ⟨kind, container, draft, -, hcreated⟩
      · rw [hsame]
        exact ⟨list, hlist⟩
      · rw [hcreated]
        exact Store.exists_get?_create hlist
  | some asked =>
      rw [after, service.handle_of_move? hasked]
      split
      · rw [store_move]
        exact Store.exists_get?_move hlist
      · exact ⟨list, hlist⟩

/-- Where a card stands after a request: in a list that is stored, in the container
where it stood, or where the request has stranded it. -/
theorem card_after {id : String} {card : Item}
    (hcard : (service.after request).store.get? .card id = some card) :
    (∃ list, service.store.get? .list card.container = some list) ∨
      (∃ old, service.store.get? .card id = some old ∧ old.container = card.container) ∨
      service.Strands request id card.container := by
  cases hasked : request.move? with
  | none =>
      rcases store_of_no_move hasked with hsame | ⟨kind, container, draft, hlisted, hcreated⟩
      · rw [hsame] at hcard
        exact Or.inr (Or.inl ⟨card, hcard, rfl⟩)
      · rw [hcreated] at hcard
        rcases Store.get?_create hcard with hold | ⟨hkind, rfl⟩
        · exact Or.inr (Or.inl ⟨card, hold, rfl⟩)
        · exact Or.inl (hlisted hkind.symm)
  | some asked =>
      obtain ⟨kind, move⟩ := asked
      have hhandled := service.handle_of_move? hasked
      rw [after, hhandled] at hcard
      split at hcard
      · rename_i hpost
        rw [if_pos hpost] at hhandled
        rw [store_move] at hcard
        rcases Store.get?_move hcard with hold | ⟨hkind, hid, htarget, hmoved⟩
        · exact Or.inr (Or.inl hold)
        · cases hlist : service.store.get? .list card.container with
          | some list => exact Or.inl ⟨list, rfl⟩
          | none =>
              subst hkind
              refine Or.inr (Or.inr ⟨⟨move, hasked, hid.symm, htarget.symm⟩, ?_, hlist⟩)
              rw [hhandled]
              exact (service.reply_move .card move).mpr hmoved
      · exact Or.inr (Or.inl ⟨card, hcard, rfl⟩)

/-- A stranded card is stored in a container that is no list. -/
theorem Strands.card_stored {id container : String}
    (hstrands : service.Strands request id container) :
    ∃ card, (service.after request).store.get? .card id = some card ∧
      card.container = container ∧ (service.after request).store.get? .list container = none := by
  obtain ⟨⟨move, hasked, rfl, rfl⟩, hanswered, hunlisted⟩ := hstrands
  have hhandled := service.handle_of_move? hasked
  rw [hhandled] at hanswered
  rw [after, hhandled]
  split at hanswered
  · rename_i hpost
    rw [if_pos hpost, store_move]
    obtain ⟨moved, hmoved⟩ := (service.reply_move .card move).mp hanswered
    rcases hmove : service.store.move service.policy .card move with ⟨store, result⟩
    rw [hmove] at hmoved
    obtain rfl : result = .ok moved := hmoved
    obtain ⟨item, hitem, hfound, htarget, -⟩ := move_frame hmove
    refine ⟨moved, hfound, htarget, ?_⟩
    cases hlist : store.get? .list move.target with
    | none => rfl
    | some list =>
        rw [show store = (service.store.move service.policy .card move).1 by rw [hmove]] at hlist
        rcases Store.get?_move hlist with ⟨old, hold, -⟩ | ⟨hkind, -⟩
        · rw [hold] at hunlisted
          cases hunlisted
        · cases hkind
  · obtain ⟨content, hcontent⟩ := hanswered
    cases hcontent

/-- After any requests to a new service every card is in a list that is stored,
unless one of the requests has stranded it where it is; and whenever a request
strands a card, the card is stored there and no list is. -/
theorem cards_housed (policy : MovePolicy) (requests : List Request) :
    (∀ id card, (run policy requests).store.get? .card id = some card →
      (∃ list, (run policy requests).store.get? .list card.container = some list) ∨
        ∃ earlier request later, requests = earlier ++ request :: later ∧
          (run policy earlier).Strands request id card.container) ∧
    ∀ request id container, (run policy requests).Strands request id container →
      ∃ card, (run policy (requests ++ [request])).store.get? .card id = some card ∧
        card.container = container ∧
        (run policy (requests ++ [request])).store.get? .list container = none := by
  have hlast (requests : List Request) (request : Request) :
      run policy (requests ++ [request]) = (run policy requests).after request :=
    List.foldl_concat ..
  constructor
  · induction requests using List.reverseRecOn with
    | nil =>
        intro id card hcard
        cases hcard
    | append_singleton requests request ih =>
        intro id card hcard
        rw [hlast] at hcard ⊢
        rcases card_after hcard with ⟨list, hlist⟩ | ⟨old, hold, hcontainer⟩ | hstrands
        · exact Or.inl (exists_list_after hlist)
        · rcases ih id old hold with ⟨list, hlist⟩ | ⟨earlier, cause, later, rfl, hstrands⟩
          · rw [hcontainer] at hlist
            exact Or.inl (exists_list_after hlist)
          · rw [hcontainer] at hstrands
            exact Or.inr ⟨earlier, cause, later ++ [request], by simp, hstrands⟩
        · exact Or.inr ⟨requests, request, [], rfl, hstrands⟩
  · intro request id container hstrands
    rw [hlast]
    exact hstrands.card_stored

/-- A list on a board and a card in it. -/
def firstCard : List Request :=
  [⟨.post, "/api/v1/boards/b/lists", .held (.map [("title", .text "To do")])⟩,
    ⟨.post, "/api/v1/lists/list-1/cards", .held (.map [("title", .text "Write")])⟩]

/-- The card is moved to a list that nobody made. -/
def moveToNowhere : Request :=
  ⟨.post, "/api/v1/cards/card-2/move",
    .held (.map [("toIndex", .int 0), ("targetContainerId", .text "nowhere")])⟩

theorem cards_housed_moveToNowhere :
    (run .default firstCard).Strands moveToNowhere "card-2" "nowhere" ∧
      ∃ card, (run .default (firstCard ++ [moveToNowhere])).store.get? .card "card-2" =
          some card ∧
        card.container = "nowhere" ∧
        (run .default (firstCard ++ [moveToNowhere])).store.get? .list "nowhere" = none := by
  have hasked : moveToNowhere.move? = some (.card, ⟨"card-2", none, some 0, "nowhere"⟩) := by
    decide +kernel
  have hreply : ((run .default firstCard).handle .none moveToNowhere).reply =
      .content (Reply.ofItem .card
        ⟨"card-2", "nowhere", .ofInt 1, 2, [("title", .text "Write")]⟩) := by
    decide +kernel
  have hunlisted : (run .default firstCard).store.get? .list "nowhere" = none := by
    decide +kernel
  have hstrands : (run .default firstCard).Strands moveToNowhere "card-2" "nowhere" :=
    ⟨⟨_, hasked, rfl, rfl⟩, ⟨_, hreply⟩, hunlisted⟩
  exact ⟨hstrands, (cards_housed .default firstCard).2 _ _ _ hstrands⟩

end Service

end Kanban
