import AutoRouteGateway.Service.ChatStream

/-!
Contract: no mixed response.

Owns: the shape of every observable trace of `chat_stream`, and its proof from
one invariant of the selection loop and one of the delivery.
-/

namespace AutoRouteGateway.Service

open AutoRouteGateway.Domain
open AutoRouteGateway.Routing
open AutoRouteGateway.Runtime
open AutoRouteGateway.State

/-- One candidate contacted, with the stream its adapter produced. -/
structure Contact where
  attempt : Nat
  candidate : RouteCandidate
  stream : UpstreamStream

def Contact.step (contact : Contact) : StreamStep :=
  .contact contact.attempt contact.candidate contact.stream

/-- The stream is what the candidate's adapter answered to this attempt. -/
def Contact.Genuine {σ : Type} (upstream : Upstream σ) (contact : Contact) : Prop :=
  ∃ secret s,
    contact.stream = (upstream.chatCompletionsStream contact.attempt contact.candidate secret s).1

/-- Contacts in attempt order, followed by nothing or by the events of the last
one's stream from its first on, in order. -/
def NoMixedResponse {σ : Type} (upstream : Upstream σ) (steps : List StreamStep) : Prop :=
  ∃ contacts : List Contact,
    contacts.map Contact.attempt = List.range' 1 contacts.length ∧
      (∀ contact ∈ contacts, contact.Genuine upstream) ∧
        (steps = contacts.map Contact.step ∨
          ∃ last events, contacts.getLast? = some last ∧ events <+: last.stream.events ∧
            steps = contacts.map Contact.step ++ events.map (.yielded last.attempt))

/-! ## Selection -/

section Selection

variable {σ : Type} {S : StateStore σ} {engine : FallbackEngine} {service : GatewayService}
  {clock : Clock} {upstream : Upstream σ} {request : RequestInfo}

def StreamTurn.contact? (turn : StreamTurn σ) : Option Contact :=
  match turn.verdict with
  | .contacted attempt => some ⟨attempt.number, attempt.candidate, attempt.stream⟩
  | _ => none

/-- The contacts of a selection, in order. -/
def Selection.contacts (selection : Selection σ) : List Contact :=
  selection.turns.filterMap StreamTurn.contact?

theorem steps_eq_contacts (turns : List (StreamTurn σ)) :
    turns.flatMap StreamTurn.steps = (turns.filterMap StreamTurn.contact?).map Contact.step := by
  induction turns with
  | nil => rfl
  | cons turn rest inductionHypothesis =>
      obtain ⟨position, scored, store, attempts, verdict⟩ := turn
      rw [List.flatMap_cons, inductionHypothesis]
      cases verdict <;> rfl

/-- What the selection loop contacts after `attempts` earlier contacts. -/
structure Contacts (upstream : Upstream σ) (attempts : Nat) (selection : Selection σ) :
    Prop where
  numbers : selection.contacts.map Contact.attempt =
    List.range' (attempts + 1) selection.contacts.length
  genuine : ∀ contact ∈ selection.contacts, contact.Genuine upstream
  /-- The selected handle holds the whole stream of the last contact. -/
  selected : ∀ handle, selection.ending = .selected handle →
    ∃ last, selection.contacts.getLast? = some last ∧ last.attempt = handle.attempt ∧
      handle.buffered ++ handle.events = last.stream.events

/-- A loop that contacts nobody and raises. -/
theorem Contacts.none {attempts : Nat} {selection : Selection σ} {error : ServiceError}
    (nobody : selection.contacts = []) (raises : selection.ending = .raised error) :
    Contacts upstream attempts selection where
  numbers := by rw [nobody]; rfl
  genuine := by
    intro contact member
    rw [nobody] at member
    cases member
  selected := by
    intro handle selected
    rw [raises] at selected
    cases selected

/-- A selected handle holds what was read and what is still to come. -/
theorem contactCandidate_selected {attempt : Nat} {candidate : RouteCandidate}
    {secret : String} {s : σ} {handle : StreamHandle}
    (selected : (contactCandidate S engine clock upstream request attempt candidate secret s).2 =
      some (.selected handle)) :
    handle.attempt = attempt ∧
      handle.buffered ++ handle.events =
        (upstream.chatCompletionsStream attempt candidate secret s).1.events := by
  simp only [contactCandidate] at selected
  split at selected
  · cases selected
  · split at selected
    · rename_i buffered rest read
      cases selected
      exact ⟨rfl, (readPrefix_selected read).1⟩
    · cases selected

/-- The contact of one candidate, and the end of the loop if it ends there. -/
theorem Contacts.single (attempts position : Nat) (sc : ScoredCandidate) (secret : String)
    (s : σ) {ending : SelectionEnd} {store : σ}
    (ends : (contactCandidate S engine clock upstream request (attempts + 1) sc.candidate secret
      s).2 = some ending) :
    Contacts upstream attempts
      ⟨[⟨position, sc, s, attempts, .contacted (contactCandidate S engine clock upstream request
        (attempts + 1) sc.candidate secret s).1⟩], ending, store⟩ := by
  rw [contactCandidate_log]
  constructor
  · rfl
  · intro contact member
    rw [List.mem_singleton.mp member]
    exact ⟨secret, s, rfl⟩
  · intro handle selected
    change ending = .selected handle at selected
    rw [selected] at ends
    obtain ⟨attempt, whole⟩ := contactCandidate_selected ends
    exact ⟨_, rfl, attempt.symm, whole⟩

/-- A contact in front of what the loop contacts from the next position on. -/
theorem Contacts.cons {attempts : Nat} (position : Nat) (sc : ScoredCandidate)
    (secret : String) (s : σ) {later : Selection σ}
    (rest : Contacts upstream (attempts + 1) later) :
    Contacts upstream attempts
      { later with turns := ⟨position, sc, s, attempts, .contacted (contactCandidate S engine
        clock upstream request (attempts + 1) sc.candidate secret s).1⟩ :: later.turns } := by
  rw [contactCandidate_log]
  constructor
  · change _ :: later.contacts.map Contact.attempt = List.range' _ (later.contacts.length + 1)
    rw [rest.numbers, List.range'_succ]
  · intro contact member
    rcases List.mem_cons.mp member with same | member
    · rw [same]
      exact ⟨secret, s, rfl⟩
    · exact rest.genuine contact member
  · intro handle selected
    obtain ⟨last, isLast, attempt, whole⟩ := rest.selected handle selected
    refine ⟨last, ?_, attempt, whole⟩
    change (_ :: later.contacts).getLast? = some last
    rw [List.getLast?_cons, isLast]
    rfl

/-- The invariant of the selection loop. -/
theorem selectFrom_contacts (S : StateStore σ) (engine : FallbackEngine)
    (service : GatewayService) (clock : Clock) (upstream : Upstream σ) (request : RequestInfo)
    (scored : List ScoredCandidate) (position attempts : Nat) (s : σ) :
    Contacts upstream attempts
      (selectFrom S engine service clock upstream request scored position attempts s) := by
  induction scored generalizing position attempts s with
  | nil => exact Contacts.none rfl rfl
  | cons sc rest inductionHypothesis =>
      simp only [selectFrom]
      split
      · split
        · exact Contacts.none rfl rfl
        · split
          · exact Contacts.none rfl rfl
          · rename_i secret _
            split
            · rename_i ending ends
              exact Contacts.single attempts position sc secret s ends
            · exact Contacts.cons position sc secret s
                (inductionHypothesis (position + 1) (attempts + 1) _)
      · have later := inductionHypothesis (position + 1) attempts s
        exact
          { numbers := later.numbers
            genuine := later.genuine
            selected := later.selected }

end Selection

/-! ## Delivery -/

section Delivery

variable {σ : Type} {S : StateStore σ} {request : RequestInfo} {handle : StreamHandle}

theorem deliveryFailure_yields (exception : UpstreamException) (committed : Bool) (s : σ) :
    (deliveryFailure S request handle exception committed s).yields = [] := by
  simp only [deliveryFailure]
  split
  · rfl
  · split <;> rfl

/-- Delivery yields events from the first on, in order. -/
theorem deliver_prefix (events : List (Bool × Event)) (committed : Bool) (s : σ) :
    (deliver S request handle events committed s).yields <+: events.map Prod.snd := by
  induction events generalizing committed s with
  | nil =>
      simp only [deliver]
      split
      · exact List.nil_prefix
      · rw [deliveryFailure_yields]
        exact List.nil_prefix
  | cons item rest inductionHypothesis =>
      obtain ⟨replayed, event⟩ := item
      simp only [deliver]
      split
      · rw [deliveryFailure_yields]
        exact List.nil_prefix
      · split
        · rw [deliveryFailure_yields]
          exact List.nil_prefix
        · exact List.cons_prefix_cons.mpr ⟨rfl, inductionHypothesis _ _⟩

theorem iterated_events (handle : StreamHandle) :
    handle.iterated.map Prod.snd = handle.buffered ++ handle.events := by
  simp [StreamHandle.iterated, Function.comp_def]

end Delivery

/-! ## Traces -/

theorem take_range'_one (count length : Nat) :
    (List.range' 1 length).take count = List.range' 1 (min count length) := by
  rcases Nat.le_total count length with short | long
  · rw [List.take_range'_of_length_ge short, Nat.min_eq_left short]
  · rw [List.take_range'_of_length_le long, Nat.min_eq_right long]

/-- Stopping early keeps the shape. -/
theorem NoMixedResponse.of_prefix {σ : Type} {upstream : Upstream σ}
    {steps observed : List StreamStep} (unmixed : NoMixedResponse upstream steps)
    (early : observed <+: steps) : NoMixedResponse upstream observed := by
  obtain ⟨contacts, numbers, genuine, shape⟩ := unmixed
  have onlyContacts : observed <+: contacts.map Contact.step →
      NoMixedResponse upstream observed := by
    intro before
    rw [List.prefix_iff_eq_take.mp before, ← List.map_take]
    refine ⟨_, ?_, fun contact member => genuine contact (List.mem_of_mem_take member),
      Or.inl rfl⟩
    rw [List.map_take, numbers, take_range'_one, List.length_take]
  rcases shape with only | ⟨last, events, isLast, fromFirst, whole⟩
  · exact onlyContacts (only ▸ early)
  · rw [whole] at early
    rcases List.prefix_or_prefix_of_prefix early (List.prefix_append _ _) with before | after
    · exact onlyContacts before
    · obtain ⟨yields, rfl⟩ := after
      have cut := (List.prefix_append_right_inj _).mp early
      rw [List.prefix_iff_eq_take.mp cut, ← List.map_take]
      exact ⟨contacts, numbers, genuine, Or.inr ⟨last, _, isLast,
        (List.take_prefix _ _).trans fromFirst, rfl⟩⟩

/-- Whatever every upstream does, and wherever the caller stops, the events
yielded by `chat_stream` are those of the last candidate contacted, from its
first on, and no candidate is contacted after them. -/
theorem chatStream_noMixedResponse {σ : Type} (S : StateStore σ) (engine : FallbackEngine)
    (service : GatewayService) (clock : Clock) (upstream : Upstream σ)
    (requestId virtualModel : String) (payload : Dict) (counter : Nat) (start : σ)
    (count : Nat) :
    NoMixedResponse upstream
      ((chatStream S engine service clock upstream requestId virtualModel payload counter
        start).steps.take count) := by
  refine NoMixedResponse.of_prefix ?_ (List.take_prefix count _)
  simp only [chatStream]
  split
  · exact ⟨[], rfl, List.forall_mem_nil _, Or.inl rfl⟩
  · rename_i scored _ _
    have contacts := selectFrom_contacts S engine service clock upstream
      ⟨requestId, virtualModel⟩ scored 0 0 start
    rw [steps_eq_contacts]
    split
    · exact ⟨_, contacts.numbers, contacts.genuine, Or.inl rfl⟩
    · rename_i handle selected
      obtain ⟨last, isLast, attempt, whole⟩ := contacts.selected handle selected
      have yielded : (deliver S ⟨requestId, virtualModel⟩ handle handle.iterated false
          (selectFrom S engine service clock upstream ⟨requestId, virtualModel⟩ scored 0 0
            start).store).yields <+: last.stream.events := by
        rw [← whole, ← iterated_events]
        exact deliver_prefix _ _ _
      exact ⟨_, contacts.numbers, contacts.genuine,
        Or.inr ⟨last, _, isLast, yielded, by rw [attempt]; rfl⟩⟩

end AutoRouteGateway.Service
