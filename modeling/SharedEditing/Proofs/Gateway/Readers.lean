import SharedEditing.Proofs.Gateway.Departure
import SharedEditing.Proofs.Gateway.Offers

/-! # Slow and dead readers

A connection whose outbox is full, or that nobody takes from any more, misses messages.
Nobody else notices: two runs that differ in one outbox only agree in everything but that
outbox. And what a slow reader is handed is what it would be handed if its outbox never
refused anything, with some messages left out. -/

namespace SharedEditing

/-! ## Runs of errands -/

namespace Journal

def carry (journal : Journal) (errand : Errand) : Journal where
  gateway := (journal.gateway.fulfil errand).gateway
  movements := journal.movements ++ (journal.gateway.fulfil errand).movements
  postings := journal.postings ++ (journal.gateway.fulfil errand).postings

def ofErrands (observers : Observers) (errands : List Errand) : Journal :=
  errands.foldl carry (of observers [])

theorem ofErrands_concat (observers : Observers) (errands : List Errand) (errand : Errand) :
    ofErrands observers (errands ++ [errand]) = (ofErrands observers errands).carry errand := by
  simp [ofErrands, List.foldl_append]

theorem registry_ofErrands (observers : Observers) (errands : List Errand) :
    (ofErrands observers errands).gateway.registry =
      (of observers (errands.map Errand.event)).gateway.registry := by
  induction errands using List.reverseRecOn with
  | nil => rfl
  | append_singleton errands errand induction =>
      rw [ofErrands_concat, List.map_append, List.map_singleton, of_concat]
      simp only [carry, record, Gateway.fulfil_registry, Gateway.perform_registry, induction]

end Journal

namespace Errand

def besides? (reader : ClientId) (errand : Errand) : Option GatewayEvent :=
  match errand.event with
  | .connect client space outbox =>
      some (.connect client space (if client = reader then { capacity := 0 } else outbox))
  | .drain client => if client = reader then none else some (.drain client)
  | .closeOutbox client => if client = reader then none else some (.closeOutbox client)
  | event => some event

/-- The same with an outbox of a given capacity for one connection, from which nothing is
taken and which is never closed. -/
def hoarding? (reader : ClientId) (capacity : Nat) (errand : Errand) : Option Errand :=
  match errand.event with
  | .connect client space outbox =>
      some ⟨.connect client space (if client = reader then { capacity } else outbox),
        errand.arrangement⟩
  | .drain client => if client = reader then none else some errand
  | .closeOutbox client => if client = reader then none else some errand
  | _ => some errand

end Errand

namespace Gateway

variable {left right : Gateway} {reader : ClientId}

structure AgreeBesides (reader : ClientId) (left right : Gateway) : Prop where
  observers : left.observers = right.observers
  registry : left.registry = right.registry
  outboxes : ∀ other, other ≠ reader → left.outboxes.get? other = right.outboxes.get? other

structure Report.AlikeBesides {α β : Type} (reader : ClientId) (left : Report α)
    (right : Report β) : Prop where
  gateway : left.gateway.AgreeBesides reader right.gateway
  accepted : ∀ other, other ≠ reader →
    acceptedBy other left.postings = acceptedBy other right.postings
  offered : ∀ other, offeredTo other left.postings = offeredTo other right.postings

theorem messagesTo_lettersOf (observers : Observers) (registry : Registry)
    (event : GatewayEvent) (arrangement other : Arrangement) (client : ClientId) :
    messagesTo client (lettersOf observers registry ⟨event, arrangement⟩) =
      messagesTo client (lettersOf observers registry ⟨event, other⟩) := by
  cases event with
  | deliver audience notice =>
      have distinct (arrangement : Arrangement) :
          (arrangement.order (targets registry audience)).Nodup :=
        (arrangement.perm _).nodup_iff.mpr (nodup_targets registry audience)
      have served : client ∈ arrangement.order (targets registry audience) ↔
          client ∈ other.order (targets registry audience) := by
        rw [(arrangement.perm _).mem_iff, (other.perm _).mem_iff]
      simp only [lettersOf, messagesTo_toEach client (distinct _), served]
  | _ => rfl

theorem alike_of_letters {errand other : Errand} (observers : left.observers = right.observers)
    (moved : moved left.registry errand.event = moved right.registry other.event)
    (outboxes : ∀ client, client ≠ reader →
      (outboxesFor left.outboxes errand.event).get? client =
        (outboxesFor right.outboxes other.event).get? client)
    (letters : ∀ client, messagesTo client (lettersOf left.observers left.registry errand) =
      messagesTo client (lettersOf right.observers right.registry other)) :
    (left.fulfil errand).AlikeBesides reader (right.fulfil other) := by
  have posted := left.fulfil_post errand
  have postedToo := right.fulfil_post other
  refine ⟨⟨?observers, ?registry, fun client different => ?outboxes⟩,
    fun client different => ?accepted, fun client => ?offered⟩
  case observers => rw [fulfil_observers, fulfil_observers, observers]
  case registry => rw [fulfil_registry, fulfil_registry, moved]
  case outboxes =>
    rw [posted.1, postedToo.1]
    exact (Outboxes.post_agree (outboxes client different) (letters client)).2
  case accepted =>
    rw [posted.2, postedToo.2]
    exact (Outboxes.post_agree (outboxes client different) (letters client)).1
  case offered =>
    rw [posted.2, postedToo.2, offeredTo, offeredTo, Outboxes.map_letter_post,
      Outboxes.map_letter_post]
    exact letters client

theorem AgreeBesides.fulfil (agree : left.AgreeBesides reader right) {errand : Errand}
    {event : GatewayEvent} (asked : errand.besides? reader = some event) :
    (left.fulfil errand).AlikeBesides reader (right.fulfil ⟨event, .plain⟩) := by
  obtain ⟨observers, registry, outboxes⟩ := agree
  obtain ⟨present, arrangement⟩ := errand
  -- Only what is asked of the reader's own outbox is changed on the way.
  have kept (same : present = event)
      (filled : ∀ client, client ≠ reader →
        (outboxesFor left.outboxes present).get? client =
          (outboxesFor right.outboxes present).get? client) :
      (left.fulfil ⟨present, arrangement⟩).AlikeBesides reader
        (right.fulfil ⟨event, .plain⟩) := by
    subst same
    apply alike_of_letters observers (by rw [registry]) filled
    intro client
    rw [observers, registry]
    exact messagesTo_lettersOf _ _ _ _ _ _
  have modified (other : ClientId) (change : Outbox → Outbox) :
      ∀ client, client ≠ reader →
        (left.outboxes.modify other change).get? client =
          (right.outboxes.modify other change).get? client := by
    intro client different
    rw [Table.get?_modify, Table.get?_modify, outboxes client different]
  cases present with
  | connect client space outbox =>
      cases asked
      apply alike_of_letters observers
      · exact congrArg (fun registry => registry.connect client space) registry
      · intro other different
        simp only [outboxesFor, Table.get?_set]
        by_cases own : client = reader
        · subst own
          rw [if_neg different.symm, if_neg different.symm, outboxes other different]
        · rw [if_neg own, outboxes other different]
      · exact fun _ => rfl
  | drain client =>
      simp only [Errand.besides?, Option.ite_none_left_eq_some] at asked
      exact kept (Option.some.inj asked.2) (modified client Outbox.drain)
  | closeOutbox client =>
      simp only [Errand.besides?, Option.ite_none_left_eq_some] at asked
      exact kept (Option.some.inj asked.2) (modified client Outbox.close)
  | _ => exact kept (Option.some.inj asked) outboxes

theorem AgreeBesides.unnoticed (agree : left.AgreeBesides reader right) {errand : Errand}
    (unasked : errand.besides? reader = none) :
    (left.fulfil errand).gateway.AgreeBesides reader right ∧
      (left.fulfil errand).postings = [] := by
  obtain ⟨observers, registry, outboxes⟩ := agree
  obtain ⟨event, arrangement⟩ := errand
  have modified (change : Outbox → Outbox) : ∀ client, client ≠ reader →
      (left.outboxes.modify reader change).get? client = right.outboxes.get? client := by
    intro client different
    rw [Table.get?_modify, if_neg different.symm, outboxes client different]
  cases event with
  | drain client =>
      simp only [Errand.besides?, ite_eq_left_iff, reduceCtorEq, imp_false, not_not] at unasked
      subst unasked
      exact ⟨⟨observers, registry, modified Outbox.drain⟩, rfl⟩
  | closeOutbox client =>
      simp only [Errand.besides?, ite_eq_left_iff, reduceCtorEq, imp_false, not_not] at unasked
      subst unasked
      exact ⟨⟨observers, registry, modified Outbox.close⟩, rfl⟩
  | _ => cases unasked

end Gateway

/-! ## Two runs -/

namespace Journal

variable {left middle right : Journal} {reader : ClientId}

/-- Everybody but one connection has seen the same of two runs, and the same was offered
to everybody. -/
structure AgreeBesides (reader : ClientId) (left right : Journal) : Prop where
  gateway : left.gateway.AgreeBesides reader right.gateway
  accepted : ∀ other, other ≠ reader →
    acceptedBy other left.postings = acceptedBy other right.postings
  offered : ∀ client, offeredTo client left.postings = offeredTo client right.postings

theorem AgreeBesides.symm (agree : left.AgreeBesides reader right) :
    right.AgreeBesides reader left where
  gateway := ⟨agree.gateway.observers.symm, agree.gateway.registry.symm,
    fun other different => (agree.gateway.outboxes other different).symm⟩
  accepted other different := (agree.accepted other different).symm
  offered client := (agree.offered client).symm

theorem AgreeBesides.trans (first : left.AgreeBesides reader middle)
    (second : middle.AgreeBesides reader right) : left.AgreeBesides reader right where
  gateway := ⟨first.gateway.observers.trans second.gateway.observers,
    first.gateway.registry.trans second.gateway.registry,
    fun other different => (first.gateway.outboxes other different).trans
      (second.gateway.outboxes other different)⟩
  accepted other different := (first.accepted other different).trans
    (second.accepted other different)
  offered client := (first.offered client).trans (second.offered client)

theorem AgreeBesides.carry (agree : left.AgreeBesides reader right) {errand : Errand}
    {event : GatewayEvent} (asked : errand.besides? reader = some event) :
    (left.carry errand).AgreeBesides reader (right.carry ⟨event, .plain⟩) := by
  have alike := agree.gateway.fulfil asked
  refine ⟨alike.gateway, fun other different => ?_, fun client => ?_⟩
  · simp only [Journal.carry, acceptedBy_append, agree.accepted other different,
      alike.accepted other different]
  · simp only [Journal.carry, offeredTo_append, agree.offered client, alike.offered client]

theorem AgreeBesides.unnoticed (agree : left.AgreeBesides reader right) {errand : Errand}
    (unasked : errand.besides? reader = none) :
    (left.carry errand).AgreeBesides reader right := by
  have unnoticed := agree.gateway.unnoticed unasked
  refine ⟨unnoticed.1, fun other different => ?_, fun client => ?_⟩
  · simp only [Journal.carry, unnoticed.2, List.append_nil, agree.accepted other different]
  · simp only [Journal.carry, unnoticed.2, List.append_nil, agree.offered client]

theorem agreeBesides_asked (observers : Observers) (reader : ClientId) (errands : List Errand) :
    (ofErrands observers errands).AgreeBesides reader
      (ofErrands observers
        ((errands.filterMap (Errand.besides? reader)).map fun event => ⟨event, .plain⟩)) := by
  induction errands using List.reverseRecOn with
  | nil => exact ⟨⟨rfl, rfl, fun _ _ => rfl⟩, fun _ _ => rfl, fun _ => rfl⟩
  | append_singleton errands errand induction =>
      rw [ofErrands_concat, List.filterMap_append, List.map_append]
      cases asked : errand.besides? reader with
      | none =>
          simp only [List.filterMap_cons, asked, List.filterMap_nil, List.map_nil, List.append_nil]
          exact induction.unnoticed asked
      | some event =>
          simp only [List.filterMap_cons, asked, List.filterMap_nil, List.map_cons, List.map_nil]
          rw [ofErrands_concat]
          exact induction.carry asked

theorem agreeBesides_of_asked (observers : Observers) {left right : List Errand}
    (same : left.filterMap (Errand.besides? reader) = right.filterMap (Errand.besides? reader)) :
    (ofErrands observers left).AgreeBesides reader (ofErrands observers right) := by
  have asked := agreeBesides_asked observers reader left
  rw [same] at asked
  exact asked.trans (agreeBesides_asked observers reader right).symm

end Journal

/-! ## An outbox that never refuses -/

theorem Outbox.taken_of_room {capacity : Nat} (waiting messages : List ServerMessage)
    (room : waiting.length + messages.length ≤ capacity) :
    taken (some ⟨capacity, waiting, true⟩) messages = messages ∧
      messages.foldl offer ⟨capacity, waiting, true⟩ = ⟨capacity, waiting ++ messages, true⟩ := by
  induction messages generalizing waiting with
  | nil => simp [taken]
  | cons message rest induction =>
      rw [List.length_cons] at room
      have open_ : accepts ⟨capacity, waiting, true⟩ = true := by
        simp only [accepts, Bool.true_and, decide_eq_true_eq]
        omega
      have offered : offer ⟨capacity, waiting, true⟩ message =
          ⟨capacity, waiting ++ [message], true⟩ := by
        simp [offer, open_]
      have later := induction (waiting ++ [message]) (by
        rw [List.length_append, List.length_singleton]
        omega)
      simp [taken, open_, offered, later.1, later.2]

namespace Gateway

theorem live_of_letter {gateway : Gateway} (wellFormed : gateway.registry.WellFormed)
    {errand : Errand} {letter : Letter}
    (sent : letter ∈ lettersOf gateway.observers gateway.registry errand) :
    gateway.registry.profileOf letter.recipient ≠ none := by
  have posted := (gateway.fulfil_post errand).2
  rw [← Outboxes.map_letter_post (outboxesFor gateway.outboxes errand.event)
    (lettersOf gateway.observers gateway.registry errand), ← posted] at sent
  rcases List.mem_map.mp sent with ⟨posting, offered, rfl⟩
  obtain ⟨event, arrangement⟩ := errand
  cases event with
  | deliver audience notice =>
      rcases List.mem_map.mp (Outboxes.letter_of_posting offered) with ⟨target, served, same⟩
      have served := (arrangement.perm _).mem_iff.mp served
      rw [targets, List.mem_eraseDups, List.mem_filter] at served
      rw [← same]
      exact (gateway.registry.isLive_iff _).mp served.2
  | _ => exact offersTo_perform wellFormed _ posting offered

theorem outboxesFor_hoarding (outboxes : Outboxes) {reader : ClientId} {capacity : Nat}
    {errand : Errand} (hoards : errand.hoarding? reader capacity = some errand) :
    (outboxesFor outboxes errand.event).get? reader =
      if errand.event.opened? = some reader then some { capacity } else outboxes.get? reader := by
  obtain ⟨event, arrangement⟩ := errand
  have modified {client : ClientId} (different : client ≠ reader) (change : Outbox → Outbox) :
      (outboxes.modify client change).get? reader = outboxes.get? reader := by
    rw [Table.get?_modify, if_neg different]
  cases event with
  | connect client space outbox =>
      simp only [Errand.hoarding?, Option.some.injEq, Errand.mk.injEq, GatewayEvent.connect.injEq,
        and_true, true_and] at hoards
      simp only [outboxesFor, GatewayEvent.opened?, Option.some.injEq, Table.get?_set]
      split <;> simp_all
  | drain client =>
      simp only [Errand.hoarding?, Option.ite_none_left_eq_some] at hoards
      exact modified hoards.1 Outbox.drain
  | closeOutbox client =>
      simp only [Errand.hoarding?, Option.ite_none_left_eq_some] at hoards
      exact modified hoards.1 Outbox.close
  | _ => rfl

end Gateway

namespace Journal

open GatewayEvent

variable {reader : ClientId} {capacity : Nat}

/-- An outbox that never had to refuse anything holds all that was offered. -/
structure Hoarded (reader : ClientId) (capacity : Nat) (opened : List ClientId)
    (journal : Journal) : Prop where
  accepted : acceptedBy reader journal.postings = offeredTo reader journal.postings
  unopened : reader ∉ opened → offeredTo reader journal.postings = []
  opened : reader ∈ opened → journal.gateway.outboxes.get? reader =
    some ⟨capacity, offeredTo reader journal.postings, true⟩

theorem Hoarded.carry {journal : Journal} {opened : List ClientId}
    (hoarded : journal.Hoarded reader capacity opened)
    (wellFormed : journal.gateway.registry.WellFormed)
    (live : journal.gateway.registry.profileOf reader ≠ none → reader ∈ opened)
    {errand : Errand} (hoards : errand.hoarding? reader capacity = some errand)
    (fresh : errand.event.opened? = some reader → reader ∉ opened)
    (room : (offeredTo reader (journal.carry errand).postings).length ≤ capacity) :
    (journal.carry errand).Hoarded reader capacity (opened ++ errand.event.opened?.toList) := by
  have posted := journal.gateway.fulfil_post errand
  have box := Gateway.outboxesFor_hoarding journal.gateway.outboxes hoards
  generalize sent : Gateway.lettersOf journal.gateway.observers journal.gateway.registry errand =
    letters at posted
  generalize Gateway.outboxesFor journal.gateway.outboxes errand.event = outboxes at posted box
  have offered : offeredTo reader (journal.carry errand).postings =
      offeredTo reader journal.postings ++ messagesTo reader letters := by
    simp only [Journal.carry]
    rw [offeredTo_append, posted.2, offeredTo, offeredTo, Outboxes.map_letter_post]
  have accepted : acceptedBy reader (journal.carry errand).postings =
      offeredTo reader journal.postings ++
        Outbox.taken (outboxes.get? reader) (messagesTo reader letters) := by
    simp only [Journal.carry]
    rw [acceptedBy_append, hoarded.accepted, posted.2, Outboxes.acceptedBy_post]
  have kept : (journal.carry errand).gateway.outboxes.get? reader =
      (outboxes.get? reader).map fun outbox =>
        (messagesTo reader letters).foldl Outbox.offer outbox := by
    simp only [Journal.carry]
    rw [posted.1, Outboxes.get?_post]
  rw [offered, List.length_append] at room
  by_cases before : reader ∈ opened
  · have unchanged : outboxes.get? reader =
        some ⟨capacity, offeredTo reader journal.postings, true⟩ := by
      rw [box, if_neg fun opens => fresh opens before, hoarded.opened before]
    have roomy := Outbox.taken_of_room _ _ room
    rw [unchanged] at accepted kept
    refine ⟨by rw [accepted, offered, roomy.1], fun unopened => ?_, fun _ => ?_⟩
    · exact absurd (List.mem_append_left _ before) unopened
    · rw [kept, offered, Option.map_some, roomy.2]
  · -- Nothing is for the reader while it is not connected.
    have silent : messagesTo reader letters = [] := by
      apply messagesTo_of_others
      rintro letter member rfl
      rw [← sent] at member
      exact before (live (Gateway.live_of_letter wellFormed member))
    have nothing := hoarded.unopened before
    rw [nothing, silent] at offered accepted
    rw [silent] at kept
    refine ⟨by rw [accepted, offered]; rfl, fun _ => offered, fun now => ?_⟩
    have opens : errand.event.opened? = some reader := by
      simpa [before] using now
    rw [kept, offered, box, if_pos opens]
    rfl

theorem hoarded (observers : Observers) (reader : ClientId) (capacity : Nat)
    {errands : List Errand}
    (hoards : ∀ errand ∈ errands, errand.hoarding? reader capacity = some errand)
    (fresh : FreshIds (errands.map Errand.event))
    (room : (offeredTo reader (ofErrands observers errands).postings).length ≤ capacity) :
    (ofErrands observers errands).Hoarded reader capacity
      ((errands.map Errand.event).filterMap opened?) := by
  induction errands using List.reverseRecOn with
  | nil => exact ⟨rfl, fun _ => rfl, nofun⟩
  | append_singleton errands errand induction =>
      rw [List.map_append, List.map_singleton] at fresh ⊢
      rw [ofErrands_concat] at room ⊢
      have before : (offeredTo reader (ofErrands observers errands).postings).length ≤
          capacity := by
        simp only [Journal.carry, offeredTo_append, List.length_append] at room
        exact Nat.le_of_add_right_le room
      have soFar := induction (fun other member => hoards other (List.mem_append_left _ member))
        fresh.of_concat before
      have sound := wellFormed observers fresh.of_concat
      have live : (ofErrands observers errands).gateway.registry.profileOf reader ≠ none →
          reader ∈ (errands.map Errand.event).filterMap opened? := by
        rw [registry_ofErrands]
        exact opened_of_live observers fresh.of_concat
      rw [← registry_ofErrands] at sound
      have opened : (errands.map Errand.event ++ [errand.event]).filterMap opened? =
          (errands.map Errand.event).filterMap opened? ++ errand.event.opened?.toList := by
        rw [List.filterMap_append]
        cases opens : errand.event.opened? <;> simp [opens]
      rw [opened]
      exact soFar.carry sound live (hoards errand (by simp)) fresh.not_opened room

end Journal

namespace Errand

open GatewayEvent

variable {reader : ClientId} {capacity : Nat} {errand hoarded : Errand}

theorem hoarding_of_hoarding (hoards : errand.hoarding? reader capacity = some hoarded) :
    hoarded.hoarding? reader capacity = some hoarded ∧
      hoarded.besides? reader = errand.besides? reader ∧
      hoarded.event.opened? = errand.event.opened? := by
  obtain ⟨event, arrangement⟩ := errand
  cases event with
  | connect client space outbox =>
      cases hoards
      by_cases own : client = reader <;> simp [hoarding?, besides?, GatewayEvent.opened?, own]
  | drain client =>
      simp only [hoarding?, Option.ite_none_left_eq_some, Option.some.injEq] at hoards
      rcases hoards with ⟨different, rfl⟩
      exact ⟨if_neg different, rfl, rfl⟩
  | closeOutbox client =>
      simp only [hoarding?, Option.ite_none_left_eq_some, Option.some.injEq] at hoards
      rcases hoards with ⟨different, rfl⟩
      exact ⟨if_neg different, rfl, rfl⟩
  | _ => cases hoards; exact ⟨rfl, rfl, rfl⟩

theorem besides_of_unhoarded (unhoarded : errand.hoarding? reader capacity = none) :
    errand.besides? reader = none ∧ errand.event.opened? = none := by
  obtain ⟨event, arrangement⟩ := errand
  cases event with
  | drain client =>
      simp only [hoarding?, ite_eq_left_iff, reduceCtorEq, imp_false, not_not] at unhoarded
      exact ⟨if_pos unhoarded, rfl⟩
  | closeOutbox client =>
      simp only [hoarding?, ite_eq_left_iff, reduceCtorEq, imp_false, not_not] at unhoarded
      exact ⟨if_pos unhoarded, rfl⟩
  | _ => cases unhoarded

theorem filterMap_hoarding (reader : ClientId) (capacity : Nat) (errands : List Errand)
    {α : Type} (read : Errand → Option α)
    (alike : ∀ errand hoarded, errand.hoarding? reader capacity = some hoarded →
      read hoarded = read errand)
    (silent : ∀ errand, errand.hoarding? reader capacity = none → read errand = none) :
    (errands.filterMap (hoarding? reader capacity)).filterMap read = errands.filterMap read := by
  rw [List.filterMap_filterMap]
  apply List.filterMap_congr
  intro errand _
  cases hoards : errand.hoarding? reader capacity with
  | none => exact (silent errand hoards).symm
  | some hoarded => exact alike errand hoarded hoards

end Errand

namespace Journal

open GatewayEvent

/-- What happens to the outbox of one connection is not noticed by anybody else, and it
leaves messages out without reordering, duplicating or retrying any. -/
theorem slow_reader_unnoticed (observers : Observers) (reader : ClientId)
    {left right : List Errand} (fresh : FreshIds (left.map Errand.event))
    (same : left.filterMap (Errand.besides? reader) = right.filterMap (Errand.besides? reader)) :
    (ofErrands observers left).AgreeBesides reader (ofErrands observers right) ∧
    (∀ begun, begun <+: left → ∃ counterpart, counterpart <+: right ∧
      begun.filterMap (Errand.besides? reader) =
        counterpart.filterMap (Errand.besides? reader) ∧
      (ofErrands observers begun).AgreeBesides reader (ofErrands observers counterpart)) ∧
    ∀ capacity, (offeredTo reader (ofErrands observers left).postings).length ≤ capacity →
      let unbounded := ofErrands observers (left.filterMap (Errand.hoarding? reader capacity))
      (ofErrands observers left).AgreeBesides reader unbounded ∧
        acceptedBy reader unbounded.postings = offeredTo reader unbounded.postings ∧
        (acceptedBy reader (ofErrands observers left).postings).Sublist
          (acceptedBy reader unbounded.postings) := by
  refine ⟨agreeBesides_of_asked observers same, ?steps, ?unbounded⟩
  case steps =>
    rintro begun ⟨rest, rfl⟩
    rw [List.filterMap_append] at same
    rcases List.append_eq_filterMap_iff.mp same with ⟨counterpart, remainder, rfl, begins, _⟩
    exact ⟨counterpart, List.prefix_append _ _, begins.symm,
      agreeBesides_of_asked observers begins.symm⟩
  case unbounded =>
    intro capacity room unbounded
    have asked := Errand.filterMap_hoarding reader capacity left (Errand.besides? reader)
      (fun _ _ hoards => (Errand.hoarding_of_hoarding hoards).2.1)
      fun _ unhoarded => (Errand.besides_of_unhoarded unhoarded).1
    have opened := Errand.filterMap_hoarding reader capacity left
      (fun errand => errand.event.opened?)
      (fun _ _ hoards => (Errand.hoarding_of_hoarding hoards).2.2)
      fun _ unhoarded => (Errand.besides_of_unhoarded unhoarded).2
    have agree := agreeBesides_of_asked observers asked.symm
    have kept : FreshIds ((left.filterMap (Errand.hoarding? reader capacity)).map
        Errand.event) := by
      rw [FreshIds, List.filterMap_map] at fresh ⊢
      exact opened ▸ fresh
    have all := hoarded observers reader capacity
      (fun errand member => by
        rcases List.mem_filterMap.mp member with ⟨_, _, hoards⟩
        exact (Errand.hoarding_of_hoarding hoards).1)
      kept (agree.offered reader ▸ room)
    refine ⟨agree, all.accepted, ?_⟩
    rw [all.accepted, ← agree.offered reader]
    exact acceptedBy_sublist reader _

/-- Three people share a room. In one run the second reads, in the other it has no room for
a second message and is given up later on. -/
theorem slow_reader_unnoticed_of_small_outbox :
    let pointer : PointerEvent := ⟨none, none, [("x", .number (.integer 3))]⟩
    let run (own : Outbox) (given : List Errand) : List Errand :=
      [⟨.connect ⟨"a"⟩ .page ⟨8, [], true⟩, .plain⟩, ⟨.connect ⟨"b"⟩ .page own, .plain⟩,
        ⟨.connect ⟨"c"⟩ .page ⟨8, [], true⟩, .plain⟩,
        ⟨.authenticate ⟨"a"⟩ ⟨"Ann", "ann@x"⟩, .plain⟩,
        ⟨.authenticate ⟨"b"⟩ ⟨"Bob", "bob@x"⟩, .plain⟩,
        ⟨.authenticate ⟨"c"⟩ ⟨"Cid", "cid@x"⟩, .plain⟩,
        ⟨.requestJoin ⟨"a"⟩ ⟨.page, "1"⟩, .plain⟩, ⟨.requestJoin ⟨"b"⟩ ⟨.page, "1"⟩, .plain⟩,
        ⟨.requestJoin ⟨"c"⟩ ⟨.page, "1"⟩, .plain⟩, ⟨.relay ⟨"a"⟩ pointer, .plain⟩,
        ⟨.relay ⟨"c"⟩ pointer, .plain⟩] ++ given ++ [⟨.disconnect ⟨"a"⟩, .plain⟩]
    let left := run ⟨1, [], true⟩ [⟨.closeOutbox ⟨"b"⟩, .plain⟩]
    let right := run ⟨8, [], true⟩ [⟨.drain ⟨"b"⟩, .plain⟩]
    FreshIds (left.map Errand.event) ∧
      left.filterMap (Errand.besides? ⟨"b"⟩) = right.filterMap (Errand.besides? ⟨"b"⟩) ∧
      (acceptedBy ⟨"b"⟩ (ofErrands .standard left).postings).length = 1 ∧
      (acceptedBy ⟨"b"⟩ (ofErrands .standard right).postings).length = 3 ∧
      (ofErrands .standard left).AgreeBesides ⟨"b"⟩ (ofErrands .standard right) ∧
      (acceptedBy ⟨"b"⟩ (ofErrands .standard left).postings).Sublist
        (acceptedBy ⟨"b"⟩
          (ofErrands .standard (left.filterMap (Errand.hoarding? ⟨"b"⟩ 3))).postings) := by
  intro pointer run left right
  have fresh : FreshIds (left.map Errand.event) := by decide
  have same : left.filterMap (Errand.besides? ⟨"b"⟩) =
      right.filterMap (Errand.besides? ⟨"b"⟩) := rfl
  have unnoticed := slow_reader_unnoticed .standard ⟨"b"⟩ fresh same
  have room : (offeredTo ⟨"b"⟩ (ofErrands .standard left).postings).length ≤ 3 := by
    decide +kernel
  exact ⟨fresh, same, by decide +kernel, by decide +kernel, unnoticed.1,
    (unnoticed.2.2 3 room).2.2⟩

end Journal

end SharedEditing
