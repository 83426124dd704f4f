import SharedEditing.Proofs.Gateway.Offers
import SharedEditing.Proofs.Registry.Families

/-! # The two families do not interfere

Applications and pages share the connections, the rooms and the channels of one gateway.
Still a run without all steps of the one family comes to the same for the other, whatever
resources and people the two have in common. The shortened run is followed alongside: after
each step the two gateways differ in the foreign family at most. -/

namespace SharedEditing

namespace ServiceEvent

def home (events : List ServiceEvent) (client : ClientId) : Option Space :=
  events.findSome? fun
    | connect opened space _ => if opened = client then some space else none
    | _ => none

def owner? : ServiceEvent → Option ClientId
  | drain client => some client
  | closeOutbox client => some client
  | event => event.actor?

/-- The family that an event belongs to. Changes are for applications. -/
def family? (home : ClientId → Option Space) : ServiceEvent → Option Space
  | change _ _ _ => some .app
  | event => event.owner?.bind home

def without (foreign : Space) (events : List ServiceEvent) : List ServiceEvent :=
  events.filter fun event => event.family? (home events) ≠ some foreign

/-- Frames of a connection are applied to the family that the connection was opened for. -/
def OwnFamily (events : List ServiceEvent) : Prop :=
  ∀ client space message, frame client space message ∈ events →
    ∀ own, home events client = some own → space = own

def KeepsTo (home : ClientId → Option Space) : ServiceEvent → Prop
  | connect client space _ => home client = some space
  | frame client space _ => ∀ own, home client = some own → space = own
  | _ => True

end ServiceEvent

namespace Gateway

open Registry

variable {home : ClientId → Option Space} {foreign : Space} {left right gateway : Gateway}
  {client : ClientId} {event : ServiceEvent}

structure AlikeOutside (home : ClientId → Option Space) (foreign : Space)
    (left right : Gateway) : Prop where
  observers : left.observers = right.observers
  registry : left.registry.AlikeOutside home foreign right.registry
  outboxes : ∀ client, home client ≠ some foreign →
    left.outboxes.get? client = right.outboxes.get? client

structure Report.AlikeOutside {α β : Type} (home : ClientId → Option Space) (foreign : Space)
    (left : Report α) (right : Report β) : Prop where
  gateway : left.gateway.AlikeOutside home foreign right.gateway
  accepted : ∀ client, home client ≠ some foreign →
    acceptedBy client left.postings = acceptedBy client right.postings

def operate (gateway : Gateway) (client : ClientId) (operation : Registry.Operation) :
    Report Unit :=
  let (after, movements) := gateway.registry.operate client operation
  gateway.carryOut ⟨(), after, movements⟩

def still (gateway : Gateway) : Report Unit := ⟨(), gateway, [], []⟩

/-! ## Homes along a run -/

theorem home_of_live (atHome : gateway.registry.AtHome home) {space : Space}
    (keeps : ∀ own, home client = some own → space = own)
    (live : gateway.registry.profileOf client ≠ none) : home client = some space := by
  rcases Option.ne_none_iff_exists'.mp live with ⟨⟨own, standing⟩, profile⟩
  have homed := atHome.opened client own standing profile
  rw [homed, keeps own homed]

theorem asksAtHome (atHome : gateway.registry.AtHome home) {space : Space}
    (keeps : ∀ own, home client = some own → space = own) (resource : String) :
    gateway.registry.AsksAtHome home client (.requestJoin ⟨space, resource⟩) := by
  intro live
  exact home_of_live atHome keeps live

theorem atHome_serve (wellFormed : gateway.registry.WellFormed)
    (atHome : gateway.registry.AtHome home) (keeps : event.KeepsTo home) :
    (gateway.serve event).gateway.registry.AtHome home := by
  rw [serve_registry]
  cases event with
  | connect client space outbox => exact atHome.connect keeps
  | login client found =>
      cases found with
      | error error => exact atHome
      | ok identity => exact atHome.operate (.authenticate identity) wellFormed trivial
  | frame client space message =>
      cases message with
      | startEdit resource =>
          exact atHome.operate (.requestJoin ⟨space, resource⟩) wellFormed
            (asksAtHome atHome keeps resource)
      | leaveEdit resource => exact atHome.operate (.leave ⟨space, resource⟩) wellFormed trivial
      | mousePointer pointer => exact atHome
  | disconnect client => exact atHome.operate .disconnect wellFormed trivial
  | _ => exact atHome

/-! ## Steps on both sides -/

theorem AlikeOutside.post (alike : left.AlikeOutside home foreign right)
    (letters others : List Letter)
    (same : ∀ client, home client ≠ some foreign →
      messagesTo client letters = messagesTo client others) :
    (left.post letters).1.AlikeOutside home foreign (right.post others).1 ∧
      ∀ client, home client ≠ some foreign →
        acceptedBy client (left.post letters).2 = acceptedBy client (right.post others).2 := by
  have agree (client : ClientId) (outside : home client ≠ some foreign) :=
    Outboxes.post_agree (alike.outboxes client outside) (same client outside)
  exact ⟨⟨alike.observers, alike.registry, fun client outside => (agree client outside).2⟩,
    fun client outside => (agree client outside).1⟩

theorem AlikeOutside.operate (alike : left.AlikeOutside home foreign right)
    (operation : Registry.Operation) (atHome : right.registry.AtHome home)
    (leftWellFormed : left.registry.WellFormed) (wellFormed : right.registry.WellFormed)
    (outside : home client ≠ some foreign)
    (asks : right.registry.AsksAtHome home client operation) :
    (left.operate client operation).AlikeOutside home foreign (right.operate client operation) := by
  rcases alike.registry.operate operation atHome leftWellFormed wellFormed outside asks with
    ⟨registry, movements⟩
  have moved : ({ left with registry := (left.registry.operate client operation).1 } :
      Gateway).AlikeOutside home foreign
        { right with registry := (right.registry.operate client operation).1 } :=
    ⟨alike.observers, registry, alike.outboxes⟩
  have posted := moved.post
    (left.observers.letters (left.registry.operate client operation).2)
    (right.observers.letters (right.registry.operate client operation).2) fun client _ => by
      rw [alike.observers, movements]
  exact ⟨posted.1, posted.2⟩

theorem AlikeOutside.operate_foreign (alike : left.AlikeOutside home foreign right)
    (operation : Registry.Operation) (atHome : left.registry.AtHome home)
    (wellFormed : left.registry.WellFormed) (abroad : home client = some foreign)
    (asks : left.registry.AsksAtHome home client operation) :
    (left.operate client operation).AlikeOutside home foreign right.still := by
  have kept := Registry.AlikeOutside.operate_foreign operation atHome wellFormed abroad asks
  have told := atHome.toldIn operation wellFormed asks abroad
  have moved : ({ left with registry := (left.registry.operate client operation).1 } :
      Gateway).AlikeOutside home foreign right :=
    ⟨alike.observers, kept.trans alike.registry, alike.outboxes⟩
  have posted := moved.post
    (left.observers.letters (left.registry.operate client operation).2) []
    fun client outside => messagesTo_letters_of_untold left.observers
      fun movement made member listed same => outside (same ▸ told movement made member listed)
  exact ⟨posted.1, posted.2⟩

/-! ## Pointers and changes -/

theorem AlikeOutside.relay (alike : left.AlikeOutside home foreign right)
    (atHome : right.registry.AtHome home) (outside : home client ≠ some foreign)
    (keeps : ∀ own, home client = some own → .page = own) (pointer : PointerEvent) :
    (left.relay client pointer).AlikeOutside home foreign (right.relay client pointer) := by
  have same : stampedPointer left.registry client pointer =
      stampedPointer right.registry client pointer := by
    unfold stampedPointer
    rw [alike.registry.senderContext outside]
  unfold Gateway.relay
  rw [same]
  cases stamped : stampedPointer right.registry client pointer with
  | none => exact ⟨alike, fun _ _ => rfl⟩
  | some pair =>
      obtain ⟨room, message⟩ := pair
      rcases of_stampedPointer stamped with ⟨identity, context, _⟩
      rcases of_senderContext context with ⟨⟨family, profile⟩, _, page⟩
      have homed := home_of_live atHome keeps (by simp [profile])
      have apart : room.space ≠ foreign := by
        rintro rfl
        exact outside (page ▸ homed)
      have posted := alike.post (lettersToOthers left.registry room client message)
        (lettersToOthers right.registry room client message) fun _ _ => by
          unfold lettersToOthers
          rw [alike.registry.members_eq atHome apart]
      exact ⟨posted.1, posted.2⟩

theorem AlikeOutside.relay_foreign (alike : left.AlikeOutside home .page right)
    (atHome : left.registry.AtHome home) (client : ClientId) (pointer : PointerEvent) :
    (left.relay client pointer).AlikeOutside home .page right.still := by
  rw [Gateway.relay]
  cases stamped : stampedPointer left.registry client pointer with
  | none => exact ⟨alike, fun _ _ => rfl⟩
  | some pair =>
      obtain ⟨room, message⟩ := pair
      rcases of_stampedPointer stamped with ⟨identity, context, _⟩
      rcases of_senderContext context with ⟨_, _, page⟩
      have posted := alike.post (lettersToOthers left.registry room client message) []
        fun other outside => by
          apply messagesTo_of_others
          rintro letter sent rfl
          rcases List.mem_map.mp sent with ⟨member, listed, rfl⟩
          exact outside (atHome.told page member (List.mem_of_mem_filter listed))
      exact ⟨posted.1, posted.2⟩

theorem targets_alike {left right : Registry} (alike : left.AlikeOutside home .page right)
    (atHome : right.AtHome home) (wellFormed : right.WellFormed) (audience : Audience) :
    targets left audience = targets right audience := by
  have listeners : audience.flatMap left.listeners = audience.flatMap right.listeners := by
    congr 1
    funext email
    exact alike.listeners rfl email
  rw [targets, listeners]
  congr 1
  apply List.filter_congr
  intro client listed
  rcases List.mem_flatMap.mp listed with ⟨email, _, listening⟩
  rcases (wellFormed.listening email client).mp listening with ⟨identity, known, _⟩
  have outside : home client ≠ some .page := by
    rw [atHome.opened client .app _ known]
    exact fun same => nomatch same
  rw [Bool.eq_iff_iff, isLive_iff, isLive_iff, alike.profile client outside]

theorem AlikeOutside.deliverTo (alike : left.AlikeOutside home foreign right)
    (clients : List ClientId) (notice : Notice) :
    (left.deliverTo clients notice).AlikeOutside home foreign
      (right.deliverTo clients notice) := by
  have posted := alike.post (clients.map fun client => ⟨client, .change notice⟩) _
    fun _ _ => rfl
  exact ⟨posted.1, posted.2⟩

theorem AlikeOutside.fanOut (alike : left.AlikeOutside home .page right)
    (atHome : right.registry.AtHome home) (wellFormed : right.registry.WellFormed)
    (lookup : ThreadLookup) (arrange : List ClientId → List ClientId) (change : Change) :
    (left.fanOut lookup arrange change).AlikeOutside home .page
      (right.fanOut lookup arrange change) := by
  cases routed : FanOut.routed lookup change with
  | error reason =>
      rw [fanOut_of_dropped routed, fanOut_of_dropped routed]
      exact ⟨alike, fun _ _ => rfl⟩
  | ok addressed =>
      rw [fanOut_of_routed routed, fanOut_of_routed routed,
        targets_alike alike.registry atHome wellFormed]
      split
      · exact ⟨alike, fun _ _ => rfl⟩
      · have delivered := alike.deliverTo (arrange (targets right.registry addressed.audience))
          addressed.event.notice
        exact ⟨delivered.gateway, delivered.accepted⟩

theorem AlikeOutside.fanOut_foreign (alike : left.AlikeOutside home .app right)
    (atHome : left.registry.AtHome home) (wellFormed : left.registry.WellFormed)
    (lookup : ThreadLookup) (arrangement : Arrangement) (change : Change) :
    (left.fanOut lookup arrangement.order change).AlikeOutside home .app right.still := by
  cases routed : FanOut.routed lookup change with
  | error reason =>
      rw [fanOut_of_dropped routed]
      exact ⟨alike, fun _ _ => rfl⟩
  | ok addressed =>
      rw [fanOut_of_routed routed]
      split
      · exact ⟨alike, fun _ _ => rfl⟩
      · have posted := alike.post
          ((arrangement.order (targets left.registry addressed.audience)).map
            fun client => ⟨client, .change addressed.event.notice⟩) []
          fun other outside => by
            apply messagesTo_of_others
            rintro letter sent rfl
            rcases List.mem_map.mp sent with ⟨target, served, rfl⟩
            have listed := (arrangement.perm _).mem_iff.mp served
            rcases (mem_targets_iff wellFormed).mp listed with ⟨identity, known, _⟩
            exact outside (atHome.opened target .app _ known)
        exact ⟨posted.1, posted.2⟩

theorem AlikeOutside.modify (alike : left.AlikeOutside home foreign right) (client : ClientId)
    (change : Outbox → Outbox) :
    ({ left with outboxes := left.outboxes.modify client change } : Gateway).AlikeOutside home
      foreign { right with outboxes := right.outboxes.modify client change } where
  observers := alike.observers
  registry := alike.registry
  outboxes other outside := by
    rw [Table.get?_modify, Table.get?_modify, alike.outboxes other outside]

theorem AlikeOutside.modify_foreign (alike : left.AlikeOutside home foreign right)
    (abroad : home client = some foreign) (change : Outbox → Outbox) :
    ({ left with outboxes := left.outboxes.modify client change } : Gateway).AlikeOutside home
      foreign right where
  observers := alike.observers
  registry := alike.registry
  outboxes other outside := by
    rw [Table.get?_modify, if_neg (Registry.AlikeOutside.ne_of_outside abroad outside),
      alike.outboxes other outside]

/-! ## Any step -/

open ServiceEvent

theorem AlikeOutside.serve (alike : left.AlikeOutside home foreign right)
    (atHome : right.registry.AtHome home) (leftWellFormed : left.registry.WellFormed)
    (wellFormed : right.registry.WellFormed)
    (keeps : event.KeepsTo home) (own : event.family? home ≠ some foreign) :
    (left.serve event).AlikeOutside home foreign (right.serve event) := by
  cases event with
  | connect client space outbox =>
      refine ⟨⟨alike.observers, alike.registry.connect client space, fun other outside => ?_⟩,
        fun _ _ => rfl⟩
      simp only [Gateway.serve, connect, Table.get?_set, alike.outboxes other outside]
  | login client found =>
      cases found with
      | error error => exact ⟨alike, fun _ _ => rfl⟩
      | ok identity =>
          have carried := alike.operate (.authenticate identity) atHome leftWellFormed wellFormed
            own trivial
          exact ⟨carried.gateway, carried.accepted⟩
  | frame client space message =>
      cases message with
      | startEdit resource =>
          have carried := alike.operate (.requestJoin ⟨space, resource⟩) atHome leftWellFormed
            wellFormed own (asksAtHome atHome keeps resource)
          exact ⟨carried.gateway, carried.accepted⟩
      | leaveEdit resource =>
          have carried := alike.operate (.leave ⟨space, resource⟩) atHome leftWellFormed
            wellFormed own trivial
          exact ⟨carried.gateway, carried.accepted⟩
      | mousePointer pointer =>
          cases space with
          | app => exact ⟨alike, fun _ _ => rfl⟩
          | page =>
              have passed := alike.relay atHome own keeps pointer
              exact ⟨passed.gateway, passed.accepted⟩
  | disconnect client =>
      have carried := alike.operate .disconnect atHome leftWellFormed wellFormed own trivial
      exact ⟨carried.gateway, carried.accepted⟩
  | change lookup arrangement change =>
      cases foreign with
      | app => exact False.elim (own rfl)
      | page =>
          have served := alike.fanOut atHome wellFormed lookup arrangement.order change
          exact ⟨served.gateway, served.accepted⟩
  | drain client => exact ⟨alike.modify client Outbox.drain, fun _ _ => rfl⟩
  | closeOutbox client => exact ⟨alike.modify client Outbox.close, fun _ _ => rfl⟩

theorem AlikeOutside.serve_foreign (alike : left.AlikeOutside home foreign right)
    (atHome : left.registry.AtHome home) (wellFormed : left.registry.WellFormed)
    (keeps : event.KeepsTo home) (abroad : event.family? home = some foreign) :
    (left.serve event).AlikeOutside home foreign right.still := by
  cases event with
  | connect client space outbox =>
      refine ⟨⟨alike.observers, (Registry.AlikeOutside.connect_foreign abroad _ space).trans
        alike.registry, fun other outside => ?_⟩, fun _ _ => rfl⟩
      have different := Registry.AlikeOutside.ne_of_outside abroad outside
      simp only [Gateway.serve, connect, still, Table.get?_set, if_neg different]
      exact alike.outboxes other outside
  | login client found =>
      cases found with
      | error error => exact ⟨alike, fun _ _ => rfl⟩
      | ok identity =>
          have carried := alike.operate_foreign (.authenticate identity) atHome wellFormed abroad
            trivial
          exact ⟨carried.gateway, carried.accepted⟩
  | frame client space message =>
      cases message with
      | startEdit resource =>
          have carried := alike.operate_foreign (.requestJoin ⟨space, resource⟩) atHome
            wellFormed abroad (asksAtHome atHome keeps resource)
          exact ⟨carried.gateway, carried.accepted⟩
      | leaveEdit resource =>
          have carried := alike.operate_foreign (.leave ⟨space, resource⟩) atHome wellFormed
            abroad trivial
          exact ⟨carried.gateway, carried.accepted⟩
      | mousePointer pointer =>
          cases space with
          | app => exact ⟨alike, fun _ _ => rfl⟩
          | page =>
              cases keeps foreign abroad
              have passed := alike.relay_foreign atHome client pointer
              exact ⟨passed.gateway, passed.accepted⟩
  | disconnect client =>
      have carried := alike.operate_foreign .disconnect atHome wellFormed abroad trivial
      exact ⟨carried.gateway, carried.accepted⟩
  | change lookup arrangement change =>
      cases abroad
      have served := alike.fanOut_foreign atHome wellFormed lookup arrangement change
      exact ⟨served.gateway, served.accepted⟩
  | drain client => exact ⟨alike.modify_foreign abroad Outbox.drain, fun _ _ => rfl⟩
  | closeOutbox client => exact ⟨alike.modify_foreign abroad Outbox.close, fun _ _ => rfl⟩

end Gateway

/-! ## Two runs -/

namespace ServiceEvent

variable {events : List ServiceEvent}

theorem home_of_connect (fresh : FreshIds events) {client : ClientId} {space : Space}
    {outbox : Outbox} (opened : connect client space outbox ∈ events) :
    home events client = some space := by
  induction events with
  | nil => cases opened
  | cons event rest induction =>
      have later := fresh.sublist (List.sublist_cons_self event rest)
      rcases List.mem_cons.mp opened with rfl | opened
      · simp [home]
      · have apart : event.opened? ≠ some client := by
          intro opens
          rw [FreshIds, List.filterMap_cons_some opens, List.nodup_cons] at fresh
          exact fresh.1 (List.mem_filterMap.mpr ⟨_, opened, rfl⟩)
        rw [← induction later opened]
        cases event with
        | connect other family box =>
            have different : other ≠ client := fun same => apart (congrArg some same)
            simp [home, different]
        | _ => rfl

theorem OwnFamily.keepsTo (ownFamily : OwnFamily events) (fresh : FreshIds events)
    {event : ServiceEvent} (served : event ∈ events) : event.KeepsTo (home events) := by
  cases event with
  | connect client space outbox => exact home_of_connect fresh served
  | frame client space message => exact ownFamily client space message served
  | _ => trivial

end ServiceEvent

namespace Chronicle

open ServiceEvent

variable {home : ClientId → Option Space} {events : List ServiceEvent}

theorem atHome (observers : Observers) (fresh : FreshIds events)
    (keeps : ∀ event ∈ events, event.KeepsTo home) :
    (of observers events).gateway.registry.AtHome home := by
  induction events using List.reverseRecOn with
  | nil => exact .empty home
  | append_singleton events event induction =>
      have earlier := fresh.sublist (List.sublist_append_left events [event])
      have before := induction earlier fun other member =>
        keeps other (List.mem_append_left _ member)
      rw [of_concat]
      exact Gateway.atHome_serve (wellFormed observers earlier) before (keeps event (by simp))

theorem alikeOutside (observers : Observers) (foreign : Space) (fresh : FreshIds events)
    (keeps : ∀ event ∈ events, event.KeepsTo home) :
    let kept := events.filter fun event => event.family? home ≠ some foreign
    (of observers events).gateway.AlikeOutside home foreign (of observers kept).gateway ∧
      ∀ client, home client ≠ some foreign →
        acceptedBy client (of observers events).postings =
          acceptedBy client (of observers kept).postings := by
  induction events using List.reverseRecOn with
  | nil => exact ⟨⟨rfl, .refl _, fun _ _ => rfl⟩, fun _ _ => rfl⟩
  | append_singleton events event induction =>
      have earlier := fresh.sublist (List.sublist_append_left events [event])
      have keepsSoFar := fun other member => keeps other (List.mem_append_left [event] member)
      have keepsNow := keeps event (by simp)
      have shortened := earlier.sublist
        (List.filter_sublist (p := fun event => event.family? home ≠ some foreign))
      rcases induction earlier keepsSoFar with ⟨alike, accepted⟩
      intro kept
      by_cases foreigner : event.family? home = some foreign
      · have same : kept = events.filter fun event => event.family? home ≠ some foreign := by
          simp [kept, List.filter_append, foreigner]
        have served := alike.serve_foreign (atHome observers earlier keepsSoFar)
          (wellFormed observers earlier) keepsNow foreigner
        rw [same, of_concat]
        refine ⟨served.gateway, fun client outside => ?_⟩
        simp only [record, acceptedBy_append, served.accepted client outside,
          accepted client outside]
        exact List.append_nil _
      · have same : kept =
            (events.filter fun event => event.family? home ≠ some foreign) ++ [event] := by
          simp [kept, List.filter_append, foreigner]
        have served := alike.serve
          (atHome observers shortened fun other member =>
            keepsSoFar other (List.mem_of_mem_filter member))
          (wellFormed observers earlier) (wellFormed observers shortened) keepsNow foreigner
        rw [same, of_concat, of_concat]
        refine ⟨served.gateway, fun client outside => ?_⟩
        simp only [record, acceptedBy_append, served.accepted client outside,
          accepted client outside]

/-- What the connections of one family are handed, and where they are, does not depend on the
steps of the other family. Changes are steps of the applications. -/
theorem families_do_not_interfere (observers : Observers) {events : List ServiceEvent}
    (fresh : FreshIds events) (ownFamily : OwnFamily events) {own foreign : Space}
    (different : own ≠ foreign) {client : ClientId}
    (opened : ServiceEvent.home events client = some own) :
    acceptedBy client (of observers (without foreign events)).postings =
        acceptedBy client (of observers events).postings ∧
      (of observers (without foreign events)).gateway.waiting client =
        (of observers events).gateway.waiting client ∧
      (of observers (without foreign events)).gateway.registry.roomsOf client =
        (of observers events).gateway.registry.roomsOf client := by
  have outside : ServiceEvent.home events client ≠ some foreign := by
    rw [opened]
    exact fun same => different (Option.some.inj same)
  rcases alikeOutside observers foreign fresh fun event => ownFamily.keepsTo fresh with
    ⟨alike, accepted⟩
  refine ⟨(accepted client outside).symm, ?waiting, (alike.registry.rooms client outside).symm⟩
  case waiting =>
    unfold Gateway.waiting without
    rw [← alike.outboxes client outside]

/-- Two people have an application and a page connection each, all in rooms of one name. One
page is pointed at and closed, and a change is for one of the people. -/
theorem families_do_not_interfere_of_shared_names :
    let outbox : Outbox := ⟨8, [], true⟩
    let ann : Identity := ⟨"Ann", "ann@x"⟩
    let bob : Identity := ⟨"Bob", "bob@x"⟩
    let change : Change :=
      ⟨.comment, .insert, "1", some [("policies", .array [.object
        [("permission", .string "read:comments"), ("users", .array [.string "ann@x"])]]),
        ("threadId", .string "5")]⟩
    let events : List ServiceEvent :=
      [.connect ⟨"a"⟩ .app outbox, .connect ⟨"p"⟩ .page outbox, .connect ⟨"b"⟩ .app outbox,
        .connect ⟨"q"⟩ .page outbox, .login ⟨"a"⟩ (.ok ann), .login ⟨"p"⟩ (.ok ann),
        .login ⟨"b"⟩ (.ok bob), .login ⟨"q"⟩ (.ok bob), .frame ⟨"a"⟩ .app (.startEdit "1"),
        .frame ⟨"p"⟩ .page (.startEdit "1"), .frame ⟨"b"⟩ .app (.startEdit "1"),
        .frame ⟨"q"⟩ .page (.startEdit "1"),
        .frame ⟨"p"⟩ .page (.mousePointer ⟨none, none, [("x", .number (.integer 3))]⟩),
        .change (fun _ => .ok (some "7")) .plain change, .disconnect ⟨"p"⟩,
        .frame ⟨"b"⟩ .app (.leaveEdit "1")]
    FreshIds events ∧ OwnFamily events ∧ ServiceEvent.home events ⟨"a"⟩ = some .app ∧
      ServiceEvent.home events ⟨"q"⟩ = some .page ∧
      (acceptedBy ⟨"a"⟩ (of .standard events).postings).length = 4 ∧
      (acceptedBy ⟨"q"⟩ (of .standard events).postings).length = 2 ∧
      acceptedBy ⟨"a"⟩ (of .standard (without .page events)).postings =
        acceptedBy ⟨"a"⟩ (of .standard events).postings ∧
      acceptedBy ⟨"q"⟩ (of .standard (without .app events)).postings =
        acceptedBy ⟨"q"⟩ (of .standard events).postings := by
  intro outbox ann bob change events
  have fresh : FreshIds events := by decide
  have ownFamily : OwnFamily events := by
    intro client space message sent own opened
    simp only [events, List.mem_cons, ServiceEvent.frame.injEq, reduceCtorEq, List.not_mem_nil,
      false_or, or_false] at sent
    rcases sent with ⟨rfl, rfl, _⟩ | ⟨rfl, rfl, _⟩ | ⟨rfl, rfl, _⟩ | ⟨rfl, rfl, _⟩ |
      ⟨rfl, rfl, _⟩ | ⟨rfl, rfl, _⟩ <;> cases opened <;> rfl
  have app : ServiceEvent.home events ⟨"a"⟩ = some .app := by decide
  have page : ServiceEvent.home events ⟨"q"⟩ = some .page := by decide
  exact ⟨fresh, ownFamily, app, page, by decide +kernel, by decide +kernel,
    (families_do_not_interfere .standard fresh ownFamily (by decide) app).1,
    (families_do_not_interfere .standard fresh ownFamily (by decide) page).1⟩

end Chronicle

end SharedEditing
