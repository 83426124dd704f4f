import Mathlib.Data.List.TakeWhile
import Mathlib.Data.String.Basic
import SharedEditing.Change.Threads
import SharedEditing.Proofs.Change.Entitlement

/-! # What is shown of a document

A delivered notice shows the changed document under the key of its collection. Some fields
are left out, some are set, and every other is as it is stored. The event is named after
the operation, and a document that is marked as deleted is reported as a deletion, unless
the mark is an internal field of its collection. -/

namespace SharedEditing

/-! ## Documents as they are shown -/

namespace Members

/-- Some fields are left out and some are given, with a value or without. Every other field
is shown as it is stored. Where a key is stored once it is shown once. -/
structure Shows (stored shown : Members) (hidden : List String)
    (given : List (String × Option Json)) : Prop where
  omits : ∀ key ∈ hidden, shown.get? key = none
  gives : ∀ field ∈ given, shown.get? field.1 = field.2
  keeps : ∀ key, key ∉ hidden → key ∉ given.map Prod.fst → shown.get? key = stored.get? key
  sorted : stored.Sorted → shown.Sorted

/-- Times are shown under other names. A stored field of such a name gives way. -/
def shownTimes (stored : Members) : List (String × Option Json) :=
  [("creationTime", (stored.get? "createdAt").or (stored.get? "creationTime")),
    ("updationTime", (stored.get? "updatedAt").or (stored.get? "updationTime"))]

theorem mem_insert {members : Members} {key : String} {value : Json} {member : String × Json}
    (inserted : member ∈ members.insert key value) : member = (key, value) ∨ member ∈ members := by
  induction members with
  | nil => exact .inl (List.mem_singleton.mp inserted)
  | cons first rest induction =>
      obtain ⟨other, present⟩ := first
      simp only [insert] at inserted
      split at inserted
      · exact (List.mem_cons.mp inserted).imp_right (.tail _)
      · split at inserted
        · exact List.mem_cons.mp inserted
        · rcases List.mem_cons.mp inserted with same | later
          · exact .inr (same ▸ .head rest)
          · exact (induction later).imp_right (.tail _)

theorem sorted_insert {members : Members} (sorted : members.Sorted) (key : String)
    (value : Json) : (members.insert key value).Sorted := by
  induction members with
  | nil => exact List.pairwise_singleton _ _
  | cons first rest induction =>
      obtain ⟨other, present⟩ := first
      rcases List.pairwise_cons.mp sorted with ⟨least, later⟩
      simp only [insert]
      split
      · rename_i same
        subst same
        exact List.pairwise_cons.mpr ⟨least, later⟩
      · rename_i different
        split
        · rename_i before
          refine List.pairwise_cons.mpr ⟨fun member present => ?_, sorted⟩
          rcases List.mem_cons.mp present with rfl | present
          · exact before
          · exact lt_trans before (least member present)
        · rename_i behind
          have after : other < key := lt_of_le_of_ne (not_lt.mp behind) (Ne.symm different)
          refine List.pairwise_cons.mpr ⟨fun member present => ?_, induction later⟩
          rcases mem_insert present with rfl | present
          · exact after
          · exact least member present

theorem sorted_erase {members : Members} (sorted : members.Sorted) (key : String) :
    (members.erase key).Sorted :=
  List.Pairwise.filter _ sorted

theorem sorted_eraseAll {members : Members} (sorted : members.Sorted) (keys : List String) :
    (members.eraseAll keys).Sorted := by
  unfold eraseAll
  induction keys generalizing members with
  | nil => exact sorted
  | cons first rest induction => exact induction (sorted_erase sorted first)

end Members

namespace Event

variable (document : Members)

theorem get?_renameField {source target : String} (different : source ≠ target) (key : String) :
    (renameField document source target).get? key =
      if key = target then (document.get? source).or (document.get? target)
      else if key = source then none
      else document.get? key := by
  unfold renameField
  cases found : document.get? source with
  | none =>
      by_cases own : key = target
      · simp [own]
      · by_cases moved : key = source <;> simp [own, moved, found, different]
  | some value =>
      simp only [Members.get?_insert, Members.get?_erase, Option.some_or, eq_comm (a := key)]

theorem sorted_renameField {document : Members} (sorted : document.Sorted)
    (source target : String) : (renameField document source target).Sorted := by
  unfold renameField
  split
  · exact Members.sorted_insert (Members.sorted_erase sorted source) target _
  · exact sorted

theorem get?_renameTimes (key : String) :
    (renameTimes document).get? key =
      if key = "creationTime" then
        (document.get? "createdAt").or (document.get? "creationTime")
      else if key = "updationTime" then
        (document.get? "updatedAt").or (document.get? "updationTime")
      else if key = "createdAt" ∨ key = "updatedAt" then none
      else document.get? key := by
  unfold renameTimes
  simp only [get?_renameField _ (show "createdAt" ≠ "creationTime" by decide),
    get?_renameField _ (show "updatedAt" ≠ "updationTime" by decide)]
  by_cases updated : key = "updationTime"
  · simp [updated]
  · by_cases created : key = "creationTime"
    · simp [created]
    · by_cases old : key = "createdAt" <;> simp [updated, created, old]

theorem sorted_renameTimes {document : Members} (sorted : document.Sorted) :
    (renameTimes document).Sorted :=
  sorted_renameField (sorted_renameField sorted _ _) _ _

end Event

/-! ## The last piece of a class name -/

theorem Text.afterLast_cases (separator : Char) (characters : List Char) :
    separator ∉ afterLast separator characters ∧
      (afterLast separator characters = characters ∨
        ∃ before, characters = before ++ separator :: afterLast separator characters) := by
  unfold afterLast
  have halves := characters.reverse.takeWhile_append_dropWhile (p := (· ≠ separator))
  have stops := characters.reverse.head?_dropWhile_not (· ≠ separator)
  constructor
  · intro member
    simpa using List.mem_takeWhile_imp (List.mem_reverse.mp member)
  · cases rest : characters.reverse.dropWhile (· ≠ separator) with
    | nil =>
        rw [rest, List.append_nil] at halves
        exact .inl (by rw [halves, List.reverse_reverse])
    | cons first others =>
        rw [rest] at halves stops
        have same : first = separator := by simpa using stops
        refine .inr ⟨others.reverse, ?_⟩
        have whole := congrArg List.reverse halves
        simpa [same] using whole.symm

/-- What stands after the last point of a text, and all of it if there is none. -/
structure IsLastPiece (text piece : String) : Prop where
  undivided : '.' ∉ piece.toList
  last : piece = text ∨ ∃ before, text = before ++ "." ++ piece

theorem isLastPiece_kindOfClass (className : String) :
    IsLastPiece className (Event.kindOfClass className) := by
  rcases Text.afterLast_cases '.' className.toList with ⟨undivided, last⟩
  unfold Event.kindOfClass
  constructor
  case undivided =>
    rw [String.toList_ofList]
    exact undivided
  case last =>
    rcases last with whole | ⟨before, parts⟩
    · exact .inl (by rw [whole, String.ofList_toList])
    · refine .inr ⟨String.ofList before, ?_⟩
      apply String.toList_injective
      simpa using parts

/-! ## What a notice shows of a changed document -/

def Notice.Presents (notice : Notice) (event key : String) (stored : Members)
    (hidden : List String) (given : List (String × Option Json)) : Prop :=
  notice.event = event ∧ ∃ shown,
    notice.payload = .object [(key, .object shown)] ∧ stored.Shows shown hidden given

namespace Change

structure ReportedAs (change : Change) (stored : Members) (operation : Operation) : Prop where
  marked : stored.get? "deleted" = some (.bool true) → operation = .delete
  unmarked : stored.get? "deleted" ≠ some (.bool true) → operation = change.operation

/-- The notice names what happened and shows the stored document to readers of its
collection. -/
def Presented (lookup : ThreadLookup) (change : Change) (stored : Members) (notice : Notice) :
    Prop :=
  match change.collection with
  | .comment => ∃ operation thread application,
      change.ReportedAs stored operation ∧ stored.usable? "threadId" = some thread ∧
        lookup thread = .ok (some application) ∧
          notice.Presents (operation.name ++ ":comment") "comment" stored
            ["deletedAt", "_class", "deleted", "createdAt", "updatedAt"]
            (stored.shownTimes ++ [("applicationId", some (.string application))])
  | .commentThread => ∃ operation,
      change.ReportedAs stored operation ∧
        notice.Presents (operation.name ++ ":commentThread") "thread" stored
          ["deletedAt", "_class", "deleted", "createdAt", "updatedAt"]
          (stored.shownTimes ++ [("isViewed", some (.bool false))])
  | .notification => ∃ className kind,
      stored.usable? "_class" = some className ∧ IsLastPiece className kind ∧
        notice.Presents (change.operation.name ++ ":notification") "notification" stored
          ["deletedAt", "deleted", "_class"] [("type", some (.string kind))]

end Change

/-! ## The document of the event -/

namespace Event

variable {change : Change} {stored : Members}

theorem get?_made_document (change : Change) (stored : Members) (key : String) :
    (made change stored).document.get? key =
      if key = "deleted" ∨ key ∈ change.collection.internalFields then none
      else stored.get? key := by
  simp only [made, deletionMark, Members.get?_erase, Members.get?_eraseAll]
  by_cases mark : key = "deleted"
  · simp [mark]
  · simp [mark, Ne.symm mark]

theorem sorted_made_document (change : Change) (sorted : stored.Sorted) :
    (made change stored).document.Sorted :=
  Members.sorted_erase (Members.sorted_eraseAll sorted _) _

theorem isMarkedDeleted_iff {document : Members} :
    isMarkedDeleted document = true ↔ document.get? "deleted" = some (.bool true) := by
  unfold isMarkedDeleted deletionMark
  split
  · rename_i marked
    simp [marked]
  · rename_i unmarked
    exact iff_of_false Bool.false_ne_true unmarked

theorem reportedAs_made (visible : "deleted" ∉ change.collection.internalFields) :
    change.ReportedAs stored (made change stored).operation := by
  have seen : (stored.eraseAll change.collection.internalFields).get? "deleted" =
      stored.get? "deleted" := by
    rw [Members.get?_eraseAll, if_neg visible]
  constructor
  case marked =>
    intro marked
    exact if_pos (isMarkedDeleted_iff.mpr (seen.trans marked))
  case unmarked =>
    intro unmarked
    exact if_neg fun marked => unmarked (seen.symm.trans (isMarkedDeleted_iff.mp marked))

/-- Where the mark is an internal field, it is gone before it is read. -/
theorem operation_made_of_internal (internal : "deleted" ∈ change.collection.internalFields) :
    (made change stored).operation = change.operation := by
  refine if_neg fun marked => ?_
  rw [isMarkedDeleted_iff, Members.get?_eraseAll, if_pos internal] at marked
  cases marked

theorem shows_renameTimes_insert
    (fields : change.collection.internalFields = ["deletedAt", "_class"]) (field : String)
    (value : Json)
    (own : field ∉ ["deletedAt", "_class", "deleted", "createdAt", "updatedAt", "creationTime",
      "updationTime"]) :
    stored.Shows ((renameTimes (made change stored).document).insert field value)
      ["deletedAt", "_class", "deleted", "createdAt", "updatedAt"]
      (stored.shownTimes ++ [(field, some value)]) := by
  simp only [List.mem_cons, List.not_mem_nil, or_false, not_or] at own
  constructor
  case omits =>
    intro key hidden
    simp only [List.mem_cons, List.not_mem_nil, or_false] at hidden
    rw [Members.get?_insert, get?_renameTimes]
    rcases hidden with rfl | rfl | rfl | rfl | rfl <;> simp [own, get?_made_document, fields]
  case gives =>
    intro given member
    simp only [Members.shownTimes, List.cons_append, List.nil_append, List.mem_cons,
      List.not_mem_nil, or_false] at member
    rw [Members.get?_insert, get?_renameTimes]
    rcases member with rfl | rfl | rfl <;> simp [own, get?_made_document, fields]
  case keeps =>
    intro key visible other
    simp only [Members.shownTimes, List.cons_append, List.nil_append, List.map_cons, List.map_nil,
      List.mem_cons, List.not_mem_nil, or_false, not_or] at visible other
    rw [Members.get?_insert, get?_renameTimes]
    simp [visible, other, Ne.symm other.2.2, get?_made_document, fields]
  case sorted =>
    intro sorted
    exact Members.sorted_insert (sorted_renameTimes (sorted_made_document change sorted)) _ _

theorem shows_type (fields : change.collection.internalFields = ["deletedAt", "deleted"])
    (kind : String) :
    stored.Shows (((made change stored).document.erase "_class").insert "type" (.string kind))
      ["deletedAt", "deleted", "_class"] [("type", some (.string kind))] := by
  constructor
  case omits =>
    intro key hidden
    simp only [List.mem_cons, List.not_mem_nil, or_false] at hidden
    rw [Members.get?_insert, Members.get?_erase, get?_made_document, fields]
    rcases hidden with rfl | rfl | rfl <;> simp
  case gives =>
    intro given member
    rw [List.mem_singleton.mp member, Members.get?_insert, if_pos rfl]
  case keeps =>
    intro key visible other
    simp only [List.map_cons, List.map_nil, List.mem_cons, List.not_mem_nil, or_false,
      not_or] at visible other
    rw [Members.get?_insert, Members.get?_erase, get?_made_document, fields]
    simp [visible, Ne.symm other, Ne.symm visible.2.2]
  case sorted =>
    intro sorted
    exact Members.sorted_insert (Members.sorted_erase (sorted_made_document change sorted) _) _ _

theorem presents_notice (event : Event) {collection : Collection}
    (own : event.collection = collection) {label key : String}
    (labelled : ":" ++ collection.name = label) (keyed : collection.payloadKey = key)
    {hidden : List String} {given : List (String × Option Json)}
    (shows : stored.Shows event.document hidden given) :
    event.notice.Presents (event.operation.name ++ label) key stored hidden given := by
  subst own labelled keyed
  exact ⟨String.append_assoc, event.document, rfl, shows⟩

end Event

/-! ## Deliveries -/

namespace FanOut

def recording (lookup : ThreadLookup) : Services (StateM (List Delivery)) where
  applicationOf thread := return lookup thread
  deliver audience notice := do
    modify fun deliveries => deliveries ++ [⟨audience, notice⟩]
    return audience.length

def deliveries (lookup : ThreadLookup) (change : Change) : List Delivery :=
  ((handle (recording lookup) change).run []).2

variable {lookup : ThreadLookup} {change : Change}

theorem deliveries_of_dropped {reason : DropReason}
    (dropped : routed lookup change = .error reason) : deliveries lookup change = [] := by
  have handled := handle_run_of_still (recording lookup) lookup [] (fun _ => rfl) change
  simp only [deliveries, handled, dropped]

theorem deliveries_of_routed {addressed : Addressed}
    (sent : routed lookup change = .ok addressed) :
    deliveries lookup change =
      if addressed.audience.isEmpty then []
      else [⟨addressed.audience, addressed.event.notice⟩] := by
  have handled := handle_run_of_still (recording lookup) lookup [] (fun _ => rfl) change
  simp only [deliveries, handled, sent, emit]
  cases addressed.audience.isEmpty <;> rfl

theorem deliveries_recorder (recorder : Recorder) (change : Change) :
    (recorder.handle change).2.deliveries =
      recorder.deliveries ++ deliveries recorder.threads.find change := by
  have looks : (thread : String) → (Recorder.services.applicationOf thread).run recorder =
      (recorder.threads.find thread, { recorder with threads := recorder.threads.counted }) :=
    fun _ => rfl
  unfold Recorder.handle
  rw [handle_run Recorder.services recorder.threads.find _ recorder looks change]
  generalize reached : (consulted? change).elim recorder _ = after
  have kept : after.deliveries = recorder.deliveries := by
    rw [← reached]
    cases consulted? change <;> rfl
  cases sent : routed recorder.threads.find change with
  | error reason => simp [deliveries_of_dropped sent, kept]
  | ok addressed =>
      rw [deliveries_of_routed sent, ← kept]
      simp only [emit]
      cases addressed.audience.isEmpty with
      | true => exact (List.append_nil _).symm
      | false => rfl

theorem presented_of_routed {addressed : Addressed} (sent : routed lookup change = .ok addressed) :
    ∃ stored, change.document = some stored ∧
      change.Presented lookup stored addressed.event.notice := by
  rcases routed_eq_ok_iff.mp sent with ⟨stored, present, sent⟩
  refine ⟨stored, present, ?_⟩
  rw [route_made_eq_ok_iff] at sent
  unfold Change.Presented
  cases collection : change.collection with
  | comment =>
      simp only [collection] at sent
      rcases sent with ⟨thread, application, named, found, rfl⟩
      have fields : change.collection.internalFields = ["deletedAt", "_class"] := by
        rw [collection]
        rfl
      rw [Event.threadId,
        Event.textField_made_eq_ok_iff (by simp [fields]) (by decide)] at named
      refine ⟨_, thread, application, Event.reportedAs_made (by simp [fields]), named, found, ?_⟩
      exact Event.presents_notice ((Event.made change stored).prepareComment application)
        collection (by decide) rfl
        (Event.shows_renameTimes_insert fields "applicationId" _ (by decide))
  | commentThread =>
      simp only [collection] at sent
      subst sent
      have fields : change.collection.internalFields = ["deletedAt", "_class"] := by
        rw [collection]
        rfl
      refine ⟨_, Event.reportedAs_made (by simp [fields]), ?_⟩
      exact Event.presents_notice (Event.made change stored).prepareThread
        collection (by decide) rfl
        (Event.shows_renameTimes_insert fields "isViewed" _ (by decide))
  | notification =>
      simp only [collection] at sent
      rcases sent with ⟨owner, prepared, finished, rfl⟩
      have fields : change.collection.internalFields = ["deletedAt", "deleted"] := by
        rw [collection]
        rfl
      rcases Event.prepareNotification_eq_ok_iff.mp finished with ⟨_, className, typed, rfl⟩
      rw [Event.textField_made_eq_ok_iff (by simp [fields]) (by decide)] at typed
      have operation : (Event.made change stored).operation = change.operation :=
        Event.operation_made_of_internal (by simp [fields])
      rw [← operation]
      refine ⟨className, _, typed, isLastPiece_kindOfClass className, ?_⟩
      exact Event.presents_notice (Event.mk _ _ _ _) collection (by decide) rfl
        (Event.shows_type fields _)

end FanOut

/-- Whatever is delivered of a change presents its document, and is delivered once. -/
theorem Change.delivered_is_presented (lookup : ThreadLookup) (change : Change) :
    (FanOut.deliveries lookup change).length ≤ 1 ∧
      ∀ delivery ∈ FanOut.deliveries lookup change, ∃ stored,
        change.document = some stored ∧ change.Presented lookup stored delivery.notice := by
  cases sent : FanOut.routed lookup change with
  | error reason =>
      rw [FanOut.deliveries_of_dropped sent]
      exact ⟨Nat.zero_le 1, fun _ member => nomatch member⟩
  | ok addressed =>
      rw [FanOut.deliveries_of_routed sent]
      cases addressed.audience.isEmpty with
      | true => exact ⟨Nat.zero_le 1, fun _ member => nomatch member⟩
      | false =>
          refine ⟨le_refl 1, fun delivery member => ?_⟩
          rw [List.mem_singleton.mp member]
          exact FanOut.presented_of_routed sent

/-- Stored fields give way to the ones of the same name that are given, and a mark that is
no boolean deletes nothing. -/
theorem Change.delivered_is_presented_of_collision :
    let lookup : ThreadLookup := fun _ => .ok (some "7")
    let change : Change :=
      ⟨.comment, .update, "1", some [("applicationId", .string "8"), ("createdAt", .null),
        ("creationTime", .string "then"), ("deleted", .string "true"),
        ("policies", .array [.object
          [("permission", .string "read:comments"), ("users", .array [.string "ann@x"])]]),
        ("threadId", .string "5")]⟩
    ∃ delivery ∈ FanOut.deliveries lookup change, ∃ stored,
      change.document = some stored ∧ change.Presented lookup stored delivery.notice :=
  ⟨_, .head _, (Change.delivered_is_presented _ _).2 _ (.head _)⟩

end SharedEditing
