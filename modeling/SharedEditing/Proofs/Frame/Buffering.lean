import SharedEditing.Frame.Client
import SharedEditing.Proofs.Json.Members
import SharedEditing.Proofs.Json.Records

/-! # Reading ahead

What was read ahead is read again as the written value would have been read at once, whatever
it turns out to be. Only more of it must be readable, since nothing can be passed over yet. -/

namespace SharedEditing

open Written

namespace Buffered

def Keeps (levels : Nat) (written : Written) (kept : Buffered) : Prop :=
  ofWritten? levels written = some kept

def KeepsMembers (levels : Nat) : List (String × Written) → List (String × Buffered) → Prop :=
  List.Forall₂ fun member kept => member.1 = kept.1 ∧ Keeps levels member.2 kept.2

/-- What is kept, part by part. -/
inductive Copies : Nat → Written → Buffered → Prop where
  | null {levels : Nat} : Copies levels .null .null
  | bool {levels : Nat} (value : Bool) : Copies levels (.bool value) (.bool value)
  | number {levels : Nat} (value : Number) : Copies levels (.number (some value)) (.number value)
  | string {levels : Nat} (text : String) : Copies levels (.string (some text)) (.string text)
  | array {inside : Nat} {items : List Written} {kept : List Buffered}
      (each : List.Forall₂ (Keeps inside) items kept) :
      Copies (inside + 1) (.array items) (.array kept)
  | object {inside : Nat} {members : List (String × Written)} {kept : List (String × Buffered)}
      (each : KeepsMembers inside members kept) :
      Copies (inside + 1) (.object (ofKeyed members)) (.object kept)

variable {levels : Nat} {written : Written} {kept : Buffered} {items : List Written}
  {keptItems : List Buffered} {members : List (String × Written)}
  {keptMembers : List (String × Buffered)}

theorem of_ofItems?_cons {item : Written} {rest : List Written}
    (read : ofItems? levels (item :: rest) = some keptItems) :
    ∃ first others, keptItems = first :: others ∧ Keeps levels item first ∧
      ofItems? levels rest = some others := by
  rw [ofItems?] at read
  split at read
  · rename_i first others
    cases read
    exact ⟨_, _, rfl, first, others⟩
  · cases read

theorem of_ofMembers?_cons {key? : Option String} {item : Written}
    {rest : List (Option String × Written)}
    (read : ofMembers? levels ((key?, item) :: rest) = some keptMembers) :
    ∃ key first others, key? = some key ∧ keptMembers = (key, first) :: others ∧
      Keeps levels item first ∧ ofMembers? levels rest = some others := by
  rw [ofMembers?.eq_def] at read
  dsimp only at read
  split at read
  · rename_i key keptItem later first others
    cases read
    exact ⟨_, _, _, rfl, rfl, first, others⟩
  · cases read

theorem forall₂_of_ofItems? (read : ofItems? levels items = some keptItems) :
    List.Forall₂ (Keeps levels) items keptItems := by
  induction items generalizing keptItems with
  | nil =>
      cases read
      exact .nil
  | cons item rest induction =>
      rcases of_ofItems?_cons read with ⟨_, _, rfl, first, others⟩
      exact .cons first (induction others)

theorem keepsMembers_of_ofMembers? {members : List (Option String × Written)}
    (read : ofMembers? levels members = some keptMembers) :
    ∃ keyed, members = ofKeyed keyed ∧ KeepsMembers levels keyed keptMembers := by
  induction members generalizing keptMembers with
  | nil =>
      cases read
      exact ⟨[], rfl, .nil⟩
  | cons member rest induction =>
      obtain ⟨key?, item⟩ := member
      rcases of_ofMembers?_cons read with ⟨key, _, _, rfl, rfl, first, others⟩
      rcases induction others with ⟨keyed, rfl, each⟩
      exact ⟨(key, item) :: keyed, rfl, .cons ⟨rfl, first⟩ each⟩

theorem KeepsMembers.ofMembers? (each : KeepsMembers levels members keptMembers) :
    ofMembers? levels (ofKeyed members) = some keptMembers := by
  induction each with
  | nil => rfl
  | @cons member kept rest later first others induction =>
      rcases first with ⟨same, keeps⟩
      rw [Keeps] at keeps
      rw [ofKeyed] at induction
      simp only [ofKeyed, List.map_cons, Buffered.ofMembers?, keeps, induction, same]

theorem Keeps.array (keeps : Keeps levels (.array items) kept) :
    ∃ inside keptItems, levels = inside + 1 ∧ kept = .array keptItems ∧
      ofItems? inside items = some keptItems := by
  cases levels with
  | zero => cases keeps
  | succ inside =>
      rcases Option.map_eq_some_iff.mp keeps with ⟨keptItems, read, rfl⟩
      exact ⟨inside, keptItems, rfl, rfl, read⟩

theorem Keeps.object {members : List (Option String × Written)}
    (keeps : Keeps levels (.object members) kept) :
    ∃ inside keptMembers, levels = inside + 1 ∧ kept = .object keptMembers ∧
      ofMembers? inside members = some keptMembers := by
  cases levels with
  | zero => cases keeps
  | succ inside =>
      rcases Option.map_eq_some_iff.mp keeps with ⟨keptMembers, read, rfl⟩
      exact ⟨inside, keptMembers, rfl, rfl, read⟩

theorem Keeps.copies (keeps : Keeps levels written kept) : Copies levels written kept := by
  cases written with
  | null =>
      cases keeps
      exact .null
  | bool value =>
      cases keeps
      exact .bool value
  | number value =>
      rcases Option.map_eq_some_iff.mp keeps with ⟨value, rfl, rfl⟩
      exact .number value
  | string text =>
      rcases Option.map_eq_some_iff.mp keeps with ⟨text, rfl, rfl⟩
      exact .string text
  | array items =>
      rcases keeps.array with ⟨inside, keptItems, rfl, rfl, read⟩
      exact .array (forall₂_of_ofItems? read)
  | object members =>
      rcases keeps.object with ⟨inside, keptMembers, rfl, rfl, read⟩
      rcases keepsMembers_of_ofMembers? read with ⟨keyed, rfl, each⟩
      exact .object each

mutual

theorem exists_keeps : ∀ {written : Written} {levels : Nat}, written.isReadable = true →
    written.height ≤ levels → ∃ kept, Keeps levels written kept
  | .null, _, _, _ => ⟨_, rfl⟩
  | .bool _, _, _, _ => ⟨_, rfl⟩
  | .number (some _), _, _, _ => ⟨_, rfl⟩
  | .string (some _), _, _, _ => ⟨_, rfl⟩
  | .array items, levels + 1, readable, shallow => by
      rw [height] at shallow
      rcases exists_ofItems? readable (Nat.le_of_succ_le_succ shallow) with ⟨kept, read⟩
      exact ⟨.array kept, Option.map_eq_some_iff.mpr ⟨kept, read, rfl⟩⟩
  | .object members, levels + 1, readable, shallow => by
      rw [height] at shallow
      rcases exists_ofMembers? readable (Nat.le_of_succ_le_succ shallow) with ⟨kept, read⟩
      exact ⟨.object kept, Option.map_eq_some_iff.mpr ⟨kept, read, rfl⟩⟩

theorem exists_ofItems? : ∀ {items : List Written} {levels : Nat}, itemsReadable items = true →
    itemsHeight items ≤ levels → ∃ kept, ofItems? levels items = some kept
  | [], _, _, _ => ⟨[], rfl⟩
  | item :: rest, levels, readable, shallow => by
      rw [itemsReadable, Bool.and_eq_true] at readable
      rw [itemsHeight, Nat.max_le] at shallow
      rcases exists_keeps readable.1 shallow.1 with ⟨first, keeps⟩
      rcases exists_ofItems? readable.2 shallow.2 with ⟨others, read⟩
      rw [Keeps] at keeps
      exact ⟨first :: others, by simp only [ofItems?, keeps, read]⟩

theorem exists_ofMembers? : ∀ {members : List (Option String × Written)} {levels : Nat},
    membersReadable members = true → membersHeight members ≤ levels →
      ∃ kept, ofMembers? levels members = some kept
  | [], _, _, _ => ⟨[], rfl⟩
  | (none, item) :: rest, _, readable, _ => by
      rw [membersReadable] at readable
      cases readable
  | (some key, item) :: rest, levels, readable, shallow => by
      rw [membersReadable, Bool.and_eq_true, Bool.and_eq_true] at readable
      rw [membersHeight, Nat.max_le] at shallow
      rcases exists_keeps readable.1.2 shallow.1 with ⟨first, keeps⟩
      rcases exists_ofMembers? readable.2 shallow.2 with ⟨others, read⟩
      rw [Keeps] at keeps
      exact ⟨(key, first) :: others, by simp only [ofMembers?, keeps, read]⟩

end

mutual

theorem Keeps.height_le : ∀ {written : Written} {levels : Nat} {kept : Buffered},
    Keeps levels written kept → written.height ≤ levels
  | .null, _, _, _ | .bool _, _, _, _ | .number _, _, _, _ | .string _, _, _, _ => Nat.zero_le _
  | .array items, _, _, keeps => by
      rcases keeps.array with ⟨inside, keptItems, rfl, rfl, read⟩
      exact Nat.succ_le_succ (itemsHeight_le read)
  | .object members, _, _, keeps => by
      rcases keeps.object with ⟨inside, keptMembers, rfl, rfl, read⟩
      exact Nat.succ_le_succ (membersHeight_le read)

theorem itemsHeight_le : ∀ {items : List Written} {levels : Nat} {kept : List Buffered},
    ofItems? levels items = some kept → itemsHeight items ≤ levels
  | [], _, _, _ => Nat.zero_le _
  | item :: rest, levels, _, read => by
      rcases of_ofItems?_cons read with ⟨_, _, _, first, others⟩
      exact Nat.max_le.mpr ⟨Keeps.height_le first, itemsHeight_le others⟩

theorem membersHeight_le : ∀ {members : List (Option String × Written)} {levels : Nat}
    {kept : List (String × Buffered)}, ofMembers? levels members = some kept →
      membersHeight members ≤ levels
  | [], _, _, _ => Nat.zero_le _
  | (key, item) :: rest, levels, _, read => by
      rcases of_ofMembers?_cons read with ⟨_, _, _, _, _, first, others⟩
      exact Nat.max_le.mpr ⟨Keeps.height_le first, membersHeight_le others⟩

end

/-! ## Free-form values -/

section FreeForm

variable {embedded? : String → Option Json}

theorem string?_of_keeps (keeps : Keeps levels written kept) :
    kept.string? = written.string? := by
  cases keeps.copies <;> rfl

theorem isEmbedding_of_keepsMembers (each : KeepsMembers levels members keptMembers) :
    isEmbedding keptMembers = Written.isEmbedding (ofKeyed members) := by
  cases each with
  | nil => rfl
  | cons first others => exact congrArg (· == embeddedKey) first.1.symm

theorem embeddedText?_of_keepsMembers (each : KeepsMembers levels members keptMembers) :
    embeddedText? keptMembers = Written.embeddedText? (ofKeyed members) := by
  cases each with
  | nil => rfl
  | @cons member kept rest later first others =>
      obtain ⟨key, item⟩ := member
      obtain ⟨keptKey, keptItem⟩ := kept
      have copies := first.2.copies
      cases others <;> cases copies <;> rfl

mutual

theorem valueWith?_of_keeps : ∀ {written : Written} {levels : Nat} {kept : Buffered},
    Keeps levels written kept → kept.valueWith? embedded? = written.valueWith? embedded?
  | .null, _, _, keeps | .bool _, _, _, keeps | .number _, _, _, keeps
  | .string _, _, _, keeps => by
      cases keeps.copies
      rfl
  | .array items, _, _, keeps => by
      rcases keeps.array with ⟨inside, keptItems, rfl, rfl, read⟩
      rw [Buffered.valueWith?, Written.valueWith?, itemValues?_of_ofItems? read]
  | .object members, _, _, keeps => by
      rcases keeps.object with ⟨inside, keptMembers, rfl, rfl, read⟩
      rcases keepsMembers_of_ofMembers? read with ⟨keyed, same, each⟩
      rw [Buffered.valueWith?, Written.valueWith?, memberValues?_of_ofMembers? read, same,
        isEmbedding_of_keepsMembers each, embeddedText?_of_keepsMembers each]

theorem itemValues?_of_ofItems? : ∀ {items : List Written} {levels : Nat}
    {kept : List Buffered}, ofItems? levels items = some kept →
      Buffered.itemValues? embedded? kept = Written.itemValues? embedded? items
  | [], _, _, read => by
      cases read
      rfl
  | item :: rest, levels, _, read => by
      rcases of_ofItems?_cons read with ⟨_, _, rfl, first, others⟩
      cases value : Written.valueWith? embedded? item <;>
        cases values : Written.itemValues? embedded? rest <;>
        simp only [Buffered.itemValues?, Written.itemValues?, valueWith?_of_keeps first,
          itemValues?_of_ofItems? others, value, values]

theorem memberValues?_of_ofMembers? : ∀ {members : List (Option String × Written)}
    {levels : Nat} {kept : List (String × Buffered)}, ofMembers? levels members = some kept →
      Buffered.memberValues? embedded? kept = Written.memberValues? embedded? members
  | [], _, _, read => by
      cases read
      rfl
  | (key, item) :: rest, levels, _, read => by
      rcases of_ofMembers?_cons read with ⟨_, _, _, rfl, rfl, first, others⟩
      cases value : Written.valueWith? embedded? item <;>
        cases values : Written.memberValues? embedded? rest <;>
        simp only [Buffered.memberValues?, Written.memberValues?, valueWith?_of_keeps first,
          memberValues?_of_ofMembers? others, value, values]

end

end FreeForm

/-! ## Declared fields -/

theorem KeepsMembers.filter (each : KeepsMembers levels members keptMembers)
    (keep : String → Bool) :
    KeepsMembers levels (members.filter fun member => keep member.1)
      (keptMembers.filter fun member => keep member.1) := by
  induction each with
  | nil => exact .nil
  | cons first others induction =>
      rw [List.filter_cons, List.filter_cons, ← first.1]
      split
      · exact .cons first induction
      · exact induction

theorem KeepsMembers.occurrences (each : KeepsMembers levels members keptMembers)
    (name : String) :
    List.Forall₂ (Keeps levels) (occurrences members name) (occurrences keptMembers name) := by
  induction each with
  | nil => exact .nil
  | cons first others induction =>
      rw [occurrences_cons, occurrences_cons, ← first.1]
      split
      · exact .cons first.2 induction
      · exact induction

theorem KeepsMembers.member? (each : KeepsMembers levels members keptMembers) (field : Field) :
    Option.Rel (Option.Rel (Keeps levels)) (member? members field) (member? keptMembers field) := by
  have values := each.occurrences field.name
  unfold Written.member?
  generalize Written.occurrences members field.name = found at values
  generalize Written.occurrences keptMembers field.name = keptFound at values
  cases values with
  | nil =>
      dsimp only
      split
      · exact .none
      · exact .some .none
  | cons first others =>
      cases others with
      | nil => exact .some (.some first)
      | cons second more => exact .none

theorem rel_places? (declared : List Field) (each : List.Forall₂ (Keeps levels) items keptItems) :
    Option.Rel (List.Forall₂ (Option.Rel (Keeps levels))) (places? declared items)
      (places? declared keptItems) := by
  have extend {value : Option Written} {keptValue : Option Buffered}
      {found : Option (List (Option Written))} {keptFound : Option (List (Option Buffered))}
      (first : Option.Rel (Keeps levels) value keptValue)
      (others : Option.Rel (List.Forall₂ (Option.Rel (Keeps levels))) found keptFound) :
      Option.Rel (List.Forall₂ (Option.Rel (Keeps levels))) (found.map (value :: ·))
        (keptFound.map (keptValue :: ·)) := by
    cases others with
    | none => exact .none
    | some later => exact .some (.cons first later)
  induction declared generalizing items keptItems with
  | nil =>
      cases each with
      | nil => exact .some .nil
      | cons first others => exact .none
  | cons field fields induction =>
      cases each with
      | nil =>
          rw [places?, places?]
          split
          · exact extend .none (induction .nil)
          · exact .none
      | cons first others => exact extend (.some first) (induction others)

theorem rel_mapM {α β γ : Type} {alike : β → γ → Prop} {read : α → Option β}
    {readKept : α → Option γ} (each : ∀ value, Option.Rel alike (read value) (readKept value))
    (values : List α) :
    Option.Rel (List.Forall₂ alike) (values.mapM read) (values.mapM readKept) := by
  induction values with
  | nil => exact .some .nil
  | cons value rest induction =>
      rw [List.mapM_cons, List.mapM_cons]
      have first := each value
      generalize read value = found at first
      generalize readKept value = keptFound at first
      generalize rest.mapM read = others at induction
      generalize rest.mapM readKept = keptOthers at induction
      cases first with
      | none => exact .none
      | some same =>
          cases induction with
          | none => exact .none
          | some later => exact .some (.cons same later)

theorem Keeps.fields? (keeps : Keeps levels written kept) (declared : List Field) :
    ∃ inside, Option.Rel (List.Forall₂ (Option.Rel (Keeps inside))) (written.fields? declared)
      (kept.fields? declared) := by
  cases keeps.copies with
  | array each => exact ⟨_, rel_places? declared each⟩
  | @object inside members kept each =>
      refine ⟨inside, ?_⟩
      rw [Written.fields?, keyed?_ofKeyed]
      exact rel_mapM each.member? declared
  | _ => exact ⟨0, .none⟩

theorem optional?_of_rel {α : Type} {read : Written → Option α} {readKept : Buffered → Option α}
    (alike : ∀ {levels written kept}, Keeps levels written kept → readKept kept = read written)
    {found : Option Written} {keptFound : Option Buffered}
    (rel : Option.Rel (Keeps levels) found keptFound) :
    Buffered.optional? readKept keptFound = Written.optional? read found := by
  cases rel with
  | none => rfl
  | some keeps =>
      have same := congrArg (Option.map some) (alike keeps)
      cases keeps.copies with
      | null => rfl
      | _ => exact same

theorem KeepsMembers.optional? {α : Type} {read : Written → Option α}
    {readKept : Buffered → Option α} (each : KeepsMembers levels members keptMembers)
    (alike : ∀ {levels written kept}, Keeps levels written kept → readKept kept = read written)
    (field : Field) :
    (Written.member? keptMembers field).bind (Buffered.optional? readKept) =
      (Written.member? members field).bind (Written.optional? read) := by
  have rel := each.member? field
  generalize Written.member? members field = found at rel
  generalize Written.member? keptMembers field = keptFound at rel
  cases rel with
  | none => rfl
  | some rel => exact optional?_of_rel alike rel

end Buffered

open Buffered

/-! ## Payloads -/

theorem Identity.ofBuffered?_of_keeps {levels : Nat} {written : Written} {kept : Buffered}
    (keeps : Keeps levels written kept) : ofBuffered? kept = read? written := by
  rcases keeps.fields? [⟨"name", .refused⟩, ⟨"email", .refused⟩] with ⟨inside, fields⟩
  unfold ofBuffered? read?
  generalize written.fields? _ = found at fields
  generalize kept.fields? _ = keptFound at fields
  cases fields with
  | none => rfl
  | some each =>
      rcases each with _ | ⟨keepsName | _, _ | ⟨keepsEmail | _, _ | ⟨_, _⟩⟩⟩
      case some.cons.some.cons.some.nil =>
        simp only [string?_of_keeps keepsName, string?_of_keeps keepsEmail]
      all_goals rfl

theorem PointerEvent.ofBuffered?_of_keeps {levels : Nat} {written : Written} {kept : Buffered}
    (keeps : Keeps levels written kept) : ofBuffered? kept = read? levels written := by
  cases keeps.copies with
  | object each =>
      have position := (each.filter isPosition).ofMembers?
      have values : Buffered.freeMembers? _ = freeMembers? (positionOf _) :=
        congrArg (Option.map Members.ofList) (memberValues?_of_ofMembers? position)
      -- What is too deep was refused when it was read ahead, so here the bound is met.
      have low : membersHeight (positionOf _) < _ + 1 :=
        Nat.lt_succ_of_le (membersHeight_le position)
      simp only [ofBuffered?, read?, keyed?_ofKeyed, Option.bind_eq_bind, Option.bind_some,
        ← Option.bind_assoc, each.optional? Identity.ofBuffered?_of_keeps,
        each.optional? string?_of_keeps, values, if_pos low]
  | _ => rfl

/-- What was read ahead is read again as what is read at once. -/
theorem ClientMessage.ofBuffered?_of_keeps {name : String} {data : Written} {kept : Buffered}
    (keeps : Keeps payloadLevels data kept) : ofBuffered? name kept = ofPayload? name data := by
  unfold ofBuffered? ofPayload?
  rw [string?_of_keeps keeps, PointerEvent.ofBuffered?_of_keeps keeps]

end SharedEditing
