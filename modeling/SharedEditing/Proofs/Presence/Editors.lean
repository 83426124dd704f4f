import SharedEditing.Proofs.Presence.Roster

/-! # Editors

Whoever is in a room with several connections is among its editors once, as the earliest of
them. Members whose identity is not known are passed over, and a further connection of
somebody who is listed already changes nothing. -/

namespace SharedEditing

def Member.email? (member : Member) : Option String := member.identity.map Identity.email

namespace Presence

theorem idxOf_lt_of_filterMap {α : Type u} [DecidableEq α] {values : List (Option α)}
    {first second : α}
    (before : (values.filterMap id).idxOf first < (values.filterMap id).idxOf second) :
    values.idxOf (some first) < values.idxOf (some second) := by
  induction values with
  | nil => exact absurd before (Nat.lt_irrefl _)
  | cons value rest induction =>
      cases value with
      | none =>
          have later := induction before
          rw [List.idxOf_cons_ne _ (by simp), List.idxOf_cons_ne _ (by simp)]
          exact Nat.succ_lt_succ later
      | some value =>
          have known : (some value :: rest).filterMap id = value :: rest.filterMap id := rfl
          rw [known] at before
          have other : value ≠ second := by
            rintro rfl
            rw [List.idxOf_cons_self] at before
            exact absurd before (Nat.not_lt_zero _)
          have otherValue : some value ≠ some second := by simpa using other
          rw [List.idxOf_cons_ne _ otherValue]
          by_cases same : value = first
          · rw [same, List.idxOf_cons_self]
            exact Nat.succ_pos _
          · rw [List.idxOf_cons_ne _ same, List.idxOf_cons_ne _ other] at before
            rw [List.idxOf_cons_ne _ (by simpa using same)]
            exact Nat.succ_lt_succ (induction (Nat.lt_of_succ_lt_succ before))

structure ListsEachOnce (members : List Member) (users : List Identity) : Prop where
  distinct : (users.map Identity.email).Nodup
  complete : ∀ email,
    email ∈ users.map Identity.email ↔ ∃ member ∈ members, member.email? = some email
  /-- A person is shown as their earliest connection has it. -/
  earliest : ∀ user ∈ users, ∃ before member after, members = before ++ member :: after ∧
    member.identity = some user ∧ ∀ other ∈ before, other.email? ≠ some user.email
  ordered : users.Pairwise fun first second =>
    (members.map Member.email?).idxOf (some first.email) <
      (members.map Member.email?).idxOf (some second.email)

theorem listsEachOnce_editors (members : List Member) :
    ListsEachOnce members (editors members) := by
  have roster := roster_firstOfEach (members.filterMap Member.identity)
  have emails : (members.map Member.email?).filterMap id =
      (members.filterMap Member.identity).map Identity.email := by
    rw [List.filterMap_map, List.map_filterMap]
    rfl
  have ordered : (editors members).Pairwise fun first second =>
      (members.map Member.email?).idxOf (some first.email) <
        (members.map Member.email?).idxOf (some second.email) :=
    roster.ordered.imp fun before => idxOf_lt_of_filterMap (emails ▸ before)
  refine ⟨?distinct, fun email => ?complete, fun user listed => ?earliest, ordered⟩
  case distinct =>
    refine List.pairwise_map.mpr (ordered.imp fun {first second} before same => ?_)
    exact absurd before (same ▸ Nat.lt_irrefl _)
  case complete =>
    rw [List.mem_map]
    refine (roster.complete email).trans ?_
    simp only [List.mem_filterMap, Member.email?, Option.map_eq_some_iff]
    constructor
    · rintro ⟨identity, ⟨member, present, known⟩, own⟩
      exact ⟨member, present, identity, known, own⟩
    · rintro ⟨member, present, identity, known, own⟩
      exact ⟨identity, ⟨member, present, known⟩, own⟩
  case earliest =>
    rcases List.find?_eq_some_iff_append.mp (roster.earliest user listed) with
      ⟨_, known, unknown, split, others⟩
    rcases List.filterMap_eq_append_iff.mp split with ⟨ahead, behind, rfl, rfl, rest⟩
    rcases List.filterMap_eq_cons_iff.mp rest with ⟨nobody, member, after, rfl, silent, own, _⟩
    refine ⟨ahead ++ nobody, member, after, by simp, own, fun other earlier same => ?_⟩
    rcases Option.map_eq_some_iff.mp same with ⟨identity, present, email⟩
    rcases List.mem_append.mp earlier with here | there
    · have different := others identity (List.mem_filterMap.mpr ⟨other, here, present⟩)
      simp [email] at different
    · rw [silent other there] at present
      cases present

/-- Whoever was seen before is passed over wherever they come again. -/
theorem firstOfEach_of_seen {seen : List String} {identities rest : List Identity}
    {late : Identity}
    (known : late.email ∈ seen ∨ ∃ identity ∈ identities, identity.email = late.email) :
    firstOfEach seen (identities ++ late :: rest) = firstOfEach seen (identities ++ rest) := by
  induction identities generalizing seen with
  | nil =>
      have shown : late.email ∈ seen := by simpa using known
      rw [List.nil_append, firstOfEach, if_pos shown]
      rfl
  | cons identity others induction =>
      rw [List.cons_append, List.cons_append, firstOfEach, firstOfEach]
      split
      · rename_i shown
        refine induction ?_
        rcases known with seen | ⟨other, member, own⟩
        · exact .inl seen
        · rcases List.mem_cons.mp member with rfl | later
          · exact .inl (own ▸ shown)
          · exact .inr ⟨other, later, own⟩
      · refine congrArg (identity :: ·) (induction ?_)
        rcases known with seen | ⟨other, member, own⟩
        · exact .inl (.tail _ seen)
        · rcases List.mem_cons.mp member with rfl | later
          · exact .inl (own ▸ .head _)
          · exact .inr ⟨other, later, own⟩

theorem editors_of_later_member {before after : List Member} {late : Member}
    (listed : ∃ member ∈ before, ∃ email, member.email? = some email ∧ late.email? = some email) :
    editors (before ++ late :: after) = editors (before ++ after) := by
  rcases listed with ⟨member, present, email, own, same⟩
  rcases Option.map_eq_some_iff.mp own with ⟨identity, known, rfl⟩
  rcases Option.map_eq_some_iff.mp same with ⟨again, knownAgain, equal⟩
  simp only [editors, List.filterMap_append, List.filterMap_cons, knownAgain]
  refine firstOfEach_of_seen (.inr ⟨identity, ?_, equal.symm⟩)
  exact List.mem_filterMap.mpr ⟨member, present, known⟩

/-- The editors of any members are the people among them, each once, in the order and with the
names of their earliest connections, and later connections of theirs make no difference. -/
theorem editors_list_each_once (members : List Member) :
    ListsEachOnce members (editors members) ∧
      ∀ before after late, members = before ++ after →
        (∃ member ∈ before, ∃ email, member.email? = some email ∧ late.email? = some email) →
          editors (before ++ late :: after) = editors members := by
  refine ⟨listsEachOnce_editors members, fun before after late split listed => ?_⟩
  rw [split]
  exact editors_of_later_member listed

/-- Somebody unknown, two people, and a second connection of the first under another name. -/
theorem editors_list_each_once_of_tabs :
    let before : List Member :=
      [⟨⟨"a"⟩, none⟩, ⟨⟨"b"⟩, some ⟨"Ann", "ann@x"⟩⟩, ⟨⟨"c"⟩, some ⟨"Bob", "bob@x"⟩⟩]
    let after : List Member := [⟨⟨"d"⟩, some ⟨"Robert", "bob@x"⟩⟩]
    let late : Member := ⟨⟨"e"⟩, some ⟨"Anna", "ann@x"⟩⟩
    editors (before ++ after) = [⟨"Ann", "ann@x"⟩, ⟨"Bob", "bob@x"⟩] ∧
      ListsEachOnce (before ++ after) (editors (before ++ after)) ∧
      (∃ member ∈ before, ∃ email, member.email? = some email ∧ late.email? = some email) ∧
      editors (before ++ late :: after) = editors (before ++ after) := by
  intro before after late
  have listed :
      ∃ member ∈ before, ∃ email, member.email? = some email ∧ late.email? = some email :=
    ⟨_, .tail _ (.head _), "ann@x", rfl, rfl⟩
  have once := editors_list_each_once (before ++ after)
  exact ⟨by decide, once.1, listed, once.2 before after late rfl listed⟩

end Presence

end SharedEditing
