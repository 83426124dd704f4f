import Mathlib.Data.List.Basic
import SharedEditing.Presence

/-! # Rosters

The people in a room are listed once each, in the order of their earliest connections
and as these have it. Together that determines the list. -/

namespace SharedEditing.Presence

structure Roster (identities users : List Identity) : Prop where
  complete : ∀ email,
    (∃ user ∈ users, user.email = email) ↔ ∃ identity ∈ identities, identity.email = email
  /-- A person is shown as the earliest of their identities. -/
  earliest : ∀ user ∈ users,
    identities.find? (fun identity => identity.email == user.email) = some user
  /-- Strictly increasing, so that nobody is listed twice. -/
  ordered : users.Pairwise fun first second =>
    (identities.map Identity.email).idxOf first.email <
      (identities.map Identity.email).idxOf second.email

/-! ## What is listed -/

theorem mem_firstOfEach_iff {seen : List String} {identities : List Identity} {user : Identity} :
    user ∈ firstOfEach seen identities ↔
      user.email ∉ seen ∧
        identities.find? (fun identity => identity.email == user.email) = some user := by
  induction identities generalizing seen with
  | nil => simp [firstOfEach]
  | cons identity rest induction =>
      unfold firstOfEach
      by_cases same : identity.email = user.email
      -- The first with its email is the one to be listed, unless the email was seen before.
      · rw [List.find?_cons_of_pos (by simp [same])]
        split
        · rename_i shown
          rw [induction]
          simp [same ▸ shown]
        · rename_i fresh
          rw [List.mem_cons, induction]
          constructor
          · intro listed
            rcases listed with equal | ⟨absent, _⟩
            · subst equal
              exact ⟨fresh, rfl⟩
            · simp [same] at absent
          · intro first
            rcases first with ⟨_, equal⟩
            exact .inl (Option.some.inj equal).symm
      · rw [List.find?_cons_of_neg (by simp [same])]
        split
        · exact induction
        · rw [List.mem_cons, induction, List.mem_cons]
          constructor
          · intro listed
            rcases listed with equal | ⟨absent, found⟩
            · exact False.elim (same (equal ▸ rfl))
            · exact ⟨fun shown => absent (.inr shown), found⟩
          · intro first
            rcases first with ⟨unseen, found⟩
            refine .inr ⟨?_, found⟩
            intro already
            rcases already with equal | shown
            · exact same equal.symm
            · exact unseen shown

/-- Emails other than the first keep their order when the first is put before them. -/
theorem pairwise_cons {identity : Identity} {rest users : List Identity}
    (different : ∀ user ∈ users, identity.email ≠ user.email)
    (ordered : users.Pairwise fun first second =>
      (rest.map Identity.email).idxOf first.email < (rest.map Identity.email).idxOf second.email) :
    users.Pairwise fun first second =>
      ((identity :: rest).map Identity.email).idxOf first.email <
        ((identity :: rest).map Identity.email).idxOf second.email := by
  refine ordered.imp_of_mem fun {first second} isFirst isSecond before => ?_
  rw [List.map_cons, List.idxOf_cons_ne _ (different first isFirst),
    List.idxOf_cons_ne _ (different second isSecond)]
  exact Nat.succ_lt_succ before

theorem pairwise_firstOfEach (seen : List String) (identities : List Identity) :
    (firstOfEach seen identities).Pairwise fun first second =>
      (identities.map Identity.email).idxOf first.email <
        (identities.map Identity.email).idxOf second.email := by
  induction identities generalizing seen with
  | nil => exact List.Pairwise.nil
  | cons identity rest induction =>
      unfold firstOfEach
      split
      · rename_i shown
        apply pairwise_cons _ (induction seen)
        intro user listed equal
        exact (mem_firstOfEach_iff.mp listed).1 (equal ▸ shown)
      · have different : ∀ user ∈ firstOfEach (identity.email :: seen) rest,
            identity.email ≠ user.email := by
          intro user listed equal
          exact (mem_firstOfEach_iff.mp listed).1 (by simp [equal])
        rw [List.pairwise_cons]
        refine ⟨fun user listed => ?_, pairwise_cons different (induction _)⟩
        rw [List.map_cons, List.idxOf_cons_self, List.idxOf_cons_ne _ (different user listed)]
        exact Nat.succ_pos _

theorem roster_firstOfEach (identities : List Identity) :
    Roster identities (firstOfEach [] identities) where
  complete email := by
    constructor
    · intro listed
      rcases listed with ⟨user, listed, rfl⟩
      have found := (mem_firstOfEach_iff.mp listed).2
      exact ⟨user, List.mem_of_find?_eq_some found, rfl⟩
    · intro present
      rcases present with ⟨identity, member, rfl⟩
      cases found : identities.find? fun other => other.email == identity.email with
      | none =>
          have absent := List.find?_eq_none.mp found identity member
          simp at absent
      | some user =>
          have same : user.email = identity.email := by simpa using List.find?_some found
          exact ⟨user, mem_firstOfEach_iff.mpr ⟨by simp, same ▸ found⟩, same⟩
  earliest user listed := (mem_firstOfEach_iff.mp listed).2
  ordered := pairwise_firstOfEach [] identities

theorem roster_editors {members : List Member} {identities : List Identity}
    (known : members.map Member.identity = identities.map some) :
    Roster identities (editors members) := by
  have listed : members.filterMap (fun member => member.identity) = identities :=
    calc members.filterMap (fun member => member.identity)
      _ = (members.map Member.identity).filterMap id := by
        rw [List.filterMap_map]
        rfl
      _ = (identities.map some).filterMap id := by rw [known]
      _ = identities.filterMap some := List.filterMap_map
      _ = identities := List.filterMap_some
  unfold editors
  rw [listed]
  exact roster_firstOfEach identities

end SharedEditing.Presence
