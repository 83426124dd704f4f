import Mathlib.Data.List.Forall2
import SharedEditing.Json.Shape

/-! # Records as they are written

A record is an object that has each of its fields once, among any other members, or an array
of its fields in order. -/

namespace SharedEditing

theorem mapM_eq_some_iff {α β : Type} {read : α → Option β} {items : List α} {found : List β} :
    items.mapM read = some found ↔
      List.Forall₂ (fun item value => read item = some value) items found := by
  induction items generalizing found with
  | nil => simp [eq_comm]
  | cons item rest induction =>
      simp only [List.mapM_cons, Option.bind_eq_bind, Option.pure_def, Option.bind_eq_some_iff,
        induction, List.forall₂_cons_left_iff, Option.some.injEq, exists_and_left,
        @eq_comm _ found]

namespace Written

variable {members : List (String × Written)} {name : String} {value written : Written}
  {found : Option Written}

theorem string?_eq_some_iff {text : String} :
    written.string? = some text ↔ written = .string (some text) := by
  cases written <;> simp [string?]

theorem member?_refused_eq_some_iff :
    member? members ⟨name, .refused⟩ = some found ↔
      ∃ value, occurrences members name = [value] ∧ found = some value := by
  unfold member?
  cases occurrences members name with
  | nil => simp
  | cons value rest =>
      cases rest with
      | nil => simp [eq_comm]
      | cons next rest => simp

/-- A field that may be absent stands once at most. -/
theorem member?_eq_some_iff_of_ne_refused {absence : Absence} (may : absence ≠ .refused) :
    member? members ⟨name, absence⟩ = some found ↔ occurrences members name = found.toList := by
  unfold member?
  cases occurrences members name with
  | nil => cases found <;> simp [may]
  | cons value rest =>
      cases rest with
      | nil => cases found <;> simp
      | cons next rest => cases found <;> simp

theorem member?_default_eq_some_iff :
    member? members ⟨name, .default⟩ = some found ↔ occurrences members name = found.toList :=
  member?_eq_some_iff_of_ne_refused (by decide)

theorem member?_noValue_eq_some_iff :
    member? members ⟨name, .noValue⟩ = some found ↔ occurrences members name = found.toList :=
  member?_eq_some_iff_of_ne_refused (by decide)

theorem fields?_eq_some_iff {declared : List Field} {values : List (Option Written)} :
    written.fields? declared = some values ↔
      (∃ members keyed, written = .object members ∧ keyed? members = some keyed ∧
        List.Forall₂ (fun field value => member? keyed field = some value) declared values) ∨
      ∃ items, written = .array items ∧ places? declared items = some values := by
  cases written <;> simp [fields?, Option.bind_eq_some_iff, mapM_eq_some_iff]

inductive Holds (name : String) (value : Written) : Written → Prop where
  | object {members : List (Option String × Written)} {keyed : List (String × Written)}
      (keys : keyed? members = some keyed) (once : occurrences keyed name = [value]) :
      Holds name value (.object members)
  | array : Holds name value (.array [value])

theorem fields?_single_eq_some_iff :
    fields? [⟨name, .refused⟩] written = some [some value] ↔ Holds name value written := by
  have places (items : List Written) :
      places? [⟨name, .refused⟩] items = some [some value] ↔ items = [value] := by
    rcases items with _ | ⟨item, _ | ⟨next, rest⟩⟩ <;> simp [places?]
  simp only [fields?_eq_some_iff, List.forall₂_cons, List.forall₂_nil_left_iff, and_true,
    member?_refused_eq_some_iff, Option.some.injEq, exists_eq_right', places]
  constructor
  · rintro (⟨members, keyed, rfl, keys, once⟩ | ⟨items, rfl, rfl⟩)
    · exact .object keys once
    · exact .array
  · rintro (⟨keys, once⟩ | _)
    · exact .inl ⟨_, _, rfl, keys, once⟩
    · exact .inr ⟨_, rfl, rfl⟩

end Written

end SharedEditing
