import SharedEditing.Proofs.Settings.Soundness
import SharedEditing.Proofs.Text.Pieces

/-! # The address of identities

The slashes at the end of the address of a session service are dropped, and the path of
identities follows. If the address names something behind its scheme then the scheme and the
host stay what they are, whatever the path is. An address that is no more than a scheme loses
the slashes of the scheme. -/

namespace SharedEditing

theorem beginsWith_append_left (before text start : String) :
    beginsWith (before ++ text) (before ++ start) = beginsWith text start := by
  rw [Bool.eq_iff_iff, beginsWith, beginsWith, List.isPrefixOf_iff_prefix,
    List.isPrefixOf_iff_prefix, String.toList_append, String.toList_append,
    List.prefix_append_right_inj]

namespace SessionServiceSettings

variable {settings : SessionServiceSettings} {stage : Stage} {text core before after rest : String}

/-! ## Slashes at the end -/

structure StripsTo (text core : String) : Prop where
  last : ∀ character ∈ core.toList.getLast?, character ≠ '/'
  slashes : ∃ after : String, text = core ++ after ∧ ∀ character ∈ after.toList, character = '/'

theorem withoutTrailingSlashes_eq_iff :
    withoutTrailingSlashes text = core ↔ StripsTo text core := by
  have stripped : withoutTrailingSlashes text = core ↔
      text.toList.rdropWhile (· == '/') = core.toList := by
    rw [← String.toList_inj]
    simp only [withoutTrailingSlashes, String.toList_ofList]
    rfl
  rw [stripped, Text.rdropWhile_eq_iff]
  simp only [beq_eq_false_iff_ne, beq_iff_eq]
  constructor
  · rintro ⟨last, after, split, slashes⟩
    exact ⟨last, String.ofList after, String.toList_injective (by simp [split]), by simpa⟩
  · rintro ⟨last, after, rfl, slashes⟩
    exact ⟨last, after.toList, String.toList_append, slashes⟩

theorem stripsTo_withoutTrailingSlashes (text : String) :
    StripsTo text (withoutTrailingSlashes text) :=
  withoutTrailingSlashes_eq_iff.mp rfl

/-- What stands in front of a text is not touched if something of the text remains. -/
theorem StripsTo.append_left (strips : StripsTo text core) (filled : core ≠ "") (before : String) :
    StripsTo (before ++ text) (before ++ core) := by
  rcases strips with ⟨last, after, rfl, slashes⟩
  have same : (before ++ core).toList.getLast? = core.toList.getLast? := by
    rw [String.toList_append, List.getLast?_append_of_ne_nil]
    rwa [ne_eq, String.toList_eq_nil_iff]
  exact ⟨same ▸ last, after, (String.append_assoc).symm, slashes⟩

/-! ## Schemes and hosts -/

inductive Scheme where
  | http
  | https
  deriving DecidableEq, Repr

namespace Scheme

def label : Scheme → String
  | http => "http:"
  | https => "https:"

def start (scheme : Scheme) : String := scheme.label ++ "//"

theorem stripsTo_label (scheme : Scheme) (slashes : ∀ character ∈ rest.toList, character = '/') :
    StripsTo (scheme.start ++ rest) scheme.label := by
  have last : scheme.label.toList.getLast? = some ':' := by cases scheme <;> rfl
  refine ⟨?_, "//" ++ rest, String.append_assoc, ?_⟩
  · simp [last]
  · simpa using slashes

end Scheme

def NamesSomething (rest : String) : Prop := ∃ character ∈ rest.toList, character ≠ '/'

instance (rest : String) : Decidable (NamesSomething rest) :=
  decidable_of_iff (rest.toList.any (· != '/') = true) (by simp [NamesSomething])

example : NamesSomething "sessions/" ∧ ¬ NamesSomething "//" := by decide

theorem forall_eq_of_not_namesSomething (unnamed : ¬ NamesSomething rest) :
    ∀ character ∈ rest.toList, character = '/' := by
  simpa [NamesSomething] using unnamed

theorem NamesSomething.ne_empty (named : NamesSomething rest) (strips : StripsTo rest core) :
    core ≠ "" := by
  rintro rfl
  rcases strips.slashes with ⟨after, rfl, slashes⟩
  rcases named with ⟨character, member, other⟩
  exact other (slashes character (by simpa using member))

def endsHost (character : Char) : Bool :=
  character == '/' || character == '\\' || character == '?' || character == '#'

def hostOf (rest : String) : String :=
  String.ofList (rest.toList.takeWhile fun character => !endsHost character)

example : hostOf "sessions.internal:8080/base?x" = "sessions.internal:8080" := by decide

theorem hostOf_append_of_slash (slash : ∀ character ∈ after.toList.head?, character = '/') :
    hostOf (before ++ after) = hostOf before := by
  have stopped : after.toList.takeWhile (fun character => !endsHost character) = [] := by
    cases characters : after.toList with
    | nil => rfl
    | cons character others =>
        have first : character = '/' := slash character (by rw [characters]; rfl)
        rw [first]
        rfl
  simp only [hostOf, String.toList_append, List.takeWhile_append, stopped, List.append_nil]
  split
  · rename_i whole
    rw [(List.takeWhile_prefix _).eq_of_length whole]
  · rfl

theorem StripsTo.hostOf_append (strips : StripsTo rest core) {path : String}
    (slash : beginsWith path "/" = true) : hostOf (core ++ path) = hostOf rest := by
  rcases strips.slashes with ⟨after, rfl, slashes⟩
  rcases beginsWith_iff.mp slash with ⟨behind, rfl⟩
  rw [hostOf_append_of_slash (by simp), hostOf_append_of_slash]
  exact fun character head => slashes character (List.mem_of_mem_head? head)

/-! ## Sound settings -/

theorem Sound.scheme_start (sound : settings.Sound stage) :
    ∃ scheme : Scheme, (stage = .production → scheme = .https) ∧
      ∃ rest, settings.baseUrl = scheme.start ++ rest := by
  by_cases safe : beginsWith settings.baseUrl "https://" = true
  · exact ⟨.https, fun _ => rfl, beginsWith_iff.mp safe⟩
  · refine ⟨.http, fun production => absurd (sound.safe production) safe, ?_⟩
    exact beginsWith_iff.mp (sound.scheme.resolve_right safe)

section

variable {scheme : Scheme} (base : settings.baseUrl = scheme.start ++ rest)
include base

theorem identityUrl_of_namesSomething (named : NamesSomething rest) :
    settings.identityUrl =
      scheme.start ++ (withoutTrailingSlashes rest ++ settings.identityPath) := by
  have stripsRest := stripsTo_withoutTrailingSlashes rest
  have stripped : withoutTrailingSlashes (scheme.start ++ rest) =
      scheme.start ++ withoutTrailingSlashes rest :=
    withoutTrailingSlashes_eq_iff.mpr
      (stripsRest.append_left (named.ne_empty stripsRest) scheme.start)
  rw [identityUrl, base, stripped, String.append_assoc]

/-- The slashes of the scheme are among those that are dropped. -/
theorem identityUrl_of_not_namesSomething (unnamed : ¬ NamesSomething rest) :
    settings.identityUrl = scheme.label ++ settings.identityPath := by
  have stripped : withoutTrailingSlashes (scheme.start ++ rest) = scheme.label :=
    withoutTrailingSlashes_eq_iff.mpr
      (scheme.stripsTo_label (forall_eq_of_not_namesSomething unnamed))
  rw [identityUrl, base, stripped]

end

structure Reaches (settings : SessionServiceSettings) (stage : Stage) (scheme : Scheme)
    (rest core : String) : Prop where
  safe : stage = .production → scheme = .https
  base : settings.baseUrl = scheme.start ++ rest
  strips : StripsTo settings.baseUrl core
  url : settings.identityUrl = core ++ settings.identityPath
  begins_iff : beginsWith settings.identityUrl scheme.start = true ↔
    NamesSomething rest ∨ beginsWith settings.identityPath "//" = true
  host : NamesSomething rest → ∃ behind, settings.identityUrl = scheme.start ++ behind ∧
    hostOf behind = hostOf rest
  lost : ¬ NamesSomething rest → settings.identityUrl = scheme.label ++ settings.identityPath

/-- Identities are asked for at the address of the service without the slashes at its end, and
their path behind it. This begins with the scheme of the service, and in production with the
safe one, exactly if the address names something behind the scheme or the path brings two
slashes of its own. Where something is named, the path has no part in the host. -/
theorem identityUrl_reaches (sound : settings.validate stage = .ok ()) :
    ∃ scheme rest core, settings.Reaches stage scheme rest core := by
  have demanded := validate_eq_ok_iff.mp sound
  rcases demanded.scheme_start with ⟨scheme, safe, rest, base⟩
  refine ⟨scheme, rest, withoutTrailingSlashes settings.baseUrl, ?_⟩
  constructor
  case safe => exact safe
  case base => exact base
  case strips => exact stripsTo_withoutTrailingSlashes settings.baseUrl
  case url => rfl
  case begins_iff =>
    by_cases named : NamesSomething rest
    · have kept := beginsWith_iff.mpr ⟨_, identityUrl_of_namesSomething base named⟩
      exact iff_of_true kept (.inl named)
    · rw [identityUrl_of_not_namesSomething base named, Scheme.start, beginsWith_append_left,
        or_iff_right named]
  case host =>
    intro named
    have same := (stripsTo_withoutTrailingSlashes rest).hostOf_append demanded.path
    exact ⟨_, identityUrl_of_namesSomething base named, same⟩
  case lost => exact identityUrl_of_not_namesSomething base

/-- In production, with slashes behind the host and a path that looks like an address. -/
theorem identityUrl_reaches_of_slashes :
    let settings : SessionServiceSettings :=
      { baseUrl := "https://sessions.internal:8080///", identityPath := "//elsewhere/new" }
    settings.validate .production = .ok () ∧
      settings.identityUrl = "https://sessions.internal:8080//elsewhere/new" ∧
      ∃ scheme rest core, settings.Reaches .production scheme rest core := by
  intro settings
  have sound : settings.validate .production = .ok () :=
    validate_of_safe .production (by decide) (by decide)
  exact ⟨sound, by decide, identityUrl_reaches sound⟩

/-- A scheme alone is accepted in production, and identities are then asked for at an address
that has no scheme with slashes. -/
theorem bare_scheme_loses_slashes :
    let settings : SessionServiceSettings := { baseUrl := "https://" }
    settings.validate .production = .ok () ∧
      settings.identityUrl = "https:/applications/new" ∧
      beginsWith settings.identityUrl "http://" = false ∧
      beginsWith settings.identityUrl "https://" = false := by
  intro settings
  have sound : settings.validate .production = .ok () :=
    validate_of_safe .production (by decide) (by decide)
  exact ⟨sound, by decide, by decide, by decide⟩

end SessionServiceSettings

end SharedEditing
