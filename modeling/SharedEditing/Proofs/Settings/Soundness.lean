import SharedEditing.Settings.Validation

/-! # Sound settings

A section is accepted exactly if each of its demands holds. What is checked of the server does
not depend on the origins that it lists, and its defaults pass. -/

namespace SharedEditing

variable {holds : Bool} {error : SettingsError} {text start : String}

theorem demand_eq_ok_iff : demand holds error = .ok () ↔ holds = true := by
  cases holds <;> simp [demand]

theorem demand_bind_eq_ok_iff {α : Type} {next : Unit → Except SettingsError α} {result : α} :
    (demand holds error >>= next) = .ok result ↔ holds = true ∧ next () = .ok result := by
  cases holds <;> simp [demand, bind, Except.bind]

theorem bind_eq_ok_iff {ε α β : Type} {tried : Except ε α} {next : α → Except ε β} {result : β} :
    (tried >>= next) = .ok result ↔ ∃ value, tried = .ok value ∧ next value = .ok result := by
  cases tried <;> simp [bind, Except.bind]

theorem beginsWith_iff : beginsWith text start = true ↔ ∃ rest, text = start ++ rest := by
  rw [beginsWith, List.isPrefixOf_iff_prefix]
  constructor
  · rintro ⟨rest, split⟩
    exact ⟨String.ofList rest, String.toList_injective (by simp [split])⟩
  · rintro ⟨rest, rfl⟩
    exact ⟨rest.toList, String.toList_append.symm⟩

namespace ServerSettings

structure Sound (settings : ServerSettings) : Prop where
  port : settings.port ≠ 0
  address : ∃ address, settings.socketAddress = .ok address
  timeout : 0 < settings.requestTimeoutSeconds ∧ settings.requestTimeoutSeconds ≤ 300
  capacity : 0 < settings.outboxCapacity

variable {settings : ServerSettings}

theorem validate_eq_ok_iff : settings.validate = .ok () ↔ settings.Sound := by
  rw [validate, demand_bind_eq_ok_iff, bind_eq_ok_iff]
  simp only [demand_bind_eq_ok_iff, demand_eq_ok_iff, decide_eq_true_eq, Bool.and_eq_true]
  constructor
  · rintro ⟨port, address, addressed, timeout, capacity⟩
    exact ⟨port, ⟨address, addressed⟩, timeout, capacity⟩
  · rintro ⟨port, ⟨address, addressed⟩, timeout, capacity⟩
    exact ⟨port, address, addressed, timeout, capacity⟩

/-- The defaults are sound, whatever origins are listed. -/
theorem validate_default (origins : Option String) :
    ({ corsOrigins := origins } : ServerSettings).validate = .ok () := by
  have read : SocketAddress.ofText? ("0.0.0.0" ++ ":" ++ toString 8091) =
      some (.v4 [0, 0, 0, 0] 8091) := by decide
  exact validate_eq_ok_iff.mpr
    { port := by simp
      address := ⟨.v4 [0, 0, 0, 0] 8091, by simp only [socketAddress, addressText, read]⟩
      timeout := by simp
      capacity := by simp }

end ServerSettings

namespace SessionServiceSettings

structure Sound (settings : SessionServiceSettings) (stage : Stage) : Prop where
  filled : settings.baseUrl ≠ ""
  scheme : beginsWith settings.baseUrl "http://" = true ∨
    beginsWith settings.baseUrl "https://" = true
  safe : stage = .production → beginsWith settings.baseUrl "https://" = true
  path : beginsWith settings.identityPath "/" = true
  timeout : 1 ≤ settings.timeoutSeconds ∧ settings.timeoutSeconds ≤ 60

variable {settings : SessionServiceSettings} {stage : Stage}

theorem validate_eq_ok_iff : settings.validate stage = .ok () ↔ settings.Sound stage := by
  simp only [validate, demand_bind_eq_ok_iff, demand_eq_ok_iff, Bool.not_eq_true',
    Bool.or_eq_true, Bool.and_eq_true, decide_eq_true_eq, ← Decidable.imp_iff_not_or]
  rw [← Bool.not_eq_true, String.isEmpty_iff]
  constructor
  · rintro ⟨filled, scheme, safe, path, timeout⟩
    exact ⟨filled, scheme, safe, path, timeout⟩
  · rintro ⟨filled, scheme, safe, path, timeout⟩
    exact ⟨filled, scheme, safe, path, timeout⟩

theorem validate_of_safe {base path : String} (stage : Stage)
    (safe : beginsWith base "https://" = true) (slash : beginsWith path "/" = true) :
    ({ baseUrl := base, identityPath := path } : SessionServiceSettings).validate stage =
      .ok () := by
  have filled : base ≠ "" := by
    rintro rfl
    exact absurd safe (by decide)
  exact validate_eq_ok_iff.mpr
    { filled := filled
      scheme := .inr safe
      safe := fun _ => safe
      path := slash
      timeout := by simp }

end SessionServiceSettings

end SharedEditing
