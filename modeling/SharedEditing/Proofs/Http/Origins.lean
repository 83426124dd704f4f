import SharedEditing.Http.Router
import SharedEditing.Proofs.Settings.Soundness
import SharedEditing.Proofs.Text.Pieces
import SharedEditing.Startup

/-! # Listed origins

An origin is listed if it stands between two commas of the setting, and it is used if it can
stand in a header. Once an origin is used, no origin but a used one may call. If none is, any
may call, but without credentials. The wildcard can stand in a header, so that with it listed
there is no policy, and nothing starts. -/

namespace SharedEditing

open Http

/-! ## The list -/

namespace ServerSettings

variable {settings : ServerSettings} {origin : String}

/-- An origin stands between two commas, with nothing but blank characters around it. -/
structure Lists (settings : ServerSettings) (origin : String) : Prop where
  filled : origin ≠ ""
  standing : ∃ text ∈ settings.corsOrigins, ∃ piece ∈ text.toList.splitOn ',',
    Text.TrimsTo piece origin.toList

theorem mem_trimmed_pieces_iff {text : String} :
    origin ∈ (Text.pieces ',' text).map Text.trim ↔
      ∃ piece ∈ text.toList.splitOn ',', Text.TrimsTo piece origin.toList := by
  have trimmed (piece : List Char) :
      Text.trim (String.ofList piece) = origin ↔ Text.TrimsTo piece origin.toList := by
    rw [← Text.trimList_eq_iff, ← String.toList_inj, Text.trim, String.toList_ofList,
      String.toList_ofList]
  simp only [Text.pieces, Text.piecesList_eq_splitOn, List.map_map, List.mem_map,
    Function.comp_apply, trimmed]

theorem mem_corsOriginList_iff : origin ∈ settings.corsOriginList ↔ settings.Lists origin := by
  unfold corsOriginList
  cases set : settings.corsOrigins with
  | none => exact iff_of_false List.not_mem_nil fun lists => by simpa [set] using lists.standing
  | some text =>
      rw [List.mem_filter, mem_trimmed_pieces_iff, Bool.not_eq_true', ← Bool.not_eq_true,
        String.isEmpty_iff]
      constructor
      · rintro ⟨standing, filled⟩
        exact ⟨filled, text, set, standing⟩
      · rintro ⟨filled, other, same, standing⟩
        rw [set, Option.mem_some_iff] at same
        exact ⟨same ▸ standing, filled⟩

def Uses (settings : ServerSettings) (origin : String) : Prop :=
  settings.Lists origin ∧ Session.isHeaderText origin = true

end ServerSettings

/-! ## The policy -/

namespace Http.CorsPolicy

variable {settings : ServerSettings} {origin : String}

theorem mem_usableOrigins_iff : origin ∈ usableOrigins settings ↔ settings.Uses origin := by
  rw [usableOrigins, List.mem_filter, ServerSettings.mem_corsOriginList_iff, ServerSettings.Uses]

inductive Governs (settings : ServerSettings) : Except CorsError CorsPolicy → Prop where
  | refused (lists : settings.Lists wildcard) : Governs settings (.error .wildcardListed)
  | anyone (unused : ∀ origin, ¬ settings.Uses origin) : Governs settings (.ok anyOrigin)
  | selected {origins : List String} (used : ∃ origin, settings.Uses origin)
      (plain : ¬ settings.Lists wildcard)
      (only : ∀ origin, origin ∈ origins ↔ settings.Uses origin) :
      Governs settings (.ok (listed origins))

theorem uses_wildcard_iff : settings.Uses wildcard ↔ settings.Lists wildcard :=
  and_iff_left (by decide)

theorem wildcard_mem_usableOrigins_iff :
    wildcard ∈ usableOrigins settings ↔ settings.Lists wildcard :=
  mem_usableOrigins_iff.trans uses_wildcard_iff

theorem governs (settings : ServerSettings) : Governs settings (ofSettings settings) := by
  simp only [ofSettings, List.isEmpty_iff]
  split_ifs with empty lists
  · refine .anyone fun origin uses => ?_
    rw [← mem_usableOrigins_iff, empty] at uses
    exact List.not_mem_nil uses
  · exact .refused (wildcard_mem_usableOrigins_iff.mp lists)
  · rcases List.exists_mem_of_ne_nil _ empty with ⟨origin, member⟩
    exact .selected ⟨origin, mem_usableOrigins_iff.mp member⟩
      (mt wildcard_mem_usableOrigins_iff.mpr lists) fun _ => mem_usableOrigins_iff

theorem exists_ofSettings_iff :
    (∃ policy, ofSettings settings = .ok policy) ↔ ¬ settings.Lists wildcard := by
  have governed := governs settings
  cases result : ofSettings settings <;> rw [result] at governed
  case error fault =>
    cases governed with
    | refused lists => simp [lists]
  case ok policy =>
    refine iff_of_true ⟨policy, rfl⟩ fun lists => ?_
    cases governed with
    | anyone unused => exact unused wildcard (uses_wildcard_iff.mpr lists)
    | selected used plain only => exact plain lists

theorem ofSettings_of_lists (lists : settings.Lists wildcard) :
    ofSettings settings = .error .wildcardListed := by
  cases result : ofSettings settings with
  | error fault =>
      cases fault
      rfl
  | ok policy => exact absurd lists (exists_ofSettings_iff.mp ⟨policy, result⟩)

end Http.CorsPolicy

/-! ## Responses -/

namespace Http

variable {settings : ServerSettings}

structure SpeaksFor (settings : ServerSettings) (request : Request) (response : Response) :
    Prop where
  /-- As long as an origin is used, only the used ones may call, and each for itself. -/
  origin : (∃ origin, settings.Uses origin) → ∀ origin,
    response.allowOrigin = some origin ↔
      request.header? "origin" = some origin ∧ settings.Uses origin
  credentials : (∃ origin, settings.Uses origin) → response.allowCredentials = some "true"
  anyone : (∀ origin, ¬ settings.Uses origin) →
    response.allowOrigin = some CorsPolicy.wildcard ∧ response.allowCredentials = none
  apart : response.allowCredentials ≠ none → response.allowOrigin ≠ some CorsPolicy.wildcard

theorem allowedOrigin_listed_eq_some_iff {origins : List String} {asked : Option String}
    {origin : String} :
    (CorsPolicy.listed origins).allowedOrigin asked = some origin ↔
      asked = some origin ∧ origin ∈ origins := by
  simp [CorsPolicy.allowedOrigin, Option.filter_eq_some_iff]

theorem speaksFor_respond {policy : CorsPolicy}
    (governed : CorsPolicy.Governs settings (.ok policy)) (canUpgrade : Bool) (request : Request) :
    SpeaksFor settings request (respond policy canUpgrade request) := by
  cases governed with
  | anyone unused =>
      have nobody : ¬ ∃ origin, settings.Uses origin := not_exists.mpr unused
      exact
        { origin := fun used => absurd used nobody
          credentials := fun used => absurd used nobody
          anyone := fun _ => ⟨rfl, rfl⟩
          apart := fun allowed => absurd rfl allowed }
  | @selected origins used plain only =>
      have allowed_iff (origin : String) :
          (respond (.listed origins) canUpgrade request).allowOrigin = some origin ↔
            request.header? "origin" = some origin ∧ settings.Uses origin :=
        allowedOrigin_listed_eq_some_iff.trans (and_congr_right fun _ => only origin)
      refine
        { origin := fun _ => allowed_iff
          credentials := fun _ => rfl
          anyone := fun unused => absurd used (not_exists.mpr unused)
          apart := fun _ wild => ?_ }
      exact plain (CorsPolicy.uses_wildcard_iff.mp ((allowed_iff _).mp wild).2)

/-- With a list that does not have the wildcard there is a policy, and by it every request is
answered, whatever else is set. As long as an origin is used, a request is told its own origin
if that is a used one, and otherwise none, and credentials are allowed. If none is used, any
origin is allowed without credentials. Credentials never come with the wildcard. -/
theorem used_origins_alone_may_call (plain : CorsPolicy.wildcard ∉ settings.corsOriginList) :
    ∃ policy, CorsPolicy.ofSettings settings = .ok policy ∧ ∀ canUpgrade request,
      SpeaksFor settings request (respond policy canUpgrade request) := by
  rw [ServerSettings.mem_corsOriginList_iff] at plain
  rcases CorsPolicy.exists_ofSettings_iff.mpr plain with ⟨policy, built⟩
  exact ⟨policy, built, speaksFor_respond (built ▸ CorsPolicy.governs settings)⟩

/-- A list of which one origin cannot stand in a header: the other may call, and no third. -/
theorem used_origins_alone_may_call_of_one :
    let settings : ServerSettings :=
      { corsOrigins := some "https://a.example\x7f, https://b.example ," }
    let asking (origin : String) : Request :=
      { method := "GET", target := "/ws", headers := [("Origin", origin)] }
    settings.corsOriginList = ["https://a.example\x7f", "https://b.example"] ∧
      CorsPolicy.wildcard ∉ settings.corsOriginList ∧
      ∃ policy, CorsPolicy.ofSettings settings = .ok policy ∧
        (∀ origin, SpeaksFor settings (asking origin) (respond policy false (asking origin))) ∧
        (respond policy false (asking "https://b.example")).allowOrigin =
          some "https://b.example" ∧
        (respond policy false (asking "https://c.example")).allowOrigin = none := by
  intro settings asking
  have list : settings.corsOriginList = ["https://a.example\x7f", "https://b.example"] := by decide
  have plain : CorsPolicy.wildcard ∉ settings.corsOriginList := by
    rw [list]
    decide
  have usable : CorsPolicy.usableOrigins settings = ["https://b.example"] := by decide
  have only : CorsPolicy.ofSettings settings = .ok (.listed ["https://b.example"]) := by
    rw [CorsPolicy.ofSettings, usable]
    rfl
  rcases used_origins_alone_may_call plain with ⟨policy, built, speaks⟩
  cases only.symm.trans built
  exact ⟨list, plain, _, built, fun origin => speaks false (asking origin), by decide +kernel,
    by decide +kernel⟩

/-- Where the one origin that is listed cannot stand in a header, any may call. -/
theorem unused_list_lets_anyone_call :
    let settings : ServerSettings :=
      { corsOrigins := some "https://a.example\nhttps://b.example" }
    let request : Request :=
      { method := "GET", target := "/ws", headers := [("origin", "https://c.example")] }
    settings.validate = .ok () ∧
      settings.corsOriginList = ["https://a.example\nhttps://b.example"] ∧
      ∃ policy, CorsPolicy.ofSettings settings = .ok policy ∧
        (respond policy false request).allowOrigin = some CorsPolicy.wildcard := by
  intro settings request
  have usable : CorsPolicy.usableOrigins settings = [] := by decide
  have anyone : CorsPolicy.ofSettings settings = .ok .anyOrigin := by
    rw [CorsPolicy.ofSettings, usable]
    rfl
  exact ⟨ServerSettings.validate_default _, by decide, _, anyone, rfl⟩

end Http

/-! ## Starting -/

namespace Settings

variable {settings : Settings} {store : Link} {isPortTaken : Bool} {address : SocketAddress}
  {surroundings : Surroundings} {started : Started}

theorem connect_eq_ok_iff :
    settings.connect store = .ok address ↔
      settings.server.socketAddress = .ok address ∧ store.fault? = none := by
  unfold connect
  cases settings.server.socketAddress with
  | error error => simp [bind, Except.bind, Except.mapError]
  | ok known =>
      cases store.fault? <;>
        simp [bind, Except.bind, Except.mapError, pure, Except.pure, throw, throwThe,
          MonadExceptOf.throw]

theorem listen_eq_ok_iff :
    settings.listen address isPortTaken = .ok started ↔
      (CorsPolicy.ofSettings settings.server = .ok started.origins ∧ isPortTaken = false) ∧
        address = started.address := by
  rcases started with ⟨own, origins⟩
  unfold listen
  cases CorsPolicy.ofSettings settings.server with
  | error error => simp [bind, Except.bind, Except.mapError]
  | ok policy =>
      cases isPortTaken <;>
        simp [bind, Except.bind, Except.mapError, pure, Except.pure, throw, throwThe,
          MonadExceptOf.throw, and_comm]

theorem mapError_eq_ok_iff {ε δ α : Type} {error : ε → δ} {tried : Except ε α} {result : α} :
    tried.mapError error = .ok result ↔ tried = .ok result := by
  cases tried <;> simp [Except.mapError]

theorem stop_eq_ok_iff {error : String → LaunchError} {fault? : Option String} :
    LaunchError.stop error fault? = .ok () ↔ fault? = none := by
  cases fault? <;> simp [LaunchError.stop]

theorem migrate_eq_ok_iff {fault? : Option String} :
    settings.migrate fault? = .ok () ↔
      (settings.database.runMigrations = true → fault? = none) := by
  unfold migrate
  split
  · rename_i asked
    simp only [stop_eq_ok_iff, asked, forall_const]
  · rename_i unasked
    simp [unasked]

/-- Where no library stops the start, it is the store and the port that may. -/
theorem launch_eq_start :
    settings.launch { store, isPortTaken } =
      (settings.start store isPortTaken).mapError .startup := by
  unfold launch start migrate
  cases settings.connect store with
  | error error => rfl
  | ok address => cases settings.database.runMigrations <;> rfl

theorem launch_eq_ok_iff :
    settings.launch surroundings = .ok started ↔
      ∃ address, settings.connect surroundings.store = .ok address ∧
        (settings.database.runMigrations = true → surroundings.migrationFault? = none) ∧
        surroundings.clientFault? = none ∧
        settings.listen address surroundings.isPortTaken = .ok started := by
  simp only [launch, bind_eq_ok_iff, mapError_eq_ok_iff, Unique.exists_iff, PUnit.default_eq_unit,
    migrate_eq_ok_iff, stop_eq_ok_iff]

/-- Sound settings give a policy exactly if they do not list the wildcard. They start exactly if,
besides, the store can be reached, neither the migrations, if they are run, nor the client of the
session service fails, and the port is free. -/
theorem starts_unless_wildcard_listed (sound : settings.server.validate = .ok ()) :
    ((∃ policy, CorsPolicy.ofSettings settings.server = .ok policy) ↔
        ¬ settings.server.Lists CorsPolicy.wildcard) ∧
      (settings.server.Lists CorsPolicy.wildcard →
        CorsPolicy.ofSettings settings.server = .error .wildcardListed) ∧
      ∀ surroundings, (∃ started, settings.launch surroundings = .ok started) ↔
        ¬ settings.server.Lists CorsPolicy.wildcard ∧ surroundings.store.fault? = none ∧
          (settings.database.runMigrations = true → surroundings.migrationFault? = none) ∧
          surroundings.clientFault? = none ∧ surroundings.isPortTaken = false := by
  rcases (ServerSettings.validate_eq_ok_iff.mp sound).address with ⟨address, addressed⟩
  refine ⟨CorsPolicy.exists_ofSettings_iff, CorsPolicy.ofSettings_of_lists,
    fun surroundings => ?_⟩
  rw [← CorsPolicy.exists_ofSettings_iff]
  constructor
  · rintro ⟨started, launched⟩
    rcases launch_eq_ok_iff.mp launched with ⟨address, connected, migrated, client, listening⟩
    have reached := (connect_eq_ok_iff.mp connected).2
    rcases (listen_eq_ok_iff.mp listening).1 with ⟨built, free⟩
    exact ⟨⟨started.origins, built⟩, reached, migrated, client, free⟩
  · rintro ⟨⟨policy, built⟩, reached, migrated, client, free⟩
    refine ⟨⟨address, policy⟩, launch_eq_ok_iff.mpr ⟨address, ?_, migrated, client, ?_⟩⟩
    · exact connect_eq_ok_iff.mpr ⟨addressed, reached⟩
    · exact listen_eq_ok_iff.mpr ⟨⟨built, free⟩, rfl⟩

/-- An origin with a star in it is not the wildcard. -/
theorem starts_unless_wildcard_listed_of_subdomains :
    let settings : Settings :=
      { server := { corsOrigins := some "https://*.a.example, https://b.example" }
        database := { url := "postgres://store" }
        sessionService := { baseUrl := "https://sessions" } }
    settings.server.validate = .ok () ∧
      (∃ policy, CorsPolicy.ofSettings settings.server = .ok policy) ∧
      ∃ started, settings.launch {} = .ok started := by
  intro settings
  have sound : settings.server.validate = .ok () := ServerSettings.validate_default _
  have plain : ¬ settings.server.Lists CorsPolicy.wildcard := by
    rw [← ServerSettings.mem_corsOriginList_iff]
    decide
  rcases starts_unless_wildcard_listed sound with ⟨policy_iff, _, starts_iff⟩
  exact ⟨sound, policy_iff.mpr plain, (starts_iff {}).mpr ⟨plain, rfl, fun _ => rfl, rfl, rfl⟩⟩

/-- The wildcard alone is accepted, and there is no policy for it. -/
theorem wildcard_accepted_without_policy :
    let settings : ServerSettings := { corsOrigins := some "*" }
    settings.validate = .ok () ∧ CorsPolicy.ofSettings settings = .error .wildcardListed ∧
      ¬ ∃ policy, CorsPolicy.ofSettings settings = .ok policy := by
  intro settings
  have usable : CorsPolicy.usableOrigins settings = ["*"] := by decide
  have refused : CorsPolicy.ofSettings settings = .error .wildcardListed := by
    rw [CorsPolicy.ofSettings, usable]
    rfl
  refine ⟨ServerSettings.validate_default _, refused, ?_⟩
  rintro ⟨policy, built⟩
  cases refused.symm.trans built

end Settings

end SharedEditing
