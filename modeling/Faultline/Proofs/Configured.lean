import Faultline.Proofs.Destinations
import Faultline.Settings

/-! # Settings that can be used

What the environment says is either refused, for the first of its variables that cannot be used, or
leads to settings that everything behind them accepts (`IsUsable`). What is read of the server and
of the origins is already in the form in which it is kept, so it is read from there again.
-/

namespace Faultline.Settings

open Text

/-! ## What is demanded of variables -/

/-- What a variable has to say if it says anything. -/
structure Demand where
  key : String
  expected : String
  Meets : String → Prop

namespace Demand

/-- Nothing is wrong with the variable. -/
def Met (d : Demand) (env : Environment) : Prop :=
  ∀ raw, env.lookup d.key = some raw → raw = "" ∨ d.Meets raw

/-- The variable says something else than what is demanded, and this is told. -/
def Refused (d : Demand) (env : Environment) (e : Rejection) : Prop :=
  ∃ raw, env.lookup d.key = some raw ∧ raw ≠ "" ∧ ¬ d.Meets raw ∧
    e = .format d.key d.expected (some (.string raw))

/-- A numeral for an integer within a bound. -/
def number (key expected : String) (bound : Nat → Prop) : Demand :=
  ⟨key, expected, fun raw => ∃ n, bound n ∧ Number.ofNumeral? raw = some (.ofNat n)⟩

def port (key : String) : Demand :=
  number key "a port number between 0 and 65535" (· ≤ 65535)

def target : Demand :=
  ⟨"TARGET_SERVER", "an http(s) URL", fun raw =>
    ∃ u, Url.parse? raw = some u ∧ u.scheme.isWeb = true⟩

def capacity : Demand := number "MAX_CALL_HISTORY" "a positive integer" (1 ≤ ·)

end Demand

/-- The demands in the order in which the variables are read. -/
def demands : List Demand :=
  [.port "CONTROL_PORT", .port "PROXY_PORT", .target, .capacity]

/-- One variable is refused, and nothing is wrong with those before it. -/
def FirstRefused (env : Environment) (e : Rejection) : Prop :=
  ∃ before d after, demands = before ++ d :: after ∧ (∀ b ∈ before, b.Met env) ∧ d.Refused env e

/-- A web URL as it is written. -/
def IsWebUrl (text : String) : Prop :=
  ∃ u : Url, Url.parse? text = some u ∧ u.scheme.isWeb = true ∧ text = String.ofList u.write

theorem isWebUrl_write {u : Url} (settled : u.IsSettled) : IsWebUrl (String.ofList u.write) :=
  ⟨u, by rw [Url.parse?, String.toList_ofList, settled.read], settled.web, rfl⟩

/-! ## Single variables -/

section
variable {env : Environment} {key raw : String}

theorem said?_eq_none : said? env key = none ↔ ∀ raw, env.lookup key = some raw → raw = "" := by
  simp only [said?, Option.filter_eq_none_iff]
  simp

theorem said?_eq_some : said? env key = some raw ↔ env.lookup key = some raw ∧ raw ≠ "" := by
  simp [said?, Option.filter_eq_some_iff]

theorem said?_congr {other : Environment} (same : other.lookup key = env.lookup key) :
    said? other key = said? env key := by
  rw [said?, same, said?]

theorem readNumber_congr {other : Environment} (same : other.lookup key = env.lookup key)
    (expected : String) (fallback : Nat) (accepts : Number → Bool) :
    readNumber other key expected fallback accepts =
      readNumber env key expected fallback accepts := by
  rw [readNumber, said?_congr same, readNumber]

theorem readNumber_decides {accepts : Number → Bool} {bound : Nat → Prop}
    (accepted : ∀ x, accepts x = true ↔ ∃ n, bound n ∧ x = .ofNat n) (expected : String)
    {fallback : Nat} (usual : bound fallback) :
    match readNumber env key expected fallback accepts with
    | .ok x => (Demand.number key expected bound).Met env ∧ ∃ n, bound n ∧ x = .ofNat n
    | .error e => (Demand.number key expected bound).Refused env e := by
  unfold readNumber
  cases said : said? env key with
  | none => exact ⟨fun raw found => .inl (said?_eq_none.mp said raw found), fallback, usual, rfl⟩
  | some raw =>
      obtain ⟨found, nonempty⟩ := said?_eq_some.mp said
      dsimp only
      cases read : (Number.ofNumeral? raw).filter accepts with
      | none =>
          refine ⟨raw, found, nonempty, ?_, rfl⟩
          rintro ⟨n, within, value⟩
          rw [value, Option.filter_some, if_pos ((accepted _).mpr ⟨n, within, rfl⟩)] at read
          cases read
      | some x =>
          obtain ⟨value, fits⟩ := Option.filter_eq_some_iff.mp read
          obtain ⟨n, within, rfl⟩ := (accepted x).mp fits
          refine ⟨?_, n, within, rfl⟩
          intro other again
          obtain rfl := Option.some.inj (found.symm.trans again)
          exact .inr ⟨n, within, value⟩

theorem isPort_iff {x : Number} : isPort x = true ↔ ∃ n, n ≤ 65535 ∧ x = .ofNat n := by
  simp only [← Number.toNat?_eq_some, isPort]
  cases x.toNat? with
  | none => simp
  | some n => simp

theorem readPort_decides (env : Environment) (key : String) {fallback : Nat}
    (usual : fallback ≤ 65535) :
    match readPort env key fallback with
    | .ok x => (Demand.port key).Met env ∧ ∃ n, n ≤ 65535 ∧ x = .ofNat n
    | .error e => (Demand.port key).Refused env e :=
  readNumber_decides (fun _ => isPort_iff) _ usual

theorem readCapacity_decides (env : Environment) :
    match readNumber env "MAX_CALL_HISTORY" "a positive integer" Call.History.defaultCapacity
      Number.isPositiveInteger with
    | .ok x => Demand.capacity.Met env ∧ ∃ n, 1 ≤ n ∧ x = .ofNat n
    | .error e => Demand.capacity.Refused env e :=
  readNumber_decides (fun _ => Number.isPositiveInteger_iff) _ (by decide)

theorem readTarget_decides (env : Environment) :
    match readTarget env with
    | .ok t => Demand.target.Met env ∧ ∀ text, t = some text → IsWebUrl text
    | .error e => Demand.target.Refused env e := by
  unfold readTarget
  cases said : said? env "TARGET_SERVER" with
  | none => exact ⟨fun raw found => .inl (said?_eq_none.mp said raw found), nofun⟩
  | some raw =>
      obtain ⟨found, nonempty⟩ := said?_eq_some.mp said
      dsimp only
      cases read : (Url.parse? raw).filter (·.scheme.isWeb) with
      | none =>
          refine ⟨raw, found, nonempty, ?_, rfl⟩
          rintro ⟨u, parsed, web⟩
          rw [parsed, Option.filter_some, if_pos web] at read
          cases read
      | some u =>
          obtain ⟨parsed, web⟩ := Option.filter_eq_some_iff.mp read
          refine ⟨?_, ?_⟩
          · intro other again
            obtain rfl := Option.some.inj (found.symm.trans again)
            exact .inr ⟨u, parsed, web⟩
          · intro text same
            obtain rfl := Option.some.inj same
            exact isWebUrl_write (Url.ofChars?_settled parsed web)

/-- A server that is kept is read from where it is kept. -/
theorem readTarget_written {kept : Option String} (found : env.lookup "TARGET_SERVER" = kept)
    (written : ∀ text, kept = some text → IsWebUrl text) :
    readTarget env = .ok kept := by
  cases kept with
  | none =>
      have nothing : said? env "TARGET_SERVER" = none := by rw [said?, found]; rfl
      rw [readTarget, nothing]
  | some text =>
      obtain ⟨u, read, web, own⟩ := written text rfl
      have nonempty : text ≠ "" := by
        rintro rfl
        rw [Exchange.Route.parse?_empty] at read
        cases read
      rw [readTarget, said?_eq_some.mpr ⟨found, nonempty⟩]
      simp only [read, Option.filter_some, web, if_true, ← own]

end

/-! ## Origins -/

/-- An origin as it can stand in a list with commas. -/
def IsOrigin (origin : String) : Prop :=
  origin ≠ "" ∧ ',' ∉ origin.toList ∧ trim origin.toList = origin.toList

/-- An origin with white space around it. -/
def Padded (origin : String) (entry : List Char) : Prop :=
  ∃ before behind, (∀ c ∈ before, isBlank c = true) ∧ (∀ c ∈ behind, isBlank c = true) ∧
    entry = before ++ origin.toList ++ behind

theorem trim_eq_nil {s : List Char} : trim s = [] ↔ ∀ c ∈ s, isBlank c = true := by
  constructor
  · intro nothing c member
    obtain ⟨before, behind, front, back, whole⟩ := exists_padding isBlank s
    rw [whole, show dropEnds isBlank s = [] from nothing, List.append_nil] at member
    rcases List.mem_append.mp member with first | last
    · exact front c first
    · exact back c last
  · intro blank
    have padded := dropEnds_padded blank (by simp : ∀ c ∈ [], isBlank c = true) []
    rw [List.append_nil, List.append_nil] at padded
    exact padded

theorem mem_trim {s : List Char} {c : Char} (member : c ∈ trim s) : c ∈ s :=
  (dropEnds_inside isBlank s).subset member

theorem readOrigins_origin (env : Environment) : ∀ o ∈ readOrigins env, IsOrigin o := by
  have usual : ∀ o ∈ Origin.defaultPatterns, IsOrigin o := by
    show ∀ o ∈ Origin.defaultPatterns, o ≠ "" ∧ ',' ∉ o.toList ∧ trim o.toList = o.toList
    decide +kernel
  unfold readOrigins
  split
  · exact usual
  · split
    · exact usual
    · intro o member
      obtain ⟨entry, kept, rfl⟩ := List.mem_map.mp member
      obtain ⟨among, nonempty⟩ := List.mem_filter.mp kept
      obtain ⟨piece, given, rfl⟩ := List.mem_map.mp among
      refine ⟨?_, ?_, ?_⟩
      · intro empty
        have same := congrArg String.toList empty
        rw [String.toList_ofList] at same
        rw [same] at nonempty
        cases nonempty
      · rw [String.toList_ofList]
        exact fun comma => (mem_piece given (mem_trim comma)).2 rfl
      · rw [String.toList_ofList]
        exact dropEnds_idem isBlank piece

theorem Padded.entry {origin : String} (usable : IsOrigin origin) {entry : List Char}
    (h : Padded origin entry) : ',' ∉ entry ∧ trim entry = origin.toList := by
  obtain ⟨before, behind, front, back, rfl⟩ := h
  have solid : ∀ {part : List Char}, (∀ c ∈ part, isBlank c = true) → ',' ∉ part := by
    intro part blank member
    exact absurd (blank ',' member) (by decide)
  refine ⟨?_, (dropEnds_padded front back _).trans usable.2.2⟩
  intro comma
  rcases List.mem_append.mp comma with first | last
  · rcases List.mem_append.mp first with first | own
    · exact solid front first
    · exact usable.2.1 own
  · exact solid back last

theorem padded_entries {origins : List String} (usable : ∀ o ∈ origins, IsOrigin o)
    {entries : List (List Char)} (padded : List.Forall₂ Padded origins entries) :
    (∀ entry ∈ entries, ',' ∉ entry) ∧ entries.map trim = origins.map String.toList := by
  induction padded with
  | nil => simp
  | cons first rest ih =>
      obtain ⟨own, others⟩ := List.forall_mem_cons.mp usable
      obtain ⟨undivided, same⟩ := first.entry own
      obtain ⟨apart, images⟩ := ih others
      exact ⟨List.forall_mem_cons.mpr ⟨undivided, apart⟩, by rw [List.map_cons, same, images]; rfl⟩

/-- Origins are read from a list of them, whatever white space is around each. -/
theorem readOrigins_padded {env : Environment} {origins : List String} (nonempty : origins ≠ [])
    (usable : ∀ o ∈ origins, IsOrigin o) {entries : List (List Char)}
    (padded : List.Forall₂ Padded origins entries)
    (found : env.lookup "CORS_ORIGINS" = some (String.ofList ([','].intercalate entries))) :
    readOrigins env = origins := by
  obtain ⟨apart, images⟩ := padded_entries usable padded
  have listed : entries ≠ [] := by
    rintro rfl
    exact nonempty (List.forall₂_nil_right_iff.mp padded)
  have pieces := splitOnChar_joined listed apart
  have said : (trim ([','].intercalate entries)).isEmpty = false := by
    rw [List.isEmpty_eq_false_iff]
    intro nothing
    obtain ⟨entry, given⟩ := List.exists_mem_of_ne_nil entries listed
    have blank : trim entry = [] := trim_eq_nil.mpr fun c member =>
      trim_eq_nil.mp nothing c (mem_piece (pieces.symm ▸ given) member).1
    have among : trim entry ∈ origins.map String.toList := images ▸ List.mem_map_of_mem given
    obtain ⟨o, own, same⟩ := List.mem_map.mp among
    rw [blank] at same
    exact (usable o own).1 (String.toList_inj.mp same)
  have all : (origins.map String.toList).filter (!·.isEmpty) = origins.map String.toList := by
    rw [List.filter_eq_self]
    intro text among
    obtain ⟨o, own, rfl⟩ := List.mem_map.mp among
    simpa using (usable o own).1
  rw [readOrigins, found]
  simp only [String.toList_ofList, said, Bool.false_eq_true, if_false, pieces, images, all]
  simp

/-! ## All variables together -/

variable {env : Environment}

theorem ofEnvironment?_ok {s : Settings} :
    ofEnvironment? env = .ok s ↔
      readPort env "CONTROL_PORT" defaultControlPort = .ok s.controlPort ∧
      readPort env "PROXY_PORT" defaultProxyPort = .ok s.proxyPort ∧
      (said? env "HOST").getD defaultHost = s.host ∧
      readTarget env = .ok s.targetServer ∧
      readNumber env "MAX_CALL_HISTORY" "a positive integer" Call.History.defaultCapacity
        Number.isPositiveInteger = .ok s.maxCallHistory ∧
      (env.lookup "ENABLE_CORS" != some "false") = s.enableCors ∧
      readOrigins env = s.corsOrigins := by
  unfold ofEnvironment?
  cases readPort env "CONTROL_PORT" defaultControlPort with
  | error e => simp [bind, Except.bind]
  | ok control =>
      cases readPort env "PROXY_PORT" defaultProxyPort with
      | error e => simp [bind, Except.bind]
      | ok proxy =>
          cases readTarget env with
          | error e => simp [bind, Except.bind]
          | ok target =>
              cases readNumber env "MAX_CALL_HISTORY" "a positive integer"
                Call.History.defaultCapacity Number.isPositiveInteger with
              | error e => simp [bind, Except.bind]
              | ok capacity =>
                  cases s
                  simp [bind, Except.bind]

/-- Settings that everything behind them accepts. -/
structure IsUsable (s : Settings) : Prop where
  controlPort : ∃ n, n ≤ 65535 ∧ s.controlPort = .ofNat n
  proxyPort : ∃ n, n ≤ 65535 ∧ s.proxyPort = .ofNat n
  maxCallHistory : ∃ n, 1 ≤ n ∧ s.maxCallHistory = .ofNat n
  targetServer : ∀ text, s.targetServer = some text → IsWebUrl text
  corsOrigins : ∀ o ∈ s.corsOrigins, IsOrigin o

/-- The environment is read up to the first variable that cannot be used. -/
theorem ofEnvironment?_decides (env : Environment) :
    match ofEnvironment? env with
    | .error e => FirstRefused env e
    | .ok s => (∀ d ∈ demands, d.Met env) ∧ s.IsUsable := by
  have control := readPort_decides env "CONTROL_PORT" (by decide : defaultControlPort ≤ 65535)
  have proxy := readPort_decides env "PROXY_PORT" (by decide : defaultProxyPort ≤ 65535)
  have target := readTarget_decides env
  have capacity := readCapacity_decides env
  unfold ofEnvironment?
  cases first : readPort env "CONTROL_PORT" defaultControlPort with
  | error e =>
      rw [first] at control
      exact ⟨[], _, _, rfl, by simp, control⟩
  | ok c =>
      rw [first] at control
      obtain ⟨controlMet, controlPort⟩ := control
      cases second : readPort env "PROXY_PORT" defaultProxyPort with
      | error e =>
          rw [second] at proxy
          exact ⟨[_], _, _, rfl, by simpa using controlMet, proxy⟩
      | ok x =>
          rw [second] at proxy
          obtain ⟨proxyMet, proxyPort⟩ := proxy
          cases third : readTarget env with
          | error e =>
              rw [third] at target
              exact ⟨[_, _], _, _, rfl, by simp [controlMet, proxyMet], target⟩
          | ok t =>
              rw [third] at target
              obtain ⟨targetMet, targetServer⟩ := target
              cases fourth : readNumber env "MAX_CALL_HISTORY" "a positive integer"
                Call.History.defaultCapacity Number.isPositiveInteger with
              | error e =>
                  rw [fourth] at capacity
                  exact ⟨[_, _, _], _, _, rfl, by simp [controlMet, proxyMet, targetMet], capacity⟩
              | ok n =>
                  rw [fourth] at capacity
                  obtain ⟨capacityMet, maxCallHistory⟩ := capacity
                  exact ⟨by simp [demands, controlMet, proxyMet, targetMet, capacityMet],
                    ⟨controlPort, proxyPort, maxCallHistory, targetServer, readOrigins_origin env⟩⟩

/-- Another environment that says the same, with server and origins in the form in which they are
    kept. Origins are put into a list with commas, if there are any, with any white space. -/
structure Restates (s : Settings) (env other : Environment) : Prop where
  others : ∀ key, key ≠ "TARGET_SERVER" → key ≠ "CORS_ORIGINS" → other.lookup key = env.lookup key
  targetServer : other.lookup "TARGET_SERVER" = s.targetServer
  corsOrigins : if s.corsOrigins = [] then other.lookup "CORS_ORIGINS" = env.lookup "CORS_ORIGINS"
    else ∃ entries, List.Forall₂ Padded s.corsOrigins entries ∧
      other.lookup "CORS_ORIGINS" = some (String.ofList ([','].intercalate entries))

/-- Settings that were read are read again from what they were made of. -/
theorem ofEnvironment?_restated {s : Settings} (h : ofEnvironment? env = .ok s)
    {other : Environment} (again : s.Restates env other) : ofEnvironment? other = .ok s := by
  have usable := ofEnvironment?_decides env
  rw [h] at usable
  obtain ⟨_, usable⟩ := usable
  obtain ⟨control, proxy, host, _, capacity, cors, origins⟩ := ofEnvironment?_ok.mp h
  have same := again.others
  refine ofEnvironment?_ok.mpr ⟨?_, ?_, ?_, ?_, ?_, ?_, ?_⟩
  · rw [readPort, readNumber_congr (same _ (by decide) (by decide))]
    exact control
  · rw [readPort, readNumber_congr (same _ (by decide) (by decide))]
    exact proxy
  · rw [said?_congr (same _ (by decide) (by decide))]
    exact host
  · exact readTarget_written again.targetServer usable.targetServer
  · rw [readNumber_congr (same _ (by decide) (by decide))]
    exact capacity
  · rw [same _ (by decide) (by decide)]
    exact cors
  · have listed := again.corsOrigins
    split at listed
    · rw [readOrigins, listed]
      exact origins
    · rename_i nonempty
      obtain ⟨entries, padded, found⟩ := listed
      exact readOrigins_padded nonempty usable.corsOrigins padded found

/-! ## What is behind the settings -/

/-- The scenarios and the history can be set up. -/
theorem IsUsable.startable {s : Settings} (h : s.IsUsable) {templates : List Scenario.Template}
    (distinct : (templates.map (·.name)).Nodup) :
    ∃ state, State.fresh? templates s.maxCallHistory = .ok state := by
  obtain ⟨n, positive, capacity⟩ := h.maxCallHistory
  have accepted := Number.isPositiveInteger_iff.mpr ⟨n, positive, capacity⟩
  exact ⟨_, State.fresh?_ok.mpr ⟨accepted, distinct, rfl⟩⟩

/-- Every request that leaves the server to the configuration has a route. -/
theorem IsUsable.routable {s : Settings} (h : s.IsUsable) {raw : String}
    (relative : ∀ scheme rest, ¬ Exchange.Route.InAbsoluteForm raw scheme rest)
    (hostHeader : String) :
    ∃ route, Exchange.Route.resolve? raw hostHeader s.targetServer = .ok route := by
  have usable : ∀ text, s.targetServer = some text → text = "" ∨ ∃ u, Url.parse? text = some u := by
    intro text same
    obtain ⟨u, read, _⟩ := h.targetServer text same
    exact .inr ⟨u, read⟩
  exact ⟨_, Exchange.Route.resolve?_relative relative hostHeader usable⟩

/-- Either one variable is refused, the first that cannot be used; or the settings are accepted by
    everything behind them and are read again from what they were made of. -/
theorem settings_accepted (env : Environment) :
    match ofEnvironment? env with
    | .error e => FirstRefused env e
    | .ok s => (∀ d ∈ demands, d.Met env) ∧ s.IsUsable ∧
        (∃ state, State.fresh? Scenario.catalog s.maxCallHistory = .ok state) ∧
        (∀ raw hostHeader,
          (∀ scheme rest, ¬ Exchange.Route.InAbsoluteForm raw scheme rest) →
            ∃ route, Exchange.Route.resolve? raw hostHeader s.targetServer = .ok route) ∧
        ∀ other, s.Restates env other → ofEnvironment? other = .ok s := by
  have decided := ofEnvironment?_decides env
  cases read : ofEnvironment? env with
  | error e =>
      rw [read] at decided
      exact decided
  | ok s =>
      rw [read] at decided
      obtain ⟨met, usable⟩ := decided
      refine ⟨met, usable, usable.startable (by decide +kernel), ?_, ?_⟩
      · exact fun raw hostHeader relative => usable.routable relative hostHeader
      · exact fun other again => ofEnvironment?_restated read again

/-- Ports in another base, a server in capitals and origins between blanks; they are read again from
    a list with other blanks. A port and a server that cannot be used are refused for the port. -/
theorem settings_accepted_restated :
    let env : Environment := [("CONTROL_PORT", "0x50"),
      ("TARGET_SERVER", "HTTP://Example.COM:80/a b"), ("CORS_ORIGINS", " http://a , ,http://b")]
    let other : Environment := [("CONTROL_PORT", "0x50"),
      ("TARGET_SERVER", "http://example.com/a%20b"), ("CORS_ORIGINS", "\thttp://a,http://b ")]
    ∃ s, ofEnvironment? env = .ok s ∧ s.targetServer = some "http://example.com/a%20b" ∧
      s.corsOrigins = ["http://a", "http://b"] ∧ s.Restates env other ∧
      ofEnvironment? other = .ok s ∧
      (∃ state, State.fresh? Scenario.catalog s.maxCallHistory = .ok state) ∧
      (∃ route, Exchange.Route.resolve? "/" "localhost" s.targetServer = .ok route) ∧
      FirstRefused [("TARGET_SERVER", "ftp://a"), ("PROXY_PORT", "65536")]
        (.format "PROXY_PORT" "a port number between 0 and 65535" (some (.string "65536"))) := by
  intro env other
  let s : Settings := ⟨.ofNat 80, .ofNat 18080, "0.0.0.0", some "http://example.com/a%20b",
    .ofNat 1000, true, ["http://a", "http://b"]⟩
  have read : ofEnvironment? env = .ok s := by decide +kernel
  have again : s.Restates env other := by
    refine ⟨?_, rfl, ?_⟩
    · intro key target cors
      simp [env, other, List.lookup_cons, beq_eq_false_iff_ne.mpr target,
        beq_eq_false_iff_ne.mpr cors]
    · rw [if_neg (by decide)]
      refine ⟨["\thttp://a".toList, "http://b ".toList], .cons ?_ (.cons ?_ .nil), rfl⟩
      · exact ⟨"\t".toList, [], List.all_eq_true.mp (by decide), by simp, rfl⟩
      · exact ⟨[], " ".toList, by simp, List.all_eq_true.mp (by decide), rfl⟩
  have relative : ∀ scheme rest, ¬ Exchange.Route.InAbsoluteForm "/" scheme rest := by
    intro scheme rest absolute
    exact absurd (Exchange.Route.isAbsolute_iff.mpr ⟨scheme, rest, absolute⟩) (by decide)
  have refused := settings_accepted [("TARGET_SERVER", "ftp://a"), ("PROXY_PORT", "65536")]
  have first : ofEnvironment? [("TARGET_SERVER", "ftp://a"), ("PROXY_PORT", "65536")] =
      .error (.format "PROXY_PORT" "a port number between 0 and 65535"
        (some (.string "65536"))) := by
    decide +kernel
  rw [first] at refused
  have accepted := settings_accepted env
  rw [read] at accepted
  obtain ⟨_, _, startable, routable, restated⟩ := accepted
  exact ⟨s, read, rfl, rfl, again, restated other again, startable,
    routable "/" "localhost" relative, refused⟩

end Faultline.Settings
