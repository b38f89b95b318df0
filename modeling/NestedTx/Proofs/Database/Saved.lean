import NestedTx.Database.Settings
import NestedTx.Proofs.Json.Reading

namespace NestedTx

theorem Duration.millis_lt (d : Duration) : d.millis < UInt64.size := Nat.mod_lt _ (by decide)

theorem Duration.millis_eq {d : Duration} (short : d.nanos / 1000000 < UInt64.size) :
    d.millis = d.nanos / 1000000 := Nat.mod_eq_of_lt short

namespace Backoff

inductive Built : Backoff → Prop
  | standard : Built .standard
  | withInitial {policy : Backoff} (wait : Duration) (built : Built policy) :
    Built (policy.withInitial wait)
  | withMultiplier {policy : Backoff} {multiplier : Float}
    (finite : (Json.Number.real multiplier).isFinite = true) (built : Built policy) :
    Built (policy.withMultiplier multiplier)
  | withCap {policy : Backoff} (wait : Duration) (built : Built policy) : Built (policy.withCap wait)
  | withBudget {policy : Backoff} (time : Duration) (built : Built policy) :
    Built (policy.withBudget time)

structure Storable (policy : Backoff) : Prop where
  initial : policy.initial < UInt64.size
  cap : policy.cap < UInt64.size
  budget : policy.budget < UInt64.size

theorem Built.storable {policy : Backoff} (built : policy.Built) : policy.Storable := by
  induction built with
  | standard => exact ⟨by decide, by decide, by decide⟩
  | withInitial wait _ storable => exact { storable with initial := wait.millis_lt }
  | withMultiplier _ _ storable => exact { storable with }
  | withCap wait _ storable => exact { storable with cap := wait.millis_lt }
  | withBudget time _ storable => exact { storable with budget := time.millis_lt }

def members (policy : Backoff) : List (String × Json.Value) :=
  [("initial_interval_ms", .ofNat policy.initial),
    ("multiplier", .number (.real policy.multiplier)),
    ("max_interval_ms", .ofNat policy.cap),
    ("max_elapsed_ms", .ofNat policy.budget)]

inductive Written (policy : Backoff) : Json.Value → Prop
  | object {members : List (String × Json.Value)} (order : policy.members.Perm members) :
    Written policy (.object members)

/-- The text of the multiplier reads back to it; the texts of some doubles read back to a neighbour. -/
def ReadsBack (policy : Backoff) : Prop :=
  Json.readFloat (Json.Number.real policy.multiplier).chars = .ok (policy.multiplier, [])

theorem keys_nodup (policy : Backoff) : (policy.members.map Prod.fst).Nodup :=
  (by decide : (fields.map Json.Field.name).Nodup)

theorem written_toJson (policy : Backoff) : policy.Written policy.toJson := by
  obtain ⟨sorted, object, order⟩ := Json.ofMembers_perm policy.keys_nodup
  have same : policy.toJson = .object sorted := object
  rw [same]
  exact .object order

theorem readsBack_standard : ReadsBack .standard := by
  rw [ReadsBack]
  decide +kernel

theorem readRecord_written {policy : Backoff} {value : Json.Value} (storable : policy.Storable)
    (readsBack : policy.ReadsBack) (written : policy.Written value) (rest : List Char) :
    Json.readRecord fields .standard (value.chars ++ rest) = .ok (policy, rest) := by
  obtain ⟨order⟩ := written
  let updates : List (Backoff → Backoff) :=
    [fun p => { p with initial := policy.initial }, fun p => { p with multiplier := policy.multiplier },
      fun p => { p with cap := policy.cap }, fun p => { p with budget := policy.budget }]
  have reads : List.Forall₂ (Json.Reads fields) updates policy.members := by
    refine .cons ?_ (.cons ?_ (.cons ?_ (.cons ?_ .nil)))
    · exact ⟨_, rfl, fun _ _ closing =>
        Json.Field.read_of (Json.readNat_ofNat storable.initial closing) _⟩
    · exact ⟨_, rfl, fun _ _ closing =>
        Json.Field.read_of (Json.local_readFloat readsBack closing) _⟩
    · exact ⟨_, rfl, fun _ _ closing =>
        Json.Field.read_of (Json.readNat_ofNat storable.cap closing) _⟩
    · exact ⟨_, rfl, fun _ _ closing =>
        Json.Field.read_of (Json.readNat_ofNat storable.budget closing) _⟩
  have commute : ∀ u ∈ updates, ∀ v ∈ updates, ∀ p, v (u p) = u (v p) := by
    simp [updates]
  rw [Json.readRecord_perm reads order policy.keys_nodup commute]
  rfl

end Backoff

namespace Settings

inductive Built : Settings → Prop
  | standard : Built .standard
  | withStrict {settings : Settings} (value : Bool) (built : Built settings) :
    Built (settings.withStrict value)
  | withVerbose {settings : Settings} (value : Bool) (built : Built settings) :
    Built (settings.withVerbose value)
  | withLeakGrace {settings : Settings} (grace : Duration) (built : Built settings) :
    Built (settings.withLeakGrace grace)
  | withMaxConnections {settings : Settings} {limit : Nat} (small : limit < UInt64.size)
    (built : Built settings) : Built (settings.withMaxConnections limit)
  | withPing {settings : Settings} {policy : Backoff} (ping : policy.Built) (built : Built settings) :
    Built (settings.withPing policy)

structure Storable (settings : Settings) : Prop where
  maxConnections : settings.maxConnections < UInt64.size
  ping : settings.ping.Storable

theorem Built.storable {settings : Settings} (built : settings.Built) : settings.Storable := by
  induction built with
  | standard => exact ⟨by decide, Backoff.Built.standard.storable⟩
  | withStrict _ _ storable => exact { storable with }
  | withVerbose _ _ storable => exact { storable with }
  | withLeakGrace _ _ storable => exact { storable with }
  | withMaxConnections small _ storable => exact { storable with maxConnections := small }
  | withPing ping _ storable => exact { storable with ping := ping.storable }

def members (settings : Settings) (ping : Json.Value) : List (String × Json.Value) :=
  [("strict", .bool settings.strict),
    ("leak_grace_ms", .ofNat settings.leakGrace.millis),
    ("max_connections", .ofNat settings.maxConnections),
    ("ping", ping),
    ("verbose", .bool settings.verbose)]

inductive Written (settings : Settings) : Json.Value → Prop
  | object {ping : Json.Value} {members : List (String × Json.Value)}
    (policy : settings.ping.Written ping) (order : (settings.members ping).Perm members) :
    Written settings (.object members)

theorem keys_nodup (settings : Settings) (ping : Json.Value) :
    ((settings.members ping).map Prod.fst).Nodup :=
  (by decide : (fields.map Json.Field.name).Nodup)

theorem written_toJson (settings : Settings) : settings.Written settings.toJson := by
  obtain ⟨sorted, object, order⟩ :=
    Json.ofMembers_perm (settings.keys_nodup settings.ping.toJson)
  have same : settings.toJson = .object sorted := object
  rw [same]
  exact .object settings.ping.written_toJson order

def saved (settings : Settings) : Settings :=
  { settings with leakGrace := .ofMillis settings.leakGrace.millis }

theorem readRecord_written {settings : Settings} {value : Json.Value} (storable : settings.Storable)
    (readsBack : settings.ping.ReadsBack) (written : settings.Written value) (rest : List Char) :
    Json.readRecord fields standard (value.chars ++ rest) = .ok (settings.saved, rest) := by
  obtain ⟨policy, order⟩ := written
  rename_i ping members
  let updates : List (Settings → Settings) :=
    [fun s => { s with strict := settings.strict },
      fun s => { s with leakGrace := .ofMillis settings.leakGrace.millis },
      fun s => { s with maxConnections := settings.maxConnections },
      fun s => { s with ping := settings.ping }, fun s => { s with verbose := settings.verbose }]
  have nested (rest : List Char) := Backoff.readRecord_written storable.ping readsBack policy rest
  have reads : List.Forall₂ (Json.Reads fields) updates (settings.members ping) := by
    refine .cons ?_ (.cons ?_ (.cons ?_ (.cons ?_ (.cons ?_ .nil))))
    · exact ⟨_, rfl, fun _ rest _ => Json.Field.read_of (Json.readBool_chars settings.strict rest) _⟩
    · exact ⟨_, rfl, fun _ _ closing =>
        Json.Field.read_of (Json.readNat_ofNat settings.leakGrace.millis_lt closing) _⟩
    · exact ⟨_, rfl, fun _ _ closing =>
        Json.Field.read_of (Json.readNat_ofNat storable.maxConnections closing) _⟩
    · exact ⟨_, rfl, fun _ rest _ => Json.Field.read_of (nested rest) _⟩
    · exact ⟨_, rfl, fun _ rest _ => Json.Field.read_of (Json.readBool_chars settings.verbose rest) _⟩
  have commute : ∀ u ∈ updates, ∀ v ∈ updates, ∀ s, v (u s) = u (v s) := by
    simp [updates]
  rw [Json.readRecord_perm reads order (settings.keys_nodup ping) commute]
  rfl

variable {settings : Settings} {value : Json.Value}

theorem read_written (storable : settings.Storable) (readsBack : settings.ping.ReadsBack)
    (written : settings.Written value) : read value.render = .ok settings.saved := by
  have whole := readRecord_written storable readsBack written []
  rw [List.append_nil] at whole
  rw [read, Json.Reader.run, Json.Value.render, String.toList_ofList, whole]
  rfl

theorem load_written (storable : settings.Storable) (readsBack : settings.ping.ReadsBack)
    (written : settings.Written value) : load (some value.render.toUTF8) =
      settings.saved.validate.map fun _ => settings.saved := by
  simp only [load, fromUTF8_toUTF8, read_written storable readsBack written]

theorem validate_saved (valid : settings.validate = .ok ()) : settings.saved.validate =
    if settings.strict ∧ settings.leakGrace.millis = 0 then
      .error (.invalidSettings "leak_grace must be positive in strict mode")
    else .ok () := by
  have connections : settings.maxConnections ≠ 0 := by
    intro none
    rw [validate, if_pos none] at valid
    cases valid
  have graceless : (settings.strict && settings.saved.leakGrace.isZero) = true ↔
      settings.strict = true ∧ settings.leakGrace.millis = 0 := by
    simp [saved, Duration.isZero, Duration.ofMillis]
  rw [validate, if_neg (show settings.saved.maxConnections ≠ 0 from connections)]
  exact if_congr graceless rfl rfl

structure Survives (settings loaded : Settings) : Prop where
  strict : loaded.strict = settings.strict
  leakGrace : loaded.leakGrace = .ofMillis (settings.leakGrace.nanos / 1000000)
  maxConnections : loaded.maxConnections = settings.maxConnections
  ping : loaded.ping = settings.ping
  verbose : loaded.verbose = settings.verbose

theorem survives_saved : settings.Survives settings.saved ↔
    settings.leakGrace.nanos / 1000000 < UInt64.size := by
  constructor
  · intro survives
    have same : settings.leakGrace.millis * 1000000 = settings.leakGrace.nanos / 1000000 * 1000000 :=
      congrArg Duration.nanos survives.leakGrace
    have whole := Nat.mul_right_cancel (by decide) same
    exact whole ▸ settings.leakGrace.millis_lt
  · intro short
    exact ⟨rfl, congrArg Duration.ofMillis (Duration.millis_eq short), rfl, rfl, rfl⟩

/-- Valid settings that are saved and loaded are what they were, unless their grace is too long to be
saved, or they are strict and it is too short. -/
theorem load_saved (built : settings.Built) (valid : settings.validate = .ok ())
    (readsBack : settings.ping.ReadsBack) (written : settings.Written value) :
    load (some value.render.toUTF8) =
        (if settings.strict ∧ settings.leakGrace.millis = 0 then
          .error (.invalidSettings "leak_grace must be positive in strict mode")
        else .ok settings.saved) ∧
      ((∃ loaded, load (some value.render.toUTF8) = .ok loaded ∧ settings.Survives loaded) ↔
        settings.leakGrace.nanos / 1000000 < UInt64.size ∧
          (settings.strict → 1000000 ≤ settings.leakGrace.nanos)) := by
  have result := load_written built.storable readsBack written
  rw [validate_saved valid] at result
  by_cases refused : settings.strict = true ∧ settings.leakGrace.millis = 0
  · rw [if_pos refused] at result ⊢
    refine ⟨result, ?_, ?_⟩
    · rintro ⟨loaded, done, -⟩
      rw [result] at done
      cases done
    · rintro ⟨short, enough⟩
      have none := refused.2
      rw [Duration.millis_eq short] at none
      have some := enough refused.1
      omega
  · rw [if_neg refused] at result ⊢
    refine ⟨result, ?_, ?_⟩
    · rintro ⟨loaded, done, survives⟩
      obtain rfl : settings.saved = loaded := Except.ok.inj (result.symm.trans done)
      have short := survives_saved.mp survives
      refine ⟨short, fun strict => ?_⟩
      have some : settings.leakGrace.millis ≠ 0 := fun none => refused ⟨strict, none⟩
      rw [Duration.millis_eq short] at some
      omega
    · rintro ⟨short, -⟩
      exact ⟨settings.saved, result, survives_saved.mpr short⟩

theorem load_saved_two :
    let settings := (standard.withStrict true).withLeakGrace ⟨2500000⟩
    settings.Built ∧ settings.validate = .ok () ∧ settings.ping.ReadsBack ∧
      settings.Written settings.toJson ∧ load (some settings.toJson.render.toUTF8) =
        .ok ((standard.withStrict true).withLeakGrace (.ofMillis 2)) := by
  intro settings
  have built : settings.Built := .withLeakGrace _ (.withStrict true .standard)
  have valid : settings.validate = .ok () := rfl
  have readsBack : settings.ping.ReadsBack := Backoff.readsBack_standard
  have written := settings.written_toJson
  have two : settings.leakGrace.millis = 2 := Duration.millis_eq (d := ⟨2500000⟩) (by decide)
  have refused : ¬(settings.strict = true ∧ settings.leakGrace.millis = 0) := by
    rw [two]
    exact fun none => absurd none.2 (by decide)
  obtain ⟨loaded, -⟩ := load_saved built valid readsBack written
  rw [if_neg refused, saved, two] at loaded
  exact ⟨built, valid, readsBack, written, loaded⟩

/-- A grace of less than a millisecond is lost, and strict settings with it. -/
theorem load_saved_none :
    let settings := (standard.withStrict true).withLeakGrace ⟨1⟩
    settings.Built ∧ settings.validate = .ok () ∧ settings.ping.ReadsBack ∧
      settings.Written settings.toJson ∧ load (some settings.toJson.render.toUTF8) =
        .error (.invalidSettings "leak_grace must be positive in strict mode") := by
  intro settings
  have built : settings.Built := .withLeakGrace _ (.withStrict true .standard)
  have valid : settings.validate = .ok () := rfl
  have readsBack : settings.ping.ReadsBack := Backoff.readsBack_standard
  have written := settings.written_toJson
  have none : settings.strict = true ∧ settings.leakGrace.millis = 0 :=
    ⟨rfl, Duration.millis_eq (d := ⟨1⟩) (by decide)⟩
  refine ⟨built, valid, readsBack, written, ?_⟩
  rw [load_written built.storable readsBack written, validate_saved valid, if_pos none]
  rfl

end Settings

end NestedTx
