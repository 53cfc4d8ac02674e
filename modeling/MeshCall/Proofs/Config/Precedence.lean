import Mathlib
import MeshCall.Config.Load
import MeshCall.Proofs.Config.Layers
import MeshCall.Proofs.Config.Flags
/-!
# Where a configuration key takes its value from

Every key of the client configuration has four sources: its flag, its environment variable
`HUDDLE_<KEY>`, the configuration file and its built-in default. A load sees a key only when a
flag for it was given, the file has it or it has a default (`Key.seen`). A key it sees takes the
value of the first of these that has one: the flag, the environment variable when it is set and
not empty, the file's value that is not null, the default that is not null (`Key.chosen`). A key
it does not see keeps its zero value, whatever its environment variable holds: the six keys
without a default (`room`, `name` and the four media files) cannot be set from the environment
alone.

Main statement (`load_takes_first_source_of_seen_key`): for a file that keeps the key apart (no
other entry with the same name up to case, no table under it), a configuration that loads holds
at the key what the chosen value reads as, and a chosen value that does not fit makes the load
fail. `room_from_environment_alone_is_dropped` is a launch where only the environment names the
room, and the room stays empty.
-/

namespace MeshCall.Settings

open Layers (Apart present root underscored)

/-! ## The keys and their fields -/

/-- The keys of the client configuration. -/
inductive Key where
  | relayUrl | room | name | secure | iceServers | retryDelay | retryMaxAttempts | rejoinDelay
  | pingPeriod | cameraFile | micFile | screenFile | screenAudioFile | stateFile
  | speakingThreshold | statsInterval | debug
  deriving DecidableEq, Repr

/-- Every key, in field order. -/
def Key.all : List Key :=
  [.relayUrl, .room, .name, .secure, .iceServers, .retryDelay, .retryMaxAttempts, .rejoinDelay,
    .pingPeriod, .cameraFile, .micFile, .screenFile, .screenAudioFile, .stateFile,
    .speakingThreshold, .statsInterval, .debug]

theorem Key.mem_all (k : Key) : k ∈ Key.all := by
  cases k <;> decide

/-- A key as the settings, the file and the defaults write it. -/
def Key.text : Key → String
  | .relayUrl => "relay_url"
  | .room => "room"
  | .name => "name"
  | .secure => "secure"
  | .iceServers => "ice_servers"
  | .retryDelay => "retry_delay"
  | .retryMaxAttempts => "retry_max_attempts"
  | .rejoinDelay => "rejoin_delay"
  | .pingPeriod => "ping_period"
  | .cameraFile => "camera_file"
  | .micFile => "mic_file"
  | .screenFile => "screen_file"
  | .screenAudioFile => "screen_audio_file"
  | .stateFile => "state_file"
  | .speakingThreshold => "speaking_threshold"
  | .statsInterval => "stats_interval"
  | .debug => "debug"

/-- The flag of a key: the key with `-` for `_`. -/
def Key.flag (k : Key) : String :=
  String.ofList (k.text.toList.map fun c => if c = '_' then '-' else c)

/-- The environment variable of a key: `HUDDLE_` and the key in upper case, with `-` read as
`_`. -/
def Key.envName (k : Key) : String := underscored (Case.toUpper (envPrefix ++ "_" ++ k.text))

/-- How a field reads its value. -/
inductive Kind where
  | text | toggle | whole | span | texts
  deriving DecidableEq, Repr

/-- The value of a field; durations are whole numbers of nanoseconds. -/
inductive Field where
  | text (s : String)
  | toggle (b : Bool)
  | whole (i : Int)
  | texts (xs : List String)
  deriving DecidableEq, Repr

def Key.kind : Key → Kind
  | .relayUrl | .room | .name | .cameraFile | .micFile | .screenFile | .screenAudioFile
  | .stateFile => .text
  | .secure | .debug => .toggle
  | .retryMaxAttempts | .speakingThreshold => .whole
  | .retryDelay | .rejoinDelay | .pingPeriod | .statsInterval => .span
  | .iceServers => .texts

/-- What a field holds when nothing was chosen for it. -/
def Kind.zero : Kind → Field
  | .text => .text ""
  | .toggle => .toggle false
  | .whole | .span => .whole 0
  | .texts => .texts []

/-- How a field of the kind reads the value of a key, with its complaints when it does not fit. -/
def Kind.read : Kind → String → Setting → Except (List String) Field
  | .text => fun key v => ((asText key v).mapError ([·])).map .text
  | .toggle => fun key v => ((asBool key v).mapError ([·])).map .toggle
  | .whole => fun key v => ((asInt key "int" v).mapError ([·])).map .whole
  | .span => fun key v => ((asDuration key v).mapError ([·])).map .whole
  | .texts => fun key v => (asTexts key v).map .texts

/-- A key's field as fitted from the value `pick` chooses for it, with its complaints. -/
def Key.fit (k : Key) (pick : String → Option Setting) : Field × List String :=
  fitField pick k.text k.kind.zero k.kind.read

/-- What a key's field holds once fitted from a chosen value, when the value fits. -/
def Key.fitted (k : Key) : Option Setting → Option Field
  | none => some k.kind.zero
  | some v => (k.kind.read k.text v).toOption

end MeshCall.Settings

namespace MeshCall.ClientConfig

open Settings (Field)

/-- The field of a configuration at a key. -/
def get (c : ClientConfig) : Settings.Key → Field
  | .relayUrl => .text c.relayUrl
  | .room => .text c.room
  | .name => .text c.name
  | .secure => .toggle c.secure
  | .iceServers => .texts c.iceServers
  | .retryDelay => .whole c.retryDelay
  | .retryMaxAttempts => .whole c.retryMaxAttempts
  | .rejoinDelay => .whole c.rejoinDelay
  | .pingPeriod => .whole c.pingPeriod
  | .cameraFile => .text c.cameraFile
  | .micFile => .text c.micFile
  | .screenFile => .text c.screenFile
  | .screenAudioFile => .text c.screenAudioFile
  | .stateFile => .text c.stateFile
  | .speakingThreshold => .whole c.speakingThreshold
  | .statsInterval => .whole c.statsInterval
  | .debug => .toggle c.debug

end MeshCall.ClientConfig

namespace MeshCall.Settings

open Layers (Apart present root underscored)

/-! ## Fitting every field -/

/-- Fitting a field and then wrapping it is fitting with a wrapping reader. -/
theorem fitField_map {α β : Type} (pick : String → Option Setting) (key : String) (zero : α)
    (read : String → Setting → Except (List String) α) (f : α → β) :
    fitField pick key (f zero) (fun k v => (read k v).map f) =
      (f (fitField pick key zero read).1, (fitField pick key zero read).2) := by
  unfold fitField
  cases pick key with
  | none => rfl
  | some v =>
    dsimp only
    cases read key v <;> rfl

/-- The fitted configuration holds at every key that key's own fitting. -/
theorem fit_get (pick : String → Option Setting) (k : Key) :
    (fit pick).1.get k = (k.fit pick).1 := by
  cases k <;> exact (congrArg Prod.fst (fitField_map pick _ _ _ _)).symm

/-- The complaints of a fitting are those of every field, in field order. -/
theorem fit_errors (pick : String → Option Setting) :
    (fit pick).2 = (Key.all.map fun k => (k.fit pick).2).flatten := by
  simp only [fit, Key.all, List.map_cons, List.map_nil, List.flatten_cons, List.flatten_nil,
    List.append_nil, List.append_assoc, Key.fit, Key.kind, Key.text, Kind.zero, Kind.read,
    fitField_map]

/-- A fitting fails nowhere exactly when no field fails. -/
theorem fit_errors_eq_nil (pick : String → Option Setting) :
    (fit pick).2 = [] ↔ ∀ k : Key, (k.fit pick).2 = [] := by
  rw [fit_errors, List.flatten_eq_nil_iff]
  constructor
  · exact fun h k => h _ (List.mem_map_of_mem (Key.mem_all k))
  · intro h es hes
    obtain ⟨k, -, rfl⟩ := List.mem_map.mp hes
    exact h k

theorem ClientConfig.get_with_file (c : ClientConfig) (path : String) (k : Key) :
    ({ c with file := path } : ClientConfig).get k = c.get k := by
  cases k <;> rfl

theorem map_mapError_error {α β : Type} {x : Except String α} {f : α → β} {es : List String}
    (h : (x.mapError ([·])).map f = .error es) : es ≠ [] := by
  cases x with
  | error e =>
    cases h
    simp
  | ok a => cases h

/-- A list of text that does not fit complains at least once. -/
theorem asTexts_error_ne_nil {key : String} {v : Setting} {es : List String}
    (h : asTexts key v = .error es) : es ≠ [] := by
  unfold asTexts at h
  split at h
  · cases h
  · -- a list complains once per element that is no text, and only when there is one
    dsimp only at h
    split at h
    · cases h
    · rename_i hsome
      cases h
      exact fun hnil => hsome (List.isEmpty_iff.mpr hnil)
  · cases h
  · -- any other value is read as one text, complaining once if it is none
    cases hx : asText (key ++ "[0]") v with
    | error e =>
      simp only [hx, Except.map, Except.mapError, Except.error.injEq] at h
      simp [← h]
    | ok s => simp [hx, Except.map, Except.mapError] at h

/-- Every reader that fails complains at least once. -/
theorem Kind.read_error_ne_nil {kind : Kind} {key : String} {v : Setting} {es : List String}
    (h : kind.read key v = .error es) : es ≠ [] := by
  cases kind
  case texts =>
    cases hx : asTexts key v with
    | error es' =>
      simp only [Kind.read, hx, Except.map, Except.error.injEq] at h
      exact h ▸ asTexts_error_ne_nil hx
    | ok xs => simp [Kind.read, hx, Except.map] at h
  all_goals exact map_mapError_error h

/-- A field fitted without complaint holds what its chosen value reads as; one that complains
has a chosen value that does not fit. -/
theorem Key.fitted_pick (k : Key) (pick : String → Option Setting) :
    k.fitted (pick k.text) = if (k.fit pick).2 = [] then some (k.fit pick).1 else none := by
  unfold Key.fit fitField
  cases pick k.text with
  | none => rfl
  | some v =>
    dsimp only [Key.fitted]
    -- the test of the complaints depends on the reading, so it is rewritten, not generalised
    have hcases :
        (∃ es, k.kind.read k.text v = .error es) ∨ ∃ x, k.kind.read k.text v = .ok x := by
      cases k.kind.read k.text v with
      | error es => exact .inl ⟨es, rfl⟩
      | ok x => exact .inr ⟨x, rfl⟩
    rcases hcases with ⟨es, hread⟩ | ⟨x, hread⟩
    · simp [hread, Except.toOption, Kind.read_error_ne_nil hread]
    · simp [hread, Except.toOption]

/-! ## Loading -/

/-- The values the layers of a load choose for its keys. -/
def picked (l : Launch) (given : Flags.Given) (file : List (String × Setting)) :
    String → Option Setting :=
  Setting.field (layers l given file (defaults l.configDir)).settings

variable {l : Launch} {given : Flags.Given} {path : String} {file : List (String × Setting)}

/-- A load whose flags and file were read returns what it fitted, with the file's path, only when
no field failed to fit. -/
theorem load_ok_fit (hparse : Flags.parse l.args = .ok given)
    (hread : readFile l given = .ok (path, file)) {cfg : ClientConfig}
    (h : ClientConfig.load l = .ok cfg) :
    (fit (picked l given file)).2 = [] ∧
      cfg = { (fit (picked l given file)).1 with file := path } := by
  unfold ClientConfig.load at h
  simp only [hparse, hread, bind, Except.bind, pure, Except.pure] at h
  unfold picked
  generalize fit (Setting.field (layers l given file (defaults l.configDir)).settings) = fitted
    at h ⊢
  obtain ⟨c, errors⟩ := fitted
  split at h
  · cases h
  rename_i hnil
  refine ⟨by simpa using hnil, ?_⟩
  -- what is left is the range check, which passed
  split at h
  · cases h
  · cases h
    rfl

/-- A load whose flags and file were read fails when a field does not fit. -/
theorem load_error_of_fit (hparse : Flags.parse l.args = .ok given)
    (hread : readFile l given = .ok (path, file)) (h : (fit (picked l given file)).2 ≠ []) :
    ∃ e, ClientConfig.load l = .error e := by
  unfold ClientConfig.load
  unfold picked at h
  simp only [hparse, hread, bind, Except.bind, pure, Except.pure]
  rw [if_pos (by simpa using h)]
  exact ⟨_, rfl⟩

/-! ## The sources of a key -/

/-- Whether a load sees a key: a flag for it was given, the file has it, or it has a default. -/
def Key.seen (k : Key) (l : Launch) (given : Flags.Given) (file : List (String × Setting)) :
    Bool :=
  (given.lookup k.flag).isSome || (Setting.lookup file k.text).isSome ||
    (Setting.lookup (defaults l.configDir) k.text).isSome

/-- The value the sources give a key that a load sees: its flag's, else its environment
variable's when set and not empty, else the file's value that is not null, else its default that
is not null. A key the load does not see gets nothing. -/
def Key.chosen (k : Key) (l : Launch) (given : Flags.Given) (file : List (String × Setting)) :
    Option Setting :=
  if k.seen l given file then
    ((given.lookup k.flag).map Flags.Value.setting).or
      ((((l.getEnv k.envName).filter fun v => !v.isEmpty).map .text).or
        ((present (Setting.lookup file k.text)).or
          (present (Setting.lookup (defaults l.configDir) k.text))))
  else none

/-- The flag of every key is one of the client's flags other than `--config`, and the only one
whose name, with `_` for `-`, is the key. -/
theorem key_flags : ∀ k ∈ Key.all,
    k.flag ∈ Flags.specs.map (·.name) ∧ k.flag ≠ "config" ∧
    ∀ s ∈ Flags.specs, underscored s.name = k.text ↔ s.name = k.flag := by
  decide +kernel

/-- No flag names another key up to case. -/
theorem flags_apart : ∀ k ∈ Key.all, ∀ s ∈ Flags.specs,
    underscored s.name ≠ k.text →
      Case.fold (root (underscored s.name)) ≠ Case.fold k.text := by
  decide +kernel

/-- No default names another key up to case. -/
theorem defaults_apart : ∀ k ∈ Key.all, ∀ e ∈ defaults none,
    e.1 ≠ k.text → Case.fold (root e.1) ≠ Case.fold k.text := by
  decide +kernel

theorem key_no_dot : ∀ k ∈ Key.all, '.' ∉ k.text.toList := by
  decide

theorem mem_of_lookup {g : Flags.Given} {n : String} {v : Flags.Value} (h : g.lookup n = some v) :
    (n, v) ∈ g := by
  induction g with
  | nil => cases h
  | cons e rest ih =>
    obtain ⟨m, w⟩ := e
    simp only [List.lookup] at h
    split at h
    · rename_i hnm
      cases h
      rw [beq_iff_eq.mp hnm]
      exact List.mem_cons_self
    · exact List.mem_cons_of_mem _ (ih h)

/-- The names of the flags a load layers: every flag given but `--config`, once each. -/
theorem mem_foldl_names {f : List String → String × Flags.Value → List String}
    (hf : ∀ ns e, f ns e = if e.1 == "config" || ns.contains e.1 then ns else ns ++ [e.1])
    {x : String} (g : Flags.Given) (ns : List String) :
    x ∈ g.foldl f ns ↔ x ∈ ns ∨ ∃ e ∈ g, x ≠ "config" ∧ e.1 = x := by
  refine @Layers.mem_foldl_of_step _ f (fun e x => x ≠ "config" ∧ e.1 = x)
    (fun ns e x => ?_) x g ns
  rw [hf]
  split
  · -- a flag is skipped when it is `--config` or named already
    rename_i hskip
    simp only [Bool.or_eq_true, beq_iff_eq, List.contains_iff_mem] at hskip
    constructor
    · exact .inl
    · rintro (h | ⟨hx, rfl⟩)
      · exact h
      · exact hskip.resolve_left hx
  · rename_i hskip
    simp only [Bool.or_eq_true, beq_iff_eq, List.contains_iff_mem, not_or] at hskip
    simp only [List.mem_append, List.mem_singleton]
    constructor
    · rintro (h | rfl)
      · exact .inl h
      · exact .inr ⟨hskip.1, rfl⟩
    · rintro (h | ⟨-, rfl⟩)
      · exact .inl h
      · exact .inr rfl

variable {d : List (String × Setting)}

@[simp] theorem layers_file : (layers l given file d).file = file := rfl

@[simp] theorem layers_defaults : (layers l given file d).defaults = d := rfl

/-- An entry of the flag layer is one of the client's flags that was given, under its name with
`_` for `-`. -/
theorem mem_layers_flags (hdecl : Flags.Declared given) {e : String × Setting}
    (he : e ∈ (layers l given file d).flags) :
    ∃ s ∈ Flags.specs, ∃ v,
      given.lookup s.name = some v ∧ e = (underscored s.name, v.setting) := by
  simp only [layers, List.mem_filterMap, Option.map_eq_some_iff] at he
  obtain ⟨n, -, v, hv, rfl⟩ := he
  obtain ⟨s, hs, rfl⟩ := List.mem_map.mp (hdecl _ (mem_of_lookup hv))
  exact ⟨s, hs, v, hv, rfl⟩

/-- The flag layer holds at a key its flag's value, when the flag was given. -/
theorem lookup_layers_flags (hdecl : Flags.Declared given) (k : Key) :
    Setting.lookup (layers l given file d).flags k.text =
      (given.lookup k.flag).map Flags.Value.setting := by
  obtain ⟨hmem, hconfig, hname⟩ := key_flags k (Key.mem_all k)
  -- an entry at the key comes from the key's own flag
  have hown : ∀ e ∈ (layers l given file d).flags, e.1 = k.text →
      ∃ v, given.lookup k.flag = some v ∧ e.2 = v.setting := by
    intro e he hek
    obtain ⟨s, hs, v, hv, rfl⟩ := mem_layers_flags hdecl he
    exact ⟨v, (hname s hs).mp hek ▸ hv, rfl⟩
  cases hflag : given.lookup k.flag with
  | none =>
    rw [Option.map_none, Layers.lookup_eq_none_iff]
    intro e he hek
    obtain ⟨v, hv, -⟩ := hown e he hek
    simp [hflag] at hv
  | some v =>
    apply Layers.lookup_eq_some
    · -- the flag was given, so the layer has it under the key
      obtain ⟨s, hs, hsk⟩ := List.mem_map.mp hmem
      refine ⟨(k.text, v.setting), ?_, rfl⟩
      simp only [layers, List.mem_filterMap, Option.map_eq_some_iff]
      refine ⟨k.flag, ?_, v, hflag, ?_⟩
      · rw [mem_foldl_names (fun _ _ => rfl)]
        exact .inr ⟨_, mem_of_lookup hflag, hconfig, rfl⟩
      · rw [← hsk, (hname s hs).mpr hsk]
    · intro e he hek
      obtain ⟨w, hw, he2⟩ := hown e he hek
      rw [he2, Option.some.inj (hflag.symm.trans hw)]

/-- The environment layer holds at a key its variable, when set and not empty. -/
theorem envValue_layers (k : Key) :
    (layers l given file d).envValue k.text =
      (l.getEnv k.envName).filter fun v => !v.isEmpty := by
  have hname : (layers l given file d).env (underscored (Case.toUpper
      ((layers l given file d).envPrefix ++ "_" ++ k.text))) = l.getEnv k.envName := rfl
  unfold Layers.envValue
  rw [hname]
  cases l.getEnv k.envName with
  | none => rfl
  | some v => cases h : v.isEmpty <;> simp [h, Option.filter]

theorem flags_layer_apart (hdecl : Flags.Declared given) (k : Key) :
    ∀ e ∈ (layers l given file d).flags, e.1 ≠ k.text →
      Case.fold (root e.1) ≠ Case.fold k.text := by
  intro e he hne
  obtain ⟨s, hs, v, -, rfl⟩ := mem_layers_flags hdecl he
  exact flags_apart k (Key.mem_all k) s hs hne

theorem defaults_layer_apart (k : Key) (dir : Option String) :
    ∀ e ∈ defaults dir, e.1 ≠ k.text → Case.fold (root e.1) ≠ Case.fold k.text := by
  intro e he hne
  -- the defaults' keys do not depend on the directory
  have hkeys : (defaults dir).map Prod.fst = (defaults none).map Prod.fst := rfl
  obtain ⟨e', he', heq⟩ := List.mem_map.mp (hkeys ▸ List.mem_map_of_mem (f := Prod.fst) he)
  rw [← heq] at hne ⊢
  exact defaults_apart k (Key.mem_all k) e' he' hne

/-- The layers of a load choose for a key the value its sources give it, when the file keeps the
key apart. -/
theorem picked_key (hdecl : Flags.Declared given) (k : Key) (hfile : Apart file k.text) :
    picked l given file k.text = k.chosen l given file := by
  have hk := key_no_dot k (Key.mem_all k)
  unfold picked
  rw [Layers.field_settings_apart _ hk (by simpa using hfile) (flags_layer_apart hdecl k)
    (by simpa using defaults_layer_apart k l.configDir)]
  simp only [layers_file, layers_defaults, lookup_layers_flags hdecl, envValue_layers]
  -- the load names the key exactly when it sees it
  have hseen : ((∃ e ∈ (layers l given file (defaults l.configDir)).flags, e.1 = k.text) ∨
      (∃ e ∈ file, e.1 = k.text) ∨ ∃ e ∈ defaults l.configDir, e.1 = k.text) ↔
      k.seen l given file = true := by
    simp only [← Layers.isSome_lookup_iff, lookup_layers_flags hdecl, Option.isSome_map, Key.seen,
      Bool.or_eq_true, or_assoc]
  by_cases hs : k.seen l given file = true
  · rw [if_pos (hseen.mpr hs), Key.chosen, if_pos hs]
  · rw [if_neg (mt hseen.mp hs), Key.chosen, if_neg hs]

/-- A load takes every key from the first of its sources that has a value, flag over environment
over file over default, when it sees the key through a flag given, the file or a default, and
leaves it at zero otherwise: a configuration that loads holds at the key what that value reads as,
and a value that does not fit makes the load fail. -/
theorem load_takes_first_source_of_seen_key (l : Launch) (given : Flags.Given) (path : String)
    (file : List (String × Setting)) (k : Key) (hparse : Flags.parse l.args = .ok given)
    (hread : readFile l given = .ok (path, file)) (hfile : Apart file k.text) :
    (∀ cfg, ClientConfig.load l = .ok cfg →
      k.fitted (k.chosen l given file) = some (cfg.get k)) ∧
    (k.fitted (k.chosen l given file) = none → ∃ e, ClientConfig.load l = .error e) := by
  have hpick := picked_key (l := l) (Flags.parse_declared hparse) k hfile
  rw [← hpick, Key.fitted_pick]
  constructor
  · intro cfg hload
    obtain ⟨hnil, rfl⟩ := load_ok_fit hparse hread hload
    rw [if_pos ((fit_errors_eq_nil _).mp hnil k), ClientConfig.get_with_file, fit_get]
  · intro hnone
    apply load_error_of_fit hparse hread
    -- the key's own field complains, so the fitting does
    have hk : (k.fit (picked l given file)).2 ≠ [] := fun hnil => by simp [hnil] at hnone
    exact fun hall => hk ((fit_errors_eq_nil _).mp hall k)

/-- A launch that names itself with a flag and sets the room and the retry limit in the
environment, with no configuration file: the room has no default, so the load does not see it and
chooses nothing for it, while the retry limit, which has one, is taken from the environment. -/
theorem launch_with_room_in_environment :
    let l : Launch := ⟨["-n", "Flag"], [("HUDDLE_ROOM", "r"), ("HUDDLE_RETRY_MAX_ATTEMPTS", "4")],
      [], none⟩
    Flags.parse l.args = .ok [("name", .text "Flag")] ∧
      readFile l [("name", .text "Flag")] = .ok ("", []) ∧
      Apart [] Key.room.text ∧ Key.room.chosen l [("name", .text "Flag")] [] = none ∧
      Key.retryMaxAttempts.fitted (Key.retryMaxAttempts.chosen l [("name", .text "Flag")] []) =
        some (.whole 4) ∧
      ((∀ cfg, ClientConfig.load l = .ok cfg →
          Key.room.fitted (Key.room.chosen l [("name", .text "Flag")] []) =
            some (cfg.get .room)) ∧
        (Key.room.fitted (Key.room.chosen l [("name", .text "Flag")] []) = none →
          ∃ e, ClientConfig.load l = .error e)) := by
  intro l
  have hparse : Flags.parse l.args = .ok [("name", .text "Flag")] := by decide +kernel
  have hread : readFile l [("name", .text "Flag")] = .ok ("", []) := rfl
  have hfile : Apart [] Key.room.text := ⟨by simp, by simp⟩
  exact ⟨hparse, hread, hfile, by decide +kernel, by decide +kernel,
    load_takes_first_source_of_seen_key l _ "" [] .room hparse hread hfile⟩

/-- With only `HUDDLE_ROOM` set, and no flag, file or default for the room, the room loads
empty. -/
theorem room_from_environment_alone_is_dropped :
    let l : Launch := ⟨[], [("HUDDLE_ROOM", "r")], [], some "/oracle-nonexistent/config"⟩
    l.getEnv Key.room.envName = some "r" ∧
      (ClientConfig.load l).toOption.map (·.room) = some "" := by
  decide +kernel

end MeshCall.Settings
