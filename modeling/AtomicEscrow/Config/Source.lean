import AtomicEscrow.Config.Basic
import AtomicEscrow.Config.Layer
import AtomicEscrow.Toml.Document

set_option autoImplicit false

/-! # Where the configuration comes from

A field has the value that the environment gives it, or else the one in the file, or else the
standard one. Whatever is given has to fit the field, and the configuration as a whole has to be
valid.

The settings of a file and of an environment come in no particular order (see `Layer`). So there can
be more than one answer to a text (`Reads`), or to a file and an environment (`Loads`). The programs
that run here go through both from the start to the end, which is one of the orders.
-/

namespace AtomicEscrow.Config

/-- The value of a field: that of its setting, or the standard one where there is no setting. -/
def field {α : Type} (setting : Option Setting) (fit : Setting → Option α) (standard : α) :
    Option α :=
  match setting with
  | none => some standard
  | some s => fit s

/-- The configuration of the settings under the names of the fields, if every one fits. -/
def ofSettings (find : String → Option Setting) : Option Config := do
  return {
    programId := ← field (find "program_id") Setting.pubkey? standard.programId
    relayProgramId := ← field (find "relay_program_id") Setting.pubkey? standard.relayProgramId
    ed25519ProgramId :=
      ← field (find "ed25519_program_id") Setting.pubkey? standard.ed25519ProgramId
    relayPruningFactor :=
      ← field (find "relay_pruning_factor") Setting.shortWord? standard.relayPruningFactor
    relaySafetyBuffer :=
      ← field (find "relay_safety_buffer") Setting.shortWord? standard.relaySafetyBuffer
    blockheightExpiryThreshold :=
      ← field (find "blockheight_expiry_threshold") Setting.word?
          standard.blockheightExpiryThreshold
    eventLogCapacity := ← field (find "event_log_capacity") Setting.word? standard.eventLogCapacity
    logLevel := ← field (find "log_level") Setting.text? standard.logLevel }

/-- The configuration of the settings under the names of the fields, if it is a valid one. -/
def ofValidSettings (find : String → Option Setting) : Except ConfigError Config :=
  match ofSettings find with
  | none => .error .invalid
  | some config => do
      config.validate
      return config

open Layer

/-- The configuration of the settings of a file, in the order in which they are gone through. -/
def ofFile (file : Source) : Except ConfigError Config := ofValidSettings (ofSource file).get?

/-- The configuration of the settings of an environment, which wins, and of a file. -/
def ofSources (environment file : Source) : Except ConfigError Config :=
  ofValidSettings fun name => ((ofSource environment).get? name).or ((ofSource file).get? name)

/-- The configuration of a TOML text, gone through from its start. -/
def ofToml (text : String) : Except ConfigError Config :=
  match Toml.parse text with
  | none => .error .unreadable
  | some members => ofFile (tableSource members)

/-- The answers that there can be to a TOML text. -/
inductive Reads (text : String) : Except ConfigError Config → Prop
  | unreadable (hparse : Toml.parse text = none) : Reads text (.error .unreadable)
  | inOrder {members : List (String × Toml)} {file : Source}
      (hparse : Toml.parse text = some members) (horder : file.Perm (tableSource members)) :
      Reads text (ofFile file)

/-- The members of a configuration file, which may be missing. -/
def fileMembers : Option String → Option (List (String × Toml))
  | none => some []
  | some text => Toml.parse text

/-- The configuration of a file, which may be missing, and an environment, which wins, both gone
through from the start. -/
def load (file : Option String) (environment : List (String × String)) :
    Except ConfigError Config :=
  match fileMembers file with
  | none => .error .unbuildable
  | some members => ofSources (environmentSource environment) (tableSource members)

/-- The answers that there can be to a file, which may be missing, and an environment. -/
inductive Loads (file : Option String) (environment : List (String × String)) :
    Except ConfigError Config → Prop
  | unbuildable (hmembers : fileMembers file = none) :
      Loads file environment (.error .unbuildable)
  | inOrder {members : List (String × Toml)} {overrides settings : Source}
      (hmembers : fileMembers file = some members)
      (hoverrides : overrides.Perm (environmentSource environment))
      (hsettings : settings.Perm (tableSource members)) :
      Loads file environment (ofSources overrides settings)

end AtomicEscrow.Config
