import ApiAccord.Feature.Matching
import ApiAccord.Policy

/-!
# Settings

`Settings` holds everything that a user can set, in sections: how checks are made, how code is read,
how specifications are loaded, how they are stored, and how results are printed.
-/

namespace ApiAccord

/-! ### Reading code -/

namespace ExtractionConfig

def default : ExtractionConfig := ⟨["/api/"], 1000000, false⟩

/-- Reads the section from a record. -/
def check (v : Value) : Checked ExtractionConfig :=
  (Record.members "ExtractorConfig" v).andThen fun ms =>
    ExtractionConfig.mk <$>
      Record.field ms ["api_prefixes"] default.apiPrefixes (Field.listOf Field.text) <*>
      Record.field ms ["max_input_chars"] default.maxInputChars
        (Field.satisfying (fun n => decide (1 ≤ n)) (.tooSmall "1") Field.whole) <*>
      Record.field ms ["strict_method_detection"] default.strictMethods Field.truth

/-- The section as a record. -/
def toValue (c : ExtractionConfig) : Value :=
  .ofNamed [
    ("api_prefixes", .list (c.apiPrefixes.map .str)),
    ("max_input_chars", .int c.maxInputChars),
    ("strict_method_detection", .bool c.strictMethods)]

end ExtractionConfig

/-! ### Loading specifications -/

/-- How a specification is loaded. -/
structure LoadOptions where
  /-- Whether references are resolved. -/
  dereference : Bool
  /-- Whether references may lead into other documents. -/
  external : Bool
  /-- Whether references that cannot be resolved stay in place. -/
  tolerant : Bool
  /-- Whether stored results are passed over. -/
  fresh : Bool
  /-- The seconds that reading may take. -/
  timeout : Float

namespace LoadOptions

def default : LoadOptions := ⟨true, true, false, false, 30.0⟩

/-- The options on which the result of loading depends. -/
def stamp (o : LoadOptions) : Bool × Bool × Bool := (o.dereference, o.external, o.tolerant)

/-- Reads options from a record. -/
def check (v : Value) : Checked LoadOptions :=
  (Record.members "NormalizerOptions" v).andThen fun ms =>
    LoadOptions.mk <$> Record.field ms ["dereference"] true Field.truth <*>
      Record.field ms ["resolve_external_refs"] true Field.truth <*>
      Record.field ms ["continue_on_error"] false Field.truth <*>
      Record.field ms ["validate", "validate_spec"] false Field.truth <*>
      Record.field ms ["timeout"] 30.0
        (Field.satisfying (fun x => decide (0 < x)) (.notAbove "0") Field.number)

/-- The options as a record. -/
def toValue (o : LoadOptions) : Value :=
  .ofNamed [
    ("dereference", .bool o.dereference),
    ("resolve_external_refs", .bool o.external),
    ("continue_on_error", .bool o.tolerant),
    ("validate", .bool o.fresh),
    ("timeout", .float o.timeout)]

end LoadOptions

/-! ### Storing specifications -/

/-- How loaded specifications are stored. -/
structure StoreSettings where
  enabled : Bool
  /-- Where they are stored: `memory` or `disk`. -/
  backend : String
  /-- The number of specifications held in memory. -/
  capacity : Int
  /-- The megabytes that specifications on disk may take. -/
  diskLimit : Int
deriving DecidableEq, Repr

namespace StoreSettings

def default : StoreSettings := ⟨true, "memory", 32, 64⟩

/-- Reads the section from a record. -/
def check (v : Value) : Checked StoreSettings :=
  let positive := Field.satisfying (fun n => decide (1 ≤ n)) (.tooSmall "1") Field.whole
  (Record.members "CacheConfig" v).andThen fun ms =>
    StoreSettings.mk <$> Record.field ms ["enabled"] true Field.truth <*>
      Record.field ms ["backend"] "memory" Field.text <*>
      Record.field ms ["max_entries"] 32 positive <*>
      Record.field ms ["size_limit_mb"] 64 positive

/-- The section as a record. -/
def toValue (s : StoreSettings) : Value :=
  .ofNamed [
    ("enabled", .bool s.enabled),
    ("backend", .str s.backend),
    ("max_entries", .int s.capacity),
    ("size_limit_mb", .int s.diskLimit)]

end StoreSettings

/-! ### All settings -/

/-- Everything that a user can set. -/
structure Settings where
  check : CheckOptions
  extraction : ExtractionConfig
  loading : LoadOptions
  store : StoreSettings
  /-- The name of the output format. -/
  format : String

namespace Settings

def default : Settings := ⟨.default, .default, .default, .default, "auto"⟩

/-- Reads the section on output from a record. -/
def checkFormat (v : Value) : Checked String :=
  (Record.members "OutputConfig" v).andThen fun ms => Record.field ms ["format"] "auto" Field.text

/-- Reads settings from a record. -/
def ofValue (v : Value) : Checked Settings :=
  (Record.members "GlobalConfig" v).andThen fun ms =>
    Settings.mk <$> Record.field ms ["check"] .default CheckOptions.check <*>
      Record.field ms ["extractor"] .default ExtractionConfig.check <*>
      Record.field ms ["parser"] .default LoadOptions.check <*>
      Record.field ms ["cache"] .default StoreSettings.check <*>
      Record.field ms ["output"] "auto" checkFormat

/-- The settings as a record. -/
def toValue (s : Settings) : Value :=
  .ofNamed [
    ("check", s.check.toValue),
    ("extractor", s.extraction.toValue),
    ("parser", s.loading.toValue),
    ("cache", s.store.toValue),
    ("output", .ofNamed [("format", .str s.format)])]

end Settings

end ApiAccord
