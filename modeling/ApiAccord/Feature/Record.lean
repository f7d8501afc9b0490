import ApiAccord.Checked
import ApiAccord.Feature.Basic

/-!
# Features as records

Feature sets are read from records, and written as such.
-/

namespace ApiAccord

/-- A text, or null. -/
def Value.ofText? (s : Option String) : Value := (s.map Value.str).getD .null

namespace EndpointFeature

def check (v : Value) : Checked EndpointFeature :=
  (Record.members "EndpointFeature" v).andThen fun ms =>
    EndpointFeature.mk <$> Record.required ms ["path"] Field.text <*>
      Record.required ms ["line"] Field.whole <*>
      Record.required ms ["raw_match"] Field.text <*>
      Record.field ms ["pattern"] none (Field.orNull Field.text) <*>
      Record.field ms ["file"] none (Field.orNull Field.text)

def toValue (f : EndpointFeature) : Value :=
  .ofNamed [
    ("path", .str f.path),
    ("line", .int f.line),
    ("raw_match", .str f.rawMatch),
    ("pattern", .ofText? f.rule),
    ("file", .ofText? f.file)]

end EndpointFeature

namespace MethodFeature

def check (v : Value) : Checked MethodFeature :=
  (Record.members "MethodFeature" v).andThen fun ms =>
    MethodFeature.mk <$> Record.required ms ["method"] Field.text <*>
      Record.required ms ["line"] Field.whole <*>
      Record.required ms ["raw_match"] Field.text <*>
      Record.field ms ["pattern"] none (Field.orNull Field.text) <*>
      Record.field ms ["file"] none (Field.orNull Field.text)

def toValue (f : MethodFeature) : Value :=
  .ofNamed [
    ("method", .str f.method),
    ("line", .int f.line),
    ("raw_match", .str f.rawMatch),
    ("pattern", .ofText? f.rule),
    ("file", .ofText? f.file)]

end MethodFeature

namespace SchemaFeature

def check (v : Value) : Checked SchemaFeature :=
  (Record.members "SchemaFeature" v).andThen fun ms =>
    SchemaFeature.mk <$> Record.required ms ["name"] Field.text <*>
      Record.required ms ["line"] Field.whole <*>
      Record.field ms ["file"] none (Field.orNull Field.text)

def toValue (f : SchemaFeature) : Value :=
  .ofNamed [("name", .str f.name), ("line", .int f.line), ("file", .ofText? f.file)]

end SchemaFeature

namespace ParameterFeature

def check (v : Value) : Checked ParameterFeature :=
  (Record.members "ParameterFeature" v).andThen fun ms =>
    ParameterFeature.mk <$> Record.required ms ["name"] Field.text <*>
      Record.field ms ["type"] none (Field.orNull Field.text) <*>
      Record.required ms ["line"] Field.whole <*>
      Record.field ms ["file"] none (Field.orNull Field.text)

def toValue (f : ParameterFeature) : Value :=
  .ofNamed [
    ("name", .str f.name),
    ("type", .ofText? f.type),
    ("line", .int f.line),
    ("file", .ofText? f.file)]

end ParameterFeature

namespace FeatureSet

def check (v : Value) : Checked FeatureSet :=
  (Record.members "CodeFeatureSet" v).andThen fun ms =>
    FeatureSet.mk <$> Record.field ms ["endpoints"] [] (Field.listOf EndpointFeature.check) <*>
      Record.field ms ["methods"] [] (Field.listOf MethodFeature.check) <*>
      Record.field ms ["schema_names"] [] (Field.listOf SchemaFeature.check) <*>
      Record.field ms ["parameters"] [] (Field.listOf ParameterFeature.check)

def toValue (fs : FeatureSet) : Value :=
  .ofNamed [
    ("endpoints", .list (fs.endpoints.map (·.toValue))),
    ("methods", .list (fs.methods.map (·.toValue))),
    ("schema_names", .list (fs.schemas.map (·.toValue))),
    ("parameters", .list (fs.parameters.map (·.toValue)))]

end FeatureSet

end ApiAccord
