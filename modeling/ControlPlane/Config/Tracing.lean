/-
This file defines the tracing configuration: a default level and levels by tag.
It is written as one list of levels, which starts with the default one.
-/

import ControlPlane.Config.Error
import ControlPlane.Config.Data
import ControlPlane.Tracing.Targets

namespace ControlPlane

open Tracing

/-- A default level and the levels of tags in order. -/
structure TracingConfig where
  default : Level := Level.standard
  tags : TagLevels := []
  deriving DecidableEq

namespace TracingConfig

def addTag (config : TracingConfig) (tag : String) (level : Level) : TracingConfig :=
  { config with tags := config.tags.assign tag level }

/-- Accepts tags that the table of targets knows. -/
def validate (table : TargetTable) (config : TracingConfig) : ConfigResult :=
  match table.checkTags (config.tags.map Prod.fst) with
  | .ok () => .ok ()
  | .error error => .error (.tracing error)

/-- Sets the default level and then the levels of the tags. -/
def apply (table : TargetTable) (config : TracingConfig) : ConfigResult × TargetTable :=
  match (table.setDefault config.default).setup config.tags with
  | (.ok (), changed) => (.ok (), changed)
  | (.error error, changed) => (.error (.tracing error), changed)

/-- Reads a list of levels, where the tag `default` stands for the default level. -/
def ofText (text : String) : Except ConfigError TracingConfig :=
  match TagLevels.ofText text with
  | .ok levels =>
    .ok ⟨(levels.levelOf? "default").getD Level.standard, levels.without "default"⟩
  | .error error => .error (.tracing error)

def text (config : TracingConfig) : String :=
  String.intercalate ","
    (itemText "default" config.default ::
      config.tags.map fun entry => itemText entry.1 entry.2)

def ofData? (data : Data) : Option TracingConfig :=
  data.text?.bind fun text => (ofText text).toOption

def toData (config : TracingConfig) : Data :=
  .text config.text

end TracingConfig

end ControlPlane
