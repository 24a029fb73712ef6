import AmbientDecls.Config.Model
import AmbientDecls.Schema.Scalar

/-! Reading configurations from documents. A missing key takes its default, while a null is a fault; unknown
keys are not looked at. -/

namespace AmbientDecls

open Schema Checked

def VersionConfig.ofData (d : Data) : Checked VersionConfig :=
  (entriesOf d).andThen fun es =>
    VersionConfig.mk <$> required "name" text es <*> required "folder" text es <*>
      required "url" text es <*> orDefault "jsduck_extra" text "" es <*>
      orDefault "doc_url" text defaultDocUrl es

def RegistryConfig.ofData (d : Data) : Checked RegistryConfig :=
  let base : RegistryConfig := {}
  (entriesOf d).andThen fun es =>
    RegistryConfig.mk <$> orDefault "class_prefix" nonEmptyText base.classPrefix es <*>
      orDefault "detached_parents" (listOf .notAList text) base.detachedParents es

def EmitterConfig.ofData (d : Data) : Checked EmitterConfig :=
  let base : EmitterConfig := {}
  (entriesOf d).andThen fun es =>
    EmitterConfig.mk <$> orDefault "doc_url" text base.docUrl es <*>
      orDefault "project_url" text base.projectUrl es <*>
      orDefault "alias_prefix" nonEmptyText base.aliasPrefix es

def OutputConfig.ofData (d : Data) : Checked OutputConfig :=
  let base : OutputConfig := {}
  (entriesOf d).andThen fun es => OutputConfig.mk <$> orDefault "base_dir" text base.baseDir es

def ToolchainConfig.ofData (d : Data) : Checked ToolchainConfig :=
  let base : ToolchainConfig := {}
  (entriesOf d).andThen fun es =>
    ToolchainConfig.mk <$> orDefault "jsduck" text base.jsduck es <*>
      orDefault "tsc_command" (listOf .notAList text) base.tscCommand es <*>
      orDefault "tsfmt_command" (listOf .notAList text) base.tsfmtCommand es <*>
      orDefault "format_output" truth base.formatOutput es <*>
      orDefault "timeout" positiveInt base.timeout es <*>
      orDefault "download_timeout" positiveFloat base.downloadTimeout es

def Config.ofEntries (es : List (Data × Data)) : Checked Config :=
  let base : Config := {}
  Config.mk <$> orDefault "versions" (listOf .notAList VersionConfig.ofData) base.versions es <*>
    orDefault "registry" RegistryConfig.ofData base.registry es <*>
    orDefault "emitter" EmitterConfig.ofData base.emitter es <*>
    orDefault "output" OutputConfig.ofData base.output es <*>
    orDefault "toolchain" ToolchainConfig.ofData base.toolchain es <*>
    orDefault "log_level" (choice LogLevel.ofWord?) base.logLevel es <*>
    orDefault "log_format" (choice LogFormat.ofWord?) base.logFormat es

def Config.ofData (d : Data) : Checked Config := (entriesOf d).andThen Config.ofEntries

end AmbientDecls
