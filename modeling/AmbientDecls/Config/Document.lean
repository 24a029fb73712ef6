import AmbientDecls.Config.Model
import AmbientDecls.Yaml.Writer

/-! Configurations as values of a document, and the document that a new configuration file begins with. -/

namespace AmbientDecls

def VersionConfig.toData (v : VersionConfig) : Data :=
  .record [("name", .text v.name), ("folder", .text v.folder), ("url", .text v.url),
    ("jsduck_extra", .text v.jsduckExtra), ("doc_url", .text v.docUrl)]

def RegistryConfig.toData (r : RegistryConfig) : Data :=
  .record [("class_prefix", .text r.classPrefix), ("detached_parents", .texts r.detachedParents)]

def EmitterConfig.toData (e : EmitterConfig) : Data :=
  .record [("doc_url", .text e.docUrl), ("project_url", .text e.projectUrl),
    ("alias_prefix", .text e.aliasPrefix)]

def OutputConfig.toData (o : OutputConfig) : Data := .record [("base_dir", .text o.baseDir)]

def ToolchainConfig.toData (t : ToolchainConfig) : Data :=
  .record [("jsduck", .text t.jsduck), ("tsc_command", .texts t.tscCommand),
    ("tsfmt_command", .texts t.tsfmtCommand), ("format_output", .bool t.formatOutput),
    ("timeout", .int t.timeout), ("download_timeout", .float t.downloadTimeout)]

def Config.toData (c : Config) : Data :=
  .record [("versions", .list (c.versions.map VersionConfig.toData)),
    ("registry", c.registry.toData), ("emitter", c.emitter.toData), ("output", c.output.toData),
    ("toolchain", c.toolchain.toData), ("log_level", .text c.logLevel.word),
    ("log_format", .text c.logFormat.word)]

def Config.document (c : Config) : String := Yaml.write c.toData

def templateLines : List String :=
  ["# extdts.yaml",
    "",
    "# Ext JS distributions built by \x60extdts generate\x60",
    "versions:",
    "  - name: \"ExtJS-4.2.1.883\"",
    "    folder: \"ext-4.2.1.883\"",
    "    url: \"http://cdn.sencha.com/ext/gpl/ext-4.2.1-gpl.zip\"",
    "    jsduck_extra: \"\"",
    "    doc_url: \"http://docs.sencha.com/extjs/4.2.5/#!/api/\"",
    "",
    "# JSDuck export loading",
    "registry:",
    "  class_prefix: \"Ext.\"         # files outside this prefix are ignored",
    "  detached_parents:            # classes exported with a bogus parent link",
    "    - \"Ext.Error\"",
    "",
    "# Declaration output",
    "emitter:",
    "  doc_url: \"http://docs.sencha.com/extjs/4.2.5/#!/api/\"",
    "  alias_prefix: \"__\"           # prefix for shadowed builtin aliases",
    "",
    "output:",
    "  base_dir: \"build\"",
    "",
    "# External tools",
    "toolchain:",
    "  jsduck: \"jsduck\"",
    "  tsc_command: [\"npx\", \"tsc\", \"--noEmit\"]",
    "  tsfmt_command: [\"npx\", \"tsfmt\", \"-r\"]",
    "  format_output: true",
    "  timeout: 600",
    "  download_timeout: 120",
    "",
    "# Logging",
    "log_level: \"info\"              # debug | info | warn | error",
    "log_format: \"text\"             # text | json"]

def configTemplate : String := String.join (templateLines.map (· ++ "\n"))

end AmbientDecls
