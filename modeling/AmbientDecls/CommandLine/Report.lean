import AmbientDecls.Build.Version
import AmbientDecls.CommandLine.Screen
import AmbientDecls.Json.Writer

/-! What a run tells about diagnostics, declarations, classes and builds, and the lines of its log. -/

namespace AmbientDecls

def LogLevel.logWord : LogLevel → String
  | .warn => "warning"
  | l => l.word

def LogRecord.line (r : LogRecord) : String :=
  Json.toText (.record [("level", .text r.level.logWord), ("logger", .text r.source.word),
    ("message", .text r.message)])

/-- The lines of a log: records from the configured level on, if lines are wanted. -/
def logLines (config : Config) (log : List LogRecord) : List String :=
  match config.logFormat with
  | .text => []
  | .json => (log.filter fun r => config.logLevel.rank ≤ r.level.rank).map LogRecord.line

def listedDiagnostics : Nat := 20

def listedOr (empty : String) (separator : String) (items : List String) : String :=
  if items.isEmpty then empty else separator.intercalate items

def ClassRecord.memberCounts (c : ClassRecord) : List String :=
  let counts := [MemberKind.config, .method, .property].map fun k =>
    (k, c.members.countP fun m => m.kind = k)
  (counts.filter fun n => n.2 != 0).map fun (k, n) => k.word ++ ": " ++ toString n

namespace Act

def showDiagnostics (ds : List Diagnostic) : Act Unit := do
  if ds.isEmpty then say "[green]No diagnostics.[/green]"
  else
    table ("Diagnostics (" ++ toString ds.length ++ ")") ["Kind", "Count"]
      ((Diagnostic.counts ds).map fun (k, n) => [k.word, toString n])
    (ds.take listedDiagnostics).forM fun d =>
      say ("  [dim]" ++ d.kind.word ++ "[/dim] " ++ d.subject ++ ": " ++ d.message)
    if listedDiagnostics < ds.length then
      say ("  [dim]... " ++ toString (ds.length - listedDiagnostics) ++ " more[/dim]")

def showWritten (file : Path) (g : Generated) : Act Unit :=
  panel "Declarations Written"
    ("[dim]File:[/dim]         " ++ file.toText ++ "\n[dim]Classes:[/dim]      " ++
      toString g.classCount ++ "\n[dim]Modules:[/dim]      " ++ toString g.moduleCount ++
      "\n[dim]Size:[/dim]         " ++ toString g.text.length ++ " bytes")

def showClass (r : Registry) (c : ClassRef) : Act Unit :=
  panel "Class Record"
    ("[bold]" ++ c.name ++ "[/bold]\n" ++
      (if c.shortDoc.isEmpty then "(no description)" else c.shortDoc) ++ "\n\n[dim]Aliases:[/dim]   " ++
      listedOr "none" ", " c.aliases ++ "\n[dim]Ancestry:[/dim]  " ++
      listedOr "(none)" " → " ((r.ancestors c).map (·.name)) ++ "\n[dim]Singleton:[/dim] " ++
      (if c.singleton then "True" else "False") ++ "\n[dim]Members:[/dim]   " ++
      listedOr "none" ", " c.memberCounts)

def reportCells (r : BuildReport) : List String :=
  [r.version, toString r.classCount, toString r.diagnostics.length,
    if r.checked then "[green]yes[/green]" else "-", r.declarationPath]

def showReports (total : Nat) (reports : List BuildReport) : Act Unit :=
  table ("Builds (" ++ toString total ++ ")")
    ["Version", "Classes", "Diagnostics", "Checked", "File"] (reports.map reportCells)

end Act
end AmbientDecls
