import AmbientDecls.Build.World

/-! Starting external tools. A tool that runs has a result, whatever its exit code; one that cannot be started or
takes too long is a failure. -/

namespace AmbientDecls

structure ToolResult where
  ok : Bool
  exitCode : Int
  output : String
deriving DecidableEq, Repr

def clip (n : Nat) (s : String) : String := String.ofList (s.toList.take n)

namespace World

def wrote (w : World) (writes : List (Path × Node)) : World :=
  { w with files := writes.foldl (fun t e => t.put (t.home ++ e.1.parts) e.2) w.files }

/-- Starts a tool: the next outcome is used up. -/
def start (w : World) (args : List String) (timeout : Int) : ToolEnd × World :=
  let w := { w with calls := w.calls ++ [ToolCall.mk args timeout] }
  match w.tools with
  | [] => (w.laterTools, w)
  | run :: rest => (run.finish, World.wrote { w with tools := rest } run.writes)

end World

namespace Act

def start (args : List String) (timeout : Int) : Act ToolEnd := fun w =>
  let (e, w) := w.start args timeout
  (.ok e, w)

/-- Runs a tool for a stage and waits for it, at most `timeout` seconds. -/
def runTool (tool stage : String) (args : List String) (timeout : Int) : Act ToolResult := do
  log .debug .process ("running " ++ " ".intercalate args)
  match ← start args timeout with
  | .missing => match args with
    | [] => throw .noWords
    | word :: _ => throw (.tool ⟨tool, stage, "executable not found: " ++ word, none, true⟩)
  | .timedOut =>
    throw (.tool ⟨tool, stage, "timed out after " ++ toString timeout ++ "s", none, true⟩)
  | .denied => match args with
    | [] => throw .noWords
    | word :: _ => throw (.file ⟨.permission, some word, none⟩)
  | .exited code output errors =>
    let all := output ++ errors
    if code ≠ 0 then
      log .warn .process (tool ++ " exited " ++ toString code ++ ": " ++ clip 200 all)
    return ⟨code = 0, code, all⟩

end Act
end AmbientDecls
