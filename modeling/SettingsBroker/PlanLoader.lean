/-
# Where plans come from

A plan is read from a file, or written by the package manager when it is run.
-/

import SettingsBroker.FileContent
import SettingsBroker.PlanSource
import SettingsBroker.Program.Shell
import SettingsBroker.Text.Blank

namespace SettingsBroker

/-- Where plans come from. -/
inductive PlanLoader where
  | file (content : FileContent)
  /-- The output of a program. -/
  | program (name : String) (words : List String)
  deriving DecidableEq, Repr

/-- The plan that a run of a program brings, if it ended well. -/
def ProgramRun.plan (name : String) (run : ProgramRun) : PlanLoad :=
  if run.status = .code 0 then BuildPlan.parse run.out
  else
    .error (.backend (name ++ " exited with " ++ run.status.display ++ ": "
      ++ Text.trim (Text.lossy run.err)))

/-- Asks for a plan. -/
def PlanLoader.load : PlanLoader → PlanLoad
  | .file content => content.text.bind fun text => BuildPlan.parse (Text.utf8 text)
  | .program name words =>
    match Program.run name words with
    | .ok run => run.plan name
    | .error cause => .error (.io cause)

end SettingsBroker
