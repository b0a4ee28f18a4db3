/-
# Failures

Everything that can go wrong when settings are asked for, as causes.  The
wording of a cause is in one place and is what messages and logs show.
-/

namespace SettingsBroker

/-- Why a file or program could not be used. -/
inductive IoCause where
  | notFound
  /-- The name belongs to something that may not be used so. -/
  | permissionDenied
  /-- A directory stands where a file is needed. -/
  | isDirectory
  | notText
  deriving DecidableEq, Repr

/-- The wording of an input or output cause. -/
def IoCause.message : IoCause → String
  | .notFound => "No such file or directory (os error 2)"
  | .permissionDenied => "Permission denied (os error 13)"
  | .isDirectory => "Is a directory (os error 21)"
  | .notText => "stream did not contain valid UTF-8"

/-- A failure by its cause. -/
inductive Failure where
  | io (cause : IoCause)
  /-- A JSON text does not describe what it should. -/
  | json
  /-- A TOML text does not describe what it should. -/
  | toml
  /-- A file could not be watched. -/
  | notify
  /-- A build system gave up, in its own words. -/
  | backend (complaint : String)
  /-- A text does not identify a document. -/
  | invalidDocument (complaint : String)
  | stopped
  | delegate (complaint : String)
  deriving DecidableEq, Repr

def Failure.message : Failure → String
  | .io cause => "IO error: " ++ cause.message
  | .json => "Serialization error"
  | .toml => "Config parse error"
  | .notify => "File watcher error"
  | .backend complaint => "Backend error: " ++ complaint
  | .invalidDocument complaint => "Invalid document: " ++ complaint
  | .stopped => "Build system manager is no longer running"
  | .delegate complaint => "Delegate error: " ++ complaint

end SettingsBroker
