import Canopen.Command.Generate
import Canopen.Command.Info
import Canopen.Command.Validate

/-!
# Command lines

A command line is read, its files are looked at, and then it is carried out.  A command line that
makes no sense has an exit code of its own.
-/

namespace Canopen.Command

def versionText : Screen :=
  Screen.lines ("yaml-to-od version " ++ Source.currentVersion)

def helpText : Screen :=
  ["Usage: yaml-to-od [OPTIONS] COMMAND [ARGS]...",
    "validate INPUT_FILE [--strict] [--quiet] [--format text|table|tree]",
    "generate INPUT_FILE [--output FOLDER] [--filename NAME] [--name PREFIX]",
    "[--string-length N] [--strict] [--force] [--dry-run] [--verbose]",
    "info INPUT_FILE"]

/-- The exit code of a command line that makes no sense. -/
def usageExitCode : Int := 2

def misused (error : UsageError) : Outcome where
  exitCode := usageExitCode
  errors := Screen.lines ("Error: " ++ error.message)

/-- Carry out a request. -/
def perform (host : Host) (request : Request) (files : Files) : Outcome × Files :=
  match request with
  | .version => ({ output := versionText }, files)
  | .help => ({ output := helpText }, files)
  | .validate request => (validate host files request, files)
  | .generate request => generate host request files
  | .info input => (info host files input, files)

/-- Carry out a command line. -/
def run (host : Host) (arguments : List String) (files : Files) : Outcome × Files :=
  match readRequest files.working arguments with
  | .error error => (misused error, files)
  | .ok request =>
      match request.check files with
      | .error error => (misused error, files)
      | .ok () => perform host request files

end Canopen.Command
