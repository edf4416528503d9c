import Canopen.Report.Failure

/-!
# Outcomes

What a command leaves behind on the terminal.
-/

namespace Canopen.Command

/-- What a command finds outside of itself. -/
structure Host where
  /-- How many collections may stand inside each other in a document that `generate` reads.  The other
  commands read theirs two calls less deep, which leaves room for one collection more. -/
  room : Nat
  /-- The terminal takes some of what it is to show for orders, and refuses those that it cannot
  follow. -/
  refuses : Screen → Bool := fun _ => false

/-- The exit code, what is shown, and what is shown apart from it. -/
structure Outcome where
  exitCode : Int := 0
  output : Screen := []
  errors : Screen := []
deriving DecidableEq, Repr

/-- Something can be shown; there is nothing to be refused where nothing is shown. -/
def Host.shows (host : Host) (screen : Screen) : Bool :=
  screen.isEmpty || !host.refuses screen

/-- The end of a command that has succeeded, if that can be said, below what has been reported
before. -/
def Outcome.concluding (host : Host) (output errors : Screen) : Outcome :=
  if host.shows output then { output, errors } else { exitCode := 1, errors }

/-- The report of a failure, below what has been reported before. -/
def Outcome.ofFailure (failure : Failure) (verbose : Bool := false) (before : Screen := []) :
    Outcome where
  exitCode := failure.exitCode
  errors := before ++ failure.screen verbose

end Canopen.Command
