import FileProfile.CommandLine.Arguments
import FileProfile.CommandLine.DotEnv
import FileProfile.Disk.Load
import FileProfile.Profile

/-!
# Running the command

The command loads and classifies each file in turn and prints the summary of each that could be
loaded, one JSON document each. A file that cannot be loaded prints nothing and does not keep the
others from being classified; it counts as a failure, and failures show in the exit status.
-/

namespace FileProfile.CommandLine

/-- What a run of the command leaves behind. -/
structure Outcome where
  status : Nat
  output : String
  /-- The line on the error output that says why the run failed. -/
  failure : Option String
  deriving DecidableEq, Repr

/-- The line that a file prints. -/
def document (indented : Bool) (summary : Summary) : String :=
  (if indented then summary.toJson.indented else summary.toJson.compact) ++ "\n"

/-- The line that tells of failures. -/
def failureLine (failures : Nat) : String :=
  "Error: " ++ Text.decimal failures ++ " file(s) could not be classified"

/-- What a run has done so far. -/
structure Progress where
  /-- What it has printed. -/
  output : String := ""
  /-- How many files could not be loaded. -/
  failures : Nat := 0

namespace Progress

/-- Goes on with a file that was loaded, or could not be. -/
def step (limits : Limits) (indented : Bool) (p : Progress) : Except Error Subject → Progress
  | .ok subject =>
    let profile : Profile := ⟨{ subject with limits }, {}⟩
    { p with output := p.output ++ document indented (Profile.Session.summary profile).1 }
  | .error _ => { p with failures := p.failures + 1 }

/-- What a run leaves behind that ends here. -/
def finish (p : Progress) : Outcome where
  status := if p.failures = 0 then 0 else 1
  output := p.output
  failure := if p.failures = 0 then none else some (failureLine p.failures)

end Progress

/-- The outcome of a run that tried to load these files. -/
def conclude (limits : Limits) (indented : Bool) (loaded : List (Except Error Subject)) : Outcome :=
  (loaded.foldl (Progress.step limits indented) {}).finish

/-- The outcome of a run that classifies files, given what is seen of a root and of a path. -/
def classify (limits : Limits) (observe : RawText → RawText → Observation) (options : Options) :
    Outcome :=
  conclude limits options.indented
    (options.targets.map fun path => (observe options.root path).load options.root path)

/-- The outcome of a run whose arguments make no sense. -/
def misused : Outcome := ⟨2, "", none⟩

/-- How the command is used. -/
def usage : String :=
  "Usage: file-profile [--root DIR] [--pretty] PATH...\n\n" ++
  "Options:\n" ++
  "  --root DIR     the directory that paths are relative to [default: .]\n" ++
  "  --pretty       indent the output\n" ++
  "  -h, --help     print this help\n" ++
  "  -V, --version  print the version\n"

/-- The version of the command. -/
def version : String := "file-profile 0.1.0\n"

/-- The limits of a run in an environment, with the assignments of an environment file if there is
one. -/
def limitsIn (environment : Environment) (file : Option (List UInt8)) : Limits :=
  Limits.ofEnvironment
    (environment.load (DotEnv.assignments (file.getD []))).get?

/-- The outcome of a run with these arguments in an environment and on a disk. -/
def run (environment : Environment) (disk : Disk) (arguments : List RawText) : Outcome :=
  match Request.ofArguments arguments with
  | .misuse => misused
  | .help => ⟨0, usage, none⟩
  | .version => ⟨0, version, none⟩
  | .classify options =>
    classify (limitsIn environment (disk.nearest? (raw ".env") disk.workingDirectory))
      disk.observe options

end FileProfile.CommandLine
