import FileProfile.Disk.Path

/-!
# Command-line arguments

The command takes options in any order among its paths, and behind `--` paths only. An option is
given at most once; its value follows it, or an equals sign behind it, and is not empty. A lone
minus sign is a path. Asking for help or for the version ends the reading. Arguments are raw texts.
-/

namespace FileProfile.CommandLine

/-- What the command is to classify, and how it prints. -/
structure Options where
  root : RawText := Path.here
  indented : Bool := false
  paths : List RawText
  deriving DecidableEq, Repr

/-- The paths as seen from the root. -/
def Options.targets (options : Options) : List RawText := options.paths.map (Path.join options.root)

/-- What the arguments ask for. -/
inductive Request where
  | classify (options : Options)
  | help
  | version
  /-- The arguments make no sense. -/
  | misuse
  deriving DecidableEq, Repr

/-- What the arguments so far have set; paths are kept last first. -/
structure Reading where
  root : Option RawText := none
  indented : Bool := false
  paths : List RawText := []

namespace Reading

/-- The request, at the end of the arguments. -/
def finish (r : Reading) : Request :=
  if r.paths.isEmpty then .misuse
  else .classify { root := r.root.getD Path.here, indented := r.indented, paths := r.paths.reverse }

/-- The request with further arguments that are all paths. -/
def addPaths (r : Reading) (paths : List RawText) : Request :=
  if paths.contains [] then .misuse else { r with paths := paths.reverse ++ r.paths }.finish

/-- Whether an argument begins like an option. -/
def isOptionLike (argument : RawText) : Bool :=
  (raw "-").isPrefixOf argument && argument != raw "-"

/-- The reading with a root, if it had none and the root is not empty. -/
def setRoot? (r : Reading) (root : RawText) : Option Reading :=
  if r.root.isSome || root == [] then none else some { r with root := some root }

/-- What an argument that begins like an option asks for, help and version apart. -/
def option? (r : Reading) (argument : RawText) : Option Reading :=
  if argument = raw "--pretty" then if r.indented then none else some { r with indented := true }
  else if (raw "--root=").isPrefixOf argument then r.setRoot? (argument.drop 7)
  else none

/-- What an argument asks for that ends the reading: a cluster of short options is known by its
first. -/
def ending? (argument : RawText) : Option Request :=
  if (raw "-h").isPrefixOf argument || argument = raw "--help" then some .help
  else if (raw "-V").isPrefixOf argument || argument = raw "--version" then some .version
  else none

/-- The request with further arguments. -/
def read (r : Reading) : List RawText → Request
  | [] => r.finish
  | argument :: rest =>
    if argument = raw "--" then r.addPaths rest
    else if argument = raw "--root" then
      match rest with
      | [] => .misuse
      | value :: rest =>
        if isOptionLike value then .misuse
        else match r.setRoot? value with
          | some r => r.read rest
          | none => .misuse
    else if isOptionLike argument then
      match ending? argument with
      | some request => request
      | none => match r.option? argument with
        | some r => r.read rest
        | none => .misuse
    else if argument = [] then .misuse
    else { r with paths := argument :: r.paths }.read rest

end Reading

/-- What the arguments ask for. -/
def Request.ofArguments (arguments : List RawText) : Request := ({} : Reading).read arguments

end FileProfile.CommandLine
