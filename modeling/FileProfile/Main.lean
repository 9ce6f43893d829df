import FileProfile.CommandLine.Run

/-!
# The command

Looks at the files of the machine and at its environment, and leaves everything else to
`CommandLine`. Arguments and paths come and go as texts here, so a path that is not UTF-8 is read
leniently before the machine is asked for it.
-/

namespace FileProfile.CommandLine

/-- The cause of an error of the machine. -/
def faultOf : IO.Error → PathFault
  | .noFileOrDirectory .. | .noSuchThing .. => .notFound
  | .inappropriateType .. => .isADirectory
  | _ => .notADirectory

/-- The result of looking at the disk of the machine. -/
def attempt {α : Type} (look : IO α) : IO (Except PathFault α) := do
  match ← look.toBaseIO with
  | .ok value => return .ok value
  | .error e => return .error (faultOf e)

/-- What the disk of the machine shows of a root and of a path. -/
def observe (root path : RawText) : IO Observation := do
  let place (path : RawText) : IO (Except PathFault RawText) := do
    if path.isEmpty then return .error .notFound
    attempt (do return raw (← IO.FS.realPath path.toText).toString)
  return {
    root := ← place root
    path := ← place path
    bytes := ← attempt do return (← IO.FS.readBinFile path.toText).toList }

/-- The bytes of the nearest environment file in the working directory or in one around it. -/
def environmentFile : IO (Option (List UInt8)) := do
  let place := (Path.segments (raw (← IO.currentDir).toString)).filter (!Path.isIdle ·)
  for n in List.range (place.length + 1) do
    let path := Disk.pathOf (place.take (place.length - n) ++ [raw ".env"])
    match ← attempt (IO.FS.readBinFile path.toText) with
    | .ok bytes => return some bytes.toList
    | .error _ => pure ()
  return none

/-- The limits that the environment of the machine sets. -/
def limits : IO Limits := do
  let file ← environmentFile
  let names := Limits.variableNames ++ DotEnv.names (DotEnv.assignments (file.getD []))
  let bindings ← names.filterMapM fun name => do
    return (← IO.getEnv name).map (name, ·)
  return limitsIn ⟨bindings⟩ file

end FileProfile.CommandLine

open FileProfile CommandLine in
/-- Runs the command. -/
def main (arguments : List String) : IO UInt32 := do
  let outcome ←
    match Request.ofArguments (arguments.map raw) with
    | .misuse => pure { misused with failure := some usage }
    | .help => pure ⟨0, usage, none⟩
    | .version => pure ⟨0, version, none⟩
    | .classify options => do
      let loaded ← options.targets.mapM fun path => do
        return (← observe options.root path).load options.root path
      pure (conclude (← limits) options.indented loaded)
  IO.print outcome.output
  if let some failure := outcome.failure then IO.eprintln failure
  return outcome.status.toUInt32
