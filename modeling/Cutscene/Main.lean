import Cutscene.Console.LineReader
import Cutscene.Console.Program
import Cutscene.Store.FileStore
import Std.Time.DateTime.Timestamp

/-!
# The console as a program

The program reads its settings from the environment and requests from the standard input, keeps
records on the disk, and writes what there is to say to the standard output. What it does with
all this is said elsewhere; here are the input and the output alone.
-/

namespace Cutscene

namespace Program

/-! ### The disk -/

/-- The cause for which an operation was refused. -/
def cause : IO.Error → DiskError
  | .noFileOrDirectory .. => .notFound
  | e => .other (toString e)

/-- The outcome of an operation. -/
def attempt {α : Type} (operation : IO α) : IO (Except DiskError α) := do
  try return .ok (← operation)
  catch e => return .error (cause e)

/-- Carries out a step on the way to a saved record. -/
def runStep (root : String) : SaveStep → IO Unit
  | .create => IO.FS.createDirAll root
  | .write name bytes => IO.FS.writeBinFile (Path.join root name) bytes
  | .rename source target => IO.FS.rename (Path.join root source) (Path.join root target)

/-- Carries out steps until one is refused. -/
def runSteps (root : String) : List SaveStep → IO (Except StoreFault Unit)
  | [] => return .ok ()
  | step :: rest => do
    match ← attempt (runStep root step) with
    | .ok () => runSteps root rest
    | .error cause => return .error (step.refusal root cause)

/-- The store in a directory on the disk. -/
def store (files : FileStore) : Store IO where
  load ns := do
    let content ← attempt (IO.FS.readBinFile (files.recordPath ns))
    return (files.interpret ns content).mapError StoreFault.toFault
  save ns p := do
    return (← runSteps files.root (FileStore.saveSteps ns p)).mapError StoreFault.toFault

/-- What is told of bytes that are no text. -/
def noText : String := "stream did not contain valid UTF-8"

/-- The text of a file. -/
def readText (path : String) : IO (Except DiskError String) := do
  match ← attempt (IO.FS.readBinFile path) with
  | .ok bytes => return (String.fromUTF8? bytes).elim (.error (.other noText)) .ok
  | .error cause => return .error cause

/-! ### Time and chance -/

/-- The time of day. -/
def now : IO Instant := do
  return .ofMillis (← Std.Time.Timestamp.now).toMillisecondsSinceUnixEpoch.val

/-- Identifiers that nobody else gives out. -/
def identities : IO Identities := do
  return .ofRandom ((← IO.getRandomBytes 48).toList.foldl (fun n byte => n * 256 + byte.toNat) 0)

/-! ### The loop -/

/-- The next line of the input, if there is one. -/
partial def nextLine (input : IO.FS.Stream) (r : LineReader) : IO (Option (List UInt8)) := do
  match (← input.read 1).toList with
  | byte :: _ =>
    match r.push byte with
    | (_, some line) => return some line
    | (r, none) => nextLine input r
  | [] => return r.close

/-- How long to wait before looking again for input and for what time brings, in
milliseconds. -/
def pause : UInt32 := 2

/-- How many messages time may bring before the input is looked at again. -/
def patience : Nat := 1000

/-- Writes what there is to say. -/
def say (output : IO.FS.Stream) (outputs : List Output) : IO Unit := do
  for out in outputs do
    output.putStrLn out.line
  output.flush

/-- Answers the input and what time brings until the input ends. -/
partial def serve (h : Host Stage) (store : Store IO) (begun : Nat)
    (input output : IO.FS.Stream) (line : Task (Except IO.Error (Option (List UInt8))))
    (c : Console) : IO Unit := do
  let c := { c with director.stage.time := ← now }
  let (said, c) ← c.advanceTo h store ((← IO.monoMsNow) - begun) patience
  say output said
  if ← IO.hasFinished line then
    match ← IO.ofExcept line.get with
    | some bytes =>
      match LineReader.text? bytes with
      | some text =>
        let (said, c) ← c.handle h store (.line text)
        say output said
        serve h store begun input output (← IO.asTask (nextLine input {})) c
      | none => throw (IO.userError noText)
    | none =>
      let (said, _) ← c.close store
      say output said
  else
    IO.sleep pause
    serve h store begun input output line c

/-- Starts a console with the settings, if it can be started, and serves it. -/
def run : IO (Except ConsoleFault Unit) := do
  let names := [Settings.catalogVariable, Settings.storeVariable, Settings.userVariable]
  let values ← names.mapM fun name => return (name, ← IO.getEnv name)
  match Settings.ofVariables fun name => (values.lookup name).join with
  | .error fault => return .error fault
  | .ok settings =>
    match Catalog.ofFile settings.catalog (← readText settings.catalog) with
    | .error fault => return .error (.catalog fault)
    | .ok report =>
      let errors ← IO.getStderr
      for note in report.notes do
        errors.putStrLn note.message
      let h := Stage.host (← identities)
      let store := store ⟨settings.storeDir⟩
      let c ← Console.prepare h store (← now) settings report
      let input ← IO.getStdin
      serve h store (← IO.monoMsNow) input (← IO.getStdout) (← IO.asTask (nextLine input {})) c
      return .ok ()

end Program

end Cutscene

/-- Runs the console. Its exit code tells whether the input was served to its end. -/
def main : IO UInt32 := do
  let errors ← IO.getStderr
  try
    match ← Cutscene.Program.run with
    | .ok () => return 0
    | .error fault =>
      errors.putStrLn fault.message
      return 1
  catch e =>
    errors.putStrLn (Cutscene.ConsoleFault.io (toString e)).message
    return 1
