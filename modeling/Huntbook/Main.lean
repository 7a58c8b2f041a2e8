import Huntbook.Command.Run

/-!
# The command line

The outer layer of the program: it reads the playbooks below the current folder, runs one command on
them, prints what the command printed and writes the files that it made.
-/

namespace Huntbook.Outside

open Folder

partial def readItems (path : String) : IO Items := do
  let place ← IO.FS.realPath path
  let entries := (← place.readDir).toList.mergeSort fun a b => a.fileName ≤ b.fileName
  entries.mapM fun entry => do
    if ← entry.path.isDir then
      return (entry.fileName, .folder (← readItems (path ++ "/" ++ entry.fileName)))
    else return (entry.fileName, .file (← IO.FS.readBinFile entry.path))

def readTree : IO Tree := do
  let root := toString (← IO.currentDir)
  if h : Path.IsFull root then
    let around := (Path.partsOf root).foldr fun name items => [(name, Item.folder items)]
    try return ⟨root, around [("playbooks", .folder (← readItems "playbooks"))], h⟩
    catch _ => return ⟨root, around [], h⟩
  else throw (.userError s!"no full path: {root}")

def writeTree (before after : Tree) : IO Unit := do
  for (names, item) in after.below Path.base do
    match item, before.at? (Path.names before.root ⟨.base, names⟩) with
    | .file data, some (.file old) =>
      if data != old then IO.FS.writeBinFile ("/".intercalate names) data
    | .file data, _ =>
      if names.length > 1 then IO.FS.createDirAll ("/".intercalate names.dropLast)
      IO.FS.writeBinFile ("/".intercalate names) data
    | .folder _, none => IO.FS.createDirAll ("/".intercalate names)
    | .folder _, some _ => pure ()

def readEnvironment : IO Environment := do
  let names := ["AI_PROVIDER", "GROQ_API_KEY", "OPENAI_API_KEY", "GROQ_MODEL", "OPENAI_MODEL"]
  let vars ← names.filterMapM fun name => do return (← IO.getEnv name).map (name, ·)
  return ⟨vars⟩

partial def readLines (input : IO.FS.Stream) : IO Texts := do
  let line ← input.getLine
  if line.isEmpty then return []
  return String.ofList (Text.dropEndWhile (· == '\n') line.toList) :: (← readLines input)

def readSession (args : Texts) : IO Chat.Session := do
  let lines ← if args.head? == some "ai" then readLines (← IO.getStdin) else pure []
  return {
    replies := lines.map fun line => .content (some line)
    refusing := false
    missing := false
    advising := false
    log := [] }

end Huntbook.Outside

open Huntbook in
def main (args : List String) : IO UInt32 := do
  let tree ← Outside.readTree
  let books := Folder.Path.base.join "playbooks/techniques"
  match Command.Shell.start tree books (← Outside.readEnvironment)
      (← Outside.readSession args) with
  | .error f =>
    IO.eprintln f.message
    return 1
  | .ok shell =>
    let (outcome, after) := shell.run args
    match outcome.lines with
    | some lines => lines.forM IO.println
    | none => Command.helpLines.forM IO.eprintln
    Outside.writeTree tree after.tree
    return outcome.code.toUInt32
