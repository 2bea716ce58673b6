import MarkupCode.Command.Run

/-!
# The program

The outer layer of a run: it looks up what is on disk at the paths that the command line names, lets
the command run on that, and stores the files and folders that are new or changed.
-/

namespace MarkupCode.Program

def observe (t : FileTree) (p : Path) : IO FileTree := do
  let place := (← IO.currentDir) / String.ofList p.text
  if ← place.isDir then
    return ((t.makeFolder p).toOption).getD t
  else if ← place.pathExists then
    return ((t.writeFile p (← IO.FS.readBinFile place).toList).toOption).getD t
  else
    return t

def observeAll (t : FileTree) (p : Path) : IO FileTree :=
  (List.range (p.names.length + 1)).foldlM
    (fun t n => observe t { p with names := p.names.take n }) t

def store (before after : FileTree) : IO Unit := do
  let changed := after.items.filter fun e => before.item? e.1 ≠ some e.2
  for (l, i) in changed.mergeSort fun a b => a.1.length ≤ b.1.length do
    let place := "/" ++ String.ofList (['/'].intercalate l.reverse)
    match i with
    | .folder => IO.FS.createDir place
    | .file content => IO.FS.writeBinFile place ⟨content.toArray⟩

partial def readToEnd (stream : IO.FS.Stream) (soFar : ByteArray) : IO ByteArray := do
  let more ← stream.read 65536
  if more.isEmpty then return soFar else readToEnd stream (soFar ++ more)

def perform (request : Request) : IO Report := do
  let names := (← IO.currentDir).components.filter (· ≠ "")
  let bare := FileTree.bare (names.map String.toList).reverse
  let before ← request.paths.foldlM observeAll bare
  let standardInput ←
    if request.readsStandardInput then
      pure (← readToEnd (← IO.getStdin) .empty).toList
    else pure []
  let report := request.perform before standardInput
  store before report.tree
  return report

end MarkupCode.Program

open MarkupCode

def main (arguments : List String) : IO UInt32 := do
  match Request.ofArguments (arguments.map String.toList) with
  | .error e =>
    IO.eprint (String.ofList e.message)
    return (Ending.refusal e).exitCode.toUInt32
  | .ok request =>
    let report ← Program.perform request
    IO.print (String.ofList report.output)
    IO.eprint (String.ofList report.warnings)
    if let .failure e := report.ending then IO.eprintln e.message
    return report.ending.exitCode.toUInt32
