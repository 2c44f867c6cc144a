import SlotCompiler.CommandLine

namespace SlotCompiler.Main

def treeFor (paths : List Path) : FileTree :=
  let ups := (paths.flatMap (·.names)).count (".." : Text)
  let empty := FileTree.empty (List.replicate (ups + 1) "d")
  paths.foldl (fun t p =>
    (t.makeWay (if p.anchor == .relative then t.here else []) p.names.dropLast).1) empty

-- A file that cannot be read is missing from the tree.
def load (path : Path) (t : FileTree) : IO FileTree := do
  try
    let bytes ← IO.FS.readBinFile path.text.asString
    return (t.write path bytes.toList).toOption.getD t
  catch _ => return t

def missingTools : Toolchain := ⟨fun _ _ => .missing⟩

def save (path : Path) (before after : FileTree) : IO Unit := do
  match after.read path with
  | .ok bytes =>
    if (before.read path).toOption != some bytes then
      IO.FS.writeBinFile path.text.asString (ByteArray.mk bytes.toArray)
  | .error _ => return ()

def run (argv : List Text) : IO UInt32 := do
  let paths := match CommandLine.Settings.ofArguments argv with
    | .ok (input, s) =>
      let path := Path.ofText input
      some (path, Build.targets path s.options.output)
    | .error _ => none
  let tree ← match paths with
    | some (input, .ok t) => load input (treeFor [input, t.assembly])
    | some (input, .error _) => load input (treeFor [input])
    | none => pure (treeFor [])
  let r := commandLine {} tree missingTools argv
  IO.print r.stdout.asString
  IO.eprint r.stderr.asString
  if let some (_, .ok t) := paths then save t.assembly tree r.files
  match r.exit with
  | .ok code => return UInt32.ofNat code
  | .error fault =>
    IO.eprintln fault.message.asString
    return 1

end SlotCompiler.Main

def main (argv : List String) : IO UInt32 :=
  SlotCompiler.Main.run (argv.map SlotCompiler.Text.ofString)
