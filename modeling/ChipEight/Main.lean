import ChipEight.Command.Lister
import ChipEight.Command.PlainLibrary
import ChipEight.Command.Runner
import ChipEight.Screen.Png

namespace ChipEight

/-! The commands on real files.  The first argument names the command. -/

/-- The number that a system gives to reading a directory as a file. -/
def directoryCode : UInt32 := 21

def readEntry (path : Path) : IO (List (String × Entry)) := do
  match ← (IO.FS.readBinFile path.text).toBaseIO with
  | .ok data => return [(path.text, .file (.bytes data.toList))]
  | .error (.inappropriateType _ code _) =>
      return if code = directoryCode then [(path.text, .folder)] else []
  | .error _ => return []

/-- What stands under the given names and on the way to them. -/
def readDirectory (texts : List String) : IO Directory := do
  let paths := texts.map Path.ofText
  let entries ← (paths.flatMap (·.way)).mapM readEntry
  return ⟨entries.flatten⟩

def writeContents (name : String) (contents : Contents) : IO Unit :=
  match contents with
  | .bytes data => IO.FS.writeBinFile name ⟨data.toArray⟩
  | .picture picture => IO.FS.writeBinFile name ⟨picture.png.toArray⟩

def usageOf (tool : Command.Tool) : String :=
  Command.plainLibrary.help tool.name tool.summary tool.allSwitches

def answerTo (tool : Command.Tool) (arguments : List String) : IO UInt32 := do
  let before ← readDirectory (tool.fileTexts Command.plainLibrary arguments)
  match tool.answer Command.plainLibrary arguments before with
  | .refused message =>
      let words := message.getD "The arguments do not make sense."
      (← IO.getStderr).putStr s!"{usageOf tool}\nError: {words}\n"
      return 2
  | .finished verdict stdout stderr after =>
      (after.changedSince before).forM fun (name, contents) => writeContents name contents
      (← IO.getStdout).putStr stdout
      (← IO.getStderr).putStr stderr
      return UInt32.ofNat verdict.code

/-- Leaves the arguments to the tool that the first of them names. -/
def answerAll (tools : List Command.Tool) (arguments : List String) : IO UInt32 := do
  match arguments with
  | [] =>
      (← IO.getStderr).putStr (String.join (tools.map usageOf))
      return 2
  | name :: rest =>
      match tools.find? (·.name == name) with
      | some tool => answerTo tool rest
      | none =>
          (← IO.getStderr).putStr s!"Unknown command: {name}\n"
          return 2

end ChipEight

def main (arguments : List String) : IO UInt32 :=
  ChipEight.answerAll [ChipEight.Command.runner, ChipEight.Command.lister] arguments
