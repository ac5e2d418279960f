import DeviceRig.Process.Shell.Evaluation
import DeviceRig.Process.Tool.Files
import DeviceRig.Process.Tool.Launch
import DeviceRig.Process.Tool.Search
import DeviceRig.Process.Tool.Text

/-!
The tools that every system has, by their names, and the files that they are run from.
-/
namespace DeviceRig.Shell.Tool

open Script

def plain (run : List ByteText → Script Nat) : Tool := fun _ arguments => run arguments

def all : List (String × Tool) :=
  [("[", plain fun arguments => Builtin.test ['['] arguments),
    ("arch", answering "x86_64"),
    ("basename", plain showBaseName),
    ("bash", shell),
    ("cat", plain concatenate),
    ("chmod", plain changeMode),
    ("cp", plain (bring "cp" false)),
    ("cut", plain cutLines),
    ("dash", shell),
    ("dirname", plain showDirectoryName),
    ("echo", echo),
    ("egrep", plain (searchLines "grep" true false)),
    ("env", runInEnvironment),
    ("expr", plain evaluateWords),
    ("false", plain fun _ => return 1),
    ("fgrep", plain (searchLines "grep" false true)),
    ("fold", plain foldLines),
    ("grep", plain (searchLines "grep" false false)),
    ("head", plain firstPart),
    ("hostname", answering "localhost"),
    ("id", identity),
    ("kill", ofBuiltin Jobs.kill),
    ("ln", plain link),
    ("logname", answering "root"),
    ("ls", plain list),
    ("mkdir", plain makeDirectories),
    ("mktemp", plain makeTemporary),
    ("mv", plain (bring "mv" true)),
    ("nice", fun runner arguments => turnInto "nice" runner
      (match arguments with
        | ['-', 'n'] :: _ :: rest => rest
        | _ => arguments)),
    ("nl", plain numberLines),
    ("nohup", fun runner arguments => do
      modifyProcess fun process =>
        { process with unreachable := Signal.hangUp :: process.unreachable }
      turnInto "nohup" runner arguments),
    ("nproc", answering "1"),
    ("paste", plain pasteLines),
    ("printenv", printEnvironment),
    ("printf", printFormat),
    ("pwd", plain fun _ => Builtin.printDirectory [['-', 'P']]),
    ("readlink", plain (showTargets "readlink" false)),
    ("realpath", plain (showTargets "realpath" true)),
    ("rev", plain reverseLines),
    ("rm", plain remove),
    ("rmdir", plain removeDirectories),
    ("sed", plain editStream),
    ("seq", plain sequence),
    ("setsid", fun runner arguments => turnInto "setsid" runner arguments),
    ("sh", shell),
    ("sleep", sleep),
    ("sort", plain sortLines),
    ("sync", plain fun _ => return 0),
    ("tac", plain reverseOrder),
    ("tail", plain lastPart),
    ("tee", plain copyToFiles),
    ("test", plain (Builtin.test "test".toList)),
    ("timeout", runForTime),
    ("touch", plain touch),
    ("tr", plain translate),
    ("true", plain fun _ => return 0),
    ("tty", fun _ _ => do
      sayLine "not a tty"
      return 1),
    ("uname", systemName),
    ("uniq", plain uniqueLines),
    ("wc", plain count),
    ("which", locatePrograms),
    ("whoami", answering "root"),
    ("xargs", runWithArguments),
    ("yes", plain repeatText)]

def directory : String := "/usr/bin"

def install (files : FileTree) : FileTree :=
  let files := (files.makeDirectory directory).toOption.getD files
  let location := FileTree.names directory
  if files.isDirectory directory then
    let entries := all.map fun (name, _) =>
      (location ++ [name], (⟨.regular toolImage, 0, 0o755⟩ : FileEntry))
    { files with entries := files.entries ++ entries }
  else files

end DeviceRig.Shell.Tool
