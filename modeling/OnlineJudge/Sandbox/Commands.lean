import OnlineJudge.Sandbox.Base64
import OnlineJudge.Sandbox.Docker

/-!
# The arguments of the commands

`Exec` (`docker_sandbox.hpp`) gives a command to Docker as the arguments `sh`, `-c` and its text; a
file is written by a command that holds its content in Base64.
-/

namespace OnlineJudge.Sandbox

def SandboxPath.text : SandboxPath → Bytes
  | .source => OnlineJudge.text "/home/judge/source.cpp"
  | .executable => OnlineJudge.text "/home/judge/main"
  | .compileErr => OnlineJudge.text "/home/judge/compile_err"
  | .input => OnlineJudge.text "/home/judge/input.txt"
  | .output => OnlineJudge.text "/home/judge/output.txt"

def Command.text : Command → Bytes
  | .writeFile path content =>
    OnlineJudge.text "echo '" ++ base64Encode content ++
      OnlineJudge.text "' | base64 -d > " ++ path.text
  | .cat path => OnlineJudge.text "cat " ++ path.text
  | .compile standard =>
    OnlineJudge.text "CXX_STANDARD=" ++ OnlineJudge.text standard ++
      OnlineJudge.text " /judge/compile.sh"
  | .chmod => OnlineJudge.text "chmod +x /home/judge/main"
  | .run timeLimit memLimitKb =>
    OnlineJudge.text "TIME_LIMIT=" ++ decimalInt timeLimit ++
      OnlineJudge.text " MEM_LIMIT=" ++ decimalInt memLimitKb ++
      OnlineJudge.text " OUTPUT_LIMIT_KB=1024 /judge/run.sh"
  | .memoryPeak => OnlineJudge.text "cat /sys/fs/cgroup/memory.peak"

def Command.cmd (command : Command) : List Bytes :=
  [OnlineJudge.text "sh", OnlineJudge.text "-c", command.text]

theorem length_text_writeFile (path : SandboxPath) (content : Bytes) :
    (Command.writeFile path content).text.length =
      22 + path.text.length + 4 * ((content.length + 2) / 3) := by
  have opening : (OnlineJudge.text "echo '").length = 6 := by decide +kernel
  have closing : (OnlineJudge.text "' | base64 -d > ").length = 16 := by decide +kernel
  simp only [Command.text, List.length_append, length_base64Encode, opening, closing]
  omega

end OnlineJudge.Sandbox
