import OnlineJudge.Judger.TestLoop
import OnlineJudge.Sandbox.Commands

/-!
# Files as arguments

`Judger::Run` (`judger.hpp`) writes files into its containers, each as part of one argument of a
command, and Linux does not start a program with an argument of 131072 bytes or more.
-/

namespace OnlineJudge.Judger

open Sandbox Delivery List

def Job.writes : Job → Option (SandboxPath × Bytes)
  | .writeSource code => some (.source, code)
  | .writeExecutable content => some (.executable, content)
  | .writeInput _ input => some (.input, input)
  | _ => none

variable {content : Bytes} {path : SandboxPath} {job : Job} {σ : Type}

theorem program_of_writes (engine : Engine σ) (pool : Option SandboxConfig)
    (writes : job.writes = some (path, content)) :
    job.program engine pool = do return codeResult (← writeFile engine path content) := by
  cases job with
  | writeSource | writeExecutable | writeInput => cases writes; rfl
  | _ => cases writes

variable (request : JudgeTaskMessage)

def fileWrites (executable : Bytes) : List (SandboxPath × Bytes) :=
  (.source, request.code) :: (.executable, executable) ::
    request.testCases.map fun test => (.input, test.input)

def Job.WritesOf (job : Job) : Prop :=
  ∀ path content, job.writes = some (path, content) → (path, content) ∈ fileWrites request content

theorem Job.writesOf_of_writes_eq_none {request : JudgeTaskMessage} (nothing : job.writes = none) :
    job.WritesOf request := by
  intro path content writes
  rw [nothing] at writes
  cases writes

theorem allJobs_writesOf_judgeTests (tests : List TestCase)
    (given : ∀ test ∈ tests, ∃ item ∈ request.testCases, item.input = test.input)
    (position : Nat) (resp : JudgeResult) :
    AllJobs (Job.WritesOf request) (judgeTests request finishRun position tests resp) := by
  have quiet {job : Job} (nothing : job.writes = none) : job.WritesOf request :=
    Job.writesOf_of_writes_eq_none nothing
  induction tests generalizing position resp with
  | nil => exact allJobs_finishRun (quiet rfl) resp
  | cons test tests ih =>
    have later := ih fun other mem => given other (.tail _ mem)
    refine allJobs_await ?_ fun writeResult => ?_
    · intro path content writes
      cases writes
      obtain ⟨item, mem, same⟩ := given test mem_cons_self
      exact .tail _ (.tail _ (List.mem_map.mpr ⟨item, mem, by rw [same]⟩))
    split
    · exact allJobs_finishRun (quiet rfl) _
    refine allJobs_await (quiet rfl) fun runResult => ?_
    simp only
    split
    · exact later _ _
    split
    · exact later _ _
    · exact allJobs_await (quiet rfl) fun readResult => later _ _

theorem allJobs_writesOf_judgerRun :
    AllJobs (Job.WritesOf request) (judgerRun request (testsOf request)) := by
  have quiet {job : Job} (nothing : job.writes = none) : job.WritesOf request :=
    Job.writesOf_of_writes_eq_none nothing
  have given : ∀ test ∈ testsOf request, ∃ item ∈ request.testCases, item.input = test.input := by
    intro test mem
    obtain ⟨item, listed, rfl⟩ := List.mem_map.mp mem
    exact ⟨item, listed, rfl⟩
  have writesOf {job : Job} (prepares : job.Prepares request) : job.WritesOf request := by
    cases job with
    | writeSource code =>
      rintro path content ⟨⟩
      rw [show code = request.code from prepares]
      exact mem_cons_self
    | writeExecutable =>
      rintro path content ⟨⟩
      exact .tail _ mem_cons_self
    | writeInput => cases prepares
    | _ => exact quiet rfl
  have failed := allJobs_errorResult (Job.WritesOf request) .systemError
  exact judgerRun_induct failed (allJobs_compileFailed (quiet rfl) (quiet rfl))
    (fun prepares _ => allJobs_await (writesOf prepares))
    (runPhase_induct failed (fun prepares => allJobs_await (writesOf prepares))
      (allJobs_writesOf_judgeTests request _ given _ _))

theorem writes_of_judge (around : Surroundings σ) (pool : Option SandboxConfig)
    (request : JudgeTaskMessage) (world : σ) {record : JobRecord σ}
    (member : record ∈ (judge around pool request (testsOf request) world).records)
    (writes : record.job.writes = some (path, content)) :
    (path, content) ∈ fileWrites request content :=
  AllJobs.of_mem around pool (allJobs_writesOf_judgerRun request) member path content writes

def maxArgStrlen : Nat := 131072

def CommandFits (command : Command) : Prop :=
  ∀ argument ∈ command.cmd, argument.length < maxArgStrlen

theorem commandFits_writeFile_iff (path : SandboxPath) (content : Bytes) :
    CommandFits (.writeFile path content) ↔
      22 + path.text.length + 4 * ((content.length + 2) / 3) < 131072 := by
  have shell : (text "sh").length = 2 := by decide +kernel
  have option : (text "-c").length = 2 := by decide +kernel
  simp only [CommandFits, Command.cmd, forall_mem_cons, not_mem_nil, shell, option,
    length_text_writeFile, maxArgStrlen]
  simp

theorem commandFits_source_iff (code : Bytes) :
    CommandFits (.writeFile .source code) ↔ code.length ≤ 98268 := by
  have path : SandboxPath.source.text.length = 22 := by decide +kernel
  rw [commandFits_writeFile_iff, path]
  omega

theorem commandFits_executable_iff (executable : Bytes) :
    CommandFits (.writeFile .executable executable) ↔ executable.length ≤ 98274 := by
  have path : SandboxPath.executable.text.length = 16 := by decide +kernel
  rw [commandFits_writeFile_iff, path]
  omega

theorem commandFits_input_iff (input : Bytes) :
    CommandFits (.writeFile .input input) ↔ input.length ≤ 98271 := by
  have path : SandboxPath.input.text.length = 21 := by decide +kernel
  rw [commandFits_writeFile_iff, path]
  omega

/-- **The files of a valid task** can be written exactly if the executable and the inputs are small.
-/
theorem writes_fit_iff (request : JudgeTaskMessage) (valid : validJudgeTask request = true)
    (executable : Bytes) :
    (∀ write ∈ fileWrites request executable, CommandFits (.writeFile write.1 write.2)) ↔
      executable.length ≤ 98274 ∧ ∀ test ∈ request.testCases, test.input.length ≤ 98271 := by
  have small : request.code.length ≤ 98268 := by
    have := (bounds_of_validJudgeTask valid).code
    omega
  simp only [fileWrites, forall_mem_cons, forall_mem_map, commandFits_source_iff,
    commandFits_executable_iff, commandFits_input_iff, small, true_and]

def taskWithInput (input : Bytes) : JudgeTaskMessage where
  messageId := [109]
  target := some (.submission 1)
  userId := 1
  questionId := [49]
  code := [97]
  language := text "cpp"
  timeLimitMs := 1000
  memoryLimitMb := 64
  testCases := [{ input := input }]
  createdAt := 1

theorem validJudgeTask_taskWithInput {input : Bytes} (small : input.length ≤ 1048576) :
    validJudgeTask (taskWithInput input) = true := by
  have language : text "cpp" ≠ [] := by decide +kernel
  simp [validJudgeTask, taskWithInput, language, small]

theorem writes_fit_of_short_files :
    (SandboxPath.executable, [49]) ∈ fileWrites (taskWithInput [49]) [49] ∧
      CommandFits (.writeFile .executable [49]) :=
  have listed : (SandboxPath.executable, [49]) ∈ fileWrites (taskWithInput [49]) [49] := by
    simp [fileWrites]
  ⟨listed, (writes_fit_iff (taskWithInput [49]) (validJudgeTask_taskWithInput (by decide))
    [49]).mpr ⟨by decide, by simp [taskWithInput]⟩ _ listed⟩

/-- An input of 96 KiB is accepted, and cannot be written. -/
theorem long_input_does_not_fit :
    validJudgeTask (taskWithInput (List.replicate 98304 48)) = true ∧
      (SandboxPath.input, List.replicate 98304 48) ∈
        fileWrites (taskWithInput (List.replicate 98304 48)) [49] ∧
      ¬ CommandFits (.writeFile .input (List.replicate 98304 48)) := by
  refine ⟨validJudgeTask_taskWithInput ?_, .tail _ (.tail _ mem_cons_self), ?_⟩
  · rw [length_replicate]
    decide
  · rw [commandFits_input_iff, length_replicate]
    decide

end OnlineJudge.Judger
