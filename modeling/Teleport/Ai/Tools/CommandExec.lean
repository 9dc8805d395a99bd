import Mathlib.Logic.Basic
import Mathlib.Tactic.SplitIfs

/-!
# The command execution tool's input

When the model plans the command execution tool, `CommandExecutionTool.ParseInput` reads its
JSON with `modeloutput.ParseJSONFromModel` and hands the command to the user only if it names a
command and at least one node or label. The JSON reader is outside this package and is a
parameter. `parseInput_ok_iff` says which inputs pass; `parseInput_error` that every error is the
reader's, or names the first of the two checks that failed.
-/

namespace Teleport.Ai.Tools

/-- A label of `modeloutput.CompletionCommand`. -/
structure Label where
  key : String
  value : String
deriving DecidableEq, Repr

/-- `modeloutput.CompletionCommand`. -/
structure CompletionCommand where
  command : String
  nodes : List String
  labels : List Label
deriving DecidableEq, Repr

/-- An error `ParseInput` returns: the JSON reader's, or
`modeloutput.NewInvalidOutputError(coarse, detail)`. -/
inductive ParseError where
  | json (message : String)
  | invalidOutput (coarse detail : String)
deriving DecidableEq, Repr

namespace CommandExecutionTool

/-- `ParseInput`, with `ParseJSONFromModel[modeloutput.CompletionCommand]` as
`parseJSONFromModel`. -/
def parseInput (parseJSONFromModel : String → Except ParseError CompletionCommand)
    (input : String) : Except ParseError CompletionCommand :=
  match parseJSONFromModel input with
  | .error err => .error err
  | .ok output =>
    if output.command = "" then
      .error (.invalidOutput "command execution: missing command" "command must be non-empty")
    else if output.nodes.length = 0 ∧ output.labels.length = 0 then
      .error (.invalidOutput "command execution: missing nodes or labels"
        "at least one node or label must be specified")
    else .ok output

variable (parseJSONFromModel : String → Except ParseError CompletionCommand) (input : String)

/-- `ParseInput` passes on the command read exactly when it is non-empty and names a node or a
label. -/
theorem parseInput_ok_iff (output : CompletionCommand) :
    parseInput parseJSONFromModel input = .ok output ↔
      parseJSONFromModel input = .ok output ∧ output.command ≠ "" ∧
        (output.nodes ≠ [] ∨ output.labels ≠ []) := by
  unfold parseInput
  split
  · next err h => simp [h]
  · next read h =>
    simp only [h, Except.ok.injEq]
    split_ifs with hc hn
    · simp only [reduceCtorEq, false_iff]; rintro ⟨rfl, hc', -⟩; exact hc' hc
    · simp only [reduceCtorEq, false_iff]
      rintro ⟨rfl, -, hn' | hn'⟩
      · exact hn' (List.length_eq_zero.mp hn.1)
      · exact hn' (List.length_eq_zero.mp hn.2)
    · simp only [Except.ok.injEq]
      constructor
      · rintro rfl
        exact ⟨rfl, hc, by simpa only [List.length_eq_zero, not_and_or] using hn⟩
      · exact And.left

/-- An error of `ParseInput` is the JSON reader's, or names the first check the command read
fails: an empty command, then no node and no label. -/
theorem parseInput_error (err : ParseError) (h : parseInput parseJSONFromModel input = .error err) :
    parseJSONFromModel input = .error err ∨ ∃ output, parseJSONFromModel input = .ok output ∧
      (output.command = "" ∧
          err = .invalidOutput "command execution: missing command" "command must be non-empty" ∨
        output.command ≠ "" ∧ output.nodes = [] ∧ output.labels = [] ∧
          err = .invalidOutput "command execution: missing nodes or labels"
            "at least one node or label must be specified") := by
  unfold parseInput at h
  split at h
  · next e he => cases h; exact .inl he
  · next output he =>
    refine .inr ⟨output, he, ?_⟩
    split_ifs at h with hc hn
    · cases h; exact .inl ⟨hc, rfl⟩
    · cases h; exact .inr ⟨hc, List.length_eq_zero.mp hn.1, List.length_eq_zero.mp hn.2, rfl⟩

theorem parseInput_without_targets :
    let read : String → Except ParseError CompletionCommand := fun _ => .ok ⟨"uptime", [], []⟩
    let err := ParseError.invalidOutput "command execution: missing nodes or labels"
      "at least one node or label must be specified"
    parseInput read "" = .error err ∧
      (read "" = .error err ∨ ∃ output, read "" = .ok output ∧
        (output.command = "" ∧
            err = .invalidOutput "command execution: missing command" "command must be non-empty" ∨
          output.command ≠ "" ∧ output.nodes = [] ∧ output.labels = [] ∧
            err = .invalidOutput "command execution: missing nodes or labels"
              "at least one node or label must be specified")) :=
  ⟨rfl, parseInput_error (fun _ => .ok ⟨"uptime", [], []⟩) "" _ rfl⟩

end CommandExecutionTool

end Teleport.Ai.Tools
