import PluginBuild.Proofs.Build.Action
import PluginBuild.Proofs.Files.Target
import PluginBuild.Shell.Programs
import PluginBuild.Tools.External
/-!
# The directory that a tool runs in

A tool runs in the directory of the file that it is asked to write or read, and follows the relative
paths among its arguments from there; its caller follows them from its own directory. So absolute
paths lead to the same place for both, and relative ones in general do not
(`ToolCall.paths_lead`, `ToolCall.exists_astray`).
-/

namespace PluginBuild

open Files (Location Path Store)

/-- The store as a program sees it that runs in another directory. -/
def Files.Store.seenFrom (s : Store) (directory : Location) : Store :=
  { s with workingDirectory := directory }

namespace Files.Store

variable {s : Store} {p : Path} {directory : Location}

theorem target_seenFrom (s : Store) (directory : Location) (p : Path) :
    (s.seenFrom directory).target p =
      follow (if p.isAbsolute then [] else directory) p.segments := rfl

/-- An absolute path leads to the same place from every directory. -/
theorem locate_seenFrom_of_isAbsolute (h : p.isAbsolute = true) :
    (s.seenFrom directory).locate p = s.locate p := by
  have hstart : (s.seenFrom directory).start p = s.start p := by
    rw [start, start, if_pos h, if_pos h]
  have hwalk : ∀ (names : List String) (location : Location),
      (s.seenFrom directory).walk location names = s.walk location names := by
    intro names
    induction names with
    | nil => exact fun _ => rfl
    | cons name names ih =>
      intro location
      rw [walk, walk]
      simp only [ih]
      rfl
  rw [locate, locate, hstart, hwalk]

/-- From another directory a path leads to where it leads once it is joined to the path of that
directory. -/
theorem target_seenFrom_target (s : Store) (d p : Path) :
    (s.seenFrom (s.target d)).target p = s.target (d.join p) := by
  rw [target_seenFrom]
  cases h : p.isAbsolute with
  | true =>
    rw [if_pos rfl, Path.join, if_pos h, target, start, if_pos h]
  | false =>
    obtain ⟨habsolute, hfollow⟩ := d.exists_segments_join h
    rw [if_neg (by simp), target, target, hfollow, start, start, habsolute]

/-- From two directories a path that stays below where it starts leads to different places. -/
theorem target_seenFrom_eq_iff (h : p.StaysBelow) :
    (s.seenFrom directory).target p = s.target p ↔ directory = s.workingDirectory := by
  obtain ⟨hrelative, hstays⟩ := h
  obtain ⟨below, hbelow⟩ := Option.isSome_iff_exists.1 hstays
  have hfollow : ∀ start, follow start p.segments = start ++ below := by
    intro start
    simpa only [List.append_nil] using follow_of_descend? hbelow start
  rw [target_seenFrom, target, start, hrelative, if_neg (by simp), if_neg (by simp), hfollow,
    hfollow, List.append_cancel_right_eq]

end Files.Store

namespace Command

/-- The options that are followed by a path. -/
def pathOptions : List String := ["/OUT=", "/OUTPUT=", "/RESOURCE="]

/-- The path that an argument states after an option. -/
def optionPath? (argument : String) : Option Path :=
  pathOptions.findSome? fun option =>
    (Text.afterPiece? option.toList argument.toList).map fun rest => ⟨String.ofList rest⟩

/-- The paths that the arguments state: the first argument is one, and others follow options. -/
def paths (command : Command) : List Path :=
  match command.args with
  | [] => []
  | input :: options => ⟨input⟩ :: options.filterMap optionPath?

theorem optionPath?_append (option : String) (h : option ∈ pathOptions) (path : Path) :
    optionPath? (option ++ path.text) = some path := by
  simp only [pathOptions, List.mem_cons, List.not_mem_nil, or_false] at h
  rcases h with rfl | rfl | rfl <;>
    simp [optionPath?, pathOptions, Text.afterPiece?]

end Command

namespace ToolCall

/-- The command by which the program of a tool answers a call. -/
def command (program : Path) : ToolCall → Command
  | .disassemble module output => .disassemble program module output
  | .reassemble source output resource architecture =>
    .reassemble program source output resource architecture

/-- The paths that a call is about. -/
def paths : ToolCall → List Path
  | .disassemble module output => [module, output]
  | .reassemble source output resource _ => source :: output :: resource.toList

/-- The arguments state the paths that the call is about. -/
theorem paths_command (program : Path) (call : ToolCall) :
    (call.command program).paths = call.paths := by
  cases call with
  | disassemble module output =>
    have hout := Command.optionPath?_append "/OUT=" (by decide) output
    have hbar : Command.optionPath? "/NOBAR" = none := by decide
    simp [command, paths, Command.paths, Command.disassemble, hout, hbar]
  | reassemble source output resource architecture =>
    have hout := Command.optionPath?_append "/OUTPUT=" (by decide) output
    have hresource := Command.optionPath?_append "/RESOURCE=" (by decide)
    have hflags : ∀ flag ∈ ["/DLL", "/QUIET", "/X64", "/PE64"],
        Command.optionPath? flag = none := by decide
    simp only [List.forall_mem_cons] at hflags
    cases resource <;> cases architecture <;>
      simp [command, paths, Command.paths, Command.reassemble, hout, hresource, hflags]

end ToolCall

/-- A program runs in the directory to which the path of its directory leads. -/
theorem Shell.eq_target_of_directoryOf {files : Store} {command : Command} {directory : Location}
    (h : Shell.directoryOf files command = .ok directory) :
    directory = files.target (command.directory.getD ⟨""⟩) := by
  unfold directoryOf at h
  split at h
  next hnone =>
    rw [hnone]
    exact (Except.ok.inj h).symm
  next path hpath =>
    rw [hpath]
    rcases hfind : files.find path with _ | _ | _
    · simp [hfind, bind, Except.bind] at h
    · rw [hfind] at h
      exact Store.eq_target_of_locate h
    · simp [hfind, bind, Except.bind] at h

/-- A command of a tool that has succeeded has been run. -/
theorem ExternalTools.exists_output_of_gives {tools : ExternalTools} {cancelled : Bool}
    {tool : Tool} {command : Command} {files files' : Store} {u : Unit}
    (h : Gives (tools.runChecked cancelled tool command) files u files') :
    ∃ output, tools.programs files command = .ok (output, files') ∧ output.isSuccess = true := by
  simp only [runChecked, Command.run, Gives.bind_iff, Gives.ite_iff, Gives.throw_iff,
    Gives.pure_iff, Gives.query_iff, Gives.set_iff, false_and, exists_false, and_false, false_or,
    Bool.not_eq_true', Bool.not_eq_false] at h
  obtain ⟨_, _, ⟨-, _, _, ⟨hrun, rfl⟩, -, -, _, rfl, rfl, rfl⟩, hsuccess, -, rfl⟩ := h
  exact ⟨_, hrun, hsuccess⟩

namespace ToolCall

/-- A tool that has answered a call has run the command of the call with success. -/
theorem exists_output_of_gives {tools : ExternalTools} {cancelled : Bool} {call : ToolCall}
    {files files' : Store} {text : List Char}
    (h : Gives (tools.action cancelled call) files text files') :
    ∃ program output, tools.programs files (call.command program) = .ok (output, files') ∧
      output.isSuccess = true := by
  cases call with
  | disassemble module output =>
    simp only [ExternalTools.action, ExternalTools.disassemble, ExternalTools.locate,
      Gives.bind_iff, Gives.ite_iff, Gives.throw_iff, Gives.query_iff, Gives.get_iff,
      Gives.liftM_iff, false_and, exists_false, and_false, false_or] at h
    obtain ⟨program, _, ⟨_, _, ⟨rfl, rfl⟩, -, rfl⟩, _, _, ⟨rfl, rfl⟩, -, _, _, hrun, -, rfl⟩ := h
    exact ⟨program, ExternalTools.exists_output_of_gives hrun⟩
  | reassemble source output resource architecture =>
    simp only [ExternalTools.action, ExternalTools.reassemble, ExternalTools.locate,
      Gives.bind_iff, Gives.ite_iff, Gives.throw_iff, Gives.pure_iff, Gives.get_iff,
      Gives.liftM_iff, and_false, false_or] at h
    obtain ⟨_, _, ⟨program, _, ⟨_, _, ⟨rfl, rfl⟩, -, rfl⟩, _, _, hrun, _, _, ⟨rfl, rfl⟩, -, -, rfl⟩,
      -, rfl⟩ := h
    exact ⟨program, ExternalTools.exists_output_of_gives hrun⟩

/-- Where the paths lead that the arguments of a tool state, for the directory it runs in: to where
the caller finds them only if it joins them to the path of that directory. Absolute paths need no
joining, and for a relative one that stays below where it starts the two places differ as soon as
the two directories do. -/
theorem paths_lead {files : Store} {program : Path} {call : ToolCall} {directory : Location}
    (h : Shell.directoryOf files (call.command program) = .ok directory) :
    (call.command program).paths = call.paths ∧
      ∀ p ∈ call.paths,
        (files.seenFrom directory).target p =
            files.target (((call.command program).directory.getD ⟨""⟩).join p) ∧
          (p.isAbsolute = true → (files.seenFrom directory).locate p = files.locate p) ∧
          (p.StaysBelow →
            ((files.seenFrom directory).target p = files.target p ↔
              directory = files.workingDirectory)) := by
  refine ⟨paths_command program call, fun p _ =>
    ⟨?_, Store.locate_seenFrom_of_isAbsolute, Store.target_seenFrom_eq_iff⟩⟩
  rw [Shell.eq_target_of_directoryOf h]
  exact Store.target_seenFrom_target files _ p

/-- A directory of a project with a module in it, and one for what is made of the module. -/
def projectFiles : Store where
  workingDirectory := ["project"]
  nodes := [(["project"], .directory), (["project", "Sample.dll"], .file (.ofText []) false),
    (["work"], .directory)]

theorem paths_lead_projectFiles :
    let command : Command :=
      .disassemble ⟨"/usr/bin/ildasm"⟩ ⟨"Sample.dll"⟩ ⟨"/work/managed.il"⟩
    Shell.directoryOf projectFiles command = .ok ["work"] ∧
      command.paths = [⟨"Sample.dll"⟩, ⟨"/work/managed.il"⟩] ∧
      (projectFiles.seenFrom ["work"]).locate ⟨"/work/managed.il"⟩ =
        projectFiles.locate ⟨"/work/managed.il"⟩ ∧
      (projectFiles.seenFrom ["work"]).target ⟨"Sample.dll"⟩ =
        projectFiles.target ⟨"/work/Sample.dll"⟩ ∧
      (projectFiles.seenFrom ["work"]).target ⟨"Sample.dll"⟩ ≠
        projectFiles.target ⟨"Sample.dll"⟩ := by
  let call : ToolCall := .disassemble ⟨"Sample.dll"⟩ ⟨"/work/managed.il"⟩
  have hdirectory : Shell.directoryOf projectFiles (call.command ⟨"/usr/bin/ildasm"⟩) =
      .ok ["work"] := rfl
  obtain ⟨hpaths, hlead⟩ := paths_lead hdirectory
  have hjoin : ((call.command ⟨"/usr/bin/ildasm"⟩).directory.getD ⟨""⟩).join ⟨"Sample.dll"⟩ =
      ⟨"/work/Sample.dll"⟩ := by decide +kernel
  obtain ⟨htarget, -, hstays⟩ := hlead ⟨"Sample.dll"⟩ (by simp [call, paths])
  rw [hjoin] at htarget
  obtain ⟨-, hlocate, -⟩ := hlead ⟨"/work/managed.il"⟩ (by simp [call, paths])
  refine ⟨hdirectory, hpaths, hlocate (by decide), htarget, fun heq => ?_⟩
  exact absurd ((hstays (by decide)).1 heq) (by decide)

/-- A module that its caller finds by a relative path is missing where the disassembler looks for
it. -/
theorem exists_astray :
    let call : ToolCall := .disassemble ⟨"Sample.dll"⟩ ⟨"/work/managed.il"⟩
    Shell.directoryOf projectFiles (call.command ⟨"/usr/bin/ildasm"⟩) = .ok ["work"] ∧
      ⟨"Sample.dll"⟩ ∈ (call.command ⟨"/usr/bin/ildasm"⟩).paths ∧
      projectFiles.locate ⟨"Sample.dll"⟩ = .ok ["project", "Sample.dll"] ∧
      (projectFiles.seenFrom ["work"]).locate ⟨"Sample.dll"⟩ = .ok ["work", "Sample.dll"] ∧
      projectFiles.contains ⟨"Sample.dll"⟩ = true ∧
      (projectFiles.seenFrom ["work"]).contains ⟨"Sample.dll"⟩ = false :=
  ⟨rfl, by decide, rfl, rfl, rfl, rfl⟩

end ToolCall

end PluginBuild
