import SceneRender.Render.Quality
import SceneRender.Schema.Form
import SceneRender.Json.Value

/-!
# Isolation of the renderer

Whether a scene is rendered inside a container or directly on the host, how the
container is locked down, and the arguments that start it: one run, a name, limits
on processors, memory and processes, a small temporary file system, no
capabilities, and exactly two writable mounts.
-/

namespace SceneRender

open SceneRender.Schema

/-! ## Render mode -/

/-- Where scenes are rendered. -/
inductive RenderMode where
  | docker
  | host
  deriving DecidableEq, Repr, Inhabited

namespace RenderMode

/-- All modes. -/
def all : List RenderMode := [docker, host]

/-- The name of a mode. -/
def name : RenderMode → String
  | docker => "docker"
  | host => "local"

/-- The command that renders in a mode unless another one is set. -/
def defaultCommand : RenderMode → String
  | docker => "docker"
  | host => "manim"

/-- The mode of a name. -/
def ofName? (name : String) : Option RenderMode := all.find? (·.name == name)

/-- The wording for a name that no mode has. -/
def unknownMessage (name : String) : String :=
  "Invalid render mode '" ++ name ++ "'. Valid values: " ++
    ", ".intercalate (all.map RenderMode.name)

end RenderMode

/-! ## Limits of the container -/

/-- The limits of the container. -/
structure Isolation where
  image : String
  cpus : String
  memory : String
  pidsLimit : Nat
  tmpfsSize : String
  readOnly : Bool
  networkDisabled : Bool
  noNewPrivileges : Bool
  seccompProfile : Option String
  deriving DecidableEq, Repr

namespace Isolation

/-- The limits unless others are set. -/
def default : Isolation where
  image := "manim-ai-renderer:latest"
  cpus := "1.0"
  memory := "1g"
  pidsLimit := 256
  tmpfsSize := "256m"
  readOnly := true
  networkDisabled := true
  noNewPrivileges := true
  seccompProfile := none

instance : Inhabited Isolation := ⟨default⟩

/-- The form in which the limits are written. -/
def form : Form Isolation where
  name := "SandboxConfig"
  fields := [
    ⟨"image", false, .string fun s i => { i with image := s }⟩,
    ⟨"cpus", false, .string fun s i => { i with cpus := s }⟩,
    ⟨"memory", false, .string fun s i => { i with memory := s }⟩,
    ⟨"pids_limit", false, .u32 fun n i => { i with pidsLimit := n }⟩,
    ⟨"tmpfs_size", false, .string fun s i => { i with tmpfsSize := s }⟩,
    ⟨"read_only", false, .flag fun b i => { i with readOnly := b }⟩,
    ⟨"network_disabled", false, .flag fun b i => { i with networkDisabled := b }⟩,
    ⟨"no_new_privileges", false, .flag fun b i => { i with noNewPrivileges := b }⟩,
    ⟨"seccomp_profile", false, .path? fun s i => { i with seccompProfile := some s }⟩]

end Isolation

/-- The file that holds the scene. -/
def sceneFile : String := "scene.py"

/-- The class that is rendered. -/
def sceneClass : String := "GeneratedScene"

/-- The arguments of a run in a container.  A profile for system calls is named
only if its file is there. -/
def containerArguments (isolation : Isolation) (fileExists : String → Bool)
    (container workspace output : String) (quality : Quality) : List String :=
  ["run", "--rm", "--name", container,
    "--cpus", isolation.cpus,
    "--memory", isolation.memory,
    "--pids-limit", toString isolation.pidsLimit,
    "--tmpfs", "/tmp:size=" ++ isolation.tmpfsSize,
    "--cap-drop", "ALL",
    "-v", workspace ++ ":/workspace:rw",
    "-v", output ++ ":/output:rw"] ++
  (if isolation.networkDisabled then ["--network", "none"] else []) ++
  (if isolation.readOnly then ["--read-only"] else []) ++
  (if isolation.noNewPrivileges then ["--security-opt", "no-new-privileges"] else []) ++
  (match isolation.seccompProfile with
    | some profile =>
      if fileExists profile then ["--security-opt", "seccomp=" ++ profile] else []
    | none => []) ++
  [isolation.image, "/entrypoint.sh", sceneFile, sceneClass, quality.name]

end SceneRender
