import SceneRender.Generation.Assistant
import SceneRender.Service.Machine
import SceneRender.Service.Setup

/-!
# The service at work

A plan of the service is run in the studio by asking the machine: jobs get their
ids by lot and their times from the clock, scenes are rendered by the renderer,
and code is repaired and written by the language model.
-/

namespace SceneRender

/-- A crew that only knows an id and the time; it has nothing else to say. -/
def Crew.silent (id : String) (now : Timestamp) : Crew where
  freshId := fun _ => id
  now := fun _ => now
  storeFailure := fun _ _ => none
  render := fun _ _ _ _ => .timeout
  repair := fun _ code _ => code
  complete := fun _ _ => .error .emptyResponse

/-- The letters of random names. -/
def markLetters : List Char :=
  "ABCDEFGHIJKLMNOPQRSTUVWXYZabcdefghijklmnopqrstuvwxyz0123456789".toList

/-- A number in a given count of letters. -/
def letterMark : Nat → Nat → String
  | 0, _ => ""
  | count + 1, n =>
    let letter := (markLetters[n % markLetters.length]?).getD 'A'
    String.singleton letter ++ letterMark count (n / markLetters.length)

/-- A number below 2³² in eight hexadecimal digits. -/
def hexMark (n : Nat) : String :=
  let digits := Nat.toDigits 16 n
  String.ofList (List.replicate (8 - digits.length) '0' ++ digits)

/-- Draws the marks of a render. -/
def RenderMarks.draw : MachinePlan RenderMarks := do
  let scratch ← MachinePlan.draw (Nat.pow 62 6)
  let container ← MachinePlan.draw (Nat.pow 2 32)
  let video ← MachinePlan.draw (Nat.pow 2 32)
  return ⟨letterMark 6 scratch, hexMark container, hexMark video⟩

namespace Service

/-- A plan that works in the studio. -/
abbrev StudioWork := StateT Studio MachinePlan

/-- Renders a scene. -/
def render (service : Service) (id code : String) (quality : Quality) :
    StudioWork RenderOutcome := fun studio => do
  let marks ← RenderMarks.draw
  let (outcome, disk) ← MachinePlan.ofLaunches
    (service.renderer.render marks id code quality studio.disk)
  let rendered := (id, code, quality) :: studio.record.rendered
  return (outcome, { studio with disk, record.rendered := rendered })

/-- Replies to a question of the service. -/
def reply (service : Service) : (q : ServiceQuestion) → StudioWork q.Reply
  | .createJob => do
    let id := Job.idOfBits (← MachinePlan.draw Job.idBound)
    let now ← MachinePlan.time
    modifyGet fun studio => studio.createJob (Crew.silent id now)
  | .updateJob id update => do
    let now ← MachinePlan.time
    modifyGet fun studio => studio.updateJob (Crew.silent "" now) id update
  | .render id code quality => service.render id code quality
  | .repair code diagnostic => do
    let exchange := service.model.complete (repairPrompt code diagnostic) (some .careful)
    return Assistant.changed code (← MachinePlan.ofExchange exchange)
  | .complete prompt temperature =>
    MachinePlan.ofExchange (service.model.complete prompt (some temperature))
  | q => modifyGet (Studio.reply (Crew.silent "" .epoch) q)

/-- Runs a plan of the service. -/
def run {α : Type} (service : Service) (plan : ServicePlan α) : StudioWork α :=
  plan.runIn service.reply

end Service

end SceneRender
