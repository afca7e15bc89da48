import SceneRender.Generation.Exchange
import SceneRender.Job.Timestamp
import SceneRender.Render.Launch

/-!
# The machine

What the program asks of the machine that it runs on: random numbers, the time,
the start of other programs, the exchange of messages with language models, and a
socket on which to listen.  Files are no question: the disk is passed along.
-/

namespace SceneRender

/-- A question to the machine. -/
inductive MachineQuestion where
  /-- Draw a number below a bound. -/
  | draw (bound : Nat)
  /-- What time is it? -/
  | time
  /-- Start a program. -/
  | launch (launch : Launch) (d : Disk)
  /-- Send a request to a language model. -/
  | send (request : ModelRequest)
  /-- Listen on a port of an address. -/
  | listen (host : String) (port : Nat)

/-- What the machine replies. -/
def MachineQuestion.Reply : MachineQuestion → Type
  | draw _ => Nat
  | time => Timestamp
  | launch _ _ => LaunchReply × Disk
  | send _ => Option ModelReply
  | listen _ _ => Except String Unit

/-- The vocabulary of the machine. -/
def machineVocabulary : Vocabulary := ⟨MachineQuestion, MachineQuestion.Reply⟩

/-- A plan that asks the machine. -/
abbrev MachinePlan := Plan machineVocabulary

namespace MachinePlan

/-- Draws a number below a bound. -/
def draw (bound : Nat) : MachinePlan Nat :=
  Plan.question (V := machineVocabulary) (.draw bound)

/-- Asks for the time. -/
def time : MachinePlan Timestamp := Plan.question (V := machineVocabulary) .time

/-- Listens on a port of an address. -/
def listen (host : String) (port : Nat) : MachinePlan (Except String Unit) :=
  Plan.question (V := machineVocabulary) (.listen host port)

/-- Has the machine start the programs of a plan. -/
def ofLaunches {α : Type} (plan : LaunchPlan α) : MachinePlan α :=
  plan.runIn (V := launchVocabulary) fun q =>
    Plan.question (V := machineVocabulary) (.launch q.1 q.2)

/-- Has the machine send the requests of an exchange. -/
def ofExchange (exchange : Exchange) : MachinePlan (Except ModelFault String) :=
  exchange.runIn (V := exchangeVocabulary) fun request =>
    Plan.question (V := machineVocabulary) (.send request)

end MachinePlan

end SceneRender
