import Chip8.Pacer.Cycle

/-!
# Commands and runs

Everything that a host can ask of a pacer is a command.  A run performs
commands one after another and collects what they bring.
-/

namespace Chip8

/-- Something that a host asks of a pacer. -/
inductive Command where
  | pulse
  | step
  | pause
  | resume
  | changeSpeed (speed : Speed)
  | changeCapture (capture : Bool)
  | forget
deriving DecidableEq, Repr

namespace Pacer

variable {σ ε : Type}

/-- Pause after a failure and tell the host about it. -/
def halt (machine : Machine σ ε) (pacer : Pacer σ) (cycles : Nat)
    (cause : ε) (events : List Event) : Outcome σ ε where
  reply := .failed ⟨cycles, cause⟩
  pacer := pacer.withMode .paused
  events := events ++ [.machineFailed cycles (machine.describe cause)]

/-! ## Pulses and steps -/

/-- Execute the cycles of a running pulse. -/
def runningPulse (machine : Machine σ ε) (pacer : Pacer σ) :
    Outcome σ ε :=
  let planned := pacer.pulseCycles
  let progress := executeCycles machine planned (.start pacer)
  match progress.failure with
  | none =>
      { reply := .pulsed ⟨.running, planned, planned⟩
        pacer := progress.pacer
        events := progress.events ++
          [.pulseComplete progress.pacer.pulseCount planned] }
  | some cause =>
      halt machine progress.pacer progress.executed cause progress.events

/-- Count a pulse, whatever it will do. -/
def countPulse (pacer : Pacer σ) : Pacer σ :=
  { pacer with pulseCount := pacer.pulseCount + 1 }

/-- Take a pulse: execute its cycles if the pacer is running, or ignore it. -/
def pulse (machine : Machine σ ε) (pacer : Pacer σ) : Outcome σ ε :=
  let counted := pacer.countPulse
  if counted.isPaused then
    { reply := .pulsed ⟨.paused, 0, 0⟩
      pacer := counted
      events := [.pulseIgnored counted.pulseCount] }
  else
    counted.runningPulse machine

/-- Execute one cycle of a paused pacer; the word is decoded in any case. -/
def singleCycle (machine : Machine σ ε) (pacer : Pacer σ) :
    Outcome σ ε :=
  let cycle := pacer.executeCycle machine
  match cycle.result with
  | .ok word =>
      let instruction := cycle.pacer.decode word
      { reply := .stepped (some instruction)
        pacer := cycle.pacer
        events := cycle.events ++
          [.stepped word instruction.operation cycle.pacer.cycleCount] }
  | .error cause => halt machine cycle.pacer 0 cause cycle.events

/-- Execute a single cycle if the pacer is paused. -/
def step (machine : Machine σ ε) (pacer : Pacer σ) : Outcome σ ε :=
  if pacer.isPaused then
    pacer.singleCycle machine
  else
    { reply := .stepped none
      pacer := pacer
      events := [.stepIgnored] }

/-! ## Changing the pace and the history -/

/-- Execute nothing on the next pulses. -/
def pause (pacer : Pacer σ) : Outcome σ ε where
  reply := .done
  pacer := pacer.withMode .paused
  events := if pacer.isPaused then [] else [.paused pacer.cycleCount]

/-- Execute cycles again from the next pulse on. -/
def resume (pacer : Pacer σ) : Outcome σ ε where
  reply := .done
  pacer := pacer.withMode .running
  events := if pacer.isPaused then [.resumed pacer.cycleCount] else []

/-- Choose the speed of the next pulses; only another speed is told of. -/
def changeSpeed (pacer : Pacer σ) (speed : Speed) : Outcome σ ε where
  reply := .done
  pacer := { pacer with pace := { pacer.pace with speed } }
  events :=
    if speed = pacer.pace.speed then
      []
    else
      [.speedChanged pacer.pace.speed speed]

/-- Turn capture on or off; the history keeps what it has. -/
def changeCapture (pacer : Pacer σ) (capture : Bool) : Outcome σ ε where
  reply := .done
  pacer := { pacer with config := { pacer.config with capture } }
  events := []

/-- Drop all rows of the history. -/
def forget (pacer : Pacer σ) : Outcome σ ε where
  reply := .done
  pacer := { pacer with history := pacer.history.clear }
  events := []

/-- Tick the machine without the pacer taking notice. -/
def tickUnnoticed (machine : Machine σ ε) (pacer : Pacer σ) :
    Except ε Word × Pacer σ :=
  let tick := machine.tick pacer.machineState
  (tick.result, { pacer with machineState := tick.state })

/-! ## Performing commands -/

/-- Do what the host asks for. -/
def perform (machine : Machine σ ε) (pacer : Pacer σ) :
    Command → Outcome σ ε
  | .pulse => pacer.pulse machine
  | .step => pacer.step machine
  | .pause => pacer.pause
  | .resume => pacer.resume
  | .changeSpeed speed => pacer.changeSpeed speed
  | .changeCapture capture => pacer.changeCapture capture
  | .forget => pacer.forget

/-- What some commands bring, one outcome for each. -/
def outcomes (machine : Machine σ ε) (pacer : Pacer σ) :
    List Command → List (Outcome σ ε)
  | [] => []
  | command :: rest =>
      let outcome := pacer.perform machine command
      outcome :: outcomes machine outcome.pacer rest

/-- The pacer after some commands. -/
def runAll (machine : Machine σ ε) (pacer : Pacer σ)
    (commands : List Command) : Pacer σ :=
  commands.foldl (fun pacer command => (pacer.perform machine command).pacer)
    pacer

@[simp]
theorem runAll_nil (machine : Machine σ ε) (pacer : Pacer σ) :
    pacer.runAll machine [] = pacer :=
  rfl

@[simp]
theorem runAll_cons (machine : Machine σ ε) (pacer : Pacer σ)
    (command : Command) (rest : List Command) :
    pacer.runAll machine (command :: rest) =
      (pacer.perform machine command).pacer.runAll machine rest :=
  rfl

end Pacer

end Chip8
