import Chip8.Proofs.Session.Runs
import Chip8.Proofs.Speed.Canonical

/-!
# The speed of a session

A session starts at normal speed, and its speed is changed by numbers only.  A
speed that is made of a number is a count of thousandths, and so is the normal
one; exactly such speeds come back from their numbers.  So the speed that a
session shows can be given to it again, which changes nothing.
-/

namespace Chip8

/-! ## Counts of thousandths -/

/-- A speed that is a whole number of thousandths, and not too many. -/
def Speed.IsThousandths (speed : Speed) : Prop :=
  ∃ count : Nat,
    1 ≤ count ∧ count ≤ greatestCount ∧ speed.value = count / thousand

namespace Speed

/-- A speed made of a number is a count of thousandths. -/
theorem isThousandths_of_ofBinary64 {value : Binary64} {speed : Speed}
    (made : ofBinary64 value = .ok speed) : speed.IsThousandths := by
  rcases ofRatio_of_ofBinary64 made with ⟨⟨_, least, most⟩, _⟩
  exact ⟨_, least, most, (reduces_of_ofBinary64 made).value_eq⟩

/-- Exactly the counts of thousandths come back from their numbers. -/
theorem isThousandths_iff {speed : Speed} :
    speed.IsThousandths ↔ ofBinary64 speed.toBinary64 = .ok speed := by
  constructor
  · rintro ⟨count, _, most, value⟩
    have thousand_pos : 0 < thousand := by decide
    have cross :=
      (quotient_eq_iff speed.denominator_pos thousand_pos).mp value
    have made := ofRatio_of_cross thousand_pos most (by decide) cross
    rcases of_ofRatio_thousand most made with ⟨divides, counted⟩
    rw [ofBinary64_toBinary64_eq_ok_iff]
    exact ⟨divides, counted.trans_le most⟩
  · exact isThousandths_of_ofBinary64

theorem isThousandths_normal : normal.IsThousandths := by
  refine ⟨1000, by decide, by decide, ?_⟩
  exact (quotient_eq_iff normal.denominator_pos (by decide)).mpr rfl

end Speed

namespace Session

open Host

variable {script : Nat → Call} {session : Session}

/-! ## Speeds of a session -/

/-- A request leaves the speed alone, or it is made of the given number. -/
theorem speed_fulfil (script : Nat → Call) (session : Session)
    (request : Request) :
    let after := (session.fulfil script request).session
    after.pace.speed = session.pace.speed ∨
      ∃ value, Speed.ofBinary64 value = .ok after.pace.speed := by
  intro after
  cases stands : request.command with
  | error error =>
      have same : after = session :=
        congrArg Result.session (fulfil_of_refused stands)
      exact .inl (congrArg (·.pace.speed) same)
  | ok command =>
      have performed :
          after =
            (session.perform (Callback.machine script) command).pacer :=
        congrArg Result.session (fulfil_of_command stands)
      have transition :=
        session.transition_perform (Callback.machine script) command
      rw [performed, transition.speed_eq]
      cases request with
      | changeSpeed value =>
          change
            (Speed.ofBinary64 value).map Command.changeSpeed = _ at stands
          rcases Datum.exists_of_map_eq_ok stands with ⟨speed, made, rfl⟩
          exact .inr ⟨value, made⟩
      | pulse | step | pause | resume | changeCapture | forget =>
          cases stands
          exact .inl rfl

theorem isThousandths_fulfilAll (script : Nat → Call)
    (requests : List Request) :
    (start.fulfilAll script requests).pace.speed.IsThousandths := by
  refine
    fulfilAll_induction
      (motive := fun session => session.pace.speed.IsThousandths)
      script ?_ Speed.isThousandths_normal requests
  intro session request thousandths
  rcases speed_fulfil script session request with same | ⟨value, made⟩
  · rw [same]
    exact thousandths
  · exact Speed.isThousandths_of_ofBinary64 made

/-- To change the speed to the one in force changes nothing. -/
theorem changeSpeed_self (machine : Machine Callback TickError)
    (session : Session) :
    session.perform machine (.changeSpeed session.pace.speed) =
      ⟨.done, session, []⟩ := by
  simp only [Pacer.perform, Pacer.changeSpeed, if_true]

/--
The speed of a session is stable under being read and written back.  A speed
that is made of a number comes back from its own number.  So whatever was
asked of a session, and however the calls of its tick function end: to set the
speed that it shows succeeds and changes nothing, the speed in force is a
whole number of thousandths of thirty-two bits and not zero, and a number is
either accepted as the new speed, which changes nothing else, or refused with
the text of its error, which leaves the session as it is.
-/
theorem shown_speed_is_stable (script : Nat → Call)
    (requests : List Request) :
    let now := start.fulfilAll script requests
    (∀ value speed,
      Speed.ofBinary64 value = .ok speed →
        Speed.ofBinary64 speed.toBinary64 = .ok speed) ∧
      now.fulfil script (.changeSpeed now.speed) = ⟨.done, now, []⟩ ∧
      (∃ count : Nat,
        1 ≤ count ∧ count ≤ 4294967295 ∧
          now.pace.speed.value = count / 1000) ∧
      ∀ value,
        let result := now.fulfil script (.changeSpeed value)
        (∀ speed, Speed.ofBinary64 value = .ok speed →
          result.answer = .done ∧
            result.session =
              { now with pace := { now.pace with speed } }) ∧
        ∀ error, Speed.ofBinary64 value = .error error →
          result = ⟨.failed error.message, now, []⟩ := by
  intro now
  have thousandths : now.pace.speed.IsThousandths :=
    isThousandths_fulfilAll script requests
  refine ⟨?stable, ?rewritten, ?counted, ?either⟩
  case stable =>
    intro value speed made
    exact Speed.isThousandths_iff.mp (Speed.isThousandths_of_ofBinary64 made)
  case rewritten =>
    have back := Speed.isThousandths_iff.mp thousandths
    have stands :
        (Request.changeSpeed now.speed).command =
          .ok (.changeSpeed now.pace.speed) :=
      congrArg (Except.map Command.changeSpeed) back
    rw [fulfil_of_command stands, changeSpeed_self]
    rfl
  case counted =>
    rcases thousandths with ⟨count, least, most, value⟩
    rw [Speed.thousand, Nat.cast_ofNat] at value
    exact ⟨count, least, most, value⟩
  case either =>
    intro value result
    constructor
    · intro speed made
      have stands :
          (Request.changeSpeed value).command = .ok (.changeSpeed speed) :=
        congrArg (Except.map Command.changeSpeed) made
      have fulfilled : result = _ := fulfil_of_command stands
      rw [fulfilled]
      exact ⟨rfl, rfl⟩
    · intro error refused
      exact fulfil_of_refused
        (congrArg (Except.map Command.changeSpeed) refused)

end Session

end Chip8
