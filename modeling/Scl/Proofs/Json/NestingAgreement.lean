import Scl.Json.Skip
import Scl.Proofs.Json.ScalarAgreement

/-! # Arrays, objects and skipped values are read alike

Brackets keep agreement: if what stands between them is read alike, so is the whole. A fault without
a place gets one at the closing bracket, so outside of all brackets every fault has a place. Loops
over members and over nested values agree because each round does and leaves fewer bytes to come.
-/

namespace Scl.Json.Reader

open Text (IsText IsTextEnd)

variable {late : Prop}

section Bracket

variable {α σ : Type}

theorem steady_startsMember (bracket : Bracket) : Steady late (startsMember bracket) := by
  refine agrees_blanks.bind fun head => ?_
  cases head with
  | none => exact agrees_failAhead
  | some byte => exact agrees_pure fun _ => At.isTextEnd

theorem steady_afterComma (bracket : Bracket) : Steady late (afterComma bracket) := by
  refine agrees_blanks.bind fun head => ?_
  cases head with
  | none => exact agrees_failAhead
  | some byte =>
    dsimp only
    split
    · exact agrees_failAhead
    · exact agrees_pure fun _ => At.isTextEnd

theorem steady_startsNextMember (bracket : Bracket) : Steady late (startsNextMember bracket) := by
  refine agrees_blanks.bind fun head => ?_
  cases head with
  | none => exact agrees_failAhead
  | some byte =>
    dsimp only
    split
    · exact agrees_pure fun _ => At.isTextEnd
    split
    · refine agrees_skip.bind fun _ => ?_
      exact (steady_afterComma bracket).bind fun _ => steady_pure true
    · exact agrees_failAhead

/-- Members are read alike if each of them is. Each comma leaves fewer bytes to come. -/
theorem steady_nextMembers {bracket : Bracket} {member : σ → Reader σ}
    (each : ∀ state, Steady late (member state)) (state : σ) :
    Steady late (nextMembers bracket member state) := by
  refine agrees_of_rounds (fun _ => IsTextEnd) (fun count later state => ?_) state
  refine Agrees.of_run_eq (run_nextMembers bracket member state) ?_
  have asked : Agrees late (fun rest => IsTextEnd rest ∧ rest.length = count)
      (startsNextMember bracket)
      fun more rest => IsTextEnd rest ∧ (more = true → rest.length < count) := by
    refine ((steady_startsNextMember bracket).weaken fun _ => And.left).and ?_
    rintro input more last ⟨_, length⟩ ran rfl
    exact length ▸ startsNextMember_takes ran
  refine asked.bind fun more => ?_
  cases more with
  | false => exact agrees_pure fun _ => And.left
  | true =>
    have round := ((each state).shorter count).bind later
    exact round.weaken fun rest holds => ⟨holds.1, holds.2 rfl⟩

theorem steady_members {bracket : Bracket} {member : σ → Reader σ}
    (each : ∀ state, Steady late (member state)) (state : σ) :
    Steady late (members bracket member state) := by
  refine (steady_startsMember bracket).bind fun more => ?_
  split
  · exact (each state).bind fun answer => steady_nextMembers each answer
  · exact steady_pure state

theorem steady_close (bracket : Bracket) : Steady late (close bracket) := by
  cases bracket with
  | list =>
    refine agrees_blanks.bind fun head => ?_
    cases head with
    | none => exact agrees_failAhead
    | some byte =>
      dsimp only
      split
      · exact agrees_skip
      split
      · refine agrees_skip.bind fun _ => ?_
        exact agrees_blanks.bind fun after => agrees_failAhead
      · exact agrees_failAhead
  | object =>
    refine agrees_blanks.bind fun head => ?_
    cases head with
    | none => exact agrees_failAhead
    | some byte =>
      dsimp only
      split
      · exact agrees_skip
      · exact agrees_failAhead

/-- Between brackets, a fault may get its place only when reading has left them. -/
theorem steady_within {bracket : Bracket} {body : Reader α} (inner : Steady True body) :
    Steady late (within bracket body) := by
  refine steady_skip.bind fun _ => ?_
  intro here there same holds
  have ran := inner here there same holds
  simp only [run_bind, attempt]
  generalize body.run here = result at ran
  generalize body.run there = otherResult at ran
  cases ran with
  -- Behind a fault the two may stand at different bytes, but then the closing bracket is ignored.
  | placed => exact .placed ..
  | unplaced => exact .placed ..
  | @ok answer left otherLeft same holds =>
    have closes : Steady False (close bracket) := steady_close bracket
    have closed := closes left otherLeft same holds
    dsimp only
    generalize (close bracket).run left = result at closed
    generalize (close bracket).run otherLeft = otherResult at closed
    cases closed with
    | ok same holds => exact .ok same holds
    | placed => exact .placed ..
    | unplaced _ _ _ impossible => exact impossible.elim

theorem steady_colon : Steady late colon := by
  refine agrees_blanks.bind fun head => ?_
  cases head with
  | none => exact agrees_failAhead
  | some byte =>
    dsimp only
    split
    · exact agrees_skip
    · exact agrees_failAhead

end Bracket

section Skip

theorem steady_skipFraction : Steady late skipFraction := by
  refine steady_peek.bind fun head => ?_
  split
  · refine steady_skip.bind fun _ => ?_
    refine (steady_takeWhile isDigit).bind fun digits => ?_
    split
    · exact agrees_failAhead
    · exact steady_pure ()
  · exact steady_pure ()

theorem steady_skipExponent : Steady late skipExponent := by
  refine steady_peek.bind fun head => ?_
  split
  · refine steady_skip.bind fun _ => ?_
    refine steady_exponentSign.bind fun _ => ?_
    refine (steady_digit _).bind fun _ => ?_
    exact (steady_takeWhile isDigit).bind fun _ => steady_pure ()
  · exact steady_pure ()

theorem steady_skipNumber (first : UInt8) : Steady late (skipNumber first) := by
  rw [skipNumber]
  dsimp only
  have behind : Steady late (skipFraction >>= fun _ => skipExponent) :=
    steady_skipFraction.bind fun _ => steady_skipExponent
  split
  · refine steady_peek.bind fun head => ?_
    exact agrees_unless agrees_failAhead fun _ => behind
  · exact (steady_takeWhile isDigit).bind fun _ => (steady_pure ()).bind fun _ => behind

theorem steady_of_valueStart? {byte : UInt8} {others : Reader Unit}
    (starts : valueStart? byte = some (.scalar others)) : Steady late others := by
  unfold valueStart? at starts
  split at starts
  · cases starts
    exact steady_word _
  split at starts
  · cases starts
    exact steady_word _
  split at starts
  · cases starts
    exact steady_word _
  split at starts
  · cases starts
    exact (steady_digit _).bind steady_skipNumber
  split at starts
  · cases starts
    exact steady_skipNumber byte
  split at starts
  · cases starts
    exact steady_skipString
  -- What is left are the brackets, which start no value without brackets.
  all_goals
    split at starts
    · cases starts
    · split at starts <;> cases starts

theorem steady_skipName (bracket : Bracket) : Steady late (skipName bracket) := by
  cases bracket with
  | list => exact steady_pure ()
  | object =>
    refine agrees_blanks.bind fun head => ?_
    cases head with
    | none => exact agrees_failAhead
    | some byte =>
      refine agrees_unless agrees_failAhead fun _ => ?_
      refine agrees_skip.bind fun _ => ?_
      exact steady_skipString.bind fun _ => steady_colon

theorem steady_toNextValue (behindValue : Bool) (brackets : List Bracket) :
    Steady late (toNextValue behindValue brackets) := by
  induction brackets generalizing behindValue with
  | nil => exact steady_pure none
  | cons bracket outer ih =>
    refine agrees_blanks.bind fun head => ?_
    cases head with
    | none => exact agrees_failAhead
    | some byte =>
      dsimp only
      have behind : Steady late (skipName bracket >>= fun _ => pure (some (bracket :: outer))) :=
        (steady_skipName bracket).bind fun _ => steady_pure _
      split
      · exact agrees_skip.bind fun _ => ih true
      split
      · split
        · exact agrees_skip.bind fun _ => behind
        · exact agrees_stop agrees_failAhead
      · exact behind.weaken fun _ => At.isTextEnd

theorem steady_skipFrom {byte : UInt8} {value : ValueStart} (starts : valueStart? byte = some value)
    (brackets : List Bracket) : Steady late (skipFrom brackets value) := by
  cases value with
  | scalar others =>
    exact (steady_of_valueStart? starts).bind fun _ => steady_toNextValue true brackets
  | opening bracket => exact steady_toNextValue false (bracket :: brackets)

theorem steady_skipInside (opened : List Bracket) : Steady late (skipInside opened) := by
  refine agrees_of_rounds (fun _ => IsTextEnd) (fun count later opened => ?_) opened
  refine Agrees.of_run_eq (run_skipInside opened) ?_
  have looked : Agrees late (fun rest => IsTextEnd rest ∧ rest.length < count + 1) need
      fun byte rest => At (some byte) rest ∧ rest.length < count + 1 :=
    agrees_need.shorter (count + 1)
  refine (looked.weaken fun rest holds => ?_).bind fun byte => ?_
  · exact ⟨holds.1, Nat.lt_succ_of_le (Nat.le_of_eq holds.2)⟩
  cases starts : valueStart? byte with
  | none => exact agrees_failAhead
  | some value =>
    dsimp only
    refine (agrees_skip_shorter count).bind fun _ => ?_
    refine ((steady_skipFrom starts opened).shorter count).bind fun left => ?_
    cases left with
    | none => exact agrees_pure fun _ => And.left
    | some left => exact later left

theorem steady_skipValue : Steady late skipValue :=
  steady_skipInside []

end Skip

end Scl.Json.Reader
