import Scl.Json.Quotation

/-! # Arrays and objects in JSON text

What arrays and objects have in common: members separated by commas between an opening and a
closing bracket. A fault between the brackets comes before a fault at the closing bracket, but
reading goes on to the closing bracket all the same, and only there a fault that concerns the whole
gets its place.
-/

namespace Scl.Json

/-- The two kinds of brackets. -/
inductive Bracket where
  | list
  | object
  deriving DecidableEq, Repr

namespace Bracket

def opening : Bracket → UInt8
  | .list => '['.toUInt8
  | .object => '\x7b'.toUInt8

def closing : Bracket → UInt8
  | .list => ']'.toUInt8
  | .object => '\x7d'.toUInt8

/-- The cause when the text ends between the brackets. -/
def unclosed : Bracket → Cause
  | .list => .endInList
  | .object => .endInObject

/-- The cause when a member is followed by neither a comma nor the closing bracket. -/
def unseparated : Bracket → Cause
  | .list => .expectedListSeparator
  | .object => .expectedObjectSeparator

end Bracket

namespace Reader

variable {α σ : Type}

/-- The byte between members. -/
def comma : UInt8 := ','.toUInt8

/-- Whether a first member follows the opening bracket. -/
def startsMember (bracket : Bracket) : Reader Bool := do
  match ← blanks with
  | none => failAhead bracket.unclosed
  | some byte => return byte ≠ bracket.closing

/-- Looks for a member behind a comma. -/
def afterComma (bracket : Bracket) : Reader Unit := do
  match ← blanks with
  | none => failAhead .endInValue
  | some byte => if byte = bracket.closing then failAhead .trailingComma

/-- Whether another member follows, in which case the comma before it is taken. -/
def startsNextMember (bracket : Bracket) : Reader Bool := do
  match ← blanks with
  | none => failAhead bracket.unclosed
  | some byte =>
    if byte = bracket.closing then return false
    else if byte = comma then
      skip
      afterComma bracket
      return true
    else failAhead bracket.unseparated

/-- Finding another member takes its comma. -/
theorem startsNextMember_takes {bracket : Bracket} {input after : Input}
    (ran : (startsNextMember bracket).run input = (.ok true, after)) :
    after.rest.length < input.rest.length := by
  have skipped := input.length_rest_dropWhile_le isBlank
  have inner := (afterComma bracket).forward
  rw [startsNextMember, run_bind, run_blanks] at ran
  generalize input.dropWhile isBlank = between at ran skipped
  cases here : between.rest with
  | nil => simp [here, failAhead, failAt] at ran
  | cons byte rest =>
    simp only [here, List.head?_cons] at ran
    split at ran
    · simp at ran
    · split at ran
      · have taken := inner (between.look.drop 1)
        simp only [run_bind, skip, take, run_pure] at ran
        split at ran
        · next answer last closed =>
          simp only [Prod.mk.injEq] at ran
          rw [closed, Input.length_rest_drop, Input.rest_look, here, List.length_cons] at taken
          simp only [here, List.length_cons] at skipped
          have same : last = after := ran.2
          subst same
          simp only at taken
          omega
        · simp at ran
      · simp [failAhead, failAt] at ran

/-- Reads members as long as there are more. -/
def runMembers (bracket : Bracket) (member : σ → Reader σ) (state : σ) (input : Input) :
    Except Fault σ × Input :=
  match asked : (startsNextMember bracket).run input with
  | (.error fault, after) => (.error fault, after)
  | (.ok false, after) => (.ok state, after)
  | (.ok true, between) =>
    match ran : (member state).run between with
    | (.error fault, after) => (.error fault, after)
    | (.ok answer, after) =>
      have shorter : after.rest.length < input.rest.length := by
        have taken := startsNextMember_takes asked
        have forward := (member state).forward between
        rw [ran] at forward
        exact Nat.lt_of_le_of_lt forward taken
      runMembers bracket member answer after
termination_by input.rest.length

theorem runMembers_forward (bracket : Bracket) (member : σ → Reader σ) (state : σ)
    (input : Input) :
    (runMembers bracket member state input).2.rest.length ≤ input.rest.length := by
  fun_induction runMembers bracket member state input with
  | case1 state input fault after asked =>
    have forward := (startsNextMember bracket).forward input
    rwa [asked] at forward
  | case2 state input after asked =>
    have forward := (startsNextMember bracket).forward input
    rwa [asked] at forward
  | case3 state input between asked fault after ran =>
    have taken := startsNextMember_takes asked
    have forward := (member state).forward between
    rw [ran] at forward
    exact Nat.le_trans forward (Nat.le_of_lt taken)
  | case4 state input between asked answer after ran shorter ih => omega

def nextMembers (bracket : Bracket) (member : σ → Reader σ) (state : σ) : Reader σ where
  run := runMembers bracket member state
  forward := runMembers_forward bracket member state

/-- Looking for another member comes first, then the member, then the ones after it. -/
theorem run_nextMembers (bracket : Bracket) (member : σ → Reader σ) (state : σ) (input : Input) :
    (nextMembers bracket member state).run input =
      (startsNextMember bracket >>= fun more =>
        if more then member state >>= nextMembers bracket member else pure state).run input := by
  change runMembers bracket member state input = _
  rw [run_bind, runMembers.eq_def]
  split <;> simp_all [run_bind]
  split <;> simp_all [nextMembers]

/-- Reads the members between two brackets, each with what was read before it. -/
def members (bracket : Bracket) (member : σ → Reader σ) (state : σ) : Reader σ := do
  if ← startsMember bracket then nextMembers bracket member (← member state)
  else return state

def close : Bracket → Reader Unit
  | .list => do
    match ← blanks with
    | none => failAhead .endInList
    | some byte =>
      if byte = Bracket.closing .list then skip
      else if byte = comma then
        skip
        let after ← blanks
        failAhead (if after == some (Bracket.closing .list) then .trailingComma
          else .trailingCharacters)
      else failAhead .trailingCharacters
  | .object => do
    match ← blanks with
    | none => failAhead .endInObject
    | some byte =>
      if byte = Bracket.closing .object then skip
      else failAhead (if byte = comma then .trailingComma else .trailingCharacters)

/-- Reads a body between two brackets, the opening one being next. -/
def within (bracket : Bracket) (body : Reader α) : Reader α := do
  skip
  let outcome ← attempt body
  let closed ← attempt (close bracket)
  match outcome, closed with
  | .ok answer, .ok () => return answer
  | .ok _, .error fault => ofOutcome (.error fault)
  | .error ⟨cause, none⟩, _ => fail cause
  | .error fault, _ => ofOutcome (.error fault)

def colon : Reader Unit := do
  match ← blanks with
  | none => failAhead .endInObject
  | some byte => if byte = ':'.toUInt8 then skip else failAhead .expectedColon

end Reader

end Scl.Json
