import Scl.Json.Bracket
import Scl.Json.Number

/-! # Skipping a JSON value

The value of a member that nobody asked for is skipped. It has to be well formed, however deeply it
is nested; its numbers may have any size. The brackets that are open are kept in a list, so nesting
costs no more than length.
-/

namespace Scl.Json.Reader

def skipFraction : Reader Unit := do
  if (← peek) == some '.'.toUInt8 then
    skip
    let digits ← takeWhile isDigit
    if digits.isEmpty then failAhead .invalidNumber

def skipExponent : Reader Unit := do
  if (← peek).any isExponentMark then
    skip
    let _ ← exponentSign
    let _ ← digit .invalidNumber
    let _ ← takeWhile isDigit

/-- Skips a number behind its first digit. -/
def skipNumber (first : UInt8) : Reader Unit := do
  if first = '0'.toUInt8 then
    if (← peek).any isDigit then failAhead .invalidNumber
  else
    let _ ← takeWhile isDigit
  skipFraction
  skipExponent

/-- How a value may start. -/
inductive ValueStart where
  /-- A value without brackets, and how to skip what follows its first byte. -/
  | scalar (others : Reader Unit)
  /-- An opening bracket. -/
  | opening (bracket : Bracket)

/-- The kind of value that a byte starts. -/
def valueStart? (byte : UInt8) : Option ValueStart :=
  if byte = 'n'.toUInt8 then some (.scalar (word "ull"))
  else if byte = 't'.toUInt8 then some (.scalar (word "rue"))
  else if byte = 'f'.toUInt8 then some (.scalar (word "alse"))
  else if byte = '-'.toUInt8 then some (.scalar (digit .invalidNumber >>= skipNumber))
  else if isDigit byte then some (.scalar (skipNumber byte))
  else if byte = quote then some (.scalar skipString)
  else if byte = Bracket.opening .list then some (.opening .list)
  else if byte = Bracket.opening .object then some (.opening .object)
  else none

/-- Skips the name of a member and its colon; a list has none. -/
def skipName : Bracket → Reader Unit
  | .list => pure ()
  | .object => do
    match ← blanks with
    | none => failAhead .endInObject
    | some byte =>
      if byte ≠ quote then failAhead .keyNotString
      skip
      skipString
      colon

/-- Goes on behind a value, or behind an opening bracket, to the start of the next value. Gives the
brackets that are then open, or nothing if the outermost value is over. -/
def toNextValue (behindValue : Bool) : List Bracket → Reader (Option (List Bracket))
  | [] => return none
  | bracket :: outer => do
    match ← blanks with
    | none => failAhead bracket.unclosed
    | some byte =>
      if byte = bracket.closing then
        skip
        toNextValue true outer
      else
        if behindValue then
          if byte = comma then skip else failAhead bracket.unseparated
        skipName bracket
        return some (bracket :: outer)

/-- Skips the start of a value and goes on to the start of the next one. -/
def skipFrom (brackets : List Bracket) : ValueStart → Reader (Option (List Bracket))
  | .scalar others => do
    others
    toNextValue true brackets
  | .opening bracket => toNextValue false (bracket :: brackets)

/-- Skips values up to the end of the outermost one. -/
def runSkip (brackets : List Bracket) (input : Input) : Except Fault Unit × Input :=
  let ready := input.dropWhile isBlank
  match start : ready.rest with
  | [] => (.error ⟨.endInValue, some ready.ahead⟩, ready)
  | byte :: rest =>
    match valueStart? byte with
    | none => (.error ⟨.expectedValue, some ready.ahead⟩, ready)
    | some value =>
      match ran : (skipFrom brackets value).run (ready.drop 1) with
      | (.error fault, after) => (.error fault, after)
      | (.ok none, after) => (.ok (), after)
      | (.ok (some left), after) =>
        have shorter : after.rest.length < input.rest.length := by
          have skipped := input.length_rest_dropWhile_le isBlank
          have forward := (skipFrom brackets value).forward (ready.drop 1)
          rw [ran, Input.length_rest_drop, start, List.length_cons] at forward
          rw [start, List.length_cons] at skipped
          exact Nat.lt_of_le_of_lt forward (by omega)
        runSkip left after
termination_by input.rest.length

theorem runSkip_forward (brackets : List Bracket) (input : Input) :
    (runSkip brackets input).2.rest.length ≤ input.rest.length := by
  have skipped (input : Input) := input.length_rest_dropWhile_le isBlank
  have forward (brackets : List Bracket) (value : ValueStart) (input : Input) :
      ((skipFrom brackets value).run ((input.dropWhile isBlank).drop 1)).2.rest.length ≤
        input.rest.length := by
    have read := (skipFrom brackets value).forward ((input.dropWhile isBlank).drop 1)
    have skipped := skipped input
    rw [Input.length_rest_drop] at read
    omega
  fun_induction runSkip brackets input with
  | case1 => exact skipped _
  | case2 => exact skipped _
  | case3 brackets input ready byte rest start value opens fault after ran =>
    have read := forward brackets value input
    rwa [ran] at read
  | case4 brackets input ready byte rest start value opens after ran =>
    have read := forward brackets value input
    rwa [ran] at read
  | case5 brackets input ready byte rest start value opens left after ran shorter ih => omega

/-- Skips values up to the end of the outermost one, `opened` being the brackets open so far. -/
def skipInside (opened : List Bracket) : Reader Unit where
  run := runSkip opened
  forward := runSkip_forward opened

/-- The start of a value decides how to go on, and the brackets then open are skipped in turn. -/
theorem run_skipInside (opened : List Bracket) (input : Input) :
    (skipInside opened).run input =
      (need >>= fun byte =>
        match valueStart? byte with
        | none => failAhead .expectedValue
        | some value => skip >>= fun _ => skipFrom opened value >>= fun left =>
          match left with
          | none => pure ()
          | some left => skipInside left).run input := by
  change runSkip opened input = _
  have looked : (input.dropWhile isBlank).look = input.dropWhile isBlank := rfl
  rw [runSkip.eq_def, run_bind, need, run_bind, run_blanks, looked]
  dsimp only
  split
  · next start => simp [start, failAhead, failAt]
  · next byte rest start =>
    simp only [start, List.head?_cons, run_pure]
    split
    · simp [failAhead, failAt]
    · simp only [skip, run_bind, take, run_pure]
      split <;> simp_all [skipInside]

def skipValue : Reader Unit :=
  skipInside []

end Scl.Json.Reader
