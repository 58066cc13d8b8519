import Scl.Proofs.Json.Settled
import Scl.Proofs.Json.Syntax

/-! # Entries between brackets

What stands between two brackets is a list of entries, with blanks around each, or blanks only. The
entries are read one after the other, each from the state that the one before it left. So if the
bytes of an entry decide how the state goes on, the bytes between the brackets decide the fold of
these outcomes: all entries are passed, or the first one that is refused ends the reading with its
cause. The brackets around add nothing to that.
-/

namespace Scl.Json

open Reader

/-- A core with the blanks before and behind it. -/
structure Gapped (ι : Type) where
  before : Gap
  core : ι
  after : Gap

/-- What stands between two brackets. -/
inductive Enclosed (ι : Type) where
  | blanks (gap : Gap)
  | entries (first : Gapped ι) (others : List (Gapped ι))

theorem Bracket.opening_injective : Function.Injective Bracket.opening := by
  intro bracket other same
  cases bracket <;> cases other <;> revert same <;> decide

/-- The bytes of what stands between two brackets, with the brackets. -/
theorem encodeUtf8_bracketed (bracket : Bracket) (inside : String) :
    Text.encodeUtf8 ((Lexeme.opening bracket).write ++ inside ++ (Lexeme.closing bracket).write) =
      bracket.opening :: (Text.encodeUtf8 inside ++ [bracket.closing]) := by
  rw [Text.encodeUtf8_append, Text.encodeUtf8_append, Lexeme.encodeUtf8_write,
    Lexeme.encodeUtf8_write]
  rfl

variable {ι : Type}

namespace Gapped

def write (write : ι → String) (part : Gapped ι) : String :=
  part.before.text ++ write part.core ++ part.after.text

def bytes (body : ι → List UInt8) (part : Gapped ι) : List UInt8 :=
  part.before.bytes ++ body part.core ++ part.after.bytes

end Gapped

namespace Enclosed

def cores : Enclosed ι → List ι
  | blanks _ => []
  | entries first others => (first :: others).map Gapped.core

def write (write : ι → String) : Enclosed ι → String
  | blanks gap => gap.text
  | entries first others => ",".intercalate ((first :: others).map (Gapped.write write))

def bytes (body : ι → List UInt8) : Enclosed ι → List UInt8
  | blanks gap => gap.bytes
  | entries first others => first.bytes body ++ others.flatMap (comma :: ·.bytes body)

theorem encodeUtf8_write (write : ι → String) (enclosed : Enclosed ι) :
    Text.encodeUtf8 (enclosed.write write) =
      enclosed.bytes fun core => Text.encodeUtf8 (write core) := by
  have each (part : Gapped ι) : Text.encodeUtf8 (part.write write) =
      part.bytes fun core => Text.encodeUtf8 (write core) := by
    rw [Gapped.write, Text.encodeUtf8_append, Text.encodeUtf8_append]
    rfl
  cases enclosed with
  | blanks gap => rfl
  | entries first others =>
    rw [Enclosed.write, List.map_cons, Text.encodeUtf8_intercalate_cons, each, List.flatMap_map]
    simp only [each]
    rfl

/-- The entries that the grammar describes, if each of them is a core behind blanks. By induction on
the grammar, which puts every entry in front of those behind it. -/
theorem exists_of_grammar {write : ι → String} {bracket : Bracket} {text : String}
    (grammar : Grammar (.entries bracket) text)
    (each : ∀ {entry}, Grammar (.entry bracket) entry →
      ∃ (gap : Gap) (core : ι), entry = gap.text ++ write core) :
    ∃ first others, text = (entries first others).write write := by
  generalize whole : Part.entries bracket = part at grammar
  induction grammar with
  | @last bracket entry grammar gap ih =>
    cases whole
    obtain ⟨before, core, rfl⟩ := each grammar
    refine ⟨⟨before, core, gap⟩, [], ?_⟩
    rw [Enclosed.write, List.map_singleton, String.intercalate_singleton]
    rfl
  | @more bracket entry text grammar gap later _ ihLater =>
    cases whole
    obtain ⟨before, core, rfl⟩ := each grammar
    obtain ⟨first, others, rfl⟩ := ihLater rfl
    refine ⟨⟨before, core, gap⟩, first :: others, ?_⟩
    simp only [Enclosed.write, List.map_cons, String.intercalate_cons_cons, Gapped.write]
  | _ => cases whole

end Enclosed

namespace Reader

variable {α β σ : Type} {follow front : List UInt8 → Prop} {byte : UInt8}

/-- This byte comes first. -/
def Starting (byte : UInt8) (rest : List UInt8) : Prop :=
  rest.head? = some byte

section Blanks

variable {next : Option UInt8 → Reader α}

/-- Blanks are skipped in front of a byte that is none. -/
theorem becomes_blanks (gap : Gap) (shown : isBlank byte = false) :
    Becomes (Starting byte) gap.bytes (blanks >>= next) (next (some byte)) := by
  refine .of_reads fun rest starting => ?_
  rw [← starting]
  refine reads_blanks gap.isBlank_of_mem fun other here => ?_
  rw [starting] at here
  obtain rfl := Option.some.inj here
  exact shown

/-- Blanks are skipped up to the end. -/
theorem becomes_blanks_end (gap : Gap) :
    Becomes (· = []) gap.bytes (blanks >>= next) (next none) := by
  refine .of_reads ?_
  rintro _ rfl
  exact reads_blanks gap.isBlank_of_mem nofun

theorem becomes_need {next : UInt8 → Reader α} (gap : Gap) (shown : isBlank byte = false) :
    Becomes (Starting byte) gap.bytes (need >>= next) (next byte) := by
  rw [need, bind_assoc]
  exact becomes_blanks gap shown

theorem becomes_skip {next : Unit → Reader α} :
    Becomes Anything [byte] (skip >>= next) (next ()) :=
  .of_reads fun _ _ => reads_skip

theorem becomes_colon {next : Unit → Reader α} (gap : Gap) :
    Becomes Anything (gap.bytes ++ [':'.toUInt8]) (colon >>= next) (next ()) := by
  have shown : isBlank ':'.toUInt8 = false := by decide
  rw [colon, bind_assoc]
  refine (becomes_blanks gap shown).trans ?_ fun _ _ => rfl
  exact becomes_skip

end Blanks

abbrev Closing (bracket : Bracket) : List UInt8 → Prop :=
  Starting bracket.closing

theorem isBlank_closing (bracket : Bracket) : isBlank bracket.closing = false := by
  cases bracket <;> decide

theorem isBlank_comma : isBlank comma = false := by
  decide

theorem comma_ne_closing (bracket : Bracket) : comma ≠ bracket.closing := by
  cases bracket <;> decide

theorem Delimited.of_closing {bracket : Bracket} {rest : List UInt8}
    (closing : Closing bracket rest) : Delimited rest := by
  intro byte here
  rw [closing] at here
  exact .inr (.inr ⟨bracket, (Option.some.inj here).symm⟩)

/-- A byte that may stand first in an entry. -/
def Opens (bracket : Bracket) (byte : UInt8) : Prop :=
  isBlank byte = false ∧ byte ≠ bracket.closing

theorem opens_quote (bracket : Bracket) : Opens bracket quote := by
  constructor
  · decide
  · cases bracket <;> decide

section Looks

variable {bracket : Bracket} {next : Bool → Reader α}

theorem becomes_startsMember (gap : Gap) (opens : Opens bracket byte) :
    Becomes (Starting byte) gap.bytes (startsMember bracket >>= next) (next true) := by
  obtain ⟨shown, other⟩ := opens
  rw [startsMember, bind_assoc]
  apply (becomes_blanks gap shown).of_eq
  simp only [other, ne_eq, not_false_eq_true, decide_true, pure_bind]

theorem becomes_startsMember_closing (gap : Gap) :
    Becomes (Closing bracket) gap.bytes (startsMember bracket >>= next) (next false) := by
  rw [startsMember, bind_assoc]
  apply (becomes_blanks gap (isBlank_closing bracket)).of_eq
  simp only [ne_eq, not_true_eq_false, decide_false, pure_bind]

/-- Another entry is found behind blanks, a comma and blanks. -/
theorem becomes_startsNextMember (gap before : Gap) (opens : Opens bracket byte) :
    Becomes (Starting byte) (gap.bytes ++ comma :: before.bytes)
      (startsNextMember bracket >>= next) (next true) := by
  obtain ⟨shown, other⟩ := opens
  have after : Becomes (Starting byte) before.bytes
      (afterComma bracket >>= fun _ => next true) (next true) := by
    rw [afterComma, bind_assoc]
    apply (becomes_blanks before shown).of_eq
    simp only [other, if_false, pure_bind]
  rw [startsNextMember, bind_assoc]
  refine (becomes_blanks gap isBlank_comma).trans ?_ fun _ _ => rfl
  simp only [comma_ne_closing, if_false, if_true, bind_assoc, pure_bind]
  exact becomes_skip.trans after fun _ _ => trivial

theorem becomes_startsNextMember_closing (gap : Gap) :
    Becomes (Closing bracket) gap.bytes (startsNextMember bracket >>= next) (next false) := by
  rw [startsNextMember, bind_assoc]
  apply (becomes_blanks gap (isBlank_closing bracket)).of_eq
  simp only [if_true, pure_bind]

end Looks

section Entries

variable {bracket : Bracket} {member : σ → Reader σ} {judge : σ → ι → Except Cause σ}
  {body : ι → List UInt8}

/-- The bytes of every entry decide how the state goes on, and do not start like the end. -/
structure Judges (bracket : Bracket) (body : ι → List UInt8) (member : σ → Reader σ)
    (judge : σ → ι → Except Cause σ) : Prop where
  opens : ∀ core, ∃ byte others, body core = byte :: others ∧ Opens bracket byte
  decides : ∀ state core, Decides Delimited (body core) (member state) (judge state core)

/-- What follows an entry delimits it: blanks, and then a comma or the closing bracket. -/
theorem delimited_others (gap : Gap) (others : List (Gapped ι)) {rest : List UInt8}
    (closing : Closing bracket rest) :
    Delimited (gap.bytes ++ others.flatMap (comma :: ·.bytes body) ++ rest) := by
  rw [List.append_assoc]
  apply Delimited.append gap.isBlank_of_mem
  cases others with
  | nil => exact .of_closing closing
  | cons other others => exact delimited_comma _

/-- An entry and those behind it, if these are decided from whatever state the entry leaves. -/
theorem Judges.entries (judges : Judges bracket body member judge) (state : σ) (gap : Gap)
    (core : ι) (others : List (Gapped ι))
    (later : ∀ state, Decides (Closing bracket)
      (gap.bytes ++ others.flatMap (comma :: ·.bytes body)) (nextMembers bracket member state)
      ((others.map Gapped.core).foldlM judge state)) :
    Decides (Closing bracket) (body core ++ (gap.bytes ++ others.flatMap (comma :: ·.bytes body)))
      (member state >>= nextMembers bracket member)
      ((core :: others.map Gapped.core).foldlM judge state) := by
  have first := judges.decides state core
  have meets (rest : List UInt8) (closing : Closing bracket rest) :
      Delimited (gap.bytes ++ others.flatMap (comma :: ·.bytes body) ++ rest) :=
    delimited_others gap others closing
  rw [List.foldlM_cons]
  generalize judge state core = outcome at first
  cases outcome with
  | ok answer => exact (later answer).of_becomes first.becomes meets
  | error cause => exact first.bind_error meets

/-- The entries behind one that was read, by induction on them. -/
theorem Judges.decides_nextMembers (judges : Judges bracket body member judge) (gap : Gap)
    (others : List (Gapped ι)) (state : σ) :
    Decides (Closing bracket) (gap.bytes ++ others.flatMap (comma :: ·.bytes body))
      (nextMembers bracket member state) ((others.map Gapped.core).foldlM judge state) := by
  have unfolded (state : σ) := ext (run_nextMembers bracket member state)
  induction others generalizing gap state with
  | nil =>
    have stops : Becomes (Closing bracket) gap.bytes (nextMembers bracket member state)
        (pure state) := by
      rw [unfolded]
      exact becomes_startsNextMember_closing gap
    exact (decides_pure state).of_becomes stops fun _ => id
  | cons other others ih =>
    obtain ⟨byte, behind, bytes, opens⟩ := judges.opens other.core
    have goesOn : Becomes (Starting byte) (gap.bytes ++ comma :: other.before.bytes)
        (nextMembers bracket member state) (member state >>= nextMembers bracket member) := by
      rw [unfolded]
      exact becomes_startsNextMember gap other.before opens
    have later := judges.entries state other.after other.core others (ih other.after)
    have whole := later.of_becomes goesOn fun rest _ => by
      rw [bytes]
      rfl
    simpa only [Gapped.bytes, List.flatMap_cons, List.append_assoc, List.cons_append,
      List.map_cons] using whole

/-- What stands between two brackets decides the fold of what the entries decide. -/
theorem Judges.decides_members (judges : Judges bracket body member judge)
    (enclosed : Enclosed ι) (state : σ) :
    Decides (Closing bracket) (enclosed.bytes body) (members bracket member state)
      (enclosed.cores.foldlM judge state) := by
  cases enclosed with
  | blanks gap =>
    have stops : Becomes (Closing bracket) gap.bytes (members bracket member state) (pure state) :=
      becomes_startsMember_closing gap
    have whole := (decides_pure state).of_becomes stops fun _ => id
    rwa [List.append_nil] at whole
  | entries first others =>
    obtain ⟨byte, behind, bytes, opens⟩ := judges.opens first.core
    have goesOn : Becomes (Starting byte) first.before.bytes (members bracket member state)
        (member state >>= nextMembers bracket member) :=
      becomes_startsMember first.before opens
    have later := judges.entries state first.after first.core others
      (judges.decides_nextMembers first.after others)
    have whole := later.of_becomes goesOn fun rest _ => by
      rw [bytes]
      rfl
    simpa only [Enclosed.bytes, Enclosed.cores, Gapped.bytes, List.append_assoc,
      List.map_cons] using whole

end Entries

section Within

variable {bracket : Bracket} {bytes : List UInt8} {body : Reader α} {outcome : Except Cause α}

/-- What is between two brackets is decided by the body and then by what its bytes leave up to the
closing bracket. A fault of the body comes before anything that is wrong at the closing bracket. -/
theorem Decides.within_of_close {behind : List UInt8} {closed : Except Cause Unit}
    (decides : Decides (Before behind Anything) bytes body outcome)
    (closes : Decides Anything behind (close bracket) closed) :
    Decides Anything (bracket.opening :: (bytes ++ behind)) (within bracket body)
      (outcome >>= fun answer => closed >>= fun _ => .ok answer) := by
  have follows (rest : List UInt8) : Before behind Anything (behind ++ rest) := ⟨rest, trivial, rfl⟩
  have whole (rest : List UInt8) : bracket.opening :: (bytes ++ behind) ++ rest =
      bracket.opening :: (bytes ++ (behind ++ rest)) := by
    rw [List.cons_append, List.append_assoc]
  cases decides with
  | refuses refuses =>
    refine .refuses fun rest _ => ?_
    rw [whole]
    refine reads_skip.bind_refuses ?_
    intro input here
    obtain ⟨place, last, ran⟩ := refuses _ (follows rest) input here
    simp only [run_bind, attempt, ran]
    cases place with
    | none => exact ⟨_, _, rfl⟩
    | some place => exact ⟨_, _, rfl⟩
  | @reads answer reads =>
    have inside (rest : List UInt8) :
        Reads (· = bytes ++ (behind ++ rest)) (attempt body) (.ok answer) (· = behind ++ rest) :=
      (reads _ (follows rest)).attempt
    cases closes with
    | reads closes =>
      refine .reads fun rest _ => ?_
      rw [whole]
      refine reads_skip.bind ?_
      refine (inside rest).bind ?_
      exact (closes rest trivial).attempt.bind (.pure answer)
    | refuses closes =>
      refine .refuses fun rest _ => ?_
      rw [whole]
      refine reads_skip.bind_refuses ?_
      refine (inside rest).bind_refuses ?_
      intro input here
      obtain ⟨place, last, ran⟩ := closes rest trivial input here
      simp only [run_bind, attempt, ran]
      exact ⟨_, _, rfl⟩

theorem decides_close (bracket : Bracket) (gap : Gap) :
    Decides Anything (gap.bytes ++ [bracket.closing]) (close bracket) (.ok ()) := by
  have shown := isBlank_closing bracket
  have closes : Decides Anything [bracket.closing] skip (.ok ()) :=
    .reads fun rest _ => reads_skip
  cases bracket with
  | list => exact closes.of_becomes (becomes_blanks gap shown) fun _ _ => rfl
  | object => exact closes.of_becomes (becomes_blanks gap shown) fun _ _ => rfl

/-- Brackets around a body add nothing to what it does, if it is decided up to the closing one. -/
theorem Decides.within (decides : Decides (Closing bracket) bytes body outcome) :
    Decides Anything (bracket.opening :: (bytes ++ [bracket.closing])) (within bracket body)
      outcome := by
  have inside : Decides (Before [bracket.closing] Anything) bytes body outcome := by
    refine decides.weaken ?_
    rintro _ ⟨rest, _, rfl⟩
    rfl
  have whole := inside.within_of_close (decides_close bracket .none)
  cases outcome with
  | ok answer => exact whole
  | error cause => exact whole

end Within

end Reader

end Scl.Json
