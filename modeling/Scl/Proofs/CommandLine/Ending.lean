import Scl.CommandLine
import Scl.Proofs.Trace

/-! # How a run of the command ends

A run ends in one of four ways: the token file is not loaded, the name file is not, the program is
rejected, or it is accepted. It breaks off if the diagnostic of the error, or of one of the
warnings, has its caret too far to the right to be written. Exactly one of these happens, and with
it comes the exit code and everything printed except for the log (`Ends`).
-/

namespace Scl

theorem Oracle.ofNames_distinctNames (names : List String) :
    ofNames (distinctNames names) = ofNames names := by
  funext name
  rw [Bool.eq_iff_iff, ofNames_eq_true_iff, ofNames_eq_true_iff, mem_distinctNames]

namespace CommandLine

/-- Files by the paths at which they are opened. -/
abbrev Files := String → Except OpenError Content

/-- The files that the arguments name are loaded: the token file gives these tokens, and the name
file, if there is one, gives the names that this oracle knows. -/
structure Loaded (files : Files) (arguments : Arguments) (tokens : List Token)
    (oracle : Option Oracle) : Prop where
  tokens : Load.tokens files arguments.tokens = .ok tokens
  names : ∀ path, arguments.identifiers = some path →
    ∃ names, Load.names files path = .ok names ∧ oracle = some (.ofNames names)
  unchecked : arguments.identifiers = none → oracle = none

/-- What a run logs once its files are loaded: that they are, and then its steps. -/
def parseRecords (path : String) (tokens : List Token) (oracle : Option Oracle) :
    List Log.Record :=
  .ofLoaded tokens.length path :: (parseTrace tokens oracle).map .ofEvent

/-- The end of a run: what it logged, its exit code, what it prints to the output and what it
prints as errors behind the log. -/
structure Ending where
  records : List Log.Record
  code : UInt32
  output : String
  said : String
  deriving DecidableEq

/-- What is seen of a run that ended, when its log is written in some way. -/
def Ending.outcome (log : List Log.Record → String) (ending : Ending) : Outcome :=
  ⟨ending.code, ending.output, log ending.records ++ ending.said⟩

/-- How a run ends. -/
inductive Ends (surroundings : Surroundings) (arguments : Arguments) : Ending → Prop where
  /-- The token file is not loaded; the name file is not looked at. -/
  | tokensUnloaded {error : LoadError}
    (unloaded : Load.tokens surroundings.files arguments.tokens = .error error) :
    Ends surroundings arguments ⟨[], 1, "", "sclparse: " ++ error.message ++ "\n"⟩
  /-- The name file is not loaded. -/
  | namesUnloaded {tokens : List Token} {path : String} {error : LoadError}
    (loaded : Load.tokens surroundings.files arguments.tokens = .ok tokens)
    (given : arguments.identifiers = some path)
    (unloaded : Load.names surroundings.files path = .error error) :
    Ends surroundings arguments
      ⟨[.ofLoaded tokens.length arguments.tokens], 1, "", "sclparse: " ++ error.message ++ "\n"⟩
  /-- The program is rejected; no warning is printed. -/
  | rejected {tokens : List Token} {oracle : Option Oracle} {error : ParseError}
    (loaded : Loaded surroundings.files arguments tokens oracle)
    (failed : parse tokens oracle = .error error)
    (fits : (Excerpt.around tokens error.position).Fits) :
    Ends surroundings arguments
      ⟨parseRecords arguments.tokens tokens oracle, 1, "",
        Listing.renderError ⟨arguments.tokens, tokens⟩ error⟩
  /-- The program is accepted; its warnings are printed in order. -/
  | accepted {tokens : List Token} {oracle : Option Oracle} {tree : Tree}
    (loaded : Loaded surroundings.files arguments tokens oracle)
    (read : parse tokens oracle = .ok tree)
    (fits : ∀ warning ∈ parseWarnings tokens oracle,
      (Excerpt.around tokens warning.position).Fits) :
    Ends surroundings arguments
      ⟨parseRecords arguments.tokens tokens oracle, 0, tree.render,
        String.join
          ((parseWarnings tokens oracle).map (Listing.renderWarning ⟨arguments.tokens, tokens⟩))⟩
  /-- The program is rejected, and this cannot be written. -/
  | wideError {tokens : List Token} {oracle : Option Oracle} {error : ParseError}
    (loaded : Loaded surroundings.files arguments tokens oracle)
    (failed : parse tokens oracle = .error error)
    (wide : ¬ (Excerpt.around tokens error.position).Fits) :
    Ends surroundings arguments
      ⟨parseRecords arguments.tokens tokens oracle, 101, "", surroundings.notice⟩
  /-- The program is accepted, but the run does not get past one of its warnings. -/
  | wideWarning {tokens : List Token} {oracle : Option Oracle} {tree : Tree}
    {before after : List Warning} {warning : Warning}
    (loaded : Loaded surroundings.files arguments tokens oracle)
    (read : parse tokens oracle = .ok tree)
    (cut : parseWarnings tokens oracle = before ++ warning :: after)
    (fits : ∀ earlier ∈ before, (Excerpt.around tokens earlier.position).Fits)
    (wide : ¬ (Excerpt.around tokens warning.position).Fits) :
    Ends surroundings arguments
      ⟨parseRecords arguments.tokens tokens oracle, 101, "",
        String.join (before.map (Listing.renderWarning ⟨arguments.tokens, tokens⟩)) ++
          surroundings.notice⟩

def Report.ending (notice : String) (report : Report) : Ending :=
  match report.result with
  | .accepted tree said => ⟨report.records, 0, tree.render, said⟩
  | .stopped said => ⟨report.records, 1, "", said⟩
  | .broken said => ⟨report.records, 101, "", said ++ notice⟩

section Diagnostics

variable (listing : Listing) {warnings before : List Warning}

theorem writeAll_of_fits
    (fits : ∀ warning ∈ warnings, (Excerpt.around listing.tokens warning.position).Fits) :
    writeAll (warnings.map listing.renderWarning?) =
      .ok (String.join (warnings.map listing.renderWarning)) := by
  induction warnings with
  | nil => rfl
  | cons warning warnings ih =>
    obtain ⟨first, later⟩ := List.forall_mem_cons.mp fits
    rw [List.map_cons, List.map_cons, Listing.renderWarning?_of_fits first, writeAll, ih later,
      String.join_cons]

theorem writeAll_of_wide {warning : Warning} (after : List Warning)
    (fits : ∀ earlier ∈ before, (Excerpt.around listing.tokens earlier.position).Fits)
    (wide : ¬ (Excerpt.around listing.tokens warning.position).Fits) :
    writeAll ((before ++ warning :: after).map listing.renderWarning?) =
      .error (String.join (before.map listing.renderWarning)) := by
  induction before with
  | nil =>
    rw [List.nil_append, List.map_cons, Listing.renderWarning?_of_not_fits wide]
    rfl
  | cons first before ih =>
    obtain ⟨written, later⟩ := List.forall_mem_cons.mp fits
    rw [List.cons_append, List.map_cons, List.map_cons, Listing.renderWarning?_of_fits written,
      writeAll, ih later, String.join_cons]

theorem Result.ofWarnings_of_fits (tree : Tree)
    (fits : ∀ warning ∈ warnings, (Excerpt.around listing.tokens warning.position).Fits) :
    ofWarnings listing tree warnings =
      .accepted tree (String.join (warnings.map listing.renderWarning)) := by
  rw [ofWarnings, writeAll_of_fits listing fits]

theorem Result.ofWarnings_of_wide (tree : Tree) {warning : Warning} (after : List Warning)
    (fits : ∀ earlier ∈ before, (Excerpt.around listing.tokens earlier.position).Fits)
    (wide : ¬ (Excerpt.around listing.tokens warning.position).Fits) :
    ofWarnings listing tree (before ++ warning :: after) =
      .broken (String.join (before.map listing.renderWarning)) := by
  rw [ofWarnings, writeAll_of_wide listing after fits wide]

theorem Result.ofError_of_fits {error : ParseError}
    (fits : (Excerpt.around listing.tokens error.position).Fits) :
    ofError listing error = .stopped (listing.renderError error) := by
  rw [ofError, Listing.renderError?_of_fits fits]

theorem Result.ofError_of_wide {error : ParseError}
    (wide : ¬ (Excerpt.around listing.tokens error.position).Fits) :
    ofError listing error = .broken "" := by
  rw [ofError, Listing.renderError?_of_not_fits wide]

end Diagnostics

section Report

variable {files : Files} {arguments : Arguments} {tokens : List Token} {oracle : Option Oracle}

theorem Report.ofTokens_of_ok (path : String) {tree : Tree}
    (read : parse tokens oracle = .ok tree) :
    Report.ofTokens path tokens oracle =
      ⟨parseRecords path tokens oracle,
        .ofWarnings ⟨path, tokens⟩ tree (parseWarnings tokens oracle)⟩ := by
  unfold parse at read
  unfold Report.ofTokens parseRecords parseTrace parseWarnings
  generalize Parsing.program (.start tokens oracle) = result at read
  cases result with
  | ok tree after =>
    cases read
    rfl
  | error error after => cases read

theorem Report.ofTokens_of_error (path : String) {error : ParseError}
    (failed : parse tokens oracle = .error error) :
    Report.ofTokens path tokens oracle =
      ⟨parseRecords path tokens oracle, .ofError ⟨path, tokens⟩ error⟩ := by
  unfold parse at failed
  unfold Report.ofTokens parseRecords parseTrace
  generalize Parsing.program (.start tokens oracle) = result at failed
  cases result with
  | ok tree after => cases failed
  | error error after =>
    cases failed
    rfl

theorem Loaded.report (loaded : Loaded files arguments tokens oracle) :
    Report.ofArguments files arguments = .ofTokens arguments.tokens tokens oracle := by
  unfold Report.ofArguments
  rw [loaded.tokens]
  cases given : arguments.identifiers with
  | none =>
    rw [loaded.unchecked given]
    rfl
  | some path =>
    obtain ⟨names, read, rfl⟩ := loaded.names path given
    simp only [Option.mapM_some, read, Functor.map, Except.map, Option.map_some,
      Oracle.ofNames_distinctNames]

/-- The report tells of the only end that the run can have. -/
theorem Ends.ending_eq {surroundings : Surroundings} {ending : Ending}
    (ends : Ends surroundings arguments ending) :
    (Report.ofArguments surroundings.files arguments).ending surroundings.notice = ending := by
  cases ends with
  | tokensUnloaded unloaded =>
    simp only [Report.ofArguments, unloaded]
    rfl
  | namesUnloaded loaded given unloaded =>
    simp only [Report.ofArguments, loaded, given, Option.mapM_some, unloaded]
    rfl
  | @rejected tokens _ _ loaded failed fits =>
    have told := Result.ofError_of_fits ⟨arguments.tokens, tokens⟩ fits
    rw [loaded.report, Report.ofTokens_of_error _ failed, told]
    rfl
  | @accepted tokens _ tree loaded read fits =>
    have told := Result.ofWarnings_of_fits ⟨arguments.tokens, tokens⟩ tree fits
    rw [loaded.report, Report.ofTokens_of_ok _ read, told]
    rfl
  | @wideError tokens _ _ loaded failed wide =>
    have told := Result.ofError_of_wide ⟨arguments.tokens, tokens⟩ wide
    rw [loaded.report, Report.ofTokens_of_error _ failed, told]
    exact congrArg (Ending.mk _ _ _) String.empty_append
  | @wideWarning tokens _ tree _ after _ loaded read cut fits wide =>
    have told := Result.ofWarnings_of_wide ⟨arguments.tokens, tokens⟩ tree after fits wide
    rw [loaded.report, Report.ofTokens_of_ok _ read, cut, told]
    rfl

theorem Ends.unique {surroundings : Surroundings} {ending other : Ending}
    (ends : Ends surroundings arguments ending) (otherEnds : Ends surroundings arguments other) :
    ending = other :=
  ends.ending_eq.symm.trans otherEnds.ending_eq

end Report

end CommandLine

end Scl
