import Scl.Proofs.CommandLine.Breaking
import Scl.Proofs.Json.RoundTrip

/-! # What the outcome of a run depends on

The files alone decide how a run ends. What its log looks like is decided by the logger, the
arguments and the environment, which decide nothing else. The contents of a name file decide which
warnings are printed, and only through the set of its names. Two runs are compared by how they end,
so nothing has to be known of their logs.
-/

namespace Scl

/-- The result of a parse is the same for every oracle. -/
theorem parse_oracle_eq (tokens : List Token) (oracle other : Option Oracle) :
    parse tokens oracle = parse tokens other := by
  rcases exists_cut tokens with ⟨sentences, rfl⟩ | ⟨sentences, fragment, rfl⟩
  · rw [parse_of_sentences, parse_of_sentences]
  · rw [parse_of_fragment, parse_of_fragment]

/-- Lists of the same names, in any order and with any repetitions, declare the same. -/
theorem Oracle.ofNames_eq {names others : List String}
    (same : ∀ name, name ∈ names ↔ name ∈ others) : ofNames names = ofNames others := by
  funext name
  rw [Bool.eq_iff_iff, ofNames_eq_true_iff, ofNames_eq_true_iff]
  exact same name

namespace CommandLine

/-- Two runs whose arguments differ in the wish for a longer log at most, and whose files differ in
the content of the name file at most; a name file with two contents is loaded in both runs. -/
structure Comparable (files others : Files) (arguments otherArguments : Arguments) : Prop where
  tokens : otherArguments.tokens = arguments.tokens
  identifiers : otherArguments.identifiers = arguments.identifiers
  tokenFile : others arguments.tokens = files arguments.tokens
  nameFile : ∀ path, arguments.identifiers = some path →
    others path = files path ∨
      ∃ names otherNames, Load.names files path = .ok names ∧
        Load.names others path = .ok otherNames

/-- The name file, if it is loaded twice, gives the same set of names. -/
def SameNames (files others : Files) (arguments : Arguments) : Prop :=
  ∀ path, arguments.identifiers = some path → ∀ names otherNames,
    Load.names files path = .ok names → Load.names others path = .ok otherNames →
      ∀ name, name ∈ names ↔ name ∈ otherNames

section Comparison

variable {files others : Files} {arguments otherArguments : Arguments}

theorem Comparable.tokens_eq (comparable : Comparable files others arguments otherArguments) :
    Load.tokens others otherArguments.tokens = Load.tokens files arguments.tokens := by
  rw [Load.tokens, Load.tokens, comparable.tokens, comparable.tokenFile]

/-- What is loaded in one run is loaded in the other, with the same tokens. The oracles are the same
if the names are. -/
theorem Comparable.loaded {tokens : List Token} {oracle : Option Oracle}
    (comparable : Comparable files others arguments otherArguments)
    (loaded : Loaded files arguments tokens oracle) :
    ∃ otherOracle, Loaded others otherArguments tokens otherOracle ∧
      (SameNames files others arguments → otherOracle = oracle) := by
  have same : Load.tokens others otherArguments.tokens = .ok tokens :=
    comparable.tokens_eq.trans loaded.tokens
  have identifiers := comparable.identifiers
  cases given : arguments.identifiers with
  | none =>
    rw [given] at identifiers
    refine ⟨none, ⟨same, by simp [identifiers], fun _ => rfl⟩, ?_⟩
    intro _
    exact (loaded.unchecked given).symm
  | some path =>
    rw [given] at identifiers
    obtain ⟨names, read, rfl⟩ := loaded.names path given
    obtain ⟨otherNames, otherRead⟩ : ∃ otherNames, Load.names others path = .ok otherNames := by
      rcases comparable.nameFile path given with content | ⟨_, otherNames, _, otherRead⟩
      · refine ⟨names, ?_⟩
        rw [← read, Load.names, Load.names, content]
      · exact ⟨otherNames, otherRead⟩
    refine ⟨some (.ofNames otherNames), ⟨same, ?_, by simp [identifiers]⟩, ?_⟩
    · intro other found
      obtain rfl := Option.some.inj (identifiers.symm.trans found)
      exact ⟨otherNames, otherRead, rfl⟩
    · intro sameNames
      have alike := sameNames path given names otherNames read otherRead
      rw [Oracle.ofNames_eq alike]

/-- Runs that can be compared end in the same way, but for their logs and their warnings, if neither
breaks off. -/
theorem Comparable.ends {surroundings otherSurroundings : Surroundings} {ending : Ending}
    (comparable : Comparable surroundings.files otherSurroundings.files arguments otherArguments)
    (writable : Writable surroundings.files arguments)
    (otherWritable : Writable otherSurroundings.files otherArguments)
    (ends : Ends surroundings arguments ending) :
    ∃ otherEnding, Ends otherSurroundings otherArguments otherEnding ∧
      otherEnding.code = ending.code ∧ otherEnding.output = ending.output ∧
      (SameNames surroundings.files otherSurroundings.files arguments →
        otherEnding.said = ending.said) := by
  cases ends with
  | tokensUnloaded unloaded =>
    exact ⟨_, .tokensUnloaded (comparable.tokens_eq.trans unloaded), rfl, rfl, fun _ => rfl⟩
  | @namesUnloaded tokens path error loaded given unloaded =>
    have content : otherSurroundings.files path = surroundings.files path := by
      rcases comparable.nameFile path given with content | ⟨names, _, read, _⟩
      · exact content
      · rw [unloaded] at read
        cases read
    have unread : Load.names otherSurroundings.files path = .error error := by
      rw [← unloaded, Load.names, Load.names, content]
    exact ⟨_, .namesUnloaded (comparable.tokens_eq.trans loaded)
      (comparable.identifiers.trans given) unread, rfl, rfl, fun _ => rfl⟩
  | @rejected tokens oracle error loaded failed =>
    obtain ⟨otherOracle, otherLoaded, _⟩ := comparable.loaded loaded
    rw [parse_oracle_eq tokens oracle otherOracle] at failed
    refine ⟨_, .rejected otherLoaded failed (otherWritable.error otherLoaded failed), rfl, rfl, ?_⟩
    intro _
    rw [comparable.tokens]
  | @accepted tokens oracle tree loaded read =>
    obtain ⟨otherOracle, otherLoaded, same⟩ := comparable.loaded loaded
    rw [parse_oracle_eq tokens oracle otherOracle] at read
    refine ⟨_, .accepted otherLoaded read (otherWritable.warnings otherLoaded read), rfl, rfl, ?_⟩
    intro sameNames
    simp only [same sameNames, comparable.tokens]
  | wideError loaded failed wide =>
    have broken : Ends surroundings arguments _ := .wideError loaded failed wide
    exact absurd writable (broken.code_eq_broken_iff.mp rfl)
  | wideWarning loaded read cut fits wide =>
    have broken : Ends surroundings arguments _ := .wideWarning loaded read cut fits wide
    exact absurd writable (broken.code_eq_broken_iff.mp rfl)

end Comparison

section Written

variable {files : Files} {path : String}

end Written

end CommandLine

end Scl
