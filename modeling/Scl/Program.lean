import Scl.Parsing

/-! # Programs

A program is a sequence of statements. Each starts with a token whose word chooses its handler; that
token is passed before the handler reads on, so every statement takes at least one token and the
sequence ends. The first slot that is not filled ends the parse.
-/

namespace Scl

/-- The session inside the statement that starts with `first`. -/
def Session.enter (session : Session) (first : Token) (rest : List Token) : Session :=
  (session.note
    (.statement session.position first.value (Handler.lookup first.value))).pass first rest

namespace Parsing

/-- Reads statements to the end of the tokens and gives their nodes. -/
def statements : Parsing (List Tree) := fun session =>
  match here : session.rest with
  | [] => .ok [] session
  | first :: rest =>
    match ran : handle first.value (Handler.lookup first.value) (session.enter first rest) with
    | .error error after => .error error after
    | .ok tree after =>
      have shorter : after.rest.length < session.rest.length := by
        have forward := forward_handle _ _ _ _ _ ran
        simp only [Session.enter, Session.rest_pass] at forward
        simp only [here, List.length_cons]
        omega
      match statements after with
      | .error error last => .error error last
      | .ok trees last => .ok (tree :: trees) last
termination_by session => session.rest.length

theorem statements_nil {session : Session} (atEnd : session.rest = []) :
    statements session = .ok [] session := by
  rw [statements.eq_def]
  split <;> simp_all

/-- The first statement is read, and then those after it. -/
theorem statements_cons {session : Session} {first : Token} {rest : List Token}
    (here : session.rest = first :: rest) :
    statements session =
      (do
        let tree ← handle first.value (Handler.lookup first.value)
        let trees ← statements
        return tree :: trees : Parsing (List Tree)) (session.enter first rest) := by
  rw [statements.eq_def]
  simp only [bind, EStateM.bind]
  split <;> simp_all
  split <;> simp_all [pure, EStateM.pure]
  next tree after _ => cases statements after <;> rfl

/-- Reads the whole program from its first token, whatever the session did before. -/
def program : Parsing Tree := fun session =>
  match statements session.restart with
  | .error error after => .error error after
  | .ok trees after => .ok (.node "Program" trees) after

end Parsing

/-- The tree of a program, checked against an oracle if there is one. -/
def parse (tokens : List Token) (oracle : Option Oracle) : Except ParseError Tree :=
  match Parsing.program (.start tokens oracle) with
  | .ok tree _ => .ok tree
  | .error error _ => .error error

end Scl
