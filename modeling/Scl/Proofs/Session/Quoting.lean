import Scl.Proofs.Session.Correspondence
import Scl.Proofs.Session.History

/-! # Warnings quote their tokens

The oracle is asked about a name at the moment when the cursor has just passed its token. The
warning, if there is one, has the position and the value of this token. Tokens that are passed later
go behind it, and the program, which starts again, takes the warnings back together with the tokens
passed. So the warnings quote tokens after every history (`quotes_after`). One step is an instance
of a correspondence: each session is compared with itself, and the quoting is what is kept.
-/

namespace Scl.Session

/-- Every warning has the position and the value of a token that was passed. -/
def Quotes (session : Session) : Prop :=
  ∀ warning ∈ session.warnings, ∃ token,
    session.passed.reverse[warning.position]? = some token ∧ token.value = warning.name

namespace Quotes

variable {session : Session}

theorem start (tokens : List Token) (oracle : Option Oracle) : (start tokens oracle).Quotes := by
  intro warning found
  cases found

theorem note (quotes : session.Quotes) (event : Event) : (session.note event).Quotes :=
  quotes

theorem pass (quotes : session.Quotes) (token : Token) (rest : List Token) :
    (session.pass token rest).Quotes := by
  intro warning found
  obtain ⟨quoted, here, name⟩ := quotes warning found
  obtain ⟨inside, _⟩ := List.getElem?_eq_some_iff.mp here
  refine ⟨quoted, ?_, name⟩
  change (token :: session.passed).reverse[warning.position]? = some quoted
  rw [List.reverse_cons, List.getElem?_append_left inside, here]

/-- The token passed last stands where the cursor stood before it. -/
theorem getElem?_passed_pass (session : Session) (token : Token) (rest : List Token) :
    (session.pass token rest).passed.reverse[session.position]? = some token := by
  change (token :: session.passed).reverse[session.position]? = some token
  rw [List.reverse_cons, session.position_eq, ← List.length_reverse]
  exact List.getElem?_concat_length

theorem check (quotes : session.Quotes) {warning : Warning} {token : Token}
    (here : session.passed.reverse[warning.position]? = some token)
    (name : token.value = warning.name) : (session.check warning).Quotes := by
  unfold Session.check
  split
  · intro other found
    rw [warnings_warn, List.mem_append, List.mem_singleton] at found
    rcases found with earlier | rfl
    · exact quotes other earlier
    · exact ⟨token, here, name⟩
  · exact quotes

theorem take (quotes : session.Quotes) (slot : Slot) : (session.take slot).Quotes := by
  unfold Session.take
  split
  · exact quotes
  · next token rest next =>
    have passed := quotes.pass token rest
    split
    · exact passed.check (getElem?_passed_pass session token rest) rfl
    · exact passed

theorem enter (quotes : session.Quotes) (first : Token) (rest : List Token) :
    (session.enter first rest).Quotes :=
  (quotes.note _).pass first rest

end Quotes

/-- A session beside itself, with warnings that quote tokens. -/
def quoting : Correspondence where
  Related session other := session = other ∧ session.Quotes
  Errors := Eq
  rest_eq related := congrArg Session.rest related.1
  pass token rest := fun ⟨same, quotes⟩ => ⟨same ▸ rfl, quotes.pass token rest⟩
  take slot := fun ⟨same, quotes⟩ => ⟨same ▸ rfl, quotes.take slot⟩
  enter first rest := fun ⟨same, quotes⟩ => ⟨same ▸ rfl, quotes.enter first rest⟩
  failure expected related := congrArg (failure · expected) related.1

variable {session : Session}

/-- One operation keeps the quoting. -/
theorem quotes_step (operation : Operation) (quotes : session.Quotes) :
    (session.step operation).2.Quotes := by
  have reading (reads : Correspondence.ReadsOn operation) : (session.step operation).2.Quotes := by
    obtain ⟨_, _, after⟩ := quoting.step reads ⟨rfl, quotes⟩
    exact after
  cases operation with
  | program =>
    have again : quoting.Respects Parsing.program :=
      quoting.respects_program fun session other related =>
        ⟨congrArg restart related.1, .start session.tokens session.oracle⟩
    obtain ⟨_, _, after⟩ := quoting.perform again Answer.tree ⟨rfl, quotes⟩
    exact after
  | warnings => exact quotes
  | consult oracle => exact quotes
  | _ => exact reading trivial

theorem quotes_after (operations : List Operation) (quotes : session.Quotes) :
    (session.after operations).Quotes := by
  induction operations generalizing session with
  | nil => exact quotes
  | cons operation operations ih => exact ih (quotes_step operation quotes)

/-- Whatever was asked of a session, each of its warnings has the position and the value of one of
the tokens. -/
theorem exists_token_of_mem_warnings {tokens : List Token} {oracle : Option Oracle}
    {operations : List Operation} {warning : Warning}
    (found : warning ∈ ((start tokens oracle).after operations).warnings) :
    ∃ token, tokens[warning.position]? = some token ∧ token.value = warning.name := by
  obtain ⟨token, here, name⟩ := quotes_after operations (.start tokens oracle) warning found
  obtain ⟨inside, _⟩ := List.getElem?_eq_some_iff.mp here
  have kept : ((start tokens oracle).after operations).tokens = tokens := tokens_after ..
  refine ⟨token, ?_, name⟩
  rw [← kept, Session.tokens, List.getElem?_append_left inside, here]

end Scl.Session
