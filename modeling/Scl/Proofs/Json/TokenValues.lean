import Scl.Proofs.Json.TokenObjects

/-! # Well-formed values in the place of a token

Where a token is wanted, any value may stand: an object with other members than it should have, an
array of any length, or neither. Its bytes settle whether it is read as a token and what is wrong
with it otherwise, whatever follows it. An array may be longer than a token is, and then it is read
up to its second item and refused at what should have been its closing bracket; everything else is
settled by the parts that the value has.
-/

namespace Scl.Json

open Reader

/-- An item of an array. -/
structure Item where
  value : String
  isValue : IsValue value

namespace Item

theorem exists_of_grammar {entry : String} (grammar : Grammar (.entry .list) entry) :
    ∃ (gap : Gap) (item : Item), entry = gap.text ++ item.value := by
  cases grammar with
  | item gap isValue => exact ⟨gap, ⟨_, isValue⟩, rfl⟩

def bytes (item : Item) : List UInt8 :=
  Text.encodeUtf8 item.value

/-- No item starts like the end of the array. -/
theorem opens (item : Item) : ∃ byte others, item.bytes = byte :: others ∧ Opens .list byte := by
  obtain ⟨⟨byte, others, bytes, opens⟩, _⟩ := skips_of_grammar item.isValue
  exact ⟨byte, others, bytes, opens .list⟩

/-- What is settled by every value, however it starts, is settled by an item. -/
theorem settled {α : Type} {reader : Reader α}
    (each : ∀ {byte others}, ValueBytes byte others → SettledBehindGap (byte :: others) reader)
    (item : Item) : SettledBehindGap item.bytes reader := by
  obtain ⟨byte, others, bytes, value⟩ := exists_valueBytes item.isValue
  rw [Item.bytes, bytes]
  exact each value

end Item

namespace Reader

variable {α : Type} {follow : List UInt8 → Prop} {byte : UInt8} {others : List UInt8}

theorem SettledBehindGap.settled {reader : Reader α} (settled : SettledBehindGap others reader) :
    Settled Delimited others reader := by
  obtain ⟨outcome, decides⟩ := settled
  exact ⟨outcome, decides .none⟩

section Items

/-- What is read behind the first item of a token that is an array. -/
def behindKind (kind : Token.Kind) : Reader Token := do
  if !(← startsNextMember .list) then failLater (.invalidLength 1)
  let value ← text
  return ⟨kind, value⟩

/-- The first item settles whether it is a kind, and what comes behind it settles the rest. -/
theorem settled_tokenItems (gap : Gap) (item : Item)
    (later : ∀ kind, Settled follow others (behindKind kind))
    (meets : ∀ rest, follow rest → Delimited (others ++ rest)) :
    Settled follow (gap.bytes ++ (item.bytes ++ others)) tokenItems := by
  obtain ⟨byte, behind, bytes, opens⟩ := item.opens
  have first : Settled follow (item.bytes ++ others) (kind >>= behindKind) :=
    (item.settled settled_kind).settled.bind later meets
  apply first.of_becomes (becomes_startsMember gap opens)
  intro rest _
  rw [bytes]
  rfl

theorem settled_tokenItems_blanks (gap : Gap) : Settled (Closing .list) gap.bytes tokenItems := by
  have stops : Becomes (Closing .list) gap.bytes tokenItems
      (failLater (.invalidLength 0) >>= fun _ => kind >>= behindKind) :=
    becomes_startsMember_closing gap
  have whole : Settled (Closing .list) (gap.bytes ++ []) tokenItems :=
    .of_becomes ⟨_, .refuses fun _ _ => refuses_failLater.bind⟩ stops fun _ => id
  rwa [List.append_nil] at whole

theorem settled_behindKind_end (kind : Token.Kind) (gap : Gap) :
    Settled (Closing .list) gap.bytes (behindKind kind) := by
  have stops : Becomes (Closing .list) gap.bytes (behindKind kind)
      (failLater (.invalidLength 1) >>= fun _ => text >>= fun value => pure ⟨kind, value⟩) :=
    becomes_startsNextMember_closing gap
  have whole : Settled (Closing .list) (gap.bytes ++ []) (behindKind kind) :=
    .of_becomes ⟨_, .refuses fun _ _ => refuses_failLater.bind⟩ stops fun _ => id
  rwa [List.append_nil] at whole

/-- The second item settles whether it is a string. -/
theorem settled_behindKind (kind : Token.Kind) (gap before : Gap) (item : Item) :
    Settled Delimited ((gap.bytes ++ comma :: before.bytes) ++ item.bytes) (behindKind kind) := by
  obtain ⟨byte, behind, bytes, opens⟩ := item.opens
  let complete (value : String) : Reader Token := pure ⟨kind, value⟩
  have second : Settled Delimited item.bytes (text >>= complete) :=
    (item.settled settled_text).settled.bind_last fun value => settled_pure _
  apply second.of_becomes (becomes_startsNextMember gap before opens)
  intro rest _
  rw [bytes]
  rfl

end Items

section Brackets

/-- What is left of an array behind an item that was read settles what is found at its closing
bracket: either it is there, or there is another item in front of it. -/
theorem settled_close (gap : Gap) (others : List (Gapped Item)) :
    Settled Anything
      (gap.bytes ++ (others.flatMap (comma :: ·.bytes Item.bytes) ++ [Bracket.closing .list]))
      (close .list) := by
  cases others with
  | nil => exact ⟨_, decides_close .list gap⟩
  | cons other others =>
    obtain ⟨byte, behind, bytes, shown, _⟩ := other.core.opens
    refine Settled.of_becomes ?_ (becomes_blanks gap isBlank_comma) fun _ _ => rfl
    simp only [comma_ne_closing, if_false, if_true]
    simp only [List.flatMap_cons, List.cons_append, Gapped.bytes, List.append_assoc]
    apply Settled.behind_skip
    refine Settled.of_becomes ?_ (becomes_blanks other.before shown) fun rest _ => ?_
    · exact settled_failAhead _
    · rw [bytes]
      rfl

theorem Settled.within_of_close {bracket : Bracket} {bytes behind : List UInt8} {body : Reader α}
    (settled : Settled (Before behind Anything) bytes body)
    (closes : Settled Anything behind (close bracket)) :
    Settled Anything (bracket.opening :: (bytes ++ behind)) (within bracket body) := by
  obtain ⟨outcome, decides⟩ := settled
  obtain ⟨closed, ends⟩ := closes
  exact ⟨_, decides.within_of_close ends⟩

theorem Settled.within {bracket : Bracket} {bytes : List UInt8} {body : Reader α}
    (settled : Settled (Closing bracket) bytes body) :
    Settled Anything (bracket.opening :: (bytes ++ [bracket.closing])) (within bracket body) := by
  obtain ⟨outcome, decides⟩ := settled
  exact ⟨outcome, decides.within⟩

/-- An array with a second item is read up to this item, whatever there is behind it. -/
theorem settled_within_tokenItems_cons (first second : Gapped Item) (others : List (Gapped Item)) :
    Settled Anything
      (Bracket.opening .list :: ((Enclosed.entries first (second :: others)).bytes Item.bytes ++
        [Bracket.closing .list]))
      (within .list tokenItems) := by
  let behind := second.after.bytes ++
    (others.flatMap (comma :: ·.bytes Item.bytes) ++ [Bracket.closing .list])
  have two : Settled Delimited (first.before.bytes ++ (first.core.bytes ++
      ((first.after.bytes ++ comma :: second.before.bytes) ++ second.core.bytes))) tokenItems := by
    apply settled_tokenItems
    · intro kind
      exact settled_behindKind kind first.after second.before second.core
    · intro rest _
      rw [List.append_assoc, List.append_assoc]
      exact Delimited.append first.after.isBlank_of_mem (delimited_comma _)
  have ends : ∀ rest, Before behind Anything rest → Delimited rest := by
    rintro _ ⟨rest, _, rfl⟩
    change Delimited (second.after.bytes ++ _ ++ rest)
    rw [← List.append_assoc, List.append_assoc]
    exact delimited_others second.after others rfl
  have whole := (two.weaken ends).within_of_close (settled_close second.after others)
  simpa only [behind, Enclosed.bytes, List.flatMap_cons, Gapped.bytes, List.append_assoc,
    List.cons_append] using whole

/-- An array of any length settles whether it is a token. -/
theorem settled_within_tokenItems (enclosed : Enclosed Item) :
    Settled Anything
      (Bracket.opening .list :: (enclosed.bytes Item.bytes ++ [Bracket.closing .list]))
      (within .list tokenItems) := by
  match enclosed with
  | .blanks gap => exact (settled_tokenItems_blanks gap).within
  | .entries first [] =>
    have one : Settled (Closing .list)
        (first.before.bytes ++ (first.core.bytes ++ first.after.bytes)) tokenItems := by
      apply settled_tokenItems
      · intro kind
        exact settled_behindKind_end kind first.after
      · intro rest closing
        exact Delimited.append first.after.isBlank_of_mem (.of_closing closing)
    have whole := one.within
    simpa only [Enclosed.bytes, List.flatMap_nil, List.append_nil, Gapped.bytes,
      List.append_assoc] using whole
  | .entries first (second :: others) => exact settled_within_tokenItems_cons first second others

end Brackets

/-- Where a token is wanted, a value is settled. -/
theorem settled_token (value : ValueBytes byte others) :
    SettledBehindGap (byte :: others) token := by
  apply Settled.behindGap value.not_isBlank
  split
  · next same =>
    subst same
    obtain ⟨enclosed, rfl⟩ := value.of_opening Item.exists_of_grammar
    exact (settled_within_tokenItems enclosed).weaken fun _ _ => trivial
  split
  · next same =>
    subst same
    obtain ⟨members, rfl⟩ := value.of_object
    obtain ⟨judge, decides, _⟩ := exists_judge
    have object := decides_tokenMembers decides members
    exact ⟨_, object.weaken fun _ _ => trivial⟩
  · obtain ⟨cause, decides⟩ := decides_mismatch value "struct Token"
    exact ⟨_, decides⟩

end Reader

end Scl.Json
