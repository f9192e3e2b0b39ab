import Compositor.Proofs.Json.Scanning

/-!
# Reading is exact

The reader builds the value whose tokens it reads. What it has read so far can be told from what it
expects next, and after the tokens of a value it expects nothing but what surrounds the value.
-/

set_option autoImplicit false

namespace Compositor.Json

namespace Value

/-- Induction on values, with hypotheses about all that an array or object holds. -/
theorem induction {motive : Value → Prop} (null : motive .null)
    (bool : ∀ value, motive (.bool value)) (number : ∀ numeral, motive (.number numeral))
    (string : ∀ text, motive (.string text))
    (array : ∀ items, (∀ item ∈ items, motive item) → motive (.array items))
    (object : ∀ members : List Member, (∀ member ∈ members, motive member.2) →
      motive (.object members)) : (value : Value) → motive value
  | .null => null
  | .bool value => bool value
  | .number numeral => number numeral
  | .string text => string text
  | .array items => array items fun item _ =>
    induction null bool number string array object item
  | .object members => object members fun member among =>
    have smaller : sizeOf member.2 < sizeOf members :=
      Nat.lt_trans (by cases member; simp only [Prod.mk.sizeOf_spec]; omega) (List.sizeOf_lt_of_mem among)
    induction null bool number string array object member.2

end Value

/-! ## Parts with commas -/

theorem separated_cons (first : List Token) (others : List (List Token)) :
    ∃ rest, separated (first :: others) = first ++ rest := by
  cases others with
  | nil => exact ⟨[], by simp⟩
  | cons second others => exact ⟨_, separated_cons_cons first second others⟩

/-- Parts with a comma after each of them. -/
def ended (parts : List (List Token)) : List Token := parts.flatMap (· ++ [.comma])

theorem separated_concat (parts : List (List Token)) (last : List Token) :
    separated (parts ++ [last]) = ended parts ++ last := by
  induction parts with
  | nil => simp [ended]
  | cons first rest ih =>
      cases rest with
      | nil => simp [ended]
      | cons second rest => simpa [ended] using ih

/-! ## What was read -/

/-- The tokens that opened the arrays and objects of a stack, and those of what is complete in
them. -/
def stackTokens : List OpenValue → List Token
  | [] => []
  | .array items :: stack =>
    stackTokens stack ++ .beginArray :: ended (itemTokens items.reverse)
  | .object members key :: stack =>
    stackTokens stack ++ .beginObject :: (ended (memberTokens members.reverse) ++
      [.string key, .colon])

namespace Expectation

/-- The tokens that lead to an expectation. -/
def history : Expectation → List Token
  | .beforeValue stack => stackTokens stack
  | .beforeFirstItem stack => stackTokens stack ++ [.beginArray]
  | .beforeFirstKey stack => stackTokens stack ++ [.beginObject]
  | .beforeKey members stack =>
    stackTokens stack ++ .beginObject :: ended (memberTokens members.reverse)
  | .beforeColon members key stack =>
    stackTokens stack ++ .beginObject :: (ended (memberTokens members.reverse) ++ [.string key])
  | .afterValue value stack => stackTokens stack ++ value.tokens

variable {expectation after : Expectation} {token : Token}

theorem startValue_history {stack : List OpenValue}
    (started : startValue stack token = some after) :
    after.history = stackTokens stack ++ [token] := by
  cases token with
  | endArray | endObject | colon | comma => cases started
  | _ =>
      cases started
      simp [history, Value.tokens]

theorem continueWith_history {value : Value} {stack : List OpenValue}
    (continued : continueWith value stack token = some after) :
    after.history = stackTokens stack ++ (value.tokens ++ [token]) := by
  unfold continueWith at continued
  split at continued <;> cases continued
  · simp [history, stackTokens, ended]
  · simp [history, stackTokens, Value.tokens, separated_concat]
  · simp [history, stackTokens, ended]
  · simp [history, stackTokens, Value.tokens, separated_concat]

/-- Each token is added to the history. -/
theorem next_history (stepped : expectation.next token = some after) :
    after.history = expectation.history ++ [token] := by
  unfold next at stepped
  -- One case for each thing the reader does, and one for each expectation that can be disappointed.
  split at stepped
  · exact startValue_history stepped
  · cases stepped
    simp [history, Value.tokens]
  · simpa [history, stackTokens, ended] using startValue_history stepped
  · cases stepped
    simp [history, Value.tokens]
  · cases stepped
    simp [history, ended]
  · cases stepped
  · cases stepped
    simp [history]
  · cases stepped
  · cases stepped
    simp [history, stackTokens]
  · cases stepped
  · simpa [history] using continueWith_history stepped

/-- The reader gets from one expectation to another one by some tokens. -/
def Leads (expectation : Expectation) (tokens : List Token) (after : Expectation) : Prop :=
  tokens.foldlM next expectation = some after

namespace Leads

variable {between : Expectation} {tokens rest : List Token}

theorem nil : expectation.Leads [] expectation := rfl

theorem cons (stepped : expectation.next token = some between) (leads : between.Leads rest after) :
    expectation.Leads (token :: rest) after :=
  Option.bind_eq_some_iff.mpr ⟨between, stepped, leads⟩

theorem append (first : expectation.Leads tokens between) (later : between.Leads rest after) :
    expectation.Leads (tokens ++ rest) after := by
  unfold Leads
  rw [List.foldlM_append]
  exact Option.bind_eq_some_iff.mpr ⟨between, first, later⟩

theorem history (leads : expectation.Leads tokens after) :
    after.history = expectation.history ++ tokens := by
  induction tokens generalizing expectation with
  | nil =>
      cases leads
      simp
  | cons token rest ih =>
      obtain ⟨between, stepped, later⟩ := Option.bind_eq_some_iff.mp leads
      rw [ih later, next_history stepped, List.append_assoc, List.singleton_append]

end Leads

/-! ## What can be read -/

/-- Where a value can come, its tokens are read as the value. -/
def Reads (value : Value) : Prop :=
  ∀ stack : List OpenValue, (beforeValue stack).Leads value.tokens (.afterValue value stack)

/-- The items that are left in an array, of which there is at least one, and its end. -/
theorem leads_items {first : Value} {items : List Value}
    (reads : ∀ item ∈ first :: items, Reads item) (done : List Value) (stack : List OpenValue) :
    (beforeValue (.array done :: stack)).Leads
      (separated (itemTokens (first :: items)) ++ [.endArray])
      (.afterValue (.array (done.reverse ++ first :: items)) stack) := by
  have read := reads first List.mem_cons_self (.array done :: stack)
  induction items generalizing first done with
  | nil =>
      have closed : next (.afterValue first (.array done :: stack)) .endArray =
          some (.afterValue (.array (done.reverse ++ [first])) stack) := by
        simp [next, continueWith]
      simpa using read.append (.cons closed .nil)
  | cons second items ih =>
      obtain ⟨_, others⟩ := List.forall_mem_cons.mp reads
      have later := ih others (first :: done) (others second List.mem_cons_self _)
      simpa using read.append (.cons rfl later)

/-- The members that are left in an object, of which there is at least one, and its end. -/
theorem leads_members {key : Option String} {value : Value} {members : List Member}
    (reads : ∀ member ∈ (key, value) :: members, Reads member.2) (done : List Member)
    (stack : List OpenValue) :
    (beforeKey done stack).Leads
      (separated (memberTokens ((key, value) :: members)) ++ [.endObject])
      (.afterValue (.object (done.reverse ++ (key, value) :: members)) stack) := by
  have read := reads (key, value) List.mem_cons_self (.object done key :: stack)
  induction members generalizing key value done with
  | nil =>
      have closed : next (.afterValue value (.object done key :: stack)) .endObject =
          some (.afterValue (.object (done.reverse ++ [(key, value)])) stack) := by
        simp [next, continueWith]
      simpa using Leads.cons rfl (.cons rfl (read.append (.cons closed .nil)))
  | cons second members ih =>
      obtain ⟨_, others⟩ := List.forall_mem_cons.mp reads
      have later := ih others ((key, value) :: done) (others second List.mem_cons_self _)
      simpa using Leads.cons rfl (.cons rfl (read.append (.cons rfl later)))

/-- What can come first in an array that is not closed at once is a value. -/
theorem Leads.beforeFirstItem {stack : List OpenValue} {value : Value} {rest : List Token}
    (leads : (beforeValue (.array [] :: stack)).Leads (value.tokens ++ rest) after) :
    (Expectation.beforeFirstItem stack).Leads (value.tokens ++ rest) after := by
  cases value <;> exact leads

/-- What can come first in an object that is not closed at once is a key. -/
theorem Leads.beforeFirstKey {stack : List OpenValue} {key : Option String} {rest : List Token}
    (leads : (beforeKey [] stack).Leads (.string key :: rest) after) :
    (Expectation.beforeFirstKey stack).Leads (.string key :: rest) after := leads

theorem reads (value : Value) : Reads value := by
  induction value using Value.induction with
  | null | bool | number | string => exact fun _ => rfl
  | array items ih =>
      intro stack
      cases items with
      | nil => rfl
      | cons first items =>
          have leads := leads_items ih [] stack
          obtain ⟨rest, begun⟩ := separated_cons first.tokens (items.map Value.tokens)
          simp only [itemTokens_eq, List.map_cons, begun, List.append_assoc] at leads
          simpa [Value.tokens, begun] using Leads.cons rfl leads.beforeFirstItem
  | object members ih =>
      intro stack
      cases members with
      | nil => rfl
      | cons member members =>
          have leads := leads_members ih [] stack
          obtain ⟨rest, begun⟩ := separated_cons (.string member.1 :: .colon :: member.2.tokens)
            (members.map fun member => .string member.1 :: .colon :: member.2.tokens)
          simp only [memberTokens_eq, List.map_cons, begun, List.cons_append] at leads
          simpa [Value.tokens, begun] using Leads.cons rfl leads.beforeFirstKey

end Expectation

/-! ## Numbers stay apart -/

namespace Token

/-- The tokens go on without a number, and keep numbers apart. -/
structure GoesOn (tokens : List Token) : Prop where
  apart : Apart tokens
  first : ∀ token, tokens.head? = some token → token.isNumber = false

/-- A part of a text that lets it go on like that. -/
def KeepsApart (part : List Token) : Prop := ∀ rest, GoesOn rest → Apart (part ++ rest)

variable {rest : List Token}

theorem Apart.cons (apart : Apart rest) (token : Token) (other : token.isNumber = false) :
    Apart (token :: rest) :=
  List.isChain_cons.mpr ⟨fun _ _ number => by simp [other] at number, apart⟩

theorem Apart.goesOn (apart : Apart rest) (token : Token) (other : token.isNumber = false) :
    GoesOn (token :: rest) := by
  refine ⟨apart.cons token other, ?_⟩
  rintro _ ⟨⟩
  exact other

theorem keepsApart_separated {parts : List (List Token)} (keep : ∀ part ∈ parts, KeepsApart part) :
    KeepsApart (separated parts) := by
  intro rest goesOn
  induction parts with
  | nil => exact goesOn.apart
  | cons first others ih =>
      obtain ⟨kept, later⟩ := List.forall_mem_cons.mp keep
      cases others with
      | nil => simpa using kept rest goesOn
      | cons second others => simpa using kept _ ((ih later).goesOn .comma rfl)

end Token

theorem Value.keepsApart (value : Value) : Token.KeepsApart value.tokens := by
  induction value using Value.induction with
  | null | bool | string => exact fun _ goesOn => goesOn.apart.cons _ rfl
  | number =>
      intro rest goesOn
      exact List.isChain_cons.mpr ⟨fun next follows _ => goesOn.first next follows, goesOn.apart⟩
  | array items ih =>
      intro rest goesOn
      have parts : ∀ part ∈ itemTokens items, Token.KeepsApart part := by simpa using ih
      have inside := Token.keepsApart_separated parts _ (goesOn.apart.goesOn .endArray rfl)
      simpa [Value.tokens] using inside.cons .beginArray rfl
  | object members ih =>
      intro rest goesOn
      have parts : ∀ part ∈ memberTokens members, Token.KeepsApart part := by
        simp only [memberTokens_eq, List.forall_mem_map]
        intro member among rest goesOn
        exact ((ih member among rest goesOn).cons .colon rfl).cons (.string member.1) rfl
      have inside := Token.keepsApart_separated parts _ (goesOn.apart.goesOn .endObject rfl)
      simpa [Value.tokens] using inside.cons .beginObject rfl

namespace Value

/-- Tokens are read as a value exactly if they are the tokens of the value. -/
theorem ofTokens?_eq_some_iff {tokens : List Token} {value : Value} :
    ofTokens? tokens = some value ↔ tokens = value.tokens := by
  unfold ofTokens?
  constructor
  · intro read
    obtain ⟨last, leads, finished⟩ := Option.bind_eq_some_iff.mp read
    have history := Expectation.Leads.history leads
    unfold Expectation.result? at finished
    split at finished
    · cases finished
      simpa [Expectation.history, stackTokens] using history.symm
    · cases finished
  · rintro rfl
    exact Option.bind_eq_some_iff.mpr ⟨_, Expectation.reads value [], rfl⟩

theorem apart (value : Value) : Token.Apart value.tokens := by
  simpa using value.keepsApart [] ⟨.nil, by simp⟩

/-- A text has a value exactly if it spells one, and it has the value that it spells. -/
theorem ofText?_eq_some_iff {text : String} {value : Value} :
    ofText? text = some value ↔ Spells text value := by
  unfold ofText? ofBytes?
  simp only [Option.bind_eq_some_iff, ofTokens?_eq_some_iff, exists_eq_right]
  exact Token.scanAll?_eq_some_iff value.apart

end Value

end Compositor.Json
