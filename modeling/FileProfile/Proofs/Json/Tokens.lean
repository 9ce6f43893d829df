import FileProfile.Json.Parser
import Mathlib.Data.List.Chain

/-!
# The parser reads the tokens of a value

`Json.tokens` collects tokens from the last to the first. Read forwards, the tokens of an array are
those of its items with commas between them, in brackets, and so for an object (`tokens_array`,
`tokens_object`).

The parser, ready for a value, reads the tokens of one and completes it, whatever containers are
open around it (`foldlM_tokens`). Where none is open this gives the value back
(`ofTokens?_tokens`).

What the parser accepts never has two scalars in a row (`isChain_apart_of_foldlM`). The lexer
depends on this, since two words with nothing between them would be one word.
-/

namespace FileProfile.Json

/-! ### Tokens from the first to the last -/

/-- Lists of tokens, with a comma between each two. -/
def separated (parts : List (List Token)) : List Token := [.comma].intercalate parts

theorem separated_single (part : List Token) : separated [part] = part :=
  List.intercalate_singleton

theorem separated_cons_cons (part next : List Token) (rest : List (List Token)) :
    separated (part :: next :: rest) = part ++ .comma :: separated (next :: rest) := by
  rw [separated, List.intercalate_cons_cons, List.append_assoc]
  rfl

/-- The tokens of a field of an object. -/
def memberTokens (field : String × Json) : List Token :=
  .scalar (.string field.1) :: .colon :: tokens field.2

mutual

/-- The tokens of a value are added in front of the others. -/
theorem addTokens_eq (done : List Token) :
    ∀ value, addTokens done value = (tokens value).reverse ++ done
  | .scalar s => rfl
  | .array items => by
    rw [tokens, addTokens, addTokens, addItems_eq, addItems_eq, List.reverse_reverse]
    simp
  | .object fields => by
    rw [tokens, addTokens, addTokens, addFields_eq, addFields_eq, List.reverse_reverse]
    simp

theorem addItems_eq (done : List Token) :
    ∀ items, addItems done items = (separated (items.map tokens)).reverse ++ done
  | [] => rfl
  | [item] => by
    rw [addItems, addTokens_eq, List.map_singleton, separated_single]
  | item :: next :: rest => by
    -- the comma stands between the first item and the others
    rw [addItems, addItems_eq, addTokens_eq, List.map_cons, List.map_cons, List.map_cons,
      separated_cons_cons]
    · simp
    · exact List.cons_ne_nil _ _

theorem addFields_eq (done : List Token) :
    ∀ fields, addFields done fields = (separated (fields.map memberTokens)).reverse ++ done
  | [] => rfl
  | [(name, value)] => by
    rw [addFields, addTokens_eq, List.map_singleton, separated_single]
    simp [memberTokens]
  | (name, value) :: next :: rest => by
    rw [addFields, addFields_eq, addTokens_eq, List.map_cons, List.map_cons, List.map_cons,
      separated_cons_cons]
    · simp [memberTokens]
    · exact List.cons_ne_nil _ _

end

theorem tokens_scalar (s : Scalar) : tokens (.scalar s) = [.scalar s] := rfl

theorem tokens_array (items : List Json) :
    tokens (.array items) = .openArray :: separated (items.map tokens) ++ [.closeArray] := by
  rw [tokens, addTokens, addItems_eq]
  simp

theorem tokens_object (fields : List (String × Json)) :
    tokens (.object fields) =
      .openObject :: separated (fields.map memberTokens) ++ [.closeObject] := by
  rw [tokens, addTokens, addFields_eq]
  simp

/-! ### Reading them -/

theorem exists_separated_cons (first : Token) (more : List Token) (rest : List (List Token)) :
    ∃ more', separated ((first :: more) :: rest) = first :: more' := by
  cases rest with
  | nil => exact ⟨more, separated_single _⟩
  | cons next rest => exact ⟨_, separated_cons_cons _ next rest⟩

/-- The first token of a value begins it. -/
theorem exists_tokens_cons (value : Json) :
    ∃ first more, tokens value = first :: more ∧ first ≠ .closeArray := by
  cases value with
  | scalar s => exact ⟨_, _, tokens_scalar s, nofun⟩
  | array items => exact ⟨_, _, tokens_array items, nofun⟩
  | object fields => exact ⟨_, _, tokens_object fields, nofun⟩

/-- An array that has just been opened takes its first item as one that is ready for a value. -/
theorem foldlM_openArray (around : List Open) (item : Json) (rest : List Json) :
    (separated ((item :: rest).map tokens)).foldlM Parser.step?
        ⟨.array [] :: around, .firstOrEnd⟩ =
      (separated ((item :: rest).map tokens)).foldlM Parser.step?
        ⟨.array [] :: around, .value⟩ := by
  obtain ⟨first, more, h_item, h_first⟩ := exists_tokens_cons item
  obtain ⟨more', h_more⟩ := exists_separated_cons first more (rest.map tokens)
  have h_step : Parser.step? ⟨.array [] :: around, .firstOrEnd⟩ first =
      Parser.step? ⟨.array [] :: around, .value⟩ first := by
    cases first with
    | closeArray => exact absurd rfl h_first
    | _ => rfl
  rw [List.map_cons, h_item, h_more, List.foldlM_cons, List.foldlM_cons, h_step]

/-- An object that has just been opened takes its first name as it takes further ones. -/
theorem foldlM_openObject (around : List Open) (field : String × Json)
    (rest : List (String × Json)) :
    (separated ((field :: rest).map memberTokens)).foldlM Parser.step?
        ⟨.object [] :: around, .firstOrEnd⟩ =
      (separated ((field :: rest).map memberTokens)).foldlM Parser.step?
        ⟨.object [] :: around, .name⟩ := by
  obtain ⟨more', h_more⟩ := exists_separated_cons (.scalar (.string field.1))
    (.colon :: tokens field.2) (rest.map memberTokens)
  rw [List.map_cons, memberTokens, h_more, List.foldlM_cons, List.foldlM_cons]
  rfl

mutual

/-- **The parser reads the tokens of a value and completes it.** The induction is on the value, with
the containers around it arbitrary, since an item is read inside its array. -/
theorem foldlM_tokens (around : List Open) : ∀ value : Json,
    (tokens value).foldlM Parser.step? ⟨around, .value⟩ = Parser.complete? value around
  | .scalar s => by
    rw [tokens_scalar]
    exact Option.bind_fun_some _
  | .array [] => by
    rw [tokens_array]
    exact Option.bind_fun_some _
  | .array (item :: rest) => by
    -- behind the bracket the items go in, from an array that holds none yet
    have h_items := foldlM_items around (item :: rest) [] (List.cons_ne_nil _ _)
    rw [tokens_array, List.cons_append, List.foldlM_cons]
    change List.foldlM Parser.step? ⟨.array [] :: around, .firstOrEnd⟩ _ = _
    rw [List.foldlM_append, foldlM_openArray, h_items, List.append_nil]
    -- the bracket completes the array
    change (Parser.complete? (array (item :: rest).reverse.reverse) around >>= pure) = _
    rw [List.reverse_reverse]
    exact Option.bind_fun_some _
  | .object [] => by
    rw [tokens_object]
    exact Option.bind_fun_some _
  | .object (field :: rest) => by
    -- behind the brace the fields go in, from an object that holds none yet
    have h_fields := foldlM_fields around (field :: rest) [] (List.cons_ne_nil _ _)
    rw [tokens_object, List.cons_append, List.foldlM_cons]
    change List.foldlM Parser.step? ⟨.object [] :: around, .firstOrEnd⟩ _ = _
    rw [List.foldlM_append, foldlM_openObject, h_fields, List.append_nil]
    -- the brace completes the object
    change (Parser.complete? (object (field :: rest).reverse.reverse) around >>= pure) = _
    rw [List.reverse_reverse]
    exact Option.bind_fun_some _

/-- The items of an array go into it one by one. -/
theorem foldlM_items (around : List Open) : ∀ items done, items ≠ [] →
    (separated (items.map tokens)).foldlM Parser.step? ⟨.array done :: around, .value⟩ =
      some ⟨.array (items.reverse ++ done) :: around, .commaOrEnd⟩
  | [], _, h => absurd rfl h
  | [item], done, _ => by
    rw [List.map_singleton, separated_single, foldlM_tokens]
    rfl
  | item :: next :: rest, done, _ => by
    -- the first item is complete, and a comma leads to the others
    have h_rest := foldlM_items around (next :: rest) (item :: done) (List.cons_ne_nil _ _)
    rw [List.map_cons, List.map_cons, separated_cons_cons, List.foldlM_append, foldlM_tokens,
      List.reverse_cons, List.append_assoc]
    exact h_rest

/-- The fields of an object go into it one by one. -/
theorem foldlM_fields (around : List Open) : ∀ fields done, fields ≠ [] →
    (separated (fields.map memberTokens)).foldlM Parser.step? ⟨.object done :: around, .name⟩ =
      some ⟨.object (fields.reverse ++ done) :: around, .commaOrEnd⟩
  | [], _, h => absurd rfl h
  | [(name, value)], done, _ => by
    -- the name and the colon make it a member that waits for its value
    rw [List.map_singleton, separated_single, memberTokens]
    exact foldlM_tokens (.member done name :: around) value
  | (name, value) :: next :: rest, done, _ => by
    have h_value := foldlM_tokens (.member done name :: around) value
    have h_rest := foldlM_fields around (next :: rest) ((name, value) :: done)
      (List.cons_ne_nil _ _)
    rw [List.map_cons, List.map_cons, separated_cons_cons, List.foldlM_append, memberTokens,
      List.reverse_cons, List.append_assoc]
    change ((tokens value).foldlM Parser.step? ⟨.member done name :: around, .value⟩ >>= _) = _
    rw [h_value]
    exact h_rest

end

/-- **The tokens of a value write it.** -/
theorem ofTokens?_tokens (value : Json) : ofTokens? (tokens value) = some value := by
  rw [ofTokens?, foldlM_tokens]
  rfl

/-! ### Scalars in a row -/

/-- Not both tokens are scalars. -/
def Token.Apart (first second : Token) : Prop := ∀ s t, first = .scalar s → second ≠ .scalar t

namespace Parser

/-- A stage in which only a mark of punctuation, or nothing, may come next. -/
inductive Closed : Stage → Prop
  | commaOrEnd : Closed .commaOrEnd
  | colon : Closed .colon
  | nothing (whole : Json) : Closed (.nothing whole)

theorem step?_scalar_of_closed {parser : Parser} (h : Closed parser.stage) (s : Scalar) :
    parser.step? (.scalar s) = none := by
  obtain ⟨around, stage⟩ := parser
  cases h with
  | commaOrEnd => rcases around with _ | ⟨_ | _ | _, _⟩ <;> rfl
  | colon => rcases around with _ | ⟨_ | _ | _, _⟩ <;> rfl
  | nothing whole => rcases around with _ | ⟨_ | _ | _, _⟩ <;> rfl

theorem closed_of_complete? {value : Json} {around : List Open} {next : Parser}
    (h : complete? value around = some next) : Closed next.stage := by
  rcases around with _ | ⟨_ | _ | _, _⟩
  · cases h
    exact .nothing value
  · cases h
    exact .commaOrEnd
  · cases h
  · cases h
    exact .commaOrEnd

theorem closed_of_begin? {around : List Open} {next : Parser} {s : Scalar}
    (h : begin? around (.scalar s) = some next) : Closed next.stage := closed_of_complete? h

/-- Behind a scalar, be it a value or a name, the parser takes no scalar. -/
theorem closed_of_step?_scalar {parser next : Parser} {s : Scalar}
    (h : parser.step? (.scalar s) = some next) : Closed next.stage := by
  unfold step? at h
  split at h
  -- the scalar is a value, on its own or as the first item of an array
  case h_1 => exact closed_of_begin? h
  case h_3 => exact closed_of_begin? h
  -- it is the name of a field, the first one or a further one
  case h_5 =>
    cases h
    exact .colon
  case h_6 =>
    cases h
    exact .colon
  -- elsewhere it is refused
  all_goals contradiction

end Parser

/-- **What the parser accepts has no two scalars in a row.** -/
theorem isChain_apart_of_foldlM {tokens : List Token} {parser last : Parser}
    (h : tokens.foldlM Parser.step? parser = some last) : tokens.IsChain Token.Apart := by
  induction tokens generalizing parser with
  | nil => exact .nil
  | cons first rest ih =>
    rw [List.foldlM_cons] at h
    obtain ⟨next, h_step, h_rest⟩ := Option.bind_eq_some_iff.mp h
    rw [List.isChain_cons]
    refine ⟨?_, ih h_rest⟩
    intro second h_second s t h_first h_scalar
    -- the parser would have to take both
    obtain ⟨more, rfl⟩ := List.head?_eq_some_iff.mp h_second
    rw [h_first] at h_step
    rw [h_scalar, List.foldlM_cons,
      Parser.step?_scalar_of_closed (Parser.closed_of_step?_scalar h_step) t] at h_rest
    cases h_rest

end FileProfile.Json
