import Calculator.Proofs.Lexer.Spacing
import Calculator.Proofs.Parser.Correspondence
import Calculator.Proofs.Parser.ShownToken

/-!
# White space does not matter

A source that is written again from the texts of its tokens, with other white space between them, is
read as the same tree, or refused for the same error at the token of the same index.
-/

namespace Calculator

/-! ## Errors about corresponding tokens -/

namespace ParseError

/-- An error about a token is placed there and shows it, or none. -/
theorem shows_about (error : ParseError) (token : Token) : (error.about token).Shows token := by
  refine ⟨error.position_about token, ?_⟩
  cases error <;> simp [about, token?]

/-- Errors are of one sort and show one text, each at its own token. -/
structure Agrees (error error' : ParseError) (token token' : Token) : Prop where
  kind : error'.kind = error.kind
  shows : error.Shows token
  shows' : error'.Shows token'
  text : error'.token?.map Token.text = error.token?.map Token.text

/-- One error about two tokens with one text. -/
theorem agrees_about
    (error : ParseError)
    {token token' : Token}
    (same : token'.text = token.text) :
    (error.about token).Agrees (error.about token') token token' where
  kind := by rw [kind_about, kind_about]
  shows := error.shows_about token
  shows' := error.shows_about token'
  text := by cases error <;> simp [about, token?, same]

end ParseError

/-! ## Tokens of the same index -/

/-- Two tokens have the same index in two lists. -/
def Token.Abreast (tokens others : List Token) (token other : Token) : Prop :=
  ∃ index : Nat, tokens[index]? = some token ∧ others[index]? = some other

section Abreast

variable {tokens others : List Token} {token other : Token}

/-- Tokens of the same index have one kind and one text when the lists have the same ones. -/
theorem Token.Abreast.content_eq
    (same : others.map Token.content = tokens.map Token.content)
    (abreast : Abreast tokens others token other) :
    other.content = token.content := by
  obtain ⟨index, first, second⟩ := abreast
  have contents := congrArg (·[index]?) same
  simpa [first, second] using contents

/-- Tokens of the same kinds and texts correspond in a variable that keeps its name. -/
theorem corresponding_abreast
    {variableName : String}
    (unreserved : variableName ∉ reservedNames)
    (same : others.map Token.content = tokens.map Token.content) :
    Corresponding variableName variableName (Token.Abreast tokens others) where
  unreserved := unreserved
  unreserved' := unreserved
  kind abreast := congrArg Prod.fst (abreast.content_eq same)
  text abreast _ := congrArg Prod.snd (abreast.content_eq same)
  word := by
    intro token token' abreast _
    have text : token'.text = token.text := congrArg Prod.snd (abreast.content_eq same)
    rw [text]
    by_cases isVariable : token.text = variableName
    · exact .inl ⟨isVariable, isVariable⟩
    · exact .inr ⟨isVariable, isVariable, rfl⟩

/-- The words before the end of input are abreast one by one, and so are the ends. -/
theorem forall₂_abreast
    {words words' : List Token}
    (lengths : words'.length = words.length)
    (finish finish' : Token) :
    List.Forall₂ (Token.Abreast (words ++ [finish]) (words' ++ [finish'])) words words' ∧
      Token.Abreast (words ++ [finish]) (words' ++ [finish']) finish finish' := by
  constructor
  · refine List.forall₂_iff_get.mpr ⟨lengths.symm, fun index within within' => ⟨index, ?_, ?_⟩⟩
    · simp [List.getElem?_append_left within]
    · simp [List.getElem?_append_left within']
  · exact ⟨words.length, by simp, by simp [← lengths]⟩

end Abreast

namespace Expression

variable {α : Type} [Elementary α]

/-- Tokens of the same kinds and texts are read as one tree, or refused for errors of one sort that
show one text at tokens of the same index. -/
theorem parse_of_same_content
    {source source' variableName : String}
    {declared : Value}
    {tokens others : List Token}
    (usable : Variable.check declared = .ok variableName)
    (scanned : Lexer.tokens source = .ok tokens)
    (scanned' : Lexer.tokens source' = .ok others)
    (same : others.map Token.content = tokens.map Token.content) :
    (∃ tree : Tree α, Parser.parse variableName tokens = .ok tree ∧
        Parser.parse variableName others = .ok tree) ∨
      ∃ error error' token token',
        Parser.parse (α := α) variableName tokens = .error (.grammar error) ∧
          Parser.parse (α := α) variableName others = .error (.grammar error') ∧
          Token.Abreast tokens others token token' ∧ error.Agrees error' token token' := by
  obtain ⟨-, -, unreserved⟩ := Variable.check_eq_ok_iff.mp usable
  have corresponding := corresponding_abreast unreserved same
  obtain ⟨words, areTokens, covers⟩ := Lexer.exists_covers scanned
  obtain ⟨words', areOthers, -⟩ := Lexer.exists_covers scanned'
  have lengths : words'.length = words.length := by
    simpa [areTokens, areOthers] using congrArg List.length same
  have abreast := forall₂_abreast lengths (Token.finish source.length) (Token.finish source'.length)
  rw [← areTokens, ← areOthers] at abreast
  have related := Parser.related_parse (α := α) corresponding
    (fun word present => covers.kind_ne present) abreast.1 rfl abreast.2
  rw [← areTokens, ← areOthers] at related
  rcases related.ok_or_error with
    ⟨tree, tree', read, read', renamed⟩ | ⟨failure, failure', refused, refused', failures⟩
  · rw [tree.renamed_self] at renamed
    exact .inl ⟨tree, read, renamed ▸ read'⟩
  · obtain ⟨error, rfl⟩ := exists_error_of_parse usable scanned refused
    cases failures with
    | @grammar error token token' isAbreast =>
        have text : token'.text = token.text := congrArg Prod.snd (isAbreast.content_eq same)
        exact .inr ⟨_, _, token, token', refused, refused', isAbreast, error.agrees_about text⟩

/-- A source and what its tokens are written as again have tokens of the same kinds and texts. In a
usable variable they compile to the same tree, or neither does, for errors of one sort that show one
text at tokens of the same index. -/
theorem compile_respaced
    (α : Type)
    [Elementary α]
    {source respaced : String}
    {tokens : List Token}
    (scanned : Lexer.tokens source = .ok tokens)
    (respaces : Lexer.Respaces tokens respaced) :
    ∃ others, Lexer.tokens respaced = .ok others ∧
      others.map Token.content = tokens.map Token.content ∧
      ∀ variableName, Variable.check (.text variableName) = .ok variableName →
        (∃ expression expression' : Expression α,
          compile source (.text variableName) = .ok expression ∧
            compile respaced (.text variableName) = .ok expression' ∧
            expression'.root = expression.root) ∨
        ∃ error error' token token',
          compile (α := α) source (.text variableName) = .error (.parse (.grammar error)) ∧
            compile (α := α) respaced (.text variableName) = .error (.parse (.grammar error')) ∧
            Token.Abreast tokens others token token' ∧ error.Agrees error' token token' := by
  obtain ⟨others, scanned', same⟩ := Lexer.tokens_of_respaces scanned respaces
  refine ⟨others, scanned', same, fun variableName usable => ?_⟩
  rcases parse_of_same_content (α := α) usable scanned scanned' same with
    ⟨tree, read, read'⟩ | ⟨error, error', token, token', refused, refused', abreast, agrees⟩
  · left
    exact ⟨_, _,
      compile_eq_ok_iff.mpr ⟨tokens, variableName, tree, scanned, usable, read, rfl⟩,
      compile_eq_ok_iff.mpr ⟨others, variableName, tree, scanned', usable, read', rfl⟩, rfl⟩
  · right
    exact ⟨error, error', token, token', compile_of_parse_error scanned usable refused,
      compile_of_parse_error scanned' usable refused', abreast, agrees⟩

/-- A point that begins a number right behind an exponent begins it behind white space as well. -/
theorem compile_respaced_point :
    ∃ others error,
      Lexer.tokens " 1e5\t.5" = .ok others ∧
        others.map Token.content = [(.number, "1e5"), (.number, ".5"), (.finish, "")] ∧
        compile (α := Float) " 1e5\t.5" (.text "x") = .error (.parse (.grammar error)) ∧
        error.kind = .trailingTokens ∧ error.token?.map Token.text = some ".5" := by
  have scanned : Lexer.tokens "1e5.5" =
      .ok [⟨.number, "1e5", 0⟩, ⟨.number, ".5", 3⟩, .finish 5] := rfl
  have blank : Lexer.AllBlank [' '] := by simp [Lexer.AllBlank]; decide
  have spaced : Lexer.Spaced ["1e5", ".5"]
      ("1e5".toList ++ (['\t'] ++ (".5".toList ++ ([] ++ [])))) :=
    .text (by simp [Lexer.AllBlank]; decide) (fun _ => List.cons_ne_nil _ _)
      (.text nofun (absurd rfl) .done)
  have respaces : Lexer.Respaces [⟨.number, "1e5", 0⟩, ⟨.number, ".5", 3⟩, .finish 5] " 1e5\t.5" :=
    ⟨[' '], _, rfl, blank, spaced⟩
  have usable : Variable.check (.text "x") = .ok "x" := rfl
  have refused : compile (α := Float) "1e5.5" (.text "x") =
      .error (.parse (.grammar (.trailing ⟨.number, ".5", 3⟩))) :=
    compile_of_parse_error scanned usable (by rfl)
  obtain ⟨others, scanned', same, read⟩ := compile_respaced Float scanned respaces
  rcases read "x" usable with
    ⟨expression, -, compiled, -⟩ | ⟨error, error', token, token', refused', failed, -, agrees⟩
  · cases refused.symm.trans compiled
  · cases refused.symm.trans refused'
    exact ⟨others, error', scanned', same, failed, agrees.kind, agrees.text⟩

end Expression

end Calculator
