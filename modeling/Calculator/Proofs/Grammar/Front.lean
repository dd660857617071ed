import Calculator.Proofs.Grammar.Unambiguity

/-!
# Fronts of derivations

Which tokens begin a derivation of a nonterminal, and which tokens have a derivation
at their front that nothing extends. The first is shown by completing the tokens,
the second is decided production by production, since the grammar is unambiguous.
-/

namespace Calculator
namespace Grammar

variable {variableName : String}

/-! ## Building derivations -/

/-- The links of a chain with one more at their end. -/
def Links.append :
    {precedence : Precedence} → Links variableName precedence →
    OperatorToken precedence.symbols → Derivation variableName precedence.operand →
    Links variableName precedence
  | _, .done, sign, operand => .link sign operand .done
  | _, .link first between links, sign, operand => .link first between (links.append sign operand)

theorem Links.yield_append :
    {precedence : Precedence} → (links : Links variableName precedence) →
    (sign : OperatorToken precedence.symbols) →
    (operand : Derivation variableName precedence.operand) →
    (links.append sign operand).yield = links.yield ++ sign.val :: operand.yield
  | _, .done, sign, operand => by simp [append, yield]
  | _, .link first between links, sign, operand => by
      simp [append, yield, links.yield_append sign operand]

/-- A chain with one more operand. -/
def Derivation.link {precedence : Precedence} :
    Derivation variableName (.level precedence) → OperatorToken precedence.symbols →
    Derivation variableName precedence.operand → Derivation variableName (.level precedence)
  | .chain first links, sign, operand => .chain first (links.append sign operand)

theorem Derivation.yield_link
    {precedence : Precedence}
    (left : Derivation variableName (.level precedence))
    (sign : OperatorToken precedence.symbols)
    (operand : Derivation variableName precedence.operand) :
    (left.link sign operand).yield = left.yield ++ sign.val :: operand.yield := by
  cases left with
  | chain first links =>
      simp [link, yield, links.yield_append sign operand]

/-- Every nonterminal derives something, a number at least. -/
theorem exists_derivation (nonterminal : Nonterminal) :
    Nonempty (Derivation variableName nonterminal) := by
  have unary : Derivation variableName .unary :=
    .unsigned (.plain (.number ⟨⟨.number, "1", 0⟩, rfl⟩))
  have product : Derivation variableName (.level .multiplicative) := .chain unary .done
  cases nonterminal with
  | level precedence =>
      cases precedence with
      | additive => exact ⟨.chain product .done⟩
      | multiplicative => exact ⟨product⟩
  | unary => exact ⟨unary⟩
  | power => exact ⟨.plain (.number ⟨⟨.number, "1", 0⟩, rfl⟩)⟩
  | primary => exact ⟨.number ⟨⟨.number, "1", 0⟩, rfl⟩⟩

/-- The tokens that open a group: a parenthesis, behind the name of a function if it
belongs to one. -/
inductive Opening : List Token → Token → Option String → Prop
  | group (opener : TokenOf .opener) : Opening [opener.val] opener.val none
  | call
      (word : TokenOf .identifier)
      (meaning : Function)
      (named : word.val.text = meaning.name)
      (opener : TokenOf .opener) :
      Opening [word.val, opener.val] opener.val (some word.val.text)

/-- The parenthesis of an opening is one of its tokens. -/
theorem Opening.opener_mem
    {lead : List Token}
    {opener : Token}
    {function : Option String}
    (opening : Opening lead opener function) :
    opener ∈ lead := by
  cases opening with
  | group opener => exact List.mem_singleton_self _
  | call word meaning named opener => exact List.mem_cons_of_mem _ (List.mem_singleton_self _)

/-- A group with its opening is a primary. -/
theorem Opening.exists_primary
    {lead : List Token}
    {opener : Token}
    {function : Option String}
    (opening : Opening lead opener function)
    (body : Derivation variableName (.level .additive))
    (closer : TokenOf .closer) :
    ∃ derivation : Derivation variableName .primary,
      derivation.yield = lead ++ (body.yield ++ [closer.val]) := by
  cases opening with
  | group opener => exact ⟨.group opener body closer, rfl⟩
  | call word meaning named opener => exact ⟨.call word meaning named opener body closer, rfl⟩

/-! ## Tokens that begin a derivation -/

/-- The tokens begin a derivation of a nonterminal. -/
def Begins (variableName : String) (nonterminal : Nonterminal) (front : List Token) : Prop :=
  ∃ (derivation : Derivation variableName nonterminal) (rest : List Token),
    derivation.yield = front ++ rest

theorem Derivation.begins
    {nonterminal : Nonterminal}
    (derivation : Derivation variableName nonterminal) :
    Begins variableName nonterminal derivation.yield :=
  ⟨derivation, [], (List.append_nil _).symm⟩

theorem begins_nil (nonterminal : Nonterminal) : Begins variableName nonterminal [] := by
  have derivable : Nonempty (Derivation variableName nonterminal) := exists_derivation nonterminal
  obtain ⟨derivation⟩ := derivable
  exact ⟨derivation, derivation.yield, rfl⟩

namespace Begins

variable {front : List Token}

theorem level
    {precedence : Precedence}
    (begins : Begins variableName precedence.operand front) :
    Begins variableName (.level precedence) front := by
  obtain ⟨operand, rest, yields⟩ := begins
  exact ⟨.chain operand .done, rest, by simp [Derivation.yield, Links.yield, yields]⟩

theorem link
    {precedence : Precedence}
    (left : Derivation variableName (.level precedence))
    (sign : OperatorToken precedence.symbols)
    (begins : Begins variableName precedence.operand front) :
    Begins variableName (.level precedence) (left.yield ++ sign.val :: front) := by
  obtain ⟨operand, rest, yields⟩ := begins
  exact ⟨left.link sign operand, rest, by simp [left.yield_link, yields]⟩

theorem signed
    (sign : OperatorToken ["-", "+"])
    (begins : Begins variableName .unary front) :
    Begins variableName .unary (sign.val :: front) := by
  obtain ⟨operand, rest, yields⟩ := begins
  exact ⟨.signed sign operand, rest, by simp [Derivation.yield, yields]⟩

theorem unsigned
    (begins : Begins variableName .power front) :
    Begins variableName .unary front := by
  obtain ⟨operand, rest, yields⟩ := begins
  exact ⟨.unsigned operand, rest, yields⟩

theorem base
    (begins : Begins variableName .primary front) :
    Begins variableName .power front := by
  obtain ⟨base, rest, yields⟩ := begins
  exact ⟨.plain base, rest, yields⟩

theorem exponent
    (base : Derivation variableName .primary)
    (caret : OperatorToken ["^"])
    (begins : Begins variableName .unary front) :
    Begins variableName .power (base.yield ++ caret.val :: front) := by
  obtain ⟨exponent, rest, yields⟩ := begins
  exact ⟨.raised base caret exponent, rest, by simp [Derivation.yield, yields]⟩

theorem inside
    {lead : List Token}
    {opener : Token}
    {function : Option String}
    (opening : Opening lead opener function)
    (begins : Begins variableName (.level .additive) front) :
    Begins variableName .primary (lead ++ front) := by
  obtain ⟨body, rest, yields⟩ := begins
  obtain ⟨derivation, closes⟩ := opening.exists_primary body ⟨⟨.closer, ")", 0⟩, rfl⟩
  exact ⟨derivation, rest ++ [⟨.closer, ")", 0⟩], by simp [closes, yields]⟩

end Begins

/-! ## Tokens with a derivation at their front -/

/-- A derivation of a nonterminal stands at the front of the tokens and nothing after
it extends it. -/
def HasFront (variableName : String) (nonterminal : Nonterminal) (tokens : List Token) : Prop :=
  ∃ (derivation : Derivation variableName nonterminal) (rest : List Token),
    Stops nonterminal.continuations rest ∧ derivation.yield ++ rest = tokens

/-- A derivation with no more than some levels of nesting stands at the front of the
tokens and nothing after it extends it. -/
def HasFrontWithin (variableName : String) (nonterminal : Nonterminal) (depth : Nat)
    (tokens : List Token) : Prop :=
  ∃ (derivation : Derivation variableName nonterminal) (rest : List Token),
    derivation.nesting ≤ depth ∧ Stops nonterminal.continuations rest ∧
      derivation.yield ++ rest = tokens

theorem hasFront_iff
    {nonterminal : Nonterminal}
    {tokens : List Token} :
    HasFront variableName nonterminal tokens ↔
      ∃ depth, HasFrontWithin variableName nonterminal depth tokens := by
  constructor
  · rintro ⟨derivation, rest, stops, equal⟩
    exact ⟨derivation.nesting, derivation, rest, Nat.le_refl _, stops, equal⟩
  · rintro ⟨depth, derivation, rest, -, stops, equal⟩
    exact ⟨derivation, rest, stops, equal⟩

/-- The links of a chain end where the operand before an operator does. -/
theorem Links.stops_sign
    {precedence : Precedence}
    (links : Links variableName precedence)
    (sign : OperatorToken precedence.symbols)
    (rest : List Token) :
    Stops precedence.operand.continuations (links.yield ++ sign.val :: rest) := by
  cases links with
  | done => exact Precedence.stops_operand sign rest
  | link first operand links => exact Precedence.stops_operand first _

/-- Links that go on after other links go on with an operand. -/
theorem Links.hasFrontWithin_operand (unreserved : variableName ∉ reservedNames) :
    {precedence : Precedence} → (links longer : Links variableName precedence) →
    (sign : OperatorToken precedence.symbols) → {tokens rest : List Token} →
    {depth : Nat} → longer.nesting ≤ depth →
    Stops (Nonterminal.level precedence).continuations rest →
    longer.yield ++ rest = links.yield ++ sign.val :: tokens →
    HasFrontWithin variableName precedence.operand depth tokens
  | _, .done, .done, sign, tokens, rest, depth, within, stops, equal => by
      have follows : rest = sign.val :: tokens := equal
      rw [follows] at stops
      exact absurd stops (Precedence.not_stops sign _)
  | _, .done, .link sign' operand longer, sign, tokens, rest, depth, within, stops, equal => by
      simp only [Links.yield, List.cons_append, List.nil_append, List.append_assoc,
        List.cons.injEq] at equal
      exact ⟨operand, longer.yield ++ rest, (Nat.max_le.mp within).1, longer.stops stops, equal.2⟩
  | _, .link between operand links, .done, sign, tokens, rest, depth, within, stops, equal => by
      have follows : rest = between.val :: ((operand.yield ++ links.yield) ++ sign.val :: tokens) :=
        equal
      rw [follows] at stops
      exact absurd stops (Precedence.not_stops between _)
  | _, .link between operand links, .link between' operand' longer, sign, tokens, rest,
      depth, within, stops, equal => by
      simp only [Links.yield, List.append_assoc, List.cons_append, List.cons.injEq] at equal
      obtain ⟨rfl, restEqual⟩ := operand'.eq_of_yield_append_eq unreserved operand
        (longer.stops stops) (links.stops_sign sign tokens) equal.2
      exact links.hasFrontWithin_operand unreserved longer sign (Nat.max_le.mp within).2 stops
        restEqual

namespace HasFrontWithin

variable {tokens : List Token} {depth : Nat}

/-- A level begins with an operand. -/
theorem operand
    {precedence : Precedence}
    (front : HasFrontWithin variableName (.level precedence) depth tokens) :
    HasFrontWithin variableName precedence.operand depth tokens := by
  obtain ⟨derivation, rest, within, stops, rfl⟩ := front
  cases derivation with
  | chain first links =>
      exact ⟨first, links.yield ++ rest, (Nat.max_le.mp within).1, links.stops stops, by
        simp [Derivation.yield]⟩

/-- Behind an operator of a level stands an operand. -/
theorem link
    (unreserved : variableName ∉ reservedNames)
    {precedence : Precedence}
    {left : Derivation variableName (.level precedence)}
    {sign : OperatorToken precedence.symbols}
    (front : HasFrontWithin variableName (.level precedence) depth
      (left.yield ++ sign.val :: tokens)) :
    HasFrontWithin variableName precedence.operand depth tokens := by
  obtain ⟨derivation, rest, within, stops, equal⟩ := front
  cases left with
  | chain first links =>
      cases derivation with
      | chain first' longer =>
          simp only [Derivation.yield, List.append_assoc] at equal
          obtain ⟨rfl, linksEqual⟩ := first'.eq_of_yield_append_eq unreserved first
            (longer.stops stops) (links.stops_sign sign tokens) equal
          exact links.hasFrontWithin_operand unreserved longer sign (Nat.max_le.mp within).2 stops
            linksEqual

/-- Behind a sign stands its operand, one level deeper. -/
theorem signed
    (unreserved : variableName ∉ reservedNames)
    {sign : OperatorToken ["-", "+"]}
    (front : HasFrontWithin variableName .unary depth (sign.val :: tokens)) :
    0 < depth ∧ HasFrontWithin variableName .unary (depth - 1) tokens := by
  obtain ⟨derivation, rest, within, stops, equal⟩ := front
  cases derivation with
  | signed sign' operand =>
      rw [Derivation.nesting] at within
      exact ⟨by omega, operand, rest, by omega, stops, (List.cons.inj equal).2⟩
  | unsigned operand =>
      exact absurd equal.symm (Derivation.signed_ne_unsigned unreserved sign operand)

theorem unsigned
    (noSign : Stops ["-", "+"] tokens)
    (front : HasFrontWithin variableName .unary depth tokens) :
    HasFrontWithin variableName .power depth tokens := by
  obtain ⟨derivation, rest, within, stops, rfl⟩ := front
  cases derivation with
  | signed sign operand =>
      have other : sign.val.isOperator ["-", "+"] = false := (stops_cons _ _ _).mp noSign
      rw [sign.property] at other
      cases other
  | unsigned operand => exact ⟨operand, rest, within, stops, rfl⟩

/-- A power begins with its base. -/
theorem base
    (front : HasFrontWithin variableName .power depth tokens) :
    HasFrontWithin variableName .primary depth tokens := by
  obtain ⟨derivation, rest, within, stops, rfl⟩ := front
  cases derivation with
  | raised base caret exponent =>
      exact ⟨base, caret.val :: (exponent.yield ++ rest), (Nat.max_le.mp within).1,
        stops_primary _, by simp [Derivation.yield]⟩
  | plain base => exact ⟨base, rest, within, stops_primary _, rfl⟩

/-- Behind the operator of a power stands its exponent, one level deeper. -/
theorem exponent
    (unreserved : variableName ∉ reservedNames)
    {base : Derivation variableName .primary}
    {caret : OperatorToken ["^"]}
    (front : HasFrontWithin variableName .power depth (base.yield ++ caret.val :: tokens)) :
    0 < depth ∧ HasFrontWithin variableName .unary (depth - 1) tokens := by
  obtain ⟨derivation, rest, within, stops, equal⟩ := front
  cases derivation with
  | raised base' caret' exponent =>
      rw [Derivation.nesting] at within
      simp only [Derivation.yield, List.append_assoc, List.cons_append] at equal
      obtain ⟨rfl, caretsEqual⟩ := base'.eq_of_yield_append_eq unreserved base
        (stops_primary _) (stops_primary _) equal
      exact ⟨by omega, exponent, rest, by omega, stops, (List.cons.inj caretsEqual).2⟩
  | plain base' =>
      obtain ⟨rfl, caretEqual⟩ := base'.eq_of_yield_append_eq unreserved base
        (stops_primary _) (stops_primary _) equal
      rw [caretEqual] at stops
      exact absurd stops (not_stops_caret caret _)

/-- The first token tells the form of a primary. -/
theorem exists_lead
    (unreserved : variableName ∉ reservedNames)
    {token : Token}
    (front : HasFrontWithin variableName .primary depth (token :: tokens)) :
    ∃ (derivation : Derivation variableName .primary) (rest : List Token),
      derivation.nesting ≤ depth ∧ derivation.yield ++ rest = token :: tokens ∧
        derivation.lead = Lead.ofToken token := by
  obtain ⟨derivation, rest, within, -, equal⟩ := front
  obtain ⟨head, tail, yields, -, leads⟩ := derivation.exists_head unreserved
  refine ⟨derivation, rest, within, equal, ?_⟩
  rw [yields] at equal
  rw [leads, (List.cons.inj equal).1]

/-- A group goes on with a sum, one level deeper, and a parenthesis that closes. -/
theorem inside
    (unreserved : variableName ∉ reservedNames)
    {lead : List Token}
    {opener : Token}
    {function : Option String}
    (opening : Opening lead opener function)
    (front : HasFrontWithin variableName .primary depth (lead ++ tokens)) :
    0 < depth ∧
      ∃ (body : Derivation variableName (.level .additive)) (closer : TokenOf .closer)
        (rest : List Token), body.nesting ≤ depth - 1 ∧
          body.yield ++ closer.val :: rest = tokens := by
  cases opening with
  | group opener =>
      obtain ⟨derivation, rest, within, equal, leads⟩ := front.exists_lead unreserved
      rw [Lead.ofToken, opener.property] at leads
      cases derivation with
      | group _ body closer =>
          rw [Derivation.nesting] at within
          refine ⟨by omega, body, closer, rest, by omega, ?_⟩
          simpa [Derivation.yield] using (List.cons.inj equal).2
      | _ => cases leads
  | call word meaning named opener =>
      obtain ⟨derivation, rest, within, equal, leads⟩ := front.exists_lead unreserved
      simp only [Lead.ofToken, word.property, named, Constant.ofName?_functionName,
        Function.ofName?_name] at leads
      cases derivation with
      | call _ _ _ _ argument closer =>
          rw [Derivation.nesting] at within
          refine ⟨by omega, argument, closer, rest, by omega, ?_⟩
          simpa [Derivation.yield] using (List.cons.inj (List.cons.inj equal).2).2
      | _ => cases leads

end HasFrontWithin

namespace HasFront

variable {tokens : List Token}

theorem operand
    {precedence : Precedence}
    (front : HasFront variableName (.level precedence) tokens) :
    HasFront variableName precedence.operand tokens := by
  obtain ⟨depth, front⟩ := hasFront_iff.mp front
  exact hasFront_iff.mpr ⟨depth, front.operand⟩

theorem link
    (unreserved : variableName ∉ reservedNames)
    {precedence : Precedence}
    {left : Derivation variableName (.level precedence)}
    {sign : OperatorToken precedence.symbols}
    (front : HasFront variableName (.level precedence) (left.yield ++ sign.val :: tokens)) :
    HasFront variableName precedence.operand tokens := by
  obtain ⟨depth, front⟩ := hasFront_iff.mp front
  exact hasFront_iff.mpr ⟨depth, front.link unreserved⟩

theorem signed
    (unreserved : variableName ∉ reservedNames)
    {sign : OperatorToken ["-", "+"]}
    (front : HasFront variableName .unary (sign.val :: tokens)) :
    HasFront variableName .unary tokens := by
  obtain ⟨depth, front⟩ := hasFront_iff.mp front
  exact hasFront_iff.mpr ⟨depth - 1, (front.signed unreserved).2⟩

theorem unsigned
    (noSign : Stops ["-", "+"] tokens)
    (front : HasFront variableName .unary tokens) :
    HasFront variableName .power tokens := by
  obtain ⟨depth, front⟩ := hasFront_iff.mp front
  exact hasFront_iff.mpr ⟨depth, front.unsigned noSign⟩

theorem base
    (front : HasFront variableName .power tokens) :
    HasFront variableName .primary tokens := by
  obtain ⟨depth, front⟩ := hasFront_iff.mp front
  exact hasFront_iff.mpr ⟨depth, front.base⟩

theorem exponent
    (unreserved : variableName ∉ reservedNames)
    {base : Derivation variableName .primary}
    {caret : OperatorToken ["^"]}
    (front : HasFront variableName .power (base.yield ++ caret.val :: tokens)) :
    HasFront variableName .unary tokens := by
  obtain ⟨depth, front⟩ := hasFront_iff.mp front
  exact hasFront_iff.mpr ⟨depth - 1, (front.exponent unreserved).2⟩

theorem inside
    (unreserved : variableName ∉ reservedNames)
    {lead : List Token}
    {opener : Token}
    {function : Option String}
    (opening : Opening lead opener function)
    (front : HasFront variableName .primary (lead ++ tokens)) :
    ∃ (body : Derivation variableName (.level .additive)) (closer : TokenOf .closer)
      (rest : List Token), body.yield ++ closer.val :: rest = tokens := by
  obtain ⟨depth, front⟩ := hasFront_iff.mp front
  obtain ⟨-, body, closer, rest, -, equal⟩ := front.inside unreserved opening
  exact ⟨body, closer, rest, equal⟩

/-- A primary begins with a number, a parenthesis or a word that has a meaning, and
behind the name of a function stands a parenthesis. -/
theorem head
    {token : Token}
    (front : HasFront variableName .primary (token :: tokens)) :
    token.kind = .number ∨ token.kind = .opener ∨
      (token.kind = .identifier ∧
        ((∃ constant : Constant, token.text = constant.name) ∨ token.text = variableName ∨
          ∃ function : Function, token.text = function.name ∧
            ∃ opener ∈ tokens.head?, opener.kind = .opener)) := by
  obtain ⟨derivation, rest, -, equal⟩ := front
  cases derivation with
  | number number =>
      obtain ⟨rfl, -⟩ := List.cons.inj equal
      exact Or.inl number.property
  | constant word meaning named =>
      obtain ⟨rfl, -⟩ := List.cons.inj equal
      exact Or.inr (Or.inr ⟨word.property, Or.inl ⟨meaning, named⟩⟩)
  | symbol word named =>
      obtain ⟨rfl, -⟩ := List.cons.inj equal
      exact Or.inr (Or.inr ⟨word.property, Or.inr (Or.inl named)⟩)
  | call word meaning named opener argument closer =>
      obtain ⟨rfl, rfl⟩ := List.cons.inj equal
      exact Or.inr (Or.inr ⟨word.property,
        Or.inr (Or.inr ⟨meaning, named, opener.val, rfl, opener.property⟩)⟩)
  | group opener body closer =>
      obtain ⟨rfl, -⟩ := List.cons.inj equal
      exact Or.inr (Or.inl opener.property)

/-- A word that begins a primary has a meaning, and behind the name of a function stands
a parenthesis. -/
theorem known_word
    {word : TokenOf .identifier}
    (front : HasFront variableName .primary (word.val :: tokens)) :
    (∃ constant : Constant, word.val.text = constant.name) ∨ word.val.text = variableName ∨
      ∃ function : Function, word.val.text = function.name ∧
        ∃ opener ∈ tokens.head?, opener.kind = .opener := by
  rcases front.head with isNumber | isOpener | ⟨-, known⟩
  · rw [word.property] at isNumber
    cases isNumber
  · rw [word.property] at isOpener
    cases isOpener
  · exact known

/-- Behind the name of a function stands a parenthesis. -/
theorem exists_opener
    (unreserved : variableName ∉ reservedNames)
    {word : TokenOf .identifier}
    {meaning : Function}
    (named : word.val.text = meaning.name)
    (front : HasFront variableName .primary (word.val :: tokens)) :
    ∃ opener ∈ tokens.head?, opener.kind = .opener := by
  rcases front.known_word with ⟨constant, sameName⟩ | isVariable | ⟨-, -, opens⟩
  · have found := Constant.ofName?_eq_some_iff.mpr sameName
    rw [named, Constant.ofName?_functionName] at found
    cases found
  · exact absurd (isVariable ▸ named ▸ meaning.name_mem_reservedNames) unreserved
  · exact opens

/-- Behind the longest sum in a group stands a parenthesis that closes. -/
theorem closes
    (unreserved : variableName ∉ reservedNames)
    {lead : List Token}
    {opener token : Token}
    {function : Option String}
    (opening : Opening lead opener function)
    {body : Derivation variableName (.level .additive)}
    (stops : Stops (Nonterminal.level .additive).continuations (token :: tokens))
    (front : HasFront variableName .primary (lead ++ (body.yield ++ token :: tokens))) :
    token.kind = .closer := by
  obtain ⟨body', closer, behind, equal⟩ := front.inside unreserved opening
  obtain ⟨-, closerEqual⟩ :=
    body'.eq_of_yield_append_eq unreserved body (stops_closer closer _ _) stops equal
  obtain ⟨rfl, -⟩ := List.cons.inj closerEqual
  exact closer.property

end HasFront

end Grammar
end Calculator
